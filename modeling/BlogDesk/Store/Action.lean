import BlogDesk.Client
import BlogDesk.Listing
import BlogDesk.Store.State

/-!
# Actions

Everything the store does over time is an action on one of its two slices. An
action ends with a result for whoever started it.
-/

namespace BlogDesk.Store

inductive Slice where
  | user
  | blogs
deriving DecidableEq, Repr

inductive UserAction where
  | register (user : NewUser)
  | login (credentials : Credentials)
  | logout
  | checkLogin
deriving DecidableEq, Repr

inductive Edit where
  | create (blog : Blog)
  /-- Replaces the blog of the same slug, or adds it. -/
  | edit (blog : Blog)
  | delete (slug : String)
deriving DecidableEq, Repr

inductive BlogAction where
  | load
  | change (edit : Edit)
deriving DecidableEq, Repr

inductive Action where
  | user (action : UserAction)
  | blogs (action : BlogAction)
deriving DecidableEq, Repr

def Action.slice : Action → Slice
  | user _ => .user
  | blogs _ => .blogs

namespace Edit

def operation : Edit → Operation
  | create blog => .createBlog blog
  | edit blog => .updateBlog blog
  | delete slug => .deleteBlog slug

/-- The list after the edit, before it is put in order. -/
def apply (list : List Blog) : Edit → List Blog
  | create blog => list ++ [blog]
  | edit blog => list.filter (·.slug ≠ blog.slug) ++ [blog]
  | delete slug => list.filter (·.slug ≠ slug)

end Edit

-- ---- Results

def invalidCredentials : String := "Invalid username and/or password"

inductive LoginOutcome where
  | loggedIn (user : User)
  | notLoggedIn
  | invalidCredentials
  | failed (cause : CallFailure)
deriving DecidableEq, Repr

def LoginOutcome.shown : LoginOutcome → Loadable User
  | loggedIn user => .loaded user
  | notLoggedIn => .uninitialized
  | invalidCredentials => .error Store.invalidCredentials
  | failed cause => .error cause.message

inductive RegisterOutcome where
  /-- The account exists; the login that followed may have failed. -/
  | registered (login : LoginOutcome)
  | failed (cause : CallFailure)
deriving DecidableEq, Repr

inductive Result where
  | register (outcome : RegisterOutcome)
  | login (outcome : LoginOutcome)
  | logout (outcome : Except CallFailure Unit)
  | load (outcome : Except CallFailure Unit)
  | edit (outcome : Except EditFailure Unit)

def loginResult (registering : Bool) (outcome : LoginOutcome) : Result :=
  if registering then .register (.registered outcome) else .login outcome

end BlogDesk.Store
