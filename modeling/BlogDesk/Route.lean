import BlogDesk.Store.State
import BlogDesk.Text.Search

/-!
# Routes of the console

A path, without its query, names at most one route; slashes at its end do not
count. Routes that need a user send visitors without one to the login page,
which remembers the path they were headed for.
-/

namespace BlogDesk

inductive Route where
  | login (returnTo : Option String)
  | register
  | home
  | createBlog
  | editBlog (slug : String)
deriving DecidableEq, Repr

namespace Route

/-- The slug of a path that edits a blog: not empty, and without a slash. -/
def editedSlug? (path : List Char) : Option (List Char) :=
  if "/edit/".toList.isPrefixOf path then
    let slug := path.drop "/edit/".length
    if slug ≠ [] ∧ '/' ∉ slug then some slug else none
  else none

def parse? (path : String) : Option Route :=
  let path := Text.dropTrailing '/' path.toList
  if path = [] then some .home
  else if path = "/login".toList then some (.login none)
  else if path = "/register".toList then some .register
  else if path = "/create".toList then some .createBlog
  else (editedSlug? path).map fun slug => .editBlog (String.ofList slug)

def name : Route → String
  | login _ => "login"
  | register => "register"
  | home => "home"
  | createBlog => "createBlog"
  | editBlog _ => "editBlog"

def path : Route → String
  | login _ => "/login"
  | register => "/register"
  | home => "/"
  | createBlog => "/create"
  | editBlog slug => "/edit/" ++ slug

def requiresLogin : Route → Bool
  | home | createBlog | editBlog _ => true
  | login _ | register => false

end Route

inductive Navigation where
  | proceed
  | redirect (target : Route)
deriving DecidableEq, Repr

def State.guard (state : State) (target : Route) : Navigation :=
  if target.requiresLogin && !state.user.isLoaded then .redirect (.login (some target.path))
  else .proceed

end BlogDesk
