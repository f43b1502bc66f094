import BlogDesk.Rpc
import BlogDesk.Server.Refusal

/-!
# What the service keeps

Accounts by username, each with its blogs by slug, and sessions by id. The
operations on them take typed arguments and the username of the caller's
session; `dispatch` reads a call's parameter for them. An operation that fails
yields no new backend, so nothing is changed.
-/

namespace BlogDesk.Server

structure Account where
  password : String
  displayName : Option String
  /-- Display names by slug. -/
  blogs : List (String × Option String)
deriving DecidableEq, Repr

def Account.blogList (account : Account) : List Blog :=
  account.blogs.map fun (slug, displayName) => ⟨slug, displayName⟩

structure Backend where
  accounts : List (String × Account) := []
  sessions : List (String × String) := []
deriving DecidableEq, Repr

namespace Backend

-- ---- Accounts and sessions

def caller (backend : Backend) (session : Option String) : Except Refusal (String × Account) :=
  match session with
  | none => .error .authenticationRequired
  | some username =>
    match Keyed.find? username backend.accounts with
    | none => .error .userMissing
    | some account => .ok (username, account)

def putAccount (backend : Backend) (username : String) (account : Account) : Backend :=
  { backend with accounts := Keyed.insert username account backend.accounts }

def accepts (backend : Backend) (credentials : Credentials) : Bool :=
  match Keyed.find? credentials.username backend.accounts with
  | some account => account.password == credentials.password
  | none => false

def openSession (backend : Backend) (id username : String) : Backend :=
  { backend with sessions := Keyed.insert id username backend.sessions }

def closeSession (backend : Backend) (id : String) : Backend :=
  { backend with sessions := Keyed.erase id backend.sessions }

def sessionUser? (backend : Backend) (id : String) : Option String :=
  Keyed.find? id backend.sessions

-- ---- Operations

def createUser (backend : Backend) (user : NewUser) : Except Refusal Backend :=
  if user.username = "" then .error .usernameEmpty
  else if user.password = "" then .error .passwordEmpty
  else if Keyed.contains user.username backend.accounts then .error .userExists
  else .ok (backend.putAccount user.username ⟨user.password, user.displayName, []⟩)

def whoami (backend : Backend) (session : Option String) : Except Refusal User := do
  let (username, account) ← backend.caller session
  .ok ⟨username, account.displayName⟩

def listBlogs (backend : Backend) (session : Option String) : Except Refusal (List Blog) := do
  let (_, account) ← backend.caller session
  .ok account.blogList

def storeBlog (backend : Backend) (username : String) (account : Account) (blog : Blog) : Backend :=
  backend.putAccount username
    { account with blogs := Keyed.insert blog.slug blog.displayName account.blogs }

def createBlog (backend : Backend) (session : Option String) (blog : Blog) :
    Except Refusal Backend := do
  if blog.slug = "" then .error .slugEmpty
  else
    let (username, account) ← backend.caller session
    if Keyed.contains blog.slug account.blogs then .error .blogExists
    else .ok (backend.storeBlog username account blog)

def updateBlog (backend : Backend) (session : Option String) (blog : Blog) :
    Except Refusal Backend := do
  if blog.slug = "" then .error .slugEmpty
  else
    let (username, account) ← backend.caller session
    .ok (backend.storeBlog username account blog)

def deleteBlog (backend : Backend) (session : Option String) (slug : String) :
    Except Refusal Backend := do
  let (username, account) ← backend.caller session
  if Keyed.contains slug account.blogs then
    .ok (backend.putAccount username { account with blogs := Keyed.erase slug account.blogs })
  else .error .blogMissing

-- ---- Calls

/-- A parameter that is absent or null is as wrong as one of another shape. -/
def readParam {α : Type} (layout : Json.Layout α) (param : Json) : Except Refusal α :=
  if param.isNull then .error .invalidParameters
  else match layout.ofJson param with
    | .ok a => .ok a
    | .error _ => .error .invalidParameters

def done (backend : Backend) : Json × Backend := (.object [], backend)

def blogsResult : List Blog → Json
  | [] => .null
  | blogs => .array (blogs.map Blog.layout.toJson)

def dispatch (backend : Backend) (session : Option String) (method : String) (param : Json) :
    Except Refusal (Json × Backend) :=
  match Method.ofName? method with
  | none => .error (.unknownMethod method)
  | some .register => do
    let user ← readParam NewUser.lenientLayout param
    done <$> backend.createUser user
  | some .whoami => do
    let user ← backend.whoami session
    .ok (User.layout.toJson user, backend)
  | some .listBlogs => do
    let blogs ← backend.listBlogs session
    .ok (blogsResult blogs, backend)
  | some .createBlog => do
    let blog ← readParam Blog.lenientLayout param
    done <$> backend.createBlog session blog
  | some .updateBlog => do
    let blog ← readParam Blog.lenientLayout param
    done <$> backend.updateBlog session blog
  | some .deleteBlog => do
    let args ← readParam SlugArgs.lenientLayout param
    done <$> backend.deleteBlog session args.slug

end Backend

end BlogDesk.Server
