import BlogDesk.Server.Router

/-!
# Writing in place

The operations and requests of the service once more, as work on the backend as it stands:
what was written before a refusal stays written. A blog is taken out before anybody looks
whether it was there, and a session is opened before its cookie is known to fit a header.
-/

namespace BlogDesk.Server.InPlace

open Backend (readParam)

/-- What was written before a refusal stays written. -/
abbrev Work (α : Type) := ExceptT Refusal (StateM Backend) α

def Work.on {α : Type} (work : Work α) (backend : Backend) : Except Refusal α × Backend :=
  StateT.run (ExceptT.run work) backend

-- ---- Operations

def createUser (user : NewUser) : Work Unit :=
  if user.username = "" then throw .usernameEmpty
  else if user.password = "" then throw .passwordEmpty
  else do
    let backend ← get
    if Keyed.contains user.username backend.accounts then throw .userExists
    else set (backend.putAccount user.username ⟨user.password, user.displayName, []⟩)

def changeBlogs (username : String)
    (f : List (String × Option String) → List (String × Option String)) : Work Unit := do
  let backend ← get
  set { backend with
    accounts := Keyed.adjust username (fun account => { account with blogs := f account.blogs })
      backend.accounts }

def caller (session : Option String) : Work (String × Account) := do
  let backend ← get
  MonadExcept.ofExcept (backend.caller session)

def createBlog (session : Option String) (blog : Blog) : Work Unit :=
  if blog.slug = "" then throw .slugEmpty
  else do
    let (username, account) ← caller session
    if Keyed.contains blog.slug account.blogs then throw .blogExists
    else changeBlogs username (Keyed.insert blog.slug blog.displayName)

def updateBlog (session : Option String) (blog : Blog) : Work Unit :=
  if blog.slug = "" then throw .slugEmpty
  else do
    let (username, _) ← caller session
    changeBlogs username (Keyed.insert blog.slug blog.displayName)

/-- The blog is taken out first. What was taken out tells whether there was one. -/
def deleteBlog (session : Option String) (slug : String) : Work Unit := do
  let (username, account) ← caller session
  changeBlogs username (Keyed.erase slug)
  if Keyed.contains slug account.blogs then pure () else throw .blogMissing

def dispatch (session : Option String) (method : String) (param : Json) : Work Json :=
  match Method.ofName? method with
  | none => throw (.unknownMethod method)
  | some .register => do
    let user ← MonadExcept.ofExcept (readParam NewUser.lenientLayout param)
    createUser user
    pure (.object [])
  | some .whoami => do
    let backend ← get
    let user ← MonadExcept.ofExcept (backend.whoami session)
    pure (User.layout.toJson user)
  | some .listBlogs => do
    let backend ← get
    let blogs ← MonadExcept.ofExcept (backend.listBlogs session)
    pure (Backend.blogsResult blogs)
  | some .createBlog => do
    let blog ← MonadExcept.ofExcept (readParam Blog.lenientLayout param)
    createBlog session blog
    pure (.object [])
  | some .updateBlog => do
    let blog ← MonadExcept.ofExcept (readParam Blog.lenientLayout param)
    updateBlog session blog
    pure (.object [])
  | some .deleteBlog => do
    let args ← MonadExcept.ofExcept (readParam SlugArgs.lenientLayout param)
    deleteBlog session args.slug
    pure (.object [])

-- ---- Requests

/-- What a header may hold: no control characters but the tabulator. -/
def isHeaderText (value : String) : Bool :=
  value.toList.all fun c => (' ' ≤ c && c != '\x7f') || c == '\t'

/-- The session is opened before its cookie is known to fit a header. -/
def login (ids : Nat → String) (request : Incoming) : StateM Service Response :=
  if !MediaType.isForm request.headers then pure { status := 415 }
  else match formCredentials? request.body with
    | none => pure { status := 422 }
    | some credentials => do
      let service ← get
      if service.backend.accepts credentials then
        let id := ids service.issued
        set (⟨service.backend.openSession id credentials.username, service.issued + 1⟩ : Service)
        if isHeaderText (grantCookie id) then
          pure { status := 200, headers := [("set-cookie", grantCookie id)] }
        else pure { status := 500 }
      else pure { status := 401 }

/-- The session is closed first. What was closed tells whether there was one. -/
def logout (request : Incoming) : StateM Service Response :=
  match sessionCookie? request.headers with
  | none => pure { status := 401 }
  | some id => do
    let service ← get
    set { service with backend := service.backend.closeSession id }
    match service.backend.sessionUser? id with
    | none => pure { status := 401 }
    | some _ => pure { status := 200, headers := [("set-cookie", resetCookie)] }

def replyTo (id : Json) : Except Refusal Json → Reply
  | .ok result => ⟨id, result, .null⟩
  | .error refusal => ⟨id, .null, .str refusal.message⟩

def respond (id : Json) (outcome : Except Refusal Json) : Response where
  status := 200
  headers := [("content-type", "application/json")]
  body := Reply.layout.write (replyTo id outcome)

def answer (request : Incoming) (call : LenientCall) : StateM Service Response := do
  let service ← get
  let (outcome, backend) := (dispatch (service.backend.session request.headers) call.method
    (call.params.head?.getD .null)).on service.backend
  set { service with backend }
  pure (respond call.id outcome)

def call (request : Incoming) : StateM Service Response :=
  if !MediaType.isJson request.headers then pure { status := 415 }
  else match LenientCall.layout.read request.body with
    | .error fault => pure { status := if fault.cause.isShape then 422 else 400 }
    | .ok call => answer request call

def handle (ids : Nat → String) (request : Incoming) : StateM Service Response :=
  match Endpoint.ofPath? request.path with
  | none => pure { status := 404 }
  | some endpoint =>
    if request.method ≠ "POST" then pure { status := 405 }
    else match endpoint with
      | .login => login ids request
      | .logout => logout request
      | .calls => call request

end BlogDesk.Server.InPlace
