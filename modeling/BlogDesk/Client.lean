import BlogDesk.Form
import BlogDesk.Http
import BlogDesk.Rpc

/-!
# Requests and their answers

A client knows the service's base address and the id of its next call; it touches
no network. Building a call uses up one id. Login and logout are plain form
endpoints, every other operation is a call posted to the base address itself.
Handles that are cloned from one another share the sequence of their ids.
-/

namespace BlogDesk

structure Client where
  baseUrl : String
  nextId : Nat
deriving DecidableEq, Repr

namespace Client

/-- Slashes at the end of the address do not count. -/
def ofBase (base : String) : Client := ⟨String.ofList (Text.dropTrailing '/' base.toList), 1⟩

-- ---- Requests

def loginRequest (client : Client) (credentials : Credentials) : Request where
  path := client.baseUrl ++ "/login"
  headers := [("content-type", "application/x-www-form-urlencoded")]
  body := some <| Form.encode
    [("username", credentials.username), ("password", credentials.password)]

def logoutRequest (client : Client) : Request where
  path := client.baseUrl ++ "/logout"

def callRequest (client : Client) (method : String) (params : List Json) : Request where
  path := client.baseUrl ++ "/"
  headers := [("content-type", "application/json")]
  body := some (Call.layout.write ⟨toString client.nextId, method, params⟩)

def afterCall (client : Client) : Client := { client with nextId := client.nextId + 1 }

end Client

/-- The operations of the service that are calls, with what they are about. -/
inductive Operation where
  | whoami
  | register (user : NewUser)
  | listBlogs
  | createBlog (blog : Blog)
  | updateBlog (blog : Blog)
  | deleteBlog (slug : String)
deriving DecidableEq, Repr

namespace Operation

def method : Operation → Method
  | whoami => .whoami
  | register _ => .register
  | listBlogs => .listBlogs
  | createBlog _ => .createBlog
  | updateBlog _ => .updateBlog
  | deleteBlog _ => .deleteBlog

def params : Operation → List Json
  | whoami | listBlogs => []
  | register user => [NewUser.layout.toJson user]
  | createBlog blog | updateBlog blog => [Blog.layout.toJson blog]
  | deleteBlog slug => [SlugArgs.layout.toJson ⟨slug⟩]

end Operation

def Client.request (client : Client) (operation : Operation) : Request :=
  client.callRequest operation.method.name operation.params

-- ---- Handles that share a sequence of ids

/-- A client's address, and the sequence that the ids of its calls are taken from. -/
structure Handle where
  baseUrl : String
  sequence : Nat
deriving DecidableEq, Repr

structure Handles where
  /-- The next id of each sequence. -/
  nextIds : List Nat := []
  all : List Handle := []
  /-- What was built, in order, with the sequence of the handle that built it. -/
  built : List (Nat × Request) := []

inductive Handles.Use where
  | create (base : String)
  | clone (place : Nat)
  | call (place : Nat) (method : String) (params : List Json)
  | login (place : Nat) (credentials : Credentials)
  | logout (place : Nat)
  /-- An answer is read, which takes nothing from the handle. -/
  | read (place : Nat) (response : Response)

namespace Handles

def client? (handles : Handles) (place : Nat) : Option (Nat × Client) := do
  let handle ← handles.all[place]?
  let nextId ← handles.nextIds[handle.sequence]?
  some (handle.sequence, ⟨handle.baseUrl, nextId⟩)

def build (handles : Handles) (place : Nat) (next : Client → Client) (request : Client → Request) :
    Handles :=
  match handles.client? place with
  | none => handles
  | some (sequence, client) =>
    { handles with
      nextIds := handles.nextIds.set sequence (next client).nextId
      built := handles.built ++ [(sequence, request client)] }

/-- A clone takes its ids from the same sequence. -/
def use (handles : Handles) : Use → Handles
  | .create base =>
    let client := Client.ofBase base
    { handles with
      nextIds := handles.nextIds ++ [client.nextId]
      all := handles.all ++ [⟨client.baseUrl, handles.nextIds.length⟩] }
  | .clone place => { handles with all := handles.all ++ handles.all[place]?.toList }
  | .call place method params =>
    handles.build place (·.afterCall) (·.callRequest method params)
  | .login place credentials => handles.build place id (·.loginRequest credentials)
  | .logout place => handles.build place id (·.logoutRequest)
  | .read _ _ => handles

def useAll (handles : Handles) (uses : List Use) : Handles := uses.foldl use handles

end Handles

-- ---- Answers

namespace Response

/-- Whether the credentials were accepted; a 401 is an answer and no failure. -/
def loginAccepted (response : Response) : Except CallFailure Bool :=
  if response.status = 401 then .ok false
  else if response.isSuccess then .ok true
  else .error (.loginFailed response.status)

def logoutDone (response : Response) : Except CallFailure Unit :=
  if response.isSuccess then .ok () else .error (.logoutFailed response.status)

def callResult (response : Response) (method : String) : Except CallFailure Json :=
  if response.status ≠ 200 then .error (.invalidStatus response.status)
  else match Answer.layout.read response.body with
    | .error fault => .error (.deserialization fault.message)
    | .ok answer => match answer.errorMessage? with
      | some message => .error (.refused method message)
      | none => .ok answer.result

def callResultAs {α : Type} (response : Response) (method : String)
    (decode : Json → Except Json.Cause α) : Except CallFailure α := do
  let result ← response.callResult method
  match decode result with
  | .ok a => .ok a
  | .error cause => .error (.deserialization cause.message)

def acknowledged (response : Response) (method : String) : Except CallFailure Unit := do
  let _ ← response.callResult method
  .ok ()

def user (response : Response) : Except CallFailure User :=
  response.callResultAs Method.whoami.name User.layout.ofJson

/-- The service answers null for a user without blogs. -/
def optionalBlogs (result : Json) : Except Json.Cause (Option (List Blog)) :=
  match result with
  | .null => .ok none
  | other => (Blog.layout.listOfJson other).map some

def blogs? (response : Response) : Except CallFailure (Option (List Blog)) :=
  response.callResultAs Method.listBlogs.name optionalBlogs

end Response

end BlogDesk
