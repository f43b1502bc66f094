import BlogDesk.Form
import BlogDesk.Server.Backend
import BlogDesk.Server.MediaType

/-!
# Requests to the service

Three endpoints, all `POST`: login, logout and calls. A request is judged by
path, method, media type and body, in this order, before the backend is asked.
Session ids come from a supply; the service only counts how many it handed out.
-/

namespace BlogDesk.Server

structure Incoming where
  method : String := "POST"
  path : String
  headers : Headers := []
  body : String := ""
deriving DecidableEq, Repr

structure Service where
  backend : Backend := {}
  issued : Nat := 0
deriving DecidableEq, Repr

inductive Endpoint where
  | login
  | logout
  | calls
deriving DecidableEq, Repr

/-- Query and fragment do not count, everything else does. -/
def Endpoint.ofPath? (path : String) : Option Endpoint :=
  let bare := path.toList.takeWhile fun c => c != '?' && c != '#'
  if bare = "/api/login".toList then some .login
  else if bare = "/api/logout".toList then some .logout
  else if bare = "/api/".toList then some .calls
  else none

/-- A form is read as the object of its fields: a missing one is empty, none may be repeated. -/
def formCredentials? (body : String) : Option Credentials :=
  (Credentials.lenientLayout.ofJson
    (.object ((Form.decode body).map fun (name, value) => (name, .str value)))).toOption

def Backend.session (backend : Backend) (headers : Headers) : Option String :=
  (sessionCookie? headers).bind backend.sessionUser?

def Backend.reply (backend : Backend) (headers : Headers) (call : LenientCall) : Reply × Backend :=
  match backend.dispatch (backend.session headers) call.method (call.params.head?.getD .null) with
  | .ok (result, after) => (⟨call.id, result, .null⟩, after)
  | .error refusal => (⟨call.id, .null, .str refusal.message⟩, backend)

namespace Service

def refuse (service : Service) (status : Nat) : Response × Service := ({ status }, service)

def login (ids : Nat → String) (service : Service) (request : Incoming) : Response × Service :=
  if !MediaType.isForm request.headers then service.refuse 415
  else match formCredentials? request.body with
    | none => service.refuse 422
    | some credentials =>
      if service.backend.accepts credentials then
        let id := ids service.issued
        ({ status := 200, headers := [("set-cookie", grantCookie id)] },
          ⟨service.backend.openSession id credentials.username, service.issued + 1⟩)
      else service.refuse 401

def logout (service : Service) (request : Incoming) : Response × Service :=
  match sessionCookie? request.headers with
  | none => service.refuse 401
  | some id =>
    match service.backend.sessionUser? id with
    | none => service.refuse 401
    | some _ =>
      ({ status := 200, headers := [("set-cookie", resetCookie)] },
        { service with backend := service.backend.closeSession id })

def call (service : Service) (request : Incoming) : Response × Service :=
  if !MediaType.isJson request.headers then service.refuse 415
  else match LenientCall.layout.read request.body with
    | .error fault => service.refuse (if fault.cause.isShape then 422 else 400)
    | .ok call =>
      let (reply, backend) := service.backend.reply request.headers call
      ({ status := 200
         headers := [("content-type", "application/json")]
         body := Reply.layout.write reply },
        { service with backend })

def handle (ids : Nat → String) (service : Service) (request : Incoming) : Response × Service :=
  match Endpoint.ofPath? request.path with
  | none => service.refuse 404
  | some endpoint =>
    if request.method ≠ "POST" then service.refuse 405
    else match endpoint with
      | .login => service.login ids request
      | .logout => service.logout request
      | .calls => service.call request

end Service

end BlogDesk.Server
