import BlogDesk.Text.Search

/-!
# Failures of calls

A call fails once and is not retried. The message is shown to the visitor as it
is. A refusal by the service for lack of a session is told by its text, wherever
in the message that stands.
-/

namespace BlogDesk

def authenticationRequired : String := "This method requires authentication"

inductive CallFailure where
  /-- No response came. -/
  | transport (reason : String)
  | loginFailed (status : Nat)
  | logoutFailed (status : Nat)
  | invalidStatus (status : Nat)
  /-- The service took the call and refused it. -/
  | refused (method message : String)
  | deserialization (reason : String)
  | serialization (reason : String)
deriving DecidableEq, Repr

namespace CallFailure

def lacksSession (message : String) : Bool :=
  Text.occursIn authenticationRequired.toList message.toList

def isAuthenticationRequired : CallFailure → Bool
  | refused _ message => lacksSession message
  | _ => false

def message : CallFailure → String
  | transport reason => "Request failed: " ++ reason
  | loginFailed status => "Login request failed with status " ++ toString status
  | logoutFailed status => "Logout request failed with status " ++ toString status
  | invalidStatus status => "Invalid response code: " ++ toString status
  | refused method message => "RPC Error (" ++ method ++ "): " ++ message
  | deserialization reason => "deserialization failed: " ++ reason
  | serialization reason => "serialization failed: " ++ reason

end CallFailure

inductive EditFailure where
  /-- The list was not loaded when the edit's turn came. -/
  | invalidBaseState
  | call (failure : CallFailure)
deriving DecidableEq, Repr

def EditFailure.message : EditFailure → String
  | invalidBaseState => "Invalid base state"
  | call failure => failure.message

end BlogDesk
