import BlogDesk.Failure

/-!
# Why the service refuses a call
-/

namespace BlogDesk.Server

inductive Refusal where
  | authenticationRequired
  | invalidParameters
  | userExists
  | userMissing
  | usernameEmpty
  | passwordEmpty
  | blogExists
  | blogMissing
  | slugEmpty
  | unknownMethod (name : String)
deriving DecidableEq, Repr

def Refusal.message : Refusal → String
  | authenticationRequired => BlogDesk.authenticationRequired
  | invalidParameters => "Invalid parameters"
  | userExists => "User already exists"
  | userMissing => "User does not exist"
  | usernameEmpty => "Username cannot be empty"
  | passwordEmpty => "Password cannot be empty"
  | blogExists => "A blog with this slug already exists"
  | blogMissing => "Blog does not exist"
  | slugEmpty => "Blog slug cannot be empty"
  | unknownMethod name => "rpc: can't find method \"" ++ name ++ "\""

end BlogDesk.Server
