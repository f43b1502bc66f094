import BlogDesk.Json.Layout

/-!
# Users on the wire

The console insists on the required fields; the service also takes a registration
whose fields are missing, and judges them itself.
-/

namespace BlogDesk

structure User where
  username : String
  displayName : Option String := none
deriving DecidableEq, Repr

structure NewUser where
  username : String
  password : String
  displayName : Option String := none
deriving DecidableEq, Repr

structure Credentials where
  username : String
  password : String
deriving DecidableEq, Repr

def NewUser.credentials (user : NewUser) : Credentials := ⟨user.username, user.password⟩

namespace Json.Field

def requiredText (key : String) : Field := ⟨key, .text, none⟩

def textOrEmpty (key : String) : Field := ⟨key, .text, some ""⟩

def optionalText (key : String) : Field := ⟨key, .optionalText, some none⟩

end Json.Field

open Json (Layout Field)

def User.layout : Layout User where
  name := "User"
  fields := [.requiredText "Username", .optionalText "DisplayName"]
  build := fun (username, displayName, _) => ⟨username, displayName⟩
  parts := fun user => (user.username, user.displayName, ())

def NewUser.layout : Layout NewUser where
  name := "UserWithPassword"
  fields := [.requiredText "Username", .requiredText "Password", .optionalText "DisplayName"]
  build := fun (username, password, displayName, _) => ⟨username, password, displayName⟩
  parts := fun user => (user.username, user.password, user.displayName, ())

def NewUser.lenientLayout : Layout NewUser where
  name := "NewUser"
  fields := [.textOrEmpty "Username", .textOrEmpty "Password", .optionalText "DisplayName"]
  build := fun (username, password, displayName, _) => ⟨username, password, displayName⟩
  parts := fun user => (user.username, user.password, user.displayName, ())

/-- Login credentials; unlike the others their keys are written in lower case. -/
def Credentials.lenientLayout : Layout Credentials where
  name := "LoginForm"
  fields := [.textOrEmpty "username", .textOrEmpty "password"]
  build := fun (username, password, _) => ⟨username, password⟩
  parts := fun credentials => (credentials.username, credentials.password, ())

end BlogDesk
