/-!
# HTTP as data

Requests and responses as plain values; whoever holds a connection carries them
out. Every endpoint of the service is a `POST`, so a request has no method.
-/

namespace BlogDesk

abbrev Headers := List (String × String)

/-- Header names and media types ignore the case of ASCII letters only. -/
def sameIgnoringCase (a b : String) : Bool := a.toList.map Char.toLower == b.toList.map Char.toLower

def Headers.value? (headers : Headers) (name : String) : Option String :=
  (headers.find? fun header => sameIgnoringCase header.1 name).map (·.2)

def Headers.values (headers : Headers) (name : String) : List String :=
  (headers.filter fun header => sameIgnoringCase header.1 name).map (·.2)

structure Request where
  path : String
  headers : Headers := []
  body : Option String := none
deriving DecidableEq, Repr

structure Response where
  status : Nat
  headers : Headers := []
  body : String := ""
deriving DecidableEq, Repr

def isSuccess (status : Nat) : Bool := 200 ≤ status && status < 300

def Response.isSuccess (response : Response) : Bool := BlogDesk.isSuccess response.status

end BlogDesk
