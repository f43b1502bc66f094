import BlogDesk.Binary64
import BlogDesk.Keyed

/-!
# JSON values

Numbers keep apart integers of 64 bits and doubles. The members of a value that
was read stand in key order without repeats; `Json.ofMembers` builds such values.
-/

namespace BlogDesk

inductive Number where
  | integer (value : Int)
  | real (value : Binary64)
deriving DecidableEq, Repr

def Number.isZero : Number → Bool
  | .integer value => value == 0
  | .real value => value.isZero

inductive Json where
  | null
  | bool (value : Bool)
  | number (value : Number)
  | str (value : String)
  | array (items : List Json)
  | object (members : List (String × Json))

instance : Inhabited Json := ⟨.null⟩

def Json.ofMembers (members : List (String × Json)) : Json := .object (Keyed.ofList members)

def Json.isNull : Json → Bool
  | .null => true
  | _ => false

end BlogDesk
