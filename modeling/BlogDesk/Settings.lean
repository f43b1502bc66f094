/-!
# Settings

The service's base address and an artificial delay of its calls, from named
variables. Empty and unreadable values give way to the defaults.
-/

namespace BlogDesk

structure Settings where
  apiUrl : String := "/api"
  delay : Nat := 0
deriving DecidableEq, Repr

namespace Settings

def maxDelay : Nat := Nat.pow 2 64 - 1

/-- A number of milliseconds: digits with at most one plus sign before them. -/
def parseDelay? (text : String) : Option Nat :=
  let digits := match text.toList with
    | '+' :: rest => rest
    | all => all
  if digits ≠ [] ∧ digits.all Char.isDigit then
    let value := digits.foldl (fun n d => 10 * n + (d.toNat - '0'.toNat)) 0
    if value ≤ maxDelay then some value else none
  else none

def ofLookup (lookup : String → Option String) : Settings where
  apiUrl := ((lookup "API_URL").filter (· ≠ "")).getD "/api"
  delay := ((lookup "API_DELAY_MS").bind parseDelay?).getD 0

end Settings

end BlogDesk
