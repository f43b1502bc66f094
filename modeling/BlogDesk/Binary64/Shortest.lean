import BlogDesk.Binary64

/-!
# Shortest decimal digits

The decimal with the fewest digits among those that round to a given value, and
of these the closest to it. A decimal rounds to the value when it lies between
the midpoints to its two neighbours, midpoints included for an even significand.
-/

namespace BlogDesk.Binary64

/-- `digits * 10 ^ exponent`, the digits without trailing zeros. -/
structure Decimal where
  digits : Nat
  exponent : Int
deriving DecidableEq, Repr

/-- Four times the value, and the midpoints on both sides, over one denominator. -/
structure Interval where
  low : Nat
  value : Nat
  high : Nat
  den : Nat
  closed : Bool

/-- Below a power of two the neighbour is only half as far. -/
def interval (x : Binary64) : Interval :=
  let unit := x.exponent - 2
  let (up, den) := if 0 ≤ unit then (Nat.pow 2 unit.toNat, 1) else (1, Nat.pow 2 (-unit).toNat)
  let below :=
    if x.significand = Nat.pow 2 52 ∧ minExponent < x.exponent then 1 else 2
  { low := (4 * x.significand - below) * up
    value := 4 * x.significand * up
    high := (4 * x.significand + 2) * up
    den := den
    closed := x.significand % 2 = 0 }

def Interval.contains (i : Interval) (num den : Nat) : Bool :=
  let at_ := num * i.den
  if i.closed then i.low * den ≤ at_ && at_ ≤ i.high * den
  else i.low * den < at_ && at_ < i.high * den

def tenfold (n : Nat) (k : Int) : Nat × Nat :=
  if 0 ≤ k then (n * Nat.pow 10 k.toNat, 1) else (n, Nat.pow 10 (-k).toNat)

/-- The multiple of `10 ^ k` that rounds to the value, the closer of its two
neighbours on that grid when both do. -/
def Interval.onGrid? (i : Interval) (k : Int) : Option Nat :=
  let (num, den) :=
    if 0 ≤ k then (i.value, i.den * Nat.pow 10 k.toNat)
    else (i.value * Nat.pow 10 (-k).toNat, i.den)
  let floor := num / den
  let inside := fun n => let (a, b) := tenfold n k; i.contains a b
  match inside floor, inside (floor + 1) with
  | true, true => some (divideToEven num den)
  | true, false => some floor
  | false, true => some (floor + 1)
  | false, false => none

def leadingZeros : Nat → Nat → Nat → Nat
  | 0, _, _ => 0
  | fuel + 1, num, den => if den ≤ 10 * num then 0 else leadingZeros fuel (10 * num) den + 1

def magnitude (num den : Nat) : Int :=
  if den ≤ num then ((Nat.toDigits 10 (num / den)).length : Int)
  else -(leadingZeros 400 num den : Int)

def firstGrid (i : Interval) (top : Int) : Nat → Option Decimal
  | 0 => none
  | fuel + 1 =>
    let k := top - 1
    match i.onGrid? k with
    | some n => some ⟨n, k⟩
    | none => firstGrid i k fuel

def Decimal.trim (d : Decimal) : Nat → Decimal
  | 0 => d
  | fuel + 1 =>
    if d.digits % 10 = 0 ∧ d.digits ≠ 0 then Decimal.trim ⟨d.digits / 10, d.exponent + 1⟩ fuel else d

/-- Seventeen digits always tell a value from its neighbours. -/
def shortest (x : Binary64) : Decimal :=
  if x.isZero then ⟨0, 0⟩
  else
    let i := x.interval
    ((firstGrid i (magnitude i.value i.den) 17).getD ⟨0, 0⟩).trim 17

end BlogDesk.Binary64
