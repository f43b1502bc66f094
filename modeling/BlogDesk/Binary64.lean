/-!
# Finite binary floating point

A value is `± significand * 2 ^ exponent` with at most 53 binary digits and an
exponent from -1074 to 971. `nearest` rounds a quotient of natural numbers to
the closest such value, halfway cases to the even significand; products and
quotients are exact quotients rounded once.
-/

namespace BlogDesk

structure Binary64 where
  negative : Bool
  significand : Nat
  exponent : Int
deriving DecidableEq, Repr

namespace Binary64

def minExponent : Int := -1074
def maxExponent : Int := 971

def ratio (x : Binary64) : Nat × Nat :=
  if 0 ≤ x.exponent then (x.significand * Nat.pow 2 x.exponent.toNat, 1)
  else (x.significand, Nat.pow 2 (-x.exponent).toNat)

def divideToEven (num den : Nat) : Nat :=
  let q := num / den
  let twice := 2 * (num % den)
  if twice < den then q
  else if twice = den then q + q % 2
  else q + 1

def scaled (num den : Nat) (exponent : Int) : Nat :=
  if 0 ≤ exponent then divideToEven num (den * Nat.pow 2 exponent.toNat)
  else divideToEven (num * Nat.pow 2 (-exponent).toNat) den

/-- The exponent at which `num / den` has 53 binary digits, or the least one. -/
def exponentFor (num den : Nat) : Int :=
  let guess : Int := (Nat.log2 num : Int) - (Nat.log2 den : Int) - 52
  let short :=
    if 0 ≤ guess then num / (den * Nat.pow 2 guess.toNat)
    else num * Nat.pow 2 (-guess).toNat / den
  max (if short < Nat.pow 2 52 then guess - 1 else guess) minExponent

/-- `none` when the rounded value is out of range. -/
def nearest? (negative : Bool) (num den : Nat) : Option Binary64 :=
  if num = 0 then some ⟨negative, 0, minExponent⟩
  else
    let exponent := exponentFor num den
    let significand := scaled num den exponent
    let (significand, exponent) :=
      if significand = Nat.pow 2 53 then (Nat.pow 2 52, exponent + 1) else (significand, exponent)
    if maxExponent < exponent then none else some ⟨negative, significand, exponent⟩

def zero (negative : Bool) : Binary64 := ⟨negative, 0, minExponent⟩

def isZero (x : Binary64) : Bool := x.significand == 0

def ofNat? (negative : Bool) (n : Nat) : Option Binary64 := nearest? negative n 1

def powerOfTen? (k : Nat) : Option Binary64 := ofNat? false (Nat.pow 10 k)

def mul? (x y : Binary64) : Option Binary64 :=
  nearest? (x.negative != y.negative) (x.ratio.1 * y.ratio.1) (x.ratio.2 * y.ratio.2)

def div? (x y : Binary64) : Option Binary64 :=
  nearest? (x.negative != y.negative) (x.ratio.1 * y.ratio.2) (x.ratio.2 * y.ratio.1)

end Binary64

end BlogDesk
