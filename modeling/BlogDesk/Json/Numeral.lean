import BlogDesk.Json.Cursor

/-!
# Numbers in JSON text

Digits are gathered into a significand of 64 bits. Digits that no longer fit
are dropped: before the point each raises the exponent by one, behind it they
change nothing. A number with a point or an exponent, or too large for an
integer, is the double nearest to the significand, scaled by a power of ten in
one more rounding.
-/

namespace BlogDesk.Json

def maxSignificand : Nat := Nat.pow 2 64 - 1

/-- A significand and the power of ten it is to be scaled by. -/
structure Scaled where
  significand : Nat
  exponent : Int

/-- Digits before the point; from the first that does not fit all are dropped. -/
def gatherWhole : Scaled → List Nat → Scaled
  | s, [] => s
  | s, d :: rest =>
    if s.exponent = 0 ∧ 10 * s.significand + d ≤ maxSignificand then
      gatherWhole ⟨10 * s.significand + d, 0⟩ rest
    else gatherWhole ⟨s.significand, s.exponent + 1⟩ rest

/-- Digits behind the point; from the first that does not fit all are ignored. -/
def gatherFraction : Scaled → List Nat → Scaled
  | s, [] => s
  | s, d :: rest =>
    if 10 * s.significand + d ≤ maxSignificand then
      gatherFraction ⟨10 * s.significand + d, s.exponent - 1⟩ rest
    else s

/-- Divides by `10 ^ 308` until the exponent is in reach of one division. -/
def scaleDown (x : Binary64) (power : Nat) : Option Binary64 :=
  if power ≤ 308 then do x.div? (← Binary64.powerOfTen? power)
  else if x.isZero then some x
  else do scaleDown (← x.div? (← Binary64.powerOfTen? 308)) (power - 308)
termination_by power

def Scaled.toBinary64? (s : Scaled) : Option Binary64 := do
  let x ← Binary64.ofNat? false s.significand
  if 0 ≤ s.exponent then
    if s.exponent ≤ 308 then x.mul? (← Binary64.powerOfTen? s.exponent.toNat)
    else if x.isZero then some x
    else none
  else scaleDown x (-s.exponent).toNat

def maxExponentDigits : Nat := Nat.pow 2 31 - 1

/-- An exponent's value, or how many of its digits were read when it passed the
largest one. -/
def gatherExponent : Nat → Nat → List Nat → Except Nat Nat
  | value, _, [] => .ok value
  | value, read, d :: rest =>
    if 10 * value + d ≤ maxExponentDigits then gatherExponent (10 * value + d) (read + 1) rest
    else .error (read + 1)

namespace Cursor

def someDigits (c : Cursor) : Except Fault (List Nat × Cursor) :=
  match c.digits with
  | ([], _) =>
    match c.rest with
    | [] => .error (c.faultHere .endInValue)
    | _ :: _ => .error (c.faultNext .invalidNumber)
  | (digits, c) => .ok (digits, c)

def wholeDigits (c : Cursor) : Except Fault (List Nat × Cursor) := do
  let (digits, after) ← c.someDigits
  match digits with
  | 0 :: _ :: _ => .error (c.advance.faultNext .invalidNumber)
  | _ => .ok (digits, after)

def fractionDigits (c : Cursor) : Except Fault (List Nat × Cursor) :=
  match c.digits with
  | ([], _) =>
    .error (c.faultNext (match c.rest with | [] => .endInValue | _ :: _ => .invalidNumber))
  | (digits, c) => .ok (digits, c)

def exponentSign (c : Cursor) : Bool × Cursor :=
  match c.rest with
  | '+' :: _ => (false, c.advance)
  | '-' :: _ => (true, c.advance)
  | _ => (false, c)

def real (c : Cursor) (negative : Bool) (s : Scaled) : Except Fault (Number × Cursor) :=
  match s.toBinary64? with
  | some x => .ok (.real { x with negative := negative }, c)
  | none => .error (c.faultHere .numberOutOfRange)

def exponent (c : Cursor) (negative : Bool) (s : Scaled) : Except Fault (Number × Cursor) := do
  let (minus, start) := c.exponentSign
  let (digits, c) ← start.someDigits
  match gatherExponent 0 0 digits with
  | .ok value =>
    c.real negative ⟨s.significand, if minus then s.exponent - value else s.exponent + value⟩
  | .error read =>
    if s.significand ≠ 0 ∧ !minus then
      .error ⟨.numberOutOfRange, some (start.position.afterBytes read start.rest)⟩
    else .ok (.real (.zero negative), c)

def exponentOrEnd (c : Cursor) (negative : Bool) (s : Scaled) : Except Fault (Number × Cursor) :=
  match c.rest with
  | 'e' :: _ => c.advance.exponent negative s
  | 'E' :: _ => c.advance.exponent negative s
  | _ => c.real negative s

/-- The double of an integer below zero that has no place among the 64-bit ones. -/
def wholeNumber (negative : Bool) (n : Nat) : Option Number :=
  if !negative then some (.integer n)
  else if 0 < n ∧ n ≤ Nat.pow 2 63 then some (.integer (-n))
  else (Binary64.ofNat? true n).map .real

def number (c : Cursor) (negative : Bool) : Except Fault (Number × Cursor) := do
  let (digits, c) ← c.wholeDigits
  let s := gatherWhole ⟨0, 0⟩ digits
  match c.rest with
  | '.' :: _ => do
    let (digits, c) ← c.advance.fractionDigits
    c.exponentOrEnd negative (gatherFraction s digits)
  | 'e' :: _ => c.advance.exponent negative s
  | 'E' :: _ => c.advance.exponent negative s
  | _ =>
    match if s.exponent = 0 then wholeNumber negative s.significand else none with
    | some number => .ok (number, c)
    | none => c.real negative s

-- ---- Numbers that are skipped

/-- Like a number that is read, but the end of the text counts as a wrong digit. -/
def skipNumber (c : Cursor) : Except Fault Cursor := do
  let digit (c : Cursor) : Except Fault Cursor :=
    match c.digits with
    | ([], _) => .error (c.faultNext .invalidNumber)
    | (_, c) => .ok c
  let afterWhole ← match c.digits with
    | ([], _) => .error (c.faultNext .invalidNumber)
    | (0 :: _ :: _, _) => .error (c.advance.faultNext .invalidNumber)
    | (_, c) => .ok c
  let afterFraction ← match afterWhole.rest with
    | '.' :: _ => digit afterWhole.advance
    | _ => .ok afterWhole
  match afterFraction.rest with
  | 'e' :: _ => digit afterFraction.advance.exponentSign.2
  | 'E' :: _ => digit afterFraction.advance.exponentSign.2
  | _ => .ok afterFraction

end Cursor

end BlogDesk.Json
