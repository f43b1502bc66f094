import BlogDesk.Collation.Element

/-!
# Collation rules

How a decomposed text is divided into the units that are compared: single
characters, contractions, and vowel signs exchanged with their consonants.
-/

namespace BlogDesk.Collation

structure Rules where
  /-- The elements of a character that stands in no contraction. -/
  elementsOf : Char → List Element
  /-- The elements of a sequence that counts as a unit. -/
  contraction? : List Char → Option (List Element)
  /-- No contraction has more characters. -/
  longest : Nat
  /-- Whether the first character is sorted behind the second one. -/
  standsExchanged : Char → Char → Bool
  /-- Zero for characters that are no marks. -/
  markClass : Char → Nat

variable (rules : Rules)

def Rules.contractionLength (text : List Char) : Nat :=
  ((List.range (rules.longest + 1)).reverse.find? fun n =>
    1 < n && (rules.contraction? (text.take n)).isSome).getD 1

/-- Lengthens a contraction by the marks behind it that continue it. A mark left
where it is blocks those behind it that do not have a higher class. Gives the
characters contracted and those left. -/
def Rules.absorb (head : List Char) (barrier : Nat) : List Char → List Char × List Char
  | [] => (head, [])
  | c :: rest =>
    if rules.markClass c = 0 then (head, c :: rest)
    else if barrier < rules.markClass c ∧ (rules.contraction? (head ++ [c])).isSome then
      absorb (head ++ [c]) barrier rest
    else
      let (head, rest) := absorb head (max barrier (rules.markClass c)) rest
      (head, c :: rest)

theorem Rules.length_absorb_le (head : List Char) (barrier : Nat) (text : List Char) :
    (rules.absorb head barrier text).2.length ≤ text.length := by
  induction text generalizing head barrier with
  | nil => simp [absorb]
  | cons c rest ih =>
    unfold absorb
    split
    · simp
    · split
      · exact Nat.le_succ_of_le (ih _ _)
      · simpa using ih _ _

/-- The consonant that a vowel sign written first follows, and the text behind it. -/
def Rules.exchanged? (first : Char) : List Char → Option (Char × List Char)
  | second :: rest => if rules.standsExchanged first second then some (second, rest) else none
  | [] => none

theorem Rules.length_lt_of_exchanged {first second : Char} {text rest : List Char}
    (h : rules.exchanged? first text = some (second, rest)) : rest.length < text.length := by
  cases text with
  | nil => simp [exchanged?] at h
  | cons c tail =>
    simp only [exchanged?, Option.ite_none_right_eq_some, Option.some.injEq, Prod.mk.injEq] at h
    simp [← h.2.2]

def Rules.unit (first : Char) (rest : List Char) : List Element × List Char :=
  match rules.exchanged? first rest with
  | some (second, rest) => (rules.elementsOf second ++ rules.elementsOf first, rest)
  | none =>
    let more := rules.contractionLength (first :: rest) - 1
    let (head, rest) := rules.absorb (first :: rest.take more) 0 (rest.drop more)
    ((rules.contraction? head).getD (head.flatMap rules.elementsOf), rest)

theorem Rules.length_unit_le (first : Char) (rest : List Char) :
    (rules.unit first rest).2.length ≤ rest.length := by
  unfold unit
  split
  next h => exact Nat.le_of_lt (rules.length_lt_of_exchanged h)
  next => exact Nat.le_trans (rules.length_absorb_le ..) (by simp)

def Rules.elements : List Char → List Element
  | [] => []
  | first :: rest => (rules.unit first rest).1 ++ elements (rules.unit first rest).2
termination_by text => text.length
decreasing_by exact Nat.lt_succ_of_le (rules.length_unit_le first rest)

end BlogDesk.Collation
