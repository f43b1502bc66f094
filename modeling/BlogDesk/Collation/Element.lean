import BlogDesk.Collation.Alphabet
import BlogDesk.Collation.Marks
import BlogDesk.Text.Search

/-!
# Collation elements

What a character contributes to the comparison of texts, and how elements are
written in tables: `a` is the place of a character, `a!n` the `n`-th variant at
that place, and `+a` a mark.
-/

namespace BlogDesk.Collation

open Text (parseChar parseHex splitOnce?)

inductive Element where
  | letter (place : Nat) (variant : Nat)
  | mark (place : Nat)
deriving DecidableEq, Repr

/-- Variants are told apart at the second level only, below all marks. -/
def variantCount : Nat := 12

def Element.primary? : Element → Option Nat
  | .letter place _ => some place
  | .mark _ => none

def Element.secondary : Element → Nat
  | .letter _ variant => variant
  | .mark place => variantCount + 1 + place

def parseElement : List Char → Element
  | '+' :: mark => .mark (markPlaces.getD (parseChar mark) 0)
  | word =>
    match splitOnce? '!' word with
    | some (letter, variant) => .letter (place (parseChar letter)) (parseHex variant)
    | none => .letter (place (parseChar word)) 0

/-- Elements are joined by full stops. -/
def parseElements (word : List Char) : List Element := (word.splitOn '.').map parseElement

end BlogDesk.Collation
