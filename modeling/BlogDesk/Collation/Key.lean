import BlogDesk.Collation.Contractions
import BlogDesk.Collation.Equivalents
import BlogDesk.Collation.Expansions
import BlogDesk.Collation.Rules
import BlogDesk.Text.Decomposition

/-!
# Collation keys

Texts are compared by the places of their letters, and where these agree by
their accents; the case of letters does not count. The comparison is that of
two lists of numbers made once for each text, so it is a total preorder.
-/

namespace BlogDesk.Collation

open Text (combiningClass decompose)

def rootElements (c : Char) : List Element :=
  match alphabet[c]?, equivalents[c]?, expansions[c]?, markPlaces[c]? with
  | some number, _, _, _ => [.letter number 0]
  | none, some base, _, _ => [.letter (place base) 0]
  | none, none, some elements, _ => elements
  | none, none, none, some number => [.mark number]
  | none, none, none, none => if ignorable.contains c then [] else [.letter (place c) 0]

def root : Rules where
  elementsOf := rootElements
  contraction? := fun chars => contractions[chars]?
  longest := longestContraction
  standsExchanged := standsExchanged
  markClass := combiningClass

/-- All places, then all accents; a letter counts among the accents too. -/
structure Key where
  letters : List Nat
  accents : List Nat
deriving DecidableEq, Repr

instance : Ord Key := ⟨compareLex (compareOn Key.letters) (compareOn Key.accents)⟩

instance : Std.TransOrd Key :=
  inferInstanceAs (Std.TransCmp (compareLex (compareOn Key.letters) (compareOn Key.accents)))

def Key.ofElements (elements : List Element) : Key :=
  ⟨elements.filterMap Element.primary?, elements.map Element.secondary⟩

def key (text : String) : Key := .ofElements (root.elements (decompose text.toList))

end BlogDesk.Collation
