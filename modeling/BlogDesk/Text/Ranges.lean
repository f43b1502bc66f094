/-!
# Tables of code points as text

A table of code points is written as hexadecimal words, `a` for one code point
and `a-b` for a range with both ends. A sequence of characters is one word, its
code points joined by full stops.
-/

namespace BlogDesk.Text

instance (priority := 2000) hashableChar : Hashable Char := instHashableChar

def hexValue? (c : Char) : Option Nat :=
  if '0' ≤ c ∧ c ≤ '9' then some (c.toNat - '0'.toNat)
  else if 'a' ≤ c ∧ c ≤ 'f' then some (c.toNat - 'a'.toNat + 10)
  else if 'A' ≤ c ∧ c ≤ 'F' then some (c.toNat - 'A'.toNat + 10)
  else none

def hexDigit (n : Nat) : Char :=
  if n < 10 then Char.ofNat ('0'.toNat + n) else Char.ofNat ('a'.toNat + n - 10)

def parseHex (digits : List Char) : Nat :=
  digits.foldl (fun n c => match hexValue? c with | some d => 16 * n + d | none => n) 0

def words (text : List Char) : List (List Char) :=
  (text.splitOn ' ').filter (· ≠ [])

def parseRange (word : List Char) : Nat × Nat :=
  match word.splitOn '-' with
  | [low, high] => (parseHex low, parseHex high)
  | _ => (parseHex word, parseHex word)

def parseRanges (lines : List String) : Array (Nat × Nat) :=
  (lines.flatMap fun line => (words line.toList).map parseRange).toArray

def isAmong (c : Char) (ranges : Array (Nat × Nat)) : Bool :=
  ranges.any fun range => range.1 ≤ c.toNat && c.toNat ≤ range.2

def rangeChars (range : Nat × Nat) : List Char :=
  (List.range (range.2 + 1 - range.1)).map fun offset => Char.ofNat (range.1 + offset)

def parseChars (lines : List String) : List Char :=
  (parseRanges lines).toList.flatMap rangeChars

def parseChar (word : List Char) : Char := Char.ofNat (parseHex word)

def parseSequence (word : List Char) : List Char := (word.splitOn '.').map parseChar

end BlogDesk.Text
