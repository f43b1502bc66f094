import BlogDesk.Json.Numeral

/-!
# Reading and skipping JSON text

`readValue` builds a value and refuses text nested deeper than `maxDepth`.
`skipValue` only looks at the shape of the text: it takes any depth, any size of
number and surrogates without a partner. Both stop at the first fault.

Every call consumes at least one character, so fuel of twice the length of the
text is never used up.
-/

namespace BlogDesk.Json

/-- Containers may be nested one less deep than this. -/
def maxDepth : Nat := 128

namespace Cursor

def fuel (c : Cursor) : Nat := 2 * c.rest.length + 2

-- ---- Strings

def isLeading (unit : Nat) : Bool := 0xD800 ≤ unit && unit ≤ 0xDBFF

def isTrailing (unit : Nat) : Bool := 0xDC00 ≤ unit && unit ≤ 0xDFFF

def pairMark (c : Cursor) (expected : Char) : Except Fault Cursor :=
  match c.rest with
  | [] => .error (c.faultHere .endInText)
  | char :: _ => if char = expected then .ok c.advance else .error (c.faultNext .surrogateUnfinished)

def unicodeEscape (c : Cursor) : Except Fault (Char × Cursor) := do
  let (unit, c) ← c.hexEscape
  if isTrailing unit then .error (c.faultHere .loneSurrogate)
  else if isLeading unit then
    let c ← c.pairMark '\\'
    let c ← c.pairMark 'u'
    let (second, c) ← c.hexEscape
    if isTrailing second then
      .ok (Char.ofNat ((unit - 0xD800) * 0x400 + (second - 0xDC00) + 0x10000), c)
    else .error (c.faultHere .loneSurrogate)
  else .ok (Char.ofNat unit, c)

def letterEscape? (c : Char) : Option Char :=
  match c with
  | '"' => some '"'
  | '\\' => some '\\'
  | '/' => some '/'
  | 'b' => some '\x08'
  | 'f' => some '\x0c'
  | 'n' => some '\n'
  | 'r' => some '\r'
  | 't' => some '\t'
  | _ => none

def escape (c : Cursor) : Except Fault (Char × Cursor) :=
  match c.rest with
  | [] => .error (c.faultHere .endInText)
  | char :: _ =>
    if char = 'u' then c.advance.unicodeEscape
    else match letterEscape? char with
      | some meant => .ok (meant, c.advance)
      | none => .error (c.faultNext .invalidEscape)

/-- Behind the opening quote; `read` holds the characters so far, last first. -/
def textBody : Nat → Cursor → List Char → Except Fault (String × Cursor)
  | 0, c, _ => .error (c.faultHere .endInText)
  | fuel + 1, c, read =>
    match c.rest with
    | [] => .error (c.faultHere .endInText)
    | char :: _ =>
      if char = '"' then .ok (String.ofList read.reverse, c.advance)
      else if char = '\\' then do
        let (meant, c) ← c.advance.escape
        textBody fuel c (meant :: read)
      else if char < ' ' then .error (c.faultNext .controlCharacter)
      else textBody fuel c.advance (char :: read)

def text (c : Cursor) : Except Fault (String × Cursor) := textBody c.fuel c []

def skipEscape (c : Cursor) : Except Fault Cursor :=
  match c.rest with
  | [] => .error (c.faultHere .endInText)
  | char :: _ =>
    if char = 'u' then do
      let (_, c) ← c.advance.hexEscape
      .ok c
    else if (letterEscape? char).isSome then .ok c.advance
    else .error (c.faultNext .invalidEscape)

def skipTextBody : Nat → Cursor → Except Fault Cursor
  | 0, c => .error (c.faultHere .endInText)
  | fuel + 1, c =>
    match c.rest with
    | [] => .error (c.faultHere .endInText)
    | char :: _ =>
      if char = '"' then .ok c.advance
      else if char = '\\' then do
        let c ← c.advance.skipEscape
        skipTextBody fuel c
      else if char < ' ' then .error (c.faultHere .controlCharacter)
      else skipTextBody fuel c.advance

def skipText (c : Cursor) : Except Fault Cursor := skipTextBody c.fuel c

-- ---- Steps inside a container

/-- Room for one more container around what follows. -/
def enter (c : Cursor) (depth : Nat) : Except Fault Nat :=
  if depth ≤ 1 then .error (c.faultNext .tooDeep) else .ok (depth - 1)

def nextItem? (c : Cursor) (first : Bool) : Except Fault (Option Cursor) :=
  let c := c.skipBlanks
  match c.rest with
  | [] => .error (c.faultNext .endInList)
  | ']' :: _ => .ok none
  | char :: _ =>
    if first then .ok (some c)
    else if char = ',' then
      let c := c.advance.skipBlanks
      match c.rest with
      | [] => .error (c.faultNext .endInValue)
      | ']' :: _ => .error (c.faultNext .trailingComma)
      | _ => .ok (some c)
    else .error (c.faultNext .expectedListComma)

def closeList (c : Cursor) : Except Fault Cursor :=
  let c := c.skipBlanks
  match c.rest with
  | [] => .error (c.faultNext .endInList)
  | ']' :: _ => .ok c.advance
  | ',' :: _ =>
    let c := c.advance.skipBlanks
    match c.rest with
    | ']' :: _ => .error (c.faultNext .trailingComma)
    | _ => .error (c.faultNext .trailingCharacters)
  | _ => .error (c.faultNext .trailingCharacters)

def nextKey? (c : Cursor) (first : Bool) : Except Fault (Option Cursor) :=
  let c := c.skipBlanks
  match c.rest with
  | [] => .error (c.faultNext .endInObject)
  | '\x7d' :: _ => .ok none
  | char :: _ =>
    if first then
      if char = '"' then .ok (some c.advance) else .error (c.faultNext .keyNotText)
    else if char = ',' then
      let c := c.advance.skipBlanks
      match c.rest with
      | [] => .error (c.faultNext .endInValue)
      | '"' :: _ => .ok (some c.advance)
      | '\x7d' :: _ => .error (c.faultNext .trailingComma)
      | _ => .error (c.faultNext .keyNotText)
    else .error (c.faultNext .expectedObjectComma)

def colon (c : Cursor) : Except Fault Cursor :=
  let c := c.skipBlanks
  match c.rest with
  | [] => .error (c.faultNext .endInObject)
  | ':' :: _ => .ok c.advance
  | _ => .error (c.faultNext .expectedColon)

-- ---- Values

def scalar (c : Cursor) : Except Fault (Json × Cursor) :=
  match c.rest with
  | [] => .error (c.faultNext .endInValue)
  | 'n' :: _ => do
    let c ← c.advance.word ['u', 'l', 'l']
    .ok (.null, c)
  | 't' :: _ => do
    let c ← c.advance.word ['r', 'u', 'e']
    .ok (.bool true, c)
  | 'f' :: _ => do
    let c ← c.advance.word ['a', 'l', 's', 'e']
    .ok (.bool false, c)
  | '"' :: _ => do
    let (value, c) ← c.advance.text
    .ok (.str value, c)
  | '-' :: _ => do
    let (value, c) ← c.advance.number true
    .ok (.number value, c)
  | char :: _ =>
    if char.isDigit then do
      let (value, c) ← c.number false
      .ok (.number value, c)
    else .error (c.faultNext .expectedValue)

mutual
def valueWithin : Nat → Nat → Cursor → Except Fault (Json × Cursor)
  | 0, _, c => .error (c.faultHere .endInValue)
  | fuel + 1, depth, start =>
    let c := start.skipBlanks
    match c.rest with
    | '[' :: _ => do
      let depth ← c.enter depth
      let (items, c) ← itemsWithin fuel depth true c.advance []
      .ok (.array items, c)
    | '\x7b' :: _ => do
      let depth ← c.enter depth
      let (members, c) ← membersWithin fuel depth true c.advance []
      .ok (.ofMembers members, c)
    | _ => c.scalar
def itemsWithin : Nat → Nat → Bool → Cursor → List Json → Except Fault (List Json × Cursor)
  | 0, _, _, c, _ => .error (c.faultHere .endInList)
  | fuel + 1, depth, first, c, read => do
    match ← c.nextItem? first with
    | none => .ok (read.reverse, c.skipBlanks.advance)
    | some c => do
      let (item, c) ← valueWithin fuel depth c
      itemsWithin fuel depth false c (item :: read)
def membersWithin : Nat → Nat → Bool → Cursor → List (String × Json) →
    Except Fault (List (String × Json) × Cursor)
  | 0, _, _, c, _ => .error (c.faultHere .endInObject)
  | fuel + 1, depth, first, c, read => do
    match ← c.nextKey? first with
    | none => .ok (read.reverse, c.skipBlanks.advance)
    | some c => do
      let (key, c) ← c.text
      let c ← c.colon
      let (value, c) ← valueWithin fuel depth c
      membersWithin fuel depth false c ((key, value) :: read)
end

def value (c : Cursor) (depth : Nat) : Except Fault (Json × Cursor) := valueWithin c.fuel depth c

def items (c : Cursor) (depth : Nat) : Except Fault (List Json × Cursor) :=
  itemsWithin c.fuel depth true c []

def atEnd (c : Cursor) : Except Fault Unit :=
  let c := c.skipBlanks
  match c.rest with
  | [] => .ok ()
  | _ => .error (c.faultNext .trailingCharacters)

-- ---- Values that are skipped

inductive Bracket where
  | list
  | object
deriving DecidableEq

def Bracket.closing : Bracket → Char
  | list => ']'
  | object => '\x7d'

def Bracket.unclosed : Bracket → Cause
  | list => .endInList
  | object => .endInObject

def Bracket.expectedComma : Bracket → Cause
  | list => .expectedListComma
  | object => .expectedObjectComma

def skipKey (c : Cursor) : Bracket → Except Fault Cursor
  | .list => .ok c
  | .object => do
    let c := c.skipBlanks
    let c ← match c.rest with
      | [] => .error (c.faultNext .endInObject)
      | '"' :: _ => .ok c.advance
      | _ => .error (c.faultNext .keyNotText)
    let c ← c.skipText
    c.colon

def skipScalar (c : Cursor) : Except Fault Cursor :=
  match c.rest with
  | [] => .error (c.faultNext .endInValue)
  | 'n' :: _ => c.advance.word ['u', 'l', 'l']
  | 't' :: _ => c.advance.word ['r', 'u', 'e']
  | 'f' :: _ => c.advance.word ['a', 'l', 's', 'e']
  | '"' :: _ => c.advance.skipText
  | '-' :: _ => c.advance.skipNumber
  | char :: _ => if char.isDigit then c.skipNumber else .error (c.faultNext .expectedValue)

/-- Closes the brackets that end here, up to the next value or the end of all;
the brackets still open are given innermost first. -/
def skipClosings : List Bracket → Cursor → Except Fault (Option (List Bracket × Cursor) × Cursor)
  | [], c => .ok (none, c)
  | bracket :: outer, start =>
    let c := start.skipBlanks
    match c.rest with
    | [] => .error (c.faultNext bracket.unclosed)
    | char :: _ =>
      if char = ',' then do
        let c ← c.advance.skipKey bracket
        .ok (some (bracket :: outer, c), c)
      else if char = bracket.closing then skipClosings outer c.advance
      else .error (c.faultNext bracket.expectedComma)

def skipOpening (bracket : Bracket) (outer : List Bracket) (start : Cursor) :
    Except Fault (Option (List Bracket × Cursor) × Cursor) :=
  let c := start.skipBlanks
  match c.rest with
  | [] => .error (c.faultNext bracket.unclosed)
  | char :: _ =>
    if char = bracket.closing then skipClosings outer c.advance
    else do
      let c ← c.skipKey bracket
      .ok (some (bracket :: outer, c), c)

def skipWithin : Nat → List Bracket → Cursor → Except Fault Cursor
  | 0, _, c => .error (c.faultHere .endInValue)
  | fuel + 1, open_, start => do
    let c := start.skipBlanks
    let (more, c) ← match c.rest with
      | '[' :: _ => skipOpening .list open_ c.advance
      | '\x7b' :: _ => skipOpening .object open_ c.advance
      | _ => do
        let c ← c.skipScalar
        skipClosings open_ c
    match more with
    | none => .ok c
    | some (open_, c) => skipWithin fuel open_ c

def skipValue (c : Cursor) : Except Fault Cursor := skipWithin c.fuel [] c

end Cursor

def parse (text : String) : Except Fault Json := do
  let (value, c) ← (Cursor.ofText text.toList).value maxDepth
  c.atEnd
  .ok value

end BlogDesk.Json
