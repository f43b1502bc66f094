import BlogDesk.Json.Fault

/-!
# A place in JSON text

What is left to read, and where it begins. A fault is reported either here, or
one byte further when it lies in the character that stands next.
-/

namespace BlogDesk.Json

structure Cursor where
  rest : List Char
  position : Position

namespace Cursor

def ofText (text : List Char) : Cursor := ⟨text, .start⟩

def advance (c : Cursor) : Cursor :=
  match c.rest with
  | [] => c
  | char :: rest => ⟨rest, c.position.after char⟩

def faultHere (c : Cursor) (cause : Cause) : Fault := ⟨cause, some c.position⟩

def faultNext (c : Cursor) (cause : Cause) : Fault :=
  ⟨cause, some (c.position.afterBytes 1 c.rest)⟩

def isBlank (c : Char) : Bool := c == ' ' || c == '\n' || c == '\t' || c == '\r'

def skipBlanks (c : Cursor) : Cursor :=
  ⟨c.rest.dropWhile isBlank, c.position.afterAll (c.rest.takeWhile isBlank)⟩

def digits (c : Cursor) : List Nat × Cursor :=
  let run := c.rest.takeWhile Char.isDigit
  (run.map fun d => d.toNat - '0'.toNat, ⟨c.rest.drop run.length, c.position.afterAll run⟩)

def word (c : Cursor) : List Char → Except Fault Cursor
  | [] => .ok c
  | expected :: more =>
    match c.rest with
    | [] => .error (c.faultHere .endInValue)
    | char :: _ => if char = expected then c.advance.word more else .error (c.faultNext .expectedWord)

/-- Four hexadecimal digits. The four bytes are taken first and judged together. -/
def hexEscape (c : Cursor) : Except Fault (Nat × Cursor) :=
  let wrong : Fault :=
    if (c.rest.take 4).foldl (fun size char => size + char.utf8Size) 0 < 4 then
      ⟨.endInText, some (c.position.afterAll c.rest)⟩
    else ⟨.invalidEscape, some (c.position.afterBytes 4 c.rest)⟩
  match c.rest with
  | a :: b :: d :: e :: rest =>
    match Text.hexValue? a, Text.hexValue? b, Text.hexValue? d, Text.hexValue? e with
    | some a, some b, some d, some e =>
      .ok (4096 * a + 256 * b + 16 * d + e, ⟨rest, ⟨c.position.line, c.position.column + 4⟩⟩)
    | _, _, _, _ => .error wrong
  | _ => .error wrong

end Cursor

end BlogDesk.Json
