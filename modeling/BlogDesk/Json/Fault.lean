import BlogDesk.Json.Printer
import BlogDesk.Text.Quoted

/-!
# Why JSON is refused

A cause is one of malformed text, or a value of the wrong shape. Faults found in
text carry a place: the line from one, and the bytes of that line before it.
-/

namespace BlogDesk.Json

/-- What stands where something else was wanted. -/
inductive Found where
  | null
  | bool (value : Bool)
  | number (value : Number)
  | str (value : String)
  | sequence
  | map

def Found.of : Json → Found
  | .null => .null
  | .bool value => .bool value
  | .number value => .number value
  | .str value => .str value
  | .array _ => .sequence
  | .object _ => .map

def Found.message : Found → String
  | null => "null"
  | bool true => "boolean `true`"
  | bool false => "boolean `false`"
  | number (.integer value) => "integer `" ++ String.ofList (Number.integer value).render ++ "`"
  | number (.real value) => "floating point `" ++ String.ofList value.render ++ "`"
  | str value => "string " ++ Text.showQuoted value
  | sequence => "sequence"
  | map => "map"

inductive Wanted where
  | text
  | sequence
  | record (name : String)

def Wanted.message : Wanted → String
  | text => "a string"
  | sequence => "a sequence"
  | record name => "struct " ++ name

inductive Cause where
  | endInValue
  | endInText
  | endInList
  | endInObject
  | expectedValue
  | expectedWord
  | expectedColon
  | expectedListComma
  | expectedObjectComma
  | keyNotText
  | trailingComma
  | trailingCharacters
  | invalidNumber
  | numberOutOfRange
  | invalidEscape
  | loneSurrogate
  | surrogateUnfinished
  | controlCharacter
  | tooDeep
  | missingField (key : String)
  | duplicateField (key : String)
  | wrongKind (found : Found) (wanted : Wanted)
  | tooFewItems (found : Nat) (record : String) (wanted : Nat)
  | tooManyItems (found : Nat)

namespace Cause

/-- The text is JSON, or was so far, but says something else than what was asked for. -/
def isShape : Cause → Bool
  | missingField _ | duplicateField _ | wrongKind .. | tooFewItems .. | tooManyItems _ => true
  | _ => false

def message : Cause → String
  | endInValue => "EOF while parsing a value"
  | endInText => "EOF while parsing a string"
  | endInList => "EOF while parsing a list"
  | endInObject => "EOF while parsing an object"
  | expectedValue => "expected value"
  | expectedWord => "expected ident"
  | expectedColon => "expected `:`"
  | expectedListComma => "expected `,` or `]`"
  | expectedObjectComma => "expected `,` or `\x7d`"
  | keyNotText => "key must be a string"
  | trailingComma => "trailing comma"
  | trailingCharacters => "trailing characters"
  | invalidNumber => "invalid number"
  | numberOutOfRange => "number out of range"
  | invalidEscape => "invalid escape"
  | loneSurrogate => "lone leading surrogate in hex escape"
  | surrogateUnfinished => "unexpected end of hex escape"
  | controlCharacter => "control character (\\u0000-\\u001F) found while parsing a string"
  | tooDeep => "recursion limit exceeded"
  | missingField key => "missing field `" ++ key ++ "`"
  | duplicateField key => "duplicate field `" ++ key ++ "`"
  | wrongKind found wanted => "invalid type: " ++ found.message ++ ", expected " ++ wanted.message
  | tooFewItems found record wanted =>
    "invalid length " ++ toString found ++ ", expected struct " ++ record ++ " with " ++
      toString wanted ++ (if wanted = 1 then " element" else " elements")
  | tooManyItems found =>
    "invalid length " ++ toString found ++ ", expected fewer elements in array"

end Cause

structure Position where
  line : Nat
  column : Nat
deriving DecidableEq, Repr

namespace Position

def start : Position := ⟨1, 0⟩

def after (p : Position) (c : Char) : Position :=
  if c = '\n' then ⟨p.line + 1, 0⟩ else ⟨p.line, p.column + c.utf8Size⟩

def afterAll (p : Position) (text : List Char) : Position := text.foldl after p

def afterBytes (p : Position) : Nat → List Char → Position
  | 0, _ => p
  | _, [] => p
  | bytes, c :: rest =>
    if c.utf8Size ≤ bytes then afterBytes (p.after c) (bytes - c.utf8Size) rest
    else ⟨p.line, p.column + bytes⟩

end Position

structure Fault where
  cause : Cause
  place : Option Position

def Fault.message (fault : Fault) : String :=
  match fault.place with
  | none => fault.cause.message
  | some p =>
    fault.cause.message ++ " at line " ++ toString p.line ++ " column " ++ toString p.column

end BlogDesk.Json
