import BlogDesk.Json.Basic
import BlogDesk.Binary64.Shortest
import BlogDesk.Text.Ranges

/-!
# Compact JSON text

No blanks. Strings escape quotes, backslashes and controls and nothing else;
doubles show the fewest digits that read back, always with a point or an
exponent.
-/

namespace BlogDesk

/-- Doubles from `1e-5` up to below `1e16` are written without an exponent. -/
def Binary64.positional (magnitude : Int) : Bool := -5 < magnitude && magnitude ≤ 16

def Binary64.renderMagnitude (x : Binary64) : List Char :=
  let decimal := x.shortest
  let digits := Nat.toDigits 10 decimal.digits
  let magnitude : Int := digits.length + decimal.exponent
  if positional magnitude then
    if 0 ≤ decimal.exponent then
      digits ++ List.replicate decimal.exponent.toNat '0' ++ ['.', '0']
    else if 0 < magnitude then
      digits.take magnitude.toNat ++ '.' :: digits.drop magnitude.toNat
    else
      '0' :: '.' :: List.replicate (-magnitude).toNat '0' ++ digits
  else
    let tail := match digits with
      | [d] => [d]
      | d :: rest => d :: '.' :: rest
      | [] => []
    let power := magnitude - 1
    tail ++ 'e' :: (if power < 0 then '-' else '+') :: Nat.toDigits 10 power.natAbs

def Binary64.render (x : Binary64) : List Char :=
  let magnitude := if x.isZero then ['0', '.', '0'] else x.renderMagnitude
  if x.negative then '-' :: magnitude else magnitude

def Number.render : Number → List Char
  | .integer value =>
    if value < 0 then '-' :: Nat.toDigits 10 value.natAbs else Nat.toDigits 10 value.natAbs
  | .real value => value.render

namespace Json

def escapeChar (c : Char) : List Char :=
  match c with
  | '"' => ['\\', '"']
  | '\\' => ['\\', '\\']
  | '\x08' => ['\\', 'b']
  | '\x0c' => ['\\', 'f']
  | '\n' => ['\\', 'n']
  | '\r' => ['\\', 'r']
  | '\t' => ['\\', 't']
  | c =>
    if c < ' ' then
      ['\\', 'u', '0', '0', Text.hexDigit (c.toNat / 16), Text.hexDigit (c.toNat % 16)]
    else [c]

def quote (text : String) : List Char := '"' :: text.toList.flatMap escapeChar ++ ['"']

mutual
def chars : Json → List Char
  | .null => ['n', 'u', 'l', 'l']
  | .bool true => ['t', 'r', 'u', 'e']
  | .bool false => ['f', 'a', 'l', 's', 'e']
  | .number value => value.render
  | .str value => quote value
  | .array [] => ['[', ']']
  | .array (item :: rest) => '[' :: (chars item ++ itemChars rest)
  | .object [] => ['\x7b', '\x7d']
  | .object ((key, value) :: rest) =>
    '\x7b' :: (quote key ++ ':' :: (chars value ++ memberChars rest))
def itemChars : List Json → List Char
  | [] => [']']
  | item :: rest => ',' :: (chars item ++ itemChars rest)
def memberChars : List (String × Json) → List Char
  | [] => ['\x7d']
  | (key, value) :: rest => ',' :: (quote key ++ ':' :: (chars value ++ memberChars rest))
end

def render (value : Json) : String := String.ofList value.chars

end Json

end BlogDesk
