import BlogDesk.Text.Ranges
import BlogDesk.Text.Search
import BlogDesk.Text.Utf8

/-!
# Form bodies

Fields joined by `&`, name and value by `=`. Writing escapes every byte that is
not a letter, a digit or one of `-._~`. Reading is lenient: `+` is a space, an
escape without two hexadecimal digits stands for itself, and bytes that are not
UTF-8 become U+FFFD.
-/

namespace BlogDesk.Form

def isUnreserved (b : UInt8) : Bool :=
  let c := Char.ofNat b.toNat
  b < 0x80 && (c.isAlphanum || c == '-' || c == '.' || c == '_' || c == '~')

def escapeByte (b : UInt8) : List Char :=
  if isUnreserved b then [Char.ofNat b.toNat]
  else ['%', (Text.hexDigit (b.toNat / 16)).toUpper, (Text.hexDigit (b.toNat % 16)).toUpper]

def escape (text : String) : List Char := (Text.Utf8.encode text.toList).flatMap escapeByte

def encode (fields : List (String × String)) : String :=
  String.ofList <| ['&'].intercalate <|
    fields.map fun (name, value) => name.toList ++ '=' :: escape value

def unescape : List Char → List UInt8
  | [] => []
  | '%' :: a :: b :: rest =>
    match Text.hexValue? a, Text.hexValue? b with
    | some high, some low => UInt8.ofNat (16 * high + low) :: unescape rest
    | _, _ => String.utf8EncodeChar '%' ++ unescape (a :: b :: rest)
  | '+' :: rest => String.utf8EncodeChar ' ' ++ unescape rest
  | c :: rest => String.utf8EncodeChar c ++ unescape rest

def decodeText (text : List Char) : String := String.ofList (Text.Utf8.decode (unescape text))

def decodeField (field : List Char) : String × String :=
  match Text.splitOnce? '=' field with
  | some (name, value) => (decodeText name, decodeText value)
  | none => (decodeText field, "")

def decode (body : String) : List (String × String) :=
  ((body.toList.splitOn '&').filter (· ≠ [])).map decodeField

end BlogDesk.Form
