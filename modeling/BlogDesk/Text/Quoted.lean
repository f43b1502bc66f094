import BlogDesk.Text.Unseen

/-!
# Quoted text in messages

Text shown inside a message stands in double quotes. Quotes, backslashes and
the common controls are escaped by a letter, any other character without a
glyph by its code point.
-/

namespace BlogDesk.Text

def showChar (c : Char) : List Char :=
  match c with
  | '"' => ['\\', '"']
  | '\\' => ['\\', '\\']
  | '\n' => ['\\', 'n']
  | '\r' => ['\\', 'r']
  | '\t' => ['\\', 't']
  | '\x00' => ['\\', '0']
  | c => if isUnseen c then "\\u\x7b".toList ++ Nat.toDigits 16 c.toNat ++ ['\x7d'] else [c]

def showQuoted (text : String) : String :=
  String.ofList ('"' :: text.toList.flatMap showChar ++ ['"'])

end BlogDesk.Text
