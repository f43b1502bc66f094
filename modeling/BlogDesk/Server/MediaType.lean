import BlogDesk.Http
import BlogDesk.Server.Cookie

/-!
# Media types of request bodies

A JSON body is announced by `application/json` or by a subtype of `application`
that ends in `+json`, in any case, with well-formed parameters or none. A form
body only needs a header that starts with the form's media type as it is written.
-/

namespace BlogDesk.Server.MediaType

def isTokenChar (c : Char) : Bool :=
  c.isAlphanum || "!#$%&'*+-.^_\x60|~".toList.contains c

def isQuotedChar (c : Char) : Bool := ' ' ≤ c && c != '\x7f'

/-- A quoted value is not empty; a quote in its first place belongs to it. -/
def quotedValue? : List Char → Option (List Char)
  | [] => none
  | first :: rest =>
    if isQuotedChar first then
      match rest.dropWhile (fun c => isQuotedChar c && c != '"') with
      | '"' :: rest => some rest
      | _ => none
    else none

def isSpace (c : Char) : Bool := c == ' '

/-- Whether the text behind a semicolon is a list of parameters. An unquoted value
may be empty at the end of the text only. -/
def parameters : Nat → List Char → Bool
  | 0, _ => false
  | fuel + 1, text =>
    let start := text.dropWhile isSpace
    if start = [] then true
    else
      let name := start.takeWhile isTokenChar
      match name, start.drop name.length with
      | _ :: _, '=' :: '"' :: rest =>
        match quotedValue? rest with
        | none => false
        | some rest =>
          match rest.dropWhile isSpace with
          | [] => true
          | ';' :: rest => parameters fuel rest
          | _ => false
      | _ :: _, '=' :: rest =>
        let value := rest.takeWhile isTokenChar
        match value, rest.drop value.length with
        | _, [] => true
        | _ :: _, ';' :: rest => parameters fuel rest
        | _, _ => false
      | _, _ => false

def parse? (text : String) : Option (List Char × List Char) :=
  let all := text.toList
  let main := all.takeWhile isTokenChar
  match main, all.drop main.length with
  | _ :: _, '/' :: rest =>
    let sub := rest.takeWhile isTokenChar
    match sub, rest.drop sub.length with
    | _, [] => some (main.map Char.toLower, sub.map Char.toLower)
    | _ :: _, ';' :: rest =>
      if parameters (rest.length + 1) rest then
        some (main.map Char.toLower, sub.map Char.toLower)
      else none
    | _, _ => none
  | _, _ => none

/-- A subtype is cut at its last plus sign, unless it begins with it. -/
def isJsonSubtype (sub : List Char) : Bool :=
  let suffix := (sub.reverse.takeWhile (· != '+')).reverse
  let stem := sub.take (sub.length - suffix.length - 1)
  if suffix.length = sub.length ∨ stem = [] then sub == "json".toList
  else stem == "json".toList || suffix == "json".toList

def isJson (headers : Headers) : Bool :=
  match headers.value? "content-type" with
  | none => false
  | some value =>
    isPlainHeader value &&
      match parse? value with
      | some (main, sub) => main == "application".toList && isJsonSubtype sub
      | none => false

def isForm (headers : Headers) : Bool :=
  match headers.value? "content-type" with
  | none => false
  | some value =>
    isPlainHeader value && "application/x-www-form-urlencoded".toList.isPrefixOf value.toList

end BlogDesk.Server.MediaType
