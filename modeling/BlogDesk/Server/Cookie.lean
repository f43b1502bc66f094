import BlogDesk.Http
import BlogDesk.Text.Search

/-!
# The session cookie

Sessions travel in the cookie `auth`. A request may spread its cookies over any
number of headers; headers with characters outside printable ASCII are not
looked at, nor are pieces without an equals sign.
-/

namespace BlogDesk.Server

def authCookie : String := "auth"

def isPlainHeader (value : String) : Bool :=
  value.toList.all fun c => (' ' ≤ c && c < '\x7f') || c == '\t'

def isHeaderBlank (c : Char) : Bool := c == ' ' || c == '\t'

def cookiePairs (value : String) : List (String × String) :=
  (value.toList.splitOn ';').filterMap fun piece =>
    (Text.splitOnce? '=' (Text.trim isHeaderBlank piece)).map fun (name, value) =>
      (String.ofList name, String.ofList value)

def sessionCookie? (headers : Headers) : Option String :=
  let pairs := ((headers.values "cookie").filter isPlainHeader).flatMap cookiePairs
  (pairs.find? (·.1 == authCookie)).map (·.2)

def grantCookie (id : String) : String := authCookie ++ "=" ++ id ++ "; Path=/; HttpOnly"

def resetCookie : String := authCookie ++ "=; Path=/; HttpOnly; Max-Age=0"

end BlogDesk.Server
