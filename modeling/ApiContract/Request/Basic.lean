import ApiContract.Text.Ascii
import ApiContract.Text.Blank
import ApiContract.Text.Form
import ApiContract.Unicode.Uppercase

/-!
# Requests

What is judged of a request: its method, path, query, headers and body.  The first value
of a query key or header counts, except that `Cookie` headers are joined.
-/

namespace ApiContract

/-- A request.  Keys of the query and names of headers occur once. -/
structure Request where
  method : String
  path : String
  query : List (String × String) := []
  /-- The headers, by their names in lower case. -/
  headers : List (String × String) := []
  body : List UInt8 := []
  deriving DecidableEq

namespace Request

/-- Adds a value under a key that has none yet. -/
def putFirst (key value : String) (map : List (String × String)) : List (String × String) :=
  if (map.lookup key).isSome then map else map ++ [(key, value)]

/-- Adds a pair to the query. -/
def withQueryParameter (request : Request) (key value : String) : Request :=
  { request with query := putFirst key value request.query }

/-- Adds the pairs of a form-encoded text to the query. -/
def withQuery (request : Request) (query : String) : Request :=
  (Form.pairs query).foldl (fun request p => request.withQueryParameter p.1 p.2) request

/-- The request with a method and a target, which is a path and perhaps a query. -/
def ofTarget (method target : String) : Request :=
  let text := target.toList
  let request : Request :=
    { method := Unicode.uppercase method,
      path := String.ofList (text.takeWhile (· ≠ '?')) }
  match text.dropWhile (· ≠ '?') with
  | [] => request
  | _ :: query => request.withQuery (String.ofList query)

/-- Joins another value to the one under a key. -/
def joinValue (key value : String) : List (String × String) → List (String × String)
  | [] => [(key, value)]
  | (k, v) :: rest =>
      if k = key then (k, v ++ "; " ++ value) :: rest else (k, v) :: joinValue key value rest

/-- Adds a header. -/
def withHeader (request : Request) (name value : String) : Request :=
  let key := Ascii.lowercase name
  if key = "cookie" then { request with headers := joinValue key value request.headers }
  else { request with headers := putFirst key value request.headers }

/-- The request with another body. -/
def withBody (request : Request) (body : List UInt8) : Request :=
  { request with body }

/-- The value of a query key. -/
def queryParameter? (request : Request) (name : String) : Option String :=
  request.query.lookup name

/-- The value of a header. -/
def header? (request : Request) (name : String) : Option String :=
  request.headers.lookup (Ascii.lowercase name)

/-- The name and value of a cookie, if the text has an equals sign. -/
def cookiePair? (text : List Char) : Option (String × String) :=
  let text := Blank.trim text
  if text.contains '=' then
    let (name, value) := splitFirst '=' text
    some (String.ofList name, String.ofList value)
  else none

/-- The cookies of the value of a header. -/
def cookiePairs (header : String) : List (String × String) :=
  (header.toList.splitOn ';').filterMap cookiePair?

/-- The value of a cookie. -/
def cookie? (request : Request) (name : String) : Option String := do
  (cookiePairs (← request.header? "cookie")).lookup name

/-- The number that decimal digits write, after an optional plus sign, if it has at most
64 bits. -/
def size? (text : List Char) : Option Nat :=
  let digits := match text with
    | '+' :: rest => rest
    | _ => text
  if digits.isEmpty || !digits.all Ascii.isDigit then none
  else
    let n := Ascii.decimal digits
    if n < Nat.pow 2 64 then some n else none

/-- The size of the body that the request declares, or else that of its body. -/
def contentLength (request : Request) : Nat :=
  let declared? := (request.header? "content-length").bind fun value =>
    size? (Blank.trim value.toList)
  declared?.getD request.body.length

end Request
end ApiContract
