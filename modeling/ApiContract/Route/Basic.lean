import ApiContract.Document.Basic
import ApiContract.Route.Template
import ApiContract.Text.Percent

/-!
# Routes

A route is a path that a document declares, literal or a template, with its operations.
Templates are tried in an order of their own: those with fewer placeholders first, then
those with more literal text in front, then by their text.
-/

namespace ApiContract

/-- A declared path with its operations. -/
structure Route where
  text : String
  item : PathItem

namespace Route

/-- The names of the placeholders. -/
def placeholders (route : Route) : List (List Char) :=
  Template.placeholders route.text.toList

/-- Whether the route has placeholders. -/
def isTemplated (route : Route) : Bool :=
  !route.placeholders.isEmpty

/-- What the placeholders stand for in a path. -/
def captures? (route : Route) (path : String) : Option (List (List Char)) :=
  Template.captures? (Template.literals route.text.toList) path.toList

/-- Whether a path fits the template.  A route without placeholders is none. -/
def accepts (route : Route) (path : String) : Bool :=
  route.isTemplated && (route.captures? path).isSome

/-- The percent-decoded value of the first placeholder of a name in a path. -/
def parameter? (route : Route) (path name : String) : Option String := do
  let index ← route.placeholders.findIdx? (· == name.toList)
  let captures ← route.captures? path
  let raw ← captures[index]?
  return String.ofList (Percent.decodeText raw)

/-- How many bytes of text stand before the first brace. -/
def literalStart (route : Route) : Nat :=
  Utf8.size (route.text.toList.takeWhile (· ≠ '\x7b'))

/-- Whether a template is tried no later than another one. -/
def precedes (a b : Route) : Bool :=
  if a.placeholders.length ≠ b.placeholders.length then
    a.placeholders.length < b.placeholders.length
  else if a.literalStart ≠ b.literalStart then b.literalStart < a.literalStart
  else a.text ≤ b.text

/-- Whether the pattern of the template is small enough to be used. -/
def isUsable (route : Route) : Bool :=
  !route.isTemplated || (Template.pattern (Template.literals route.text.toList)).fits

end Route
end ApiContract
