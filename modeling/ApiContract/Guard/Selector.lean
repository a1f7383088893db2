import ApiContract.Document.Decode
import ApiContract.Document.Encode
import ApiContract.Request.Basic

/-!
# Selecting the contract for a request

A selector gives the name of the contract by which a request is judged: by its host, by
a header, by the start of its path, or always the same one.  An empty name selects
nothing.
-/

namespace ApiContract

/-- How the contract for a request is selected. -/
inductive Selector where
  /-- The name that belongs to the host. -/
  | host (hosts : List (String × String))
  /-- The value of a header. -/
  | header (name : String)
  /-- The name that belongs to the longest start of the path. -/
  | pathStart (starts : List (String × String))
  /-- Always the same name. -/
  | fixed (api : String)
  deriving DecidableEq

namespace Selector

/-- The entry with the longest key with which a path begins. -/
def longestStart? (starts : List (String × String)) (path : String) :
    Option (String × String) :=
  (starts.filter fun e => e.1.toList.isPrefixOf path.toList).maxOn? fun e => e.1.length

/-- The name of the contract for a request. -/
def select (selector : Selector) (request : Request) : Option String :=
  let selected : Option String := match selector with
    | .host hosts => (request.header? "host").bind fun host => hosts.lookup host
    | .header name => request.header? name
    | .pathStart starts => (longestStart? starts request.path).map (·.2)
    | .fixed api => some api
  selected.filter fun name => name ≠ ""

/-! ## Reading and writing selectors -/

/-- Reads a selector of a kind from its other parts, which are resolved. -/
def ofParts? (limit : Nat) (kind : String) (parts : Node) : Option Selector :=
  let texts := Node.map? textOf? limit
  match kind with
  | "host" => do return .host (← (← parts.record? ["hosts"]).required? "hosts" texts)
  | "header" => do return .header (← (← parts.record? ["name"]).required? "name" Node.text?)
  | "path_prefix" => do
      return .pathStart (← (← parts.record? ["prefixes"]).required? "prefixes" texts)
  | "fixed" => do return .fixed (← (← parts.record? ["api"]).required? "api" Node.text?)
  | _ => none

/-- The kind among entries, and the other entries, resolved.  There must be one kind. -/
def splitKind? (limit : Nat) :
    List (Node × Node) → Option (Option String × List (Node × Node))
  | [] => some (none, [])
  | (key, value) :: rest => do
      let key ← key.resolve? limit
      let (kind, parts) ← splitKind? limit rest
      match key with
      | .string "type" => if kind.isSome then none else return (some (← value.text?), parts)
      | _ => return (kind, (key, ← value.resolve? limit) :: parts)

/-- Reads a selector: a mapping with its kind, or a list that begins with it. -/
def ofNode? (limit : Nat) (node : Node) : Option Selector :=
  match limit, node with
  | limit + 1, .mapping false entries => do
      let (kind, parts) ← splitKind? limit entries
      ofParts? limit (← kind) (.mapping false parts)
  | limit + 1, .array (kind :: parts) | limit + 1, .sequence false (kind :: parts) => do
      ofParts? limit (← kind.text?) (.array (← Node.resolveItems limit parts))
  | _, _ => none

/-- A selector as JSON. -/
def toJson : Selector → Json
  | .host hosts => .object [("type", .string "host"), ("hosts", .ofMap .string hosts)]
  | .header name => .object [("type", .string "header"), ("name", .string name)]
  | .pathStart starts =>
      .object [("type", .string "path_prefix"), ("prefixes", .ofMap .string starts)]
  | .fixed api => .object [("type", .string "fixed"), ("api", .string api)]

end Selector
end ApiContract
