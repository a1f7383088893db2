import ApiContract.Json.Basic
import ApiContract.Yaml.Scalar

/-!
# Nodes: data read from a text before its type is known

A node is either a value of its own (from JSON, or already resolved) or a piece
of YAML, whose scalars mean what the reader expects of them.  Mappings keep
their entries in the order of the text, repeated keys included, since a record
refuses a repeated field while a map takes the last one.
-/

namespace ApiContract

/-- Data read from a text. -/
inductive Node where
  | null
  | bool (value : Bool)
  | number (value : Number)
  | string (value : String)
  /-- A list value; a record may be read from it by position. -/
  | array (items : List Node)
  /-- A YAML scalar, not yet resolved. -/
  | scalar (scalar : Yaml.Scalar)
  /-- A YAML sequence; `localTag` tells whether it has a tag of the document's own. -/
  | sequence (localTag : Bool) (items : List Node)
  /-- The entries of a mapping or object, in the order of the text. -/
  | mapping (localTag : Bool) (entries : List (Node × Node))
  /-- A leaf that may be skipped but not read. -/
  | unreadable

namespace Node

instance : Inhabited Node := ⟨.null⟩

mutual
/-- The node of a JSON value. -/
def ofJson : Json → Node
  | .null => .null
  | .bool b => .bool b
  | .number n => .number n
  | .string s => .string s
  | .array items => .array (ofItems items)
  | .object members => .mapping false (ofMembers members)

/-- The nodes of JSON values. -/
def ofItems : List Json → List Node
  | [] => []
  | x :: xs => ofJson x :: ofItems xs

/-- The entries of members of a JSON object. -/
def ofMembers : List (String × Json) → List (Node × Node)
  | [] => []
  | (k, x) :: xs => (.string k, ofJson x) :: ofMembers xs
end

/-- The text of a node that stands where a string is expected. -/
def text? : Node → Option String
  | .string s => some s
  | .scalar s => some s.text
  | _ => none

/-- The value that a resolved scalar denotes. -/
def ofResolved : Yaml.Scalar.Resolved → Node
  | .null => .null
  | .bool b => .bool b
  | .integer n => .number (.integer n)
  | .float x => .number (.float x)
  | .string s => .string s

/-- The JSON value of a number; what no JSON number can say is null. -/
def jsonOfNumber : Number → Json
  | .integer n => .number (.integer n)
  | .float x => if x.isFinite then .number (.float x) else .null

mutual
/-- Reads a node as a JSON value with containers nested at most `limit` deep.
The keys of a YAML mapping are taken as text. -/
def toJson? : (limit : Nat) → Node → Option Json
  | _, .null => some .null
  | _, .bool b => some (.bool b)
  | _, .number n => some (jsonOfNumber n)
  | _, .string s => some (.string s)
  | 0, .array _ => none
  | limit + 1, .array items => (toJsonItems limit items).map .array
  | _, .scalar s =>
      s.resolve?.map fun
        | .null => .null
        | .bool b => .bool b
        | .integer n => .number (.integer n)
        | .float x => jsonOfNumber (.float x)
        | .string s => .string s
  | 0, .sequence .. => none
  | limit + 1, .sequence localTag items =>
      if localTag then none else (toJsonItems limit items).map .array
  | 0, .mapping .. => none
  | limit + 1, .mapping localTag entries =>
      if localTag then none else (toJsonMembers limit entries).map .ofMembers
  | _, .unreadable => none

/-- Reads nodes as JSON values. -/
def toJsonItems (limit : Nat) : List Node → Option (List Json)
  | [] => some []
  | x :: xs => do
      let y ← toJson? limit x
      let ys ← toJsonItems limit xs
      return y :: ys

/-- Reads entries as members of a JSON object. -/
def toJsonMembers (limit : Nat) : List (Node × Node) → Option (List (String × Json))
  | [] => some []
  | (k, x) :: xs => do
      let key ← k.text?
      let y ← toJson? limit x
      let ys ← toJsonMembers limit xs
      return (key, y) :: ys
end

mutual
/-- Resolves every YAML scalar of a node, keys included, to the value it
denotes, with containers nested at most `limit` deep.  Sequences become list
values. -/
def resolve? : (limit : Nat) → Node → Option Node
  | _, .null => some .null
  | _, .bool b => some (.bool b)
  | _, .number n => some (.number n)
  | _, .string s => some (.string s)
  | 0, .array _ => none
  | limit + 1, .array items => (resolveItems limit items).map .array
  | _, .scalar s => s.resolve?.map ofResolved
  | 0, .sequence .. => none
  | limit + 1, .sequence localTag items =>
      if localTag then none else (resolveItems limit items).map .array
  | 0, .mapping .. => none
  | limit + 1, .mapping localTag entries =>
      if localTag then none else (resolveEntries limit entries).map (.mapping false)
  | _, .unreadable => none

/-- Resolves the items of a sequence. -/
def resolveItems (limit : Nat) : List Node → Option (List Node)
  | [] => some []
  | x :: xs => do
      let y ← resolve? limit x
      let ys ← resolveItems limit xs
      return y :: ys

/-- Resolves the entries of a mapping. -/
def resolveEntries (limit : Nat) : List (Node × Node) → Option (List (Node × Node))
  | [] => some []
  | (k, x) :: xs => do
      let key ← resolve? limit k
      let y ← resolve? limit x
      let ys ← resolveEntries limit xs
      return (key, y) :: ys
end

mutual
/-- How deep the containers of a node are nested. -/
def depth : Node → Nat
  | .array items => depthItems items + 1
  | .sequence _ items => depthItems items + 1
  | .mapping _ entries => depthEntries entries + 1
  | _ => 0

/-- The greatest depth of the items. -/
def depthItems : List Node → Nat
  | [] => 0
  | x :: xs => max x.depth (depthItems xs)

/-- The greatest depth of the keys and values of the entries. -/
def depthEntries : List (Node × Node) → Nat
  | [] => 0
  | (k, x) :: xs => max (max k.depth x.depth) (depthEntries xs)
end

end Node
end ApiContract
