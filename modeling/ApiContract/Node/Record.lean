import ApiContract.Node.Basic

/-!
# Reading records, lists and maps from nodes

A record is read from a mapping, whose unknown keys are skipped, or by position from
a list value.  Containers may be nested only as deep as `limit` says; skipped parts do
not count.
-/

namespace ApiContract
namespace Node

/-- A field of a record that is being read. -/
inductive Field where
  | present (node : Node)
  /-- The mapping does not have it. -/
  | absent
  /-- The list ends before it. -/
  | missing

/-- The fields of a record, by name. -/
abbrev Record := List (String × Field)

/-- The name of the field that a key stands for, or `some none` for a key to skip.  A
resolved key may be the number of a field. -/
def fieldOf? (names : List String) : Node → Option (Option String)
  | .string s => some (if names.contains s then some s else none)
  | .scalar s => some (if names.contains s.text then some s.text else none)
  | .number (.integer n) => if 0 ≤ n then some names[n.toNat]? else none
  | _ => none

/-- The entries of a mapping that are fields; `none` if a key cannot be read or a
field occurs twice. -/
def fieldEntries? (names : List String) : List (Node × Node) → Option (List (String × Node))
  | [] => some []
  | (key, value) :: rest => do
      let field ← fieldOf? names key
      let fields ← fieldEntries? names rest
      match field with
      | none => return fields
      | some name => if (fields.lookup name).isSome then none else return (name, value) :: fields

/-- The fields of a record by position. -/
def fieldsByPosition : List String → List Node → Record
  | [], _ => []
  | name :: names, [] => (name, .missing) :: fieldsByPosition names []
  | name :: names, item :: items => (name, .present item) :: fieldsByPosition names items

/-- Reads the fields of a record.  A plain scalar without text is an empty record. -/
def record? (names : List String) : Node → Option Record
  | .mapping _ entries => do
      let fields ← fieldEntries? names entries
      return names.map fun name =>
        (name, match fields.lookup name with
          | some value => .present value
          | none => .absent)
  | .array items =>
      if items.length ≤ names.length then some (fieldsByPosition names items) else none
  | .scalar s => if s.isEmptyPlain then some (names.map fun name => (name, .absent)) else none
  | _ => none

/-- The state of a field. -/
def Record.field (record : Record) (name : String) : Field :=
  (record.lookup name).getD .missing

/-- Reads an optional value: null and nothing are absent. -/
def option? {α : Type} (read : Node → Option α) (node : Node) : Option (Option α) :=
  match node with
  | .null => some none
  | .scalar s =>
      match s.isAbsent? with
      | none => none
      | some true => some none
      | some false => (read node).map some
  | _ => (read node).map some

namespace Record

/-- Reads a field that must be there. -/
def required? {α : Type} (record : Record) (name : String) (read : Node → Option α) :
    Option α :=
  match record.field name with
  | .present node => read node
  | _ => none

/-- Reads a field that a mapping may leave out and that may be null. -/
def optional? {α : Type} (record : Record) (name : String) (read : Node → Option α) :
    Option (Option α) :=
  match record.field name with
  | .present node => node.option? read
  | .absent => some none
  | .missing => none

/-- Reads a field that has a value of its own where it is left out. -/
def defaulted? {α : Type} (record : Record) (name : String) (value : α)
    (read : Node → Option α) : Option α :=
  match record.field name with
  | .present node => read node
  | _ => some value

end Record

/-- Reads a flag. -/
def toBool? : Node → Option Bool
  | .bool b => some b
  | .scalar s => s.toBool?
  | _ => none

/-- Reads a count of at most 64 bits. -/
def toCount? : Node → Option Nat
  | .number (.integer n) => if 0 ≤ n ∧ n.toNat < Nat.pow 2 64 then some n.toNat else none
  | .scalar s => s.toCount?
  | _ => none

/-- Reads a binary64 number. -/
def toFloat? : Node → Option Binary64
  | .number n => some n.toBinary64
  | .scalar s => s.toFloat?
  | _ => none

/-- Reads the name of a choice: a string, a local tag before nothing, or a mapping of
the name to null.  A resolved name may be the number of the choice. -/
def toChoice? (names : List String) : Node → Option String
  | .string s => some s
  | .scalar s =>
      match Yaml.Scalar.localTag? s.tag with
      | none => some s.text
      | some name =>
          if s.style = .plain && (s.text = "" || Yaml.Scalar.denotesNull s.text) then some name
          else none
  | .mapping _ [(.string name, .null)] => some name
  | .mapping _ [(.number (.integer n), .null)] =>
      if 0 ≤ n then some ((names[n.toNat]?).getD "") else none
  | _ => none

/-- Opens a list. -/
def items? (limit : Nat) : Node → Option (List Node)
  | .array items => if limit = 0 then none else some items
  | .sequence _ items => if limit = 0 then none else some items
  | .scalar s => if s.isEmptyPlain then some [] else none
  | _ => none

/-- Reads the keys of entries as text. -/
def keyed? : List (Node × Node) → Option (List (String × Node))
  | [] => some []
  | (key, value) :: rest => do
      let key ← key.text?
      let rest ← keyed? rest
      return (key, value) :: rest

/-- Opens a map. -/
def entries? (limit : Nat) : Node → Option (List (String × Node))
  | .mapping _ entries => if limit = 0 then none else keyed? entries
  | .scalar s => if s.isEmptyPlain then some [] else none
  | _ => none

/-- Reads a list of values. -/
def list? {α : Type} (read : Nat → Node → Option α) (limit : Nat) (node : Node) :
    Option (List α) := do
  (← node.items? limit).mapM (read (limit - 1))

/-- Puts a value into a map: in the place of the value that the key has, or at the
end. -/
def putLast {α : Type} (key : String) (value : α) : List (String × α) → List (String × α)
  | [] => [(key, value)]
  | (k, v) :: rest => if key = k then (key, value) :: rest else (k, v) :: putLast key value rest

/-- The map of entries, of which the last one of a key counts. -/
def mapOfEntries {α : Type} (entries : List (String × α)) : List (String × α) :=
  entries.foldl (fun map e => putLast e.1 e.2 map) []

/-- Reads the values of entries. -/
def values? {α : Type} (read : Node → Option α) :
    List (String × Node) → Option (List (String × α))
  | [] => some []
  | (key, node) :: rest => do
      let value ← read node
      let rest ← values? read rest
      return (key, value) :: rest

/-- Reads a map of values. -/
def map? {α : Type} (read : Nat → Node → Option α) (limit : Nat) (node : Node) :
    Option (List (String × α)) := do
  let values ← values? (read (limit - 1)) (← node.entries? limit)
  return mapOfEntries values

end Node
end ApiContract
