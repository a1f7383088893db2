import ApiContract.Yaml.Tree

/-!
# Anchors

Every anchor has a number: how many names of anchors were known before it.  An alias
refers to the number that its name has where it stands, and a number to the last node
that was given it.
-/

namespace ApiContract
namespace Yaml

/-- The anchors of a document up to some place. -/
structure Anchors where
  /-- The numbers of the names. -/
  numbers : List (String × Nat) := []
  /-- The places of the numbers, counting nodes with an anchor; the latest first. -/
  places : List (Nat × Nat) := []
  /-- The nodes at the places. -/
  nodes : List (Nat × Tree Nat) := []

namespace Anchors

/-- Gives a node with an anchor its place; `none` stands for a node without one. -/
def declare (anchors : Anchors) : Option String → Anchors × Option Nat
  | none => (anchors, none)
  | some name =>
      let number := anchors.numbers.length
      let place := anchors.places.length
      let numbers := (name, number) :: anchors.numbers.filter fun n => n.1 ≠ name
      ({ anchors with numbers, places := (number, place) :: anchors.places }, some place)

/-- Records the node at a place. -/
def record (anchors : Anchors) (place : Option Nat) (node : Tree Nat) : Anchors :=
  match place with
  | none => anchors
  | some place => { anchors with nodes := (place, node) :: anchors.nodes }

/-- The node that a number refers to. -/
def node? (anchors : Anchors) (number : Nat) : Option (Tree Nat) := do
  anchors.nodes.lookup (← anchors.places.lookup number)

end Anchors

namespace Tree

mutual
/-- Resolves the names of the aliases; `none` if a name is not known yet. -/
def resolveNames? (anchors : Anchors) : Tree String → Option (Tree Nat × Anchors)
  | .alias name => do
      let number ← anchors.numbers.lookup name
      return (.alias number, anchors)
  | .scalar anchor s =>
      let (anchors, place) := anchors.declare anchor
      let node := .scalar anchor s
      some (node, anchors.record place node)
  | .sequence anchor tag items => do
      let (anchors, place) := anchors.declare anchor
      let (items, anchors) ← resolveNamesOfItems? anchors items
      let node := .sequence anchor tag items
      return (node, anchors.record place node)
  | .mapping anchor tag entries => do
      let (anchors, place) := anchors.declare anchor
      let (entries, anchors) ← resolveNamesOfEntries? anchors entries
      let node := .mapping anchor tag entries
      return (node, anchors.record place node)

/-- Resolves the names of the aliases in the items of a sequence. -/
def resolveNamesOfItems? (anchors : Anchors) :
    List (Tree String) → Option (List (Tree Nat) × Anchors)
  | [] => some ([], anchors)
  | item :: rest => do
      let (item, anchors) ← resolveNames? anchors item
      let (rest, anchors) ← resolveNamesOfItems? anchors rest
      return (item :: rest, anchors)

/-- Resolves the names of the aliases in the entries of a mapping. -/
def resolveNamesOfEntries? (anchors : Anchors) :
    List (Tree String × Tree String) → Option (List (Tree Nat × Tree Nat) × Anchors)
  | [] => some ([], anchors)
  | (key, value) :: rest => do
      let (key, anchors) ← resolveNames? anchors key
      let (value, anchors) ← resolveNames? anchors value
      let (rest, anchors) ← resolveNamesOfEntries? anchors rest
      return ((key, value) :: rest, anchors)
end

mutual
/-- The size of a tree: one for an alias or scalar, two for a collection and the sizes
of what it holds. -/
def size {reference : Type} : Tree reference → Nat
  | .alias _ => 1
  | .scalar _ _ => 1
  | .sequence _ _ items => sizeOfItems items + 2
  | .mapping _ _ entries => sizeOfEntries entries + 2

/-- The sum of the sizes of items. -/
def sizeOfItems {reference : Type} : List (Tree reference) → Nat
  | [] => 0
  | item :: rest => item.size + sizeOfItems rest

/-- The sum of the sizes of keys and values. -/
def sizeOfEntries {reference : Type} : List (Tree reference × Tree reference) → Nat
  | [] => 0
  | (key, value) :: rest => key.size + value.size + sizeOfEntries rest
end

end Tree
end Yaml
end ApiContract
