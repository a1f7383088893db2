import ApiContract.Node.Basic
import ApiContract.Yaml.Anchor

/-!
# Reading YAML text

`Node.ofYaml?` reads a text as a node, in which the nodes that aliases refer to stand in
their places.  Not more than a hundred aliases for each part of the document are
followed, and nothing is followed deeper than a reader goes; what lies beyond is
unreadable.
-/

namespace ApiContract
namespace Node

/-- The collections that may be nested in a YAML text where they are read. -/
def yamlDepthLimit : Nat := 128

/-- Whether a collection has a tag of the document's own. -/
def hasLocalTag (tag : Option String) : Bool :=
  (Yaml.Scalar.localTag? tag).isSome

/-- Puts the nodes that aliases refer to in their places.  `depth` bounds the
collections and aliases on the way to a node, and `jumps` the aliases that are
followed; the answer holds the jumps that are left. -/
def expand (anchors : Yaml.Anchors) :
    (depth : Nat) → Yaml.Tree Nat → (jumps : Nat) → Node × Nat
  | _, .scalar _ s, jumps => (.scalar s, jumps)
  | 0, _, jumps => (.unreadable, jumps)
  | _ + 1, .alias _, 0 => (.unreadable, 0)
  | depth + 1, .alias target, jumps + 1 =>
      match anchors.node? target with
      | some tree => expand anchors depth tree jumps
      | none => (.unreadable, jumps)
  | depth + 1, .sequence _ tag items, jumps =>
      let step (acc : List Node × Nat) (item : Yaml.Tree Nat) : List Node × Nat :=
        let (node, jumps) := expand anchors depth item acc.2
        (node :: acc.1, jumps)
      let (nodes, jumps) := items.foldl step ([], jumps)
      (.sequence (hasLocalTag tag) nodes.reverse, jumps)
  | depth + 1, .mapping _ tag entries, jumps =>
      let step (acc : List (Node × Node) × Nat) (entry : Yaml.Tree Nat × Yaml.Tree Nat) :
          List (Node × Node) × Nat :=
        let (key, jumps) := expand anchors depth entry.1 acc.2
        let (value, jumps) := expand anchors depth entry.2 jumps
        ((key, value) :: acc.1, jumps)
      let (nodes, jumps) := entries.foldl step ([], jumps)
      (.mapping (hasLocalTag tag) nodes.reverse, jumps)

/-- Reads the only document of a YAML text. -/
def ofYaml? (text : List Char) : Option Node := do
  let tree ← Yaml.Tree.ofText? text
  let (tree, anchors) ← tree.resolveNames? {}
  return (expand anchors (2 * yamlDepthLimit + 2) tree (100 * tree.size)).1

end Node
end ApiContract
