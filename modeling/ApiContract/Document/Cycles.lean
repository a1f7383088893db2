import ApiContract.Document.Components

/-!
# Reference cycles

A component schema that reaches itself by references and composition alone would be
applied to the same value for ever.  `Components.cycle?` finds such a schema by a
depth-first walk from every component in the order of names.
-/

namespace ApiContract

mutual
/-- The names of the references that a schema applies to the same value.  Alternatives
under a discriminator are not among them, since the selected schema replaces them. -/
def Schema.sameValueRefs : Schema → List String
  | ⟨keywords, _, _, allOf, oneOf, anyOf, _⟩ =>
      (keywords.ref.map refName).toList ++ refsOfMembers allOf ++
        if keywords.discriminator.isSome then []
        else refsOfMembers oneOf ++ refsOfMembers anyOf

/-- The names of the references of the members of a composition. -/
def refsOfMembers : Option (List Schema) → List String
  | none => []
  | some schemas => refsOfSchemas schemas

/-- The names of the references of schemas. -/
def refsOfSchemas : List Schema → List String
  | [] => []
  | schema :: rest => schema.sameValueRefs ++ refsOfSchemas rest
end

namespace Components

/-- The outcome of a walk: the components that are finished, or one that was reached
again while it was being visited. -/
abbrev Walk := Except String (List String)

/-- Visits a component: those it reaches first, and itself last.  `path` holds the
components being visited; every visit makes it longer, so the number of components
bounds the depth. -/
def visit (components : Components) (fuel : Nat) (path done : List String)
    (name : String) : Walk :=
  match fuel with
  | 0 => .ok done
  | fuel + 1 =>
      if done.contains name then .ok done
      else if path.contains name then .error name
      else
        match components.schemas.lookup name with
        | none => .ok done
        | some schema =>
            (schema.sameValueRefs.foldlM (visit components fuel (name :: path)) done).map
              (name :: ·)

/-- The names of the component schemas in ascending order. -/
def sortedNames (components : Components) : List String :=
  (components.schemas.map (·.1)).mergeSort fun a b => a ≤ b

/-- A component schema that reaches itself, if there is one. -/
def cycle? (components : Components) : Option String :=
  let fuel := components.schemas.length + 1
  match components.sortedNames.foldlM (visit components fuel []) [] with
  | .ok _ => none
  | .error name => some name

end Components
end ApiContract
