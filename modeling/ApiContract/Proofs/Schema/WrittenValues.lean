import ApiContract.Json.Render
import ApiContract.Proofs.Schema.Subtypes

/-!
# Values written as text

Where a schema expects an array or an object, a text that writes one stands for it.  The
text is read anew wherever references and compositions end; if each schema there is one of
the kind of value that the text writes, the text and the value cannot be told apart.
-/

namespace ApiContract

/-- The types of schemas that read a text which writes the value: arrays are expected by
their type, objects also where there is no type. -/
def Json.typesOfText : Json → List (Option ValueType)
  | .array _ => [some .array]
  | .object _ => [some .object, none]
  | _ => []

/-! ## One schema -/

namespace Schema

variable {text : String} {value : Json} {schema : Schema}

theorem itemsOf?_string {items : List Json} (h : Json.parse? text.toList = some (.array items)) :
    itemsOf? (.string text) = itemsOf? (.array items) := by
  simp [itemsOf?, h]

theorem membersOf?_string {members : List (String × Json)}
    (h : Json.parse? text.toList = some (.object members)) :
    membersOf? (.string text) = membersOf? (.object members) := by
  simp [membersOf?, h]

/-- A type that reads the text judges it as what it writes. -/
theorem acceptsType_string (hread : Json.parse? text.toList = some value)
    (htype : schema.type ∈ value.typesOfText) (judge : Judge) :
    schema.acceptsType judge (.string text) = schema.acceptsType judge value := by
  cases value with
  | array items =>
      obtain harray : schema.type = some .array := by simpa [Json.typesOfText] using htype
      simp only [acceptsType, harray, acceptsArray, itemsOf?_string hread]
  | object members =>
      obtain hobject | hnone : schema.type = some .object ∨ schema.type = none := by
        simpa [Json.typesOfText] using htype
      · simp only [acceptsType, hobject, acceptsObject, membersOf?_string hread]
      · simp only [acceptsType, hnone, acceptsObject, membersOf?_string hread]
  | _ => simp [Json.typesOfText] at htype

end Schema

namespace Components

/-! ## References and compositions -/

/-- References and compositions lead from a schema to ones without discriminator, and end
at some of these types. -/
structure EndsAt (components : Components) (types : List (Option ValueType))
    (start : Schema) : Prop where
  discriminator_eq : ∀ schema, components.Reaches start schema → schema.discriminator = none
  type_mem : ∀ schema, components.Reaches start schema → schema.IsEnd → schema.type ∈ types

variable {components : Components} {start schema : Schema} {value value' : Json}
  {types : List (Option ValueType)}

/-- The keyword of a schema decides alike about two values if the judge does for all schemas
to which it may lead, and the type does where references and compositions end. -/
theorem decideBy_congr {judge : Judge} {dispatched : List String}
    (hschema : components.Reaches start schema)
    (hjudge : ∀ target, components.Reaches start target →
      judge value target dispatched = judge value' target dispatched)
    (hend : schema.IsEnd → schema.acceptsType judge value = schema.acceptsType judge value') :
    components.decideBy judge value schema dispatched (schema.keyword false) =
      components.decideBy judge value' schema dispatched (schema.keyword false) := by
  have hmembers {members : List Schema} (hkeyword : (schema.keyword false).members = members) :
      ∀ member ∈ members, judge value member dispatched = judge value' member dispatched := by
    intro member hmem
    exact hjudge member (hschema.of_mem_members (hkeyword ▸ hmem))
  cases hkeyword : schema.keyword false with
  | reference reference =>
      cases htarget : components.schema? reference with
      | none => simp only [decideBy, htarget, Option.any_none]
      | some target =>
          obtain ⟨name, hresolves⟩ := schema?_eq_some_iff.mp htarget
          simp only [decideBy, htarget, Option.any_some]
          exact hjudge target (hschema.reference (Schema.ref_eq_of_keyword hkeyword) hresolves)
  | allOf members =>
      have hsame := hmembers (congrArg Keyword.members hkeyword)
      simp only [decideBy]
      rw [Bool.eq_iff_iff, List.all_eq_true, List.all_eq_true]
      exact forall₂_congr fun member hmem => by rw [hsame member hmem]
  | oneOf members =>
      have hsame := hmembers (congrArg Keyword.members hkeyword)
      simp only [decideBy]
      rw [List.countP_congr fun member hmem => by rw [hsame member hmem]]
  | anyOf members =>
      have hsame := hmembers (congrArg Keyword.members hkeyword)
      simp only [decideBy]
      rw [Bool.eq_iff_iff, List.any_eq_true, List.any_eq_true]
      exact exists_congr fun member =>
        and_congr_right fun hmem => by rw [hsame member hmem]
  | type => exact hend (Schema.isEnd_of_keyword hkeyword)

/-- At every depth a text is judged as the value that it writes. -/
theorem acceptsWithin_string {text : String} (hread : Json.parse? text.toList = some value)
    (hends : components.EndsAt value.typesOfText start) (hvalue : value ≠ .null) (depth : ℕ)
    (hschema : components.Reaches start schema) (dispatched : List String) :
    components.acceptsWithin depth (.string text) schema dispatched =
      components.acceptsWithin depth value schema dispatched := by
  induction depth generalizing schema with
  | zero => rfl
  | succ depth ih =>
      have hdispatch (judged : Json) :
          components.dispatch schema judged dispatched = goesOn false := by
        simp [dispatch, hends.discriminator_eq schema hschema, goesOn]
      have hlive {judged : Json} (hne : judged ≠ .null) : ¬IsExempt judged schema :=
        fun hexempt => hne hexempt.1
      rw [acceptsWithin, step_of_goesOn (hlive Json.noConfusion) (hdispatch _),
        step_of_goesOn (hlive hvalue) (hdispatch _)]
      refine decideBy_congr hschema (fun target htarget => ih htarget) ?_
      intro hend
      exact Schema.acceptsType_string hread (hends.type_mem schema hschema hend) _

theorem accepts_string {text : String} (hread : Json.parse? text.toList = some value)
    (hends : components.EndsAt value.typesOfText schema) (hvalue : value.typesOfText ≠ []) :
    components.accepts (.string text) schema = components.accepts value schema := by
  refine acceptsWithin_string hread hends ?_ (maxDepth + 1) .start []
  rintro rfl
  exact hvalue rfl

end Components
end ApiContract
