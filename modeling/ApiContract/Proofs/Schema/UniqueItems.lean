import ApiContract.Proofs.Json.UniqueText
import ApiContract.Proofs.Schema.Rules
import ApiContract.Proofs.Text.Lookup

/-!
# Unique items

A schema that asks for unique items refuses exactly the arrays that hold a value twice.  Two
objects are the same value if they have the same keys with the same values, in whatever order
these are written; comparing values is comparing their compact texts.
-/

namespace ApiContract
namespace Json

/-- Two values are the same: objects have the same keys with the same values, arrays the same
values in the same order. -/
inductive Same : Json → Json → Prop
  | null : Same .null .null
  | bool (flag : Bool) : Same (.bool flag) (.bool flag)
  | number (n : Number) : Same (.number n) (.number n)
  | string (text : String) : Same (.string text) (.string text)
  | array {items others : List Json} (length_eq : items.length = others.length)
      (each : ∀ i (h : i < items.length) (h' : i < others.length), Same items[i] others[i]) :
      Same (.array items) (.array others)
  | object {members others : List (String × Json)}
      (keys : ∀ key, (members.lookup key).isSome = (others.lookup key).isSome)
      (each : ∀ key value other, members.lookup key = some value →
        others.lookup key = some other → Same value other) :
      Same (.object members) (.object others)

variable {a b : Json} {members others : List (String × Json)}

/-- Members in the order of their keys are determined by what the keys lead to. -/
theorem eq_of_lookup_eq (hmembers : (members.map (·.1)).Pairwise (· < ·))
    (hothers : (others.map (·.1)).Pairwise (· < ·))
    (h : ∀ key, members.lookup key = others.lookup key) : members = others := by
  have hkeys : (members.map (·.1)).Nodup := hmembers.imp ne_of_lt
  have hkeys' : (others.map (·.1)).Nodup := hothers.imp ne_of_lt
  have hperm : members.Perm others := by
    refine (List.perm_ext_iff_of_nodup hkeys.of_map hkeys'.of_map).mpr ?_
    rintro ⟨key, value⟩
    rw [← lookup_eq_some_iff_mem hkeys, ← lookup_eq_some_iff_mem hkeys', h key]
  refine List.Perm.eq_of_pairwise ?_ (List.pairwise_map.mp hmembers)
    (List.pairwise_map.mp hothers) hperm
  intro member other _ _ hless hgreater
  exact absurd (hless.trans hgreater) (lt_irrefl _)

theorem Same.refl (ha : a.Canonical) : a.Same a := by
  induction ha with
  | null => exact .null
  | bool flag => exact .bool flag
  | integer n => exact .number _
  | float hfinite => exact .number _
  | string text => exact .string text
  | array heach ih => exact .array rfl fun i hi _ => ih _ (List.getElem_mem hi)
  | object hascending heach ih =>
    refine .object (fun _ => rfl) ?_
    intro key value other hvalue hother
    obtain rfl := Option.some_inj.mp (hvalue.symm.trans hother)
    exact ih (key, value) (mem_of_lookup hvalue)

/-- Canonical values that are the same are equal. -/
theorem Same.eq (h : a.Same b) (ha : a.Canonical) (hb : b.Canonical) : a = b := by
  induction h with
  | null => rfl
  | bool flag => rfl
  | number n => rfl
  | string text => rfl
  | array hlength heach ih =>
    cases ha with
    | array hitems =>
      cases hb with
      | array hothers =>
        congr 1
        exact List.ext_getElem hlength fun i hi hi' =>
          ih i hi hi' (hitems _ (List.getElem_mem hi)) (hothers _ (List.getElem_mem hi'))
  | @object members others hkeys heach ih =>
    cases ha with
    | object hascending hmembers =>
      cases hb with
      | object hascending' hothers =>
        congr 1
        refine eq_of_lookup_eq hascending hascending' fun key => ?_
        have hkey := hkeys key
        cases hvalue : members.lookup key with
        | none =>
          rw [hvalue, Option.isSome_none, eq_comm, Option.isSome_eq_false_iff,
            Option.isNone_iff_eq_none] at hkey
          rw [hkey]
        | some value =>
          rw [hvalue, Option.isSome_some, eq_comm, Option.isSome_iff_exists] at hkey
          obtain ⟨other, hother⟩ := hkey
          rw [hother, ih key value other hvalue hother
            (hmembers _ (mem_of_lookup hvalue)) (hothers _ (mem_of_lookup hother))]

/-- Values that are written differently are different, and canonical ones only these. -/
theorem nodup_map_render_iff {items : List Json} (hitems : ∀ item ∈ items, item.Canonical) :
    (items.map render).Nodup ↔ items.Nodup := by
  refine ⟨List.Nodup.of_map _, fun hnodup => (List.nodup_map_iff_inj_on hnodup).mpr ?_⟩
  intro item hitem other hother htext
  exact (render_inj (hitems item hitem) (hitems other hother)).mp htext

end Json

/-- The schema asks for arrays with unique items, and for nothing else. -/
structure Schema.AsksUnique (schema : Schema) : Prop where
  isEnd : schema.IsEnd
  discriminator_eq : schema.discriminator = none
  type_eq : schema.type = some .array
  uniqueItems_eq : schema.uniqueItems = true
  minItems_eq : schema.minItems = none
  maxItems_eq : schema.maxItems = none
  items_eq : schema.items = none

namespace Components

variable {components : Components} {schema : Schema} {items : List Json}

theorem accepts_array_eq (hschema : schema.AsksUnique) :
    components.accepts (.array items) schema = true ↔ (items.map Json.render).Nodup := by
  rw [accepts_of_isEnd hschema.isEnd hschema.discriminator_eq
    (fun hexempt => Json.noConfusion hexempt.1), ← Schema.hasRepeat_eq_false_iff]
  simp [Schema.acceptsType, Schema.acceptsArray, Schema.itemsOf?, isBetween, hschema.type_eq,
    hschema.uniqueItems_eq, hschema.minItems_eq, hschema.maxItems_eq, hschema.items_eq]

/-- An array is accepted exactly if no two of its positions hold the same value, which is
exactly if the texts of its items are different. -/
theorem accepts_unique_iff (hschema : schema.AsksUnique)
    (hitems : ∀ item ∈ items, item.Canonical) :
    (components.accepts (.array items) schema = true ↔
      ∀ i j (hi : i < items.length) (hj : j < items.length),
        items[i].Same items[j] → i = j) ∧
      (components.accepts (.array items) schema = true ↔ (items.map Json.render).Nodup) := by
  refine ⟨?_, accepts_array_eq hschema⟩
  rw [accepts_array_eq hschema, Json.nodup_map_render_iff hitems]
  constructor
  · intro hnodup i j hi hj hsame
    have heq := hsame.eq (hitems _ (List.getElem_mem hi)) (hitems _ (List.getElem_mem hj))
    exact hnodup.getElem_inj_iff.mp heq
  · intro hunique
    rw [List.nodup_iff_injective_get]
    intro i j heq
    have hcanonical := hitems _ (List.getElem_mem i.isLt)
    have hsame : items[(i : ℕ)].Same items[(j : ℕ)] := by
      rw [List.get_eq_getElem, List.get_eq_getElem] at heq
      rw [← heq]
      exact .refl hcanonical
    exact Fin.ext (hunique i j i.isLt j.isLt hsame)

def uniqueSchema : Schema where
  type := some .array
  uniqueItems := true

/-- Values whose texts differ only in a point, a sign, a quote or a bracket. -/
def closeItems : List Json :=
  [.number (.integer 1), .number (.float (.ofInt 1)), .string "1", .number (.float (.zero false)),
    .number (.float (.zero true)), .string "1\",\"[", .array [], .object [], .array [.array []],
    .object [("a", .array [.string "1"]), ("b", .null)],
    .object [("a", .array [.string "1", .null])]]

theorem canonical_closeItems : ∀ item ∈ closeItems, item.Canonical := by
  have hnested : ∀ item ∈ [Json.array []], item.Canonical :=
    List.forall_mem_singleton.mpr (.array (List.forall_mem_nil _))
  have hshort : (Json.array [.string "1"]).Canonical :=
    .array (List.forall_mem_singleton.mpr (.string "1"))
  have hlong : (Json.array [.string "1", .null]).Canonical :=
    .array (List.forall_mem_cons.mpr ⟨.string "1", List.forall_mem_singleton.mpr .null⟩)
  have hless : "a" < "b" := by decide +kernel
  simp only [closeItems, List.forall_mem_cons, List.not_mem_nil, false_imp_iff, implies_true,
    and_true]
  exact ⟨.integer 1, .float (by decide +kernel), .string _, .float rfl, .float rfl, .string _,
    .array (List.forall_mem_nil _), .object List.Pairwise.nil (List.forall_mem_nil _),
    .array hnested,
    .object (by simpa using hless)
      (List.forall_mem_cons.mpr ⟨hshort, List.forall_mem_singleton.mpr .null⟩),
    .object (by simp) (List.forall_mem_singleton.mpr hlong)⟩

theorem accepts_unique_iff_closeItems :
    uniqueSchema.AsksUnique ∧ (∀ item ∈ closeItems, item.Canonical) ∧
      (∀ i j (hi : i < closeItems.length) (hj : j < closeItems.length),
        closeItems[i].Same closeItems[j] → i = j) ∧
      (closeItems.map Json.render).Nodup := by
  have hschema : uniqueSchema.AsksUnique :=
    ⟨⟨rfl, rfl, rfl, rfl⟩, rfl, rfl, rfl, rfl, rfl, rfl⟩
  have haccepted : Components.accepts {} (.array closeItems) uniqueSchema = true := by
    decide +kernel
  exact ⟨hschema, canonical_closeItems,
    (accepts_unique_iff hschema canonical_closeItems).1.mp haccepted,
    (accepts_unique_iff hschema canonical_closeItems).2.mp haccepted⟩

end Components
end ApiContract
