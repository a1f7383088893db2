import ApiContract.Node.Basic
import Mathlib.Data.List.Pairwise
import Mathlib.Data.String.Basic

/-!
# Canonical JSON values

A value is canonical if the members of its objects stand in the order of their keys, each
key once, and its numbers are finite.  Every value that is read from a node is, and the
node of a canonical value is read as the value again.
-/

namespace ApiContract
namespace Json

/-- The members of objects are in the order of their keys, and numbers are finite. -/
inductive Canonical : Json → Prop
  | null : Canonical .null
  | bool (value : Bool) : Canonical (.bool value)
  | integer (value : ℤ) : Canonical (.number (.integer value))
  | float {value : Binary64} (finite : value.isFinite = true) :
      Canonical (.number (.float value))
  | string (value : String) : Canonical (.string value)
  | array {items : List Json} (each : ∀ item ∈ items, Canonical item) : Canonical (.array items)
  | object {members : List (String × Json)} (ascending : (members.map (·.1)).Pairwise (· < ·))
      (each : ∀ member ∈ members, Canonical member.2) : Canonical (.object members)

variable {key : String} {value : Json} {members : List (String × Json)}

/-! ## Members in order -/

theorem mem_of_mem_insertMember {member : String × Json}
    (h : member ∈ insertMember key value members) : member = (key, value) ∨ member ∈ members := by
  induction members with
  | nil => exact Or.inl (List.mem_singleton.mp h)
  | cons first rest ih =>
      rw [insertMember] at h
      split at h
      · exact (List.mem_cons.mp h).imp_right (List.mem_cons_of_mem _)
      · split at h
        · exact List.mem_cons.mp h
        · rcases List.mem_cons.mp h with rfl | h
          · exact Or.inr List.mem_cons_self
          · exact (ih h).imp_right (List.mem_cons_of_mem _)

theorem pairwise_insertMember (h : (members.map (·.1)).Pairwise (· < ·)) :
    ((insertMember key value members).map (·.1)).Pairwise (· < ·) := by
  induction members with
  | nil => exact List.pairwise_singleton _ _
  | cons first rest ih =>
      obtain ⟨k, v⟩ := first
      obtain ⟨hfirst, hrest⟩ := List.pairwise_cons.mp h
      rw [insertMember]
      split
      · rename_i hsame
        subst hsame
        exact List.pairwise_cons.mpr ⟨hfirst, hrest⟩
      · rename_i hne
        split
        · rename_i hless
          refine List.pairwise_cons.mpr ⟨?_, h⟩
          intro other hother
          rcases List.mem_cons.mp hother with rfl | hother
          · exact hless
          · exact lt_trans hless (hfirst other hother)
        · rename_i hnotLess
          have hgreater : k < key := lt_of_le_of_ne (not_lt.mp hnotLess) (Ne.symm hne)
          refine List.pairwise_cons.mpr ⟨?_, ih hrest⟩
          intro other hother
          obtain ⟨member, hmember, rfl⟩ := List.mem_map.mp hother
          rcases mem_of_mem_insertMember hmember with rfl | hmember
          · exact hgreater
          · exact hfirst _ (List.mem_map_of_mem hmember)

/-- A key that is greater than all others goes to the end. -/
theorem insertMember_of_greater (h : ∀ member ∈ members, member.1 < key) :
    insertMember key value members = members ++ [(key, value)] := by
  induction members with
  | nil => rfl
  | cons first rest ih =>
      obtain ⟨hfirst, hrest⟩ := List.forall_mem_cons.mp h
      rw [insertMember, if_neg (ne_of_gt hfirst), if_neg (lt_asymm hfirst), ih hrest,
        List.cons_append]

theorem canonical_ofMembers (h : ∀ member ∈ members, member.2.Canonical) :
    (ofMembers members).Canonical := by
  suffices hfold : ∀ object : List (String × Json), (object.map (·.1)).Pairwise (· < ·) →
      (∀ member ∈ object, member.2.Canonical) →
        (Json.object (members.foldl (fun object m => insertMember m.1 m.2 object)
          object)).Canonical from
    hfold [] List.Pairwise.nil (by simp)
  induction members with
  | nil =>
      intro object hascending heach
      exact .object hascending heach
  | cons first rest ih =>
      intro object hascending heach
      obtain ⟨hfirst, hrest⟩ := List.forall_mem_cons.mp h
      refine ih hrest _ (pairwise_insertMember hascending) ?_
      intro member hmember
      rcases mem_of_mem_insertMember hmember with rfl | hmember
      · exact hfirst
      · exact heach member hmember

/-- Members that are in order already stay as they are. -/
theorem ofMembers_of_ascending (h : (members.map (·.1)).Pairwise (· < ·)) :
    ofMembers members = .object members := by
  suffices hfold : ∀ object : List (String × Json),
      ((object ++ members).map (·.1)).Pairwise (· < ·) →
        members.foldl (fun object m => insertMember m.1 m.2 object) object = object ++ members from
    congrArg Json.object (hfold [] h)
  clear h
  induction members with
  | nil =>
      intro object _
      exact (List.append_nil object).symm
  | cons first rest ih =>
      intro object hascending
      have hgreater : ∀ member ∈ object, member.1 < first.1 := by
        intro member hmember
        rw [List.map_append] at hascending
        exact (List.pairwise_append.mp hascending).2.2 _ (List.mem_map_of_mem hmember) _
          List.mem_cons_self
      rw [List.foldl_cons, insertMember_of_greater hgreater, ih _ (by simpa using hascending),
        List.append_assoc, List.singleton_append]

end Json

/-! ## Values and their nodes -/

namespace Node

theorem canonical_jsonOfNumber (n : Number) : (jsonOfNumber n).Canonical := by
  cases n with
  | integer n => exact .integer n
  | float x =>
      rw [jsonOfNumber]
      split
      · rename_i hfinite
        exact .float hfinite
      · exact .null

variable {limit : ℕ} {node : Node} {value : Json}

theorem canonical_of_resolved (resolved : Yaml.Scalar.Resolved) :
    (match resolved with
      | .null => Json.null
      | .bool b => .bool b
      | .integer n => .number (.integer n)
      | .float x => jsonOfNumber (.float x)
      | .string s => .string s).Canonical := by
  cases resolved with
  | null => exact .null
  | bool flag => exact .bool flag
  | integer n => exact .integer n
  | float x => exact canonical_jsonOfNumber (.float x)
  | string text => exact .string text

/-- What a node is read as: a leaf, or what its parts are read as. -/
theorem toJson?_cases (h : node.toJson? limit = some value) :
    value.Canonical ∨
      ∃ lower, limit = lower + 1 ∧
        ((∃ items values, toJsonItems lower items = some values ∧ value = .array values) ∨
          ∃ entries members, toJsonMembers lower entries = some members ∧
            value = .ofMembers members) := by
  have hitems {lower : ℕ} {items : List Node}
      (h : (toJsonItems lower items).map .array = some value) :
      ∃ items values, toJsonItems lower items = some values ∧ value = .array values := by
    obtain ⟨values, hvalues, rfl⟩ := Option.map_eq_some_iff.mp h
    exact ⟨items, values, hvalues, rfl⟩
  cases node with
  | null =>
      obtain rfl : .null = value := by cases limit <;> simpa [toJson?] using h
      exact Or.inl .null
  | bool flag =>
      obtain rfl : .bool flag = value := by cases limit <;> simpa [toJson?] using h
      exact Or.inl (.bool flag)
  | number n =>
      obtain rfl : jsonOfNumber n = value := by cases limit <;> simpa [toJson?] using h
      exact Or.inl (canonical_jsonOfNumber n)
  | string text =>
      obtain rfl : .string text = value := by cases limit <;> simpa [toJson?] using h
      exact Or.inl (.string text)
  | scalar s =>
      left
      cases limit <;>
      · rw [toJson?] at h
        obtain ⟨resolved, -, rfl⟩ := Option.map_eq_some_iff.mp h
        exact canonical_of_resolved resolved
  | unreadable => cases limit <;> simp [toJson?] at h
  | array items =>
      cases limit with
      | zero => simp [toJson?] at h
      | succ lower =>
          rw [toJson?] at h
          exact Or.inr ⟨lower, rfl, Or.inl (hitems h)⟩
  | sequence localTag items =>
      cases limit with
      | zero => simp [toJson?] at h
      | succ lower =>
          rw [toJson?] at h
          split at h
          · cases h
          · exact Or.inr ⟨lower, rfl, Or.inl (hitems h)⟩
  | mapping localTag entries =>
      cases limit with
      | zero => simp [toJson?] at h
      | succ lower =>
          rw [toJson?] at h
          split at h
          · cases h
          · obtain ⟨members, hmembers, rfl⟩ := Option.map_eq_some_iff.mp h
            exact Or.inr ⟨lower, rfl, Or.inr ⟨entries, members, hmembers, rfl⟩⟩

theorem exists_of_mem_toJsonItems {items : List Node} {values : List Json}
    (h : toJsonItems limit items = some values) (hmem : value ∈ values) :
    ∃ item : Node, item.toJson? limit = some value := by
  induction items generalizing values with
  | nil =>
      cases h
      cases hmem
  | cons item items ih =>
      rw [toJsonItems] at h
      obtain ⟨first, hfirst, h⟩ := Option.bind_eq_some_iff.mp h
      obtain ⟨rest, hrest, h⟩ := Option.bind_eq_some_iff.mp h
      cases h
      rcases List.mem_cons.mp hmem with rfl | hmem
      · exact ⟨item, hfirst⟩
      · exact ih hrest hmem

theorem exists_of_mem_toJsonMembers {entries : List (Node × Node)}
    {members : List (String × Json)} {member : String × Json}
    (h : toJsonMembers limit entries = some members) (hmem : member ∈ members) :
    ∃ node : Node, node.toJson? limit = some member.2 := by
  induction entries generalizing members with
  | nil =>
      cases h
      cases hmem
  | cons entry entries ih =>
      rw [toJsonMembers] at h
      obtain ⟨key, -, h⟩ := Option.bind_eq_some_iff.mp h
      obtain ⟨first, hfirst, h⟩ := Option.bind_eq_some_iff.mp h
      obtain ⟨rest, hrest, h⟩ := Option.bind_eq_some_iff.mp h
      cases h
      rcases List.mem_cons.mp hmem with rfl | hmem
      · exact ⟨entry.2, hfirst⟩
      · exact ih hrest hmem

/-- Whatever is read as a value is canonical. -/
theorem canonical_of_toJson? (h : node.toJson? limit = some value) : value.Canonical := by
  induction limit generalizing node value with
  | zero =>
      obtain hleaf | ⟨lower, hlower, -⟩ := toJson?_cases h
      · exact hleaf
      · cases hlower
  | succ limit ih =>
      obtain hleaf | ⟨lower, hlower, ⟨items, values, hvalues, rfl⟩ |
        ⟨entries, members, hmembers, rfl⟩⟩ := toJson?_cases h
      · exact hleaf
      · cases hlower
        apply Json.Canonical.array
        intro value hmem
        obtain ⟨item, hitem⟩ := exists_of_mem_toJsonItems hvalues hmem
        exact ih hitem
      · cases hlower
        apply Json.canonical_ofMembers
        intro member hmem
        obtain ⟨inner, hinner⟩ := exists_of_mem_toJsonMembers hmembers hmem
        exact ih hinner

/-! ## Reading what was written -/

theorem toJsonItems_ofItems {items : List Json}
    (h : ∀ item ∈ items, (ofJson item).toJson? limit = some item) :
    toJsonItems limit (ofItems items) = some items := by
  induction items with
  | nil => rfl
  | cons first rest ih =>
      obtain ⟨hfirst, hrest⟩ := List.forall_mem_cons.mp h
      rw [ofItems, toJsonItems, hfirst, ih hrest]
      rfl

theorem toJsonMembers_ofMembers {members : List (String × Json)}
    (h : ∀ member ∈ members, (ofJson member.2).toJson? limit = some member.2) :
    toJsonMembers limit (ofMembers members) = some members := by
  induction members with
  | nil => rfl
  | cons first rest ih =>
      obtain ⟨hfirst, hrest⟩ := List.forall_mem_cons.mp h
      rw [ofMembers, toJsonMembers, hfirst, ih hrest]
      rfl

theorem depth_le_of_mem_ofItems {items : List Json} {item : Json} (h : item ∈ items) :
    (ofJson item).depth ≤ depthItems (ofItems items) := by
  induction items with
  | nil => cases h
  | cons first rest ih =>
      rw [ofItems, depthItems]
      rcases List.mem_cons.mp h with rfl | h
      · exact Nat.le_max_left _ _
      · exact Nat.le_trans (ih h) (Nat.le_max_right _ _)

theorem depth_le_of_mem_ofMembers {members : List (String × Json)} {member : String × Json}
    (h : member ∈ members) : (ofJson member.2).depth ≤ depthEntries (ofMembers members) := by
  induction members with
  | nil => cases h
  | cons first rest ih =>
      rw [ofMembers, depthEntries]
      rcases List.mem_cons.mp h with rfl | h
      · exact Nat.le_trans (Nat.le_max_right _ _) (Nat.le_max_left _ _)
      · exact Nat.le_trans (ih h) (Nat.le_max_right _ _)

/-- The parts of an array are nested less deep than the array. -/
theorem depth_item_le {items : List Json} {item : Json}
    (h : (ofJson (.array items)).depth ≤ limit + 1) (hmem : item ∈ items) :
    (ofJson item).depth ≤ limit := by
  rw [ofJson, depth] at h
  exact Nat.le_trans (depth_le_of_mem_ofItems hmem) (Nat.le_of_succ_le_succ h)

/-- The values in an object are nested less deep than the object. -/
theorem depth_member_le {members : List (String × Json)} {key : String}
    (h : (ofJson (.object members)).depth ≤ limit + 1) (hmem : (key, value) ∈ members) :
    (ofJson value).depth ≤ limit := by
  rw [ofJson, depth] at h
  exact Nat.le_trans (depth_le_of_mem_ofMembers hmem) (Nat.le_of_succ_le_succ h)

/-- The node of a canonical value is read as the value. -/
theorem toJson?_ofJson (hcanonical : value.Canonical) (hdepth : (ofJson value).depth ≤ limit) :
    (ofJson value).toJson? limit = some value := by
  induction hcanonical generalizing limit with
  | null => cases limit <;> rfl
  | bool flag => cases limit <;> rfl
  | integer n => cases limit <;> rfl
  | float hfinite => cases limit <;> simp [ofJson, toJson?, jsonOfNumber, hfinite]
  | string text => cases limit <;> rfl
  | @array items _ ih =>
      obtain ⟨limit, rfl⟩ := Nat.exists_eq_succ_of_ne_zero (Nat.ne_zero_of_lt hdepth)
      rw [ofJson, toJson?, toJsonItems_ofItems, Option.map_some]
      intro item hitem
      exact ih item hitem (depth_item_le hdepth hitem)
  | @object members hascending _ ih =>
      obtain ⟨limit, rfl⟩ := Nat.exists_eq_succ_of_ne_zero (Nat.ne_zero_of_lt hdepth)
      rw [ofJson, toJson?, if_neg Bool.false_ne_true, toJsonMembers_ofMembers, Option.map_some,
        Json.ofMembers_of_ascending hascending]
      intro member hmember
      exact ih member hmember (depth_member_le hdepth hmember)

theorem resolveItems_ofItems {items : List Json}
    (h : ∀ item ∈ items, (ofJson item).resolve? limit = some (ofJson item)) :
    resolveItems limit (ofItems items) = some (ofItems items) := by
  induction items with
  | nil => rfl
  | cons first rest ih =>
      obtain ⟨hfirst, hrest⟩ := List.forall_mem_cons.mp h
      rw [ofItems, resolveItems, hfirst, ih hrest]
      rfl

theorem resolveEntries_ofMembers {members : List (String × Json)}
    (h : ∀ member ∈ members, (ofJson member.2).resolve? limit = some (ofJson member.2)) :
    resolveEntries limit (ofMembers members) = some (ofMembers members) := by
  induction members with
  | nil => rfl
  | cons first rest ih =>
      obtain ⟨hfirst, hrest⟩ := List.forall_mem_cons.mp h
      have hkey : resolve? limit (.string first.1) = some (.string first.1) := by
        cases limit <;> rfl
      rw [ofMembers, resolveEntries, hkey, hfirst, ih hrest]
      rfl

/-- Nothing is left to resolve in the node of a value. -/
theorem resolve?_ofJson (hdepth : (ofJson value).depth ≤ limit) :
    (ofJson value).resolve? limit = some (ofJson value) := by
  induction limit generalizing value with
  | zero =>
      cases value with
      | array items => cases hdepth
      | object members => cases hdepth
      | _ => rfl
  | succ limit ih =>
      cases value with
      | array items =>
          rw [ofJson, resolve?, resolveItems_ofItems, Option.map_some]
          intro item hitem
          exact ih (depth_item_le hdepth hitem)
      | object members =>
          rw [ofJson, resolve?, if_neg Bool.false_ne_true, resolveEntries_ofMembers,
            Option.map_some]
          intro member hmember
          exact ih (depth_member_le hdepth hmember)
      | _ => rfl

end Node
end ApiContract
