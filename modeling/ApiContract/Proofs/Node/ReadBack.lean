import ApiContract.Document.Encode
import ApiContract.Node.Record
import ApiContract.Proofs.Json.Canonical
import ApiContract.Proofs.Text.Lookup

/-!
# Reading back what was written

Lists, maps and records are read back as what was written if their parts are.  A reader is
given a limit for the containers that are nested in what it reads, and every limit does
that the nesting does not exceed.
-/

namespace ApiContract
namespace Node

/-- The value is read back from the node of what is written of it, with every limit that
the nesting does not exceed. -/
def ReadsBack {α : Type} (read : ℕ → Node → Option α) (write : α → Json) (x : α) : Prop :=
  ∀ limit, (ofJson (write x)).depth ≤ limit → read limit (ofJson (write x)) = some x

variable {α : Type} {read : ℕ → Node → Option α} {write : α → Json} {limit : ℕ} {value : Json}
  {name : String}

/-! ## Leaves -/

@[simp] theorem text?_ofJson (text : String) : text? (ofJson (.string text)) = some text :=
  rfl

@[simp] theorem toBool?_ofJson (flag : Bool) : toBool? (ofJson (.bool flag)) = some flag :=
  rfl

theorem toCount?_ofCount {n : ℕ} (h : n < 2 ^ 64) : toCount? (ofJson (.ofCount n)) = some n :=
  if_pos ⟨Int.natCast_nonneg n, h⟩

theorem ofBinary64_of_isFinite {x : Binary64} (h : x.isFinite = true) :
    Json.ofBinary64 x = .number (.float x) :=
  if_pos h

/-! ## Optional values -/

theorem option?_ofJson (read : Node → Option α) (h : value ≠ .null) :
    option? read (ofJson value) = (read (ofJson value)).map some := by
  cases value with
  | null => exact absurd rfl h
  | _ => rfl

theorem option?_ofOption {read : Node → Option α} {x : Option α}
    (h : ∀ v, x = some v → write v ≠ .null ∧ read (ofJson (write v)) = some v) :
    option? read (ofJson (.ofOption write x)) = some x := by
  cases x with
  | none => rfl
  | some v =>
      obtain ⟨hnull, hread⟩ := h v rfl
      rw [Json.ofOption, option?_ofJson read hnull, hread, Option.map_some]

@[simp] theorem option?_ofText? (text : Option String) :
    option? text? (ofJson (.ofText? text)) = some text := by
  cases text <;> rfl

theorem option?_ofCount {x : Option ℕ} (h : ∀ n, x = some n → n < 2 ^ 64) :
    option? toCount? (ofJson (.ofOption .ofCount x)) = some x := by
  apply option?_ofOption
  intro n hn
  exact ⟨by simp [Json.ofCount], toCount?_ofCount (h n hn)⟩

theorem option?_ofBinary64 {x : Option Binary64} (h : ∀ v, x = some v → v.isFinite = true) :
    option? toFloat? (ofJson (.ofOption .ofBinary64 x)) = some x := by
  apply option?_ofOption
  intro v hv
  rw [ofBinary64_of_isFinite (h v hv)]
  exact ⟨by simp, rfl⟩

/-! ## Lists -/

theorem mapM_ofItems {read : Node → Option α} {xs : List α}
    (h : ∀ x ∈ xs, read (ofJson (write x)) = some x) :
    (ofItems (xs.map write)).mapM read = some xs := by
  induction xs with
  | nil => rfl
  | cons x xs ih =>
      obtain ⟨hx, hxs⟩ := List.forall_mem_cons.mp h
      rw [List.map_cons, ofItems, List.mapM_cons, hx, ih hxs]
      rfl

theorem readsBack_list {xs : List α} (h : ∀ x ∈ xs, ReadsBack read write x) :
    ReadsBack (list? read) (.ofList write) xs := by
  intro limit hdepth
  rw [Json.ofList] at hdepth ⊢
  obtain ⟨limit, rfl⟩ := Nat.exists_eq_succ_of_ne_zero (Nat.ne_zero_of_lt hdepth)
  have hread : (ofItems (xs.map write)).mapM (read limit) = some xs := by
    apply mapM_ofItems
    intro x hx
    exact h x hx limit (depth_item_le hdepth (List.mem_map_of_mem hx))
  rw [list?, ofJson, items?, if_neg (Nat.succ_ne_zero limit)]
  exact hread

theorem readsBack_texts (texts : List String) :
    ReadsBack (list? fun _ => text?) (.ofList .string) texts :=
  readsBack_list fun _ _ _ _ => rfl

theorem readsBack_values {values : List Json} (h : ∀ v ∈ values, v.Canonical) :
    ReadsBack (list? toJson?) .array values := by
  have hwrite : (Json.ofList id : List Json → Json) = .array := by
    funext values
    rw [Json.ofList, List.map_id]
  rw [← hwrite]
  apply readsBack_list
  intro v hv limit hdepth
  exact toJson?_ofJson (h v hv) hdepth

/-! ## Maps -/

theorem keyed?_ofMembers (members : List (String × Json)) :
    keyed? (ofMembers members) = some (members.map fun m => (m.1, ofJson m.2)) := by
  induction members with
  | nil => rfl
  | cons first rest ih =>
      rw [ofMembers, keyed?, ih]
      rfl

theorem values?_ofMembers {read : Node → Option α} {map : List (String × α)}
    (h : ∀ e ∈ map, read (ofJson (write e.2)) = some e.2) :
    values? read (map.map fun e => (e.1, ofJson (write e.2))) = some map := by
  induction map with
  | nil => rfl
  | cons first rest ih =>
      obtain ⟨hfirst, hrest⟩ := List.forall_mem_cons.mp h
      rw [List.map_cons, values?, hfirst, ih hrest]
      rfl

theorem putLast_of_fresh {x : α} {map : List (String × α)} (h : name ∉ map.map (·.1)) :
    putLast name x map = map ++ [(name, x)] := by
  induction map with
  | nil => rfl
  | cons first rest ih =>
      obtain ⟨hfirst, hrest⟩ := not_or.mp (mt List.mem_cons.mpr h)
      rw [putLast, if_neg hfirst, ih hrest, List.cons_append]

/-- Entries with different keys are a map already. -/
theorem mapOfEntries_of_nodup {map : List (String × α)} (h : (map.map (·.1)).Nodup) :
    mapOfEntries map = map := by
  suffices hfold : ∀ start : List (String × α), ((start ++ map).map (·.1)).Nodup →
      map.foldl (fun map e => putLast e.1 e.2 map) start = start ++ map from hfold [] h
  clear h
  induction map with
  | nil =>
      intro start _
      exact (List.append_nil start).symm
  | cons first rest ih =>
      intro start hkeys
      have hfresh : first.1 ∉ start.map (·.1) := by
        rw [List.map_append] at hkeys
        exact fun hmem => (List.nodup_append.mp hkeys).2.2 _ hmem _ List.mem_cons_self rfl
      rw [List.foldl_cons, putLast_of_fresh hfresh, ih _ (by simpa using hkeys),
        List.append_assoc, List.singleton_append]

theorem readsBack_map {map : List (String × α)} (hkeys : (map.map (·.1)).Nodup)
    (h : ∀ e ∈ map, ReadsBack read write e.2) :
    ReadsBack (map? read) (.ofMap write) map := by
  intro limit hdepth
  rw [Json.ofMap] at hdepth ⊢
  obtain ⟨limit, rfl⟩ := Nat.exists_eq_succ_of_ne_zero (Nat.ne_zero_of_lt hdepth)
  have hread : values? (read limit) (map.map fun e => (e.1, ofJson (write e.2))) = some map := by
    apply values?_ofMembers
    intro e he
    exact h e he limit (depth_member_le hdepth (List.mem_map.mpr ⟨e, he, rfl⟩))
  have hentries : entries? (limit + 1) (ofJson (.object (map.map fun e => (e.1, write e.2)))) =
      some (map.map fun e => (e.1, ofJson (write e.2))) := by
    rw [ofJson, entries?, if_neg (Nat.succ_ne_zero limit), keyed?_ofMembers, List.map_map]
    rfl
  have hmap : (values? (read limit) (map.map fun e => (e.1, ofJson (write e.2)))).bind
      (fun values => some (mapOfEntries values)) = some map := by
    rw [hread, Option.bind_some, mapOfEntries_of_nodup hkeys]
  rw [map?, hentries]
  exact hmap

/-! ## Records -/

/-- The record that an object is read as if its members are the fields. -/
def written (members : List (String × Json)) : Record :=
  members.map fun m => (m.1, .present (ofJson m.2))

@[simp] theorem field_written_self (members : List (String × Json)) :
    (written ((name, value) :: members)).field name = .present (ofJson value) := by
  rw [Record.field, written, List.map_cons, List.lookup_cons_self, Option.getD_some]

@[simp] theorem field_written_of_ne {other : String} (members : List (String × Json))
    (h : name ≠ other) :
    (written ((other, value) :: members)).field name = (written members).field name := by
  rw [Record.field, written, List.map_cons, List.lookup_cons, beq_false_of_ne h]
  rfl

theorem fieldEntries?_ofMembers {names : List String} {members : List (String × Json)}
    (hnames : ∀ m ∈ members, m.1 ∈ names) (hkeys : (members.map (·.1)).Nodup) :
    fieldEntries? names (ofMembers members) =
      some (members.map fun m => (m.1, ofJson m.2)) := by
  induction members with
  | nil => rfl
  | cons first rest ih =>
      obtain ⟨hfirst, hrest⟩ := List.forall_mem_cons.mp hnames
      obtain ⟨hfresh, hdistinct⟩ := List.nodup_cons.mp hkeys
      have hfield : fieldOf? names (.string first.1) = some (some first.1) := by
        simp [fieldOf?, hfirst]
      have hunused : (rest.map fun m => (m.1, ofJson m.2)).lookup first.1 = none := by
        apply List.lookup_eq_none_iff.mpr
        intro entry hentry
        obtain ⟨m, hm, rfl⟩ := List.mem_map.mp hentry
        apply bne_iff_ne.mpr
        intro hsame
        exact hfresh (List.mem_map.mpr ⟨m, hm, hsame.symm⟩)
      rw [ofMembers, fieldEntries?, hfield, ih hrest hdistinct]
      simp [hunused]

/-- A limit that lets an object be read leaves enough for what is in it. -/
theorem exists_lower_of_object {members : List (String × Json)}
    (h : (ofJson (.object members)).depth ≤ limit) :
    ∃ lower, limit = lower + 1 ∧ ∀ value ∈ members.map (·.2), (ofJson value).depth ≤ lower := by
  obtain ⟨lower, rfl⟩ := Nat.exists_eq_succ_of_ne_zero (Nat.ne_zero_of_lt h)
  refine ⟨lower, rfl, ?_⟩
  intro value hvalue
  obtain ⟨⟨key, _⟩, hmem, rfl⟩ := List.mem_map.mp hvalue
  exact depth_member_le h hmem

/-- An object whose members are the fields is read as the record of them. -/
theorem record?_ofObject {names : List String} {members : List (String × Json)}
    (hnames : members.map (·.1) = names) (hkeys : names.Nodup) :
    record? names (ofJson (.object members)) = some (written members) := by
  subst hnames
  have hentries := fieldEntries?_ofMembers (fun m hm => List.mem_map_of_mem hm) hkeys
  have hlookup {m : String × Json} (hm : m ∈ members) :
      (members.map fun m => (m.1, ofJson m.2)).lookup m.1 = some (ofJson m.2) := by
    rw [lookup_eq_some_iff_mem (by rwa [List.map_map])]
    exact List.mem_map.mpr ⟨m, hm, rfl⟩
  rw [ofJson, record?, hentries]
  simp only [Option.bind_eq_bind, Option.bind_some, List.map_map, written]
  congr 1
  apply List.map_congr_left
  intro m hm
  simp only [Function.comp_apply, hlookup hm]

end Node
end ApiContract
