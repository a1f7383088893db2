import ApiContract.Proofs.Store.Loading
import Mathlib.Data.List.Dedup
import Mathlib.Data.List.Perm.Subperm
import Mathlib.Data.List.TakeDrop

/-!
# Guards of configurations

A guard that is made of a configuration has loaded the listed sources one after another
into a store of limited size.  `HoldsSources` says what such a store holds: each name that is
bound answers by the last content listed under it, and a listed name is missing only from
a full store, all of whose names were loaded after it.
-/

namespace ApiContract

/-- The content of a source, if it can be read.  A file comes before a text. -/
def ApiSource.content? (readFile : String → Option (List UInt8)) (source : ApiSource) :
    Option (List UInt8) :=
  match source.specFile, source.specText with
  | some path, _ => readFile path
  | none, some text => some (Utf8.encode text.toList)
  | none, none => none

namespace Guard

variable {readFile : String → Option (List UInt8)} {limits : StoreLimits} {now : Instant}
  {sources : List ApiSource} {source : ApiSource} {store next : Store} {name : String}
  {start position : ℕ} {contract : Contract} {content : List UInt8} {config : GuardConfig}

/-! ## One source -/

/-- The contract was loaded from the source at the position, and is still that of its name
after all sources: those that follow under the name have the same digest. -/
structure LoadedFrom (readFile : String → Option (List UInt8)) (sources : List ApiSource)
    (name : String) (position : ℕ) (contract : Contract) : Prop where
  exists_source : ∃ source content, sources[position]? = some source ∧ source.name = name ∧
    source.content? readFile = some content ∧ Contract.parse content = .ok contract
  digest_eq : ∀ (later : ℕ) (source : ApiSource) (content : List UInt8),
    position < later → sources[later]? = some source → source.name = name →
      source.content? readFile = some content → Sha256.digest content = contract.digest

namespace LoadedFrom

theorem lt_length (h : LoadedFrom readFile sources name position contract) :
    position < sources.length := by
  obtain ⟨source, content, hsource, -⟩ := h.exists_source
  exact (List.getElem?_eq_some_iff.mp hsource).1

theorem mem_names (h : LoadedFrom readFile sources name position contract) :
    name ∈ sources.map (·.name) := by
  obtain ⟨source, content, hsource, rfl, -⟩ := h.exists_source
  exact List.mem_map_of_mem (List.mem_of_getElem? hsource)

theorem name_eq {other : String} {contract' : Contract}
    (h : LoadedFrom readFile sources name position contract)
    (h' : LoadedFrom readFile sources other position contract') : name = other := by
  obtain ⟨source, content, hsource, rfl, -⟩ := h.exists_source
  obtain ⟨source', content', hsource', rfl, -⟩ := h'.exists_source
  rw [Option.some.inj (hsource.symm.trans hsource')]

/-- A source of another name, or one with the same digest, makes no difference. -/
theorem append_singleton (h : LoadedFrom readFile sources name position contract)
    (hsame : source.name = name → ∀ content, source.content? readFile = some content →
      Sha256.digest content = contract.digest) :
    LoadedFrom readFile (sources ++ [source]) name position contract := by
  obtain ⟨loaded, content, hloaded, hname, hcontent⟩ := h.exists_source
  refine ⟨⟨loaded, content, ?_, hname, hcontent⟩, ?_⟩
  · exact (List.getElem?_append_left h.lt_length).trans hloaded
  · intro later again content' hlater hagain hname' hcontent'
    rw [List.getElem?_append] at hagain
    split at hagain
    · exact h.digest_eq later again content' hlater hagain hname' hcontent'
    · obtain rfl := List.mem_singleton.mp (List.mem_of_getElem? hagain)
      exact hsame hname' content' hcontent'

/-- The last source was loaded under its name. -/
theorem last (hcontent : source.content? readFile = some content)
    (hparse : Contract.parse content = .ok contract) :
    LoadedFrom readFile (sources ++ [source]) source.name sources.length contract := by
  refine ⟨⟨source, content, List.getElem?_concat_length, rfl, hcontent, hparse⟩, ?_⟩
  intro later again content' hlater hagain
  have hlength := (List.getElem?_eq_some_iff.mp hagain).1
  rw [List.length_append, List.length_singleton] at hlength
  omega

end LoadedFrom

/-- The contract is that of the content of the source, or of another content that is listed
under its name and has the same digest. -/
def IsContractOf (readFile : String → Option (List UInt8)) (sources : List ApiSource)
    (source : ApiSource) (contract : Contract) : Prop :=
  ∃ content, source.content? readFile = some content ∧
    contract.digest = Sha256.digest content ∧
      (Contract.parse content = .ok contract ∨
        ∃ listed ∈ sources, listed.name = source.name ∧
          ∃ other, listed.content? readFile = some other ∧ other ≠ content ∧
            Sha256.digest other = Sha256.digest content ∧ Contract.parse other = .ok contract)

/-- A source that has a file or a text is loaded by its content. -/
theorem exists_load_of_loadSource
    (hgiven : (source.specFile.isNone && source.specText.isNone) = false)
    (h : loadSource readFile store source now = .ok next) :
    ∃ content loaded, source.content? readFile = some content ∧
      store.load source.name content now = (.ok loaded, next) := by
  obtain ⟨name, specFile, specText⟩ := source
  cases specFile with
  | some path =>
      simp only [loadSource] at h
      rcases hload : store.loadFile name path (readFile path) now with ⟨answer | loaded, left⟩
      · rw [hload] at h
        cases h
      · rw [hload] at h
        cases h
        cases hread : readFile path with
        | none =>
            rw [hread] at hload
            cases hload
        | some content =>
            rw [hread] at hload
            exact ⟨content, loaded, hread, hload⟩
  | none =>
      cases specText with
      | none => cases hgiven
      | some text =>
          simp only [loadSource] at h
          rcases hload : store.load name (Utf8.encode text.toList) now with ⟨answer | loaded, left⟩
          · rw [hload] at h
            cases h
          · rw [hload] at h
            cases h
            exact ⟨_, loaded, rfl, hload⟩

/-! ## All sources -/

/-- What a store holds after sources were loaded into it, the first one right after the
start. -/
structure HoldsSources (readFile : String → Option (List UInt8)) (limits : StoreLimits)
    (start : ℕ) (sources : List ApiSource) (store : Store) : Prop where
  limits_eq : store.limits = limits
  keys_nodup : (store.bound.map (·.1)).Nodup
  size_le : store.size ≤ store.capacity
  readable : ∀ source ∈ sources, ∃ content, source.content? readFile = some content
  /-- Who is bound was last accessed when it was loaded. -/
  bound : ∀ name handle, store.find? name = some handle →
    ∃ (position : ℕ) (i : Instance), store.instance? handle = some i ∧
      i.lastAccess = start + position + 1 ∧
        LoadedFrom readFile sources name position i.contract
  /-- Who is missing was loaded before all who are bound. -/
  missing : ∀ source ∈ sources, store.find? source.name = none →
    store.size = store.capacity ∧
      ∃ (position : ℕ) (contract : Contract),
        LoadedFrom readFile sources source.name position contract ∧
        ∀ name handle, store.find? name = some handle →
          start + position + 1 < store.lastAccess handle

namespace HoldsSources

theorem empty (readFile : String → Option (List UInt8)) (limits : StoreLimits)
    (start : ℕ) : HoldsSources readFile limits start [] (.empty limits start) where
  limits_eq := rfl
  keys_nodup := List.nodup_nil
  size_le := Nat.zero_le _
  readable _ h := by cases h
  bound _ _ h := by cases h
  missing _ h := by cases h

theorem lastAccess_eq (h : HoldsSources readFile limits start sources store) {handle : Handle}
    (hfind : store.find? name = some handle) :
    ∃ (position : ℕ) (contract : Contract), store.lastAccess handle = start + position + 1 ∧
      LoadedFrom readFile sources name position contract := by
  obtain ⟨position, i, hinstance, haccess, hloaded⟩ := h.bound name handle hfind
  refine ⟨position, i.contract, ?_, hloaded⟩
  rw [Store.lastAccess, hinstance, Option.map_some, Option.getD_some, haccess]

theorem mem_names (h : HoldsSources readFile limits start sources store) {handle : Handle}
    (hfind : store.find? name = some handle) : name ∈ sources.map (·.name) := by
  obtain ⟨position, contract, -, hloaded⟩ := h.lastAccess_eq hfind
  exact hloaded.mem_names

theorem readable_append_singleton (h : HoldsSources readFile limits start sources store)
    (hcontent : source.content? readFile = some content) :
    ∀ listed ∈ sources ++ [source], ∃ content, listed.content? readFile = some content := by
  intro listed hlisted
  rcases List.mem_append.mp hlisted with hlisted | hlisted
  · exact h.readable listed hlisted
  · rw [List.mem_singleton.mp hlisted]
    exact ⟨content, hcontent⟩

/-- A source that repeats what its name is bound to changes nothing. -/
theorem repeated (h : HoldsSources readFile limits start sources store)
    (hcontent : source.content? readFile = some content)
    (hcurrent : store.isCurrent source.name content = true) :
    HoldsSources readFile limits start (sources ++ [source]) store := by
  obtain ⟨i, hbound, hdigest⟩ := Store.isCurrent_iff.mp hcurrent
  obtain ⟨handle, hfind, hinstance⟩ := Option.bind_eq_some_iff.mp hbound
  constructor
  case limits_eq => exact h.limits_eq
  case keys_nodup => exact h.keys_nodup
  case size_le => exact h.size_le
  case readable => exact h.readable_append_singleton hcontent
  case bound =>
    intro name handle' hfind'
    obtain ⟨position, i', hinstance', haccess, hloaded⟩ := h.bound name handle' hfind'
    refine ⟨position, i', hinstance', haccess, hloaded.append_singleton ?_⟩
    rintro rfl content' hcontent'
    obtain rfl := Option.some.inj (hfind.symm.trans hfind')
    obtain rfl := Option.some.inj (hinstance.symm.trans hinstance')
    obtain rfl := Option.some.inj (hcontent.symm.trans hcontent')
    exact hdigest.symm
  case missing =>
    intro other hother hnone
    have hne : source.name ≠ other.name := by
      intro hsame
      rw [← hsame, hfind] at hnone
      cases hnone
    rcases List.mem_append.mp hother with hother | hother
    · obtain ⟨hfull, position, contract, hloaded, hlater⟩ := h.missing other hother hnone
      exact ⟨hfull, position, contract, hloaded.append_singleton (absurd · hne), hlater⟩
    · exact absurd (congrArg ApiSource.name (List.mem_singleton.mp hother)).symm hne

/-- Whoever is missing after its name made room, or was missing before, was loaded before
all who are left. -/
theorem loaded_before (h : HoldsSources readFile limits start sources store) {loaded : String}
    (hlisted : name ∈ sources.map (·.name)) (hne : name ≠ loaded)
    (hnone : (store.roomFor loaded).find? name = none) :
    store.size = store.capacity ∧
      ∃ (position : ℕ) (contract : Contract),
        LoadedFrom readFile sources name position contract ∧
        ∀ other handle, other ≠ name → store.find? other = some handle →
          start + position + 1 < store.lastAccess handle := by
  cases hfind : store.find? name with
  | none =>
      obtain ⟨listed, hmem, rfl⟩ := List.mem_map.mp hlisted
      obtain ⟨hfull, position, contract, hloaded, hlater⟩ := h.missing listed hmem hfind
      exact ⟨hfull, position, contract, hloaded, fun other handle _ => hlater other handle⟩
  | some handle =>
      obtain ⟨-, hfull, hleast⟩ := (Store.find?_roomFor_eq_none_iff h.size_le hfind).mp hnone
      obtain ⟨position, contract, haccess, hloaded⟩ := h.lastAccess_eq hfind
      refine ⟨hfull, position, contract, hloaded, ?_⟩
      intro other held hother hheld
      obtain ⟨position', contract', haccess', hloaded'⟩ := h.lastAccess_eq hheld
      obtain ⟨least, hmem, hbefore⟩ := Store.exists_of_leastRecent? hleast
      obtain rfl : handle = least := by
        rw [(Store.find?_eq_some_iff_mem h.keys_nodup).mpr hmem] at hfind
        exact (Option.some.inj hfind).symm
      have hle : start + position + 1 ≤ start + position' + 1 := by
        rw [← haccess, ← haccess']
        exact hbefore (other, held) (mem_of_lookup hheld)
      -- Sources at one position have one name.
      have hposition : position ≠ position' := by
        rintro rfl
        exact hother (hloaded'.name_eq hloaded)
      have hless : start + position + 1 < start + position' + 1 := by omega
      rwa [haccess']

/-- Who is bound after a source was loaded is the new instance, or was bound before to one
that is left alone. -/
theorem bound_cases (h : HoldsSources readFile limits start sources store) {loaded : String}
    {handle : Handle}
    (hfind : ((store.roomFor loaded).bind loaded contract now).find? name = some handle) :
    (name = loaded ∧ handle = store.instances.length) ∨
      (name ≠ loaded ∧ store.find? name = some handle ∧
        ((store.roomFor loaded).bind loaded contract now).instance? handle =
          store.instance? handle) := by
  by_cases hname : name = loaded
  · subst hname
    rw [Store.find?_bind_self, (store.narrows_roomFor name).instances_eq] at hfind
    exact Or.inl ⟨rfl, (Option.some.inj hfind).symm⟩
  · have hbefore := Store.find?_of_find?_load h.keys_nodup hname hfind
    obtain ⟨-, i, hinstance, -⟩ := h.bound name handle hbefore
    exact Or.inr ⟨hname, hbefore, Store.instance?_load_of_old (Option.isSome_of_mem hinstance)⟩

/-- A source with new content is bound, where there is room. -/
theorem replaced (h : HoldsSources readFile limits start sources store)
    (hcontent : source.content? readFile = some content)
    (hparse : Contract.parse content = .ok contract) :
    HoldsSources readFile limits start (sources ++ [source])
      ((store.roomFor source.name).bind source.name contract (start + sources.length + 1)) := by
  have hroom := store.narrows_roomFor source.name
  have hfresh : ((store.roomFor source.name).bind source.name contract
      (start + sources.length + 1)).instance? store.instances.length =
        some { contract, lastAccess := start + sources.length + 1 } := by
    rw [Store.instance?_bind, hroom.instances_eq, if_pos rfl]
  have hcapacity : ((store.roomFor source.name).bind source.name contract
      (start + sources.length + 1)).capacity = store.capacity := by
    rw [Store.capacity, Store.capacity, ← hroom.limits_eq]
    rfl
  constructor
  case limits_eq => exact hroom.limits_eq.trans h.limits_eq
  case keys_nodup => exact Store.nodup_bind ((hroom.sublist.map _).nodup h.keys_nodup)
  case size_le =>
    rw [hcapacity]
    exact Store.size_bind_roomFor_le h.size_le
  case readable => exact h.readable_append_singleton hcontent
  case bound =>
    intro name handle hfind
    rcases h.bound_cases hfind with ⟨rfl, rfl⟩ | ⟨hname, hbefore, hinstance⟩
    · exact ⟨sources.length, _, hfresh, rfl, .last hcontent hparse⟩
    · obtain ⟨position, i, hold, haccess, hloaded⟩ := h.bound name handle hbefore
      exact ⟨position, i, hinstance.trans hold, haccess,
        hloaded.append_singleton (absurd ·.symm hname)⟩
  case missing =>
    intro listed hmem hnone
    have hne : listed.name ≠ source.name := by
      intro hsame
      rw [hsame, Store.find?_bind_self] at hnone
      cases hnone
    have hlisted : listed.name ∈ sources.map (·.name) := by
      rcases List.mem_append.mp hmem with hmem | hmem
      · exact List.mem_map_of_mem hmem
      · exact absurd (congrArg ApiSource.name (List.mem_singleton.mp hmem)) hne
    have hfreed : (store.roomFor source.name).find? listed.name = none := by
      rwa [Store.find?_bind_of_ne hne] at hnone
    obtain ⟨hfull, position, contract', hloaded, hlater⟩ := h.loaded_before hlisted hne hfreed
    refine ⟨?_, position, contract', hloaded.append_singleton (absurd ·.symm hne), ?_⟩
    · rw [hcapacity]
      exact Store.size_bind_roomFor_of_full h.keys_nodup hfull
    · intro name handle hfind
      rcases h.bound_cases hfind with ⟨rfl, rfl⟩ | ⟨-, hbefore, hinstance⟩
      · have hposition := hloaded.lt_length
        have hless : start + position + 1 < start + sources.length + 1 := by omega
        rwa [Store.lastAccess, hfresh, Option.map_some, Option.getD_some]
      · have hneListed : name ≠ listed.name := by
          rintro rfl
          rw [hnone] at hfind
          cases hfind
        rw [Store.lastAccess, hinstance]
        exact hlater name handle hneListed hbefore

/-- One more source is loaded. -/
theorem append_singleton (h : HoldsSources readFile limits start sources store)
    (hgiven : (source.specFile.isNone && source.specText.isNone) = false)
    (hload : loadSource readFile store source (start + sources.length + 1) = .ok next) :
    HoldsSources readFile limits start (sources ++ [source]) next := by
  obtain ⟨content, loaded, hcontent, hanswer⟩ := exists_load_of_loadSource hgiven hload
  have hloads := store.loads_load source.name content (start + sources.length + 1)
  rw [hanswer] at hloads
  cases hloads with
  | repeated hcurrent => exact h.repeated hcontent hcurrent
  | replaced hparse => exact h.replaced hcontent hparse

theorem append (h : HoldsSources readFile limits start sources store) {rest : List ApiSource}
    (hgiven : ∀ source ∈ rest, (source.specFile.isNone && source.specText.isNone) = false)
    (hload : loadSources readFile store (start + sources.length) rest = .ok next) :
    HoldsSources readFile limits start (sources ++ rest) next := by
  induction rest generalizing sources store with
  | nil =>
      cases hload
      rwa [List.append_nil]
  | cons source rest ih =>
      rw [loadSources] at hload
      cases hfirst : loadSource readFile store source (start + sources.length + 1) with
      | error failure =>
          rw [hfirst] at hload
          cases hload
      | ok middle =>
          rw [hfirst] at hload
          have hmiddle := h.append_singleton (hgiven source List.mem_cons_self) hfirst
          have hrest : loadSources readFile middle (start + (sources ++ [source]).length) rest =
              .ok next := by
            rw [List.length_append, List.length_singleton]
            exact hload
          have hall := ih hmiddle (fun other hother => hgiven other (List.mem_cons_of_mem _ hother))
            hrest
          rwa [List.append_assoc, List.singleton_append] at hall

theorem capacity_eq (h : HoldsSources readFile limits start sources store) :
    store.capacity = max limits.maxApis 1 := by
  rw [Store.capacity, h.limits_eq]

theorem find?_eq_none (h : HoldsSources readFile limits start sources store)
    (hnone : store.bound? name = none) : store.find? name = none := by
  cases hfind : store.find? name with
  | none => rfl
  | some handle =>
      obtain ⟨-, i, hinstance, -⟩ := h.bound name handle hfind
      rw [Store.bound?, hfind, Option.bind_some, hinstance] at hnone
      cases hnone

theorem keys_subset (h : HoldsSources readFile limits start sources store) :
    store.bound.map (·.1) ⊆ (sources.map (·.name)).dedup := by
  intro name hname
  obtain ⟨⟨_, handle⟩, hentry, rfl⟩ := List.mem_map.mp hname
  have hfind := (Store.find?_eq_some_iff_mem h.keys_nodup).mpr hentry
  exact List.mem_dedup.mpr (h.mem_names hfind)

/-- Where a name is missing, more are listed than are bound. -/
theorem size_lt_of_missing (h : HoldsSources readFile limits start sources store)
    (hlisted : name ∈ sources.map (·.name)) (hnone : store.find? name = none) :
    store.size < (sources.map (·.name)).dedup.length := by
  have hfresh : name ∉ store.bound.map (·.1) := by
    intro hmem
    obtain ⟨entry, hentry, rfl⟩ := List.mem_map.mp hmem
    exact bne_iff_ne.mp (List.lookup_eq_none_iff.mp hnone entry hentry) rfl
  have hsubset : name :: store.bound.map (·.1) ⊆ (sources.map (·.name)).dedup :=
    List.cons_subset.mpr ⟨List.mem_dedup.mpr hlisted, h.keys_subset⟩
  have hlength :=
    (List.subperm_of_subset (List.nodup_cons.mpr ⟨hfresh, h.keys_nodup⟩) hsubset).length_le
  rwa [List.length_cons, List.length_map] at hlength

/-- As many names are bound as are listed, up to the capacity. -/
theorem size_eq (h : HoldsSources readFile limits start sources store) :
    store.size = min (sources.map (·.name)).dedup.length store.capacity := by
  have hsize := h.size_le
  by_cases hall : ∀ name ∈ sources.map (·.name), ∃ handle, store.find? name = some handle
  · have hbound : (sources.map (·.name)).dedup ⊆ store.bound.map (·.1) := by
      intro name hname
      obtain ⟨handle, hfind⟩ := hall name (List.mem_dedup.mp hname)
      exact List.mem_map.mpr ⟨_, mem_of_lookup hfind, rfl⟩
    have hle := (List.subperm_of_subset h.keys_nodup h.keys_subset).length_le
    have hge := (List.subperm_of_subset (List.nodup_dedup _) hbound).length_le
    rw [List.length_map] at hle hge
    rw [Store.size] at hsize ⊢
    omega
  · push Not at hall
    obtain ⟨name, hlisted, hunbound⟩ := hall
    have hnone := Option.eq_none_iff_forall_ne_some.mpr hunbound
    have hless := h.size_lt_of_missing hlisted hnone
    obtain ⟨source, hmem, rfl⟩ := List.mem_map.mp hlisted
    obtain ⟨hfull, -⟩ := h.missing source hmem hnone
    omega

/-- Who is bound answers by the last content of its name. -/
theorem isContractOf (h : HoldsSources readFile limits start sources store)
    {before after : List ApiSource} {i : Instance} (hsplit : sources = before ++ source :: after)
    (hlast : ∀ later ∈ after, later.name ≠ source.name)
    (hbound : store.bound? source.name = some i) :
    IsContractOf readFile sources source i.contract := by
  obtain ⟨handle, hfind, hinstance⟩ := Option.bind_eq_some_iff.mp hbound
  obtain ⟨position, i', hinstance', -, hloaded⟩ := h.bound _ _ hfind
  obtain rfl := Option.some.inj (hinstance.symm.trans hinstance')
  obtain ⟨listed, other, hlisted, hname, hother, hparse⟩ := hloaded.exists_source
  have hat : sources[before.length]? = some source := by
    rw [hsplit, List.getElem?_append_right (Nat.le_refl _), Nat.sub_self, List.getElem?_cons_zero]
  obtain ⟨content, hcontent⟩ := h.readable source (List.mem_of_getElem? hat)
  have hdigest := Contract.digest_of_parse hparse
  refine ⟨content, hcontent, ?_⟩
  rcases Nat.lt_trichotomy position before.length with hearlier | rfl | hlater
  · have hsame := hloaded.digest_eq _ _ _ hearlier hat rfl hcontent
    refine ⟨hsame.symm, ?_⟩
    by_cases heq : other = content
    · exact Or.inl (heq ▸ hparse)
    · exact Or.inr ⟨listed, List.mem_of_getElem? hlisted, hname, other, hother, heq,
        hdigest.symm.trans hsame.symm, hparse⟩
  · obtain rfl := Option.some.inj (hat.symm.trans hlisted)
    obtain rfl := Option.some.inj (hother.symm.trans hcontent)
    exact ⟨hdigest, Or.inl hparse⟩
  · have hafter : listed ∈ after := by
      rw [hsplit, List.getElem?_append_right (Nat.le_of_lt hlater),
        List.getElem?_cons, if_neg (by omega)] at hlisted
      exact List.mem_of_getElem? hlisted
    exact absurd hname (hlast listed hafter)

/-- A name is missing only from a full store, and was listed before all that are
bound. -/
theorem exists_before (h : HoldsSources readFile limits start sources store)
    (hlisted : name ∈ sources.map (·.name)) (hnone : store.bound? name = none) :
    store.capacity < (sources.map (·.name)).dedup.length ∧
      ∃ before source after, sources = before ++ source :: after ∧ source.name = name ∧
        ∀ other i, store.bound? other = some i → other ∈ after.map (·.name) := by
  have hunbound := h.find?_eq_none hnone
  have hless := h.size_lt_of_missing hlisted hunbound
  obtain ⟨listed, hmem, rfl⟩ := List.mem_map.mp hlisted
  obtain ⟨hfull, position, contract, hloaded, hlater⟩ := h.missing listed hmem hunbound
  obtain ⟨source, -, hsource, hname, -⟩ := hloaded.exists_source
  obtain ⟨hlt, hget⟩ := List.getElem?_eq_some_iff.mp hsource
  refine ⟨hfull ▸ hless, sources.take position, source, sources.drop (position + 1), ?_, hname,
    ?_⟩
  · rw [← hget, List.cons_getElem_drop_succ, List.take_append_drop]
  · intro other i hbound
    obtain ⟨handle, hfound, -⟩ := Option.bind_eq_some_iff.mp hbound
    obtain ⟨position', contract', haccess, hloaded'⟩ := h.lastAccess_eq hfound
    have hless : start + position + 1 < start + position' + 1 :=
      haccess ▸ hlater other handle hfound
    obtain ⟨source', -, hsource', rfl, -⟩ := hloaded'.exists_source
    have hdrop : (sources.drop (position + 1))[position' - (position + 1)]? = some source' := by
      rw [List.getElem?_drop, ← hsource']
      congr 1
      omega
    exact List.mem_map_of_mem (List.mem_of_getElem? hdrop)

end HoldsSources

/-! ## Configurations -/

variable {guard : Guard}

theorem holdsSources_of_ofConfig (h : ofConfig readFile config now = .ok guard) :
    HoldsSources readFile config.limits now config.apis guard.store := by
  rw [ofConfig] at h
  cases hcheck : config.check with
  | error failure =>
      rw [hcheck] at h
      cases h
  | ok checked =>
      rw [hcheck] at h
      have hfind : config.apis.find? (fun api => api.specFile.isNone && api.specText.isNone) =
          none ∧ config = checked := by
        rw [GuardConfig.check] at hcheck
        split at hcheck
        · cases hcheck
        · next hnone =>
            cases hcheck
            exact ⟨hnone, rfl⟩
      obtain ⟨hnone, rfl⟩ := hfind
      cases hload : loadSources readFile (.empty config.limits now) now config.apis with
      | error failure =>
          simp only [bind, Except.bind, hload] at h
          cases h
      | ok store =>
          simp only [bind, Except.bind, hload] at h
          cases h
          have hgiven := List.find?_eq_none.mp hnone
          apply (HoldsSources.empty readFile config.limits now).append _ hload
          intro source hsource
          exact Bool.eq_false_iff.mpr (hgiven source hsource)

/-- A guard that is made of a configuration serves as many of the listed names as there
are places in its store, and all of them if there are enough.  Each of these answers by
the last content that is listed under it, as far as digests tell.  Only when places run
out is a name missing, and then all that are served are listed after it. -/
theorem ofConfig_serves (h : ofConfig readFile config now = .ok guard) :
    let names := config.apis.map (·.name)
    let places := max config.limits.maxApis 1
    guard.store.size = min names.dedup.length places ∧
      (∀ name i, guard.store.bound? name = some i → name ∈ names) ∧
      (names.dedup.length ≤ places → ∀ name ∈ names, ∃ i, guard.store.bound? name = some i) ∧
      (∀ before source after i, config.apis = before ++ source :: after →
        (∀ later ∈ after, later.name ≠ source.name) →
          guard.store.bound? source.name = some i →
            IsContractOf readFile config.apis source i.contract) ∧
      ∀ name ∈ names, guard.store.bound? name = none →
        places < names.dedup.length ∧
          ∃ before source after, config.apis = before ++ source :: after ∧
            source.name = name ∧
              ∀ other i, guard.store.bound? other = some i → other ∈ after.map (·.name) := by
  intro names places
  have hholds := holdsSources_of_ofConfig h
  have hcapacity : guard.store.capacity = places := hholds.capacity_eq
  refine ⟨hcapacity ▸ hholds.size_eq, ?_, ?_, ?_, ?_⟩
  · intro name i hbound
    obtain ⟨handle, hfind, -⟩ := Option.bind_eq_some_iff.mp hbound
    exact hholds.mem_names hfind
  · intro henough name hname
    rw [← Option.ne_none_iff_exists']
    intro hnone
    have hless : places < names.dedup.length := hcapacity ▸ (hholds.exists_before hname hnone).1
    omega
  · intro before source after i hsplit hlast hbound
    exact hholds.isContractOf hsplit hlast hbound
  · intro name hname hnone
    exact hcapacity ▸ hholds.exists_before hname hnone

/-! ### Cats and dogs for one place -/

/-- The text with one route as the source of a contract. -/
def petsSource (name : String) : ApiSource where
  name
  specText := some "\x7b\"openapi\":\"3\",\"paths\":\x7b\"/pets\":\x7b\x7d\x7d\x7d"

/-- Cats and dogs, of which dogs are listed twice. -/
def petsConfig (maxApis : ℕ) : GuardConfig where
  apis := [petsSource "cats", petsSource "dogs", petsSource "dogs"]
  selector := .fixed "cats"
  limits := { maxApis }

theorem loadSource_petsSource {loaded : Bool}
    (h : store.load name Store.petsText now = (.ok loaded, next)) :
    loadSource readFile store (petsSource name) now = .ok next := by
  rw [Store.petsText] at h
  simp only [loadSource, petsSource]
  rw [h]

/-- The store with cats loaded before dogs. -/
def catsThenDogs (maxApis : ℕ) : Store :=
  let cats := (Store.empty { maxApis } 0).bind "cats" Store.petsContract 1
  (cats.roomFor "dogs").bind "dogs" Store.petsContract 2

theorem ofConfig_petsConfig (maxApis : ℕ) :
    ofConfig (fun _ => none) (petsConfig maxApis) 0 =
      .ok { store := catsThenDogs maxApis, selector := .fixed "cats" } := by
  have hcats : (Store.empty { maxApis } 0).load "cats" Store.petsText 1 =
      (.ok true, (Store.empty { maxApis } 0).bind "cats" Store.petsContract 1) := by
    rw [Store.load_petsText rfl, Store.roomFor, Store.trim_eq_self (Nat.zero_le _), ite_self]
  have hdogs : ((Store.empty { maxApis } 0).bind "cats" Store.petsContract 1).load "dogs"
      Store.petsText 2 = (.ok true, catsThenDogs maxApis) :=
    Store.load_petsText rfl
  have hagain : (catsThenDogs maxApis).load "dogs" Store.petsText 3 =
      (.ok false, catsThenDogs maxApis) := by
    apply Store.load_of_isCurrent
    exact Store.isCurrent_iff.mpr ⟨_, Store.bound?_bind_self, rfl⟩
  have hcheck : (petsConfig maxApis).check = .ok (petsConfig maxApis) := rfl
  rw [ofConfig, hcheck]
  simp only [petsConfig, loadSources, loadSource_petsSource hcats, loadSource_petsSource hdogs,
    loadSource_petsSource hagain, bind, Except.bind, pure, Except.pure]

/-- With one place only, dogs push out cats. -/
theorem ofConfig_without_cats :
    ∃ guard, ofConfig (fun _ => none) (petsConfig 1) 0 = .ok guard ∧
      "cats" ∈ (petsConfig 1).apis.map (·.name) ∧ guard.store.bound? "cats" = none := by
  refine ⟨_, ofConfig_petsConfig 1, by decide, ?_⟩
  rfl

/-- With two places, both are served by what is listed last under their names. -/
theorem ofConfig_serves_petsConfig :
    ∃ guard, ofConfig (fun _ => none) (petsConfig 2) 0 = .ok guard ∧ guard.store.size = 2 ∧
      (∃ i, guard.store.bound? "cats" = some i) ∧
        ∃ i, guard.store.bound? "dogs" = some i ∧
          IsContractOf (fun _ => none) (petsConfig 2).apis (petsSource "dogs")
            i.contract := by
  obtain ⟨hsize, -, hall, hcontent, -⟩ := ofConfig_serves (ofConfig_petsConfig 2)
  have hnames : ((petsConfig 2).apis.map (·.name)).dedup = ["cats", "dogs"] := by decide
  rw [hnames] at hsize hall
  obtain ⟨cats, hcats⟩ := hall (by decide) "cats" (by decide)
  obtain ⟨dogs, hdogs⟩ := hall (by decide) "dogs" (by decide)
  refine ⟨_, ofConfig_petsConfig 2, hsize, ⟨cats, hcats⟩, dogs, hdogs, ?_⟩
  exact hcontent [petsSource "cats", petsSource "dogs"] (petsSource "dogs") [] dogs rfl (by simp)
    hdogs

end Guard
end ApiContract
