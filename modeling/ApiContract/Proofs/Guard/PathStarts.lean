import ApiContract.Guard.Selector
import ApiContract.Proofs.Document.Reading
import ApiContract.Proofs.Text.Offsets
import Mathlib.Data.List.Nodup

/-!
# The longest start of a path

A selector by the start of the path has names under different starts, and the longest one with
which the path begins counts.  Two starts of one path of the same length are the same, so there
is one longest start at most: neither the order of the entries matters nor what is configured
under starts with which the path does not begin or which are shorter.
-/

namespace ApiContract

namespace Selector

/-! ## Different keys -/

/-- The maps of the selector have different keys. -/
def HasDistinctKeys : Selector → Prop
  | .host hosts => (hosts.map (·.1)).Nodup
  | .pathStart starts => (starts.map (·.1)).Nodup
  | .header _ | .fixed _ => True

theorem nodup_keys_of_required? {r : Node.Record} {name : String} {limit : ℕ}
    {map : List (String × String)} (h : r.required? name (Node.map? textOf? limit) = some map) :
    (map.map (·.1)).Nodup := by
  rw [Node.Record.required?] at h
  split at h
  · exact (Node.map?_spec h).1
  · cases h

theorem hasDistinctKeys_of_ofParts? {limit : ℕ} {kind : String} {parts : Node}
    {selector : Selector} (h : ofParts? limit kind parts = some selector) :
    selector.HasDistinctKeys := by
  rw [ofParts?.eq_def] at h
  split at h
  · simp only [bind_eq_some_iff] at h
    obtain ⟨r, -, hosts, hhosts, h⟩ := h
    cases h
    exact nodup_keys_of_required? hhosts
  · simp only [bind_eq_some_iff] at h
    obtain ⟨r, -, name, -, h⟩ := h
    cases h
    trivial
  · simp only [bind_eq_some_iff] at h
    obtain ⟨r, -, starts, hstarts, h⟩ := h
    cases h
    exact nodup_keys_of_required? hstarts
  · simp only [bind_eq_some_iff] at h
    obtain ⟨r, -, api, -, h⟩ := h
    cases h
    trivial
  · cases h

/-- A selector that is read has different keys. -/
theorem hasDistinctKeys_of_ofNode? {limit : ℕ} {node : Node} {selector : Selector}
    (h : ofNode? limit node = some selector) : selector.HasDistinctKeys := by
  rw [ofNode?.eq_def] at h
  split at h
  · simp only [bind_eq_some_iff] at h
    obtain ⟨parts, -, kind, -, h⟩ := h
    exact hasDistinctKeys_of_ofParts? h
  · simp only [bind_eq_some_iff] at h
    obtain ⟨kind, -, parts, -, h⟩ := h
    exact hasDistinctKeys_of_ofParts? h
  · simp only [bind_eq_some_iff] at h
    obtain ⟨kind, -, parts, -, h⟩ := h
    exact hasDistinctKeys_of_ofParts? h
  · cases h

/-! ## The start that counts -/

/-- The path begins with the start, and with no other one of more bytes. -/
structure IsLongestStart (starts : List (String × String)) (path start : String) : Prop where
  mem : start ∈ starts.map (·.1)
  begins : start.toList <+: path.toList
  longest : ∀ other ∈ starts.map (·.1), other.toList <+: path.toList →
    Utf8.size other.toList ≤ Utf8.size start.toList

variable {starts others : List (String × String)} {path start other api : String}
  {entry : String × String}

theorem IsLongestStart.isPrefix (h : IsLongestStart starts path start)
    (hother : other ∈ starts.map (·.1)) (hbegins : other.toList <+: path.toList) :
    other.toList <+: start.toList :=
  (Utf8.size_le_size_iff hbegins h.begins).mp (h.longest other hother hbegins)

/-- Two longest starts begin with each other. -/
theorem IsLongestStart.unique (h : IsLongestStart starts path start)
    (h' : IsLongestStart starts path other) : start = other := by
  have hforth := h'.isPrefix h.mem h.begins
  have hback := h.isPrefix h'.mem h'.begins
  exact String.toList_inj.mp (hforth.eq_of_length_le hback.length_le)

theorem longestStart?_eq_none_iff :
    longestStart? starts path = none ↔
      ∀ start ∈ starts.map (·.1), ¬start.toList <+: path.toList := by
  rw [longestStart?, ← Option.not_isSome_iff_eq_none, List.isSome_maxOn?_iff, not_not,
    List.filter_eq_nil_iff]
  simp [List.isPrefixOf_iff_prefix]

/-- Of the starts of the path the one that is found has the most characters, and so the most
bytes. -/
theorem isLongestStart_of_longestStart? (h : longestStart? starts path = some entry) :
    IsLongestStart starts path entry.1 ∧ entry ∈ starts := by
  obtain ⟨hmem, hbegins⟩ := List.mem_filter.mp (List.maxOn?_mem h)
  rw [List.isPrefixOf_iff_prefix] at hbegins
  refine ⟨⟨List.mem_map_of_mem hmem, hbegins, ?_⟩, hmem⟩
  intro other hother hprefix
  obtain ⟨rival, hrival, rfl⟩ := List.mem_map.mp hother
  have hfits : rival ∈ starts.filter fun e => e.1.toList.isPrefixOf path.toList :=
    List.mem_filter.mpr ⟨hrival, List.isPrefixOf_iff_prefix.mpr hprefix⟩
  have hlength := List.le_apply_get_maxOn?_of_mem
    (f := fun e : String × String => e.1.length) hfits
  rw [longestStart?] at h
  simp only [h, Option.get_some] at hlength
  exact (Utf8.size_le_size_iff hprefix hbegins).mpr
    (List.prefix_of_prefix_length_le hprefix hbegins hlength)

/-- The entry of the longest start is found. -/
theorem longestStart?_eq_some_iff (hkeys : (starts.map (·.1)).Nodup) :
    longestStart? starts path = some entry ↔
      IsLongestStart starts path entry.1 ∧ entry ∈ starts := by
  constructor
  · exact isLongestStart_of_longestStart?
  · rintro ⟨hlongest, hmem⟩
    cases hfound : longestStart? starts path with
    | none => exact absurd hlongest.begins (longestStart?_eq_none_iff.mp hfound _ hlongest.mem)
    | some found =>
        obtain ⟨hlongest', hmem'⟩ := isLongestStart_of_longestStart? hfound
        rw [List.inj_on_of_nodup_map hkeys hmem' hmem (hlongest'.unique hlongest)]

/-! ## Other maps -/

theorem IsLongestStart.of_keys (h : IsLongestStart starts path start)
    (hkeys : ∀ key, key ∈ others.map (·.1) ↔ key ∈ starts.map (·.1)) :
    IsLongestStart others path start :=
  ⟨(hkeys start).mpr h.mem, h.begins, fun other hother => h.longest other ((hkeys other).mp hother)⟩

theorem longestStart?_eq_of_perm (hkeys : (starts.map (·.1)).Nodup)
    (hperm : others.Perm starts) : longestStart? others path = longestStart? starts path := by
  have hmem (key : String) : key ∈ others.map (·.1) ↔ key ∈ starts.map (·.1) :=
    (hperm.map _).mem_iff
  have hlongest (start : String) :
      IsLongestStart others path start ↔ IsLongestStart starts path start :=
    ⟨fun h => h.of_keys fun key => (hmem key).symm, fun h => h.of_keys hmem⟩
  ext entry
  rw [longestStart?_eq_some_iff ((hperm.map _).nodup_iff.mpr hkeys),
    longestStart?_eq_some_iff hkeys, hlongest, hperm.mem_iff]

/-- Two maps have the same entries, except perhaps under one key. -/
def AgreeExcept (key : String) (starts others : List (String × String)) : Prop :=
  ∀ entry : String × String, entry.1 ≠ key → (entry ∈ others ↔ entry ∈ starts)

theorem AgreeExcept.mem_keys_iff {key : String} (h : AgreeExcept key starts others)
    (hother : other ≠ key) : other ∈ others.map (·.1) ↔ other ∈ starts.map (·.1) := by
  simp only [List.mem_map]
  constructor
  · rintro ⟨entry, hentry, rfl⟩
    exact ⟨entry, (h entry hother).mp hentry, rfl⟩
  · rintro ⟨entry, hentry, rfl⟩
    exact ⟨entry, (h entry hother).mpr hentry, rfl⟩

/-- The path does not begin with the key, or it begins with a longer start. -/
def IsOutrun (starts : List (String × String)) (path key : String) : Prop :=
  ¬key.toList <+: path.toList ∨
    ∃ longest, IsLongestStart starts path longest ∧
      Utf8.size key.toList < Utf8.size longest.toList

/-- The longest start stays the longest one whatever there is under a key that it outruns. -/
theorem IsLongestStart.of_agreeExcept {key : String} (h : IsLongestStart starts path start)
    (hagree : AgreeExcept key starts others) (houtrun : IsOutrun starts path key) :
    start ≠ key ∧ IsLongestStart others path start := by
  have hshorter : key.toList <+: path.toList →
      Utf8.size key.toList < Utf8.size start.toList := by
    intro hbegins
    obtain hnot | ⟨longest, hlongest, hless⟩ := houtrun
    · exact absurd hbegins hnot
    · rwa [h.unique hlongest]
  have hne : start ≠ key := by
    rintro rfl
    exact absurd (hshorter h.begins) (lt_irrefl _)
  refine ⟨hne, (hagree.mem_keys_iff hne).mpr h.mem, h.begins, ?_⟩
  intro other hother hbegins
  by_cases hkey : other = key
  · rw [hkey] at hbegins ⊢
    exact (hshorter hbegins).le
  · exact h.longest other ((hagree.mem_keys_iff hkey).mp hother) hbegins

theorem longestStart?_of_agreeExcept {key : String} (hkeys : (others.map (·.1)).Nodup)
    (hagree : AgreeExcept key starts others) (houtrun : IsOutrun starts path key) :
    longestStart? others path = longestStart? starts path := by
  cases hfound : longestStart? starts path with
  | none =>
      rw [longestStart?_eq_none_iff] at hfound ⊢
      intro other hother hbegins
      obtain rfl | hkey := eq_or_ne other key
      · obtain hnot | ⟨longest, hlongest, -⟩ := houtrun
        · exact hnot hbegins
        · exact hfound longest hlongest.mem hlongest.begins
      · exact hfound other ((hagree.mem_keys_iff hkey).mp hother) hbegins
  | some entry =>
      obtain ⟨hlongest, hmem⟩ := isLongestStart_of_longestStart? hfound
      obtain ⟨hne, hlongest'⟩ := hlongest.of_agreeExcept hagree houtrun
      exact (longestStart?_eq_some_iff hkeys).mpr ⟨hlongest', (hagree entry hne).mpr hmem⟩

/-! ## Selection by the start of the path -/

variable {request : Request}

theorem select_pathStart (starts : List (String × String)) (request : Request) :
    (pathStart starts).select request =
      ((longestStart? starts request.path).map (·.2)).filter (· ≠ "") :=
  rfl

theorem select_pathStart_eq_some_iff (hkeys : (starts.map (·.1)).Nodup) :
    (pathStart starts).select request = some api ↔
      ∃ start, IsLongestStart starts request.path start ∧ (start, api) ∈ starts ∧ api ≠ "" := by
  rw [select_pathStart, Option.filter_eq_some_iff, Option.map_eq_some_iff, decide_eq_true_eq]
  constructor
  · rintro ⟨⟨⟨start, found⟩, hfound, rfl⟩, hne⟩
    obtain ⟨hlongest, hmem⟩ := isLongestStart_of_longestStart? hfound
    exact ⟨start, hlongest, hmem, hne⟩
  · rintro ⟨start, hlongest, hmem, hne⟩
    exact ⟨⟨(start, api), (longestStart?_eq_some_iff hkeys).mpr ⟨hlongest, hmem⟩, rfl⟩, hne⟩

theorem select_pathStart_eq_none_iff (hkeys : (starts.map (·.1)).Nodup) :
    (pathStart starts).select request = none ↔
      (∀ start ∈ starts.map (·.1), ¬start.toList <+: request.path.toList) ∨
        ∃ start, IsLongestStart starts request.path start ∧ (start, "") ∈ starts := by
  rw [select_pathStart, ← longestStart?_eq_none_iff]
  constructor
  · intro h
    cases hfound : longestStart? starts request.path with
    | none => exact Or.inl rfl
    | some entry =>
        obtain ⟨start, api⟩ := entry
        obtain ⟨hlongest, hmem⟩ := isLongestStart_of_longestStart? hfound
        have hempty : api = "" := by simpa [hfound] using h
        exact Or.inr ⟨start, hlongest, hempty ▸ hmem⟩
  · rintro (hnone | ⟨start, hlongest, hmem⟩)
    · rw [hnone]
      rfl
    · rw [(longestStart?_eq_some_iff hkeys).mpr ⟨hlongest, hmem⟩]
      rfl

/-- The name under the longest start of the path is selected in every order of the entries.
There is one longest start at most.  Nothing is selected exactly if the path begins with no
start or the name under the longest one is empty.  What there is under a start with which the
path does not begin, or which is shorter than the longest one, does not matter. -/
theorem select_longest_start (hkeys : (starts.map (·.1)).Nodup) (request : Request) :
    (∀ order : List (String × String), order.Perm starts →
      (pathStart order).select request = (pathStart starts).select request) ∧
      (∀ start other, IsLongestStart starts request.path start →
        IsLongestStart starts request.path other → start = other) ∧
      (∀ api, (pathStart starts).select request = some api ↔
        ∃ start, IsLongestStart starts request.path start ∧ (start, api) ∈ starts ∧ api ≠ "") ∧
      ((pathStart starts).select request = none ↔
        (∀ start ∈ starts.map (·.1), ¬start.toList <+: request.path.toList) ∨
          ∃ start, IsLongestStart starts request.path start ∧ (start, "") ∈ starts) ∧
      ∀ (key : String) (others : List (String × String)), (others.map (·.1)).Nodup →
        AgreeExcept key starts others → IsOutrun starts request.path key →
          (pathStart others).select request = (pathStart starts).select request := by
  refine ⟨?_, fun _ _ => IsLongestStart.unique, fun _ => select_pathStart_eq_some_iff hkeys,
    select_pathStart_eq_none_iff hkeys, ?_⟩
  · intro order hperm
    rw [select_pathStart, select_pathStart, longestStart?_eq_of_perm hkeys hperm]
  · intro key others hothers hagree houtrun
    rw [select_pathStart, select_pathStart, longestStart?_of_agreeExcept hothers hagree houtrun]

/-! ### Versions of an interface -/

/-- Starts for two versions, the one a beginning of the other, and for what is not served. -/
def versionStarts : List (String × String) :=
  [("/v", "legacy"), ("/v2", "petstore-v2"), ("/v2/intern", "")]

def petsRequest : Request where
  method := "GET"
  path := "/v2/pets"

def internRequest : Request where
  method := "GET"
  path := "/v2/intern/pets"

theorem select_longest_start_versionStarts :
    (versionStarts.map (·.1)).Nodup ∧
      (pathStart versionStarts.reverse).select petsRequest = some "petstore-v2" ∧
        (pathStart (("/", "all") :: versionStarts)).select petsRequest =
          (pathStart versionStarts).select petsRequest ∧
          (pathStart versionStarts).select internRequest = none := by
  have hkeys : (versionStarts.map (·.1)).Nodup := by decide
  have hlongest : IsLongestStart versionStarts petsRequest.path "/v2" :=
    ⟨by decide, by decide, by decide⟩
  have hintern : IsLongestStart versionStarts internRequest.path "/v2/intern" :=
    ⟨by decide, by decide, by decide⟩
  obtain ⟨horder, -, hselected, -, hothers⟩ := select_longest_start hkeys petsRequest
  refine ⟨hkeys, ?_, ?_, ?_⟩
  · rw [horder _ (List.reverse_perm _)]
    exact (hselected "petstore-v2").mpr ⟨"/v2", hlongest, by decide, by decide⟩
  · refine hothers "/" _ (by decide) ?_ (Or.inr ⟨"/v2", hlongest, by decide⟩)
    intro entry hne
    have hnew : entry ≠ ("/", "all") := by
      rintro rfl
      exact hne rfl
    simp [hnew]
  · exact (select_longest_start hkeys internRequest).2.2.2.1.mpr
      (Or.inr ⟨"/v2/intern", hintern, by decide⟩)

end Selector
end ApiContract
