import ApiContract.Route.Basic
import Mathlib.Data.List.TakeWhile

/-!
# Paths that fit a template

A path fits a template if it is the literal texts with a part between every two of them,
where a part is not empty and holds no slash.  The search for the captures, which takes
the longest part first, finds such parts whenever there are any.
-/

namespace ApiContract
namespace Template

/-- What a placeholder may stand for. -/
def IsPart (part : List Char) : Prop :=
  part ≠ [] ∧ '/' ∉ part

instance : DecidablePred IsPart :=
  fun part => inferInstanceAs (Decidable (part ≠ [] ∧ '/' ∉ part))

/-- A path is made of literal texts with parts between them. -/
inductive Fills : (literals parts : List (List Char)) → (path : List Char) → Prop
  | last (literal : List Char) : Fills [literal] [] literal
  | next {literal part rest : List Char} {literals parts : List (List Char)}
      (hpart : IsPart part) (hrest : Fills literals parts rest) :
      Fills (literal :: literals) (part :: parts) (literal ++ (part ++ rest))

/-! ## Literal texts and placeholders -/

section Scan

variable {template before inside name rest : List Char}

theorem scan_of_unopened (hopen : splitAround? ['\x7b'] template = none) :
    placeholders template = [] ∧ literals template = [template] := by
  grind [placeholders, literals]

theorem scan_of_unclosed (hopen : splitAround? ['\x7b'] template = some (before, inside))
    (hclose : splitAround? ['\x7d'] inside = none) :
    placeholders template = [] ∧ literals template = [template] := by
  grind [placeholders, literals]

theorem scan_of_closed (hopen : splitAround? ['\x7b'] template = some (before, inside))
    (hclose : splitAround? ['\x7d'] inside = some (name, rest)) :
    placeholders template = name :: placeholders rest ∧
      literals template = before :: literals rest := by
  grind [placeholders, literals]

end Scan

/-- A template has one literal text more than placeholders. -/
theorem length_literals (template : List Char) :
    (literals template).length = (placeholders template).length + 1 := by
  fun_induction placeholders template with
  | case1 template hopen => simp [(scan_of_unopened hopen).2]
  | case2 template before inside hopen hclose => simp [(scan_of_unclosed hopen hclose).2]
  | case3 template before inside hopen name rest hclose hshorter ih =>
      simp [(scan_of_closed hopen hclose).2, ih]

/-! ## Paths made of parts -/

variable {literals parts : List (List Char)} {path : List Char}

/-- There is one part less than there are literal texts. -/
theorem Fills.length_eq (h : Fills literals parts path) :
    literals.length = parts.length + 1 := by
  induction h with
  | last literal => rfl
  | next hpart hrest ih => simp [ih]

/-! ## The longest part first -/

section Longest

variable {read : List Char → Option (List (List Char))} {text : List Char}
  {length : Nat} {captures : List (List Char)}

/-- What is taken first is the longest text after which the rest can be read. -/
theorem exists_take_of_takeLongest? (h : takeLongest? read text length = some captures) :
    ∃ k rest, 0 < k ∧ k ≤ length ∧ read (text.drop k) = some rest ∧
      captures = text.take k :: rest ∧
        ∀ longer, k < longer → longer ≤ length → read (text.drop longer) = none := by
  induction length with
  | zero => simp [takeLongest?] at h
  | succ length ih =>
      cases hread : read (text.drop (length + 1)) with
      | some rest =>
          have hcaptures : text.take (length + 1) :: rest = captures := by
            simpa [takeLongest?, hread] using h
          refine ⟨length + 1, rest, Nat.succ_pos _, Nat.le_refl _, hread, hcaptures.symm, ?_⟩
          intro longer hlonger hle
          omega
      | none =>
          have hshorter : takeLongest? read text length = some captures := by
            simpa [takeLongest?, hread] using h
          obtain ⟨k, rest, hpos, hle, hrest, hcaptures, hlongest⟩ := ih hshorter
          refine ⟨k, rest, hpos, Nat.le_succ_of_le hle, hrest, hcaptures, ?_⟩
          intro longer hlonger hle'
          rcases Nat.lt_or_eq_of_le hle' with hless | rfl
          · exact hlongest longer hlonger (Nat.le_of_lt_succ hless)
          · exact hread

theorem isSome_takeLongest? {k : Nat} (hpos : 0 < k) (hle : k ≤ length)
    (hread : (read (text.drop k)).isSome) : (takeLongest? read text length).isSome := by
  induction length with
  | zero => omega
  | succ length ih =>
      cases hlongest : read (text.drop (length + 1)) with
      | some rest => simp [takeLongest?, hlongest]
      | none =>
          have hne : k ≠ length + 1 := by
            rintro rfl
            simp [hlongest] at hread
          simpa [takeLongest?, hlongest] using ih (by omega)

end Longest

/-- Up to the first slash, all that is taken from the front of a text is free of it. -/
theorem slash_notMem_take {text : List Char} {k : Nat}
    (h : k ≤ (text.takeWhile (· ≠ '/')).length) : '/' ∉ text.take k := by
  intro hmem
  have htake : text.take k = (text.takeWhile (· ≠ '/')).take k := by
    calc
      text.take k = (text.takeWhile (· ≠ '/') ++ text.dropWhile (· ≠ '/')).take k := by
        rw [List.takeWhile_append_dropWhile]
      _ = (text.takeWhile (· ≠ '/')).take k := List.take_append_of_le_length h
  rw [htake] at hmem
  simpa using List.mem_takeWhile_imp (List.mem_of_mem_take hmem)

theorem length_le_takeWhile {part rest : List Char} (h : '/' ∉ part) :
    part.length ≤ ((part ++ rest).takeWhile (· ≠ '/')).length := by
  have hall : ∀ c ∈ part, decide (c ≠ '/') = true := by
    intro c hc
    simpa using ne_of_mem_of_not_mem hc h
  rw [List.takeWhile_append_of_pos hall, List.length_append]
  exact Nat.le_add_right _ _

/-! ## Captures -/

/-- What is captured are parts of which the path is made. -/
theorem fills_of_captures? (h : captures? literals path = some parts) :
    Fills literals parts path := by
  induction literals generalizing path parts with
  | nil => simp [captures?] at h
  | cons literal literals ih =>
      cases literals with
      | nil =>
          by_cases hpath : path = literal
          · obtain rfl : [] = parts := by simpa [captures?, hpath] using h
            exact hpath ▸ Fills.last path
          · simp [captures?, hpath] at h
      | cons next rest =>
          cases hdrop : dropStart? literal path with
          | none => simp [captures?, hdrop] at h
          | some tail =>
              obtain rfl := dropStart?_eq_some_iff.mp hdrop
              simp only [captures?, hdrop] at h
              obtain ⟨k, found, hpos, hle, hfound, rfl, -⟩ := exists_take_of_takeLongest? h
              have hshort : k ≤ tail.length :=
                Nat.le_trans hle (List.takeWhile_prefix _).length_le
              have hpart : IsPart (tail.take k) := by
                refine ⟨List.ne_nil_of_length_pos ?_, slash_notMem_take hle⟩
                rwa [List.length_take_of_le hshort]
              have hfills := @Fills.next literal _ _ _ _ hpart (ih hfound)
              rwa [List.take_append_drop] at hfills

/-- If a path is made of parts, something is captured. -/
theorem Fills.isSome_captures? (h : Fills literals parts path) :
    (captures? literals path).isSome := by
  induction h with
  | last literal => simp [captures?]
  | @next literal part rest literals parts hpart hrest ih =>
      cases literals with
      | nil => cases hrest
      | cons next literals =>
          have hdrop : dropStart? literal (literal ++ (part ++ rest)) = some (part ++ rest) :=
            dropStart?_eq_some_iff.mpr rfl
          have hafter : (part ++ rest).drop part.length = rest := by simp
          simp only [captures?, hdrop]
          exact isSome_takeLongest? (List.length_pos_iff.mpr hpart.1)
            (length_le_takeWhile hpart.2) (hafter.symm ▸ ih)

/-- Something is captured exactly if the path is made of parts. -/
theorem isSome_captures?_iff :
    (captures? literals path).isSome ↔ ∃ parts, Fills literals parts path := by
  constructor
  · intro h
    obtain ⟨parts, hparts⟩ := Option.isSome_iff_exists.mp h
    exact ⟨parts, fills_of_captures? hparts⟩
  · rintro ⟨parts, hparts⟩
    exact hparts.isSome_captures?

end Template

/-! ## Routes -/

namespace Route

variable {route : Route} {path : String}

/-- A path fits a route with placeholders: it is made of the literal texts of the route
with one part for each placeholder between them. -/
def Fits (route : Route) (path : String) : Prop :=
  route.placeholders ≠ [] ∧
    ∃ parts, parts.length = route.placeholders.length ∧
      Template.Fills (Template.literals route.text.toList) parts path.toList

/-- A path that is made of the literal texts of a route has a part for each
placeholder. -/
theorem length_of_fills {parts : List (List Char)} {path : List Char}
    (h : Template.Fills (Template.literals route.text.toList) parts path) :
    parts.length = route.placeholders.length := by
  have hliterals := Template.length_literals route.text.toList
  have hcount := h.length_eq
  rw [placeholders]
  omega

/-- A route accepts the paths that fit it. -/
theorem accepts_iff_fits : route.accepts path = true ↔ route.Fits path := by
  rw [accepts, captures?, Bool.and_eq_true, Template.isSome_captures?_iff]
  constructor
  · rintro ⟨htemplated, parts, hparts⟩
    exact ⟨by simpa [isTemplated] using htemplated, parts, length_of_fills hparts, hparts⟩
  · rintro ⟨hplaceholders, parts, -, hparts⟩
    exact ⟨by simpa [isTemplated] using hplaceholders, parts, hparts⟩

theorem isTemplated_of_accepts (h : route.accepts path = true) :
    route.isTemplated = true :=
  (Bool.and_eq_true_iff.mp h).1

end Route
end ApiContract
