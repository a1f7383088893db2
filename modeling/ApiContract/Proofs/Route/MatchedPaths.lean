import ApiContract.Proofs.Pattern.Matches
import ApiContract.Proofs.Route.FilledPaths
import ApiContract.Proofs.Route.PatternText

/-!
# Paths that the pattern of a template matches

The pattern of a template matches a path exactly if the path can be split along the literal
texts, which is what the search for the captures tries.  So a route accepts the paths that the
pattern written for it matches.
-/

namespace ApiContract
namespace Template

open Pattern Positions

variable {literal rest : List Char} {literals : List (List Char)} {path : List Char} {c : Char}
  {set : Unicode.Ranges} {i j count : ℕ}

/-! ## Characters and parts -/

theorem cons_prefix_drop_iff :
    c :: rest <+: path.drop i ↔ path[i]? = some c ∧ rest <+: path.drop (i + 1) := by
  rw [← List.head?_drop, ← List.tail_drop]
  cases path.drop i with
  | nil => simp
  | cons d tail => simp [List.cons_prefix_cons, eq_comm]

theorem contains_singleton_iff {d : Char} :
    Unicode.Ranges.contains [(c.toNat, c.toNat)] d.toNat = true ↔ c = d := by
  have hrange : Unicode.Ranges.contains [(c.toNat, c.toNat)] d.toNat = true ↔
      c.toNat ≤ d.toNat ∧ d.toNat ≤ c.toNat := by
    simp [Unicode.Ranges.contains]
  rw [hrange, ← Char.toNat_inj]
  omega

theorem contains_segmentRanges_iff :
    Unicode.Ranges.contains segmentRanges c.toNat = true ↔ c ≠ '/' := by
  have hvalid : c.toNat < 0xD800 ∨ 0xDFFF < c.toNat ∧ c.toNat < 0x110000 := c.valid
  have hranges : Unicode.Ranges.contains segmentRanges c.toNat = true ↔
      c.toNat ≤ 0x2E ∨ 0x30 ≤ c.toNat ∧ c.toNat ≤ 0x10FFFF := by
    simp [Unicode.Ranges.contains, segmentRanges]
  have hslash : '/'.toNat = 0x2F := rfl
  rw [hranges, ne_eq, ← Char.toNat_inj]
  omega

theorem matches_oneOf_iff :
    (Pattern.oneOf set).Matches path.toArray i j ↔
      ∃ c, set.contains c.toNat = true ∧ path[i]? = some c ∧ i + 1 = j := by
  rw [Matches, List.getElem?_toArray]
  exact exists_congr fun c => and_left_comm

/-- A text is matched where it stands, and what comes after it after that. -/
theorem matches_patternAfter_iff {p : Pattern} :
    (patternAfter literal p).Matches path.toArray i j ↔
      literal <+: path.drop i ∧ p.Matches path.toArray (i + literal.length) j := by
  induction literal generalizing i with
  | nil => simp [patternAfter]
  | cons c rest ih =>
      change (Pattern.seq _ (patternAfter rest p)).Matches path.toArray i j ↔ _
      rw [cons_prefix_drop_iff, and_assoc, List.length_cons, Nat.add_comm rest.length,
        ← Nat.add_assoc, ← ih, Matches]
      constructor
      · rintro ⟨k, hchar, hrest⟩
        obtain ⟨d, hset, hpath, rfl⟩ := matches_oneOf_iff.mp hchar
        exact ⟨contains_singleton_iff.mp hset ▸ hpath, hrest⟩
      · rintro ⟨hpath, hrest⟩
        exact ⟨i + 1, matches_oneOf_iff.mpr ⟨c, contains_singleton_iff.mpr rfl, hpath, rfl⟩,
          hrest⟩

/-- Copies of a class of characters match the texts of such characters. -/
theorem steps_oneOf_iff :
    Steps ((Pattern.oneOf set).Matches path.toArray) count i j ↔
      ∃ part : List Char, part.length = count ∧ (∀ c ∈ part, set.contains c.toNat = true) ∧
        part <+: path.drop i ∧ i + count = j := by
  constructor
  · intro h
    induction h with
    | none i => exact ⟨[], by simp⟩
    | next hstep hrest ih =>
        obtain ⟨c, hset, hpath, rfl⟩ := matches_oneOf_iff.mp hstep
        obtain ⟨part, rfl, hall, hstart, rfl⟩ := ih
        refine ⟨c :: part, rfl, List.forall_mem_cons.mpr ⟨hset, hall⟩,
          cons_prefix_drop_iff.mpr ⟨hpath, hstart⟩, by omega⟩
  · rintro ⟨part, rfl, hall, hstart, rfl⟩
    induction part generalizing i with
    | nil => exact .none i
    | cons c part ih =>
        obtain ⟨hset, hall⟩ := List.forall_mem_cons.mp hall
        obtain ⟨hpath, hstart⟩ := cons_prefix_drop_iff.mp hstart
        have hstep := matches_oneOf_iff.mpr ⟨c, hset, hpath, rfl⟩
        have hrest := ih hall hstart
        rw [Nat.add_assoc, Nat.add_comm 1] at hrest
        exact .next hstep hrest

/-- What stands for a placeholder matches the parts. -/
theorem matches_segment_iff :
    (Pattern.group (.repeated (.oneOf segmentRanges) 1 none)).Matches path.toArray i j ↔
      ∃ part, IsPart part ∧ part <+: path.drop i ∧ i + part.length = j := by
  change (∃ count, 1 ≤ count ∧ _ ∧ Steps _ count i j) ↔ _
  simp only [steps_oneOf_iff, contains_segmentRanges_iff]
  constructor
  · rintro ⟨count, hcount, -, part, rfl, hall, hstart, rfl⟩
    refine ⟨part, ⟨List.ne_nil_of_length_pos hcount, ?_⟩, hstart, rfl⟩
    exact fun hslash => hall '/' hslash rfl
  · rintro ⟨part, ⟨hne, hslash⟩, hstart, rfl⟩
    refine ⟨part.length, List.length_pos_iff.mpr hne, by simp, part, rfl, ?_, hstart, rfl⟩
    exact fun c hc => ne_of_mem_of_not_mem hc hslash

/-! ## Paths made of parts, by places -/

theorem append_drop_eq (h : literal <+: path.drop i) :
    literal ++ path.drop (i + literal.length) = path.drop i := by
  have happend := List.prefix_iff_eq_append.mp h
  rwa [List.drop_drop] at happend

theorem stands_of_drop_eq (h : path.drop i = literal ++ rest) :
    literal <+: path.drop i ∧ path.drop (i + literal.length) = rest := by
  rw [← List.drop_drop, h, List.drop_left]
  exact ⟨List.prefix_append literal rest, rfl⟩

/-- What stands at a place of the path ends within the path. -/
theorem add_length_le_of_stands (hi : i ≤ path.length) (h : literal <+: path.drop i) :
    i + literal.length ≤ path.length := by
  have hlength := h.length_le
  rw [List.length_drop] at hlength
  omega

theorem exists_fills_last_iff :
    (∃ parts, Fills [literal] parts (path.drop i)) ↔
      literal <+: path.drop i ∧ path.length ≤ i + literal.length := by
  constructor
  · rintro ⟨parts, hfills⟩
    obtain ⟨-, hlast⟩ := hfills.eq_nil
    have hlength := congrArg List.length hlast
    rw [List.length_drop] at hlength
    exact ⟨hlast ▸ List.prefix_rfl, by omega⟩
  · rintro ⟨hstart, hend⟩
    have hlast := append_drop_eq hstart
    rw [List.drop_of_length_le hend, List.append_nil] at hlast
    exact ⟨[], hlast ▸ Fills.last literal⟩

theorem exists_fills_next_iff (hliterals : literals ≠ []) :
    (∃ parts, Fills (literal :: literals) parts (path.drop i)) ↔
      literal <+: path.drop i ∧ ∃ part, IsPart part ∧
        part <+: path.drop (i + literal.length) ∧
          ∃ parts, Fills literals parts (path.drop (i + literal.length + part.length)) := by
  constructor
  · rintro ⟨parts, hfills⟩
    generalize hdrop : path.drop i = text at hfills
    cases hfills with
    | last => exact absurd rfl hliterals
    | @next _ part after _ parts hpart hfills =>
        obtain ⟨hstart, hrest⟩ := stands_of_drop_eq hdrop
        obtain ⟨hstands, hafter⟩ := stands_of_drop_eq hrest
        exact ⟨hdrop ▸ hstart, part, hpart, hstands, parts, hafter ▸ hfills⟩
  · rintro ⟨hstart, part, hpart, hstands, parts, hfills⟩
    refine ⟨part :: parts, ?_⟩
    rw [← append_drop_eq hstart, ← append_drop_eq hstands]
    exact .next hpart hfills

/-! ## Whole paths -/

theorem matches_textEnd_iff :
    (Pattern.anchor .textEnd).Matches path.toArray i j ↔ path.length ≤ i ∧ i = j := by
  simp [Matches, Anchor.holds]

theorem matches_textStart_iff (hi : i ≤ path.length) :
    (Pattern.anchor .textStart).Matches path.toArray i j ↔ i = 0 ∧ i = j := by
  have hbefore : Anchor.holds (if i = 0 then none else path.toArray[i - 1]?) path.toArray[i]?
      .textStart = true ↔ i = 0 := by
    by_cases hzero : i = 0
    · simp [hzero, Anchor.holds]
    · have hinside : i - 1 < path.length := by omega
      simp [hzero, hinside, Anchor.holds]
  rw [Matches, hbefore]

/-- Literal texts with what stands for a placeholder between them match what is made of them
with parts between, up to the end of the path. -/
theorem matches_join_iff (hliterals : literals ≠ []) (hi : i ≤ path.length) :
    (pattern.join (.group (.repeated (.oneOf segmentRanges) 1 none)) literals).Matches
        path.toArray i j ↔
      (∃ parts, Fills literals parts (path.drop i)) ∧ path.length = j := by
  fun_induction Pattern.ofLiterals literals generalizing i with
  | case1 => exact absurd rfl hliterals
  | case2 last =>
      rw [pattern.join, matches_patternAfter_iff, matches_textEnd_iff, exists_fills_last_iff,
        and_assoc]
      refine and_congr_right fun hstart => and_congr_right fun hend => ?_
      have hinside := add_length_le_of_stands hi hstart
      rw [Nat.le_antisymm hinside hend]
  | case3 literal rest hrest ih =>
      rw [pattern.join, matches_patternAfter_iff, Matches, exists_fills_next_iff hrest, and_assoc]
      · refine and_congr_right fun hstart => ?_
        have hliteral := add_length_le_of_stands hi hstart
        constructor
        · rintro ⟨k, hsegment, hjoin⟩
          obtain ⟨part, hpart, hstands, rfl⟩ := matches_segment_iff.mp hsegment
          obtain ⟨hfills, hend⟩ :=
            (ih hrest (add_length_le_of_stands hliteral hstands)).mp hjoin
          exact ⟨⟨part, hpart, hstands, hfills⟩, hend⟩
        · rintro ⟨⟨part, hpart, hstands, hfills⟩, hend⟩
          exact ⟨_, matches_segment_iff.mpr ⟨part, hpart, hstands, rfl⟩,
            (ih hrest (add_length_le_of_stands hliteral hstands)).mpr ⟨hfills, hend⟩⟩
      · exact hrest

/-- The pattern of literal texts matches the paths that are made of them with parts between. -/
theorem isMatch_pattern_iff (hliterals : literals ≠ []) (path : String) :
    (pattern literals).isMatch path = true ↔ ∃ parts, Fills literals parts path.toList := by
  have hstart : 0 ≤ path.toList.length := Nat.zero_le _
  rw [isMatch_iff]
  constructor
  · rintro ⟨i, j, hi, k, hbegins, hjoin⟩
    obtain ⟨rfl, rfl⟩ := (matches_textStart_iff hi).mp hbegins
    exact ((matches_join_iff hliterals hi).mp hjoin).1
  · intro hfills
    exact ⟨0, path.toList.length, hstart, 0, (matches_textStart_iff hstart).mpr ⟨rfl, rfl⟩,
      (matches_join_iff hliterals hstart).mpr ⟨hfills, rfl⟩⟩

end Template

/-- The pattern that is written for a route with placeholders can be read exactly if the route
is usable, and then it matches exactly the paths that the route accepts. -/
theorem Route.accepts_eq_isMatch {route : Route} (htemplated : route.isTemplated = true)
    {written : List Char} (hwritten : Template.scanPattern? route.text.toList = some written) :
    (Pattern.ofText? (String.ofList written)).isSome = route.isUsable ∧
      ∀ p, Pattern.ofText? (String.ofList written) = some p →
        ∀ path, p.isMatch path = route.accepts path := by
  have hliterals : Template.literals route.text.toList ≠ [] :=
    List.ne_nil_of_length_eq_add_one (Template.length_literals _)
  rw [Pattern.ofText?_of_scanPattern? hwritten, isUsable, htemplated, Bool.not_true,
    Bool.false_or]
  by_cases hfits : (Template.pattern (Template.literals route.text.toList)).fits = true
  · rw [if_pos hfits, hfits]
    refine ⟨rfl, ?_⟩
    rintro _ ⟨⟩ path
    rw [Bool.eq_iff_iff, Template.isMatch_pattern_iff hliterals, accepts, htemplated,
      Bool.true_and, captures?, Template.isSome_captures?_iff]
  · rw [if_neg hfits, Bool.eq_false_iff.mpr hfits]
    refine ⟨rfl, ?_⟩
    rintro _ ⟨⟩

end ApiContract
