import ApiContract.Proofs.Route.Scan

/-!
# Reading the pattern of a template

The text of the pattern that is written for a template is read element by element: every
character of the literal texts as itself, and what stands for a placeholder as a group.  So what
is read is the pattern of the literal texts, unless that is too large.
-/

namespace ApiContract
namespace Pattern

variable {fuel : ℕ} {c : Char} {text text' rest : List Char} {names : List String}
  {elements elements' : List Element}

/-! ## Reading element by element -/

/-- A character that stands for itself. -/
def ofLiteral (c : Char) : Element :=
  ⟨.oneOf [(c.toNat, c.toNat)], 0, false⟩

/-- What stands for a placeholder. -/
def ofSegment : Element :=
  ⟨.group (.repeated (.oneOf Template.segmentRanges) 1 none), 3, false⟩

def ofAnchor (a : Anchor) : Element :=
  ⟨.anchor a, 0, false⟩

/-- The text is read as the elements, whatever stands before and after it.  One unit of fuel for
every character is enough, and some of them are spared. -/
def Reads (text : List Char) (elements : List Element) : Prop :=
  ∃ spare, ∀ fuel before rest,
    readAll (fuel + text.length) before [] [] ⟨text ++ rest, {}, []⟩ =
      readAll (fuel + spare) (elements.reverse ++ before) [] [] ⟨rest, {}, []⟩

theorem Reads.nil : Reads [] [] :=
  ⟨0, fun _ _ _ => rfl⟩

theorem Reads.append (h : Reads text elements) (h' : Reads text' elements') :
    Reads (text ++ text') (elements ++ elements') := by
  obtain ⟨spare, hspare⟩ := h
  obtain ⟨spare', hspare'⟩ := h'
  refine ⟨spare + spare', fun fuel before rest => ?_⟩
  have hfirst := hspare (fuel + text'.length) before (text' ++ rest)
  have hsecond := hspare' (fuel + spare) (elements.reverse ++ before) rest
  rw [List.length_append, List.append_assoc, Nat.add_comm text.length, ← Nat.add_assoc, hfirst,
    Nat.add_right_comm, hsecond, List.reverse_append, List.append_assoc, Nat.add_assoc]

/-- A text that is read is read to its end. -/
theorem Reads.readAll_eq (h : Reads text elements) :
    readAll (text.length + 1) [] [] [] ⟨text, {}, []⟩ = some (joinSequence elements.reverse) := by
  obtain ⟨spare, hspare⟩ := h
  have hread := hspare 1 [] []
  rw [List.append_nil, List.append_nil, Nat.add_comm 1, Nat.add_comm 1] at hread
  rw [hread]
  rfl

theorem reads_anchors : Reads ['^'] [ofAnchor .textStart] ∧ Reads ['$'] [ofAnchor .textEnd] :=
  ⟨⟨0, fun _ _ _ => rfl⟩, ⟨0, fun _ _ _ => rfl⟩⟩

/-! ## Characters -/

theorem isMeta_iff : isMeta c = true ↔
    c ∈ ['\\', '.', '+', '*', '?', '(', ')', '|', '[', ']', '\x7b', '\x7d', '^', '$', '#', '&',
      '-', '~'] := by
  simp [isMeta]

theorem readEscape_of_isMeta (h : isMeta c = true) :
    readEscape ⟨'\\' :: c :: rest, {}, names⟩ = some (.literal c false, ⟨rest, {}, names⟩) := by
  have hplain : Ascii.isDigit c = false ∧ c ∉ ['x', 'u', 'U', 'p', 'P'] ∧
      Ascii.lower c ∉ ['d', 's', 'w'] := by
    revert c
    simp only [isMeta_iff]
    simp [Ascii.isDigit, Ascii.lower]
  simp_all [readEscape, Cursor.next, isEscapable, letterClass?]

theorem reads_of_isMeta (h : isMeta c = true) : Reads ['\\', c] [ofLiteral c] := by
  refine ⟨1, fun fuel before rest => ?_⟩
  rw [List.cons_append, List.cons_append, List.nil_append, List.length_cons, ← Nat.add_assoc,
    readAll]
  simp [Cursor.skip, readElement, readEscape_of_isMeta h, ofChar?, isWritable, folded, ofLiteral]

theorem reads_of_not_isMeta (h : isMeta c = false) : Reads [c] [ofLiteral c] := by
  have hplain := mt isMeta_iff.mpr (ne_true_of_eq_false h)
  simp only [List.mem_cons, List.not_mem_nil, or_false, not_or] at hplain
  refine ⟨0, fun fuel before rest => ?_⟩
  have helement : readElement ⟨c :: rest, {}, []⟩ = some (ofLiteral c, ⟨rest, {}, []⟩) := by
    rw [readElement]
    split <;> simp_all [ofChar?, isWritable, folded, ofLiteral, Cursor.next]
  rw [List.cons_append, List.nil_append, List.length_singleton, readAll]
  simp only [Cursor.skip]
  split <;> simp_all

theorem reads_escape (text : List Char) : Reads (Template.escape text) (text.map ofLiteral) := by
  induction text with
  | nil => exact .nil
  | cons c rest ih =>
      rw [Template.escape, List.flatMap_cons, List.map_cons]
      obtain hmeta | hplain := (isMeta c).eq_false_or_eq_true
      · rw [if_pos hmeta]
        exact (reads_of_isMeta hmeta).append ih
      · rw [if_neg (by simp [hplain])]
        exact (reads_of_not_isMeta hplain).append ih

/-! ## Placeholders -/

theorem readRange_slash : readRange ⟨'/' :: ']' :: rest, {}, names⟩ =
    some ([(0x2F, 0x2F)], ⟨']' :: rest, {}, names⟩) := by
  have hitem : readItem ⟨'/' :: ']' :: rest, {}, names⟩ =
      some (.literal '/' false, ⟨']' :: rest, {}, names⟩) := by
    rw [readItem]
    rfl
  rw [readRange, hitem]
  rfl

theorem readItems_slash : readItems (fuel + 2) none {} ⟨'/' :: ']' :: rest, {}, names⟩ =
    some (⟨[(0x2F, 0x2F)], 0⟩, ⟨rest, {}, names⟩) := by
  have hitem : readItems (fuel + 2) none {} ⟨'/' :: ']' :: rest, {}, names⟩ =
      readItems (fuel + 1) none (Items.add {} [(0x2F, 0x2F)] 0) ⟨']' :: rest, {}, names⟩ := by
    rw [readItems]
    simp [Cursor.skip, readRange_slash]
  have hset : Items.close (Items.add {} [(0x2F, 0x2F)] 0) = ⟨[(0x2F, 0x2F)], 0⟩ := by
    simp [Items.add, Items.close, Unicode.Ranges.union, Unicode.Ranges.merge,
      Unicode.Ranges.join, Unicode.Ranges.push]
  rw [hitem, readItems, hset]
  rfl

theorem readClass_segment :
    readClass (fuel + 3) ⟨'[' :: '^' :: '/' :: ']' :: rest, {}, names⟩ =
      some (⟨Template.segmentRanges, 1⟩, ⟨rest, {}, names⟩) := by
  have hopen : (Cursor.mk ('[' :: '^' :: '/' :: ']' :: rest) {} names).nextSkip? =
      some ⟨'^' :: '/' :: ']' :: rest, {}, names⟩ := rfl
  have hnegated : (Cursor.mk ('^' :: '/' :: ']' :: rest) {} names).nextSkip? =
      some ⟨'/' :: ']' :: rest, {}, names⟩ := rfl
  have hset : finished? {} true [(0x2F, 0x2F)] = some Template.segmentRanges := rfl
  rw [readClass]
  simp [hopen, hnegated, readHyphens, readItems_slash, hset]

theorem readElement_segment : readElement ⟨'[' :: '^' :: '/' :: ']' :: rest, {}, names⟩ =
    some (⟨.oneOf Template.segmentRanges, 1, false⟩, ⟨rest, {}, names⟩) := by
  have hfuel : 2 * (rest.length + 1 + 1 + 1 + 1) + 2 = (2 * rest.length + 7) + 3 := by omega
  rw [readElement]
  simp only [List.length_cons, hfuel, readClass_segment]
  rfl

theorem reads_segmentGroup : Reads Template.segmentGroup [ofSegment] := by
  refine ⟨3, fun fuel before rest => ?_⟩
  have hbracket : readAll (fuel + 6) [] [] [⟨before, [], {}, true⟩]
      ⟨'[' :: '^' :: '/' :: ']' :: '+' :: ')' :: rest, {}, []⟩ =
        readAll (fuel + 5) [⟨.oneOf Template.segmentRanges, 1, false⟩] [] [⟨before, [], {}, true⟩]
          ⟨'+' :: ')' :: rest, {}, []⟩ := by
    rw [readAll]
    simp [Cursor.skip, readElement_segment]
  exact hbracket

/-! ## The whole text -/

/-- The elements of literal texts with placeholders between them. -/
def ofLiterals : List (List Char) → List Element
  | [] => []
  | [last] => last.map ofLiteral
  | literal :: rest => literal.map ofLiteral ++ ofSegment :: ofLiterals rest

theorem reads_intercalate (literals : List (List Char)) :
    Reads (List.intercalate Template.segmentGroup (literals.map Template.escape))
      (ofLiterals literals) := by
  fun_induction ofLiterals literals with
  | case1 => exact .nil
  | case2 last => simpa using reads_escape last
  | case3 literal rest hrest ih =>
      obtain ⟨next, later, rfl⟩ := List.exists_cons_of_ne_nil hrest
      rw [List.map_cons, List.map_cons, List.intercalate_cons_cons, List.append_assoc]
      exact (reads_escape literal).append (reads_segmentGroup.append ih)

/-- The elements of the pattern of a template with the literal texts. -/
def ofTemplate (literals : List (List Char)) : List Element :=
  ofAnchor .textStart :: (ofLiterals literals ++ [ofAnchor .textEnd])

theorem reads_of_scanPattern? {template written : List Char}
    (h : Template.scanPattern? template = some written) :
    Reads written (ofTemplate (Template.literals template)) := by
  have hsplit := Template.isSplit_literals template
  rw [Template.scanPattern?, hsplit.scanAnchored?_eq, Option.map_some, Option.some_inj] at h
  obtain ⟨hstart, hend⟩ := reads_anchors
  exact h ▸ hstart.append ((reads_intercalate (Template.literals template)).append hend)

/-! ## How deep the elements are -/

theorem depth_le_of_mem_ofLiterals {literals : List (List Char)} {e : Element}
    (he : e ∈ ofLiterals literals) : e.depth ≤ 3 := by
  fun_induction ofLiterals literals with
  | case1 => cases he
  | case2 last =>
      obtain ⟨c, -, rfl⟩ := List.mem_map.mp he
      exact Nat.zero_le 3
  | case3 literal rest hrest ih =>
      obtain hliteral | hafter := List.mem_append.mp he
      · obtain ⟨c, -, rfl⟩ := List.mem_map.mp hliteral
        exact Nat.zero_le 3
      · obtain rfl | hlater := List.mem_cons.mp hafter
        · exact le_rfl
        · exact ih hlater

theorem depth_le_of_mem_ofTemplate {literals : List (List Char)} {e : Element}
    (he : e ∈ ofTemplate literals) : e.depth ≤ 3 := by
  obtain rfl | hlater := List.mem_cons.mp he
  · exact Nat.zero_le 3
  · obtain hliterals | hend := List.mem_append.mp hlater
    · exact depth_le_of_mem_ofLiterals hliterals
    · rw [List.mem_singleton.mp hend]
      exact Nat.zero_le 3

theorem depth_joinSequence_le {limit : ℕ} (h : ∀ e ∈ elements, e.depth ≤ limit) :
    (joinSequence elements).depth ≤ limit + 1 := by
  match elements with
  | [] => exact Nat.zero_le _
  | [e] => exact (h e (by simp)).trans (Nat.le_succ _)
  | e :: next :: rest =>
      have hmax : ((e :: next :: rest).map (·.depth)).foldl max 0 ≤ limit := by
        refine List.foldlRecOn (motive := (· ≤ limit)) _ _ (Nat.zero_le limit) ?_
        intro d hd m hm
        obtain ⟨e, he, rfl⟩ := List.mem_map.mp hm
        exact max_le hd (h e he)
      exact Nat.succ_le_succ hmax

/-! ## The pattern that is read -/

/-- The patterns of the elements in turn, and then one more. -/
def sequenceBefore (elements : List Element) (last : Pattern) : Pattern :=
  elements.foldr (fun e p => .seq e.pattern p) last

theorem pattern_joinSequence (elements : List Element) (last : Element) :
    (joinSequence (elements ++ [last]).reverse).pattern =
      sequenceBefore elements last.pattern := by
  rw [List.reverse_append, List.reverse_singleton, List.singleton_append, sequenceBefore,
    ← List.foldl_reverse]
  cases elements.reverse <;> rfl

theorem patternAfter_eq (literal : List Char) (rest : Pattern) :
    Template.patternAfter literal rest = sequenceBefore (literal.map ofLiteral) rest := by
  rw [sequenceBefore, List.foldr_map]
  rfl

theorem join_eq (literals : List (List Char)) :
    Template.pattern.join ofSegment.pattern literals =
      sequenceBefore (ofLiterals literals) (.anchor .textEnd) := by
  fun_induction ofLiterals literals with
  | case1 => rfl
  | case2 last => exact patternAfter_eq last _
  | case3 literal rest hrest ih =>
      rw [Template.pattern.join, ih, patternAfter_eq, sequenceBefore, sequenceBefore,
        sequenceBefore, List.foldr_append, List.foldr_cons]
      exact hrest

/-- The text of the pattern that is written for a template is read as the pattern of the literal
texts, unless that is too large. -/
theorem ofText?_of_scanPattern? {template written : List Char}
    (h : Template.scanPattern? template = some written) :
    ofText? (String.ofList written) =
      if (Template.pattern (Template.literals template)).fits then
        some (Template.pattern (Template.literals template))
      else none := by
  have hdepth : (joinSequence (ofTemplate (Template.literals template)).reverse).depth ≤
      depthLimit := by
    refine (depth_joinSequence_le fun e he => ?_).trans (show 3 + 1 ≤ depthLimit by decide)
    exact depth_le_of_mem_ofTemplate (List.mem_reverse.mp he)
  have hpattern : (joinSequence (ofTemplate (Template.literals template)).reverse).pattern =
      Template.pattern (Template.literals template) := by
    rw [ofTemplate, ← List.cons_append, pattern_joinSequence, Template.pattern]
    exact congrArg (Pattern.seq (.anchor .textStart)) (join_eq _).symm
  rw [ofText?, String.toList_ofList, (reads_of_scanPattern? h).readAll_eq]
  simp [hdepth, hpattern]

end Pattern
end ApiContract
