import ApiContract.Proofs.Route.Captures
import ApiContract.Proofs.Text.Offsets
import ApiContract.Route.Scan

/-!
# Scans of a template agree

A template is split in one way into names without a closing brace and literal texts before
them without an opening one, where no placeholder is left in the last literal text.  The scan
for the names and the scan for the pattern both go along this split, whatever braces and
characters of several bytes there are, and never leave the places between characters.
-/

namespace ApiContract
namespace Template

variable {template before inside name rest : List Char}
  {literals literals' names names' : List (List Char)}

/-! ## Splitting a template -/

/-- The text has no opening brace with a closing one behind it. -/
def IsPlain (text : List Char) : Prop :=
  ∀ before after, text = before ++ '\x7b' :: after → '\x7d' ∉ after

/-- A template is made of literal texts with names in braces between them, and no placeholder
could begin or end earlier than it does. -/
structure IsSplit (template : List Char) (literals names : List (List Char)) : Prop where
  length_eq : literals.length = names.length + 1
  fill_eq : fill literals (names.map braced) = template
  names_closed : ∀ name ∈ names, '\x7d' ∉ name
  literals_unopened : ∀ literal ∈ literals.dropLast, '\x7b' ∉ literal
  last_plain : ∀ literal ∈ literals.getLast?, IsPlain literal

/-- After the first place of a character stands all that is after another one. -/
theorem suffix_of_append_cons {c : Char} {before before' after after' : List Char}
    (hbefore : c ∉ before) (h : before ++ c :: after = before' ++ c :: after') :
    after' <:+ after := by
  obtain ⟨between, rfl, hrest⟩ | ⟨between, rfl, hrest⟩ := List.append_eq_append_iff.mp h
  · cases between with
    | nil => exact (List.cons.inj hrest).2 ▸ List.suffix_rfl
    | cons d between => exact ⟨between ++ [c], by simp [(List.cons.inj hrest).2]⟩
  · cases between with
    | nil => exact (List.cons.inj hrest).2 ▸ List.suffix_rfl
    | cons d between => exact absurd (by simp [(List.cons.inj hrest).1]) hbefore

theorem eq_of_append_cons {c : Char} {before before' after after' : List Char}
    (hbefore : c ∉ before) (hbefore' : c ∉ before')
    (h : before ++ c :: after = before' ++ c :: after') : before = before' ∧ after = after' := by
  have hforth := suffix_of_append_cons hbefore h
  have hback := suffix_of_append_cons hbefore' h.symm
  obtain rfl := hback.eq_of_length_le hforth.length_le
  exact ⟨List.append_cancel_right h, rfl⟩

theorem isPlain_of_unopened (hopen : splitAround? ['\x7b'] template = none) :
    IsPlain template := by
  rintro before after rfl
  simpa using Utf8.notMem_of_splitAround?_eq_none hopen

/-- Where the first opening brace is not closed, no later one is. -/
theorem isPlain_of_unclosed (hopen : splitAround? ['\x7b'] template = some (before, inside))
    (hclose : splitAround? ['\x7d'] inside = none) : IsPlain template := by
  have hbefore := Utf8.notMem_of_splitAround? hopen
  have hinside := Utf8.notMem_of_splitAround?_eq_none hclose
  have htemplate : template = before ++ '\x7b' :: inside := by
    simpa using eq_of_splitAround? hopen
  intro before' after hsplit hafter
  exact hinside ((suffix_of_append_cons hbefore (htemplate.symm.trans hsplit)).subset hafter)

theorem IsPlain.isSplit (h : IsPlain template) : IsSplit template [template] [] where
  length_eq := rfl
  fill_eq := rfl
  names_closed := by simp
  literals_unopened := by simp
  last_plain := by simpa using h

/-- A placeholder comes in front of a template. -/
theorem IsSplit.cons (h : IsSplit rest literals names) (hbefore : '\x7b' ∉ before)
    (hname : '\x7d' ∉ name) :
    IsSplit (before ++ '\x7b' :: (name ++ '\x7d' :: rest)) (before :: literals)
      (name :: names) := by
  cases literals with
  | nil => cases h.length_eq
  | cons next literals =>
      refine ⟨congrArg (· + 1) h.length_eq, ?_, ?_, ?_, ?_⟩
      · rw [List.map_cons, fill, h.fill_eq]
        simp [braced]
      · exact List.forall_mem_cons.mpr ⟨hname, h.names_closed⟩
      · exact List.forall_mem_cons.mpr ⟨hbefore, h.literals_unopened⟩
      · rw [List.getLast?_cons_cons]
        exact h.last_plain

theorem IsSplit.eq_singleton (h : IsSplit template literals []) :
    literals = [template] ∧ IsPlain template := by
  obtain ⟨literal, rfl⟩ := List.length_eq_one_iff.mp h.length_eq
  obtain rfl : literal = template := h.fill_eq
  exact ⟨rfl, h.last_plain literal rfl⟩

theorem IsSplit.exists_cons (h : IsSplit template literals (name :: names)) :
    ∃ before rest later, literals = before :: later ∧
      template = before ++ '\x7b' :: (name ++ '\x7d' :: rest) ∧ '\x7b' ∉ before ∧
        '\x7d' ∉ name ∧ IsSplit rest later names := by
  obtain ⟨hname, hnames⟩ := List.forall_mem_cons.mp h.names_closed
  match literals, h with
  | before :: next :: later, h =>
      obtain ⟨hbefore, hlater⟩ := List.forall_mem_cons.mp h.literals_unopened
      have hlength : (next :: later).length = names.length + 1 := Nat.succ.inj h.length_eq
      refine ⟨before, _, _, rfl, ?_, hbefore, hname, ⟨hlength, rfl, hnames, hlater, ?_⟩⟩
      · rw [← h.fill_eq, List.map_cons, fill]
        simp [braced]
      · rw [← List.getLast?_cons_cons]
        exact h.last_plain
  | [_], h => cases h.length_eq
  | [], h => cases h.length_eq

theorem IsSplit.not_isPlain (h : IsSplit template literals (name :: names)) :
    ¬IsPlain template := by
  obtain ⟨before, rest, -, -, htemplate, -⟩ := h.exists_cons
  exact fun hplain => hplain before _ htemplate (by simp)

/-- There is one way to split a template. -/
theorem IsSplit.unique (h : IsSplit template literals names)
    (h' : IsSplit template literals' names') : literals = literals' ∧ names = names' := by
  induction names generalizing template literals literals' names' with
  | nil =>
      obtain ⟨rfl, hplain⟩ := h.eq_singleton
      cases names' with
      | nil => exact ⟨h'.eq_singleton.1.symm, rfl⟩
      | cons name' names' => exact absurd hplain h'.not_isPlain
  | cons name names ih =>
      cases names' with
      | nil => exact absurd h'.eq_singleton.2 h.not_isPlain
      | cons name' names' =>
        obtain ⟨before, rest, later, rfl, htemplate, hbefore, hname, hrest⟩ := h.exists_cons
        obtain ⟨before', rest', later', rfl, htemplate', hbefore', hname', hrest'⟩ := h'.exists_cons
        obtain ⟨rfl, hinside⟩ :=
          eq_of_append_cons hbefore hbefore' (htemplate.symm.trans htemplate')
        obtain ⟨rfl, rfl⟩ := eq_of_append_cons hname hname' hinside
        obtain ⟨rfl, rfl⟩ := ih hrest hrest'
        exact ⟨rfl, rfl⟩

/-- The literal texts and the names of a template split it. -/
theorem isSplit_literals (template : List Char) :
    IsSplit template (Template.literals template) (placeholders template) := by
  fun_induction placeholders template with
  | case1 template hopen =>
      rw [(scan_of_unopened hopen).2]
      exact (isPlain_of_unopened hopen).isSplit
  | case2 template before inside hopen hclose =>
      rw [(scan_of_unclosed hopen hclose).2]
      exact (isPlain_of_unclosed hopen hclose).isSplit
  | case3 template before inside hopen name rest hclose hshorter ih =>
      rw [(scan_of_closed hopen hclose).2, eq_of_splitAround? hopen, eq_of_splitAround? hclose]
      simpa using ih.cons (Utf8.notMem_of_splitAround? hopen) (Utf8.notMem_of_splitAround? hclose)

/-! ## Scanning by byte offsets -/

/-- The places around the first placeholder are places of the template. -/
theorem places_of_placeholder (rest : List Char) (hbefore : '\x7b' ∉ before)
    (hname : '\x7d' ∉ name) :
    let template := before ++ '\x7b' :: (name ++ '\x7d' :: rest)
    let start := Utf8.size before
    let stop := Utf8.size name + 1
    Utf8.offsetOf? '\x7b' template = some start ∧
      Utf8.from? template start = some ('\x7b' :: (name ++ '\x7d' :: rest)) ∧
        Utf8.offsetOf? '\x7d' ('\x7b' :: (name ++ '\x7d' :: rest)) = some stop ∧
          Utf8.upTo? template start = some before ∧
            Utf8.slice? template (start + 1) (start + stop) = some name ∧
              Utf8.from? template (start + stop + 1) = some rest := by
  intro template start stop
  have hstart : Utf8.size (before ++ ['\x7b']) = start + 1 := by
    rw [Utf8.size_append, Utf8.size_ascii_cons (by decide), Utf8.size_nil]
  have hstop : Utf8.size (before ++ ['\x7b'] ++ name ++ ['\x7d']) = start + stop + 1 := by
    rw [Utf8.size_append, Utf8.size_append, hstart, Utf8.size_ascii_cons (by decide),
      Utf8.size_nil]
    omega
  have hopened : '\x7d' ∉ '\x7b' :: name :=
    List.not_mem_cons_of_ne_of_not_mem (by decide) hname
  refine ⟨Utf8.offsetOf?_append hbefore, Utf8.from?_append rfl, ?_, Utf8.upTo?_append rfl, ?_, ?_⟩
  · rw [← List.cons_append, Utf8.offsetOf?_append hopened, Utf8.size_ascii_cons (by decide)]
  · have hslice : Utf8.slice? (before ++ ['\x7b'] ++ name ++ '\x7d' :: rest) (start + 1)
        (start + stop) = some name := Utf8.slice?_append hstart (by omega)
    simpa [template] using hslice
  · have hfrom : Utf8.from? (before ++ ['\x7b'] ++ name ++ ['\x7d'] ++ rest)
        (start + stop + 1) = some rest := Utf8.from?_append hstop
    simpa [template] using hfrom

theorem scanNames?_of_placeholder (hbefore : '\x7b' ∉ before) (hname : '\x7d' ∉ name) :
    scanNames? (before ++ '\x7b' :: (name ++ '\x7d' :: rest)) =
      (scanNames? rest).map (name :: ·) := by
  obtain ⟨hopen, hopened, hclose, -, hinside, hrest⟩ :=
    places_of_placeholder rest hbefore hname
  rw [scanNames?]
  simp only [hopen, hopened, hclose, hinside]
  split <;> simp_all

theorem scanAnchored?_of_placeholder (hbefore : '\x7b' ∉ before) (hname : '\x7d' ∉ name) :
    scanAnchored? (before ++ '\x7b' :: (name ++ '\x7d' :: rest)) =
      (scanAnchored? rest).map (escape before ++ segmentGroup ++ ·) := by
  obtain ⟨hopen, hopened, hclose, hupTo, -, hrest⟩ :=
    places_of_placeholder rest hbefore hname
  rw [scanAnchored?]
  simp only [hopen, hopened, hclose, hupTo]
  split <;> simp_all

/-- In a text without placeholders no opening brace is found, or no closing one behind it. -/
theorem IsPlain.places (h : IsPlain template) :
    Utf8.offsetOf? '\x7b' template = none ∨
      ∃ start opened, Utf8.offsetOf? '\x7b' template = some start ∧
        Utf8.from? template start = some opened ∧ Utf8.offsetOf? '\x7d' opened = none := by
  by_cases hopen : '\x7b' ∈ template
  · obtain ⟨before, inside, rfl, hbefore⟩ := List.eq_append_cons_of_mem hopen
    have hopened : '\x7d' ∉ '\x7b' :: inside :=
      List.not_mem_cons_of_ne_of_not_mem (by decide) (h before inside rfl)
    exact Or.inr ⟨_, _, Utf8.offsetOf?_append hbefore, Utf8.from?_append rfl,
      Utf8.offsetOf?_of_notMem hopened⟩
  · exact Or.inl (Utf8.offsetOf?_of_notMem hopen)

theorem IsPlain.scanNames?_eq (h : IsPlain template) : scanNames? template = some [] := by
  obtain hopen | ⟨start, opened, hopen, hopened, hclose⟩ := h.places
  · rw [scanNames?, hopen]
  · rw [scanNames?]
    simp only [hopen, hopened, hclose]

theorem IsPlain.scanAnchored?_eq (h : IsPlain template) :
    scanAnchored? template = some (escape template ++ ['$']) := by
  obtain hopen | ⟨start, opened, hopen, hopened, hclose⟩ := h.places
  · rw [scanAnchored?, hopen]
  · rw [scanAnchored?]
    simp only [hopen, hopened, hclose]

theorem IsSplit.scanNames?_eq (h : IsSplit template literals names) :
    scanNames? template = some names := by
  induction names generalizing template literals with
  | nil => exact h.eq_singleton.2.scanNames?_eq
  | cons name names ih =>
      obtain ⟨before, rest, later, -, rfl, hbefore, hname, hrest⟩ := h.exists_cons
      rw [scanNames?_of_placeholder hbefore hname, ih hrest, Option.map_some]

theorem IsSplit.scanAnchored?_eq (h : IsSplit template literals names) :
    scanAnchored? template =
      some (List.intercalate segmentGroup (literals.map escape) ++ ['$']) := by
  induction names generalizing template literals with
  | nil =>
      obtain ⟨rfl, hplain⟩ := h.eq_singleton
      rw [hplain.scanAnchored?_eq, List.map_singleton, List.intercalate_singleton]
  | cons name names ih =>
      obtain ⟨before, rest, later, rfl, rfl, hbefore, hname, hrest⟩ := h.exists_cons
      obtain ⟨next, later, rfl⟩ := List.exists_cons_of_length_eq_add_one hrest.length_eq
      rw [scanAnchored?_of_placeholder hbefore hname, ih hrest, Option.map_some]
      simp only [List.map_cons, List.intercalate_cons_cons, List.append_assoc]

end Template

/-- A route is split in one way, and both scans by byte offsets go along it: the one gives the
names of the placeholders, the other the pattern of the literal texts with a group that captures
between every two of them, from the start of the text to its end.  Neither of them fails, so
that no text is taken apart inside a character. -/
theorem Route.scans_agree (route : Route) :
    let template := route.text.toList
    let literals := Template.literals template
    Template.scanNames? template = some route.placeholders ∧
      Template.scanPattern? template =
        some ('^' :: (List.intercalate Template.segmentGroup (literals.map Template.escape) ++
          ['$'])) ∧
        ∀ pieces names, Template.IsSplit template pieces names ↔
          pieces = literals ∧ names = route.placeholders := by
  intro template literals
  have hsplit : Template.IsSplit template literals route.placeholders :=
    Template.isSplit_literals template
  refine ⟨hsplit.scanNames?_eq, ?_, ?_⟩
  · rw [Template.scanPattern?, hsplit.scanAnchored?_eq, Option.map_some]
  · intro pieces names
    constructor
    · exact fun h => h.unique hsplit
    · rintro ⟨rfl, rfl⟩
      exact hsplit

/-- The text of a pattern, from its first anchor to its last. -/
example : Template.scanPattern? "/a.b/\x7bx\x7d".toList = some "^/a\\.b/([^/]+)$".toList := by
  decide +kernel

/-- A brace inside braces belongs to the name, and one that is not closed to the last text. -/
example : Template.scanNames? "ö\x7bi\x7b\x7d\x7b".toList = some ["i\x7b".toList] := by
  decide +kernel

end ApiContract
