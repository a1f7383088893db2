import ApiContract.Proofs.Route.Template
import Mathlib.Tactic.NthRewrite

/-!
# Captured parts

A path that fits a template may be made of its literal texts in several ways.  Of these
`Template.captures?` finds the one whose first part is the longest, of those that agree
in it the one whose second part is the longest, and so on.  The parameter of a name is
read from the part of the first placeholder with this name.
-/

namespace ApiContract
namespace Template

variable {literals parts others : List (List Char)} {path : List Char}

/-! ## Texts made of pieces -/

/-- The text that is made of literal texts with parts between them. -/
def fill : (literals parts : List (List Char)) → List Char
  | [], _ => []
  | literal :: _, [] => literal
  | literal :: literals, part :: parts => literal ++ (part ++ fill literals parts)

/-- A placeholder as it is written. -/
def braced (name : List Char) : List Char :=
  '\x7b' :: (name ++ ['\x7d'])

/-- A template is made of its literal texts with its placeholders between them. -/
theorem fill_placeholders (template : List Char) :
    fill (Template.literals template) ((placeholders template).map braced) = template := by
  fun_induction placeholders template with
  | case1 template hopen => simp [(scan_of_unopened hopen).2, fill]
  | case2 template before inside hopen hclose => simp [(scan_of_unclosed hopen hclose).2, fill]
  | case3 template before inside hopen name rest hclose hshorter ih =>
      rw [(scan_of_closed hopen hclose).2, List.map_cons, fill, ih, eq_of_splitAround? hopen,
        eq_of_splitAround? hclose]
      simp [braced]

/-- A path fits literal texts if it is made of them with parts between them. -/
theorem fills_iff :
    Fills literals parts path ↔
      literals.length = parts.length + 1 ∧ (∀ part ∈ parts, IsPart part) ∧
        fill literals parts = path := by
  constructor
  · intro h
    refine ⟨h.length_eq, ?_⟩
    induction h with
    | last literal => simp [fill]
    | next hpart hrest ih =>
        obtain ⟨hparts, hpath⟩ := ih
        refine ⟨List.forall_mem_cons.mpr ⟨hpart, hparts⟩, ?_⟩
        rw [fill, hpath]
  · rintro ⟨hlength, hparts, rfl⟩
    induction parts generalizing literals with
    | nil =>
        obtain ⟨literal, rfl⟩ := List.length_eq_one_iff.mp hlength
        exact .last literal
    | cons part parts ih =>
        obtain ⟨hpart, hrest⟩ := List.forall_mem_cons.mp hparts
        cases literals with
        | nil => cases hlength
        | cons literal literals => exact .next hpart (ih (Nat.succ.inj hlength) hrest)

/-! ## The longest part first -/

/-- At the first place where they differ, the part in the first list is the longer
one. -/
def TakesMore (parts others : List (List Char)) : Prop :=
  List.Lex (fun part other => other.length < part.length) parts others

/-- No other parts of which the path is made take more than those that are captured. -/
theorem takesMore_of_captures? (h : captures? literals path = some parts)
    (hothers : Fills literals others path) : others = parts ∨ TakesMore parts others := by
  induction literals generalizing path parts others with
  | nil => simp [captures?] at h
  | cons literal literals ih =>
      cases hothers with
      | last =>
          obtain rfl : [] = parts := by simpa [captures?] using h
          exact Or.inl rfl
      | @next _ other rest _ others hother hrest =>
          cases literals with
          | nil => cases hrest
          | cons next literals =>
              have hdrop : dropStart? literal (literal ++ (other ++ rest)) =
                  some (other ++ rest) := dropStart?_eq_some_iff.mpr rfl
              simp only [captures?, hdrop] at h
              obtain ⟨k, found, -, hle, hfound, rfl, hlongest⟩ := exists_take_of_takeLongest? h
              have hafter : (other ++ rest).drop other.length = rest := List.drop_left
              -- A part longer than what is taken would have been taken itself.
              have hshorter : other.length ≤ k := by
                by_contra hlonger
                have hnone := hlongest other.length (by omega) (length_le_takeWhile hother.2)
                have hsome := hrest.isSome_captures?
                rw [hafter] at hnone
                simp [hnone] at hsome
              rcases Nat.lt_or_eq_of_le hshorter with hless | rfl
              · refine Or.inr (.rel ?_)
                have hinside : k ≤ (other ++ rest).length :=
                  Nat.le_trans hle (List.takeWhile_prefix _).length_le
                rwa [List.length_take_of_le hinside]
              · rw [hafter] at hfound
                rw [List.take_left]
                rcases ih hfound hrest with rfl | hmore
                · exact Or.inl rfl
                · exact Or.inr (.cons hmore)

/-! ## Parts and their names -/

/-- The value at the place of a name is the first one that stands with the name. -/
theorem lookup_zip_eq {α : Type} (names : List (List Char)) (values : List α)
    (name : List Char) :
    (names.zip values).lookup name = (names.findIdx? (· == name)).bind (values[·]?) := by
  induction names generalizing values with
  | nil => simp
  | cons first names ih =>
      cases values with
      | nil => simp
      | cons value values =>
          rw [List.zip_cons_cons, List.lookup_cons, List.findIdx?_cons]
          by_cases hfirst : first = name
          · simp [hfirst]
          · rw [beq_false_of_ne (Ne.symm hfirst), beq_false_of_ne hfirst]
            simp only [Bool.false_eq_true, if_false, ih, Option.bind_map]
            rfl

/-- Every name has a value if there are no fewer values than names. -/
theorem lookup_zip_eq_none_iff {α : Type} {names : List (List Char)} {values : List α}
    (h : names.length ≤ values.length) {name : List Char} :
    (names.zip values).lookup name = none ↔ name ∉ names := by
  have hnames : (names.zip values).map (·.1) = names := List.map_fst_zip h
  rw [← Option.not_isSome_iff_eq_none, List.lookup_isSome_iff, not_iff_not]
  nth_rewrite 2 [← hnames]
  rw [List.mem_map]
  simp only [beq_iff_eq]
  exact exists_congr fun _ => and_congr_right fun _ => eq_comm

end Template

namespace Route

variable {route : Route} {path : String} {parts : List (List Char)}

/-- Something is captured exactly if the template accepts the path. -/
theorem isSome_captures?_iff_accepts (htemplated : route.isTemplated = true) :
    (route.captures? path).isSome ↔ route.accepts path = true := by
  simp [accepts, htemplated]

/-- A parameter is the decoded part that stands with the first placeholder of its
name. -/
theorem parameter?_eq_lookup (hparts : route.captures? path = some parts) (name : String) :
    route.parameter? path name =
      ((route.placeholders.zip parts).lookup name.toList).map fun raw =>
        String.ofList (Percent.decodeText raw) := by
  rw [Template.lookup_zip_eq, parameter?, hparts]
  cases hindex : route.placeholders.findIdx? (· == name.toList) with
  | none => rfl
  | some index =>
      cases hraw : parts[index]? <;> simp [hraw]

/-- In a path that is not accepted there are no parameters. -/
theorem parameter?_of_refused (h : route.accepts path = false) (name : String) :
    route.parameter? path name = none := by
  by_cases htemplated : route.isTemplated = true
  · have hnone : route.captures? path = none := by
      rw [← Option.not_isSome_iff_eq_none, isSome_captures?_iff_accepts htemplated, h]
      exact Bool.false_ne_true
    rw [parameter?, hnone]
    cases route.placeholders.findIdx? (· == name.toList) <;> rfl
  · have hempty : route.placeholders = [] := by simpa [isTemplated] using htemplated
    rw [parameter?, hempty]
    rfl

/-- A template is made of its literal texts with its placeholders between them.  What it
captures in a path that it accepts are parts of which the path is made in the same way,
and the longest first of all such parts; a parameter is the decoded part of the first
placeholder with its name, and is absent if there is none.  In a path that is not accepted
there are no parameters. -/
theorem captures_longest_first (route : Route) (path : String) :
    let literals := Template.literals route.text.toList
    route.text.toList = Template.fill literals (route.placeholders.map Template.braced) ∧
      (route.accepts path = true →
        ∃ parts, route.captures? path = some parts ∧
          parts.length = route.placeholders.length ∧
          Template.Fills literals parts path.toList ∧
          (∀ others, Template.Fills literals others path.toList → others ≠ parts →
            Template.TakesMore parts others) ∧
          ∀ name, route.parameter? path name =
              ((route.placeholders.zip parts).lookup name.toList).map (fun raw =>
                String.ofList (Percent.decodeText raw)) ∧
            (route.parameter? path name = none ↔ name.toList ∉ route.placeholders)) ∧
      (route.accepts path = false → ∀ name, route.parameter? path name = none) := by
  intro literals
  refine ⟨(Template.fill_placeholders _).symm, ?_, parameter?_of_refused⟩
  intro haccepts
  obtain ⟨parts, hparts⟩ := Option.isSome_iff_exists.mp
    ((isSome_captures?_iff_accepts (isTemplated_of_accepts haccepts)).mpr haccepts)
  have hfills : Template.Fills literals parts path.toList := Template.fills_of_captures? hparts
  have hlength : parts.length = route.placeholders.length := length_of_fills hfills
  refine ⟨parts, hparts, hlength, hfills, ?_, ?_⟩
  · intro others hothers hne
    exact (Template.takesMore_of_captures? hparts hothers).resolve_left hne
  · intro name
    have hvalue := parameter?_eq_lookup hparts name
    refine ⟨hvalue, ?_⟩
    rw [hvalue, Option.map_eq_none_iff]
    exact Template.lookup_zip_eq_none_iff (Nat.le_of_eq hlength.symm)

/-! ### Names of files with two dots -/

/-- The name of a file and what kind of file it is, in one segment. -/
def fileRoute : Route where
  text := "/files/\x7bname\x7d.\x7bkind\x7d"
  item := {}

/-- Of a name with two dots all but the last is the name of the file, though the path is
made of a shorter name as well. -/
theorem captures_longest_first_fileRoute :
    fileRoute.accepts "/files/my%20cats.tar.gz" = true ∧
      fileRoute.parameter? "/files/my%20cats.tar.gz" "name" = some "my cats.tar" ∧
        fileRoute.parameter? "/files/my%20cats.tar.gz" "size" = none ∧
          Template.TakesMore ["my%20cats.tar".toList, "gz".toList]
            ["my%20cats".toList, "tar.gz".toList] := by
  have haccepts : fileRoute.accepts "/files/my%20cats.tar.gz" = true := by decide +kernel
  have hcaptures : fileRoute.captures? "/files/my%20cats.tar.gz" =
      some ["my%20cats.tar".toList, "gz".toList] := by decide +kernel
  have hliterals : Template.literals fileRoute.text.toList =
      ["/files/".toList, ".".toList, []] := by decide +kernel
  have hnames : fileRoute.placeholders = ["name".toList, "kind".toList] := by decide +kernel
  obtain ⟨-, hall, -⟩ := captures_longest_first fileRoute "/files/my%20cats.tar.gz"
  obtain ⟨parts, hparts, -, -, hlongest, hvalues⟩ := hall haccepts
  obtain rfl := Option.some.inj (hcaptures.symm.trans hparts)
  refine ⟨haccepts, ?_, ?_, ?_⟩
  · rw [(hvalues "name").1, hnames]
    decide +kernel
  · rw [(hvalues "size").2, hnames]
    decide
  · apply hlongest
    · rw [hliterals, Template.fills_iff]
      decide
    · decide

end Route
end ApiContract
