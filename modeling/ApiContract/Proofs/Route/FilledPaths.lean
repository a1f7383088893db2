import ApiContract.Proofs.Route.Captures
import ApiContract.Proofs.Text.PercentEncoding

/-!
# Paths built from parameters

A template becomes a path when every placeholder is replaced by a percent-encoded value.
Where every literal text between two placeholders holds a slash, such a path is made of
its pieces in one way only, so that the values are read back from it, whatever they hold.
-/

namespace ApiContract
namespace Template

variable {literals parts others : List (List Char)} {path : List Char}

/-- The literal texts between two placeholders. -/
def between (literals : List (List Char)) : List (List Char) :=
  literals.tail.dropLast

/-! ## One way to make a path -/

/-- Parts without slash are the same if the same text with a slash follows them. -/
theorem eq_of_append_eq {part other literal rest rest' : List Char} (hpart : '/' ∉ part)
    (hother : '/' ∉ other) (hslash : '/' ∈ literal)
    (h : part ++ (literal ++ rest) = other ++ (literal ++ rest')) : part = other := by
  obtain ⟨before, after, rfl, hbefore⟩ := List.eq_append_cons_of_mem hslash
  -- Up to the first slash, both texts are a part with the same text after it.
  have hfirst (part rest : List Char) (hpart : '/' ∉ part) :
      (part ++ (before ++ '/' :: after ++ rest)).takeWhile (· ≠ '/') = part ++ before := by
    have hall : ∀ c ∈ part ++ before, decide (c ≠ '/') = true := by
      intro c hc
      have hfree : '/' ∉ part ++ before := by simp [hpart, hbefore]
      simpa using ne_of_mem_of_not_mem hc hfree
    rw [List.append_assoc before, ← List.append_assoc part,
      List.takeWhile_append_of_pos hall]
    simp
  have hsame := congrArg (List.takeWhile (· ≠ '/')) h
  rw [hfirst part rest hpart, hfirst other rest' hother] at hsame
  exact List.append_cancel_right hsame

theorem Fills.exists_append {literal : List Char} (h : Fills (literal :: literals) parts path) :
    ∃ rest, path = literal ++ rest := by
  cases h with
  | last => exact ⟨[], by simp⟩
  | next hpart hrest => exact ⟨_, rfl⟩

theorem Fills.eq_nil {literal : List Char} (h : Fills [literal] parts path) :
    parts = [] ∧ path = literal := by
  cases h with
  | last => exact ⟨rfl, rfl⟩
  | next hpart hrest => cases hrest

/-- Before two literal texts stand a literal text and a part. -/
theorem Fills.exists_part {literal next : List Char}
    (h : Fills (literal :: next :: literals) parts path) :
    ∃ part rest later, parts = part :: later ∧ path = literal ++ (part ++ rest) ∧
      '/' ∉ part ∧ Fills (next :: literals) later rest := by
  cases h with
  | next hpart hrest => exact ⟨_, _, _, rfl, rfl, hpart.2, hrest⟩

/-- Where a slash stands between every two parts, a path is made of its pieces in one
way. -/
theorem Fills.unique (h : Fills literals parts path) (h' : Fills literals others path)
    (hslash : ∀ literal ∈ between literals, '/' ∈ literal) : parts = others := by
  induction literals generalizing parts others path with
  | nil => cases h
  | cons literal literals ih =>
      cases literals with
      | nil => rw [h.eq_nil.1, h'.eq_nil.1]
      | cons next literals =>
          obtain ⟨part, rest, later, rfl, rfl, hpart, hrest⟩ := h.exists_part
          obtain ⟨other, rest', later', rfl, hpath, hother, hrest'⟩ := h'.exists_part
          have hpieces : part ++ rest = other ++ rest' := List.append_cancel_left hpath
          have hsame : part = other := by
            cases literals with
            | nil =>
                -- The last literal text ends both paths.
                rw [hrest.eq_nil.2, hrest'.eq_nil.2] at hpieces
                exact List.append_cancel_right hpieces
            | cons third literals =>
                have hinner : '/' ∈ next := hslash next (by simp [between])
                obtain ⟨after, rfl⟩ := hrest.exists_append
                obtain ⟨after', rfl⟩ := hrest'.exists_append
                exact eq_of_append_eq hpart hother hinner hpieces
          subst hsame
          obtain rfl : rest = rest' := List.append_cancel_left hpieces
          have hinner : ∀ literal ∈ between (next :: literals), '/' ∈ literal := by
            intro literal hmem
            rw [between, ← List.tail_dropLast] at hmem
            exact hslash literal (List.mem_of_mem_tail hmem)
          rw [ih hrest hrest' hinner]

/-! ## Values and their names -/

theorem lookup_zip_map {α : Type} {names : List (List Char)} {name : List Char}
    (value : List Char → α) (h : name ∈ names) :
    (names.zip (names.map value)).lookup name = some (value name) := by
  induction names with
  | nil => cases h
  | cons first names ih =>
      rw [List.map_cons, List.zip_cons_cons, List.lookup_cons]
      by_cases hfirst : name = first
      · simp [hfirst]
      · have hmem : name ∈ names := (List.mem_cons.mp h).resolve_left hfirst
        rw [beq_false_of_ne hfirst]
        exact ih hmem

end Template

namespace Route

variable {route : Route} {value : String → String}

/-- The path in which every placeholder is replaced by its percent-encoded value. -/
def pathOf (route : Route) (value : String → String) : String :=
  String.ofList (Template.fill (Template.literals route.text.toList)
    (route.placeholders.map fun name => Percent.encodeText (value (String.ofList name)).toList))

/-- The path that is built from values is made of them. -/
theorem fills_pathOf (hvalue : ∀ name ∈ route.placeholders, value (String.ofList name) ≠ "") :
    Template.Fills (Template.literals route.text.toList)
      (route.placeholders.map fun name => Percent.encodeText (value (String.ofList name)).toList)
      (route.pathOf value).toList := by
  rw [Template.fills_iff]
  refine ⟨?_, ?_, ?_⟩
  · rw [Template.length_literals, List.length_map, placeholders]
  · intro part hpart
    obtain ⟨name, hname, rfl⟩ := List.mem_map.mp hpart
    refine ⟨Percent.encodeText_ne_nil ?_, Percent.slash_notMem_encodeText _⟩
    simpa using hvalue name hname
  · simp [pathOf]

/-- A path that is built from values for the placeholders of a template is accepted by it,
and every value is read back from the path.  A route without placeholders is its own
path. -/
theorem parameter?_pathOf
    (hslash : ∀ literal ∈ Template.between (Template.literals route.text.toList), '/' ∈ literal)
    (hvalue : ∀ name ∈ route.placeholders, value (String.ofList name) ≠ "") :
    route.accepts (route.pathOf value) = route.isTemplated ∧
      (route.placeholders = [] → route.pathOf value = route.text) ∧
      ∀ name, name.toList ∈ route.placeholders →
        route.parameter? (route.pathOf value) name = some (value name) := by
  have hfills := fills_pathOf hvalue
  obtain ⟨parts, hparts⟩ : ∃ parts, route.captures? (route.pathOf value) = some parts :=
    Option.isSome_iff_exists.mp hfills.isSome_captures?
  obtain rfl := (Template.fills_of_captures? hparts).unique hfills hslash
  refine ⟨by simp [accepts, hparts], ?_, ?_⟩
  · intro hplain
    have hself := Template.fill_placeholders route.text.toList
    rw [placeholders] at hplain
    rw [hplain] at hself
    rw [List.map_nil] at hself
    rw [pathOf, placeholders, hplain, List.map_nil, hself, String.ofList_toList]
  · intro name hname
    rw [parameter?_eq_lookup hparts, Template.lookup_zip_map _ hname, Option.map_some,
      String.ofList_toList, Percent.decodeText_encodeText, String.ofList_toList]

/-! ### Titles that end as the template does -/

/-- The file of a title on a shelf. -/
def shelfRoute : Route where
  text := "/shelves/\x7bshelf\x7d/\x7btitle\x7d.json"
  item := {}

/-- A shelf with a placeholder in its name, and a title that holds the literal text after
it. -/
def shelfValue (name : String) : String :=
  if name = "shelf" then "100% \x7btitle\x7d" else "a/b.json"

/-- Both values are read back from the path that is built from them. -/
theorem parameter?_pathOf_shelfRoute :
    shelfRoute.pathOf shelfValue = "/shelves/100%25%20%7Btitle%7D/a%2Fb.json.json" ∧
      shelfRoute.accepts (shelfRoute.pathOf shelfValue) = true ∧
        shelfRoute.parameter? (shelfRoute.pathOf shelfValue) "shelf" =
            some "100% \x7btitle\x7d" ∧
          shelfRoute.parameter? (shelfRoute.pathOf shelfValue) "title" = some "a/b.json" := by
  have hnames : shelfRoute.placeholders = ["shelf".toList, "title".toList] := by decide +kernel
  have hliterals : Template.literals shelfRoute.text.toList =
      ["/shelves/".toList, "/".toList, ".json".toList] := by decide +kernel
  have hslash : ∀ literal ∈ Template.between (Template.literals shelfRoute.text.toList),
      '/' ∈ literal := by
    rw [hliterals]
    decide
  have hvalue : ∀ name ∈ shelfRoute.placeholders, shelfValue (String.ofList name) ≠ "" := by
    rw [hnames]
    decide
  obtain ⟨haccepts, -, hread⟩ := parameter?_pathOf hslash hvalue
  refine ⟨by decide +kernel, ?_, ?_, ?_⟩
  · rw [haccepts, isTemplated, hnames]
    rfl
  · rw [hread "shelf" (by simp [hnames])]
    decide
  · rw [hread "title" (by simp [hnames])]
    decide

end Route
end ApiContract
