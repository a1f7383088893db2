import ApiContract.Proofs.Contract.Body
import ApiContract.Proofs.Text.PercentEncoding
import Mathlib.Data.List.DropRight

/-!
# Selection of media types

A body is judged by the entry that is declared for its media type: one that names the type,
or else its range, or else all types.  Names are compared up to case and the blanks around
them, so that two entries of different names may name the same.  Where they do, the first one
counts; where they do not, the order of the entries does not matter.
-/

namespace ApiContract

/-! ## Texts up to blanks and case -/

namespace Blank

theorem trim_append {before text after : List Char} (hbefore : ∀ c ∈ before, isBlank c = true)
    (hafter : ∀ c ∈ after, isBlank c = true) :
    trim (before ++ text ++ after) = trim text := by
  have hstart : trimStart (before ++ text ++ after) = trimStart (text ++ after) := by
    rw [trimStart, List.append_assoc, List.dropWhile_append_of_pos hbefore, trimStart]
  have hend (text : List Char) : trimEnd (text ++ after) = trimEnd text := by
    have hreverse : ∀ c ∈ after.reverse, isBlank c = true := by simpa using hafter
    rw [trimEnd, List.reverse_append, List.dropWhile_append_of_pos hreverse, trimEnd]
  rw [trim, hstart, trimStart, List.dropWhile_append]
  split
  · -- the text is blank, and so is all that follows
    rename_i hblank
    rw [List.dropWhile_eq_nil_iff.mpr hafter, trim, trimStart, List.isEmpty_iff.mp hblank]
  · rw [hend, trim, trimStart]

theorem isBlank_lower (c : Char) : isBlank (Ascii.lower c) = isBlank c := by
  rw [Ascii.lower]
  split
  · rename_i hletter
    have hbounds : 65 ≤ c.toNat ∧ c.toNat ≤ 90 := by
      simpa [Char.le_def, UInt32.le_iff_toNat_le] using hletter
    have hlower : (Char.ofNat (c.toNat + 32)).toNat = c.toNat + 32 :=
      Percent.toNat_ofNat (by omega)
    simp only [isBlank, hlower]
    grind
  · rfl

theorem trim_map_lower (text : List Char) :
    trim (text.map Ascii.lower) = (trim text).map Ascii.lower := by
  have hblank : isBlank ∘ Ascii.lower = isBlank := funext isBlank_lower
  simp only [trim, trimEnd, trimStart, List.dropWhile_map, ← List.map_reverse, hblank]

end Blank

namespace MediaType

/-- A header value writes a media type: blanks may stand around it, and parameters behind a
semicolon. -/
inductive Writes : String → List Char → Prop where
  | intro {before text after parameters : List Char} :
      (∀ c ∈ before, Blank.isBlank c = true) → ';' ∉ text →
      (∀ c ∈ after, Blank.isBlank c = true) →
      (∀ c ∈ parameters.head?, c = ';') →
      Writes (String.ofList (before ++ text ++ after ++ parameters)) text

/-- Two header values differ in nothing but the case of letters, parameters and blanks around
the media type. -/
def Alike (contentType contentType' : String) : Prop :=
  ∃ text text', Writes contentType text ∧ Writes contentType' text' ∧
    text.map Ascii.lower = text'.map Ascii.lower

theorem Writes.trim_eq {contentType : String} {text : List Char} (h : Writes contentType text) :
    Blank.trim (contentType.toList.takeWhile (· ≠ ';')) = Blank.trim text := by
  obtain ⟨hbefore, htext, hafter, hparameters⟩ := h
  rename_i before after parameters
  have hne {c : Char} (hc : Blank.isBlank c = true) : c ≠ ';' := by
    rintro rfl
    revert hc
    decide
  have hplain : ∀ c ∈ before ++ text ++ after, decide (c ≠ ';') = true := by
    intro c hc
    simp only [List.mem_append] at hc
    rcases hc with (hc | hc) | hc
    · simpa using hne (hbefore c hc)
    · simpa using ne_of_mem_of_not_mem hc htext
    · simpa using hne (hafter c hc)
  have hstop : parameters.takeWhile (fun c => decide (c ≠ ';')) = [] := by
    cases parameters with
    | nil => rfl
    | cons c rest => simp [hparameters c rfl]
  rw [String.toList_ofList, List.takeWhile_append_of_pos hplain, hstop, List.append_nil,
    Blank.trim_append hbefore hafter]

/-- Header values that are alike tell the same media type. -/
theorem Alike.essence_eq {contentType contentType' : String} (h : Alike contentType contentType') :
    essence contentType = essence contentType' := by
  obtain ⟨text, text', hwrites, hwrites', hcase⟩ := h
  have htrim : (Blank.trim text).map Ascii.lower = (Blank.trim text').map Ascii.lower := by
    rw [← Blank.trim_map_lower, ← Blank.trim_map_lower, hcase]
  have hempty : (Blank.trim text).isEmpty = (Blank.trim text').isEmpty := by
    rw [← List.isEmpty_map, htrim, List.isEmpty_map]
  simp only [essence, hwrites.trim_eq, hwrites'.trim_eq, hempty, Ascii.lowercase,
    String.toList_ofList, htrim]

/-! ## Entries for a media type -/

/-- The names under which a media type may be declared, the narrowest one first: its own, that
of its range, and that of all types. -/
def names (essence : String) : List String :=
  [essence] ++ (range? essence).toList ++ ["*/*"]

/-- A declared name without the blanks around it. -/
def trimmed (declared : String) : String :=
  String.ofList (Blank.trim declared.toList)

/-- A declared name is a wanted one up to case and the blanks around it. -/
def Names (declared wanted : String) : Prop :=
  Ascii.equalIgnoringCase (trimmed declared) wanted = true

theorem names_iff {declared wanted : String} :
    Names declared wanted ↔ Ascii.lowercase (trimmed declared) = Ascii.lowercase wanted := by
  simp [Names, Ascii.equalIgnoringCase]

end MediaType

namespace RequestBody

variable {body : RequestBody} {essence : String} {entry : String × MediaType}
  {content : List (String × MediaType)}

/-- The first entry of a name. -/
def entryNamed? (body : RequestBody) (name : String) : Option (String × MediaType) :=
  body.content.find? fun entry =>
    Ascii.equalIgnoringCase (MediaType.trimmed entry.1) name

/-- The entry by which bodies of a media type are judged. -/
def entryFor? (body : RequestBody) (essence : String) : Option (String × MediaType) :=
  (MediaType.names essence).findSome? body.entryNamed?

theorem mediaType?_eq_map (body : RequestBody) (essence : String) :
    body.mediaType? essence = (body.entryFor? essence).map (·.2) := by
  have hdeclared (name : String) : body.declared? name = (body.entryNamed? name).map (·.2) := rfl
  cases hrange : MediaType.range? essence with
  | none =>
      cases hown : body.entryNamed? essence <;> cases hall : body.entryNamed? "*/*" <;>
        simp [mediaType?, entryFor?, MediaType.names, hdeclared, hrange, hown, hall]
  | some range =>
      cases hown : body.entryNamed? essence <;> cases hwide : body.entryNamed? range <;>
        cases hall : body.entryNamed? "*/*" <;>
          simp [mediaType?, entryFor?, MediaType.names, hdeclared, hrange, hown, hwide, hall]

/-- An entry is declared for a media type: it has one of the names for it, and no entry has a
narrower one. -/
inductive Selects (body : RequestBody) (essence : String) : String × MediaType → Prop where
  | intro {wider narrower : List String} {name : String} {entry : String × MediaType} :
      MediaType.names essence = narrower ++ name :: wider →
      entry ∈ body.content → MediaType.Names entry.1 name →
      (∀ other ∈ body.content, ∀ earlier ∈ narrower, ¬MediaType.Names other.1 earlier) →
      Selects body essence entry

/-- At most one entry is declared for a media type. -/
def IsUnambiguous (body : RequestBody) (essence : String) : Prop :=
  ∀ entry other, body.Selects essence entry → body.Selects essence other → entry = other

theorem Selects.mem (h : body.Selects essence entry) : entry ∈ body.content := by
  obtain ⟨-, hmem, -, -⟩ := h
  exact hmem

theorem entryNamed?_eq_none_iff {name : String} :
    body.entryNamed? name = none ↔ ∀ other ∈ body.content, ¬MediaType.Names other.1 name := by
  rw [entryNamed?, List.find?_eq_none]
  rfl

theorem selects_of_entryFor? (h : body.entryFor? essence = some entry) :
    body.Selects essence entry := by
  obtain ⟨narrower, name, wider, hnames, hfound, hnone⟩ := List.findSome?_eq_some_iff.mp h
  refine .intro hnames (List.mem_of_find?_eq_some hfound) (List.find?_some hfound :) ?_
  intro other hother earlier hearlier
  exact entryNamed?_eq_none_iff.mp (hnone earlier hearlier) other hother

theorem entryFor?_eq_none_iff :
    body.entryFor? essence = none ↔ ∀ entry, ¬body.Selects essence entry := by
  constructor
  · rintro h entry ⟨hnames, hmem, hname, -⟩
    rename_i wider narrower name
    have hnone : body.entryNamed? name = none :=
      List.findSome?_eq_none_iff.mp h name (by simp [hnames])
    exact entryNamed?_eq_none_iff.mp hnone entry hmem hname
  · intro h
    rw [Option.eq_none_iff_forall_ne_some]
    intro entry hentry
    exact h entry (selects_of_entryFor? hentry)

theorem selects_of_names {name : String} (hmem : entry ∈ body.content)
    (hname : MediaType.Names entry.1 name) : body.Selects name entry :=
  .intro (List.append_assoc [] [name] _) hmem hname (by simp)

/-- Two places in one list of names are the same, or one is before the other. -/
theorem eq_or_mem_of_split {narrower wider narrower' wider' : List String} {name name' : String}
    (h : narrower ++ name :: wider = narrower' ++ name' :: wider') :
    name = name' ∨ name ∈ narrower' ∨ name' ∈ narrower := by
  induction narrower generalizing narrower' with
  | nil =>
      cases narrower' with
      | nil => exact Or.inl (List.cons.inj h).1
      | cons first rest => exact Or.inr (Or.inl (by simp [(List.cons.inj h).1]))
  | cons first rest ih =>
      cases narrower' with
      | nil => exact Or.inr (Or.inr (by simp [(List.cons.inj h).1]))
      | cons first' rest' =>
          exact (ih (List.cons.inj h).2).imp_right
            (Or.imp (List.mem_cons_of_mem _) (List.mem_cons_of_mem _))

/-- Entries that are declared for the same media type have the same name for it. -/
theorem Selects.lowercase_eq {other : String × MediaType} (h : body.Selects essence entry)
    (h' : body.Selects essence other) :
    Ascii.lowercase (MediaType.trimmed entry.1) = Ascii.lowercase (MediaType.trimmed other.1) := by
  obtain ⟨hnames, hmem, hname, hnarrower⟩ := h
  obtain ⟨hnames', hmem', hname', hnarrower'⟩ := h'
  obtain hsame | hbefore | hbefore := eq_or_mem_of_split (hnames.symm.trans hnames')
  · rw [MediaType.names_iff.mp hname, MediaType.names_iff.mp hname', hsame]
  · exact absurd hname (hnarrower' entry hmem _ hbefore)
  · exact absurd hname' (hnarrower other hmem' _ hbefore)

/-- No media type is declared twice exactly if no name is, up to case and the blanks around
it. -/
theorem forall_isUnambiguous_iff :
    (∀ essence, body.IsUnambiguous essence) ↔
      ∀ entry ∈ body.content, ∀ other ∈ body.content,
        MediaType.Names entry.1 (MediaType.trimmed other.1) → entry = other := by
  constructor
  · intro h entry hentry other hother hname
    exact h _ entry other (selects_of_names hentry hname)
      (selects_of_names hother (MediaType.names_iff.mpr rfl))
  · intro h essence entry other hentry hother
    exact h entry hentry.mem other hother.mem
      (MediaType.names_iff.mpr (hentry.lowercase_eq hother))

/-! ## Orders of the entries -/

theorem selects_iff_of_perm (hperm : content.Perm body.content) :
    ({ body with content } : RequestBody).Selects essence entry ↔ body.Selects essence entry := by
  constructor
  · rintro ⟨hnames, hmem, hname, hnarrower⟩
    exact .intro hnames (hperm.mem_iff.mp hmem) hname fun other hother =>
      hnarrower other (hperm.mem_iff.mpr hother)
  · rintro ⟨hnames, hmem, hname, hnarrower⟩
    exact .intro hnames (hperm.mem_iff.mpr hmem) hname fun other hother =>
      hnarrower other (hperm.mem_iff.mp hother)

/-- An entry that is declared for a media type is found where it comes first. -/
theorem Selects.exists_perm (h : body.Selects essence entry) :
    ∃ content, content.Perm body.content ∧
      ({ body with content } : RequestBody).entryFor? essence = some entry := by
  obtain ⟨before, after, hcontent⟩ := List.append_of_mem h.mem
  have hperm : (entry :: (before ++ after)).Perm body.content :=
    hcontent ▸ List.perm_middle.symm
  refine ⟨_, hperm, ?_⟩
  obtain ⟨hnames, hmem, hname, hnarrower⟩ := (selects_iff_of_perm hperm).mpr h
  rw [entryFor?, List.findSome?_eq_some_iff]
  refine ⟨_, _, _, hnames, ?_, ?_⟩
  · exact List.find?_cons_of_pos hname
  · intro earlier hearlier
    exact entryNamed?_eq_none_iff.mpr fun other hother => hnarrower other hother earlier hearlier

/-- All orders of the entries select the same one, or none, exactly if at most one is declared
for the media type. -/
theorem entryFor?_eq_of_perm_iff :
    (∀ content, content.Perm body.content →
      ({ body with content } : RequestBody).entryFor? essence = body.entryFor? essence) ↔
      body.IsUnambiguous essence := by
  constructor
  · intro h entry other hentry hother
    obtain ⟨content, hperm, hfirst⟩ := hentry.exists_perm
    obtain ⟨content', hperm', hfirst'⟩ := hother.exists_perm
    rw [h content hperm] at hfirst
    rw [h content' hperm', hfirst] at hfirst'
    exact Option.some.inj hfirst'
  · intro hunique content hperm
    cases hentry : body.entryFor? essence with
    | none =>
        rw [entryFor?_eq_none_iff] at hentry ⊢
        exact fun entry => mt (selects_iff_of_perm hperm).mp (hentry entry)
    | some entry =>
        have hselects := selects_of_entryFor? hentry
        cases hother : ({ body with content } : RequestBody).entryFor? essence with
        | none =>
            exact absurd ((selects_iff_of_perm hperm).mpr hselects)
              (entryFor?_eq_none_iff.mp hother entry)
        | some other =>
            have hselects' := (selects_iff_of_perm hperm).mp (selects_of_entryFor? hother)
            rw [hunique entry other hselects hselects']

end RequestBody

/-! ## Verdicts on bodies -/

/-- Two requests bring the same bytes, and values for the type of their content that are
alike. -/
structure Request.BringsAlike (request request' : Request) : Prop where
  body_eq : request'.body = request.body
  contentLength_eq : request'.contentLength = request.contentLength
  alike : ∃ contentType contentType', request.header? "content-type" = some contentType ∧
    request'.header? "content-type" = some contentType' ∧
      MediaType.Alike contentType contentType'

theorem Request.BringsAlike.bodyEssence_eq {request request' : Request}
    (h : request.BringsAlike request') : request'.bodyEssence = request.bodyEssence := by
  obtain ⟨contentType, contentType', hheader, hheader', halike⟩ := h.alike
  rw [bodyEssence, bodyEssence, hheader, hheader', Option.getD_some, Option.getD_some,
    halike.essence_eq]

namespace Contract

variable {contract : Contract} {operation operation' : Operation} {body body' : RequestBody}
  {request request' : Request}

/-- The verdict depends on the bytes, their declared length and the entry that is found for
their media type. -/
theorem checkBody_congr (hbody : operation.requestBody = some body)
    (hbody' : operation'.requestBody = some body') (hrequired : body'.required = body.required)
    (hbytes : request'.body = request.body)
    (hlength : request'.contentLength = request.contentLength)
    (hessence : request'.bodyEssence = request.bodyEssence)
    (hentry : body'.entryFor? request.bodyEssence = body.entryFor? request.bodyEssence) :
    contract.checkBody operation' request' = contract.checkBody operation request := by
  have hmedia : body'.mediaType? request.bodyEssence = body.mediaType? request.bodyEssence := by
    rw [RequestBody.mediaType?_eq_map, RequestBody.mediaType?_eq_map, hentry]
  rw [Request.bodyEssence, Request.bodyEssence] at hessence
  rw [Request.bodyEssence] at hmedia
  simp only [checkBody, hbody, hbody', hrequired, hbytes, hlength, hessence, hmedia]

/-- Every order of the entries selects one that is declared for the media type, or none where
there is none, and all orders select the same exactly if at most one is declared, which is so
for all media types if no two names are equal up to case and blanks.  Then the verdict on a
body does not depend on the order.  On requests that differ only in how they write the media
type the verdict is the same in any case. -/
theorem selection_order_iff (hbody : operation.requestBody = some body) (essence : String) :
    (∀ content, content.Perm body.content →
      (∀ entry, ({ body with content } : RequestBody).entryFor? essence = some entry →
        body.Selects essence entry) ∧
      (({ body with content } : RequestBody).entryFor? essence = none ↔
        ∀ entry, ¬body.Selects essence entry)) ∧
      ((∀ content, content.Perm body.content →
        ({ body with content } : RequestBody).entryFor? essence = body.entryFor? essence) ↔
          body.IsUnambiguous essence) ∧
      ((∀ essence, body.IsUnambiguous essence) ↔
        ∀ entry ∈ body.content, ∀ other ∈ body.content,
          MediaType.Names entry.1 (MediaType.trimmed other.1) → entry = other) ∧
      (∀ request : Request, body.IsUnambiguous request.bodyEssence →
        ∀ content, content.Perm body.content →
          contract.checkBody { operation with requestBody := some { body with content } } request =
            contract.checkBody operation request) ∧
      ∀ request request' : Request, request.BringsAlike request' →
        contract.checkBody operation request' = contract.checkBody operation request := by
  refine ⟨?_, RequestBody.entryFor?_eq_of_perm_iff, RequestBody.forall_isUnambiguous_iff, ?_, ?_⟩
  · intro content hperm
    constructor
    · intro entry hentry
      exact (RequestBody.selects_iff_of_perm hperm).mp (RequestBody.selects_of_entryFor? hentry)
    · rw [RequestBody.entryFor?_eq_none_iff]
      exact forall_congr' fun entry => not_congr (RequestBody.selects_iff_of_perm hperm)
  · intro request hunique content hperm
    exact checkBody_congr hbody rfl rfl rfl rfl rfl
      (RequestBody.entryFor?_eq_of_perm_iff.mpr hunique content hperm)
  · intro request request' halike
    exact checkBody_congr hbody hbody rfl halike.body_eq halike.contentLength_eq
      halike.bodyEssence_eq rfl

/-! ### Names that are spelled twice -/

/-- Texts in any form, and nothing but flags as JSON, whose name is spelled in two ways. -/
def spelledBody : RequestBody where
  content := [("text/*", {}), ("application/json", {}),
    ("Application/JSON", { schema := some { type := some .boolean } })]

def spelledOperation : Operation where
  requestBody := some spelledBody

def spelledContract : Contract where
  version := "3.0.0"
  info := none
  router := ⟨[], []⟩
  components := {}
  security := []
  digest := []

/-- A request that brings an empty list and tells its media type. -/
def listRequest (contentType : String) : Request where
  method := "POST"
  path := "/"
  headers := [("content-type", contentType)]
  body := [91, 93]

theorem selection_order_iff_spelledBody :
    spelledOperation.requestBody = some spelledBody ∧
      spelledBody.IsUnambiguous (listRequest "text/csv").bodyEssence ∧
        (listRequest "text/csv").BringsAlike (listRequest " Text/CSV ; charset=utf-8") ∧
          spelledContract.checkBody
              { spelledOperation with
                requestBody := some { spelledBody with content := spelledBody.content.reverse } }
              (listRequest "text/csv") =
            spelledContract.checkBody spelledOperation
              (listRequest " Text/CSV ; charset=utf-8") := by
  have hessence : (listRequest "text/csv").bodyEssence = "text/csv" := by decide +kernel
  have halike : (listRequest "text/csv").BringsAlike (listRequest " Text/CSV ; charset=utf-8") := by
    refine ⟨rfl, by decide +kernel, "text/csv", " Text/CSV ; charset=utf-8", by decide +kernel,
      by decide +kernel,
      "text/csv".toList, "Text/CSV".toList, ?_, ?_, by decide⟩
    · exact @MediaType.Writes.intro [] "text/csv".toList [] [] (by simp) (by decide) (by simp)
        (by simp)
    · exact @MediaType.Writes.intro [' '] "Text/CSV".toList [' '] "; charset=utf-8".toList
        (by simp [Blank.isBlank]) (by decide) (by simp [Blank.isBlank]) (by simp)
  have hnames : MediaType.names "text/csv" = ["text/csv", "text/*", "*/*"] := by decide +kernel
  have hjson : ∀ declared ∈ ["application/json", "Application/JSON"],
      ∀ name ∈ ["text/csv", "text/*", "*/*"], ¬MediaType.Names declared name := by
    simp only [MediaType.Names]
    decide +kernel
  have honly (entry : String × MediaType) (h : spelledBody.Selects "text/csv" entry) :
      entry = ("text/*", {}) := by
    obtain ⟨hlist, hmem, hname, -⟩ := h
    rename_i name
    have hwanted : name ∈ ["text/csv", "text/*", "*/*"] := by simp [← hnames, hlist]
    simp only [spelledBody, List.mem_cons, List.not_mem_nil, or_false] at hmem
    rcases hmem with rfl | rfl | rfl
    · rfl
    · exact absurd hname (hjson _ (by simp) name hwanted)
    · exact absurd hname (hjson _ (by simp) name hwanted)
  have hunique : spelledBody.IsUnambiguous (listRequest "text/csv").bodyEssence := by
    intro entry other hentry hother
    rw [hessence] at hentry hother
    rw [honly entry hentry, honly other hother]
  obtain ⟨-, -, -, horder, hvaries⟩ :=
    @selection_order_iff spelledContract spelledOperation spelledBody rfl "text/csv"
  refine ⟨rfl, hunique, halike, ?_⟩
  rw [horder _ hunique _ (List.reverse_perm _), hvaries _ _ halike]

/-- The order of two entries that name the same type decides which of them is selected, and
with it whether the body is accepted. -/
theorem spelledBody_order_matters :
    ∃ content, content.Perm spelledBody.content ∧
      (spelledBody.entryFor? "application/json").map (·.1) = some "application/json" ∧
        (({ spelledBody with content } : RequestBody).entryFor? "application/json").map (·.1) =
          some "Application/JSON" ∧
          spelledContract.checkBody spelledOperation (listRequest "application/json") = .ok () ∧
            spelledContract.checkBody
                { spelledOperation with requestBody := some { spelledBody with content } }
                (listRequest "application/json") = .error .schemaMismatch := by
  refine ⟨spelledBody.content.reverse, List.reverse_perm _, ?_, ?_, ?_, ?_⟩
  · decide +kernel
  · decide +kernel
  · decide +kernel
  · decide +kernel

end Contract
end ApiContract
