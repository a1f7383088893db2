import ApiContract.Proofs.Contract.Body
import ApiContract.Proofs.Schema.WrittenValues
import ApiContract.Proofs.Text.Decoding

/-!
# Parameters that write arrays and objects

A parameter is judged as a text and a body as the value that it writes.  For an array or an
object that makes no difference, if all the schemas that read the text expect the one or the
other: the parameter is accepted exactly if the value is, and if the body is.
-/

namespace ApiContract

variable {components : Components} {schema : Schema} {value : Json}

theorem Parameter.check_eq_ok_iff_of_text {parameter : Parameter} {text : String}
    (hschema : parameter.schema = some schema) (htext : text ≠ "") :
    parameter.check components (some text) = .ok () ↔
      components.accepts (.string text) schema = true := by
  have hfilter : (some text).filter (fun text => decide (text ≠ "")) = some text := by
    simp [htext]
  simp only [check, hfilter, hschema, Option.all_some]
  split
  · rename_i haccepts
    exact iff_of_true rfl haccepts
  · rename_i hrefuses
    exact iff_of_false (by simp) hrefuses

/-- A request brings a value in its body, and the schema is the one that is declared for its
media type. -/
structure RequestBody.Receives (body : RequestBody) (request : Request) (schema : Schema)
    (value : Json) : Prop where
  declared : ∃ mediaType, body.mediaType? request.bodyEssence = some mediaType ∧
    mediaType.schema = some schema
  contentLength_ne : request.contentLength ≠ 0
  written : (Utf8.decode? request.body).bind Json.parse? = some value

namespace Contract

variable {contract : Contract}

theorem checkBody_eq_ok_iff_of_receives {operation : Operation} {body : RequestBody}
    {request : Request} (hbody : operation.requestBody = some body)
    (hreceives : body.Receives request schema value) :
    contract.checkBody operation request = .ok () ↔
      contract.components.accepts value schema = true := by
  obtain ⟨mediaType, hmedia, hschema⟩ := hreceives.declared
  have hfull : request.body ≠ [] := by
    intro hempty
    have hnone : (Utf8.decode? []).bind Json.parse? = none := by decide +kernel
    have hwritten := hreceives.written
    rw [hempty, hnone] at hwritten
    cases hwritten
  rw [checkBody_eq_ok_iff hbody, checksBody_iff hmedia]
  simp [hreceives.contentLength_ne, hfull, hschema, hreceives.written]

/-- The text of an array or object is judged as the array or object, if references and
compositions end at schemas that read it.  So a parameter that carries the text is accepted
exactly if a body is that carries the value. -/
theorem check_text_iff_checkBody (hvalue : value.typesOfText ≠ [])
    (hread : Json.parse? value.render.toList = some value)
    (hends : contract.components.EndsAt value.typesOfText schema) :
    contract.components.accepts (.string value.render) schema =
        contract.components.accepts value schema ∧
      ∀ (parameter : Parameter) (operation : Operation) (body : RequestBody)
        (request : Request),
        parameter.schema = some schema → operation.requestBody = some body →
          body.Receives request schema value →
            (parameter.check contract.components (some value.render) = .ok () ↔
              contract.checkBody operation request = .ok ()) := by
  have hsame : contract.components.accepts (.string value.render) schema =
      contract.components.accepts value schema :=
    Components.accepts_string hread hends hvalue
  have htext : value.render ≠ "" := by
    intro hempty
    rw [hempty] at hread
    cases hread
  refine ⟨hsame, ?_⟩
  intro parameter operation body request hschema hbody hreceives
  rw [Parameter.check_eq_ok_iff_of_text hschema htext, hsame,
    checkBody_eq_ok_iff_of_receives hbody hreceives]

/-! ### Filters by a range -/

/-- What a range must say. -/
def rangeSchema : Schema where
  type := some .object
  required := ["from"]
  properties := [("from", { type := some .integer })]

/-- A filter is a range, or else tells its unit. -/
def filterSchema : Schema where
  oneOf := some [{ ref := some "#/components/schemas/Range" }, { required := ["unit"] }]

/-- A contract with ranges among its components. -/
def filterContract : Contract where
  version := "3.0.0"
  info := none
  router := ⟨[], []⟩
  components := { schemas := [("Range", rangeSchema)] }
  security := []
  digest := []

/-- A range with a quote in it. -/
def quotedRange : Json :=
  .object [("from", .number (.integer 1)), ("to", .string "a\"b")]

theorem endsAt_filterSchema :
    filterContract.components.EndsAt [some .object, none] filterSchema := by
  have hrange : filterContract.components.Resolves "#/components/schemas/Range" "Range"
      rangeSchema := ⟨by decide, Or.inl rfl, by rfl⟩
  have hreach {schema : Schema} (h : filterContract.components.Reaches filterSchema schema) :
      schema = filterSchema ∨ schema = { ref := some "#/components/schemas/Range" } ∨
        schema = { required := ["unit"] } ∨ schema = rangeSchema := by
    induction h with
    | start => exact Or.inl rfl
    | reference _ href hresolves ih =>
        rcases ih with rfl | rfl | rfl | rfl
        · cases href
        · cases href
          exact Or.inr (Or.inr (Or.inr (hresolves.unique hrange)))
        · cases href
        · cases href
    | member _ hmembers hmem ih =>
        rcases ih with rfl | rfl | rfl | rfl
        · rcases hmembers with ⟨⟨⟩⟩ | ⟨⟨⟩⟩ | ⟨⟨⟩⟩
          simp only [List.mem_cons, List.not_mem_nil, or_false] at hmem
          rcases hmem with rfl | rfl <;> simp
        · rcases hmembers with ⟨⟨⟩⟩ | ⟨⟨⟩⟩ | ⟨⟨⟩⟩
        · rcases hmembers with ⟨⟨⟩⟩ | ⟨⟨⟩⟩ | ⟨⟨⟩⟩
        · rcases hmembers with ⟨⟨⟩⟩ | ⟨⟨⟩⟩ | ⟨⟨⟩⟩
  constructor
  · intro schema hschema
    rcases hreach hschema with rfl | rfl | rfl | rfl <;> rfl
  · intro schema hschema hend
    rcases hreach hschema with rfl | rfl | rfl | rfl
    · cases hend.oneOf_eq
    · cases hend.ref_eq
    · simp
    · simp [rangeSchema]

/-- A parameter that carries a filter. -/
def filterParameter : Parameter where
  name := "filter"
  location := .query
  schema := some filterSchema

/-- Filters as JSON. -/
def filterBody : RequestBody where
  content := [("application/json", { schema := some filterSchema })]

/-- The operation to which filters are sent. -/
def filterOperation : Operation where
  requestBody := some filterBody

/-- A request with a range in its body. -/
def rangeRequest : Request where
  method := "POST"
  path := "/filters"
  headers := [("content-type", "application/json")]
  body := Utf8.encode quotedRange.render.toList

theorem receives_rangeRequest :
    filterBody.Receives rangeRequest filterSchema quotedRange := by
  constructor
  · have hessence : rangeRequest.bodyEssence = "application/json" := by decide +kernel
    have hname : Ascii.equalIgnoringCase
        (String.ofList (Blank.trim "application/json".toList)) "application/json" = true := by
      decide +kernel
    refine ⟨{ schema := some filterSchema }, ?_, rfl⟩
    simp only [hessence, RequestBody.mediaType?, RequestBody.declared?, filterBody,
      List.find?_cons, hname, Option.map_some, Option.some_or]
  · decide +kernel
  · rw [rangeRequest, Utf8.decode?_encode, Option.bind_some]
    decide +kernel

/-- The text of a range is accepted as a filter, as the range itself is: in a parameter, and
in a body. -/
theorem check_text_iff_checkBody_quotedRange :
    quotedRange.typesOfText ≠ [] ∧
      Json.parse? quotedRange.render.toList = some quotedRange ∧
        filterContract.components.EndsAt quotedRange.typesOfText filterSchema ∧
          filterContract.components.accepts (.string quotedRange.render) filterSchema = true ∧
            filterParameter.check filterContract.components (some quotedRange.render) =
              .ok () ∧
              filterContract.checkBody filterOperation rangeRequest = .ok () := by
  have hvalue : quotedRange.typesOfText ≠ [] := by simp [quotedRange, Json.typesOfText]
  have hread : Json.parse? quotedRange.render.toList = some quotedRange := by decide +kernel
  have haccepts : filterContract.components.accepts quotedRange filterSchema = true := by
    decide +kernel
  have hbody : filterContract.checkBody filterOperation rangeRequest = .ok () :=
    (checkBody_eq_ok_iff_of_receives rfl receives_rangeRequest).mpr haccepts
  obtain ⟨htext, hparameters⟩ := check_text_iff_checkBody hvalue hread endsAt_filterSchema
  have hparameter := hparameters filterParameter filterOperation filterBody rangeRequest rfl rfl
    receives_rangeRequest
  exact ⟨hvalue, hread, endsAt_filterSchema, htext.trans haccepts, hparameter.mpr hbody, hbody⟩

end Contract
end ApiContract
