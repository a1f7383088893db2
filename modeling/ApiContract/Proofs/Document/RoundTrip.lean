import ApiContract.Proofs.Document.ReadBack
import ApiContract.Proofs.Document.Reading
import ApiContract.Proofs.Json.Written
import ApiContract.Proofs.Text.Decoding
import ApiContract.Document.Text

/-!
# Documents survive being written

The JSON value that is written of a proper document with finite bounds is read back as the
document.  Every document that is accepted is proper, so that its JSON text is accepted again
and yields the same document, provided that the texts of its numbers are read as the numbers
and that the text is not nested too deeply.
-/

namespace ApiContract
namespace Document

variable {d : Document}

/-- A document that passes its check passes it unchanged, whatever it is read from. -/
theorem check_eq_ok {reading : Reading} {read : Document}
    (h : read.check reading = .ok d) : read = d ∧ ∀ other, d.check other = .ok d := by
  rw [check] at h
  split at h
  · cases h
  · rename_i hversion
    split at h
    · cases h
    · rename_i hcycle
      cases h
      refine ⟨rfl, fun other => ?_⟩
      rw [check, if_neg hversion, hcycle]

/-- An accepted document is read from a node, and passes its check. -/
theorem exists_node_of_parse {content : List UInt8} (h : parse content = .ok d) :
    ∃ limit node, ofNode? limit node = some d ∧ ∀ reading, d.check reading = .ok d := by
  have hcases : ∃ limit node read reading,
      ofNode? limit node = some read ∧ read.check reading = .ok d := by
    rw [parse] at h
    split at h
    · cases h
    · split at h
      · rw [ofJson] at h
        split at h
        · obtain ⟨node, -, hread⟩ := Option.bind_eq_some_iff.mp ‹_›
          exact ⟨_, node, _, _, hread, h⟩
        · cases h
      · rw [ofYaml] at h
        split at h
        · obtain ⟨node, -, hread⟩ := Option.bind_eq_some_iff.mp ‹_›
          exact ⟨_, node, _, _, hread, h⟩
        · cases h
  obtain ⟨limit, node, read, reading, hread, hcheck⟩ := hcases
  obtain ⟨rfl, hall⟩ := check_eq_ok hcheck
  exact ⟨limit, node, hread, hall⟩

/-- The text of an object begins with a brace, so it is read as JSON. -/
theorem parse_object {members : List (String × Json)}
    (hnumbers : ∀ n ∈ Json.numbers (.object members), Json.ReadsNumber n)
    (hread : ofNode? Json.depthLimit (Node.ofJson (.object members)) = some d)
    (hcheck : d.check .json = .ok d) :
    parse (Utf8.encode (Json.renderChars (.object members))) = .ok d := by
  have hbrace : (Blank.trimStart (Json.renderChars (.object members))).head? = some '\x7b' := by
    rw [Json.renderChars]
    rfl
  rw [parse, Utf8.decode?_encode]
  dsimp only
  rw [if_pos hbrace, ofJson, Json.read?_renderChars hnumbers, Option.bind_some, hread]
  exact hcheck

/-- A proper document with finite bounds is read back from the JSON value that is written of
it.  An accepted document is proper, and its JSON text is accepted as the same document, if
its bounds are finite, the texts of its numbers are read as the numbers and the text is not
nested too deeply. -/
theorem round_trip :
    (∀ d : Document, d.IsProper → d.IsFinite →
      ∀ limit, (Node.ofJson d.toJson).depth ≤ limit →
        ofNode? limit (Node.ofJson d.toJson) = some d) ∧
    ∀ (content : List UInt8) (d : Document), parse content = .ok d →
      d.IsProper ∧
        (d.IsFinite →
          (∀ n ∈ d.toJson.numbers, Json.read? (Json.renderNumber n) = some (.number n)) →
          (Node.ofJson d.toJson).depth ≤ Json.depthLimit →
            parse (Utf8.encode d.toJson.renderChars) = .ok d) := by
  have hvalue (d : Document) (hproper : d.IsProper) (hfinite : d.IsFinite) :
      Node.ReadsBack ofNode? toJson d := readsBack hproper hfinite
  refine ⟨hvalue, ?_⟩
  intro content d hparse
  obtain ⟨limit, node, hread, hcheck⟩ := exists_node_of_parse hparse
  have hproper : d.IsProper := isProper_of_ofNode? hread
  refine ⟨hproper, fun hfinite hnumbers hdepth => ?_⟩
  have hagain : ofNode? Json.depthLimit (Node.ofJson d.toJson) = some d :=
    hvalue d hproper hfinite Json.depthLimit hdepth
  exact parse_object hnumbers hagain (hcheck .json)

/-! ## A document with both forms of a parameter -/

/-- One half. -/
def half : Binary64 :=
  .finite false (Nat.pow 2 52) (-53) (by decide)

/-- The text of one half is read as one half. -/
theorem readsNumber_half : Json.ReadsNumber (.float half) := by
  have htext : Json.renderNumber (.float half) = ['0', '.', '5'] := by decide +kernel
  have hliteral : NumberLiteral.toNumber?
      { negative := false, whole := ['0'], fraction := some ['5'], exponent := none } =
        some (.float half) := by decide +kernel
  rw [Json.ReadsNumber, htext]
  apply Json.read?_of_readNumber (by decide)
  simp [Json.readNumber_eq, Json.numberSign, Json.readWhole, Json.readDigits, Json.readFraction,
    Json.readExponent, Ascii.isDigit, hliteral]

/-- A schema of a type that is not known, whose additional members are objects without
members of their own. -/
def tagSchema : Schema where
  type := some .unknown
  minimum := some half
  maxLength := some 30
  enum := some [.null, .number (.integer 7), .string "cat"]
  additionalProperties := some (.matching { additionalProperties := some (.allowed false) })

/-- A document with a parameter, a reference to one, and an operation that needs no
credentials. -/
def tagDocument : Document where
  version := "3.0.0"
  paths := [("/pets", {
    get := some {
      parameters := [.reference "#/components/parameters/limit",
        .parameter { name := "tag", location := .query, schema := some tagSchema }]
      security := some [] } })]

/-- The document, written by hand. -/
def tagValue : Json :=
  .object [
    ("openapi", .string "3.0.0"),
    ("paths", .object [
      ("/pets", .object [
        ("get", .object [
          ("security", .array []),
          ("parameters", .array [
            .object [("$ref", .string "#/components/parameters/limit")],
            .object [
              ("name", .string "tag"),
              ("in", .string "query"),
              ("schema", .object [
                ("type", .string "money"),
                ("minimum", .number (.float half)),
                ("maxLength", .number (.integer 30)),
                ("enum", .array [.null, .number (.integer 7), .string "cat"]),
                ("additionalProperties", .object [
                  ("additionalProperties", .bool false)])])]])])])])]

theorem readsNumber_tag : ∀ n ∈ [Number.integer 7, .float half, .integer 30],
    Json.ReadsNumber n := by
  have hseven : Json.ReadsNumber (.integer 7) := rfl
  have hthirty : Json.ReadsNumber (.integer 30) := rfl
  simp [hseven, readsNumber_half, hthirty]

theorem parse_tagValue : parse (Utf8.encode tagValue.renderChars) = .ok tagDocument := by
  have hnumbers : ∀ n ∈ tagValue.numbers, Json.ReadsNumber n := by
    intro n hn
    apply readsNumber_tag n
    have hall : tagValue.numbers = [.float half, .integer 30, .integer 7] := rfl
    simp only [hall, List.mem_cons, List.not_mem_nil, or_false] at hn ⊢
    tauto
  have hread : ofNode? Json.depthLimit (Node.ofJson tagValue) = some tagDocument := by
    with_unfolding_all rfl
  have hversion : ¬(Blank.trim tagDocument.version.toList).isEmpty = true := by decide
  exact parse_object hnumbers hread (if_neg hversion)

theorem isFinite_tagDocument : tagDocument.IsFinite := by
  have hinner : Schema.IsFinite { additionalProperties := some (.allowed false) } := by
    constructor
    · constructor <;> simp
    · intro part hpart
      cases hpart <;> simp_all
  have htag : tagSchema.IsFinite := by
    constructor
    · constructor <;> simp [tagSchema, half, Binary64.isFinite]
    · intro part hpart
      cases hpart with
      | additional h =>
          cases h
          exact hinner
      | _ => simp_all [tagSchema]
  have hroot : tagDocument.rootSchemas = [tagSchema] := rfl
  rw [IsFinite, hroot]
  simpa using htag

theorem round_trip_tagDocument :
    parse (Utf8.encode tagValue.renderChars) = .ok tagDocument ∧ tagDocument.IsProper ∧
      tagDocument.IsFinite ∧ (Node.ofJson tagDocument.toJson).depth ≤ Json.depthLimit ∧
      (∀ n ∈ tagDocument.toJson.numbers,
        Json.read? (Json.renderNumber n) = some (.number n)) ∧
      ofNode? Json.depthLimit (Node.ofJson tagDocument.toJson) = some tagDocument ∧
      parse (Utf8.encode tagDocument.toJson.renderChars) = .ok tagDocument := by
  have hdepth : (Node.ofJson tagDocument.toJson).depth ≤ Json.depthLimit := by decide +kernel
  have hall : tagDocument.toJson.numbers = [.integer 7, .float half, .integer 30] := rfl
  have hnumbers : ∀ n ∈ tagDocument.toJson.numbers, Json.ReadsNumber n := by
    rw [hall]
    exact readsNumber_tag
  obtain ⟨hproper, htext⟩ := round_trip.2 _ tagDocument parse_tagValue
  exact ⟨parse_tagValue, hproper, isFinite_tagDocument, hdepth, hnumbers,
    round_trip.1 tagDocument hproper isFinite_tagDocument Json.depthLimit hdepth,
    htext isFinite_tagDocument hnumbers hdepth⟩

end Document
end ApiContract
