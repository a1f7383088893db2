import ApiContract.Json.Text
import Mathlib.Data.List.Basic

/-!
# The size of JSON values

A value that is read from a text is no larger than the text: every value takes a
character to write, and a string one for each of its characters and its quotes.  So the
values inside a value that a string writes are smaller than the string.
-/

namespace ApiContract
namespace Json

mutual
/-- The size of a value: one for every value in it, and the length of every string.  Keys
do not count. -/
def size : Json → ℕ
  | .null | .bool _ | .number _ => 1
  | .string text => text.length + 1
  | .array items => sizeOfItems items + 1
  | .object members => sizeOfMembers members + 1

/-- The size of all items together. -/
def sizeOfItems : List Json → ℕ
  | [] => 0
  | item :: rest => item.size + sizeOfItems rest

/-- The size of the values of all members together. -/
def sizeOfMembers : List (String × Json) → ℕ
  | [] => 0
  | (_, member) :: rest => member.size + sizeOfMembers rest
end

theorem one_le_size (value : Json) : 1 ≤ value.size := by
  cases value <;> simp [size]

theorem size_le_sizeOfItems {item : Json} {items : List Json} (h : item ∈ items) :
    item.size ≤ sizeOfItems items := by
  induction items with
  | nil => cases h
  | cons first rest ih =>
      rw [sizeOfItems]
      rcases List.mem_cons.mp h with rfl | h
      · exact Nat.le_add_right _ _
      · exact Nat.le_add_left_of_le (ih h)

theorem size_le_sizeOfMembers {key : String} {member : Json}
    {members : List (String × Json)} (h : (key, member) ∈ members) :
    member.size ≤ sizeOfMembers members := by
  induction members with
  | nil => cases h
  | cons first rest ih =>
      obtain ⟨_, _⟩ := first
      rw [sizeOfMembers]
      rcases List.mem_cons.mp h with heq | h
      · cases heq
        exact Nat.le_add_right _ _
      · exact Nat.le_add_left_of_le (ih h)

theorem sizeOfMembers_insertMember_le (key : String) (value : Json)
    (members : List (String × Json)) :
    sizeOfMembers (insertMember key value members) ≤ value.size + sizeOfMembers members := by
  induction members with
  | nil => simp [insertMember, sizeOfMembers]
  | cons first rest ih =>
      obtain ⟨k, v⟩ := first
      rw [insertMember]
      split
      · simp [sizeOfMembers]
      · split
        · simp [sizeOfMembers]
        · simp only [sizeOfMembers]
          omega

theorem size_ofMembers_le (members : List (String × Json)) :
    (ofMembers members).size ≤ sizeOfMembers members + 1 := by
  have hfold (object : List (String × Json)) :
      sizeOfMembers (members.foldl (fun object m => insertMember m.1 m.2 object) object) ≤
        sizeOfMembers object + sizeOfMembers members := by
    induction members generalizing object with
    | nil => simp [sizeOfMembers]
    | cons first rest ih =>
        have hinsert := sizeOfMembers_insertMember_le first.1 first.2 object
        have hrest := ih (insertMember first.1 first.2 object)
        simp only [List.foldl_cons, sizeOfMembers]
        omega
  have h := hfold []
  simp only [ofMembers, size]
  simpa [sizeOfMembers] using h

/-! ## Strings inside values -/

mutual
/-- Whether a value is a string or has one inside.  Keys do not count. -/
def hasString : Json → Bool
  | .null | .bool _ | .number _ => false
  | .string _ => true
  | .array items => itemsHaveString items
  | .object members => membersHaveString members

/-- Whether one of the items has a string. -/
def itemsHaveString : List Json → Bool
  | [] => false
  | item :: rest => item.hasString || itemsHaveString rest

/-- Whether the value of one of the members has a string. -/
def membersHaveString : List (String × Json) → Bool
  | [] => false
  | (_, member) :: rest => member.hasString || membersHaveString rest
end

theorem hasString_of_mem_items {item : Json} {items : List Json} (hmem : item ∈ items)
    (h : (Json.array items).hasString = false) : item.hasString = false := by
  rw [hasString] at h
  induction items with
  | nil => cases hmem
  | cons first rest ih =>
      obtain ⟨hfirst, hrest⟩ := Bool.or_eq_false_iff.mp h
      rcases List.mem_cons.mp hmem with rfl | hmem
      · exact hfirst
      · exact ih hmem hrest

theorem hasString_of_mem_members {key : String} {member : Json}
    {members : List (String × Json)} (hmem : (key, member) ∈ members)
    (h : (Json.object members).hasString = false) : member.hasString = false := by
  rw [hasString] at h
  induction members with
  | nil => cases hmem
  | cons first rest ih =>
      obtain ⟨_, _⟩ := first
      obtain ⟨hfirst, hrest⟩ := Bool.or_eq_false_iff.mp h
      rcases List.mem_cons.mp hmem with heq | hmem
      · cases heq
        exact hfirst
      · exact ih hmem hrest

/-! ## What a node is read as -/

/-- A node is read as no larger a value than this. -/
def Fits (node : Node) (n : ℕ) : Prop :=
  ∀ limit value, node.toJson? limit = some value → value.size ≤ n

/-- Nodes are read as values that are no larger than this together. -/
def ItemsFit (items : List Node) (n : ℕ) : Prop :=
  ∀ limit values, Node.toJsonItems limit items = some values → sizeOfItems values ≤ n

/-- Entries are read as members whose values are no larger than this together. -/
def EntriesFit (entries : List (Node × Node)) (n : ℕ) : Prop :=
  ∀ limit members, Node.toJsonMembers limit entries = some members →
    sizeOfMembers members ≤ n

theorem fits_null : Fits .null 1 := by
  intro limit value h
  obtain rfl : .null = value := by cases limit <;> simpa [Node.toJson?] using h
  exact Nat.le_refl _

theorem fits_bool (flag : Bool) : Fits (.bool flag) 1 := by
  intro limit value h
  obtain rfl : .bool flag = value := by cases limit <;> simpa [Node.toJson?] using h
  exact Nat.le_refl _

theorem fits_number (number : Number) : Fits (.number number) 1 := by
  intro limit value h
  obtain rfl : Node.jsonOfNumber number = value := by
    cases limit <;> simpa [Node.toJson?] using h
  cases number with
  | integer n => exact Nat.le_refl _
  | float x =>
      rw [Node.jsonOfNumber]
      split <;> exact Nat.le_refl _

theorem fits_string (text : String) : Fits (.string text) (text.length + 1) := by
  intro limit value h
  obtain rfl : .string text = value := by cases limit <;> simpa [Node.toJson?] using h
  exact Nat.le_refl _

theorem fits_unreadable (n : ℕ) : Fits .unreadable n := by
  intro limit value h
  cases limit <;> simp [Node.toJson?] at h

theorem Fits.mono {node : Node} {m n : ℕ} (h : Fits node m) (hle : m ≤ n) : Fits node n :=
  fun limit value hvalue => Nat.le_trans (h limit value hvalue) hle

theorem itemsFit_nil : ItemsFit [] 0 := by
  intro limit values h
  obtain rfl : [] = values := by simpa [Node.toJsonItems] using h
  exact Nat.le_refl _

theorem Fits.cons_items {item : Node} {items : List Node} {m n : ℕ} (hitem : Fits item m)
    (hitems : ItemsFit items n) : ItemsFit (item :: items) (m + n) := by
  intro limit values h
  rw [Node.toJsonItems] at h
  obtain ⟨first, hfirst, h⟩ := Option.bind_eq_some_iff.mp h
  obtain ⟨rest, hrest, h⟩ := Option.bind_eq_some_iff.mp h
  cases h
  exact Nat.add_le_add (hitem limit first hfirst) (hitems limit rest hrest)

theorem entriesFit_nil : EntriesFit [] 0 := by
  intro limit members h
  obtain rfl : [] = members := by simpa [Node.toJsonMembers] using h
  exact Nat.le_refl _

theorem Fits.cons_entries {key node : Node} {entries : List (Node × Node)} {m n : ℕ}
    (hnode : Fits node m) (hentries : EntriesFit entries n) :
    EntriesFit ((key, node) :: entries) (m + n) := by
  intro limit members h
  rw [Node.toJsonMembers] at h
  obtain ⟨name, -, h⟩ := Option.bind_eq_some_iff.mp h
  obtain ⟨first, hfirst, h⟩ := Option.bind_eq_some_iff.mp h
  obtain ⟨rest, hrest, h⟩ := Option.bind_eq_some_iff.mp h
  cases h
  exact Nat.add_le_add (hnode limit first hfirst) (hentries limit rest hrest)

theorem ItemsFit.array {items : List Node} {n : ℕ} (h : ItemsFit items n) :
    Fits (.array items) (n + 1) := by
  intro limit value hvalue
  cases limit with
  | zero => simp [Node.toJson?] at hvalue
  | succ limit =>
      rw [Node.toJson?] at hvalue
      obtain ⟨values, hvalues, rfl⟩ := Option.map_eq_some_iff.mp hvalue
      exact Nat.succ_le_succ (h limit values hvalues)

theorem EntriesFit.mapping {entries : List (Node × Node)} {n : ℕ} (h : EntriesFit entries n) :
    Fits (.mapping false entries) (n + 1) := by
  intro limit value hvalue
  cases limit with
  | zero => simp [Node.toJson?] at hvalue
  | succ limit =>
      rw [Node.toJson?, if_neg Bool.false_ne_true] at hvalue
      obtain ⟨members, hmembers, rfl⟩ := Option.map_eq_some_iff.mp hvalue
      have hsize := size_ofMembers_le members
      have hfits := h limit members hmembers
      omega

/-! ## Reading leaves -/

variable {text rest : List Char} {node : Node}

theorem length_skipSpace_le (text : List Char) : (skipSpace text).length ≤ text.length :=
  (List.dropWhile_sublist isSpace).length_le

/-- Every piece of a string takes a character at least. -/
theorem readPieces_cases {pieces : List StringPiece}
    (h : readPieces text = some (pieces, rest)) :
    pieces = [] ∧ text = '"' :: rest ∨
      ∃ piece more tail, pieces = piece :: more ∧ tail.length < text.length ∧
        readPieces tail = some (more, rest) := by
  rw [readPieces.eq_def] at h
  split at h
  · cases h
  · cases h
    exact Or.inl ⟨rfl, rfl⟩
  · obtain ⟨n, -, h⟩ := Option.bind_eq_some_iff.mp h
    obtain ⟨⟨more, after⟩, hmore, h⟩ := Option.bind_eq_some_iff.mp h
    cases h
    exact Or.inr ⟨_, more, _, rfl, by simp only [List.length_cons]; omega, hmore⟩
  · rename_i e tail _
    have hescape {c? : Option Char}
        (h : (c?.bind fun c => (readPieces tail).bind fun read =>
          some (.char c :: read.1, read.2)) = some (pieces, rest)) :
        ∃ piece more tail', pieces = piece :: more ∧
          tail'.length < ('\\' :: e :: tail).length ∧
          readPieces tail' = some (more, rest) := by
      obtain ⟨c, -, h⟩ := Option.bind_eq_some_iff.mp h
      obtain ⟨⟨more, after⟩, hmore, h⟩ := Option.bind_eq_some_iff.mp h
      cases h
      exact ⟨_, more, tail, rfl, by simp only [List.length_cons]; omega, hmore⟩
    dsimp only at h
    split at h <;> exact Or.inr (hescape h)
  · split at h
    · cases h
    · obtain ⟨⟨more, after⟩, hmore, h⟩ := Option.bind_eq_some_iff.mp h
      cases h
      exact Or.inr ⟨_, more, _, rfl, Nat.lt_succ_self _, hmore⟩

theorem length_of_readPieces {pieces : List StringPiece}
    (h : readPieces text = some (pieces, rest)) :
    pieces.length + 1 + rest.length ≤ text.length := by
  induction pieces generalizing text with
  | nil =>
      obtain ⟨-, rfl⟩ | ⟨_, _, _, hcons, -⟩ := readPieces_cases h
      · simp only [List.length_cons, List.length_nil]
        omega
      · cases hcons
  | cons piece pieces ih =>
      obtain ⟨hnil, -⟩ | ⟨_, _, tail, hcons, hshorter, htail⟩ := readPieces_cases h
      · cases hnil
      · cases hcons
        have hlength := ih htail
        rw [List.length_cons]
        omega

theorem length_of_charsOfPieces? {pieces : List StringPiece} {chars : List Char}
    (h : charsOfPieces? pieces = some chars) : chars.length ≤ pieces.length := by
  induction pieces using charsOfPieces?.induct generalizing chars with
  | case1 => simp_all [charsOfPieces?]
  | case2 c rest ih =>
      rw [charsOfPieces?] at h
      obtain ⟨more, hmore, rfl⟩ := Option.map_eq_some_iff.mp h
      exact Nat.succ_le_succ (ih hmore)
  | case3 high low rest hhigh hlow ih =>
      rw [charsOfPieces?, if_pos hhigh, if_pos hlow] at h
      obtain ⟨more, hmore, rfl⟩ := Option.map_eq_some_iff.mp h
      exact Nat.succ_le_succ (Nat.le_succ_of_le (ih hmore))
  | case4 high low rest hhigh hlow => simp [charsOfPieces?, hhigh, hlow] at h
  | case5 high low rest hhigh hlow => simp [charsOfPieces?, hhigh, hlow] at h
  | case6 high low rest hhigh hlow ih =>
      rw [charsOfPieces?, if_neg hhigh, if_neg hlow] at h
      obtain ⟨more, hmore, rfl⟩ := Option.map_eq_some_iff.mp h
      exact Nat.succ_le_succ (ih hmore)
  | case7 n rest hlone hsurrogate =>
      rw [charsOfPieces?, if_pos hsurrogate] at h
      · cases h
      · exact hlone
  | case8 n rest hlone hscalar ih =>
      rw [charsOfPieces?, if_neg hscalar] at h
      · obtain ⟨more, hmore, rfl⟩ := Option.map_eq_some_iff.mp h
        exact Nat.succ_le_succ (ih hmore)
      · exact hlone

/-- Reading a node takes at least as many characters as the value that it is read as has
size. -/
def Consumes (text rest : List Char) (fits : ℕ → Prop) : Prop :=
  ∃ used, fits used ∧ used + rest.length ≤ text.length

theorem consumes_of_readString (h : readString text = some (node, rest)) :
    Consumes text rest (Fits node) := by
  rw [readString] at h
  obtain ⟨⟨pieces, after⟩, hpieces, h⟩ := Option.bind_eq_some_iff.mp h
  cases h
  have hlength := length_of_readPieces hpieces
  refine ⟨pieces.length + 1, ?_, hlength⟩
  split
  · rename_i chars hchars
    have hchars' := length_of_charsOfPieces? hchars
    apply (fits_string _).mono
    rw [String.length_ofList]
    omega
  · exact fits_unreadable _

theorem length_of_readDigits {digits : List Char} (h : readDigits text = some (digits, rest)) :
    1 + rest.length ≤ text.length := by
  rw [readDigits] at h
  split at h
  · cases h
  · cases h
    rename_i hsome
    have hsplit := congrArg List.length
      (@List.takeWhile_append_dropWhile _ Ascii.isDigit text)
    have hpos := List.length_pos_iff.mpr (mt List.isEmpty_iff.mpr hsome)
    rw [List.length_append] at hsplit
    omega

theorem length_of_readFraction {fraction : Option (List Char)}
    (h : readFraction text = some (fraction, rest)) : rest.length ≤ text.length := by
  rw [readFraction.eq_def] at h
  split at h
  · obtain ⟨⟨digits, after⟩, hdigits, h⟩ := Option.bind_eq_some_iff.mp h
    cases h
    have hlength := length_of_readDigits hdigits
    rw [List.length_cons]
    omega
  · cases h
    exact Nat.le_refl _

theorem length_of_readExponent {exponent : Option Int}
    (h : readExponent text = some (exponent, rest)) : rest.length ≤ text.length := by
  rw [readExponent.eq_def] at h
  split at h
  · rename_i c tail
    split at h
    · have hdigits {negative : Bool} {signless : List Char} (hle : signless.length ≤ tail.length)
          (h : ((readDigits signless).bind fun read =>
            let n : Int := Ascii.decimal read.1
            some (some (if negative then -n else n), read.2)) = some (exponent, rest)) :
          rest.length ≤ (c :: tail).length := by
        obtain ⟨⟨digits, after⟩, hdigits, h⟩ := Option.bind_eq_some_iff.mp h
        obtain rfl : after = rest := congrArg Prod.snd (Option.some.inj h)
        have hlength := length_of_readDigits hdigits
        rw [List.length_cons]
        omega
      dsimp only at h
      split at h
      · exact hdigits (Nat.le_succ _) h
      · exact hdigits (Nat.le_succ _) h
      · exact hdigits (Nat.le_refl _) h
    · cases h
      exact Nat.le_refl _
  · cases h
    exact Nat.le_refl _

theorem consumes_of_readNumber (h : readNumber text = some (node, rest)) :
    Consumes text rest (Fits node) := by
  -- What follows the whole part takes no characters back.
  have htail {read : List Char × List Char} {fraction : Option (List Char) × List Char}
      {exponent : Option Int × List Char} (hwhole : 1 + read.2.length ≤ text.length)
      (hfraction : readFraction read.2 = some fraction)
      (hexponent : readExponent fraction.2 = some exponent) :
      1 + exponent.2.length ≤ text.length := by
    have hpoint := length_of_readFraction hfraction
    have hpower := length_of_readExponent hexponent
    omega
  rw [readNumber.eq_def] at h
  split at h
  rename_i negative unsigned hsign
  have hunsigned : unsigned.length ≤ text.length := by
    split at hsign
    · cases hsign
      exact Nat.le_succ _
    · cases hsign
      exact Nat.le_refl _
  dsimp only at h
  split at h
  · rename_i c tail
    split at h
    · cases h
    · obtain ⟨read, hread, h⟩ := Option.bind_eq_some_iff.mp h
      obtain ⟨fraction, hfraction, h⟩ := Option.bind_eq_some_iff.mp h
      obtain ⟨exponent, hexponent, h⟩ := Option.bind_eq_some_iff.mp h
      have hwhole : 1 + read.2.length ≤ text.length := by
        cases hread
        simp only [List.length_cons] at hunsigned ⊢
        omega
      cases h
      refine ⟨1, ?_, htail hwhole hfraction hexponent⟩
      split
      · exact fits_number _
      · exact fits_unreadable 1
  · obtain ⟨read, hread, h⟩ := Option.bind_eq_some_iff.mp h
    obtain ⟨fraction, hfraction, h⟩ := Option.bind_eq_some_iff.mp h
    obtain ⟨exponent, hexponent, h⟩ := Option.bind_eq_some_iff.mp h
    have hwhole := Nat.le_trans (length_of_readDigits hread) hunsigned
    cases h
    refine ⟨1, ?_, htail hwhole hfraction hexponent⟩
    split
    · exact fits_number _
    · exact fits_unreadable 1

theorem consumes_of_readWord {word : List Char} {leaf : Node} (hleaf : Fits leaf 1) (c : Char)
    (h : readWord word leaf text = some (node, rest)) :
    Consumes (c :: text) rest (Fits node) := by
  rw [readWord] at h
  split at h
  · cases h
    refine ⟨1, hleaf, ?_⟩
    rw [List.length_cons, List.length_drop]
    omega
  · cases h

/-! ## Reading values -/

theorem readItems_cases {fuel : ℕ} {items : List Node}
    (h : readItems (fuel + 1) text = some (items, rest)) :
    ∃ item after, readValue fuel text = some (item, after) ∧
      ((∃ more tail, skipSpace after = ',' :: tail ∧
          readItems fuel tail = some (more, rest) ∧ items = item :: more) ∨
        skipSpace after = ']' :: rest ∧ items = [item]) := by
  rw [readItems] at h
  obtain ⟨⟨item, after⟩, hitem, h⟩ := Option.bind_eq_some_iff.mp h
  refine ⟨item, after, hitem, ?_⟩
  dsimp only at h
  split at h
  · rename_i tail hcomma
    obtain ⟨⟨more, last⟩, hmore, h⟩ := Option.bind_eq_some_iff.mp h
    cases h
    exact Or.inl ⟨more, tail, hcomma, hmore, rfl⟩
  · rename_i hbracket
    cases h
    exact Or.inr ⟨hbracket, rfl⟩
  · cases h

theorem readMembers_cases {fuel : ℕ} {entries : List (Node × Node)}
    (h : readMembers (fuel + 1) text = some (entries, rest)) :
    ∃ quoted key named start value after, skipSpace text = '"' :: quoted ∧
      readString quoted = some (key, named) ∧ skipSpace named = ':' :: start ∧
      readValue fuel start = some (value, after) ∧
      ((∃ more tail, skipSpace after = ',' :: tail ∧
          readMembers fuel tail = some (more, rest) ∧ entries = (key, value) :: more) ∨
        skipSpace after = '\x7d' :: rest ∧ entries = [(key, value)]) := by
  rw [readMembers] at h
  split at h
  · rename_i quoted hquote
    obtain ⟨⟨key, named⟩, hkey, h⟩ := Option.bind_eq_some_iff.mp h
    dsimp only at h
    split at h
    · rename_i start hcolon
      obtain ⟨⟨value, after⟩, hvalue, h⟩ := Option.bind_eq_some_iff.mp h
      refine ⟨quoted, key, named, start, value, after, hquote, hkey, hcolon, hvalue, ?_⟩
      dsimp only at h
      split at h
      · rename_i tail hcomma
        obtain ⟨⟨more, last⟩, hmore, h⟩ := Option.bind_eq_some_iff.mp h
        cases h
        exact Or.inl ⟨more, tail, hcomma, hmore, rfl⟩
      · rename_i hbrace
        cases h
        exact Or.inr ⟨hbrace, rfl⟩
      · cases h
    · cases h
  · cases h

theorem length_of_skipSpace {c : Char} {tail : List Char} (h : skipSpace text = c :: tail) :
    tail.length + 1 ≤ text.length := by
  have hle := length_skipSpace_le text
  rwa [h, List.length_cons] at hle

/-- The forms of a value after the character that tells which of them it has. -/
inductive ReadsValue (fuel : ℕ) (first : Char) (tail rest : List Char) : Node → Prop where
  | string {node : Node} :
      readString tail = some (node, rest) → ReadsValue fuel first tail rest node
  | emptyArray :
      skipSpace tail = ']' :: rest → ReadsValue fuel first tail rest (.array [])
  | array {items : List Node} :
      readItems fuel (skipSpace tail) = some (items, rest) →
      ReadsValue fuel first tail rest (.array items)
  | emptyObject :
      skipSpace tail = '\x7d' :: rest → ReadsValue fuel first tail rest (.mapping false [])
  | object {entries : List (Node × Node)} :
      readMembers fuel (skipSpace tail) = some (entries, rest) →
      ReadsValue fuel first tail rest (.mapping false entries)
  | word {word : List Char} {leaf node : Node} :
      Fits leaf 1 → readWord word leaf tail = some (node, rest) →
      ReadsValue fuel first tail rest node
  | number {node : Node} :
      readNumber (first :: tail) = some (node, rest) → ReadsValue fuel first tail rest node

theorem exists_readsValue {fuel : ℕ} (h : readValue (fuel + 1) text = some (node, rest)) :
    ∃ first tail, skipSpace text = first :: tail ∧ ReadsValue fuel first tail rest node := by
  rw [readValue] at h
  split at h
  · cases h
  · rename_i first tail htext
    refine ⟨first, tail, htext, ?_⟩
    split at h
    · exact .string h
    · split at h
      · split at h
        · rename_i hclosed
          cases h
          exact .emptyArray hclosed
        · obtain ⟨⟨items, after⟩, hitems, h⟩ := Option.bind_eq_some_iff.mp h
          cases h
          exact .array hitems
      · split at h
        · split at h
          · rename_i hclosed
            cases h
            exact .emptyObject hclosed
          · obtain ⟨⟨entries, after⟩, hentries, h⟩ := Option.bind_eq_some_iff.mp h
            cases h
            exact .object hentries
        · split at h
          · exact .word (fits_bool true) h
          · split at h
            · exact .word (fits_bool false) h
            · split at h
              · exact .word fits_null h
              · split at h
                · exact .number h
                · cases h

/-- The readers that call one another consume at least as much as they yield. -/
theorem consumes_of_fuel (fuel : ℕ) :
    (∀ text rest node, readValue fuel text = some (node, rest) →
        Consumes text rest (Fits node)) ∧
      (∀ text rest items, readItems fuel text = some (items, rest) →
        Consumes text rest (ItemsFit items)) ∧
      ∀ text rest entries, readMembers fuel text = some (entries, rest) →
        Consumes text rest (EntriesFit entries) := by
  induction fuel with
  | zero => simp [readValue, readItems, readMembers]
  | succ fuel ih =>
      obtain ⟨ihValue, ihItems, ihMembers⟩ := ih
      refine ⟨?_, ?_, ?_⟩
      · intro text rest node h
        obtain ⟨first, tail, htext, hreads⟩ := exists_readsValue h
        have htext' := length_of_skipSpace htext
        have htail := length_skipSpace_le tail
        cases hreads with
        | string hstring =>
            obtain ⟨used, hfits, hused⟩ := consumes_of_readString hstring
            exact ⟨used, hfits, by omega⟩
        | emptyArray hclosed =>
            have hclosed' := length_of_skipSpace hclosed
            exact ⟨0 + 1, itemsFit_nil.array, by omega⟩
        | @array items hitems =>
            obtain ⟨used, hfits, hused⟩ := ihItems _ rest items hitems
            exact ⟨used + 1, hfits.array, by omega⟩
        | emptyObject hclosed =>
            have hclosed' := length_of_skipSpace hclosed
            exact ⟨0 + 1, entriesFit_nil.mapping, by omega⟩
        | @object entries hentries =>
            obtain ⟨used, hfits, hused⟩ := ihMembers _ rest entries hentries
            exact ⟨used + 1, hfits.mapping, by omega⟩
        | word hleaf hword =>
            obtain ⟨used, hfits, hused⟩ := consumes_of_readWord hleaf first hword
            rw [List.length_cons] at hused
            exact ⟨used, hfits, by omega⟩
        | number hnumber =>
            obtain ⟨used, hfits, hused⟩ := consumes_of_readNumber hnumber
            rw [List.length_cons] at hused
            exact ⟨used, hfits, by omega⟩
      · intro text rest items h
        obtain ⟨item, after, hitem, hrest⟩ := readItems_cases h
        obtain ⟨used, hfits, hused⟩ := ihValue text after item hitem
        rcases hrest with ⟨more, tail, hcomma, hmore, rfl⟩ | ⟨hbracket, rfl⟩
        · obtain ⟨used', hfits', hused'⟩ := ihItems tail rest more hmore
          have hcomma' := length_of_skipSpace hcomma
          exact ⟨used + used', hfits.cons_items hfits', by omega⟩
        · have hbracket' := length_of_skipSpace hbracket
          exact ⟨used + 0, hfits.cons_items itemsFit_nil, by omega⟩
      · intro text rest entries h
        obtain ⟨quoted, key, named, start, value, after, hquote, hkey, hcolon, hvalue, hrest⟩ :=
          readMembers_cases h
        obtain ⟨used, hfits, hused⟩ := ihValue start after value hvalue
        obtain ⟨_, -, hkey'⟩ := consumes_of_readString hkey
        have hquote' := length_of_skipSpace hquote
        have hcolon' := length_of_skipSpace hcolon
        rcases hrest with ⟨more, tail, hcomma, hmore, rfl⟩ | ⟨hbrace, rfl⟩
        · obtain ⟨used', hfits', hused'⟩ := ihMembers tail rest more hmore
          have hcomma' := length_of_skipSpace hcomma
          exact ⟨used + used', hfits.cons_entries hfits', by omega⟩
        · have hbrace' := length_of_skipSpace hbrace
          exact ⟨used + 0, hfits.cons_entries entriesFit_nil, by omega⟩

/-- A value that is read from a text is no larger than the text. -/
theorem size_le_of_parse? {value : Json} (h : parse? text = some value) :
    value.size ≤ text.length := by
  obtain ⟨node, hread, hvalue⟩ := Option.bind_eq_some_iff.mp h
  rw [read?] at hread
  split at hread
  · rename_i found rest hfound
    split at hread
    · obtain rfl : found = node := Option.some.inj hread
      obtain ⟨used, hfits, hused⟩ := (consumes_of_fuel _).1 text rest found hfound
      have hsize := hfits depthLimit value hvalue
      omega
    · cases hread
  · cases hread

end Json
end ApiContract
