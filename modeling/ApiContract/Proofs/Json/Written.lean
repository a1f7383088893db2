import ApiContract.Json.Render
import ApiContract.Proofs.Json.Size
import Mathlib.Data.List.DropRight

/-!
# Reading JSON text that was written

The compact text of a value is read as the node of the value, provided that the texts of
its numbers are read as the numbers.  The proof reads a value that other text follows: only
a number does not tell by itself where it ends, and what follows a value inside another one
is a comma or a closing bracket.
-/

namespace ApiContract
namespace Json

/-! ## Strings -/

theorem hexNumber?_control {n : ℕ} (h : n < 32) :
    Ascii.hexNumber? ['0', '0', hexDigit (n / 16), hexDigit (n % 16)] = some n := by
  have hall : ∀ n < 32,
      Ascii.hexNumber? ['0', '0', hexDigit (n / 16), hexDigit (n % 16)] = some n := by decide
  exact hall n h

/-- A unit below the surrogates is a character of its own. -/
theorem charsOfPieces?_unit {n : ℕ} (h : n < 32) (pieces : List StringPiece) :
    charsOfPieces? (.unit n :: pieces) = (charsOfPieces? pieces).map (Char.ofNat n :: ·) := by
  have hlow : ¬(0xD800 ≤ n ∧ n < 0xDC00) := by omega
  have hhigh : ¬(0xDC00 ≤ n ∧ n < 0xE000) := by omega
  have hsurrogate : ¬(0xD800 ≤ n ∧ n < 0xE000) := by omega
  cases pieces with
  | nil => exact if_neg hsurrogate
  | cons piece pieces =>
      cases piece with
      | char c => exact if_neg hsurrogate
      | unit low => rw [charsOfPieces?, if_neg hlow, if_neg hhigh]

theorem readPieces_plain {c : Char} (hquote : c ≠ '"') (hescape : c ≠ '\\')
    (hcontrol : ¬c.toNat < 32) (rest : List Char) :
    readPieces (c :: rest) =
      (readPieces rest).bind fun read => some (.char c :: read.1, read.2) := by
  rw [readPieces.eq_def]
  split
  · contradiction
  · rename_i heq
    cases heq
    exact absurd rfl hquote
  · rename_i heq
    cases heq
    exact absurd rfl hescape
  · rename_i heq
    cases heq
    exact absurd rfl hescape
  · rename_i heq
    cases heq
    rw [decide_eq_false hcontrol, decide_eq_false hescape]
    rfl

/-- The text of a character is read as one piece, which is the character again. -/
theorem exists_piece (c : Char) :
    ∃ piece,
      (∀ rest, readPieces (escape c ++ rest) =
        (readPieces rest).bind fun read => some (piece :: read.1, read.2)) ∧
      ∀ pieces, charsOfPieces? (piece :: pieces) = (charsOfPieces? pieces).map (c :: ·) := by
  by_cases hspecial : c ∈ ['"', '\\', '\x08', '\x0c', '\n', '\r', '\t']
  · refine ⟨.char c, ?_, fun pieces => by rw [charsOfPieces?]⟩
    intro rest
    simp only [List.mem_cons, List.not_mem_nil, or_false] at hspecial
    rcases hspecial with rfl | rfl | rfl | rfl | rfl | rfl | rfl <;> rfl
  · simp only [List.mem_cons, List.not_mem_nil, or_false, not_or] at hspecial
    obtain ⟨hquote, hescape, hbackspace, hfeed, hline, hreturn, htab⟩ := hspecial
    rw [escape, if_neg hquote, if_neg hescape, if_neg hbackspace, if_neg hfeed, if_neg hline,
      if_neg hreturn, if_neg htab]
    by_cases hcontrol : c.toNat < 32
    · rw [if_pos hcontrol]
      refine ⟨.unit c.toNat, ?_, ?_⟩
      · intro rest
        have hread : readPieces (['\\', 'u', '0', '0', hexDigit (c.toNat / 16),
            hexDigit (c.toNat % 16)] ++ rest) =
            (Ascii.hexNumber? ['0', '0', hexDigit (c.toNat / 16), hexDigit (c.toNat % 16)]).bind
              fun n => (readPieces rest).bind fun read => some (.unit n :: read.1, read.2) :=
          rfl
        rw [hread, hexNumber?_control hcontrol, Option.bind_some]
      · intro pieces
        rw [charsOfPieces?_unit hcontrol, Char.ofNat_toNat]
    · rw [if_neg hcontrol]
      exact ⟨.char c, readPieces_plain hquote hescape hcontrol,
        fun pieces => by rw [charsOfPieces?]⟩

/-- The text of a string is read as the string, whatever follows. -/
theorem readString_flatMap_escape (s : String) (rest : List Char) :
    readString (s.toList.flatMap escape ++ '"' :: rest) = some (.string s, rest) := by
  have hread (chars : List Char) : ∃ pieces,
      readPieces (chars.flatMap escape ++ '"' :: rest) = some (pieces, rest) ∧
        charsOfPieces? pieces = some chars := by
    induction chars with
    | nil => exact ⟨[], rfl, rfl⟩
    | cons c chars ih =>
        obtain ⟨pieces, hpieces, hchars⟩ := ih
        obtain ⟨piece, hpiece, hchar⟩ := exists_piece c
        refine ⟨piece :: pieces, ?_, ?_⟩
        · rw [List.flatMap_cons, List.append_assoc, hpiece, hpieces, Option.bind_some]
        · rw [hchar, hchars, Option.map_some]
  obtain ⟨pieces, hpieces, hchars⟩ := hread s.toList
  rw [readString, hpieces]
  simp [hchars]

/-! ## Numbers -/

variable {text rest tail : List Char} {node : Node}

/-- The text does not go on with a number. -/
def EndsNumber (rest : List Char) : Prop :=
  ∀ c ∈ rest.head?, Ascii.isDigit c = false ∧ c ≠ '.' ∧ c ≠ 'e' ∧ c ≠ 'E'

theorem takeWhile_digits_append (hends : EndsNumber rest) (text : List Char) :
    (text ++ rest).takeWhile Ascii.isDigit = text.takeWhile Ascii.isDigit ∧
      (text ++ rest).dropWhile Ascii.isDigit = text.dropWhile Ascii.isDigit ++ rest := by
  induction text with
  | nil =>
      cases rest with
      | nil => exact ⟨rfl, rfl⟩
      | cons c rest =>
          obtain ⟨hdigit, -⟩ := hends c rfl
          simp [hdigit]
  | cons c text ih =>
      rw [List.cons_append]
      cases hdigit : Ascii.isDigit c with
      | true => simp [hdigit, ih.1, ih.2]
      | false => simp [hdigit]

theorem readDigits_append {digits : List Char} (hends : EndsNumber rest)
    (h : readDigits text = some (digits, tail)) :
    readDigits (text ++ rest) = some (digits, tail ++ rest) := by
  obtain ⟨htake, hdrop⟩ := takeWhile_digits_append hends text
  rw [readDigits] at h ⊢
  rw [htake, hdrop]
  split at h
  · cases h
  · rename_i hsome
    cases h
    rw [if_neg hsome]

theorem readFraction_of_ne {c : Char} (h : c ≠ '.') (text : List Char) :
    readFraction (c :: text) = some (none, c :: text) := by
  rw [readFraction.eq_def]
  split
  · rename_i heq
    cases heq
    exact absurd rfl h
  · rfl

theorem readFraction_append {fraction : Option (List Char)} (hends : EndsNumber rest)
    (h : readFraction text = some (fraction, tail)) :
    readFraction (text ++ rest) = some (fraction, tail ++ rest) := by
  cases text with
  | nil =>
      cases h
      cases rest with
      | nil => rfl
      | cons c rest =>
          obtain ⟨-, hpoint, -⟩ := hends c rfl
          exact readFraction_of_ne hpoint rest
  | cons c text =>
      by_cases hpoint : c = '.'
      · subst hpoint
        obtain ⟨⟨digits, after⟩, hdigits, h⟩ := Option.bind_eq_some_iff.mp h
        cases h
        rw [List.cons_append, readFraction, readDigits_append hends hdigits]
        rfl
      · rw [readFraction_of_ne hpoint] at h
        cases h
        exact readFraction_of_ne hpoint _

/-- The sign before the digits of an exponent, and what follows it. -/
def exponentSign : List Char → Bool × List Char
  | '+' :: rest => (false, rest)
  | '-' :: rest => (true, rest)
  | text => (false, text)

theorem readExponent_cons {c : Char} (h : (decide (c = 'e') || decide (c = 'E')) = true)
    (text : List Char) :
    readExponent (c :: text) =
      (readDigits (exponentSign text).2).bind fun read =>
        let n : Int := Ascii.decimal read.1
        some (some (if (exponentSign text).1 then -n else n), read.2) := by
  rw [readExponent.eq_def]
  dsimp only
  rw [if_pos h]
  split
  · rfl
  · rfl
  · rename_i hplus hminus
    rw [exponentSign]
    · rfl
    · exact hplus
    · exact hminus

theorem readExponent_of_not {c : Char} (h : (decide (c = 'e') || decide (c = 'E')) ≠ true)
    (text : List Char) : readExponent (c :: text) = some (none, c :: text) := by
  rw [readExponent.eq_def]
  exact if_neg h

theorem exponentSign_append (h : text ≠ []) (rest : List Char) :
    exponentSign (text ++ rest) =
      ((exponentSign text).1, (exponentSign text).2 ++ rest) := by
  cases text with
  | nil => exact absurd rfl h
  | cons c text =>
      rw [List.cons_append, exponentSign.eq_def, exponentSign.eq_def (c :: text)]
      split <;> simp_all

theorem readExponent_append {exponent : Option Int} (hends : EndsNumber rest)
    (h : readExponent text = some (exponent, tail)) :
    readExponent (text ++ rest) = some (exponent, tail ++ rest) := by
  cases text with
  | nil =>
      cases h
      cases rest with
      | nil => rfl
      | cons c rest =>
          obtain ⟨-, -, hlower, hupper⟩ := hends c rfl
          exact readExponent_of_not (by simp [hlower, hupper]) rest
  | cons c text =>
      rw [List.cons_append]
      by_cases hexponent : (decide (c = 'e') || decide (c = 'E')) = true
      · rw [readExponent_cons hexponent] at h ⊢
        obtain ⟨⟨digits, after⟩, hdigits, h⟩ := Option.bind_eq_some_iff.mp h
        have hne : text ≠ [] := by
          rintro rfl
          cases hdigits
        cases h
        rw [exponentSign_append hne, readDigits_append hends hdigits]
        rfl
      · rw [readExponent_of_not hexponent] at h ⊢
        cases h
        rfl

/-- The sign before a number, and what follows it. -/
def numberSign (text : List Char) : Bool × List Char :=
  match text with
  | '-' :: rest => (true, rest)
  | _ => (false, text)

/-- The whole part of a number. -/
def readWhole (text : List Char) : Option (List Char × List Char) :=
  match text with
  | '0' :: c :: rest => if Ascii.isDigit c then none else some (['0'], c :: rest)
  | _ => readDigits text

theorem readNumber_eq (text : List Char) :
    readNumber text =
      (readWhole (numberSign text).2).bind fun whole =>
        (readFraction whole.2).bind fun fraction =>
          (readExponent fraction.2).bind fun exponent =>
            let literal : NumberLiteral :=
              { negative := (numberSign text).1, whole := whole.1, fraction := fraction.1,
                exponent := exponent.1 }
            some (match literal.toNumber? with
              | some n => .number n
              | none => .unreadable, exponent.2) := by
  rw [readNumber.eq_def]
  split
  rename_i negative unsigned hsign
  have hsign' : numberSign text = (negative, unsigned) := (numberSign.eq_def text).trans hsign
  rw [hsign']
  dsimp only
  split
  · rename_i c rest
    have hwhole : readWhole ('0' :: c :: rest) =
        if Ascii.isDigit c then none else some (['0'], c :: rest) := rfl
    rw [hwhole]
    split <;> rfl
  · rename_i hother
    rw [readWhole]
    · rfl
    · exact hother

theorem numberSign_append (h : text ≠ []) (rest : List Char) :
    numberSign (text ++ rest) = ((numberSign text).1, (numberSign text).2 ++ rest) := by
  cases text with
  | nil => exact absurd rfl h
  | cons c text =>
      rw [List.cons_append, numberSign.eq_def, numberSign.eq_def (c :: text)]
      split <;> simp_all

theorem readWhole_of_ne {c : Char} (h : c ≠ '0') (text : List Char) :
    readWhole (c :: text) = readDigits (c :: text) := by
  rw [readWhole]
  rintro d rest heq
  cases heq
  exact h rfl

theorem readWhole_append {digits : List Char} (hends : EndsNumber rest)
    (h : readWhole text = some (digits, tail)) :
    readWhole (text ++ rest) = some (digits, tail ++ rest) := by
  cases text with
  | nil => cases h
  | cons c text =>
      by_cases hzero : c = '0'
      · subst hzero
        cases text with
        | nil =>
            cases h
            cases rest with
            | nil => rfl
            | cons d rest =>
                obtain ⟨hdigit, -⟩ := hends d rfl
                exact if_neg (by simp [hdigit])
        | cons d text =>
            have hwhole (text : List Char) : readWhole ('0' :: d :: text) =
                if Ascii.isDigit d then none else some (['0'], d :: text) := rfl
            rw [hwhole] at h
            rw [List.cons_append, List.cons_append, hwhole]
            split at h
            · cases h
            · rename_i hdigit
              cases h
              exact if_neg hdigit
      · rw [readWhole_of_ne hzero] at h
        rw [List.cons_append, readWhole_of_ne hzero]
        exact readDigits_append hends h

/-- A number is read the same where other text follows. -/
theorem readNumber_append (hends : EndsNumber rest)
    (h : readNumber text = some (node, tail)) :
    readNumber (text ++ rest) = some (node, tail ++ rest) := by
  have hne : text ≠ [] := by
    rintro rfl
    cases h
  rw [readNumber_eq] at h ⊢
  obtain ⟨⟨whole, afterWhole⟩, hwhole, h⟩ := Option.bind_eq_some_iff.mp h
  obtain ⟨⟨fraction, afterPoint⟩, hfraction, h⟩ := Option.bind_eq_some_iff.mp h
  obtain ⟨⟨exponent, afterExponent⟩, hexponent, h⟩ := Option.bind_eq_some_iff.mp h
  cases h
  rw [numberSign_append hne, readWhole_append hends hwhole, Option.bind_some,
    readFraction_append hends hfraction, Option.bind_some, readExponent_append hends hexponent]
  rfl

/-- The text of a number is read as the number. -/
def ReadsNumber (n : Number) : Prop :=
  read? (renderNumber n) = some (.number n)

/-! ## Blanks -/

theorem skipSpace_cons {c : Char} (h : isSpace c = false) (text : List Char) :
    skipSpace (c :: text) = c :: text :=
  List.dropWhile_cons_of_neg (by simp [h])

theorem skipSpace_append {c : Char} (h : skipSpace text = c :: tail) (rest : List Char) :
    skipSpace (text ++ rest) = c :: (tail ++ rest) := by
  rw [skipSpace] at h
  rw [skipSpace, List.dropWhile_append, h]
  rfl

theorem skipSpace_append_of_blank (h : skipSpace text = []) (rest : List Char) :
    skipSpace (text ++ rest) = skipSpace rest := by
  rw [skipSpace] at h
  rw [skipSpace, List.dropWhile_append, h]
  rfl

theorem skipSpace_skipSpace (text : List Char) : skipSpace (skipSpace text) = skipSpace text :=
  List.dropWhile_idempotent isSpace text

theorem readValue_skipSpace (fuel : ℕ) (text : List Char) :
    readValue fuel (skipSpace text) = readValue fuel text := by
  cases fuel with
  | zero => rw [readValue, readValue]
  | succ fuel => rw [readValue, readValue, skipSpace_skipSpace]

theorem readItems_skipSpace (fuel : ℕ) (text : List Char) :
    readItems fuel (skipSpace text) = readItems fuel text := by
  cases fuel with
  | zero => rw [readItems, readItems]
  | succ fuel => rw [readItems, readItems, readValue_skipSpace]

theorem readMembers_skipSpace (fuel : ℕ) (text : List Char) :
    readMembers fuel (skipSpace text) = readMembers fuel text := by
  cases fuel with
  | zero => rw [readMembers, readMembers]
  | succ fuel => rw [readMembers, readMembers, skipSpace_skipSpace]

/-! ## Numbers inside other text -/

theorem readString_ne_number (n : Number) : readString text ≠ some (.number n, tail) := by
  intro h
  obtain ⟨⟨pieces, after⟩, -, hnode⟩ := Option.bind_eq_some_iff.mp h
  cases hchars : charsOfPieces? pieces <;> simp [hchars] at hnode

theorem readWord_ne_number {word : List Char} {n : Number} (h : node ≠ .number n) :
    readWord word node text ≠ some (.number n, tail) := by
  intro hread
  rw [readWord] at hread
  split at hread
  · cases hread
    exact h rfl
  · cases hread

/-- Whether a number begins with the character. -/
def beginsNumber (c : Char) : Bool :=
  c = '-' || Ascii.isDigit c

/-- A value that begins as a number is read as one. -/
theorem readValue_of_beginsNumber {c : Char} (hfirst : beginsNumber c = true)
    (hskip : skipSpace text = c :: tail) (fuel : ℕ) :
    readValue (fuel + 1) text = readNumber (c :: tail) := by
  have hne {d : Char} (hother : beginsNumber d = false) : c ≠ d := by
    rintro rfl
    rw [hfirst] at hother
    cases hother
  rw [readValue, hskip]
  dsimp only
  rw [if_neg (hne (by decide)), if_neg (hne (by decide)), if_neg (hne (by decide)),
    if_neg (hne (by decide)), if_neg (hne (by decide)), if_neg (hne (by decide))]
  exact if_pos hfirst

/-- What is read as a number begins as one. -/
theorem beginsNumber_of_readValue {fuel : ℕ} {n : Number}
    (h : readValue fuel text = some (.number n, rest)) :
    ∃ c tail, skipSpace text = c :: tail ∧ beginsNumber c = true := by
  cases fuel with
  | zero =>
      rw [readValue] at h
      cases h
  | succ fuel =>
      rw [readValue] at h
      split at h
      · cases h
      rename_i c tail hskip
      refine ⟨c, tail, hskip, ?_⟩
      split at h
      · exact absurd h (readString_ne_number n)
      split at h
      · split at h
        · cases h
        · obtain ⟨read, -, h⟩ := Option.bind_eq_some_iff.mp h
          cases h
      split at h
      · split at h
        · cases h
        · obtain ⟨read, -, h⟩ := Option.bind_eq_some_iff.mp h
          cases h
      split at h
      · exact absurd h (readWord_ne_number (by simp))
      split at h
      · exact absurd h (readWord_ne_number (by simp))
      split at h
      · exact absurd h (readWord_ne_number (by simp))
      split at h
      · assumption
      · cases h

/-- Where a number is read, it is read the same before other text. -/
theorem readValue_number_append {fuel : ℕ} {n : Number} (hends : EndsNumber rest)
    (h : readValue (fuel + 1) text = some (.number n, tail)) (limit : ℕ) :
    readValue (limit + 1) (text ++ rest) = some (.number n, tail ++ rest) := by
  obtain ⟨c, after, hskip, hfirst⟩ := beginsNumber_of_readValue h
  rw [readValue_of_beginsNumber hfirst hskip] at h
  rw [readValue_of_beginsNumber hfirst (skipSpace_append hskip rest)]
  exact readNumber_append hends h

/-- A text that is a number is read as the number. -/
theorem read?_of_readNumber {c : Char} (hfirst : beginsNumber c = true)
    (h : readNumber (c :: tail) = some (node, [])) : read? (c :: tail) = some node := by
  have hspace : isSpace c = false := by
    rw [Bool.eq_false_iff]
    intro hspace
    simp only [isSpace, Bool.or_eq_true, decide_eq_true_eq] at hspace
    rcases hspace with ((rfl | rfl) | rfl) | rfl <;> cases hfirst
  rw [read?, readValue_of_beginsNumber hfirst (skipSpace_cons hspace tail), h]
  rfl

/-! ## Values that other text follows -/

/-- No value begins with a closing bracket. -/
theorem readValue_bracket (h : skipSpace text = ']' :: tail) (fuel : ℕ) :
    readValue fuel text = none := by
  cases fuel with
  | zero => rw [readValue]
  | succ fuel =>
      rw [readValue, h]
      rfl

/-- An array is read by its items. -/
theorem readValue_array {fuel : ℕ} {items : List Node}
    (h : readItems fuel text = some (items, rest)) :
    readValue (fuel + 1) ('[' :: text) = some (.array items, rest) := by
  have hother (tail : List Char) : skipSpace text ≠ ']' :: tail := by
    intro hbracket
    cases fuel with
    | zero => simp [readItems] at h
    | succ fuel => simp [readItems, readValue_bracket hbracket] at h
  rw [readValue, skipSpace_cons rfl]
  dsimp only
  rw [if_neg (by decide), if_pos rfl]
  split
  · exact absurd ‹_› (hother _)
  · rw [readItems_skipSpace, h]
    rfl

/-- An object is read by its members. -/
theorem readValue_object {fuel : ℕ} {entries : List (Node × Node)}
    (h : readMembers fuel text = some (entries, rest)) :
    readValue (fuel + 1) ('\x7b' :: text) = some (.mapping false entries, rest) := by
  have hother (tail : List Char) : skipSpace text ≠ '\x7d' :: tail := by
    intro hbrace
    cases fuel with
    | zero => simp [readMembers] at h
    | succ fuel => simp [readMembers, hbrace] at h
  rw [readValue, skipSpace_cons rfl]
  dsimp only
  rw [if_neg (by decide), if_neg (by decide), if_pos rfl]
  split
  · exact absurd ‹_› (hother _)
  · rw [readMembers_skipSpace, h]
    rfl

/-- The text of a value is read as the value, whatever follows it that is no part of a
number.  Blanks after the value may be left. -/
def ReadsText (value : Json) : Prop :=
  ∀ (fuel : ℕ) (rest : List Char), EndsNumber rest → value.renderChars.length < fuel →
    ∃ left, readValue fuel (value.renderChars ++ rest) = some (Node.ofJson value, left) ∧
      skipSpace left = skipSpace rest

theorem ReadsNumber.readsText {n : Number} (h : ReadsNumber n) : ReadsText (.number n) := by
  intro fuel rest hends hfuel
  rw [ReadsNumber, read?] at h
  split at h
  · rename_i node left hread
    split at h
    · rename_i hblank
      cases h
      obtain ⟨fuel, rfl⟩ := Nat.exists_eq_succ_of_ne_zero (Nat.ne_zero_of_lt hfuel)
      refine ⟨left ++ rest, readValue_number_append hends hread fuel, ?_⟩
      exact skipSpace_append_of_blank (List.isEmpty_iff.mp hblank) rest
    · cases h
  · cases h

theorem endsNumber_cons {c : Char} (h : c ∈ [',', ']', '\x7d']) (text : List Char) :
    EndsNumber (c :: text) := by
  simp only [List.mem_cons, List.not_mem_nil, or_false] at h
  rintro _ ⟨⟩
  rcases h with rfl | rfl | rfl <;> decide

/-- Every value that ends is read where it is followed by a comma or a closing bracket. -/
theorem ReadsText.before {value : Json} (h : ReadsText value) {c : Char}
    (hc : c ∈ [',', ']', '\x7d']) {fuel : ℕ} (hfuel : value.renderChars.length < fuel)
    (rest : List Char) :
    ∃ left, readValue fuel (value.renderChars ++ c :: rest) =
      some (Node.ofJson value, left) ∧ skipSpace left = c :: rest := by
  obtain ⟨left, hread, hleft⟩ := h fuel (c :: rest) (endsNumber_cons hc rest) hfuel
  refine ⟨left, hread, hleft.trans (skipSpace_cons ?_ rest)⟩
  simp only [List.mem_cons, List.not_mem_nil, or_false] at hc
  rcases hc with rfl | rfl | rfl <;> rfl

/-- The items of an array are read up to its bracket. -/
theorem readItems_renderItems {items : List Json} (hne : items ≠ [])
    (hitems : ∀ item ∈ items, ReadsText item) {fuel : ℕ}
    (hfuel : (renderItems items).length + 1 < fuel) (rest : List Char) :
    readItems fuel (renderItems items ++ ']' :: rest) = some (Node.ofItems items, rest) := by
  induction items generalizing fuel with
  | nil => exact absurd rfl hne
  | cons item items ih =>
      obtain ⟨hitem, hothers⟩ := List.forall_mem_cons.mp hitems
      obtain ⟨fuel, rfl⟩ := Nat.exists_eq_succ_of_ne_zero (Nat.ne_zero_of_lt hfuel)
      cases items with
      | nil =>
          rw [renderItems] at hfuel ⊢
          obtain ⟨left, hread, hbracket⟩ := hitem.before (c := ']') (by simp)
            (by omega : _ < fuel) rest
          rw [readItems, hread]
          simp [hbracket, Node.ofItems]
      | cons second items =>
          rw [renderItems, List.length_append, List.length_cons] at hfuel
          rw [renderItems, List.append_assoc, List.cons_append]
          obtain ⟨left, hread, hcomma⟩ := hitem.before (c := ',') (by simp)
            (by omega : _ < fuel) (renderItems (second :: items) ++ ']' :: rest)
          have hrest := ih (List.cons_ne_nil _ _) hothers (by omega : _ < fuel)
          rw [readItems, hread]
          simp [hcomma, hrest, Node.ofItems]

/-- The members of an object are read up to its brace. -/
theorem readMembers_renderMembers {members : List (String × Json)} (hne : members ≠ [])
    (hmembers : ∀ member ∈ members, ReadsText member.2) {fuel : ℕ}
    (hfuel : (renderMembers members).length + 1 < fuel) (rest : List Char) :
    readMembers fuel (renderMembers members ++ '\x7d' :: rest) =
      some (Node.ofMembers members, rest) := by
  induction members generalizing fuel with
  | nil => exact absurd rfl hne
  | cons member members ih =>
      obtain ⟨name, value⟩ := member
      obtain ⟨(hvalue : ReadsText value), hothers⟩ := List.forall_mem_cons.mp hmembers
      obtain ⟨fuel, rfl⟩ := Nat.exists_eq_succ_of_ne_zero (Nat.ne_zero_of_lt hfuel)
      have hname (text : List Char) :
          readString (name.toList.flatMap escape ++ ('"' :: ':' :: text)) =
            some (.string name, ':' :: text) := readString_flatMap_escape name _
      cases members with
      | nil =>
          rw [renderMembers, List.length_append, List.length_cons] at hfuel
          obtain ⟨left, hread, hbrace⟩ := hvalue.before (c := '\x7d') (by simp)
            (by omega : _ < fuel) rest
          simp [renderMembers, renderString, readMembers, skipSpace_cons, isSpace, hname,
            hread, hbrace, Node.ofMembers]
      | cons second members =>
          rw [renderMembers, List.length_append, List.length_cons, List.length_append,
            List.length_cons] at hfuel
          obtain ⟨left, hread, hcomma⟩ := hvalue.before (c := ',') (by simp)
            (by omega : _ < fuel) (renderMembers (second :: members) ++ '\x7d' :: rest)
          have hrest := ih (List.cons_ne_nil _ _) hothers (by omega : _ < fuel)
          simp [renderMembers, renderString, readMembers, skipSpace_cons, isSpace, hname,
            hread, hcomma, hrest, Node.ofMembers]

/-! ## Whole values -/

mutual
/-- The numbers of a value, from left to right. -/
def numbers : Json → List Number
  | .null | .bool _ | .string _ => []
  | .number n => [n]
  | .array items => numbersOfItems items
  | .object members => numbersOfMembers members

/-- The numbers of the items of an array. -/
def numbersOfItems : List Json → List Number
  | [] => []
  | item :: items => numbers item ++ numbersOfItems items

/-- The numbers of the members of an object. -/
def numbersOfMembers : List (String × Json) → List Number
  | [] => []
  | (_, value) :: members => numbers value ++ numbersOfMembers members
end

mutual
/-- The text of a value is read as the value if the texts of its numbers are. -/
theorem readsText : ∀ value : Json, (∀ n ∈ value.numbers, ReadsNumber n) → ReadsText value
  | .null, _ => by
      intro fuel rest _ hfuel
      obtain ⟨fuel, rfl⟩ := Nat.exists_eq_succ_of_ne_zero (Nat.ne_zero_of_lt hfuel)
      exact ⟨rest, rfl, rfl⟩
  | .bool true, _ => by
      intro fuel rest _ hfuel
      obtain ⟨fuel, rfl⟩ := Nat.exists_eq_succ_of_ne_zero (Nat.ne_zero_of_lt hfuel)
      exact ⟨rest, rfl, rfl⟩
  | .bool false, _ => by
      intro fuel rest _ hfuel
      obtain ⟨fuel, rfl⟩ := Nat.exists_eq_succ_of_ne_zero (Nat.ne_zero_of_lt hfuel)
      exact ⟨rest, rfl, rfl⟩
  | .number n, hnumbers => (hnumbers n (List.mem_singleton_self n)).readsText
  | .string s, _ => by
      intro fuel rest _ hfuel
      obtain ⟨fuel, rfl⟩ := Nat.exists_eq_succ_of_ne_zero (Nat.ne_zero_of_lt hfuel)
      refine ⟨rest, ?_, rfl⟩
      rw [renderChars, renderString, List.cons_append, List.append_assoc, readValue,
        skipSpace_cons rfl]
      exact readString_flatMap_escape s rest
  | .array items, hnumbers => by
      intro fuel rest _ hfuel
      obtain ⟨fuel, rfl⟩ := Nat.exists_eq_succ_of_ne_zero (Nat.ne_zero_of_lt hfuel)
      refine ⟨rest, ?_, rfl⟩
      rw [renderChars, List.length_cons, List.length_append] at hfuel
      rw [renderChars, List.cons_append, List.append_assoc, Node.ofJson]
      by_cases hne : items = []
      · subst hne
        rfl
      · exact readValue_array (readItems_renderItems hne (readsText_items items hnumbers)
          (by simpa using hfuel) rest)
  | .object members, hnumbers => by
      intro fuel rest _ hfuel
      obtain ⟨fuel, rfl⟩ := Nat.exists_eq_succ_of_ne_zero (Nat.ne_zero_of_lt hfuel)
      refine ⟨rest, ?_, rfl⟩
      rw [renderChars, List.length_cons, List.length_append] at hfuel
      rw [renderChars, List.cons_append, List.append_assoc, Node.ofJson]
      by_cases hne : members = []
      · subst hne
        rfl
      · exact readValue_object (readMembers_renderMembers hne
          (readsText_members members hnumbers) (by simpa using hfuel) rest)

theorem readsText_items : ∀ items : List Json, (∀ n ∈ numbersOfItems items, ReadsNumber n) →
    ∀ item ∈ items, ReadsText item
  | [], _ => List.forall_mem_nil _
  | item :: items, hnumbers => by
      rw [numbersOfItems, List.forall_mem_append] at hnumbers
      exact List.forall_mem_cons.mpr
        ⟨readsText item hnumbers.1, readsText_items items hnumbers.2⟩

theorem readsText_members : ∀ members : List (String × Json),
    (∀ n ∈ numbersOfMembers members, ReadsNumber n) →
      ∀ member ∈ members, ReadsText member.2
  | [], _ => List.forall_mem_nil _
  | (name, value) :: members, hnumbers => by
      rw [numbersOfMembers, List.forall_mem_append] at hnumbers
      exact List.forall_mem_cons.mpr
        ⟨readsText value hnumbers.1, readsText_members members hnumbers.2⟩
end

/-- The compact text of a value is read as the node of the value. -/
theorem read?_renderChars {value : Json} (hnumbers : ∀ n ∈ value.numbers, ReadsNumber n) :
    read? value.renderChars = some (Node.ofJson value) := by
  have hends : EndsNumber [] := by rintro _ ⟨⟩
  obtain ⟨left, hread, hleft⟩ :=
    readsText value hnumbers (value.renderChars.length + 1) [] hends (Nat.lt_succ_self _)
  rw [List.append_nil] at hread
  have hblank : skipSpace left = [] := hleft
  rw [read?, hread]
  simp [hblank]

end Json
end ApiContract
