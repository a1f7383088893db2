import ApiContract.Proofs.Binary64.ReadBack
import ApiContract.Proofs.Json.Canonical
import ApiContract.Proofs.Json.Written

/-!
# Texts determine values

Two canonical values have the same compact text only if they are the same.  The proof compares
texts that a comma, a closing bracket or nothing follows: the text of a value is then the
beginning of the text of no other value, so that it tells where it ends.
-/

namespace ApiContract
namespace Json

/-- A value ends here: nothing, a comma or a closing bracket follows. -/
def EndsValue (rest : List Char) : Prop :=
  ∀ c ∈ rest.head?, c ∈ [',', ']', '\x7d']

theorem endsValue_nil : EndsValue [] := by
  rintro c ⟨⟩

theorem endsValue_cons {c : Char} (h : c ∈ [',', ']', '\x7d']) (rest : List Char) :
    EndsValue (c :: rest) := by
  rintro _ ⟨⟩
  exact h

/-! ## Separated elements -/

section Joined

variable {α : Type} {code : α → List Char} {close : Char} {r s : List Char} {xs ys : List α}

/-- The texts of elements with commas between them. -/
def joined (code : α → List Char) : List α → List Char
  | [] => []
  | first :: rest => code first ++ rest.flatMap fun next => ',' :: code next

/-- Where two elements end, their texts tell them apart, and where they end. -/
def TellsApart (code : α → List Char) (x y : α) : Prop :=
  ∀ r s, EndsValue r → EndsValue s → code x ++ r = code y ++ s → x = y ∧ r = s

theorem endsValue_flatMap (hclose : close ∈ [']', '\x7d']) (xs : List α) (rest : List Char) :
    EndsValue ((xs.flatMap fun next => ',' :: code next) ++ close :: rest) := by
  cases xs with
  | nil => exact endsValue_cons (List.mem_cons_of_mem _ hclose) rest
  | cons first xs => exact endsValue_cons List.mem_cons_self _

theorem eq_of_flatMap_append (hclose : close ∈ [']', '\x7d'])
    (heach : ∀ x ∈ xs, ∀ y ∈ ys, TellsApart code x y)
    (h : (xs.flatMap fun next => ',' :: code next) ++ close :: r =
      (ys.flatMap fun next => ',' :: code next) ++ close :: s) : xs = ys ∧ r = s := by
  have hcomma : close ≠ ',' := by
    rintro rfl
    simp at hclose
  induction xs generalizing ys with
  | nil =>
    cases ys with
    | nil => exact ⟨rfl, (List.cons.inj h).2⟩
    | cons y ys => exact absurd (List.cons.inj h).1 hcomma
  | cons x xs ih =>
    cases ys with
    | nil => exact absurd (List.cons.inj h).1.symm hcomma
    | cons y ys =>
      simp only [List.flatMap_cons, List.cons_append, List.append_assoc, List.cons.injEq,
        true_and] at h
      obtain ⟨rfl, hrest⟩ := heach x List.mem_cons_self y List.mem_cons_self _ _
        (endsValue_flatMap hclose xs r) (endsValue_flatMap hclose ys s) h
      obtain ⟨rfl, hafter⟩ := ih (fun x hx y hy =>
        heach x (List.mem_cons_of_mem _ hx) y (List.mem_cons_of_mem _ hy)) hrest
      exact ⟨rfl, hafter⟩

/-- The text of separated elements up to a closing bracket determines the elements. -/
theorem eq_of_joined_append (hclose : close ∈ [']', '\x7d'])
    (hxs : ∀ x ∈ xs, (code x).head? ≠ some close ∧ code x ≠ [])
    (hys : ∀ y ∈ ys, (code y).head? ≠ some close ∧ code y ≠ [])
    (heach : ∀ x ∈ xs, ∀ y ∈ ys, TellsApart code x y)
    (h : joined code xs ++ close :: r = joined code ys ++ close :: s) : xs = ys ∧ r = s := by
  have hfirst {x : α} (hx : (code x).head? ≠ some close ∧ code x ≠ []) (rest after : List Char) :
      close :: after ≠ code x ++ rest := by
    obtain ⟨c, tail, hcode⟩ := List.exists_cons_of_ne_nil hx.2
    rw [hcode]
    rintro ⟨⟩
    exact hx.1 (by rw [hcode, List.head?_cons])
  cases xs with
  | nil =>
    cases ys with
    | nil => exact ⟨rfl, (List.cons.inj h).2⟩
    | cons y ys =>
      rw [joined, joined, List.append_assoc] at h
      exact absurd h (hfirst (hys y List.mem_cons_self) _ _)
  | cons x xs =>
    cases ys with
    | nil =>
      rw [joined, joined, List.append_assoc] at h
      exact absurd h.symm (hfirst (hxs x List.mem_cons_self) _ _)
    | cons y ys =>
      rw [joined, joined, List.append_assoc, List.append_assoc] at h
      obtain ⟨rfl, hrest⟩ := heach x List.mem_cons_self y List.mem_cons_self _ _
        (endsValue_flatMap hclose xs r) (endsValue_flatMap hclose ys s) h
      obtain ⟨rfl, hafter⟩ := eq_of_flatMap_append hclose (fun x hx y hy =>
        heach x (List.mem_cons_of_mem _ hx) y (List.mem_cons_of_mem _ hy)) hrest
      exact ⟨rfl, hafter⟩

end Joined

theorem renderItems_eq_joined (items : List Json) :
    renderItems items = joined renderChars items := by
  induction items with
  | nil => rfl
  | cons first items ih =>
    cases items with
    | nil => simp [renderItems, joined]
    | cons second items =>
      rw [renderItems, ih]
      rfl

/-- The text of a member of an object. -/
def renderMember (member : String × Json) : List Char :=
  renderString member.1 ++ ':' :: renderChars member.2

theorem renderMembers_eq_joined (members : List (String × Json)) :
    renderMembers members = joined renderMember members := by
  induction members with
  | nil => rfl
  | cons first members ih =>
    cases members with
    | nil => simp [renderMembers, joined, renderMember]
    | cons second members =>
      rw [renderMembers, ih]
      simp [joined, renderMember]

/-! ## Strings and numbers -/

variable {r s : List Char}

/-- The text of a string tells where it ends, whatever follows. -/
theorem eq_of_renderString_append {a b : String} (h : renderString a ++ r = renderString b ++ s) :
    a = b ∧ r = s := by
  have hread := readString_flatMap_escape a r
  have hread' := readString_flatMap_escape b s
  simp only [renderString, List.cons_append, List.append_assoc, List.cons.injEq, true_and] at h
  rw [List.nil_append, List.nil_append] at h
  rw [h, hread'] at hread
  simpa [eq_comm] using hread

/-- The text of an integer: its sign and its digits. -/
theorem renderNumber_integer (n : ℤ) :
    renderNumber (.integer n) = (if n < 0 then ['-'] else []) ++ Nat.toDigits 10 n.natAbs := by
  rw [renderNumber, Int.toString_eq_repr, Int.repr_eq_if]
  split
  · rename_i hnonneg
    have habs : n.toNat = n.natAbs := by omega
    rw [if_neg (by omega), List.nil_append, Nat.repr_eq_ofList_toDigits, String.toList_ofList, habs]
  · rename_i hnegative
    have habs : (-n).toNat = n.natAbs := by omega
    rw [if_pos (by omega), String.toList_append, Nat.repr_eq_ofList_toDigits, habs]
    simp

theorem minus_notMem_toDigits (n : ℕ) : '-' ∉ Nat.toDigits 10 n := by
  intro hmem
  cases Ascii.isDigit_of_mem_toDigits hmem

theorem eq_of_renderNumber_integer {m n : ℤ}
    (h : renderNumber (.integer m) = renderNumber (.integer n)) : m = n := by
  have hnegative (k : ℤ) : '-' ∈ renderNumber (.integer k) ↔ k < 0 := by
    rw [renderNumber_integer, List.mem_append]
    split <;> simp_all [minus_notMem_toDigits]
  have hsign : m < 0 ↔ n < 0 := by rw [← hnegative, h, hnegative]
  rw [renderNumber_integer, renderNumber_integer] at h
  simp only [hsign, List.append_cancel_left_eq] at h
  have habs := congrArg Ascii.decimal h
  rw [Ascii.decimal_toDigits, Ascii.decimal_toDigits] at habs
  omega

theorem chars_of_integer (n : ℤ) :
    ∀ c ∈ renderNumber (.integer n), Ascii.isDigit c = true ∨ c = '-' := by
  rw [renderNumber_integer]
  refine List.forall_mem_append.mpr
    ⟨?_, fun c hc => Or.inl (Ascii.isDigit_of_mem_toDigits hc)⟩
  split
  · exact List.forall_mem_singleton.mpr (Or.inr rfl)
  · exact List.forall_mem_nil _

/-- The text of a finite number that is no integer: a sign and digits with a point or an
exponent. -/
theorem exists_render?_of_isFinite {x : Binary64} (hx : x.isFinite = true) :
    ∃ text, x.render? = some text ∧ renderNumber (.float x) = text.toList ∧
      (∀ c ∈ text.toList, Binary64.isNumberChar c = true) ∧
        ('.' ∈ text.toList ∨ 'e' ∈ text.toList) ∧
          ∃ c tail, text.toList = c :: tail ∧ beginsNumber c = true := by
  cases x with
  | infinite => cases hx
  | nan => cases hx
  | finite negative m exponent hcanonical =>
    obtain ⟨hchars, hmark⟩ := Binary64.chars_of_renderMagnitude hcanonical
    obtain ⟨c, tail, htext, hc⟩ := Binary64.exists_digit_of_renderMagnitude hcanonical
    refine ⟨_, rfl, by simp [renderNumber, Binary64.render?], ?_, ?_, ?_⟩
    · rw [String.toList_ofList]
      refine List.forall_mem_append.mpr ⟨?_, hchars⟩
      split
      · exact List.forall_mem_singleton.mpr rfl
      · exact List.forall_mem_nil _
    · rw [String.toList_ofList]
      exact hmark.imp (List.mem_append_right _) (List.mem_append_right _)
    · rw [String.toList_ofList, htext]
      split
      · exact ⟨'-', c :: tail, rfl, rfl⟩
      · exact ⟨c, tail, rfl, by simp [beginsNumber, hc]⟩

theorem isNumberChar_of_mem_renderNumber {n : Number} (hn : (Json.number n).Canonical) :
    ∀ c ∈ renderNumber n, Binary64.isNumberChar c = true := by
  cases hn with
  | integer n =>
    intro c hc
    obtain hdigit | rfl := chars_of_integer n c hc
    · exact Binary64.isNumberChar_of_isDigit hdigit
    · rfl
  | float hfinite =>
    obtain ⟨text, -, htext, hchars, -⟩ := exists_render?_of_isFinite hfinite
    rw [htext]
    exact hchars

/-- The text of a number determines the number. -/
theorem renderNumber_inj {m n : Number} (hm : (Json.number m).Canonical)
    (hn : (Json.number n).Canonical) (h : renderNumber m = renderNumber n) : m = n := by
  have hapart (k : ℤ) {x : Binary64} (hx : x.isFinite = true) :
      renderNumber (.integer k) ≠ renderNumber (.float x) := by
    intro hsame
    obtain ⟨text, -, htext, -, hmark, -⟩ := exists_render?_of_isFinite hx
    have hchars := chars_of_integer k
    rw [hsame, htext] at hchars
    obtain hpoint | hexponent := hmark
    · exact absurd (hchars _ hpoint) (by decide)
    · exact absurd (hchars _ hexponent) (by decide)
  cases hm with
  | integer k =>
    cases hn with
    | integer l =>
      rw [eq_of_renderNumber_integer h]
    | float hy => exact absurd h (hapart k hy)
  | float hx =>
    cases hn with
    | integer l => exact absurd h.symm (hapart l hx)
    | float hy =>
      obtain ⟨text, hrender, htext, -⟩ := exists_render?_of_isFinite hx
      obtain ⟨text', hrender', htext', -⟩ := exists_render?_of_isFinite hy
      rw [htext, htext'] at h
      have hread := Binary64.ofText?_of_render? hrender
      rw [h, Binary64.ofText?_of_render? hrender', Option.some_inj] at hread
      rw [hread]

theorem eq_of_renderNumber_append {m n : Number} (hm : (Json.number m).Canonical)
    (hn : (Json.number n).Canonical) (hr : EndsValue r) (hs : EndsValue s)
    (h : renderNumber m ++ r = renderNumber n ++ s) : m = n ∧ r = s := by
  have hsplit {k : Number} (hk : (Json.number k).Canonical) {rest : List Char}
      (hrest : EndsValue rest) :
      (renderNumber k ++ rest).takeWhile Binary64.isNumberChar = renderNumber k ∧
        (renderNumber k ++ rest).dropWhile Binary64.isNumberChar = rest := by
    have hchars := isNumberChar_of_mem_renderNumber hk
    rw [List.takeWhile_append_of_pos hchars, List.dropWhile_append_of_pos hchars]
    cases rest with
    | nil => exact ⟨List.append_nil _, rfl⟩
    | cons c rest =>
      have hend : Binary64.isNumberChar c = false := by
        have hc := hrest c rfl
        simp only [List.mem_cons, List.not_mem_nil, or_false] at hc
        rcases hc with rfl | rfl | rfl <;> rfl
      simp [hend]
  obtain ⟨htake, hdrop⟩ := hsplit hm hr
  obtain ⟨htake', hdrop'⟩ := hsplit hn hs
  rw [h] at htake hdrop
  exact ⟨renderNumber_inj hm hn (htake.symm.trans htake'), hdrop.symm.trans hdrop'⟩

/-! ## Kinds of values -/

/-- The first character of the text of a value, where all numbers begin alike. -/
def mark : Json → Char
  | .null => 'n'
  | .bool true => 't'
  | .bool false => 'f'
  | .number _ => '0'
  | .string _ => '"'
  | .array _ => '['
  | .object _ => '{'

/-- Two values are of the same kind. -/
inductive IsLike : Json → Json → Prop
  | null : IsLike .null .null
  | bool (flag : Bool) : IsLike (.bool flag) (.bool flag)
  | number (m n : Number) : IsLike (.number m) (.number n)
  | string (s t : String) : IsLike (.string s) (.string t)
  | array (items others : List Json) : IsLike (.array items) (.array others)
  | object (members others : List (String × Json)) : IsLike (.object members) (.object others)

theorem isLike_of_mark_eq {a b : Json} (h : a.mark = b.mark) : IsLike a b := by
  -- different kinds have different marks
  fun_cases mark a <;> fun_cases mark b <;> simp only [mark, Char.reduceEq] at h
  all_goals constructor

/-- The text of a number begins as a number. -/
theorem exists_beginsNumber {n : Number} (hn : (Json.number n).Canonical) :
    ∃ c tail, renderNumber n = c :: tail ∧ beginsNumber c = true := by
  cases hn with
  | integer n =>
    rw [renderNumber_integer]
    split
    · exact ⟨'-', _, rfl, rfl⟩
    · obtain ⟨c, tail, htext⟩ :=
        List.exists_cons_of_ne_nil (Nat.toDigits_ne_nil (b := 10) (n := n.natAbs))
      have hc : c ∈ Nat.toDigits 10 n.natAbs := htext ▸ List.mem_cons_self
      exact ⟨c, tail, htext, by simp [beginsNumber, Ascii.isDigit_of_mem_toDigits hc]⟩
  | float hfinite =>
    obtain ⟨text, -, htext, -, -, hbegins⟩ := exists_render?_of_isFinite hfinite
    rw [htext]
    exact hbegins

/-- The first character of a text tells the kind of its value. -/
theorem exists_mark {value : Json} (hvalue : value.Canonical) :
    ∃ c tail, value.renderChars = c :: tail ∧
      (if beginsNumber c then '0' else c) = value.mark := by
  have hnumber {n : Number} (hn : (Json.number n).Canonical) :
      ∃ c tail, (Json.number n).renderChars = c :: tail ∧
        (if beginsNumber c then '0' else c) = (Json.number n).mark := by
    obtain ⟨c, tail, htext, hc⟩ := exists_beginsNumber hn
    exact ⟨c, tail, htext, if_pos hc⟩
  cases hvalue with
  | null => exact ⟨_, _, rfl, rfl⟩
  | bool flag => cases flag <;> exact ⟨_, _, rfl, rfl⟩
  | integer n => exact hnumber (.integer n)
  | float hfinite => exact hnumber (.float hfinite)
  | string text => exact ⟨_, _, rfl, rfl⟩
  | array each => exact ⟨_, _, rfl, rfl⟩
  | object ascending each => exact ⟨_, _, rfl, rfl⟩

theorem isLike_of_renderChars_append {a b : Json} (ha : a.Canonical) (hb : b.Canonical)
    (h : a.renderChars ++ r = b.renderChars ++ s) : IsLike a b := by
  obtain ⟨c, tail, htext, hmark⟩ := exists_mark ha
  obtain ⟨d, tail', htext', hmark'⟩ := exists_mark hb
  rw [htext, htext', List.cons_append, List.cons_append] at h
  obtain ⟨rfl, -⟩ := List.cons.inj h
  exact isLike_of_mark_eq (hmark.symm.trans hmark')

/-- No value begins with a closing bracket. -/
theorem head?_renderChars_ne {value : Json} (hvalue : value.Canonical) {close : Char}
    (hclose : close ∈ [']', '}']) :
    value.renderChars.head? ≠ some close ∧ value.renderChars ≠ [] := by
  obtain ⟨c, tail, htext, hmark⟩ := exists_mark hvalue
  rw [htext]
  refine ⟨?_, List.cons_ne_nil _ _⟩
  rw [List.head?_cons]
  rintro ⟨⟩
  simp only [List.mem_cons, List.not_mem_nil, or_false] at hclose
  have hbegins : beginsNumber close = false := by rcases hclose with rfl | rfl <;> rfl
  rw [hbegins, if_neg Bool.false_ne_true] at hmark
  subst hmark
  fun_cases mark value <;> simp [mark] at hclose

/-! ## Values -/

/-- Members with different keys or values have different texts. -/
theorem tellsApart_renderMember {member other : String × Json}
    (h : TellsApart renderChars member.2 other.2) : TellsApart renderMember member other := by
  intro r s hr hs htexts
  simp only [renderMember, List.append_assoc, List.cons_append] at htexts
  obtain ⟨hkey, hrest⟩ := eq_of_renderString_append htexts
  obtain ⟨hvalue, hafter⟩ := h r s hr hs (List.cons.inj hrest).2
  exact ⟨Prod.ext hkey hvalue, hafter⟩

/-- Where values end, their texts tell the values apart. -/
theorem tellsApart {a b : Json} (ha : a.Canonical) (hb : b.Canonical) :
    TellsApart renderChars a b := by
  induction ha generalizing b with
  | null =>
    intro r s hr hs h
    cases isLike_of_renderChars_append .null hb h
    exact ⟨rfl, List.append_cancel_left h⟩
  | bool flag =>
    intro r s hr hs h
    cases isLike_of_renderChars_append (.bool flag) hb h
    exact ⟨rfl, List.append_cancel_left h⟩
  | integer n =>
    intro r s hr hs h
    cases isLike_of_renderChars_append (.integer n) hb h
    obtain ⟨rfl, hrest⟩ := eq_of_renderNumber_append (.integer n) hb hr hs h
    exact ⟨rfl, hrest⟩
  | float hfinite =>
    intro r s hr hs h
    cases isLike_of_renderChars_append (.float hfinite) hb h
    obtain ⟨rfl, hrest⟩ := eq_of_renderNumber_append (.float hfinite) hb hr hs h
    exact ⟨rfl, hrest⟩
  | string text =>
    intro r s hr hs h
    cases isLike_of_renderChars_append (.string text) hb h
    obtain ⟨rfl, hrest⟩ := eq_of_renderString_append h
    exact ⟨rfl, hrest⟩
  | @array items heach ih =>
    intro r s hr hs h
    cases isLike_of_renderChars_append (.array heach) hb h with
    | array _ others =>
      cases hb with
      | array hothers =>
        simp only [renderChars, renderItems_eq_joined, List.cons_append, List.append_assoc,
          List.cons.injEq, true_and, List.nil_append] at h
        obtain ⟨rfl, hrest⟩ := eq_of_joined_append (by simp)
          (fun item hitem => head?_renderChars_ne (heach item hitem) (by simp))
          (fun other hother => head?_renderChars_ne (hothers other hother) (by simp))
          (fun item hitem other hother => ih item hitem (hothers other hother)) h
        exact ⟨rfl, hrest⟩
  | @object members hascending heach ih =>
    intro r s hr hs h
    cases isLike_of_renderChars_append (.object hascending heach) hb h with
    | object _ others =>
      cases hb with
      | object _ hothers =>
        have hquote (member : String × Json) :
            (renderMember member).head? ≠ some '}' ∧ renderMember member ≠ [] := by
          simp [renderMember, renderString]
        simp only [renderChars, renderMembers_eq_joined, List.cons_append, List.append_assoc,
          List.cons.injEq, true_and, List.nil_append] at h
        obtain ⟨rfl, hrest⟩ := eq_of_joined_append (by simp) (fun member _ => hquote member)
          (fun other _ => hquote other)
          (fun member hmember other hother =>
            tellsApart_renderMember (ih member hmember (hothers other hother))) h
        exact ⟨rfl, hrest⟩

/-- The compact text of a canonical value determines the value. -/
theorem render_inj {a b : Json} (ha : a.Canonical) (hb : b.Canonical) :
    a.render = b.render ↔ a = b := by
  constructor
  · intro h
    rw [render, render, String.ofList_inj] at h
    exact (tellsApart ha hb [] [] endsValue_nil endsValue_nil (by rw [h])).1
  · rintro rfl
    rfl

end Json
end ApiContract
