import ApiContract.Proofs.Store.Recency

/-!
# Loads that fail, repeat or replace

A load either binds its name to a new instance of the content, or it changes nothing at
all.  Loading the same content under the same name once more is always of the second
kind.
-/

namespace ApiContract

/-! ## Reading a contract -/

section Chained

variable {α β : Type} {first : Except Failure α} {rest : α → Except Failure β}
  {answer : β} {failure : Failure}

theorem exists_of_bind_eq_ok (h : (first >>= rest) = .ok answer) :
    ∃ found, first = .ok found ∧ rest found = .ok answer := by
  cases first with
  | error failure => cases h
  | ok found => exact ⟨found, rfl, h⟩

theorem bind_eq_error_cases (h : (first >>= rest) = .error failure) :
    first = .error failure ∨ ∃ found, first = .ok found ∧ rest found = .error failure := by
  cases first with
  | error other => exact Or.inl (congrArg Except.error (Except.error.inj h))
  | ok found => exact Or.inr ⟨found, rfl, h⟩

end Chained

namespace Contract

variable {content : List UInt8} {contract : Contract} {failure : Failure}

/-- Why a content is no contract. -/
inductive Refusal : Failure → Prop
  | malformed (reading : Reading) : Refusal (.malformedText reading)
  | unversioned (reading : Reading) : Refusal (.missingVersion reading)
  | cyclic (component : String) : Refusal (.referenceCycle component)

theorem refusal_of_check {reading : Reading} {document : Document}
    (h : document.check reading = .error failure) : Refusal failure := by
  rw [Document.check] at h
  split at h
  · cases h
    exact .unversioned reading
  · split at h
    · cases h
      exact .cyclic _
    · cases h

theorem refusal_of_ofJson {text : List Char} (h : Document.ofJson text = .error failure) :
    Refusal failure := by
  rw [Document.ofJson] at h
  split at h
  · exact refusal_of_check h
  · cases h
    exact .malformed .json

theorem refusal_of_ofYaml {text : List Char} (h : Document.ofYaml text = .error failure) :
    Refusal failure := by
  rw [Document.ofYaml] at h
  split at h
  · exact refusal_of_check h
  · cases h
    exact .malformed .yaml

theorem refusal_of_parse_document (h : Document.parse content = .error failure) :
    Refusal failure := by
  rw [Document.parse] at h
  split at h
  · cases h
    exact .malformed .utf8
  · split at h
    · exact refusal_of_ofJson h
    · exact refusal_of_ofYaml h

theorem refusal_of_ofDocument {document : Document} {digest : List UInt8}
    (h : ofDocument document digest = .error failure) : Refusal failure := by
  rcases bind_eq_error_cases h with hrouter | ⟨router, -, hnone⟩
  · rw [Router.ofPaths] at hrouter
    split at hrouter
    · cases hrouter
    · cases hrouter
      exact .malformed .pathTemplate
  · cases hnone

theorem refusal_of_parse (h : Contract.parse content = .error failure) : Refusal failure := by
  rcases bind_eq_error_cases h with hdocument | ⟨document, -, hrest⟩
  · exact refusal_of_parse_document hdocument
  · exact refusal_of_ofDocument hrest

/-- A contract keeps the digest of the content that it is read from. -/
theorem digest_of_parse (h : Contract.parse content = .ok contract) :
    contract.digest = Sha256.digest content := by
  obtain ⟨document, -, hrest⟩ := exists_of_bind_eq_ok h
  obtain ⟨router, -, hcontract⟩ := exists_of_bind_eq_ok hrest
  cases hcontract
  rfl

end Contract

/-! ## The three answers of a load -/

namespace Store

variable {store : Store} {name : String} {content : List UInt8} {now : Instant}
  {contract : Contract} {failure : Failure}

theorem load_of_isCurrent (h : store.isCurrent name content = true) :
    store.load name content now = (.ok false, store) := by
  rw [load, if_pos h]

theorem load_of_refused (h : store.isCurrent name content = false)
    (hparse : Contract.parse content = .error failure) :
    store.load name content now = (.error failure, store) := by
  rw [load, h, if_neg Bool.false_ne_true, hparse]

theorem load_of_parsed (h : store.isCurrent name content = false)
    (hparse : Contract.parse content = .ok contract) :
    store.load name content now =
      (.ok true, (store.roomFor name).bind name contract now) := by
  rw [load, h, if_neg Bool.false_ne_true, hparse]
  rfl

theorem isCurrent_iff :
    store.isCurrent name content = true ↔
      ∃ i, store.bound? name = some i ∧ i.contract.digest = Sha256.digest content := by
  rw [isCurrent]
  cases store.bound? name <;> simp

/-- The answer of a load tells what it did. -/
inductive Loads (store : Store) (name : String) (content : List UInt8) (now : Instant) :
    Except Failure Bool × Store → Prop
  | refused {failure : Failure} (hparse : Contract.parse content = .error failure) :
      Loads store name content now (.error failure, store)
  | repeated (hcurrent : store.isCurrent name content = true) :
      Loads store name content now (.ok false, store)
  | replaced {contract : Contract} (hparse : Contract.parse content = .ok contract) :
      Loads store name content now (.ok true, (store.roomFor name).bind name contract now)

theorem loads_load (store : Store) (name : String) (content : List UInt8) (now : Instant) :
    store.Loads name content now (store.load name content now) := by
  cases hcurrent : store.isCurrent name content with
  | true =>
      rw [load_of_isCurrent hcurrent]
      exact .repeated hcurrent
  | false =>
      cases hparse : Contract.parse content with
      | error failure =>
          rw [load_of_refused hcurrent hparse]
          exact .refused hparse
      | ok contract =>
          rw [load_of_parsed hcurrent hparse]
          exact .replaced hparse

theorem bound?_bind_self :
    (store.bind name contract now).bound? name = some { contract, lastAccess := now } := by
  rw [bound?, find?_bind_self, Option.bind_some, instance?_bind, if_pos rfl]

/-- What is bound to another name after a load into a store was bound to it before, and
is left alone. -/
theorem find?_of_find?_load {other : String} {handle : Handle}
    (hkeys : (store.bound.map (·.1)).Nodup) (hne : other ≠ name)
    (h : ((store.roomFor name).bind name contract now).find? other = some handle) :
    store.find? other = some handle := by
  rw [find?_bind_of_ne hne] at h
  exact (store.narrows_roomFor name).find?_eq_some hkeys h

theorem instance?_load_of_old {handle : Handle} (hold : (store.instance? handle).isSome) :
    ((store.roomFor name).bind name contract now).instance? handle =
      store.instance? handle := by
  have hroom := store.narrows_roomFor name
  have hne : handle ≠ store.instances.length := by
    rintro rfl
    rw [instance?, List.getElem?_eq_none (Nat.le_refl _)] at hold
    cases hold
  rw [instance?_bind, hroom.instances_eq, if_neg hne, hroom.instance?_eq]

/-! ## Loads are atomic and idempotent -/

/-- A load that fails or finds its content loaded leaves the store as it is.  One that
loads binds the name to a new instance of the content, which was never used, and leaves
alone what stays bound to other names.  After either, the content is loaded. -/
theorem load_atomic (limits : StoreLimits) (start : Instant) (events : List Event)
    (name : String) (content : List UInt8) (now : Instant) :
    let store := (empty limits start).run events
    let answer := (store.load name content now).1
    let next := (store.load name content now).2
    (∀ failure, answer = .error failure →
        next = store ∧ Contract.parse content = .error failure ∧ Contract.Refusal failure) ∧
      (answer = .ok false →
        next = store ∧
          ∃ i, store.bound? name = some i ∧ i.contract.digest = Sha256.digest content) ∧
      (answer = .ok true →
        ∃ handle i, next.find? name = some handle ∧ next.instance? handle = some i ∧
          store.instance? handle = none ∧ Contract.parse content = .ok i.contract ∧
          i.contract.digest = Sha256.digest content ∧ i.lastAccess = now ∧ i.hits = 0 ∧
          (∀ text, i.routeHits.of text = 0) ∧
          ∀ other held, other ≠ name → next.find? other = some held →
            store.find? other = some held ∧ next.instance? held = store.instance? held) ∧
      ∀ loaded, answer = .ok loaded →
        ∀ later, next.load name content later = (.ok false, next) := by
  intro store answer next
  have h : Reflects limits ((empty limits start).history events) store :=
    reflects_run limits start events
  have hload : store.Loads name content now (answer, next) :=
    store.loads_load name content now
  generalize answer = given, next = left at hload
  cases hload with
  | refused hparse =>
      refine ⟨?_, by simp, by simp, by simp⟩
      rintro _ ⟨⟩
      exact ⟨rfl, hparse, Contract.refusal_of_parse hparse⟩
  | repeated hcurrent =>
      refine ⟨by simp, ?_, by simp, ?_⟩
      · intro _
        exact ⟨rfl, isCurrent_iff.mp hcurrent⟩
      · intro _ _ later
        exact load_of_isCurrent hcurrent
  | @replaced contract hparse =>
      have hroom := store.narrows_roomFor name
      have hdigest := Contract.digest_of_parse hparse
      have hfresh : store.instance? store.instances.length = none :=
        List.getElem?_eq_none (Nat.le_refl _)
      refine ⟨by simp, by simp, ?_, ?_⟩
      · intro _
        refine ⟨store.instances.length, { contract, lastAccess := now }, ?_, ?_, hfresh, hparse,
          hdigest, rfl, rfl, ?_, ?_⟩
        · rw [find?_bind_self, hroom.instances_eq]
        · rw [instance?_bind, hroom.instances_eq, if_pos rfl]
        · intro text
          rfl
        · intro other held hne hheld
          have hbefore := find?_of_find?_load h.keys_nodup hne hheld
          exact ⟨hbefore, instance?_load_of_old (h.isSome_instance?_of_find? hbefore)⟩
      · intro _ _ later
        apply load_of_isCurrent
        exact isCurrent_iff.mpr ⟨_, bound?_bind_self, hdigest⟩

/-! ### Loads into a store of cats and dogs -/

/-- The text with one route in the next version. -/
def nextPetsText : List UInt8 :=
  Utf8.encode (petsJson "4").renderChars

/-- The contract with one route in the next version. -/
def nextPetsContract : Contract :=
  { petsContract with version := "4", digest := Sha256.digest nextPetsText }

theorem parse_nextPetsText : Contract.parse nextPetsText = .ok nextPetsContract :=
  parse_petsJson (by decide +kernel)

/-- Cats are bound, but not to the next version. -/
theorem isCurrent_nextPetsText : petStore.isCurrent "cats" nextPetsText = false := by
  have hdigest : Sha256.digest petsText ≠ Sha256.digest nextPetsText := by decide +kernel
  rw [Bool.eq_false_iff, ne_eq, isCurrent_iff]
  rintro ⟨i, hbound, hi⟩
  obtain rfl : { contract := petsContract, lastAccess := 3, hits := 1 } = i :=
    Option.some.inj hbound
  exact hdigest hi

theorem load_petStore_bytes :
    (petStore.load "birds" [0xff] 4).1 = .error (.malformedText .utf8) := by
  have hdecode : Utf8.decode? [0xff] = none := by decide +kernel
  have hparse : Contract.parse [0xff] = .error (.malformedText .utf8) := by
    rw [Contract.parse, Document.parse, hdecode]
    rfl
  have hnew : petStore.isCurrent "birds" [0xff] = false := by rfl
  rw [load_of_refused hnew hparse]

theorem load_petStore_cats : (petStore.load "cats" petsText 4).1 = .ok false := by
  have hcurrent : petStore.isCurrent "cats" petsText = true := isCurrent_iff.mpr ⟨_, rfl, rfl⟩
  rw [load_of_isCurrent hcurrent]

theorem load_petStore_nextCats : petStore.load "cats" nextPetsText 4 =
    (.ok true, petStore.bind "cats" nextPetsContract 4) := by
  have hroom : petStore.roomFor "cats" = petStore := by rfl
  rw [load_of_parsed isCurrent_nextPetsText parse_nextPetsText, hroom]

/-- Two names are bound, of which dogs were accessed the longest time ago. -/
theorem load_petStore_birds : petStore.load "birds" petsText 4 =
    (.ok true, (petStore.remove "dogs").bind "birds" petsContract 4) := by
  have hnew : petStore.find? "birds" = none := by rfl
  have hroom : petStore.roomFor "birds" = petStore.remove "dogs" := by rfl
  rw [load_petsText hnew, hroom]

/-- Bytes that are no text are refused, and cats are loaded already.  The next version of
cats takes the place of theirs, and birds take the place of dogs; after which either is
loaded. -/
theorem load_atomic_petEvents :
    let store := (empty { maxApis := 2 } 0).run petEvents
    let changed := (store.load "cats" nextPetsText 4).2
    let next := (store.load "birds" petsText 4).2
    (store.load "birds" [0xff] 4).2 = store ∧ (store.load "cats" petsText 4).2 = store ∧
      (changed.bound? "cats").map (·.contract.version) = some "4" ∧
      changed.find? "dogs" = some 1 ∧ changed.instance? 1 = store.instance? 1 ∧
      changed.load "cats" nextPetsText 5 = (.ok false, changed) ∧
      next.find? "dogs" = none ∧ next.find? "cats" = some 0 ∧
      next.instance? 0 = store.instance? 0 ∧
      next.load "birds" petsText 5 = (.ok false, next) := by
  intro store changed next
  have hstore : store = petStore := run_petEvents
  have hrefused : (store.load "birds" [0xff] 4).1 = .error (.malformedText .utf8) := by
    rw [hstore, load_petStore_bytes]
  have hcats : (store.load "cats" petsText 4).1 = .ok false := by
    rw [hstore, load_petStore_cats]
  obtain ⟨hfail, -, -, -⟩ := load_atomic { maxApis := 2 } 0 petEvents "birds" [0xff] 4
  obtain ⟨-, hsame, -, -⟩ := load_atomic { maxApis := 2 } 0 petEvents "cats" petsText 4
  refine ⟨(hfail _ hrefused).1, (hsame hcats).1, ?_⟩
  -- the next version of cats
  have hload : store.load "cats" nextPetsText 4 =
      (.ok true, petStore.bind "cats" nextPetsContract 4) := by
    rw [hstore, load_petStore_nextCats]
  have hchanged : changed = petStore.bind "cats" nextPetsContract 4 := congrArg Prod.snd hload
  have hreplaced : (store.load "cats" nextPetsText 4).1 = .ok true := by rw [hload]
  have hdogs : changed.find? "dogs" = some 1 := by
    rw [hchanged]
    rfl
  obtain ⟨-, -, hbinds, hcurrent⟩ :=
    load_atomic { maxApis := 2 } 0 petEvents "cats" nextPetsText 4
  obtain ⟨handle, i, hhandle, hi, -, hparse, -, -, -, -, hothers⟩ := hbinds hreplaced
  have hversion : (changed.bound? "cats").map (·.contract.version) = some "4" := by
    have hcontract := Except.ok.inj (parse_nextPetsText.symm.trans hparse)
    rw [bound?, hhandle, Option.bind_some, hi, Option.map_some, ← hcontract]
    rfl
  refine ⟨hversion, hdogs, (hothers "dogs" 1 (by decide) hdogs).2, hcurrent true hreplaced 5, ?_⟩
  -- birds, for which dogs make room
  have hbirds : store.load "birds" petsText 4 =
      (.ok true, (petStore.remove "dogs").bind "birds" petsContract 4) := by
    rw [hstore, load_petStore_birds]
  have hnext : next = (petStore.remove "dogs").bind "birds" petsContract 4 :=
    congrArg Prod.snd hbirds
  have hloads : (store.load "birds" petsText 4).1 = .ok true := by rw [hbirds]
  have hkeeps : next.find? "cats" = some 0 := by
    rw [hnext]
    rfl
  obtain ⟨-, -, hbinds, hcurrent⟩ :=
    load_atomic { maxApis := 2 } 0 petEvents "birds" petsText 4
  obtain ⟨_, _, -, -, -, -, -, -, -, -, hothers⟩ := hbinds hloads
  refine ⟨?_, hkeeps, (hothers "cats" 0 (by decide) hkeeps).2, hcurrent true hloads 5⟩
  rw [hnext]
  rfl

end Store
end ApiContract
