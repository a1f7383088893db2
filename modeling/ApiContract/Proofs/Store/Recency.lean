import ApiContract.Proofs.Json.Written
import ApiContract.Proofs.Store.Freed
import ApiContract.Proofs.Text.Decoding

/-!
# Capacity and recency

A store never binds more names than its limits allow.  When a new name is loaded into a
full store, exactly one name makes room: the one whose instance was accessed the longest
time ago, where an instance is accessed when it is loaded and whenever it is returned.
-/

namespace ApiContract
namespace Store

variable {store : Store} {name : String} {handle : Handle} {limits : StoreLimits}
  {past : List Record} {r : Record}

/-- The accesses of a history follow one another in time. -/
def AccessesAscend (past : List Record) : Prop :=
  (past.filter fun r => r.accesses?.isSome).Pairwise fun a b => a.time < b.time

/-- The latest access of one instance lies before that of another. -/
def AccessedBefore (past : List Record) (handle other : Handle) : Prop :=
  ∃ accessed later, latestAccess? past handle = some accessed ∧
    latestAccess? past other = some later ∧ accessed < later

/-! ## Latest accesses -/

theorem exists_of_latestAccess? {time : Instant} (h : latestAccess? past handle = some time) :
    ∃ r ∈ past, r.accesses? = some handle ∧ r.time = time := by
  obtain ⟨r, hlast, htime⟩ := Option.map_eq_some_iff.mp h
  obtain ⟨hmem, haccess⟩ := List.mem_filter.mp (List.mem_of_getLast? hlast)
  exact ⟨r, hmem, of_decide_eq_true haccess, htime⟩

/-- No two instances were last accessed at the same time. -/
theorem AccessesAscend.eq_of_latestAccess? (h : AccessesAscend past) {other : Handle}
    {time : Instant} (haccess : latestAccess? past handle = some time)
    (hother : latestAccess? past other = some time) : handle = other := by
  obtain ⟨a, hmem, hhandle, htime⟩ := exists_of_latestAccess? haccess
  obtain ⟨b, hmem', hother', htime'⟩ := exists_of_latestAccess? hother
  have hdistinct : ((past.filter fun r => r.accesses?.isSome).map (·.time)).Nodup :=
    (List.pairwise_map.mpr h).imp fun hlt => Nat.ne_of_lt hlt
  have hsame : a = b := by
    apply List.inj_on_of_nodup_map hdistinct
    · exact List.mem_filter.mpr ⟨hmem, by rw [hhandle]; rfl⟩
    · exact List.mem_filter.mpr ⟨hmem', by rw [hother']; rfl⟩
    · exact htime.trans htime'.symm
  subst hsame
  exact Option.some.inj (hhandle.symm.trans hother')

/-- An instance is bound to one name at most. -/
theorem Bound.eq_of_bound {other : String} (h : Bound past name handle)
    (h' : Bound past other handle) : name = other := by
  obtain ⟨contract, hcreated⟩ := h.exists_created
  obtain ⟨contract', hcreated'⟩ := h'.exists_created
  exact (Prod.mk.inj (Option.some.inj (hcreated.symm.trans hcreated'))).1

namespace Reflects

theorem latestAccess?_of_bound (h : Reflects limits past store)
    (hbound : Bound past name handle) :
    latestAccess? past handle = some (store.lastAccess handle) := by
  obtain ⟨i, hinstance⟩ := Option.isSome_iff_exists.mp
    (h.isSome_instance?_of_find? ((h.find?_iff name handle).mpr hbound))
  rw [h.latestAccess?_eq, lastAccess, hinstance, Option.map_some, Option.getD_some]

/-- The instance of the least recently accessed name was accessed before all others that
are bound. -/
theorem accessedBefore_of_leastRecent? (h : Reflects limits past r.store)
    (hascend : AccessesAscend past) (hleast : r.store.leastRecent? = some name) :
    ∃ handle, Bound past name handle ∧
      ∀ other held, Bound past other held → other ≠ name → AccessedBefore past handle held := by
  obtain ⟨handle, hmem, hbefore⟩ := exists_of_leastRecent? hleast
  have hbound : Bound past name handle :=
    (h.find?_iff name handle).mp ((find?_eq_some_iff_mem h.keys_nodup).mpr hmem)
  refine ⟨handle, hbound, ?_⟩
  intro other held hheld hne
  have haccess := h.latestAccess?_of_bound hbound
  have hlater := h.latestAccess?_of_bound hheld
  refine ⟨_, _, haccess, hlater, Nat.lt_of_le_of_ne ?_ ?_⟩
  · have hfind := (h.find?_iff other held).mpr hheld
    exact hbefore (other, held) (mem_of_lookup hfind)
  -- Equal times would be those of one instance, which has no two names.
  · intro hsame
    rw [← hsame] at hlater
    obtain rfl := hascend.eq_of_latestAccess? haccess hlater
    exact hne (hheld.eq_of_bound hbound)

end Reflects

/-! ## Runs -/

/-- A store never holds more names than its limits allow.  A load frees a name only if it
loads a new one into a full store, and then exactly one: the least recently accessed.
Asking for an instance frees nothing.  What is not freed keeps its instance. -/
theorem frees_least_recent (limits : StoreLimits) (start : Instant) (events : List Event)
    (event : Event) :
    let past := (empty limits start).history events
    let r : Record := { event with store := (empty limits start).run events }
    r.store.size ≤ max limits.maxApis 1 ∧
      (∀ loaded, r.Creates loaded → r.store.find? loaded = none →
        r.store.size < max limits.maxApis 1 → ∀ name, ¬r.Frees name) ∧
      (∀ loaded, r.Creates loaded → r.store.find? loaded = none →
        r.store.size = max limits.maxApis 1 →
        ∃ victim, (∀ name, r.Frees name ↔ name = victim) ∧
          (AccessesAscend past → ∃ handle, Bound past victim handle ∧
            ∀ other held, Bound past other held → other ≠ victim →
              AccessedBefore past handle held)) ∧
      (∀ loaded, r.Creates loaded → r.store.find? loaded ≠ none → ∀ name, ¬r.Frees name) ∧
      (∀ asked, event.action = .get asked → ∀ name, ¬r.Frees name) ∧
      ∀ name, ¬r.Creates name → ¬r.Frees name → r.next.find? name = r.store.find? name := by
  intro past r
  have h : Reflects limits past r.store := reflects_run limits start events
  have hcapacity : r.store.capacity = max limits.maxApis 1 := by
    rw [capacity, h.limits_eq]
  have hfrees {loaded name : String} (hload : r.Creates loaded) :
      r.Frees name ↔ r.store.find? loaded = none ∧ r.store.size = max limits.maxApis 1 ∧
        r.store.leastRecent? = some name := by
    rw [hload.frees_iff h.keys_nodup h.size_le, hload.displaces_iff, hcapacity]
  refine ⟨hcapacity ▸ h.size_le, ?_, ?_, ?_, ?_, ?_⟩
  · intro loaded hload _ hroom name hfreed
    obtain ⟨-, hfull, -⟩ := (hfrees hload).mp hfreed
    omega
  · intro loaded hload hnew hfull
    obtain ⟨hless, -⟩ | ⟨-, victim, hleast, -⟩ := roomFor_cases h.size_le hnew
    · omega
    · refine ⟨victim, ?_, fun hascend => h.accessedBefore_of_leastRecent? hascend hleast⟩
      intro name
      rw [hfrees hload]
      constructor
      · rintro ⟨-, -, hname⟩
        exact Option.some.inj (hname.symm.trans hleast)
      · rintro rfl
        exact ⟨hnew, hfull, hleast⟩
  · intro loaded hload hbound name hfreed
    exact hbound ((hfrees hload).mp hfreed).1
  · intro asked haction name hfreed
    obtain ⟨handle, hfind⟩ := hfreed.exists_find?
    rcases (Record.frees_iff h.keys_nodup h.size_le hfind).mp hfreed with
      hdismisses | ⟨⟨loaded, ⟨content, hsource, -⟩, -⟩, -, -⟩
    · rw [Record.dismisses_iff] at hdismisses
      have haction' : r.action = .get asked := haction
      simp [haction', Record.cleansAsOf?] at hdismisses
    · have haction' : r.action = .get asked := haction
      rw [haction'] at hsource
      cases hsource
  · intro name hnone hkept
    exact Record.find?_next_eq h.keys_nodup hnone hkept

/-! ### A store of cats and dogs -/

/-- A text with one route. -/
def petsText : List UInt8 :=
  Utf8.encode "\x7b\"openapi\":\"3\",\"paths\":\x7b\"/pets\":\x7b\x7d\x7d\x7d".toList

/-- The router of the text with one route. -/
def petsRouter : Router where
  routes := [{ text := "/pets", item := {} }]
  templated := []

/-- The contract of the text with one route. -/
def petsContract : Contract where
  version := "3"
  info := none
  router := petsRouter
  components := {}
  security := []
  digest := Sha256.digest petsText

/-- The document with one route in some version, as a value. -/
def petsJson (version : String) : Json :=
  .object [("openapi", .string version), ("paths", .object [("/pets", .object [])])]

/-- The text of the document is read as the contract with one route, in its version. -/
theorem parse_petsJson {version : String}
    (hversion : (Blank.trim version.toList).isEmpty = false) :
    Contract.parse (Utf8.encode (petsJson version).renderChars) =
      .ok { petsContract with
        version, digest := Sha256.digest (Utf8.encode (petsJson version).renderChars) } := by
  have hdocument : Document.parse (Utf8.encode (petsJson version).renderChars) =
      .ok { version, paths := [("/pets", {})] } := by
    have hread : Json.read? (petsJson version).renderChars =
        some (Node.ofJson (petsJson version)) :=
      Json.read?_renderChars (by rintro n ⟨⟩)
    have hbrace : (Blank.trimStart (petsJson version).renderChars).head? = some '\x7b' := rfl
    have hnode : Document.ofNode? Json.depthLimit (Node.ofJson (petsJson version)) =
        some { version, paths := [("/pets", {})] } := rfl
    simp only [Document.parse, Utf8.decode?_encode, hbrace, if_true, Document.ofJson, hread,
      Option.bind_some, hnode, Document.check, hversion]
    rfl
  have hrouter : Router.ofPaths [("/pets", {})] = .ok petsRouter := by
    have hliteral : Route.isTemplated ⟨"/pets", {}⟩ = false := by decide +kernel
    simp [Router.ofPaths, Route.isUsable, hliteral, petsRouter]
  have hcontract (digest : List UInt8) :
      Contract.ofDocument { version, paths := [("/pets", {})] } digest =
        .ok { petsContract with version, digest } := by
    rw [Contract.ofDocument, hrouter]
    rfl
  rw [Contract.parse, hdocument]
  exact hcontract _

theorem parse_petsText : Contract.parse petsText = .ok petsContract := by
  have hwritten : petsText = Utf8.encode (petsJson "3").renderChars := by decide +kernel
  have hparse : Contract.parse (Utf8.encode (petsJson "3").renderChars) = _ :=
    parse_petsJson (by decide +kernel)
  rw [← hwritten] at hparse
  exact hparse

theorem load_petsText {store : Store} {now : Instant} (h : store.find? name = none) :
    store.load name petsText now =
      (.ok true, (store.roomFor name).bind name petsContract now) := by
  simp [load, isCurrent, bound?, h, parse_petsText, roomFor]

/-- Cats are asked for after dogs were loaded. -/
def petEvents : List Event :=
  [⟨1, .load "cats" petsText⟩, ⟨2, .load "dogs" petsText⟩, ⟨3, .get "cats"⟩]

/-- The store of cats and dogs. -/
def petStore : Store where
  limits := { maxApis := 2 }
  lastCleanup := 0
  instances := [
    { contract := petsContract, lastAccess := 3, hits := 1 },
    { contract := petsContract, lastAccess := 2 }]
  bound := [("dogs", 1), ("cats", 0)]

theorem run_petEvents : (empty { maxApis := 2 } 0).run petEvents = petStore := by
  simp only [run, petEvents, List.foldl_cons, List.foldl_nil, act]
  rw [@load_petsText "cats" _ 1 rfl]
  rw [@load_petsText "dogs" _ 2 (by rfl)]
  rfl

/-- Dogs make room for birds, since cats were asked for later. -/
theorem frees_least_recent_petEvents :
    let past := (empty { maxApis := 2 } 0).history petEvents
    let r : Record :=
      { time := 4, action := .load "birds" petsText,
        store := (empty { maxApis := 2 } 0).run petEvents }
    AccessesAscend past ∧ r.Creates "birds" ∧ r.store.find? "birds" = none ∧
      r.store.size = 2 ∧ ∀ name, r.Frees name ↔ name = "dogs" := by
  intro past r
  have hstore : r.store = petStore := run_petEvents
  have h : Reflects { maxApis := 2 } past r.store := reflects_run _ 0 petEvents
  have hascend : AccessesAscend past := by
    apply List.Pairwise.filter
    simp [past, history, petEvents]
  have hnew : r.store.find? "birds" = none := by
    rw [hstore]
    rfl
  have hload : r.Creates "birds" := ⟨petsText, rfl, by rw [load_petsText hnew]⟩
  have hsize : r.store.size = 2 := by
    rw [hstore]
    rfl
  refine ⟨hascend, hload, hnew, hsize, ?_⟩
  obtain ⟨-, -, hfull, -⟩ :=
    frees_least_recent { maxApis := 2 } 0 petEvents ⟨4, .load "birds" petsText⟩
  obtain ⟨victim, hvictim, hleast⟩ := hfull "birds" hload hnew hsize
  obtain ⟨handle, hbound, hbefore⟩ := hleast hascend
  have hmem : (victim, handle) ∈ petStore.bound :=
    hstore ▸ mem_of_lookup ((h.find?_iff victim handle).mpr hbound)
  have hdogs : Bound past "dogs" 1 := (h.find?_iff "dogs" 1).mp (hstore ▸ rfl)
  have hvictim' : victim = "dogs" := by
    by_contra hother
    obtain ⟨accessed, later, haccess, hlater, hless⟩ :=
      hbefore "dogs" 1 hdogs (Ne.symm hother)
    rw [h.latestAccess?_eq, hstore] at haccess hlater
    obtain ⟨-, rfl⟩ : victim = "cats" ∧ handle = 0 := by
      simpa [petStore, hother] using hmem
    obtain rfl : 3 = accessed := Option.some.inj haccess
    obtain rfl : 2 = later := Option.some.inj hlater
    exact absurd hless (by decide)
  intro name
  rw [hvictim name, hvictim']

end Store
end ApiContract
