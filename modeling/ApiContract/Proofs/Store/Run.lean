import ApiContract.Guard.Basic
import ApiContract.Proofs.Contract.Judgement
import ApiContract.Proofs.Store.Names

/-!
# Runs of a store

A run is a list of events: actions on a store, or on an instance that was taken from it,
each at a time.  `history` records with each event the store that it meets, and a record
tells what can be seen from outside: what was loaded, which instance was returned, and
which route was found.  `Record.next_of_creates` and `Record.uses_next` say all that an
event can do.
-/

namespace ApiContract
namespace Store

/-- What is done with a store, or with an instance that was taken from it. -/
inductive Action where
  | load (name : String) (content : List UInt8)
  | loadFile (name path : String) (content : Option (List UInt8))
  | get (name : String)
  | evict (name : String)
  | evictAll
  /-- A cleanup as of any time. -/
  | cleanup (time : Instant)
  | maybeCleanup
  /-- A guard with this selector judges a request, perhaps by a chosen route. -/
  | judge (selector : Selector) (request : Request) (hint : Option String)
  /-- The holder of an instance looks for the route of a path. -/
  | resolve (handle : Handle) (path : String)
  /-- The holder of an instance checks a chosen route. -/
  | verify (handle : Handle) (path text : String)

/-- The content that an action loads under a name. -/
def Action.source? : Action → Option (String × List UInt8)
  | .load name content => some (name, content)
  | .loadFile name _ content => content.map fun content => (name, content)
  | _ => none

/-- The store after an action at a time. -/
def act (store : Store) (now : Instant) : Action → Store
  | .load name content => (store.load name content now).2
  | .loadFile name path content => (store.loadFile name path content now).2
  | .get name => (store.get name now).2
  | .evict name => (store.evict name).2
  | .evictAll => store.evictAll
  | .cleanup time => (store.cleanup time).2
  | .maybeCleanup => (store.maybeCleanup now).2
  | .judge selector request hint => (Guard.judge { store, selector } request hint now).2.store
  | .resolve handle path =>
      ((store.visit? handle fun i => i.resolve path).map (·.2)).getD store
  | .verify handle path text =>
      ((store.visit? handle fun i => i.verify path text).map (·.2)).getD store

/-- An action at a time. -/
structure Event where
  time : Instant
  action : Action

/-- The store after events. -/
def run (store : Store) (events : List Event) : Store :=
  events.foldl (fun store event => store.act event.time event.action) store

/-- The text of the route that an instance finds, with the number of the instance. -/
def foundBy? (store : Store) (handle : Handle) (find : Instance → Except Failure Route) :
    Option (Handle × String) :=
  (store.instance? handle).bind fun i =>
    (find i).toOption.map fun route => (handle, route.text)

/-- An event with the store that it meets. -/
structure Record extends Event where
  store : Store

/-- Events with the stores that they meet. -/
def history (store : Store) : List Event → List Record
  | [] => []
  | event :: events =>
      { event with store } :: history (store.act event.time event.action) events

namespace Record

variable (r : Record)

/-- The store after the event. -/
def next : Store :=
  r.store.act r.time r.action

/-- The name and the contract of the instance that the event creates, which it does if
it is a load that tells that something was loaded. -/
def creates? : Option (String × Contract) :=
  r.action.source?.bind fun source =>
    match (r.store.load source.1 source.2 r.time).1 with
    | .ok true => (Contract.parse source.2).toOption.map fun contract => (source.1, contract)
    | _ => none

/-- The instance that the store returns, to who asks for it or to a guard that judges a
request. -/
def returns? : Option Handle :=
  match r.action with
  | .get name => (r.store.get name r.time).1.toOption
  | .judge selector request _ => do
      let api ← selector.select request
      ((r.store.maybeCleanup r.time).2.get api r.time).1.toOption
  | _ => none

/-- The instance that finds a route, for its holder or for a guard that judges a request,
with the text of the route. -/
def finds? : Option (Handle × String) :=
  match r.action with
  | .resolve handle path => r.store.foundBy? handle fun i => (i.resolve path).1
  | .verify handle path text => r.store.foundBy? handle fun i => (i.verify path text).1
  | .judge _ request hint => do
      r.store.foundBy? (← r.returns?) fun i => i.contract.findRoute request.path hint
  | _ => none

/-- The store with the names freed that the event frees, other than to make room. -/
def kept : Store :=
  match r.action with
  | .evict name => r.store.remove name
  | .evictAll => r.store.evictAll
  | .cleanup asOf => (r.store.cleanup asOf).2
  | .maybeCleanup | .judge .. => (r.store.maybeCleanup r.time).2
  | _ => r.store

/-- What the event makes of an instance that there was before. -/
def change (handle : Handle) (i : Instance) : Instance where
  contract := i.contract
  hits := i.hits + if r.returns? = some handle then 1 else 0
  lastAccess := if r.returns? = some handle then r.time else i.lastAccess
  routeHits :=
    match r.finds? with
    | some (finder, text) => if finder = handle then i.routeHits.add text else i.routeHits
    | none => i.routeHits

end Record

/-! ## Runs that grow at the end -/

variable (store : Store) (events : List Event) (event : Event)

theorem run_append_singleton :
    store.run (events ++ [event]) = (store.run events).act event.time event.action := by
  simp [run]

theorem history_append_singleton :
    store.history (events ++ [event]) =
      store.history events ++ [{ event with store := store.run events }] := by
  induction events generalizing store with
  | nil => rfl
  | cons first events ih => simp [history, run, ih]

/-! ## Changing one instance -/

variable {store} {handle : Handle} {name : String} {content : List UInt8}
  {contract : Contract} {now : Instant}

/-- The store with one instance changed, if there is one with the number. -/
def amend (store : Store) (handle : Handle) (f : Instance → Instance) : Store :=
  { store with instances := store.instances.modify handle f }

theorem instance?_amend (store : Store) (changed handle : Handle) (f : Instance → Instance) :
    (store.amend changed f).instance? handle =
      (store.instance? handle).map fun i => if changed = handle then f i else i :=
  List.getElem?_modify f changed store.instances handle

theorem amend_amend (store : Store) (handle : Handle) (f g : Instance → Instance) :
    (store.amend handle f).amend handle g = store.amend handle (g ∘ f) := by
  rw [amend, amend, amend, List.modify_modify_eq]

/-- Whoever lets an instance answer changes that instance, if it exists. -/
theorem visit?_eq {α : Type} (store : Store) (handle : Handle)
    (f : Instance → α × Instance) :
    store.visit? handle f =
      (store.instance? handle).map fun i =>
        ((f i).1, store.amend handle fun i => (f i).2) := by
  cases hinstance : store.instance? handle with
  | none => simp [visit?, hinstance]
  | some i =>
      have hget : store.instances[handle]? = some i := hinstance
      simp [visit?, hinstance, amend, List.modify_eq_set_getElem?, hget]

theorem amend_eq_self {f : Instance → Instance}
    (h : ∀ i, store.instance? handle = some i → f i = i) : store.amend handle f = store := by
  have hsame : store.instances.modify handle f = store.instances := by
    apply List.ext_getElem?
    intro n
    rw [List.getElem?_modify]
    cases hinstance : store.instances[n]? with
    | none => rfl
    | some i =>
        by_cases hn : handle = n
        · subst hn
          simp [h i hinstance]
        · simp [hn]
  rw [amend, hsame]

theorem visit?_snd_eq {α : Type} (store : Store) (handle : Handle)
    (f : Instance → α × Instance) :
    ((store.visit? handle f).map (·.2)).getD store =
      store.amend handle fun i => (f i).2 := by
  rw [visit?_eq]
  cases hinstance : store.instance? handle with
  | none => exact (amend_eq_self (by simp [hinstance])).symm
  | some i => rfl

theorem foundBy?_of_instance? {find : Instance → Except Failure Route} {i : Instance}
    (h : store.instance? handle = some i) :
    store.foundBy? handle find =
      (find i).toOption.map fun route => (handle, route.text) := by
  rw [foundBy?, h, Option.bind_some]

theorem fst_eq_of_foundBy? {find : Instance → Except Failure Route}
    {found : Handle × String} (h : found ∈ store.foundBy? handle find) :
    found.1 = handle := by
  cases hinstance : store.instance? handle with
  | none => simp [foundBy?, hinstance] at h
  | some i =>
      rw [foundBy?_of_instance? hinstance] at h
      obtain ⟨route, -, rfl⟩ := Option.map_eq_some_iff.mp h
      rfl

theorem get_eq_of_bound (h : store.find? name = some handle) :
    store.get name now = (.ok handle, store.amend handle fun i => i.touch now) := by
  rw [get, h]
  rfl

theorem get_eq_of_unbound (h : store.find? name = none) :
    store.get name now = (.error (.contractNotFound name), store) := by
  rw [get, h]

/-- A judgement under a name asks for the instance that is bound to it and counts the
route. -/
theorem judgeBy_snd_eq (store : Store) (api : String) (request : Request)
    (hint : Option String) (now : Instant) :
    (Guard.judgeBy store api request hint now).2 =
      match store.find? api with
      | none => store
      | some handle => store.amend handle fun i =>
          { i.touch now with
            routeHits := i.routeHits.addFound (i.contract.findRoute request.path hint) } := by
  cases hfind : store.find? api with
  | none => rw [Guard.judgeBy, get_eq_of_unbound hfind]
  | some handle =>
      rw [Guard.judgeBy, get_eq_of_bound hfind]
      simp only [visit?_eq]
      cases hinstance : (store.amend handle fun i => i.touch now).instance? handle with
      | none =>
          have hnone : store.instance? handle = none := by
            simpa [instance?_amend] using hinstance
          have hsame (f : Instance → Instance) : store.amend handle f = store :=
            amend_eq_self (by simp [hnone])
          simp [hsame]
      | some i =>
          simp only [Option.map_some, Option.getD_some, amend_amend]
          congr 1
          funext i
          simp [Instance.judge, Contract.judge_eq, Instance.touch]

/-! ## Loading -/

/-- The store in which a name is bound that is loaded: a name that is not bound yet needs
room. -/
def roomFor (store : Store) (name : String) : Store :=
  if (store.find? name).isSome then store else store.trim (store.capacity - 1)

theorem narrows_roomFor (store : Store) (name : String) :
    store.Narrows (store.roomFor name) := by
  rw [roomFor]
  split
  · exact .refl store
  · exact store.narrows_trim _

/-- A load either creates an instance and tells so, or changes nothing. -/
theorem load_cases (store : Store) (name : String) (content : List UInt8)
    (now : Instant) :
    (∃ contract, Contract.parse content = .ok contract ∧
        store.load name content now =
          (.ok true, (store.roomFor name).bind name contract now)) ∨
      (store.load name content now).1 ≠ .ok true ∧
        (store.load name content now).2 = store := by
  rw [load]
  by_cases hcurrent : store.isCurrent name content = true
  · exact Or.inr (by simp [hcurrent])
  · cases hparse : Contract.parse content with
    | error failure => exact Or.inr (by simp [hcurrent])
    | ok contract => exact Or.inl ⟨contract, rfl, by simp [hcurrent, roomFor]⟩

theorem act_of_source? {action : Action} (h : action.source? = some (name, content)) :
    store.act now action = (store.load name content now).2 := by
  cases action with
  | load name' content' =>
      obtain ⟨rfl, rfl⟩ := Prod.mk.inj (Option.some.inj h)
      rfl
  | loadFile name' path content' =>
      cases content' with
      | none => cases h
      | some content' =>
          obtain ⟨rfl, rfl⟩ := Prod.mk.inj (Option.some.inj h)
          rfl
  | _ => cases h

namespace Record

variable {r : Record}

theorem returns?_eq_none_of_source? (h : r.action.source?.isSome) :
    r.returns? = none ∧ r.finds? = none := by
  cases haction : r.action <;>
    simp_all [Action.source?, returns?, finds?]

theorem creates?_of_loaded (hsource : r.action.source? = some (name, content))
    (hparse : Contract.parse content = .ok contract)
    (hload : (r.store.load name content r.time).1 = .ok true) :
    r.creates? = some (name, contract) := by
  simp [creates?, hsource, hload, hparse, Except.toOption]

theorem creates?_eq_none_of_source? (hsource : r.action.source? = some (name, content))
    (hload : (r.store.load name content r.time).1 ≠ .ok true) : r.creates? = none := by
  rw [creates?, hsource, Option.bind_some]
  split
  · contradiction
  · rfl

/-- An event that creates an instance binds it where there is room, and neither returns
an instance nor finds a route. -/
theorem next_of_creates (h : r.creates? = some (name, contract)) :
    r.returns? = none ∧ r.finds? = none ∧
      r.next = (r.store.roomFor name).bind name contract r.time := by
  obtain ⟨⟨name', content⟩, hsource, -⟩ := Option.bind_eq_some_iff.mp h
  obtain ⟨hreturns, hfinds⟩ := returns?_eq_none_of_source? (by rw [hsource]; rfl)
  refine ⟨hreturns, hfinds, ?_⟩
  rcases r.store.load_cases name' content r.time with ⟨found, hparse, hload⟩ | ⟨hload, -⟩
  · have hcreates := creates?_of_loaded hsource hparse (by rw [hload])
    obtain ⟨rfl, rfl⟩ := Prod.mk.inj (Option.some.inj (hcreates.symm.trans h))
    rw [next, act_of_source? hsource, hload]
  · cases h.symm.trans (creates?_eq_none_of_source? hsource hload)

/-- A load that creates nothing changes nothing. -/
theorem next_of_unloaded_source (hsource : r.action.source? = some (name, content))
    (h : r.creates? = none) : r.next = r.store := by
  rw [next, act_of_source? hsource]
  rcases r.store.load_cases name content r.time with ⟨contract, hparse, hload⟩ | ⟨-, hload⟩
  · cases h.symm.trans (creates?_of_loaded hsource hparse (by rw [hload]))
  · exact hload

/-- An event that returns nothing and finds nothing changes no instance. -/
theorem change_eq_id (hreturns : r.returns? = none) (hfinds : r.finds? = none)
    (handle : Handle) : r.change handle = id := by
  funext i
  simp [change, hreturns, hfinds]

theorem narrows_kept (r : Record) : r.store.Narrows r.kept := by
  rw [kept]
  split
  · exact r.store.narrows_remove _
  · exact ⟨rfl, rfl, List.nil_sublist _⟩
  · exact r.store.narrows_cleanup _
  · exact r.store.narrows_maybeCleanup _
  · exact r.store.narrows_maybeCleanup _
  · exact .refl r.store

/-- What an event without creation does: it frees names, and changes the instances that
it returns or that find a route. -/
structure Uses (r : Record) (next : Store) : Prop where
  limits_eq : next.limits = r.store.limits
  bound_eq : next.bound = r.kept.bound
  instances_eq : next.instances = r.store.instances.mapIdx r.change

theorem Uses.sublist {next : Store} (h : r.Uses next) :
    next.bound.Sublist r.store.bound := by
  rw [h.bound_eq]
  exact r.narrows_kept.sublist

/-- No contract changes. -/
theorem Uses.contracts_eq {next : Store} (h : r.Uses next) :
    next.instances.map (·.contract) = r.store.instances.map (·.contract) := by
  rw [h.instances_eq]
  apply List.ext_getElem?
  intro handle
  rw [List.getElem?_map, List.getElem?_map, List.getElem?_mapIdx, Option.map_map]
  rfl

theorem uses_kept (hreturns : r.returns? = none) (hfinds : r.finds? = none) :
    r.Uses r.kept := by
  refine ⟨r.narrows_kept.limits_eq, rfl, r.narrows_kept.instances_eq.trans ?_⟩
  apply List.ext_getElem?
  intro handle
  rw [List.getElem?_mapIdx, change_eq_id hreturns hfinds, Option.map_id, id]

/-- An event leaves the instances alone that it neither returns nor lets find a route. -/
theorem change_of_ne {changed : Handle} (hreturns : ∀ h ∈ r.returns?, h = changed)
    (hfinds : ∀ found ∈ r.finds?, found.1 = changed) (hne : handle ≠ changed)
    (i : Instance) : r.change handle i = i := by
  have hreturned : r.returns? ≠ some handle := fun h => hne (hreturns handle h)
  cases hfound : r.finds? with
  | none => simp [change, hreturned, hfound]
  | some found =>
      have hfinder : found.1 ≠ handle := hfinds found hfound ▸ hne.symm
      simp [change, hreturned, hfound, hfinder]

/-- An instance counts the route that it finds. -/
theorem change_of_found {find : Instance → Except Failure Route} {i : Instance}
    (hfinds : r.finds? = r.store.foundBy? handle find)
    (hinstance : r.store.instance? handle = some i) :
    r.change handle i =
      { if r.returns? = some handle then i.touch r.time else i with
        routeHits := i.routeHits.addFound (find i) } := by
  rw [foundBy?_of_instance? hinstance] at hfinds
  by_cases hreturns : r.returns? = some handle
  · cases hfound : find i <;>
      simp [change, hreturns, hfinds, hfound, Except.toOption, Hits.addFound, Instance.touch]
  · cases hfound : find i <;>
      simp [change, hreturns, hfinds, hfound, Except.toOption, Hits.addFound]

/-- An event frees names and changes one instance. -/
theorem uses_amend_kept {changed : Handle} {f : Instance → Instance}
    (hreturns : ∀ h ∈ r.returns?, h = changed)
    (hfinds : ∀ found ∈ r.finds?, found.1 = changed)
    (hchange : ∀ i, r.store.instance? changed = some i → f i = r.change changed i) :
    r.Uses (r.kept.amend changed f) := by
  refine ⟨r.narrows_kept.limits_eq, rfl, ?_⟩
  apply List.ext_getElem?
  intro handle
  have hamended := instance?_amend r.kept changed handle f
  rw [r.narrows_kept.instance?_eq] at hamended
  refine hamended.trans ?_
  rw [List.getElem?_mapIdx]
  apply Option.map_congr
  intro i hi
  by_cases hsame : changed = handle
  · subst hsame
    rw [if_pos rfl, hchange i hi]
  · rw [if_neg hsame, change_of_ne hreturns hfinds (Ne.symm hsame)]

/-- The holder of an instance lets it find a route. -/
theorem uses_of_visit {find : Instance → Except Failure Route × Instance}
    (hkept : r.kept = r.store) (hreturns : r.returns? = none)
    (hfinds : r.finds? = r.store.foundBy? handle fun i => (find i).1)
    (hfind : ∀ i, (find i).2 = { i with routeHits := i.routeHits.addFound (find i).1 }) :
    r.Uses (((r.store.visit? handle find).map (·.2)).getD r.store) := by
  rw [visit?_snd_eq, ← hkept]
  refine uses_amend_kept (by simp [hreturns]) ?_ ?_
  · intro found hfound
    exact fst_eq_of_foundBy? (hfinds ▸ hfound)
  · intro i hinstance
    rw [change_of_found hfinds hinstance, hreturns, if_neg (by simp), hfind]

/-- A guard lets the selected instance judge a request. -/
theorem uses_of_judgeBy {selector : Selector} {request : Request} {hint : Option String}
    {api : String} (haction : r.action = .judge selector request hint)
    (hselect : selector.select request = some api) :
    r.Uses (Guard.judgeBy r.kept api request hint r.time).2 := by
  have hkept : r.kept = (r.store.maybeCleanup r.time).2 := by rw [kept, haction]
  have hreturns : r.returns? = (r.kept.get api r.time).1.toOption := by
    simp only [returns?, haction, hselect, hkept, Option.bind_eq_bind, Option.bind_some]
  have hfinds : r.finds? = r.returns?.bind fun handle =>
      r.store.foundBy? handle fun i => i.contract.findRoute request.path hint := by
    rw [finds?, haction]
    rfl
  rw [judgeBy_snd_eq]
  cases hfind : r.kept.find? api with
  | none =>
      rw [get_eq_of_unbound hfind] at hreturns
      exact uses_kept hreturns (by rw [hfinds, hreturns]; rfl)
  | some handle =>
      have hreturned : r.returns? = some handle := by
        rw [hreturns, get_eq_of_bound hfind]
        rfl
      rw [hreturned] at hfinds
      refine uses_amend_kept (by simp [hreturned]) ?_ ?_
      · intro found hfound
        exact fst_eq_of_foundBy? (hfinds ▸ hfound)
      · intro i hinstance
        rw [change_of_found hfinds hinstance, if_pos hreturned]

/-- An event that creates no instance uses those that there are. -/
theorem uses_next (h : r.creates? = none) : r.Uses r.next := by
  obtain ⟨⟨time, action⟩, store⟩ := r
  -- Only asking, judging and holding change an instance; the others free names at most.
  cases action with
  | load name content =>
      rw [next_of_unloaded_source rfl h]
      exact uses_kept rfl rfl
  | loadFile name path content =>
      cases content with
      | none => exact uses_kept rfl rfl
      | some content =>
          rw [next_of_unloaded_source rfl h]
          exact uses_kept rfl rfl
  | get name =>
      cases hfind : store.find? name with
      | none =>
          have hget := @get_eq_of_unbound store name time hfind
          have hnext : next ⟨⟨time, .get name⟩, store⟩ = store := congrArg Prod.snd hget
          rw [hnext]
          exact uses_kept (by simp [returns?, hget, Except.toOption]) rfl
      | some handle =>
          have hget := @get_eq_of_bound store handle name time hfind
          have hnext : next ⟨⟨time, .get name⟩, store⟩ =
              store.amend handle fun i => i.touch time := congrArg Prod.snd hget
          have hreturns : returns? ⟨⟨time, .get name⟩, store⟩ = some handle := by
            simp [returns?, hget, Except.toOption]
          rw [hnext]
          refine uses_amend_kept (by simp [hreturns]) (by simp [finds?]) ?_
          intro i _
          simp [change, hreturns, finds?, Instance.touch]
  | evict name => exact uses_kept rfl rfl
  | evictAll => exact uses_kept rfl rfl
  | cleanup asOf => exact uses_kept rfl rfl
  | maybeCleanup => exact uses_kept rfl rfl
  | judge selector request hint =>
      cases hselect : selector.select request with
      | none =>
          have hnext : next ⟨⟨time, .judge selector request hint⟩, store⟩ =
              (store.maybeCleanup time).2 := by
            simp only [next, act, Guard.judge, hselect]
          have hreturns : returns? ⟨⟨time, .judge selector request hint⟩, store⟩ = none := by
            simp [returns?, hselect]
          rw [hnext]
          exact uses_kept hreturns (by simp [finds?, hreturns])
      | some api =>
          have hnext : next ⟨⟨time, .judge selector request hint⟩, store⟩ =
              (Guard.judgeBy (store.maybeCleanup time).2 api request hint time).2 := by
            simp only [next, act, Guard.judge, hselect]
          rw [hnext]
          exact uses_of_judgeBy rfl hselect
  | resolve handle path =>
      exact @uses_of_visit handle _ (fun i => i.resolve path) rfl rfl rfl fun _ => rfl
  | verify handle path text =>
      exact @uses_of_visit handle _ (fun i => i.verify path text) rfl rfl rfl fun _ => rfl

end Record

end Store
end ApiContract
