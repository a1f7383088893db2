import ApiContract.Store.Instance

/-!
# The store of contracts

A store binds names to instances.  Instances are numbered as they are loaded, and the
table of them only grows: a number that was given out stays valid when its name is bound
to another instance or to none.  At most `Store.capacity` names are bound; the least
recently accessed ones make room for new ones.
-/

namespace ApiContract

/-- The limits of a store. -/
structure StoreLimits where
  /-- How many names are bound at once; one at least. -/
  maxApis : Nat := 100
  /-- The idle time after which an instance expires. -/
  expirySeconds : Nat := 259200
  /-- The time between two cleanups. -/
  cleanupSeconds : Nat := 3600
  deriving DecidableEq

/-- The number of an instance. -/
abbrev Handle := Nat

/-- Named contracts with the record of their use. -/
structure Store where
  limits : StoreLimits
  lastCleanup : Instant
  /-- All instances that were ever loaded, by number. -/
  instances : List Instance := []
  /-- The names in use with the numbers of their instances. -/
  bound : List (String × Handle) := []

namespace Store

/-- The store without contracts. -/
def empty (limits : StoreLimits) (now : Instant) : Store :=
  { limits, lastCleanup := now }

/-! ## Looking things up -/

/-- The number that is bound to a name. -/
def find? (store : Store) (name : String) : Option Handle :=
  store.bound.lookup name

/-- The instance with a number. -/
def instance? (store : Store) (handle : Handle) : Option Instance :=
  store.instances[handle]?

/-- The instance that is bound to a name. -/
def bound? (store : Store) (name : String) : Option Instance :=
  (store.find? name).bind store.instance?

/-- How many names are bound. -/
def size (store : Store) : Nat :=
  store.bound.length

/-- The bound names in order. -/
def names (store : Store) : List String :=
  (store.bound.map (·.1)).mergeSort fun a b => a ≤ b

/-- How many names may be bound. -/
def capacity (store : Store) : Nat :=
  max store.limits.maxApis 1

/-- The last access of an instance. -/
def lastAccess (store : Store) (handle : Handle) : Instant :=
  ((store.instance? handle).map (·.lastAccess)).getD 0

/-- The name whose instance was not accessed for the longest time. -/
def leastRecent? (store : Store) : Option String :=
  (store.bound.minOn? fun b => store.lastAccess b.2).map (·.1)

/-- The bound instances in the order of their names. -/
def snapshot (store : Store) : List (String × Instance) :=
  store.names.filterMap fun name => (store.bound? name).map fun i => (name, i)

/-! ## Changing instances -/

/-- Lets an instance answer and change. -/
def visit? {α : Type} (store : Store) (handle : Handle) (f : Instance → α × Instance) :
    Option (α × Store) :=
  (store.instance? handle).map fun i =>
    let (answer, i) := f i
    (answer, { store with instances := store.instances.set handle i })

/-- The instance bound to a name, which is recorded as accessed. -/
def get (store : Store) (name : String) (now : Instant) : Except Failure Handle × Store :=
  match store.find? name with
  | none => (.error (.contractNotFound name), store)
  | some handle =>
      (.ok handle,
        { store with instances := store.instances.modify handle fun i => i.touch now })

/-! ## Removing names -/

/-- Frees a name. -/
def remove (store : Store) (name : String) : Store :=
  { store with bound := store.bound.filter fun b => b.1 ≠ name }

/-- Frees a name; tells whether it was bound. -/
def evict (store : Store) (name : String) : Bool × Store :=
  ((store.find? name).isSome, store.remove name)

/-- Frees all names. -/
def evictAll (store : Store) : Store :=
  { store with bound := [] }

/-- Frees the names of the `n` least recently accessed instances. -/
def removeLeast (store : Store) : (n : Nat) → Store
  | 0 => store
  | n + 1 =>
      match store.leastRecent? with
      | none => store
      | some name => (store.remove name).removeLeast n

/-- Frees the names of the least recently accessed instances until at most `keep` are
bound. -/
def trim (store : Store) (keep : Nat) : Store :=
  store.removeLeast (store.size - keep)

/-! ## Loading -/

/-- Binds a name to a new instance of a contract. -/
def bind (store : Store) (name : String) (contract : Contract) (now : Instant) : Store :=
  { store with
    instances := store.instances ++ [{ contract, lastAccess := now }]
    bound := (name, store.instances.length) :: (store.remove name).bound }

/-- Whether a name is bound to a contract with this content. -/
def isCurrent (store : Store) (name : String) (content : List UInt8) : Bool :=
  (store.bound? name).any fun i => i.contract.digest = Sha256.digest content

/-- Loads a contract under a name; tells whether anything was loaded, which is not so if
the name is bound to the same content.  A name that is not bound yet takes the place of
the least recently accessed one when the store is full. -/
def load (store : Store) (name : String) (content : List UInt8) (now : Instant) :
    Except Failure Bool × Store :=
  if store.isCurrent name content then (.ok false, store)
  else
    match Contract.parse content with
    | .error failure => (.error failure, store)
    | .ok contract =>
        let room :=
          if (store.find? name).isSome then store else store.trim (store.capacity - 1)
        (.ok true, room.bind name contract now)

/-- Loads a contract from a file, of which `content` is what could be read. -/
def loadFile (store : Store) (name path : String) (content : Option (List UInt8))
    (now : Instant) : Except Failure Bool × Store :=
  match content with
  | none => (.error (.unreadableFile path), store)
  | some content => store.load name content now

/-! ## Cleaning up -/

/-- Whether an instance was idle for longer than the store allows. -/
def isExpired (store : Store) (now : Instant) (handle : Handle) : Bool :=
  nanoseconds store.limits.expirySeconds < now - store.lastAccess handle

/-- Frees the names of expired instances. -/
def sweep (store : Store) (now : Instant) : Store :=
  { store with bound := store.bound.filter fun b => !store.isExpired now b.2 }

/-- Frees the names of expired instances and those beyond the capacity; tells how many
they were. -/
def cleanup (store : Store) (now : Instant) : Nat × Store :=
  let kept := (store.sweep now).trim store.capacity
  (store.size - kept.size, { kept with lastCleanup := now })

/-- Cleans up if it is time to. -/
def maybeCleanup (store : Store) (now : Instant) : Nat × Store :=
  if nanoseconds store.limits.cleanupSeconds ≤ now - store.lastCleanup then store.cleanup now
  else (0, store)

end Store
end ApiContract
