import ApiContract.Contract.Judgement

/-!
# Instances: contracts in use

An instance is a contract with the record of its use: how often it was asked for, when
last, and how often each of its routes was found.
-/

namespace ApiContract

/-- A point in time, in nanoseconds. -/
abbrev Instant := Nat

/-- The nanoseconds of a number of seconds. -/
def nanoseconds (seconds : Nat) : Nat :=
  1000000000 * seconds

/-- A contract with the record of its use. -/
structure Instance where
  contract : Contract
  lastAccess : Instant
  /-- How often the contract was asked for.  The number has no bound; it stands for an atomic
  counter of 64 bits, which is back at zero after 2^64 counts. -/
  hits : Nat := 0
  routeHits : Hits := {}

namespace Instance

/-- Records that the contract was asked for. -/
def touch (i : Instance) (now : Instant) : Instance :=
  { i with hits := i.hits + 1, lastAccess := now }

/-- The declared route for a path, which is counted. -/
def resolve (i : Instance) (path : String) : Except Failure Route × Instance :=
  let found := i.contract.router.resolve path
  (found, { i with routeHits := i.routeHits.addFound found })

/-- Checks a path against the route with a text, which is counted. -/
def verify (i : Instance) (path text : String) : Except Failure Route × Instance :=
  let found := i.contract.router.verify path text
  (found, { i with routeHits := i.routeHits.addFound found })

/-- Judges a request. -/
def judge (i : Instance) (request : Request) (hint : Option String) :
    Except Failure Unit × Instance :=
  let (verdict, routeHits) := i.contract.judge request hint i.routeHits
  (verdict, { i with routeHits })

/-- How often each route was found, in the order of their texts. -/
def routeCounts (i : Instance) : List (String × Nat) :=
  i.contract.router.counts i.routeHits

end Instance
end ApiContract
