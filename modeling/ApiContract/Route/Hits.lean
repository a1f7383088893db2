import ApiContract.Route.Router

/-!
# Counting found routes

`Hits` counts by name, and `Router.counts` gives the count of every route of a router in
the order of their texts.
-/

namespace ApiContract

/-- How often each name has been counted, where it has been at all.  The numbers have no bound;
they stand for atomic counters of 64 bits, which are back at zero after 2^64 counts. -/
structure Hits where
  counts : List (String × Nat) := []
  deriving DecidableEq

namespace Hits

/-- How often a name has been counted. -/
def of (hits : Hits) (name : String) : Nat :=
  (hits.counts.lookup name).getD 0

/-- Counts a name once more. -/
def add (hits : Hits) (name : String) : Hits :=
  ⟨(name, hits.of name + 1) :: hits.counts.filter fun c => c.1 ≠ name⟩

/-- Counts the route that was found, if there is one. -/
def addFound (hits : Hits) (found : Except Failure Route) : Hits :=
  match found with
  | .ok route => hits.add route.text
  | .error _ => hits

end Hits

/-- How often each route has been counted, in the order of their texts. -/
def Router.counts (router : Router) (hits : Hits) : List (String × Nat) :=
  (router.routes.map fun route => (route.text, hits.of route.text)).mergeSort fun a b =>
    a.1 ≤ b.1

end ApiContract
