import ApiContract.Failure
import ApiContract.Route.Basic

/-!
# Finding the route of a path

`Router.resolve` finds the declared route for a path: the route spelled like the path,
or else the first template that accepts it.  `Router.verify` checks a path against a
route that has been chosen before.
-/

namespace ApiContract

/-- The routes of a document. -/
structure Router where
  routes : List Route
  /-- The templates, in the order in which they are tried. -/
  templated : List Route

namespace Router

/-- The router of declared paths; `none` if a template is too large to be used. -/
def ofPaths (paths : List (String × PathItem)) : Except Failure Router :=
  let routes := paths.map fun p => (⟨p.1, p.2⟩ : Route)
  if routes.all Route.isUsable then
    .ok ⟨routes, (routes.filter Route.isTemplated).mergeSort Route.precedes⟩
  else .error (.malformedText .pathTemplate)

/-- The route with a text. -/
def find? (router : Router) (text : String) : Option Route :=
  router.routes.find? (·.text == text)

/-- The declared route for a path. -/
def resolve (router : Router) (path : String) : Except Failure Route :=
  match router.find? path with
  | some route => .ok route
  | none =>
      match router.templated.find? (·.accepts path) with
      | some route => .ok route
      | none => .error (.routeNotFound path)

/-- Checks a path against the route with a text. -/
def verify (router : Router) (path text : String) : Except Failure Route :=
  match router.find? text with
  | none => .error (.pathNotFound text)
  | some route =>
      if path = text then .ok route
      else if (router.find? path).isSome then .error (.pathCollision path text)
      else if route.accepts path then .ok route
      else .error (.routeMismatch path text)

end Router
end ApiContract
