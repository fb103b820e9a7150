import RouteLoom.Format.Node
import RouteLoom.Route.Basic
import RouteLoom.Route.InsertionPoints

/-!
# The written form of routes, addresses and insertion points

An address is the array of its indices, and insertion points are the array of their addresses from
the bottom up.
-/

namespace RouteLoom

def Address.toJson (a : Address) : Json := .array (a.map .natural)

def Address.binder : Binder Address := Binder.list Binder.count

def InsertionPoints.toJson (p : InsertionPoints) : Json := .array (p.bottomUp.map Address.toJson)

def InsertionPoints.binder : Binder InsertionPoints := fun p d =>
  InsertionPoints.ofBottomUp <$> Binder.list Address.binder p d

def Route.toJson (r : Route) : Json :=
  .object [("id", .text r.id), ("outputs", Forest.toJson r.outputs)]

def Route.binder : Binder Route :=
  Record.binder "struct RouteDefinition"
    (Route.mk <$> .optional "id" "" Binder.text <*> .optional "outputs" [] Forest.binder)

end RouteLoom
