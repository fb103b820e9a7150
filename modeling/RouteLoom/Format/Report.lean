import RouteLoom.Format.Route
import RouteLoom.Weaving.Report

/-!
# The written form of reports

A layer without a marker says so by `null`. When a layer is bound, its marker may be missing as a
member, but not as an item.
-/

namespace RouteLoom

def Layer.toJson (l : Layer) : Json :=
  .object [("intercept", .text l.intercept), ("proceed", Json.ofOption Address.toJson l.marker),
    ("wrapped", .natural l.wrapped), ("dropped", .natural l.dropped)]

def Layer.binder : Binder Layer :=
  Record.binder "struct LayerReport"
    (Layer.mk <$> .required "intercept" Binder.text
      <*> .field "proceed" (Binder.optional Address.binder) (some none) none
      <*> .required "wrapped" Binder.count
      <*> .required "dropped" Binder.count)

def Report.members (r : Report) : List (String × Json) :=
  [("route_id", .text r.route), ("exception_handlers", .natural r.clauses),
    ("layers", .array (r.layers.map Layer.toJson)), ("blocks", r.points.toJson)]

def Report.toJson (r : Report) : Json := .object r.members

def Report.binder : Binder Report :=
  Record.binder "struct WeaveReport"
    (Report.mk <$> .required "route_id" Binder.text
      <*> .required "exception_handlers" Binder.count
      <*> .required "layers" (Binder.list Layer.binder)
      <*> .required "blocks" InsertionPoints.binder)

end RouteLoom
