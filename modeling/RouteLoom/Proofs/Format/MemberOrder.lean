import RouteLoom.Format.Event
import RouteLoom.Format.Report
import RouteLoom.Proofs.Format.Context
import RouteLoom.Proofs.Format.NodeOrder
import RouteLoom.Proofs.Json.Layout

/-!
# The order of members does not matter

The members of an object may come in any order, and a record or a node may have members that mean
nothing to it. Each format has its shape, which names the members that do mean something. The beans of
a context are a table, which is the same in whatever order its entries are written.
-/

namespace RouteLoom

open Binder Record

variable {p : Place}

/-! ### Beans -/

namespace Bindings

variable {name value : String} {entries entries' : List (String × String)}

theorem insertEntry_perm (new : name ∉ entries.map Prod.fst) :
    (insertEntry name value entries).Perm ((name, value) :: entries) := by
  induction entries with
  | nil => rfl
  | cons e rest ih =>
    obtain ⟨n, v⟩ := e
    obtain ⟨differs, others⟩ := not_or.mp (mt List.mem_cons.mpr new)
    rw [insertEntry]
    split
    · rfl
    · exact ((ih others).cons (n, v)).trans (.swap (name, value) (n, v) rest)

theorem entries_foldl_perm {b : Bindings} (nodup : ((b.entries ++ entries).map Prod.fst).Nodup) :
    (entries.foldl (fun b (name, value) => b.insert name value) b).entries.Perm
      (b.entries ++ entries) := by
  induction entries generalizing b with
  | nil => rw [List.foldl_nil, List.append_nil]
  | cons e rest ih =>
    obtain ⟨name, value⟩ := e
    have new : name ∉ b.entries.map Prod.fst := fun found => by
      rw [List.map_append, List.nodup_append] at nodup
      exact nodup.2.2 name found name (List.mem_map_of_mem List.mem_cons_self) rfl
    have added :
        ((b.insert name value).entries ++ rest).Perm (b.entries ++ (name, value) :: rest) :=
      ((insertEntry_perm new).append_right rest).trans List.perm_middle.symm
    exact (ih ((added.map Prod.fst).nodup_iff.mpr nodup)).trans added

theorem ofList_of_perm (nodup : (entries.map Prod.fst).Nodup) (perm : entries'.Perm entries) :
    ofList entries' = ofList entries := by
  have nodup' := (perm.map Prod.fst).nodup_iff.mpr nodup
  have same : (ofList entries').entries.Perm (ofList entries).entries :=
    ((entries_foldl_perm (b := empty) nodup').trans perm).trans
      (entries_foldl_perm (b := empty) nodup).symm
  have asymm (e e' : String × String) (before : e.1 < e'.1) (behind : e'.1 < e.1) : e = e' :=
    absurd behind (String.lt_asymm before)
  exact eq_of_entries (List.Perm.eq_of_pairwise (fun e e' _ _ => asymm e e')
    (ofList entries').sorted (ofList entries).sorted same)

theorem member_eq_ok {m : Draft × Draft} {e : String × String} (bound : member p m = .ok e) :
    m.1.text? = some e.1 ∧ m.2.isWord = true := by
  obtain ⟨name, key, bound⟩ := bind_eq_ok_iff.mp bound
  obtain ⟨value, text, same⟩ := bind_eq_ok_iff.mp bound
  cases same
  exact ⟨by rw [Binder.key_eq_ok_iff.mp key]; rfl, isWord_of_text text⟩

theorem steady_binder (p : Place) : Bindings.binder.Steady .plain p := by
  intro d d' b rearranged bound
  cases rearranged with
  | same => exact bound
  | array => cases refuse_ne_ok bound
  | @object _ _ ms ms' kept added distinct before each ignored after =>
    obtain ⟨q, opened, bound⟩ := bind_eq_ok_iff.mp bound
    obtain ⟨entries, mapped, rfl⟩ := map_eq_ok_iff.mp bound
    obtain ⟨found, rfl⟩ := mapM_eq_ok_iff.mp mapped
    have reordered : Reordered Shape.plain.member (Shape.plain.Ignores ms) (p.levels - 1) kept added
        ms ms' := ⟨before, each, ignored, after⟩
    have perm : ms'.Perm ms := reordered.perm_of_words (fun _ => id) fun m hm => by
      obtain ⟨e, he⟩ := found m hm
      exact (member_eq_ok he).2
    have names : (ms.filterMap fun m => (member q m).toOption).map Prod.fst =
        ms.filterMap fun m => m.1.text? := by
      rw [List.map_filterMap]
      refine List.filterMap_congr fun m hm => ?_
      obtain ⟨e, he⟩ := found m hm
      rw [he, (member_eq_ok he).1]
      rfl
    refine bind_eq_ok_iff.mpr ⟨q, opened, map_eq_ok_iff.mpr ⟨_, mapM_eq_ok_iff.mpr
      ⟨fun m hm => found m (perm.mem_iff.mp hm), rfl⟩, ?_⟩⟩
    exact ofList_of_perm (names ▸ distinct) (perm.filterMap _)

end Bindings

/-! ### Routes, intercepts and clauses -/

def Route.shape : Shape := .record [("id", .plain), ("outputs", .list .node)]

theorem Route.steady_binder (p : Place) : Route.binder.Steady Route.shape p := by
  refine Steady.binder (fun inner _ => ?_) (by simp)
  exact ((steady_optional steady_text "id" "").map Route.mk).seq
    (steady_optional (Forest.steady_binder _) "outputs" [])

def Requirement.shape : Shape := .record [("var", .plain), ("bean", .plain), ("type", .plain)]

theorem Requirement.steady_binder (p : Place) : Requirement.binder.Steady Requirement.shape p := by
  refine Steady.binder (fun inner _ => ?_) (by simp)
  exact (((steady_required steady_text "var").map Requirement.mk).seq
    (steady_optional steady_text.optional "bean" none)).seq
    (steady_optional steady_text.optional "type" none)

def Intercept.shape : Shape :=
  .record [("id", .plain), ("requires", .list Requirement.shape), ("outputs", .list .node)]

theorem Intercept.steady_binder (p : Place) : Intercept.binder.Steady Intercept.shape p := by
  refine Steady.binder (fun inner _ => ?_) (by simp)
  exact (((steady_required steady_text "id").map fun id requirements template =>
    Intercept.mk id requirements template .empty).seq
    (steady_optional (steady_list Requirement.steady_binder) "requires" [])).seq
    (steady_optional (Forest.steady_binder _) "outputs" [])

def Clause.shape : Shape :=
  .record [("exceptions", .plain), ("handled", .plain), ("outputs", .list .node)]

theorem Clause.steady_binder (p : Place) : Clause.binder.Steady Clause.shape p := by
  refine Steady.binder (fun inner _ => ?_) (by simp)
  exact (((steady_required steady_texts "exceptions").map Clause.mk).seq
    (steady_optional steady_boolean "handled" false)).seq
    (steady_optional (Forest.steady_binder _) "outputs" [])

/-! ### Contexts -/

def Options.shape : Shape := .record [("missing_proceed", .plain)]

theorem Options.steady_binder (p : Place) : Options.binder.Steady Options.shape p := by
  refine Steady.binder (fun inner _ => ?_) (by simp)
  exact (steady_optional (steady_plainVariant _) "missing_proceed" .reject).map Options.mk

def Context.shape : Shape :=
  .record [("id", .plain), ("beans", .plain), ("on_exception", .list Clause.shape),
    ("intercepts", .list Intercept.shape), ("routes", .list Route.shape),
    ("options", Options.shape), ("trace", .plain), ("delay", .plain), ("error_handler", .plain)]

theorem Context.steady_binder (p : Place) : Context.binder.Steady Context.shape p := by
  refine Steady.binder (fun inner _ => ?_) (by simp)
  have delay : delayBinder.Steady .plain ⟨p.medium, inner⟩ := (steady_natural "u64").optional
  exact (((((((((steady_optional steady_text "id" Context.standard.id).map Context.mk).seq
    (steady_optional (Bindings.steady_binder _) "beans" .empty)).seq
    (steady_optional (steady_list Clause.steady_binder) "on_exception" [])).seq
    (steady_optional (steady_list Intercept.steady_binder) "intercepts" [])).seq
    (steady_optional (steady_list Route.steady_binder) "routes" [])).seq
    (steady_optional (Options.steady_binder _) "options" .standard)).seq
    (steady_optional steady_boolean.optional "trace" none)).seq
    (steady_optional delay "delay" none)).seq
    (steady_optional steady_text.optional "error_handler" none)

/-! ### Reports and events -/

theorem steady_count : Binder.count.Steady .plain p := steady_natural "usize"

theorem Address.steady_binder (p : Place) : Address.binder.Steady .plain p :=
  Binder.Steady.list fun _ _ _ => steady_count

theorem InsertionPoints.steady_binder (p : Place) : InsertionPoints.binder.Steady .plain p := by
  have addresses : (Binder.list Address.binder).Steady .plain p :=
    Binder.Steady.list fun _ _ _ => Address.steady_binder _
  exact addresses.map InsertionPoints.ofBottomUp

def Layer.shape : Shape :=
  .record [("intercept", .plain), ("proceed", .plain), ("wrapped", .plain), ("dropped", .plain)]

theorem Layer.steady_binder (p : Place) : Layer.binder.Steady Layer.shape p := by
  refine Steady.binder (fun inner _ => ?_) (by simp)
  exact ((((steady_required steady_text "intercept").map Layer.mk).seq
    (steady_field (Address.steady_binder _).optional "proceed" (some none) none)).seq
    (steady_required steady_count "wrapped")).seq (steady_required steady_count "dropped")

def Report.shape : Shape :=
  .record [("route_id", .plain), ("exception_handlers", .plain), ("layers", .list Layer.shape),
    ("blocks", .plain)]

theorem Report.steady_binder (p : Place) : Report.binder.Steady Report.shape p := by
  refine Steady.binder (fun inner _ => ?_) (by simp)
  exact ((((steady_required steady_text "route_id").map Report.mk).seq
    (steady_required steady_count "exception_handlers")).seq
    (steady_required (steady_list Layer.steady_binder) "layers")).seq
    (steady_required (InsertionPoints.steady_binder _) "blocks")

namespace Event

/-- A variant whose parts are words. -/
def partsShape (variant : String) (names : List String) : String × Shape :=
  (variant, .record (names.map fun name => (name, .plain)))

def shape : Shape :=
  .variant
    [partsShape "AssemblyStarted" ["context_id", "route_count", "intercept_count"],
      partsShape "InterceptApplied" ["route_id", "intercept_id", "wrapped"],
      partsShape "OutputsDropped" ["route_id", "intercept_id", "count"],
      partsShape "RouteWoven" ["route_id", "exception_handlers", "layers"],
      partsShape "AssemblyFailed" ["route_id", "error"],
      partsShape "AssemblyCompleted" ["context_id", "route_count"]]

theorem steady_partsBinder {variant : String} {r : Record Event} {names : List String}
    (steady : ∀ q, r.Steady (names.map fun name => (name, .plain)) q) (nodup : names.Nodup) :
    (partsBinder variant r).1 = (partsShape variant names).1 ∧
      (partsBinder variant r).2.Steady (partsShape variant names).2 p := by
  refine ⟨rfl, Steady.binder (fun _ _ => steady _) ?_⟩
  rwa [List.map_map, show Prod.fst ∘ (fun name : String => (name, Shape.plain)) = id from rfl,
    List.map_id]

theorem steady_binder (p : Place) : Event.binder.Steady Event.shape p := by
  have text (q : Place) (name : String) :
      (Record.required name Binder.text).Steady [(name, .plain)] q :=
    steady_required steady_text name
  have count (q : Place) (name : String) :
      (Record.required name Binder.count).Steady [(name, .plain)] q :=
    steady_required steady_count name
  refine steady_partsVariant fun inner _ => ?_
  refine .cons ?started <| .cons ?applied <| .cons ?dropped <| .cons ?woven <| .cons ?failed <|
    .cons ?completed .nil
  case started =>
    exact steady_partsBinder (fun q => (((text q "context_id").map started).seq
      (count q "route_count")).seq (count q "intercept_count")) (by simp)
  case applied =>
    exact steady_partsBinder (fun q => (((text q "route_id").map applied).seq
      (text q "intercept_id")).seq (count q "wrapped")) (by simp)
  case dropped =>
    exact steady_partsBinder (fun q => (((text q "route_id").map dropped).seq
      (text q "intercept_id")).seq (count q "count")) (by simp)
  case woven =>
    exact steady_partsBinder (fun q => (((text q "route_id").map woven).seq
      (count q "exception_handlers")).seq (count q "layers")) (by simp)
  case failed =>
    exact steady_partsBinder (fun q => ((text q "route_id").map failed).seq (text q "error"))
      (by simp)
  case completed =>
    exact steady_partsBinder (fun q => ((text q "context_id").map completed).seq
      (count q "route_count")) (by simp)

end Event

/-! ### Texts -/

namespace Binder

variable {α : Type} {bind : Binder α} {shape : Shape}

/-- What is read of a text is read of every text that differs from it by a rearrangement. -/
structure AnyOrder (bind : Binder α) (shape : Shape) : Prop where
  texts : ∀ (source source' : String) (a : α), bind.parse source = .ok a →
    Rearranged shape depthLimit (Draft.read source).draft (Draft.read source').draft →
    (Draft.read source').surplus = false → bind.parse source' = .ok a
  /-- However words, keys and blanks are spelled, a layout with rearranged members is read alike. -/
  layouts : ∀ (t t' : Layout) (a : α), bind.parse t.text = .ok a →
    Rearranged shape depthLimit t.draft t'.draft → bind.parse t'.text = .ok a

theorem Steady.anyOrder (steady : bind.Steady shape ⟨.text, depthLimit⟩) : bind.AnyOrder shape where
  texts source source' a parsed rearranged ends :=
    parse_eq_ok_iff.mpr ⟨steady _ _ a rearranged (parse_eq_ok_iff.mp parsed).1, ends⟩
  layouts t t' a parsed rearranged := by
    rw [parse_eq_ok_iff, Reader.read_layout] at parsed ⊢
    exact ⟨steady _ _ a rearranged parsed.1, rfl⟩

end Binder

/-- The formats, each with the members that have a meaning in it. -/
structure MemberOrder : Prop where
  node : Node.binder.AnyOrder .node
  route : Route.binder.AnyOrder Route.shape
  intercept : Intercept.binder.AnyOrder Intercept.shape
  clause : Clause.binder.AnyOrder Clause.shape
  context : Context.binder.AnyOrder Context.shape
  report : Report.binder.AnyOrder Report.shape
  event : Event.binder.AnyOrder Event.shape

/-- Members may come in any order at every depth, and members without a meaning may be added. -/
theorem members_in_any_order : MemberOrder where
  node := (Node.steady_binder _).anyOrder
  route := (Route.steady_binder _).anyOrder
  intercept := (Intercept.steady_binder _).anyOrder
  clause := (Clause.steady_binder _).anyOrder
  context := (Context.steady_binder _).anyOrder
  report := (Report.steady_binder _).anyOrder
  event := (Event.steady_binder _).anyOrder

theorem Rearranged.reversed {shape : Shape} {levels : Nat} {kept : List Stay}
    {added : List (String × Json)} (distinct : (kept.filterMap fun m => m.key.text?).Nodup)
    (each : ∀ m ∈ kept, Rearranged (shape.member m.key) (levels - 1) m.before m.after)
    (ignored : ∀ m ∈ added, shape.Ignores (kept.map fun m => (m.key, m.before)) m.1 ∧
      Json.Fits (levels - 1) m.2) :
    Rearranged shape levels (.object (kept.map fun m => (m.key, m.before)))
      (.object (kept.map (fun m => (m.key, m.after)) ++ Json.memberDrafts added).reverse) := by
  refine .object ?_ rfl each ignored (List.reverse_perm _)
  rw [List.filterMap_map]
  exact distinct

theorem Rearranged.singleton {shape : Shape} {levels : Nat} {d d' : Draft}
    (item : Rearranged (shape.item 0) (levels - 1) d d') :
    Rearranged shape levels (.array [d]) (.array [d']) := by
  refine .array rfl fun i e e' he he' => ?_
  cases i with
  | zero =>
    cases he
    cases he'
    exact item
  | succ i => cases he

/-- A route and two nodes whose members are turned around, so that the kinds come behind the fields and
the outputs. The route gets a member that is no field, the nodes get fields of other kinds. -/
theorem members_in_any_order_reversed :
    let step := Json.object [("kind", .text "step"), ("uri", .text "log:a")]
    let step' := Json.object [("exceptions", .null), ("uri", .text "log:a"), ("kind", .text "step")]
    let proxy := Json.object [("kind", .text "proxy"), ("intercept", .text "audit"),
      ("outputs", .array [step])]
    let proxy' := Json.object [("uri", .array [.object []]), ("outputs", .array [step']),
      ("intercept", .text "audit"), ("kind", .text "proxy")]
    let source := Json.object [("id", .text "r"), ("outputs", .array [proxy])]
    let source' := Json.object [("note", .bool true), ("outputs", .array [proxy']), ("id", .text "r")]
    let read : Route := ⟨"r", [⟨.proxy "audit", none, [⟨.step "log:a", none, []⟩]⟩]⟩
    Route.binder.parse source.layout.text = .ok read ∧
      Rearranged Route.shape depthLimit source.layout.draft source'.layout.draft ∧
      Route.binder.parse source'.layout.text = .ok read := by
  intro step step' proxy proxy' source source' read
  have parsed : Route.binder.parse source.layout.text = .ok read := by decide +kernel
  have steps : Rearranged .node 123 step.draft step'.draft :=
    @Rearranged.reversed .node 123
      [⟨.text (some "kind"), (Json.text "step").draft, (Json.text "step").draft⟩,
        ⟨.text (some "uri"), (Json.text "log:a").draft, (Json.text "log:a").draft⟩]
      [("exceptions", .null)] (by decide) (by simp [Rearranged.same])
      (List.forall_mem_singleton.mpr ⟨by decide, by decide, by decide⟩)
  have proxies : Rearranged .node 125 proxy.draft proxy'.draft :=
    @Rearranged.reversed .node 125
      [⟨.text (some "kind"), (Json.text "proxy").draft, (Json.text "proxy").draft⟩,
        ⟨.text (some "intercept"), (Json.text "audit").draft, (Json.text "audit").draft⟩,
        ⟨.text (some "outputs"), (Json.array [step]).draft, (Json.array [step']).draft⟩]
      [("uri", .array [.object []])] (by decide) (by simpa [Rearranged.same] using .singleton steps)
      (List.forall_mem_singleton.mpr ⟨by decide, by decide, by decide⟩)
  have routes : Rearranged Route.shape depthLimit source.draft source'.draft :=
    @Rearranged.reversed Route.shape depthLimit
      [⟨.text (some "id"), (Json.text "r").draft, (Json.text "r").draft⟩,
        ⟨.text (some "outputs"), (Json.array [proxy]).draft, (Json.array [proxy']).draft⟩]
      [("note", .bool true)] (by decide) (by simpa [Rearranged.same] using .singleton proxies)
      (List.forall_mem_singleton.mpr ⟨by decide, by decide, by decide⟩)
  rw [← Json.draft_layout, ← Json.draft_layout] at routes
  exact ⟨parsed, routes, members_in_any_order.route.layouts _ _ _ parsed routes⟩

end RouteLoom
