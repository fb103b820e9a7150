import RouteLoom.Format.Context
import RouteLoom.Proofs.Format.Node

/-!
# Reading contexts back

The beans of a context are written in the order in which they are kept, so binding them one after the
other gives the same table. An intercept comes back as it was before it was prepared, and one that
was bound is unprepared.
-/

namespace RouteLoom

open Record

/-! ### Routes -/

theorem Route.binds_toJson (r : Route) : Route.binder.Binds r.toJson r :=
  Gathers.binds (((gathers_field rfl (Binder.binds_text r.id)).map Route.mk).seq
    (gathers_field rfl (Forest.binds_toJson r.outputs))) (by simp)

/-! ### Requirements and intercepts -/

theorem Requirement.binds_toJson (q : Requirement) : Requirement.binder.Binds q.toJson q := by
  obtain ⟨var, bean, type⟩ := q
  refine Gathers.binds ((((gathers_field rfl (Binder.binds_text var)).map Requirement.mk).seq
    (gathers_memberOf ?_ Binder.binds_text fun _ => nofun)).seq
    (gathers_memberOf ?_ Binder.binds_text fun _ => nofun)) ?_
  · simp [List.lookup_append, List.lookup_cons]
  · simp [List.lookup_append, List.lookup_cons]
  · cases bean <;> cases type <;> simp [Json.memberOf]

namespace Intercept

def members (i : Intercept) : List (String × Json) :=
  [("id", .text i.id)]
    ++ (if i.requirements.isEmpty then []
      else [("requires", .array (i.requirements.map Requirement.toJson))])
    ++ [("outputs", Forest.toJson i.template)]

theorem nodup_members (i : Intercept) : (i.members.map Prod.fst).Nodup := by
  obtain ⟨id, requirements, template, resolved⟩ := i
  cases requirements <;> simp [members]

theorem lookup_requires (i : Intercept) : i.members.lookup "requires" =
    if i.requirements.isEmpty then none
    else some (.array (i.requirements.map Requirement.toJson)) := by
  obtain ⟨id, requirements, template, resolved⟩ := i
  cases requirements <;> simp [members, List.lookup_cons]

theorem lookup_outputs (i : Intercept) :
    i.members.lookup "outputs" = some (Forest.toJson i.template) := by
  obtain ⟨id, requirements, template, resolved⟩ := i
  cases requirements <;> simp [members, List.lookup_cons]

/-- What a preparation has found is not written. -/
theorem binds_toJson (i : Intercept) : Intercept.binder.Binds i.toJson { i with resolved := .empty } := by
  have id : (Record.required "id" Binder.text).Gathers i.members i.id :=
    gathers_field rfl (Binder.binds_text i.id)
  have requires : (Record.optional "requires" [] (Binder.list Requirement.binder)).Gathers i.members
      i.requirements := gathers_unlessEmpty i.lookup_requires fun q _ => q.binds_toJson
  have outputs : (Record.optional "outputs" [] Forest.binder).Gathers i.members i.template :=
    gathers_field i.lookup_outputs (Forest.binds_toJson i.template)
  exact Gathers.binds (((id.map fun id requirements template =>
    Intercept.mk id requirements template .empty).seq requires).seq outputs) i.nodup_members

end Intercept

/-! ### Clauses and options -/

theorem Clause.binds_toJson (c : Clause) : Clause.binder.Binds c.toJson c := by
  have exceptions : (Binder.list Binder.text).Binds (texts c.exceptions) c.exceptions :=
    Binder.binds_list fun s _ => Binder.binds_text s
  exact Gathers.binds ((((gathers_field rfl exceptions).map Clause.mk).seq
    (gathers_field rfl (Binder.binds_boolean c.handled))).seq
    (gathers_field rfl (Forest.binds_toJson c.outputs))) (by simp)

theorem Policy.binds_toJson (p : Policy) : Policy.binder.Binds p.toJson p := by
  cases p <;> exact fun _ _ => rfl

theorem Options.binds_toJson (o : Options) : Options.binder.Binds o.toJson o :=
  Gathers.binds ((gathers_field rfl o.missingProceed.binds_toJson).map Options.mk) (by simp)

/-! ### Beans -/

namespace Bindings

theorem eq_of_entries {b c : Bindings} (same : b.entries = c.entries) : b = c := by
  cases b
  cases c
  cases same
  rfl

theorem insertEntry_last {name value : String} {entries : List (String × String)}
    (last : ∀ e ∈ entries, e.1 < name) :
    insertEntry name value entries = entries ++ [(name, value)] := by
  induction entries with
  | nil => rfl
  | cons e rest ih =>
    obtain ⟨n, v⟩ := e
    obtain ⟨before, others⟩ := List.forall_mem_cons.mp last
    have not_before : ¬ name < n := String.lt_asymm before
    have differs : name ≠ n := (String.ne_of_lt before).symm
    rw [insertEntry, if_neg not_before, if_neg differs, ih others, List.cons_append]

theorem entries_foldl {entries : List (String × String)} {b : Bindings}
    (sorted : SortedByName (b.entries ++ entries)) :
    (entries.foldl (fun b (name, value) => b.insert name value) b).entries = b.entries ++ entries := by
  induction entries generalizing b with
  | nil => rw [List.foldl_nil, List.append_nil]
  | cons e rest ih =>
    obtain ⟨name, value⟩ := e
    have last : ∀ e ∈ b.entries, e.1 < name := fun e he =>
      (List.pairwise_append.mp sorted).2.2 e he (name, value) List.mem_cons_self
    have added : (b.insert name value).entries = b.entries ++ [(name, value)] :=
      insertEntry_last last
    have split : b.entries ++ (name, value) :: rest = (b.insert name value).entries ++ rest := by
      rw [added, List.append_assoc, List.singleton_append]
    rw [List.foldl_cons, split]
    rw [split] at sorted
    exact ih sorted

theorem ofList_entries (b : Bindings) : ofList b.entries = b :=
  eq_of_entries (entries_foldl (b := empty) b.sorted)

theorem binds_toJson (b : Bindings) : Bindings.binder.Binds b.toJson b := by
  rintro ⟨medium, levels⟩ fits
  obtain ⟨inner, rfl, -⟩ := Json.fits_object_iff.mp fits
  have each : ∀ e ∈ b.entries, member ⟨medium, inner⟩ (.text (some e.1), .text (some e.2)) = .ok e :=
    fun _ _ => rfl
  have all := Binder.mapM_map_eq_ok each
  refine bind_eq_ok_iff.mpr ⟨⟨medium, inner⟩, rfl, ?_⟩
  rw [Json.memberDrafts_eq, List.map_map]
  change Bindings.ofList <$> (b.entries.map fun e =>
    (Draft.text (some e.1), Draft.text (some e.2))).mapM (member ⟨medium, inner⟩) = _
  rw [all]
  exact congrArg Except.ok b.ofList_entries

end Bindings

/-! ### Contexts -/

namespace Context

def members (c : Context) : List (String × Json) :=
  [("id", .text c.id), ("beans", c.beans.toJson),
      ("on_exception", .array (c.clauses.map Clause.toJson)),
      ("intercepts", .array (c.intercepts.map Intercept.toJson)),
      ("routes", .array (c.routes.map Route.toJson)), ("options", c.options.toJson)]
    ++ Json.memberOf "trace" .bool c.trace ++ Json.memberOf "delay" .natural c.delay
    ++ Json.memberOf "error_handler" .text c.errorHandler

theorem nodup_members (c : Context) : (c.members.map Prod.fst).Nodup := by
  rw [members]
  cases c.trace <;> cases c.delay <;> cases c.errorHandler <;> simp [Json.memberOf]

theorem lookup_trace (c : Context) : c.members.lookup "trace" = c.trace.map .bool := by
  simp [members, List.lookup_append, List.lookup_cons]

theorem lookup_delay (c : Context) : c.members.lookup "delay" = c.delay.map .natural := by
  simp [members, List.lookup_append, List.lookup_cons]

theorem lookup_errorHandler (c : Context) :
    c.members.lookup "error_handler" = c.errorHandler.map .text := by
  simp [members, List.lookup_append, List.lookup_cons]

theorem binds_toJson (c : Context) (unprepared : ∀ i ∈ c.intercepts, i.resolved = .empty) :
    Context.binder.Binds c.toJson c := by
  have id : (Record.optional "id" standard.id Binder.text).Gathers c.members c.id :=
    gathers_field rfl (Binder.binds_text c.id)
  have beans : (Record.optional "beans" .empty Bindings.binder).Gathers c.members c.beans :=
    gathers_field rfl c.beans.binds_toJson
  have clauses : (Record.optional "on_exception" [] (Binder.list Clause.binder)).Gathers c.members
      c.clauses := gathers_field rfl (Binder.binds_list fun e _ => e.binds_toJson)
  have intercepts : (Record.optional "intercepts" [] (Binder.list Intercept.binder)).Gathers c.members
      c.intercepts := by
    refine gathers_field rfl (Binder.binds_list fun i hi => ?_)
    have back := i.binds_toJson
    rwa [← unprepared i hi] at back
  have routes : (Record.optional "routes" [] (Binder.list Route.binder)).Gathers c.members
      c.routes := gathers_field rfl (Binder.binds_list fun r _ => r.binds_toJson)
  have options : (Record.optional "options" .standard Options.binder).Gathers c.members c.options :=
    gathers_field rfl c.options.binds_toJson
  have trace : (Record.optional "trace" none (Binder.optional Binder.boolean)).Gathers c.members
      c.trace := gathers_memberOf c.lookup_trace Binder.binds_boolean fun _ => nofun
  have delay : (Record.optional "delay" none delayBinder).Gathers c.members c.delay :=
    gathers_memberOf c.lookup_delay (Binder.binds_natural "u64") fun _ => nofun
  have handler : (Record.optional "error_handler" none (Binder.optional Binder.text)).Gathers
      c.members c.errorHandler :=
    gathers_memberOf c.lookup_errorHandler Binder.binds_text fun _ => nofun
  exact Gathers.binds (((((((((id.map Context.mk).seq beans).seq clauses).seq intercepts).seq
    routes).seq options).seq trace).seq delay).seq handler) c.nodup_members

end Context

/-! ### What is bound can be written in its place -/

section

variable {α : Type} {bind : Binder α} {write : α → Json} {least levels index : Nat} {name : String}
  {absent a : α} {p : Place} {parts : Parts}

theorem Binder.Refits.of_optional (refits : bind.Refits write least) (room : least ≤ p.levels)
    (given : (Record.optional name absent bind).gather p parts index = .ok a)
    (left_out : Json.Fits p.levels (write absent)) : Json.Fits p.levels (write a) := by
  rcases gather_optional_eq_ok given with rfl | ⟨d, bound⟩
  · exact left_out
  · exact refits p d a room bound

theorem fits_empty_array (room : 1 ≤ levels) : Json.Fits levels (.array []) :=
  Json.fits_array_iff.mpr ⟨levels - 1, by omega, nofun⟩

end

theorem Route.refits : Route.binder.Refits Route.toJson 2 := by
  intro p d r room bound
  obtain ⟨inner, parts, levels, gathered⟩ := gather_of_binder bound
  obtain ⟨_, outputs, first, given, rfl⟩ := gather_seq_eq_ok gathered
  obtain ⟨id, -, rfl⟩ := gather_map_eq_ok first
  have outputs_fit : Json.Fits inner (Forest.toJson outputs) :=
    Forest.refits.of_optional (Nat.zero_le _) given (fits_empty_array (by dsimp only; omega))
  refine Json.fits_object_iff.mpr ⟨inner, levels, ?_⟩
  simp [Json.fits_text, outputs_fit]

theorem Requirement.refits : Requirement.binder.Refits Requirement.toJson 0 := by
  intro p d q _ bound
  obtain ⟨inner, parts, levels, -⟩ := gather_of_binder bound
  refine Json.fits_object_iff.mpr ⟨inner, levels, fun m hm => ?_⟩
  rcases List.mem_append.mp hm with front | ofType
  · rcases List.mem_append.mp front with ofVar | ofBean
    · rw [List.mem_singleton.mp ofVar]
      exact Json.fits_text q.var
    · exact fits_memberOf_text m ofBean
  · exact fits_memberOf_text m ofType

namespace Intercept

theorem fits_of_binder {p : Place} {d : Draft} {i : Intercept} (room : 2 ≤ p.levels)
    (bound : Intercept.binder p d = .ok i) :
    Json.Fits p.levels i.toJson ∧ i.resolved = .empty := by
  obtain ⟨inner, parts, levels, gathered⟩ := gather_of_binder bound
  obtain ⟨_, template, h₂, given_template, rfl⟩ := gather_seq_eq_ok gathered
  obtain ⟨_, requirements, h₁, given_requirements, rfl⟩ := gather_seq_eq_ok h₂
  obtain ⟨id, -, rfl⟩ := gather_map_eq_ok h₁
  have inner_room : 1 ≤ inner := by omega
  have template_fits : Json.Fits inner (Forest.toJson template) :=
    Forest.refits.of_optional (Nat.zero_le _) given_template (fits_empty_array inner_room)
  have requirements_fit : Json.Fits inner (.array (requirements.map Requirement.toJson)) :=
    (Requirement.refits.list (Nat.zero_le 0)).of_optional (Nat.zero_le _) given_requirements
      (fits_empty_array inner_room)
  refine ⟨Json.fits_object_iff.mpr ⟨inner, levels, fun m hm => ?_⟩, rfl⟩
  rcases List.mem_append.mp hm with front | ofTemplate
  · rcases List.mem_append.mp front with ofId | ofRequirements
    · rw [List.mem_singleton.mp ofId]
      exact Json.fits_text id
    · split at ofRequirements
      · cases ofRequirements
      · rw [List.mem_singleton.mp ofRequirements]
        exact requirements_fit
  · rw [List.mem_singleton.mp ofTemplate]
    exact template_fits

end Intercept

theorem Clause.refits : Clause.binder.Refits Clause.toJson 0 := by
  intro p d c _ bound
  obtain ⟨inner, parts, levels, gathered⟩ := gather_of_binder bound
  obtain ⟨_, outputs, h₂, given_outputs, rfl⟩ := gather_seq_eq_ok gathered
  obtain ⟨_, handled, h₁, -, rfl⟩ := gather_seq_eq_ok h₂
  obtain ⟨exceptions, given_exceptions, rfl⟩ := gather_map_eq_ok h₁
  -- The exceptions cannot be left out, so there is room for an array.
  obtain ⟨d, exceptions_bound⟩ := gather_required_eq_ok given_exceptions
  have room : 1 ≤ inner := Binder.room_of_list exceptions_bound
  have outputs_fit : Json.Fits inner (Forest.toJson outputs) :=
    Forest.refits.of_optional (Nat.zero_le _) given_outputs (fits_empty_array room)
  refine Json.fits_object_iff.mpr ⟨inner, levels, ?_⟩
  simp [Json.fits_bool, fits_texts exceptions room, outputs_fit]

theorem Options.refits : Options.binder.Refits Options.toJson 0 := by
  intro p d o _ bound
  obtain ⟨inner, parts, levels, -⟩ := gather_of_binder bound
  refine Json.fits_object_iff.mpr ⟨inner, levels, ?_⟩
  simp [Policy.toJson, Json.fits_text]

theorem Bindings.fits_toJson (b : Bindings) {levels : Nat} (room : 1 ≤ levels) :
    Json.Fits levels b.toJson := by
  refine Json.fits_object_iff.mpr ⟨levels - 1, by omega, fun m hm => ?_⟩
  obtain ⟨e, -, rfl⟩ := List.mem_map.mp hm
  exact Json.fits_text e.2

namespace Context

theorem fits_of_binder {p : Place} {d : Draft} {c : Context} (room : 4 ≤ p.levels)
    (bound : Context.binder p d = .ok c) :
    Json.Fits p.levels c.toJson ∧ ∀ i ∈ c.intercepts, i.resolved = .empty := by
  obtain ⟨inner, parts, levels, gathered⟩ := gather_of_binder bound
  obtain ⟨_, handler, h₈, -, rfl⟩ := gather_seq_eq_ok gathered
  obtain ⟨_, delay, h₇, given_delay, rfl⟩ := gather_seq_eq_ok h₈
  obtain ⟨_, trace, h₆, -, rfl⟩ := gather_seq_eq_ok h₇
  obtain ⟨_, options, h₅, given_options, rfl⟩ := gather_seq_eq_ok h₆
  obtain ⟨_, routes, h₄, given_routes, rfl⟩ := gather_seq_eq_ok h₅
  obtain ⟨_, intercepts, h₃, given_intercepts, rfl⟩ := gather_seq_eq_ok h₄
  obtain ⟨_, clauses, h₂, given_clauses, rfl⟩ := gather_seq_eq_ok h₃
  obtain ⟨_, beans, h₁, -, rfl⟩ := gather_seq_eq_ok h₂
  obtain ⟨id, -, rfl⟩ := gather_map_eq_ok h₁
  have inner_room : 3 ≤ inner := by omega
  have empty : Json.Fits inner (.array []) := fits_empty_array (by omega)
  have beans_fit : Json.Fits inner beans.toJson := beans.fits_toJson (by omega)
  have clauses_fit : Json.Fits inner (.array (clauses.map Clause.toJson)) :=
    (Clause.refits.list (Nat.zero_le 0)).of_optional (Nat.zero_le _) given_clauses empty
  have routes_fit : Json.Fits inner (.array (routes.map Route.toJson)) :=
    (Route.refits.list (Nat.le_refl 2)).of_optional inner_room given_routes empty
  have intercepts_refit : Intercept.binder.Refits Intercept.toJson 2 := fun p d i room bound =>
    (Intercept.fits_of_binder room bound).1
  have intercepts_fit : Json.Fits inner (.array (intercepts.map Intercept.toJson)) :=
    (intercepts_refit.list (Nat.le_refl 2)).of_optional inner_room given_intercepts empty
  have options_fit : Json.Fits inner options.toJson :=
    Options.refits.of_optional (Nat.zero_le _) given_options
      (Json.fits_object_iff.mpr
        ⟨inner - 1, by dsimp only; omega, by simp [Policy.toJson, Json.fits_text]⟩)
  have delay_fits : ∀ m ∈ Json.memberOf "delay" .natural delay, Json.Fits inner m.2 := by
    cases delay with
    | none => nofun
    | some n =>
      rcases gather_optional_eq_ok given_delay with ⟨⟨⟩⟩ | ⟨d, bound⟩
      have word := Binder.natural_eq_ok (Binder.optional_eq_ok bound n rfl)
      exact List.forall_mem_singleton.mpr (Json.fits_natural_iff.mpr word)
  have trace_fits : ∀ m ∈ Json.memberOf "trace" .bool trace, Json.Fits inner m.2 := by
    cases trace <;> simp [Json.memberOf, Json.fits_bool]
  refine ⟨Json.fits_object_iff.mpr ⟨inner, levels, ?_⟩, fun i hi => ?_⟩
  · refine List.forall_mem_append.mpr ⟨List.forall_mem_append.mpr ⟨List.forall_mem_append.mpr
      ⟨?_, trace_fits⟩, delay_fits⟩, fits_memberOf_text⟩
    simp [Json.fits_text, beans_fit, clauses_fit, intercepts_fit, routes_fit, options_fit]
  · rcases gather_optional_eq_ok given_intercepts with rfl | ⟨d, bound⟩
    · cases hi
    · obtain ⟨innermost, outer, each⟩ := Binder.list_eq_ok bound
      obtain ⟨d, bound⟩ := each i hi
      dsimp only at outer
      exact (Intercept.fits_of_binder (by dsimp only; omega) bound).2

end Context

end RouteLoom
