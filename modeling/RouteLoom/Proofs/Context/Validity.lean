import RouteLoom.Assembly.RouteIds
import RouteLoom.Proofs.Context.Repetition
import RouteLoom.Proofs.FirstFault
import RouteLoom.Proofs.Tree.Count

/-!
# Valid contexts

A context is valid if no finding on it is an error. Five of the nine rules can find errors, and each
of them finds none exactly if the context has a certain form.
-/

namespace RouteLoom

/-! ### What each rule asks for -/

namespace Rule

variable {rule : Rule} {c : Context} {d : Finding}

theorem rule_of_mem_check (hd : d ∈ rule.check c) : d.rule = rule := by
  have mapped {α : Type} {l : List α} {report : α → Finding}
      (told : ∀ x, (report x).rule = rule) (hd : d ∈ l.map report) : d.rule = rule := by
    obtain ⟨x, -, rfl⟩ := List.mem_map.mp hd
    exact told x
  cases rule with
  | proceedMarker | singleProceed | duplicateRouteId | duplicateInterceptId | emptyRoute =>
    exact mapped (fun _ => rfl) hd
  | proceedPlacement =>
    rcases List.mem_append.mp hd with outside | inside
    · exact (List.mem_append.mp outside).elim (mapped fun _ => rfl) (mapped fun _ => rfl)
    · exact mapped (fun _ => rfl) inside
  | declaredProxy => exact (List.mem_append.mp hd).elim (mapped fun _ => rfl) (mapped fun _ => rfl)
  | exceptionTypes =>
    rw [check, checkExceptionTypes] at hd
    split at hd
    next => cases hd
    next => rw [List.mem_singleton.mp hd]
  | requirementShape =>
    obtain ⟨i, -, found⟩ := List.mem_flatMap.mp hd
    exact mapped (fun _ => rfl) found

def Passes (rule : Rule) (c : Context) : Prop := ∀ f ∈ rule.check c, f.severity ≠ .error

theorem reports_no_error_iff {α : Type} {l : List α} {bad : α → Bool} {report : α → Finding}
    (severe : ∀ x, (report x).severity = .error) :
    (∀ f ∈ (l.filter bad).map report, f.severity ≠ .error) ↔ ∀ x ∈ l, bad x = false := by
  constructor
  · intro none x hx
    by_contra found
    have reported : x ∈ l.filter bad := List.mem_filter.mpr ⟨hx, by simpa using found⟩
    exact none _ (List.mem_map_of_mem reported) (severe x)
  · intro good f hf
    obtain ⟨x, hx, rfl⟩ := List.mem_map.mp hf
    obtain ⟨listed, bad_x⟩ := List.mem_filter.mp hx
    rw [good x listed] at bad_x
    cases bad_x

theorem reports_advice {α : Type} (l : List α) {report : α → Finding}
    (mild : ∀ x, (report x).severity ≠ .error) : ∀ f ∈ l.map report, f.severity ≠ .error :=
  List.forall_mem_map.mpr fun x _ => mild x

theorem passes_singleProceed (c : Context) : Passes .singleProceed c := reports_advice _ nofun

theorem passes_proceedPlacement (c : Context) : Passes .proceedPlacement c := by
  rw [Passes, check, checkProceedPlacement, List.forall_mem_append, List.forall_mem_append]
  exact ⟨⟨reports_advice _ nofun, reports_advice _ nofun⟩, reports_advice _ nofun⟩

theorem passes_duplicateInterceptId (c : Context) : Passes .duplicateInterceptId c :=
  reports_advice _ nofun

theorem passes_emptyRoute (c : Context) : Passes .emptyRoute c := reports_advice _ nofun

theorem passes_proceedMarker_iff : Passes .proceedMarker c ↔
    (c.options.missingProceed = .reject →
      ∀ i ∈ c.intercepts, Forest.any Node.isMarker i.template = true) := by
  have marked (i : Intercept) : decide (Forest.markerCount i.template = 0) = false ↔
      Forest.any Node.isMarker i.template = true := by
    rw [decide_eq_false_iff_not, Forest.markerCount, Forest.count_eq_zero_iff,
      Bool.not_eq_false]
  rw [Passes, check, checkProceedMarker]
  cases c.options.missingProceed with
  | reject =>
    rw [reports_no_error_iff fun _ => rfl]
    simp only [marked, forall_const]
  | drop =>
    exact iff_of_true (reports_advice _ nofun) nofun

theorem passes_declaredProxy_iff : Passes .declaredProxy c ↔
    (∀ r ∈ c.routes, Forest.any Node.isProxy r.outputs = false) ∧
      ∀ i ∈ c.intercepts, Forest.any Node.isProxy i.template = false := by
  rw [Passes, check, checkDeclaredProxy, List.forall_mem_append]
  exact and_congr (reports_no_error_iff fun _ => rfl) (reports_no_error_iff fun _ => rfl)

theorem passes_duplicateRouteId_iff :
    Passes .duplicateRouteId c ↔ (declaredIds c.routes).Nodup := by
  rw [Passes, check, checkDuplicateRouteId, ← declaredIds, List.forall_mem_map,
    List.nodup_iff_count_le_one]
  simp only [mem_distinct_iff, mem_repeated_iff]
  refine forall_congr' fun id => ⟨fun none => ?_, fun once twice => ?_⟩
  · by_contra several
    exact none (Nat.lt_of_not_le several) rfl
  · exact absurd twice (Nat.not_le_of_lt (Nat.lt_succ_of_le once))

theorem passes_exceptionTypes_iff : Passes .exceptionTypes c ↔
    (∀ e ∈ c.clauses, e.exceptions ≠ []) ∧
      ∀ r ∈ c.routes, Forest.count emptyClause r.outputs = 0 := by
  have declared : (c.clauses.filter fun e => e.exceptions.isEmpty).length = 0 ↔
      ∀ e ∈ c.clauses, e.exceptions ≠ [] := by
    rw [List.length_eq_zero_iff, List.filter_eq_nil_iff]
    simp only [List.isEmpty_iff, ne_eq]
  have in_routes : (c.routes.map fun r => Forest.count emptyClause r.outputs).foldr (· + ·) 0 = 0 ↔
      ∀ r ∈ c.routes, Forest.count emptyClause r.outputs = 0 := by
    rw [← List.sum_eq_foldr, List.sum_eq_zero_iff_forall_eq_nat, List.forall_mem_map]
  rw [← declared, ← in_routes, ← Nat.add_eq_zero_iff, Passes, check, checkExceptionTypes]
  split
  next none => exact iff_of_true (List.forall_mem_nil _) none
  next found => exact iff_of_false (fun good => good _ (List.mem_singleton_self _) rfl) found

theorem passes_requirementShape_iff : Passes .requirementShape c ↔
    ∀ i ∈ c.intercepts, ∀ r ∈ i.requirements, r.wellFormed = true := by
  rw [Passes, check, checkRequirementShape, List.forall_mem_flatMap]
  refine forall₂_congr fun i _ => ?_
  rw [reports_no_error_iff fun _ => rfl]
  simp only [Bool.not_eq_false']

end Rule

namespace Context

variable {c : Context}

/-- No finding is an error. -/
def Valid (c : Context) : Prop := ∀ f ∈ c.findings, f.severity ≠ .error

theorem validate_eq_error_iff {f : Fault} : c.validate = .error f ↔
    ∃ d, IsFirst (fun e => e.severity ≠ .error) d c.findings ∧ d.severity = .error ∧
      f = .validation ("[" ++ d.rule.name ++ "] " ++ d.message) := by
  have search (d : Finding) : (c.findings.find? fun f => f.severity = .error) = some d ↔
      IsFirst (fun e => e.severity ≠ .error) d c.findings ∧ d.severity = .error := by
    rw [find?_eq_some_iff_isFirst]
    simp only [decide_eq_false_iff_not, decide_eq_true_eq, ne_eq]
  simp only [← and_assoc, ← search]
  rw [validate]
  cases c.findings.find? fun f => f.severity = .error with
  | none => simp
  | some d => simp [eq_comm]

theorem validate_eq_ok_iff {fs : List Finding} :
    c.validate = .ok fs ↔ c.Valid ∧ fs = c.findings := by
  rw [validate]
  split
  next d found =>
    have severe : d.severity = .error := by simpa using List.find?_some found
    have invalid : ¬ c.Valid := fun valid => valid d (List.mem_of_find?_eq_some found) severe
    simp [invalid]
  next none =>
    have valid : c.Valid := fun f hf => by simpa using List.find?_eq_none.mp none f hf
    simp [valid, eq_comm]

/-! ### Well-formed contexts -/

/-- The form of a context on which no rule finds an error. -/
structure WellFormed (c : Context) : Prop where
  marked : c.options.missingProceed = .reject →
    ∀ i ∈ c.intercepts, Forest.any Node.isMarker i.template = true
  routes_without_proxy : ∀ r ∈ c.routes, Forest.any Node.isProxy r.outputs = false
  templates_without_proxy : ∀ i ∈ c.intercepts, Forest.any Node.isProxy i.template = false
  distinct_ids : (declaredIds c.routes).Nodup
  clauses_named : ∀ e ∈ c.clauses, e.exceptions ≠ []
  routes_named : ∀ r ∈ c.routes, Forest.count Rule.emptyClause r.outputs = 0
  requirements_formed : ∀ i ∈ c.intercepts, ∀ r ∈ i.requirements, r.wellFormed = true

theorem valid_iff_passes : c.Valid ↔ ∀ rule : Rule, rule.Passes c := by
  have listed (rule : Rule) : rule ∈ Rule.all := by cases rule <;> decide
  rw [Valid, findings, List.forall_mem_flatMap]
  exact ⟨fun h rule => h rule (listed rule), fun h rule _ => h rule⟩

/-- A context is valid exactly if it is well formed. -/
theorem valid_iff_wellFormed : c.Valid ↔ c.WellFormed := by
  rw [valid_iff_passes]
  constructor
  · intro passes
    obtain ⟨routes, templates⟩ := Rule.passes_declaredProxy_iff.mp (passes .declaredProxy)
    obtain ⟨declared, in_routes⟩ := Rule.passes_exceptionTypes_iff.mp (passes .exceptionTypes)
    exact {
      marked := Rule.passes_proceedMarker_iff.mp (passes .proceedMarker)
      routes_without_proxy := routes
      templates_without_proxy := templates
      distinct_ids := Rule.passes_duplicateRouteId_iff.mp (passes .duplicateRouteId)
      clauses_named := declared
      routes_named := in_routes
      requirements_formed := Rule.passes_requirementShape_iff.mp (passes .requirementShape) }
  · intro formed rule
    cases rule with
    | proceedMarker => exact Rule.passes_proceedMarker_iff.mpr formed.marked
    | declaredProxy =>
      exact Rule.passes_declaredProxy_iff.mpr
        ⟨formed.routes_without_proxy, formed.templates_without_proxy⟩
    | duplicateRouteId => exact Rule.passes_duplicateRouteId_iff.mpr formed.distinct_ids
    | exceptionTypes =>
      exact Rule.passes_exceptionTypes_iff.mpr ⟨formed.clauses_named, formed.routes_named⟩
    | requirementShape => exact Rule.passes_requirementShape_iff.mpr formed.requirements_formed
    | singleProceed => exact Rule.passes_singleProceed c
    | proceedPlacement => exact Rule.passes_proceedPlacement c
    | duplicateInterceptId => exact Rule.passes_duplicateInterceptId c
    | emptyRoute => exact Rule.passes_emptyRoute c

theorem Valid.wellFormed (valid : c.Valid) {i : Intercept} (hi : i ∈ c.intercepts)
    {r : Requirement} (hr : r ∈ i.requirements) : r.wellFormed = true :=
  (valid_iff_wellFormed.mp valid).requirements_formed i hi r hr

theorem Valid.marked (valid : c.Valid) (strict : c.options.missingProceed = .reject)
    {i : Intercept} (hi : i ∈ c.intercepts) : Forest.any Node.isMarker i.template = true :=
  (valid_iff_wellFormed.mp valid).marked strict i hi

theorem Valid.route_declares_no_proxy (valid : c.Valid) {r : Route} (hr : r ∈ c.routes) :
    Forest.any Node.isProxy r.outputs = false :=
  (valid_iff_wellFormed.mp valid).routes_without_proxy r hr

theorem Valid.template_declares_no_proxy (valid : c.Valid) {i : Intercept}
    (hi : i ∈ c.intercepts) : Forest.any Node.isProxy i.template = false :=
  (valid_iff_wellFormed.mp valid).templates_without_proxy i hi

theorem Valid.exceptions_ne_nil (valid : c.Valid) {e : Clause} (he : e ∈ c.clauses) :
    e.exceptions ≠ [] :=
  (valid_iff_wellFormed.mp valid).clauses_named e he

theorem Valid.route_declares_no_empty_clause (valid : c.Valid) {r : Route} (hr : r ∈ c.routes) :
    Forest.count Rule.emptyClause r.outputs = 0 :=
  (valid_iff_wellFormed.mp valid).routes_named r hr

end Context

end RouteLoom
