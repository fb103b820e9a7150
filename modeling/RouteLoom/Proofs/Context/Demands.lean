import RouteLoom.Proofs.Context.Validity
import RouteLoom.Proofs.Tree.FirstMarker

/-!
# What a context must satisfy

Five of the nine rules demand something of a context, and a demand is said here of the context's
trees and lists alone: which kinds stand at some address of a forest, how often an id occurs, which
parts of a requirement are set. A context is accepted exactly if it satisfies all five demands.
-/

namespace RouteLoom

/-- Some address leads to a node whose kind satisfies `P`. -/
def Forest.Has (P : Kind → Prop) (f : Forest) : Prop := ∃ a n, Forest.at? a f = some n ∧ P n.kind

theorem Forest.any_eq_true_iff_has {p : Node → Bool} {P : Kind → Prop}
    (told : ∀ n, p n = true ↔ P n.kind) {f : Forest} : Forest.any p f = true ↔ f.Has P := by
  rw [Forest.any, List.any_eq_true]
  constructor
  · rintro ⟨n, listed, hn⟩
    obtain ⟨a, found⟩ := Forest.mem_preorder_iff.mp listed
    exact ⟨a, n, found, (told n).mp hn⟩
  · rintro ⟨a, n, found, hn⟩
    exact ⟨n, Forest.mem_preorder_iff.mpr ⟨a, found⟩, (told n).mpr hn⟩

theorem Forest.any_eq_false_iff_not_has {p : Node → Bool} {P : Kind → Prop}
    (told : ∀ n, p n = true ↔ P n.kind) {f : Forest} : Forest.any p f = false ↔ ¬ f.Has P := by
  rw [← Forest.any_eq_true_iff_has told, Bool.not_eq_true]

namespace Kind

def IsProxy (k : Kind) : Prop := ∃ intercept, k = .proxy intercept

def IsEmptyClause (k : Kind) : Prop := ∃ handled, k = .onException [] handled

end Kind

theorem Node.isProxy_iff (n : Node) : n.isProxy = true ↔ n.kind.IsProxy := by
  obtain ⟨kind, id, outputs⟩ := n
  cases kind <;> simp [Node.isProxy, Kind.IsProxy]

theorem Node.emptyClause_iff (n : Node) : Rule.emptyClause n = true ↔ n.kind.IsEmptyClause := by
  obtain ⟨kind, id, outputs⟩ := n
  cases kind <;> simp [Rule.emptyClause, Kind.IsEmptyClause]

theorem Requirement.wellFormed_iff (r : Requirement) : r.wellFormed = true ↔
    r.bean ≠ none ∧ r.type = none ∨ r.bean = none ∧ r.type ≠ none := by
  obtain ⟨var, bean, type⟩ := r
  cases bean <;> cases type <;> simp [Requirement.wellFormed]

theorem nodup_declaredIds_iff {routes : List Route} :
    (declaredIds routes).Nodup ↔ ∀ id, id ≠ "" → (routes.map Route.id).count id ≤ 1 := by
  rw [declaredIds, List.nodup_iff_count_le_one]
  refine forall_congr' fun id => ?_
  rw [Rule.count_named]
  split <;> simp [*]

/-! ### The demands -/

namespace Rule

/-- What a rule demands of a context. What violates no demand is worth advice at most. -/
def Demand : Rule → Context → Prop
  | .proceedMarker, c => c.options.missingProceed = .reject →
      ∀ i ∈ c.intercepts, i.template.Has (· = .proceed)
  | .declaredProxy, c => (∀ r ∈ c.routes, ¬ r.outputs.Has Kind.IsProxy) ∧
      ∀ i ∈ c.intercepts, ¬ i.template.Has Kind.IsProxy
  | .duplicateRouteId, c => ∀ id, id ≠ "" → (c.routes.map Route.id).count id ≤ 1
  | .exceptionTypes, c => (∀ e ∈ c.clauses, e.exceptions ≠ []) ∧
      ∀ r ∈ c.routes, ¬ r.outputs.Has Kind.IsEmptyClause
  | .requirementShape, c => ∀ i ∈ c.intercepts, ∀ r ∈ i.requirements,
      r.bean ≠ none ∧ r.type = none ∨ r.bean = none ∧ r.type ≠ none
  | .singleProceed, _ | .proceedPlacement, _ | .duplicateInterceptId, _ | .emptyRoute, _ => True

/-- The rules that demand anything, in the order in which they are applied. -/
def demanding : List Rule :=
  [.proceedMarker, .declaredProxy, .duplicateRouteId, .exceptionTypes, .requirementShape]

/-- Of the rules that demand anything, this is the first whose demand is violated. -/
def FirstViolated (rule : Rule) (c : Context) : Prop :=
  IsFirst (Demand · c) rule demanding ∧ ¬ rule.Demand c

variable {rule : Rule} {c : Context}

/-- A rule finds no error exactly if the context satisfies what the rule demands. -/
theorem passes_iff_demand (rule : Rule) (c : Context) : rule.Passes c ↔ rule.Demand c := by
  cases rule with
  | proceedMarker =>
    have marked (f : Forest) : Forest.any Node.isMarker f = true ↔ f.Has (· = .proceed) :=
      Forest.any_eq_true_iff_has fun _ => Node.isMarker_iff
    rw [passes_proceedMarker_iff]
    simp only [marked, Demand]
  | declaredProxy =>
    rw [passes_declaredProxy_iff]
    simp only [Forest.any_eq_false_iff_not_has Node.isProxy_iff, Demand]
  | duplicateRouteId => exact passes_duplicateRouteId_iff.trans nodup_declaredIds_iff
  | exceptionTypes =>
    rw [passes_exceptionTypes_iff]
    simp only [Forest.count_eq_zero_iff, Forest.any_eq_false_iff_not_has Node.emptyClause_iff,
      Demand]
  | requirementShape =>
    rw [passes_requirementShape_iff]
    simp only [Requirement.wellFormed_iff, Demand]
  | singleProceed => exact iff_of_true (passes_singleProceed c) trivial
  | proceedPlacement => exact iff_of_true (passes_proceedPlacement c) trivial
  | duplicateInterceptId => exact iff_of_true (passes_duplicateInterceptId c) trivial
  | emptyRoute => exact iff_of_true (passes_emptyRoute c) trivial

theorem mem_demanding_of_violated (violated : ¬ rule.Demand c) : rule ∈ demanding := by
  cases rule with
  | proceedMarker | declaredProxy | duplicateRouteId | exceptionTypes | requirementShape => decide
  | singleProceed | proceedPlacement | duplicateInterceptId | emptyRoute =>
    exact absurd trivial violated

theorem firstViolated_iff : rule.FirstViolated c ↔
    IsFirst (Demand · c) rule all ∧ ¬ rule.Demand c := by
  have listed : demanding = all.filter (· ∈ demanding) := by decide
  rw [FirstViolated]
  refine and_congr_left fun violated => ?_
  rw [listed]
  refine isFirst_filter (fun other _ quiet => ?_) violated
  by_contra fails
  exact of_decide_eq_false quiet (mem_demanding_of_violated fails)

theorem FirstViolated.unique {other : Rule} (first : rule.FirstViolated c)
    (other_first : other.FirstViolated c) : rule = other :=
  first.1.unique first.2 other_first.1 other_first.2

/-! ### Names -/

theorem name_injective {other : Rule} (same : rule.name = other.name) : rule = other := by
  have listed (rule : Rule) : rule ∈ all := by cases rule <;> decide
  have distinct : ∀ a ∈ all, ∀ b ∈ all, a.name = b.name → a = b := by decide
  exact distinct rule (listed rule) other (listed other) same

theorem bracket_not_mem_name (rule : Rule) : ']' ∉ rule.name.toList := by
  cases rule <;> decide

end Rule

/-- The fault of a refused context bears the name of this rule, between brackets. -/
def Fault.Names (f : Fault) (rule : Rule) : Prop :=
  ∃ text, f = .validation ("[" ++ rule.name ++ "] " ++ text)

/-- A name reaches up to the first closing bracket, whatever the text behind it holds. -/
theorem Fault.names_iff {rule other : Rule} {text : String} :
    (Fault.validation ("[" ++ rule.name ++ "] " ++ text)).Names other ↔ other = rule := by
  have name_read (rule : Rule) (text : String) :
      ("[" ++ rule.name ++ "] " ++ text).toList.takeWhile (· ≠ ']') = '[' :: rule.name.toList := by
    have open_name : ∀ c ∈ rule.name.toList, decide (c ≠ ']') = true := fun c hc =>
      decide_eq_true fun same => rule.bracket_not_mem_name (same ▸ hc)
    have spelled : ("[" ++ rule.name ++ "] " ++ text).toList =
        '[' :: (rule.name.toList ++ ']' :: ' ' :: text.toList) := by
      simp [String.toList_append]
    rw [spelled, List.takeWhile_cons_of_pos (by decide), List.takeWhile_append_of_pos open_name]
    simp
  constructor
  · rintro ⟨behind, same⟩
    have texts := congrArg (fun s => s.toList.takeWhile (· ≠ ']')) (Fault.validation.inj same)
    simp only [name_read] at texts
    exact Rule.name_injective (String.toList_inj.mp (List.cons.inj texts).2.symm)
  · rintro rfl
    exact ⟨text, rfl⟩

/-! ### Acceptance -/

namespace Context

variable {c : Context}

theorem exists_validate_iff : (∃ findings, c.validate = .ok findings) ↔ c.Valid := by
  simp [validate_eq_ok_iff]

theorem valid_iff_demands : c.Valid ↔ ∀ rule : Rule, rule.Demand c := by
  rw [valid_iff_passes]
  exact forall_congr' fun rule => rule.passes_iff_demand c

theorem firstViolated_of_isFirst {d : Finding}
    (first : IsFirst (fun e => e.severity ≠ .error) d c.findings) (severe : d.severity = .error) :
    d.rule.FirstViolated c := by
  rw [findings, isFirst_flatMap] at first
  obtain ⟨rule, first, found⟩ := first
  have told : d.rule = rule := Rule.rule_of_mem_check found.mem
  have violated : ¬ rule.Demand c := by
    rw [← rule.passes_iff_demand]
    exact fun passes => passes d found.mem severe
  rw [told, Rule.firstViolated_iff]
  exact ⟨(isFirst_congr fun other _ => other.passes_iff_demand c).mp first, violated⟩

/-- A context is accepted, with all its findings, exactly if it satisfies the demand of every rule.
If it is not, the fault names one rule, the first that is violated, and no finding of any other rule
than the five that demand something is ever an error. -/
theorem validate_names_first_violated (c : Context) :
    ((∃ findings, c.validate = .ok findings) ↔ ∀ rule : Rule, rule.Demand c) ∧
      (∀ findings, c.validate = .ok findings → findings = c.findings) ∧
      (∀ f, c.validate = .error f → ∀ rule, f.Names rule ↔ rule.FirstViolated c) ∧
      ∀ d ∈ c.findings, d.severity = .error → d.rule ∈ Rule.demanding := by
  refine ⟨exists_validate_iff.trans valid_iff_demands,
    fun findings accepted => (validate_eq_ok_iff.mp accepted).2, ?_, ?_⟩
  · intro f refused rule
    obtain ⟨d, first, severe, rfl⟩ := validate_eq_error_iff.mp refused
    have violated : d.rule.FirstViolated c := firstViolated_of_isFirst first severe
    rw [Fault.names_iff]
    exact ⟨fun same => same ▸ violated, fun other => other.unique violated⟩
  · intro d hd severe
    obtain ⟨rule, -, found⟩ := List.mem_flatMap.mp hd
    have told : d.rule = rule := Rule.rule_of_mem_check found
    have violated : ¬ rule.Demand c := fun satisfied =>
      (rule.passes_iff_demand c).mpr satisfied d found severe
    exact told ▸ Rule.mem_demanding_of_violated violated

/-- Under the lenient policy a missing marker is no error, and of two errors the one on the exception
clause comes first. -/
example :
    let c : Context :=
      { Context.standard with
        clauses := [⟨[], true, []⟩]
        intercepts := [⟨"audit", [⟨"log", none, none⟩], [], .empty⟩]
        options := ⟨.drop⟩ }
    c.validate = .error (.validation
      "[exception_types] 1 exception clause(s) name no exception types") := by
  decide

end Context

end RouteLoom
