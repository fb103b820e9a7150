import RouteLoom.Proofs.Beans.Entries
import RouteLoom.Proofs.Interception.Preparation

/-!
# What preparing an intercept leaves behind

Preparing an intercept is an action on it. The beans found so far are collected in a table of their
own, and this table takes the place of the earlier one only when every requirement is met.
-/

namespace RouteLoom

variable {registry : Registry} {i p : Intercept} {f : Fault} {var bean : String}

/-! ### The table that is collected -/

namespace Requirement

/-- Of the requirements for a variable this one comes last. -/
def LastFor (var : String) (rs : List Requirement) (r : Requirement) : Prop :=
  r.var = var ∧ ∃ front back, rs = front ++ r :: back ∧ ∀ q ∈ back, q.var ≠ var

theorem lastFor_cons {q r : Requirement} {rs : List Requirement} :
    LastFor var (q :: rs) r ↔
      LastFor var rs r ∨ r = q ∧ q.var = var ∧ ∀ later ∈ rs, later.var ≠ var := by
  constructor
  · rintro ⟨same, front, back, split, other⟩
    cases front with
    | nil =>
      obtain ⟨rfl, rfl⟩ := List.cons.inj split
      exact .inr ⟨rfl, same, other⟩
    | cons first front =>
      obtain ⟨rfl, rfl⟩ := List.cons.inj split
      exact .inl ⟨same, front, back, rfl, other⟩
  · rintro (⟨same, front, back, rfl, other⟩ | ⟨rfl, same, other⟩)
    · exact ⟨same, q :: front, back, rfl, other⟩
    · exact ⟨same, [], rs, rfl, other⟩

theorem LastFor.mem {r : Requirement} {rs : List Requirement} (last : LastFor var rs r) : r ∈ rs := by
  obtain ⟨-, front, back, rfl, -⟩ := last
  simp

/-- The last requirement for a variable decides what it is bound to. A variable that is not required
keeps what the table held for it before. -/
theorem get?_bindAll {rs : List Requirement} {before after : Bindings}
    (bound : bindAll registry rs before = .ok after) :
    after.get? var = some bean ↔
      (∃ r, LastFor var rs r ∧ r.resolve registry = .ok bean) ∨
        (∀ r ∈ rs, r.var ≠ var) ∧ before.get? var = some bean := by
  induction rs generalizing before with
  | nil =>
    cases bound
    have none (r : Requirement) : ¬ LastFor var [] r := fun last => by cases last.mem
    simp [none]
  | cons q rs ih =>
    rw [bindAll] at bound
    cases found : q.resolve registry with
    | error f =>
      rw [found] at bound
      cases bound
    | ok other =>
      rw [found] at bound
      rw [ih bound, Bindings.get?_insert]
      simp only [lastFor_cons, List.forall_mem_cons]
      by_cases same : q.var = var
      · have here : (∃ r, (r = q ∧ q.var = var ∧ ∀ later ∈ rs, later.var ≠ var) ∧
            r.resolve registry = .ok bean) ↔ (∀ r ∈ rs, r.var ≠ var) ∧ some other = some bean := by
          simp [same, found]
        rw [if_pos same.symm, ← here]
        simp only [or_and_right, exists_or, same, ne_eq, not_true_eq_false, false_and, or_false]
      · rw [if_neg (Ne.symm same)]
        simp only [same, false_and, and_false, or_false, ne_eq, not_false_eq_true, true_and]

end Requirement

/-! ### The action -/

namespace Intercept

def collect (registry : Registry) (id : String) (found : Bindings) (r : Requirement) :
    ExceptT Fault (StateM Intercept) Bindings :=
  match r.resolve registry with
  | .ok bean => return found.insert r.var bean
  | .error f => throw (.configuration id f.message)

def prepareInPlace (registry : Registry) : ExceptT Fault (StateM Intercept) Unit := do
  let i ← get
  let found ← i.requirements.foldlM (collect registry i.id) .empty
  modify fun i => { i with resolved := found }

theorem run_collect (registry : Registry) (rs : List Requirement) (id : String) (found : Bindings)
    (i : Intercept) :
    (rs.foldlM (collect registry id) found).run.run i =
      (match Requirement.bindAll registry rs found with
        | .ok table => .ok table
        | .error f => .error (.configuration id f.message), i) := by
  induction rs generalizing found with
  | nil => rfl
  | cons r rs ih =>
    rw [List.foldlM_cons, Requirement.bindAll]
    cases resolved : r.resolve registry with
    | ok bean =>
      have collected : (collect registry id found r).run.run i =
          (.ok (found.insert r.var bean), i) := by
        rw [collect, resolved]
        rfl
      rw [run_bind_of_ok collected, ih]
    | error f =>
      have failed : (collect registry id found r).run.run i =
          (.error (.configuration id f.message), i) := by
        rw [collect, resolved]
        rfl
      exact run_bind_of_error failed _

theorem run_prepareInPlace (registry : Registry) (i : Intercept) :
    (prepareInPlace registry).run.run i =
      match i.prepare registry with
      | .ok p => (.ok (), p)
      | .error f => (.error f, i) := by
  have read : (get : ExceptT Fault (StateM Intercept) Intercept).run.run i = (.ok i, i) := rfl
  have collected := run_collect registry i.requirements i.id .empty i
  rw [prepareInPlace, run_bind_of_ok read, prepare]
  cases bound : Requirement.bindAll registry i.requirements .empty with
  | ok table =>
    rw [bound] at collected
    rw [run_bind_of_ok collected]
    rfl
  | error f =>
    rw [bound] at collected
    exact run_bind_of_error collected _

/-- Every requirement is met by some bean. -/
def Met (registry : Registry) (i : Intercept) : Prop :=
  ∀ r ∈ i.requirements, ∃ bean, r.resolve registry = .ok bean

/-- If all requirements are met, the table that is found is the same whatever was found earlier. -/
theorem exists_of_met (met : i.Met registry) :
    ∃ found : Bindings,
      (∀ earlier, prepare registry { i with resolved := earlier } =
        .ok { i with resolved := found }) ∧
      ∀ var bean, found.get? var = some bean ↔
        ∃ r, Requirement.LastFor var i.requirements r ∧ r.resolve registry = .ok bean := by
  have passes : ∃ found, Requirement.bindAll registry i.requirements .empty = .ok found := by
    rw [exists_ok_iff]
    intro f failed
    obtain ⟨r, first, fault⟩ := (Requirement.bindAll_eq_error_iff i.requirements .empty).mp failed
    obtain ⟨bean, given⟩ := met r first.mem
    rw [given] at fault
    cases fault
  obtain ⟨found, bound⟩ := passes
  refine ⟨found, fun earlier => ?_, fun var bean => ?_⟩
  · rw [prepare, bound]
  · have nothing : Bindings.empty.get? var = none := rfl
    rw [Requirement.get?_bindAll bound, nothing]
    simp

theorem exists_of_not_met (unmet : ¬ i.Met registry) :
    ∃ r f, IsFirst (fun q => ∃ bean, q.resolve registry = .ok bean) r i.requirements ∧
      r.resolve registry = .error f ∧
      i.prepare registry = .error (.configuration i.id f.message) := by
  rcases forall_or_exists_isFirst (fun q : Requirement => ∃ bean, q.resolve registry = .ok bean)
    i.requirements with met | ⟨r, first, fails⟩
  · exact absurd met unmet
  · cases resolved : r.resolve registry with
    | ok bean => exact absurd ⟨bean, resolved⟩ fails
    | error f =>
      refine ⟨r, f, first, resolved, ?_⟩
      rw [prepare, (Requirement.bindAll_eq_error_iff i.requirements .empty).mpr ⟨r, first, resolved⟩]

/-! ### Copies -/

def fresh (i : Intercept) : Intercept := { i with resolved := .empty }

theorem prepare_fresh (registry : Registry) (i : Intercept) :
    i.fresh.prepare registry = i.prepare registry := by
  rw [prepare, prepare]
  rfl

theorem fresh_of_prepare (hp : i.prepare registry = .ok p) : p.fresh = i.fresh := by
  rw [prepare] at hp
  split at hp
  · cases hp
    rfl
  · cases hp

end Intercept

end RouteLoom
