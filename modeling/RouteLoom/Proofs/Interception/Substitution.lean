import RouteLoom.Interception.Intercept

/-!
# What filling in placeholders gives

`Substitutes` says character by character what a template with filled placeholders is, without
saying where the next opener is looked for. The search for openers leads to the same text: it passes
over characters at which no placeholder begins, and an opener that it keeps has no placeholder
inside it either.
-/

namespace RouteLoom

namespace Placeholder

def opener : String := "$\x7b"

def closer : String := "\x7d"

variable {b : Bindings} {c : Char} {cs rest inside front name behind out : List Char} {value : String}

/-! ### Cutting -/

theorem eq_of_splitOpen (found : splitOpen cs = some (front, inside)) :
    cs = front ++ '$' :: '{' :: inside := by
  fun_induction splitOpen cs generalizing front with
  | case1 inside =>
    cases found
    rfl
  | case2 c rest _ ih =>
    obtain ⟨⟨f, i⟩, there, same⟩ := Option.map_eq_some_iff.mp found
    cases same
    rw [ih there, List.cons_append]
  | case3 => cases found

theorem eq_of_splitClose (found : splitClose cs = some (name, behind)) :
    cs = name ++ '}' :: behind ∧ '}' ∉ name := by
  fun_induction splitClose cs generalizing name with
  | case1 => cases found
  | case2 rest =>
    cases found
    exact ⟨rfl, List.not_mem_nil⟩
  | case3 c rest other ih =>
    obtain ⟨⟨n, i⟩, there, same⟩ := Option.map_eq_some_iff.mp found
    cases same
    obtain ⟨rfl, closes⟩ := ih there
    exact ⟨rfl, List.not_mem_cons_of_ne_of_not_mem (Ne.symm other) closes⟩

theorem splitClose_append (closes : '}' ∉ name) (behind : List Char) :
    splitClose (name ++ '}' :: behind) = some (name, behind) := by
  induction name with
  | nil => rfl
  | cons c name ih =>
    obtain ⟨other, closes⟩ := List.ne_and_not_mem_of_not_mem_cons closes
    rw [List.cons_append, splitClose, if_neg (Ne.symm other), ih closes]
    rfl

theorem splitClose_eq_none_iff : splitClose cs = none ↔ '}' ∉ cs := by
  constructor
  · intro none closing
    obtain ⟨name, behind, rfl, closes⟩ := List.eq_append_cons_of_mem closing
    rw [splitClose_append closes] at none
    cases none
  · intro unclosed
    rw [Option.eq_none_iff_forall_ne_some]
    rintro ⟨name, behind⟩ found
    obtain ⟨rfl, -⟩ := eq_of_splitClose found
    exact unclosed (List.mem_append_right name List.mem_cons_self)

/-! ### The expansion step by step -/

/-- No placeholder with a bound name begins the text. -/
def NoneLeads (b : Bindings) (cs : List Char) : Prop :=
  ∀ name behind, '}' ∉ name → cs = '$' :: '{' :: name ++ '}' :: behind →
    b.get? (String.ofList name) = none

theorem expandChars_unopened (unopened : splitOpen cs = none) : expandChars b cs = cs := by
  rw [expandChars]
  split
  next => rfl
  next found =>
    rw [unopened] at found
    cases found

theorem expandChars_unclosed (opens : splitOpen cs = some (front, inside))
    (unclosed : splitClose inside = none) : expandChars b cs = cs := by
  rw [expandChars]
  split
  next => rfl
  next found =>
    rw [opens] at found
    cases found
    split
    next => rfl
    next found =>
      rw [unclosed] at found
      cases found

theorem expandChars_closed (opens : splitOpen cs = some (front, inside))
    (closes : splitClose inside = some (name, behind)) :
    expandChars b cs = front ++ match b.get? (String.ofList name) with
      | some value => value.toList ++ expandChars b behind
      | none => '$' :: '{' :: expandChars b inside := by
  rw [expandChars]
  split
  next none =>
    rw [opens] at none
    cases none
  next found =>
    rw [opens] at found
    cases found
    split
    next none =>
      rw [closes] at none
      cases none
    next found =>
      rw [closes] at found
      cases found
      cases b.get? (String.ofList name) with
      | none => rfl
      | some value => exact List.append_assoc _ _ _

theorem expandChars_of_not_mem (unclosed : '}' ∉ cs) : expandChars b cs = cs := by
  cases opens : splitOpen cs with
  | none => exact expandChars_unopened opens
  | some found =>
    obtain ⟨front, inside⟩ := found
    refine expandChars_unclosed opens (splitClose_eq_none_iff.mpr fun closing => unclosed ?_)
    rw [eq_of_splitOpen opens]
    exact List.mem_append_right front (by simp [closing])

theorem expandChars_bound (closes : '}' ∉ name) (bound : b.get? (String.ofList name) = some value) :
    expandChars b ('$' :: '{' :: name ++ '}' :: behind) = value.toList ++ expandChars b behind := by
  have opens : splitOpen ('$' :: '{' :: name ++ '}' :: behind) = some ([], name ++ '}' :: behind) :=
    rfl
  rw [expandChars_closed opens (splitClose_append closes behind), bound]
  rfl

theorem expandChars_cons (unopened : ∀ inside, c :: rest ≠ '$' :: '{' :: inside) :
    expandChars b (c :: rest) = c :: expandChars b rest := by
  have later : splitOpen (c :: rest) =
      (splitOpen rest).map fun found => (c :: found.1, found.2) := by
    rw [splitOpen]
    rintro inside rfl rfl
    exact unopened inside rfl
  cases opens : splitOpen rest with
  | none =>
    rw [opens] at later
    rw [expandChars_unopened opens, expandChars_unopened later]
  | some found =>
    obtain ⟨front, inside⟩ := found
    rw [opens] at later
    cases closes : splitClose inside with
    | none => rw [expandChars_unclosed opens closes, expandChars_unclosed later closes]
    | some found =>
      obtain ⟨name, behind⟩ := found
      rw [expandChars_closed opens closes, expandChars_closed later closes]
      rfl

/-- Where no bound placeholder begins, one character is kept. -/
theorem expandChars_of_noneLeads (unbound : NoneLeads b (c :: rest)) :
    expandChars b (c :: rest) = c :: expandChars b rest := by
  by_cases opener : ∃ inside, c :: rest = '$' :: '{' :: inside
  · obtain ⟨inside, same⟩ := opener
    obtain ⟨rfl, rfl⟩ := List.cons.inj same
    have opens : splitOpen ('$' :: '{' :: inside) = some ([], inside) := rfl
    -- The brace of an opener that is kept begins no opener itself.
    have brace : expandChars b ('{' :: inside) = '{' :: expandChars b inside :=
      expandChars_cons fun _ => by simp
    rw [brace]
    cases closes : splitClose inside with
    | some found =>
      obtain ⟨name, behind⟩ := found
      obtain ⟨rfl, open_name⟩ := eq_of_splitClose closes
      rw [expandChars_closed opens closes, unbound name behind open_name rfl]
      rfl
    | none =>
      rw [expandChars_unclosed opens closes,
        expandChars_of_not_mem (splitClose_eq_none_iff.mp closes)]
  · exact expandChars_cons fun inside same => opener ⟨inside, same⟩

/-! ### Character by character -/

/-- The text `out` is the text `cs` with a value in the place of every bound placeholder. -/
inductive Substitutes (b : Bindings) : (cs out : List Char) → Prop
  | nil : Substitutes b [] []
  | bound {name behind out : List Char} {value : String} (closes : '}' ∉ name)
      (bound : b.get? (String.ofList name) = some value) (later : Substitutes b behind out) :
      Substitutes b ('$' :: '{' :: name ++ '}' :: behind) (value.toList ++ out)
  | kept {c : Char} {rest out : List Char} (unbound : NoneLeads b (c :: rest))
      (later : Substitutes b rest out) : Substitutes b (c :: rest) (c :: out)

theorem noneLeads_or (b : Bindings) (cs : List Char) :
    NoneLeads b cs ∨ ∃ name behind value, cs = '$' :: '{' :: name ++ '}' :: behind ∧ '}' ∉ name ∧
      b.get? (String.ofList name) = some value := by
  by_cases unbound : NoneLeads b cs
  · exact .inl unbound
  · simp only [NoneLeads, Classical.not_forall, ← ne_eq, Option.ne_none_iff_exists', exists_prop] at unbound
    obtain ⟨name, behind, closes, same, value, bound⟩ := unbound
    exact .inr ⟨name, behind, value, same, closes, bound⟩

theorem substitutes_expandChars (b : Bindings) (cs : List Char) :
    Substitutes b cs (expandChars b cs) := by
  -- A placeholder is longer than one character, so the induction is on the length.
  induction h : cs.length using Nat.strongRecOn generalizing cs with
  | ind n ih =>
    cases cs with
    | nil =>
      rw [expandChars_of_not_mem List.not_mem_nil]
      exact .nil
    | cons c rest =>
      rcases noneLeads_or b (c :: rest) with unbound | ⟨name, behind, value, same, closes, bound⟩
      · rw [expandChars_of_noneLeads unbound]
        exact .kept unbound (ih rest.length (by simp [← h]) rest rfl)
      · have shorter : behind.length < n := by
          rw [← h, same]
          simp only [List.cons_append, List.length_cons, List.length_append]
          omega
        rw [same, expandChars_bound closes bound]
        exact .bound closes bound (ih behind.length shorter behind rfl)

theorem Substitutes.eq_expandChars (h : Substitutes b cs out) : out = expandChars b cs := by
  induction h with
  | nil => rw [expandChars_of_not_mem List.not_mem_nil]
  | bound closes bound _ ih => rw [expandChars_bound closes bound, ih]
  | kept unbound _ ih => rw [expandChars_of_noneLeads unbound, ih]

theorem substitutes_iff : Substitutes b cs out ↔ out = expandChars b cs :=
  ⟨Substitutes.eq_expandChars, fun same => same ▸ substitutes_expandChars b cs⟩

theorem expandChars_of_forall_noneLeads (unbound : ∀ front rest, cs = front ++ rest → NoneLeads b rest) :
    expandChars b cs = cs := by
  induction cs with
  | nil => exact expandChars_of_not_mem List.not_mem_nil
  | cons c rest ih =>
    rw [expandChars_of_noneLeads (unbound [] (c :: rest) rfl),
      ih fun front later same => unbound (c :: front) later (by rw [same, List.cons_append])]

end Placeholder

open Placeholder

/-! ### Texts, nodes and forests -/

theorem Bindings.get?_empty (name : String) : Bindings.empty.get? name = none := rfl

theorem Bindings.expand_empty (template : String) : Bindings.empty.expand template = template := by
  have kept : expandChars .empty template.toList = template.toList :=
    expandChars_of_forall_noneLeads fun _ _ _ name _ _ _ => Bindings.get?_empty (String.ofList name)
  rw [Bindings.expand, kept, String.ofList_toList]

mutual

theorem Node.expand_empty (n : Node) : n.expand .empty = n := by
  cases n with
  | mk kind id outputs =>
    have same : kind.expand .empty = kind := by
      cases kind with
      | step uri => rw [Kind.expand, Bindings.expand_empty]
      | onException exceptions handled => rfl
      | proceed => rfl
      | proxy intercept => rfl
    rw [Node.expand, same, Forest.expand_empty outputs]
termination_by sizeOf n

theorem Forest.expand_empty (f : Forest) : Forest.expand .empty f = f := by
  cases f with
  | nil => rw [Forest.expand]
  | cons n rest => rw [Forest.expand, Node.expand_empty n, Forest.expand_empty rest]
termination_by sizeOf f

end

theorem Bindings.eq_empty_of_size {b : Bindings} (none : b.size = 0) : b = .empty := by
  obtain ⟨entries, sorted⟩ := b
  cases List.length_eq_zero_iff.mp none
  rfl

/-- Expanding a template gives the one text that results from it character by character. If no
placeholder of the template is bound, this is the template itself, and if nothing is bound at all, it
makes no difference whether an intercept's template is expanded or taken as it is. -/
theorem expand_eq_iff_substitutes (b : Bindings) (template : String) :
    (∀ out : String, b.expand template = out ↔ Substitutes b template.toList out.toList) ∧
      ((∀ front name behind, template.toList = front ++ '$' :: '{' :: name ++ '}' :: behind →
        '}' ∉ name → b.get? (String.ofList name) = none) → b.expand template = template) ∧
      Bindings.empty.expand template = template ∧
      ∀ i : Intercept, Interceptor.body i =
        if i.resolved.size = 0 then i.template else Forest.expand i.resolved i.template := by
  refine ⟨fun out => ?_, fun unbound => ?_, Bindings.expand_empty template, fun i => ?_⟩
  · rw [substitutes_iff, ← String.toList_inj, Bindings.expand, String.toList_ofList, eq_comm]
  · have kept : expandChars b template.toList = template.toList :=
      expandChars_of_forall_noneLeads fun front rest split name behind closes same =>
        unbound front name behind (by rw [split, same, List.append_assoc]) closes
    rw [Bindings.expand, kept, String.ofList_toList]
  · split
    next none =>
      change Forest.expand i.resolved i.template = i.template
      rw [Bindings.eq_empty_of_size none, Forest.expand_empty]
    next => rfl

/-- A value that looks like a placeholder stays, and a placeholder inside an unbound one is filled. -/
example :
    let b : Bindings := .ofList [("a", "${b}"), ("b", "x")]
    b.expand "bean:${a}/${b}" = "bean:${b}/x" ∧
      b.expand (opener ++ "c${b}" ++ closer) = opener ++ "cx" ++ closer := by
  decide +kernel

end RouteLoom
