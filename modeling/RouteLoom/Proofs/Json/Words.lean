import Mathlib.Tactic.SplitIfs
import RouteLoom.Proofs.FirstFault
import RouteLoom.Proofs.Json.Reading

/-!
# Reading a word inside others

A word is a value that has no parts. The reader takes a word inside arrays and objects as it takes
the word alone: what is open in front of a value is not touched before the value has ended.
-/

namespace RouteLoom

/-- A value that has no parts. -/
def Draft.isWord : Draft → Bool
  | .null | .bool _ | .number _ | .text _ => true
  | .array _ | .object _ | .cut _ => false

namespace Reader

variable {s t : State} {c : Char} {cs rest : List Char} {inner opened : List Frame} {m : Mode}
  {d e : Draft}

/-! ### A value inside others -/

/-- The state of a reader that is inside `opened`, where it would be in `s` if nothing were open in
front. -/
def State.within (opened : List Frame) (s : State) : State :=
  match s.mode with
  | .done d => deliver d opened
  | mode => ⟨s.opened ++ opened, mode⟩

/-- Some value has begun, and if nothing is open it has not gone on behind its end. -/
def State.Begun (s : State) : Prop :=
  match s.mode with
  | .value | .valueOrEnd | .colon | .commaOrEnd => s.opened ≠ []
  | .done _ => s.opened = []
  | _ => True

theorem within_deliver (d : Draft) (inner : List Frame) :
    (deliver d inner).within opened = deliver d (inner ++ opened) := by
  cases inner with
  | nil => rfl
  | cons frame fs => cases frame <;> rfl

theorem begun_deliver (d : Draft) (inner : List Frame) : (deliver d inner).Begun := by
  cases inner with
  | nil => exact rfl
  | cons frame fs => cases frame <;> exact List.cons_ne_nil _ _

theorem keyWanted_append (inside : inner ≠ []) : keyWanted (inner ++ opened) = keyWanted inner := by
  cases inner with
  | nil => exact absurd rfl inside
  | cons frame fs => cases frame <;> rfl

theorem close_within (inside : inner ≠ []) (c : Char) :
    close c (inner ++ opened) = (close c inner).map (State.within opened) := by
  cases inner with
  | nil => exact absurd rfl inside
  | cons frame fs =>
    cases frame with
    | array done | members done =>
      rw [List.cons_append, close, close]
      split_ifs
      · rw [Option.map_some, within_deliver]
      · rfl
    | member done key => rfl

theorem begun_of_close (closes : close c inner = some t) : t.Begun := by
  rw [close.eq_def] at closes
  split at closes
  · obtain ⟨-, same⟩ := Option.ite_none_right_eq_some.mp closes
    cases same
    exact begun_deliver _ _
  · obtain ⟨-, same⟩ := Option.ite_none_right_eq_some.mp closes
    cases same
    exact begun_deliver _ _
  · cases closes

theorem begin_within (wanted : keyWanted (inner ++ opened) = keyWanted inner) (c : Char) :
    begin (inner ++ opened) c = (begin inner c).map (State.within opened) := by
  rw [begin, begin, wanted]
  simp only [apply_ite (Option.map (State.within opened)), Option.map_some, Option.map_none,
    Option.map_map]
  rfl

theorem begun_of_begin (begins : begin inner c = some t) : t.Begun := by
  rw [begin] at begins
  iterate 8
    rcases ite_eq_iff.mp begins with ⟨-, same⟩ | ⟨-, begins⟩
    · cases same <;> first
        | trivial
        | exact List.cons_ne_nil _ _
  obtain ⟨n, -, rfl⟩ := Option.map_eq_some_iff.mp begins
  trivial

theorem resume_within (begun : s.Begun) (goes_on : resume s c = some t) :
    resume (s.within opened) c = some (t.within opened) ∧ t.Begun := by
  obtain ⟨inner, mode⟩ := s
  by_cases plain : blank c = true
  · rw [resume, if_pos plain] at goes_on ⊢
    cases goes_on
    exact ⟨rfl, begun⟩
  · rw [resume, if_neg plain] at goes_on ⊢
    cases mode with
    | colon =>
      obtain ⟨colon, same⟩ := Option.ite_none_right_eq_some.mp goes_on
      cases same
      exact ⟨if_pos colon, begun⟩
    | commaOrEnd =>
      dsimp only [State.within] at goes_on ⊢
      by_cases comma : c = ','
      · rw [if_pos comma] at goes_on ⊢
        cases goes_on
        exact ⟨rfl, begun⟩
      · rw [if_neg comma] at goes_on ⊢
        rw [close_within begun, goes_on]
        exact ⟨rfl, begun_of_close goes_on⟩
    | _ => cases goes_on

theorem orBroken_eq_ok_iff {next : Option State} :
    step.orBroken s next = .ok t ↔ next = some t := by
  cases next <;> simp [step.orBroken]

theorem step_blank (awaits : m.Awaits) (plain : blank c = true) :
    step ⟨opened, m⟩ c = .ok ⟨opened, m⟩ := by
  rcases awaits with rfl | rfl <;> simp [step, step.orBroken, plain]

/-- Where a value may come inside another, it begins alike whatever is open in front. -/
theorem step_awaits_within (awaits : m.Awaits) (inside : inner ≠ [])
    (next : step ⟨inner, m⟩ c = .ok t) :
    step ⟨inner ++ opened, m⟩ c = .ok (t.within opened) ∧ t.Begun := by
  by_cases plain : blank c = true
  · rw [step_blank awaits plain] at next
    cases next
    rw [step_blank awaits plain]
    rcases awaits with rfl | rfl <;> exact ⟨rfl, inside⟩
  · rcases awaits with rfl | rfl
    · simp only [step, if_neg plain, orBroken_eq_ok_iff] at next ⊢
      rw [begin_within (keyWanted_append inside), next]
      exact ⟨rfl, begun_of_begin next⟩
    · simp only [step, if_neg plain, orBroken_eq_ok_iff] at next ⊢
      rw [close_within inside, begin_within (keyWanted_append inside)]
      cases closes : close c inner with
      | some u =>
        rw [closes] at next
        cases next
        exact ⟨rfl, begun_of_close closes⟩
      | none =>
        rw [closes] at next
        change begin inner c = some t at next
        rw [next]
        exact ⟨rfl, begun_of_begin next⟩

/-- A step inside a value is the same step whatever is open in front. -/
theorem step_within (begun : s.Begun) (next : step s c = .ok t) :
    step (s.within opened) c = .ok (t.within opened) ∧ t.Begun := by
  obtain ⟨inner, mode⟩ := s
  cases mode with
  | value => exact step_awaits_within (.inl rfl) begun next
  | valueOrEnd => exact step_awaits_within (.inr rfl) begun next
  | colon | commaOrEnd =>
    simp only [State.within, step, orBroken_eq_ok_iff] at next ⊢
    exact resume_within begun next
  | done d =>
    have outermost : inner = [] := begun
    subst outermost
    rw [step, orBroken_eq_ok_iff] at next
    change step (deliver d opened) c = _ ∧ _
    rw [step_deliver, orBroken_eq_ok_iff]
    exact resume_within begun next
  | word letters d =>
    cases letters with
    | nil => cases next
    | cons x letters =>
      simp only [State.within, step, orBroken_eq_ok_iff] at next ⊢
      obtain ⟨same, next⟩ := Option.ite_none_right_eq_some.mp next
      rw [if_pos same]
      cases next
      cases letters with
      | nil => exact ⟨congrArg some (within_deliver d inner).symm, begun_deliver d inner⟩
      | cons y letters => exact ⟨rfl, trivial⟩
  | text spelling =>
    simp only [State.within, step] at next ⊢
    split_ifs at next ⊢ <;> cases next
    · rw [← within_deliver]
      exact ⟨rfl, begun_deliver _ inner⟩
    · exact ⟨rfl, trivial⟩
    · exact ⟨rfl, trivial⟩
  | escape spelling =>
    simp only [State.within, step] at next ⊢
    split_ifs at next ⊢
    · cases next
      exact ⟨rfl, trivial⟩
    · rw [orBroken_eq_ok_iff] at next
      obtain ⟨e, named, rfl⟩ := Option.map_eq_some_iff.mp next
      rw [named]
      exact ⟨rfl, trivial⟩
  | unit spelling digits =>
    simp only [State.within, step] at next ⊢
    split_ifs at next ⊢
    · cases next
      exact ⟨rfl, trivial⟩
    · rw [orBroken_eq_ok_iff] at next
      obtain ⟨u, code, rfl⟩ := Option.map_eq_some_iff.mp next
      rw [code]
      exact ⟨rfl, trivial⟩
  | number n part =>
    simp only [State.within, step] at next ⊢
    cases longer : extend n c part with
    | some extended =>
      rw [longer] at next
      cases next
      exact ⟨rfl, trivial⟩
    | none =>
      rw [longer] at next
      dsimp only at next ⊢
      split_ifs at next ⊢
      rw [orBroken_eq_ok_iff] at next ⊢
      rw [← within_deliver]
      exact resume_within (begun_deliver _ inner) next

theorem foldlM_within (begun : s.Begun) (read : cs.foldlM step s = .ok t) :
    cs.foldlM step (s.within opened) = .ok (t.within opened) ∧ t.Begun := by
  induction cs generalizing s with
  | nil =>
    cases read
    exact ⟨rfl, begun⟩
  | cons c cs ih =>
    rw [List.foldlM_cons] at read ⊢
    obtain ⟨u, next, read⟩ := bind_eq_ok_iff.mp read
    obtain ⟨same, begun⟩ := step_within begun next
    rw [same]
    exact ih begun read

/-! ### Words -/

theorem isWord_unwind {f : Flaw} (fs : List Frame) (part : d.isWord = false) :
    (unwind f d fs).isWord = false := by
  induction fs generalizing d with
  | nil => exact part
  | cons frame fs ih => cases frame <;> exact ih rfl

theorem broken_ne_word {f : Flaw} (word : d.isWord = true) : s.broken f ≠ ⟨d, false⟩ := by
  intro same
  rw [State.broken] at same
  split at same
  · cases same
  · have part := isWord_unwind (f := f) s.opened (d := .cut f) rfl
    rw [(Reading.mk.inj same).1, word] at part
    cases part

theorem eq_broken_of_orBroken {r : Reading} {next : Option State}
    (stops : step.orBroken s next = .error r) : r = s.broken .malformed := by
  cases next with
  | none => exact (Except.error.inj stops).symm
  | some t => cases stops

theorem eq_broken_of_step {r : Reading} (stops : step s c = .error r) :
    ∃ u : State, r = u.broken .malformed := by
  obtain ⟨opened, mode⟩ := s
  cases mode with
  | value | valueOrEnd | colon | commaOrEnd | done d => exact ⟨_, eq_broken_of_orBroken stops⟩
  | word letters d =>
    cases letters with
    | nil => exact ⟨_, (Except.error.inj stops).symm⟩
    | cons x letters => exact ⟨_, eq_broken_of_orBroken stops⟩
  | text spelling =>
    simp only [step] at stops
    split_ifs at stops
    exact ⟨_, (Except.error.inj stops).symm⟩
  | escape spelling | unit spelling digits =>
    simp only [step] at stops
    split_ifs at stops
    exact ⟨_, eq_broken_of_orBroken stops⟩
  | number n part =>
    simp only [step] at stops
    split at stops
    · cases stops
    · split_ifs at stops
      · exact ⟨_, eq_broken_of_orBroken stops⟩
      · exact ⟨_, (Except.error.inj stops).symm⟩

theorem foldlM_eq_ok_of_word (word : d.isWord = true) (read : run s cs = ⟨d, false⟩) :
    ∃ t, cs.foldlM step s = .ok t ∧ t.settled.mode = .done d := by
  induction cs generalizing s with
  | nil =>
    refine ⟨s, rfl, ?_⟩
    rw [run_nil, State.ended] at read
    split at read
    next done => rw [done, (Reading.mk.inj read).1]
    next => exact absurd read (broken_ne_word word)
  | cons c cs ih =>
    rw [List.foldlM_cons]
    cases next : step s c with
    | error r =>
      obtain ⟨u, rfl⟩ := eq_broken_of_step next
      rw [run, List.foldlM_cons, next] at read
      exact absurd read (broken_ne_word word)
    | ok t =>
      rw [run_cons next] at read
      exact ih read

theorem eq_of_deliver_done (done : (deliver d inner).mode = .done e) : inner = [] ∧ d = e := by
  cases inner with
  | nil => exact ⟨rfl, Mode.done.inj done⟩
  | cons frame fs => cases frame <;> cases done

/-- A word that has begun is read inside others as it is read alone, up to a delimiter if it is a
number. -/
theorem run_within (begun : s.Begun) (word : d.isWord = true) (read : run s cs = ⟨d, false⟩)
    (delimited : ∀ n, d = .number n → Delimited rest) :
    run (s.within opened) (cs ++ rest) = run (deliver d opened) rest := by
  obtain ⟨t, steps, ended⟩ := foldlM_eq_ok_of_word word read
  have split : run (s.within opened) (cs ++ rest) = run (t.within opened) rest := by
    rw [run, run, List.foldlM_append, (foldlM_within begun steps).1]
    rfl
  rw [split]
  obtain ⟨inner, mode⟩ := t
  rw [State.settled] at ended
  split at ended
  next n part number =>
    split_ifs at ended with ends
    · obtain ⟨outermost, rfl⟩ := eq_of_deliver_done ended
      dsimp only at number outermost
      subst number outermost
      exact run_number ends (delimited n rfl)
    · rw [number] at ended
      cases ended
  next =>
    dsimp only at ended
    rw [ended]
    rfl

theorem begin_awaits (awaits : m.Awaits) (begins : begin [] c = some s)
    (wanted : keyWanted opened = false) : step ⟨opened, m⟩ c = .ok (s.within opened) := by
  have plain : blank c = false := by
    rw [Bool.eq_false_iff]
    rintro plain
    simp only [blank, Bool.or_eq_true, decide_eq_true_eq] at plain
    rcases plain with ((rfl | rfl) | rfl) | rfl <;> cases begins
  have bracket : c ≠ ']' := by
    rintro rfl
    cases begins
  have brace : c ≠ '}' := by
    rintro rfl
    cases begins
  refine step_begin awaits plain bracket brace ?_
  have unwanted : keyWanted ([] ++ opened) = keyWanted [] := wanted
  rw [← List.nil_append opened, begin_within unwanted, begins]
  rfl

/-- What alone is read as a word is read as this word wherever a value may come. -/
theorem run_word (awaits : m.Awaits) (wanted : keyWanted opened = false) (word : d.isWord = true)
    (read : readChars cs = ⟨d, false⟩) (delimited : ∀ n, d = .number n → Delimited rest) :
    run ⟨opened, m⟩ (cs ++ rest) = run (deliver d opened) rest := by
  induction cs with
  | nil =>
    cases read
    cases word
  | cons c cs ih =>
    change run ⟨[], .value⟩ (c :: cs) = _ at read
    by_cases plain : blank c = true
    · rw [run_cons (step_blank (.inl rfl) plain)] at read
      rw [List.cons_append, run_cons (step_blank awaits plain)]
      exact ih read
    · cases next : step ⟨[], .value⟩ c with
      | error r =>
        obtain ⟨u, rfl⟩ := eq_broken_of_step next
        rw [run, List.foldlM_cons, next] at read
        exact absurd read (broken_ne_word word)
      | ok s =>
        have begins : begin [] c = some s := by
          rwa [step, orBroken_eq_ok_iff, if_neg plain] at next
        rw [run_cons next] at read
        rw [List.cons_append, run_cons (begin_awaits awaits begins wanted)]
        exact run_within (begun_of_begin begins) word read delimited

theorem run_quoted {name : Option String} (awaits : m.Awaits)
    (read : readChars ('"' :: cs) = ⟨.text name, false⟩) :
    run ⟨opened, m⟩ ('"' :: cs ++ rest) = run (deliver (.text name) opened) rest := by
  have first : step ⟨opened, m⟩ '"' = .ok ⟨opened, .text (.whole [])⟩ :=
    step_begin awaits rfl (by decide) (by decide) rfl
  change run start ('"' :: cs) = _ at read
  rw [run_cons (t := ⟨[], .text (.whole [])⟩) rfl] at read
  rw [List.cons_append, run_cons first]
  exact run_within (s := ⟨[], .text (.whole [])⟩) trivial rfl read nofun

theorem run_blanks (awaits : m.Awaits) (plain : ∀ c ∈ cs, blank c = true) :
    run ⟨opened, m⟩ (cs ++ rest) = run ⟨opened, m⟩ rest := by
  induction cs with
  | nil => rfl
  | cons c cs ih =>
    obtain ⟨first, others⟩ := List.forall_mem_cons.mp plain
    rw [List.cons_append, run_cons (step_blank awaits first), ih others]

theorem run_blanks_behind (plain : ∀ c ∈ cs, blank c = true) :
    run (deliver d opened) (cs ++ rest) = run (deliver d opened) rest := by
  induction cs with
  | nil => rfl
  | cons c cs ih =>
    obtain ⟨first, others⟩ := List.forall_mem_cons.mp plain
    have stays : step (deliver d opened) c = .ok (deliver d opened) := by
      rw [step_deliver, orBroken_eq_ok_iff, resume, if_pos first]
    rw [List.cons_append, run_cons stays, ih others]

end Reader

end RouteLoom
