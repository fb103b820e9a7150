import RouteLoom.Proofs.Tree.Located
import RouteLoom.Route.Outline
import Mathlib.Data.List.Forall2

/-!
# What an outline tells

The text of a route can be taken apart again, as long as no name in it has a line feed. No text of a
node begins with a blank, so the depth of a node can be read off its line, whatever blanks and signs
its names have.
-/

namespace RouteLoom

variable {n m : Node} {f g : Forest} {r s : Route} {depth : Nat}

/-! ### Lines -/

/-- What an entry of an outline can have for its text: it stands on one line, and the blanks in front
of it are not its own. -/
def Legible (text : String) : Prop := '\n' ∉ text.toList ∧ text.toList.head? ≠ some ' '

def lineOf (entry : Nat × String) : List Char :=
  List.replicate (2 * entry.1) ' ' ++ entry.2.toList

def entryOf (line : List Char) : Nat × String :=
  ((line.takeWhile (· = ' ')).length / 2, String.ofList (line.dropWhile (· = ' ')))

theorem toList_indented (entry : Nat × String) :
    (indented entry.1 entry.2).toList = lineOf entry ++ ['\n'] := by
  rw [indented, String.toList_append, String.toList_append, String.toList_ofList]
  rfl

theorem newline_not_mem_lineOf {entry : Nat × String} (legible : Legible entry.2) :
    '\n' ∉ lineOf entry := by
  rw [lineOf, List.mem_append]
  rintro (blank | own)
  · have same : '\n' = ' ' := List.eq_of_mem_replicate blank
    exact absurd same (by decide)
  · exact legible.1 own

theorem entryOf_lineOf {entry : Nat × String} (legible : Legible entry.2) :
    entryOf (lineOf entry) = entry := by
  obtain ⟨depth, text⟩ := entry
  have blanks : ∀ c ∈ List.replicate (2 * depth) ' ', (decide (c = ' ')) = true := fun c hc =>
    decide_eq_true (List.eq_of_mem_replicate hc)
  have front : text.toList.takeWhile (· = ' ') = [] ∧
      text.toList.dropWhile (· = ' ') = text.toList := by
    cases chars : text.toList with
    | nil => exact ⟨rfl, rfl⟩
    | cons c rest =>
      have other : c ≠ ' ' := fun same => legible.2 (by rw [chars, List.head?_cons, same])
      exact ⟨List.takeWhile_cons_of_neg (by simpa using other),
        List.dropWhile_cons_of_neg (by simpa using other)⟩
  rw [entryOf, lineOf, List.takeWhile_append_of_pos blanks, List.dropWhile_append_of_pos blanks,
    front.1, front.2, List.append_nil, List.length_replicate, String.ofList_toList,
    Nat.mul_div_cancel_left depth Nat.two_pos]

theorem splitOn_indented {entries : List (Nat × String)} (legible : ∀ e ∈ entries, Legible e.2) :
    ((entries.flatMap fun e => (indented e.1 e.2).toList).splitOn '\n') =
      entries.map lineOf ++ [[]] := by
  induction entries with
  | nil => rfl
  | cons e rest ih =>
    have alone : '\n' ∉ lineOf e := newline_not_mem_lineOf (legible e List.mem_cons_self)
    rw [List.flatMap_cons, toList_indented, List.append_assoc, List.singleton_append,
      List.splitOn_append_cons_self_of_not_mem alone,
      ih fun e' he' => legible e' (List.mem_cons_of_mem e he'), List.map_cons, List.cons_append]

/-! ### Texts -/

def Kind.wording : Kind → List String
  | .step uri => [uri]
  | .onException exceptions _ => exceptions
  | .proceed => []
  | .proxy intercept => [intercept]

def Node.wording (n : Node) : List String := n.kind.wording ++ n.id.toList

structure Route.Unbroken (r : Route) : Prop where
  id : '\n' ∉ r.id.toList
  names : ∀ n ∈ Forest.preorder r.outputs, ∀ name ∈ n.wording, '\n' ∉ name.toList

theorem not_mem_intercalate {c : Char} {separator : String} {names : List String}
    (apart : c ∉ separator.toList) (free : ∀ name ∈ names, c ∉ name.toList) :
    c ∉ (separator.intercalate names).toList := by
  rw [String.toList_intercalate]
  induction names with
  | nil => exact List.not_mem_nil
  | cons name rest ih =>
    have first : c ∉ name.toList := free name List.mem_cons_self
    have later := ih fun other ho => free other (List.mem_cons_of_mem name ho)
    cases rest with
    | nil => simpa using first
    | cons next rest =>
      rw [List.map_cons] at later
      rw [List.map_cons, List.map_cons, List.intercalate_cons_cons, List.mem_append,
        List.mem_append]
      exact not_or.mpr ⟨not_or.mpr ⟨first, apart⟩, later⟩

theorem Kind.text_onException (exceptions : List String) (handled : Bool) :
    (onException exceptions handled).text =
      "onException(" ++ ", ".intercalate exceptions ++ ")" ++ if handled then " handled" else "" :=
  rfl

theorem Kind.newline_not_mem_text {k : Kind} (free : ∀ name ∈ k.wording, '\n' ∉ name.toList) :
    '\n' ∉ k.text.toList := by
  cases k with
  | step uri =>
    have own : '\n' ∉ uri.toList := free uri (List.mem_singleton_self uri)
    change '\n' ∉ ("to(" ++ uri ++ ")").toList
    simpa using own
  | onException exceptions handled =>
    have listed : '\n' ∉ (", ".intercalate exceptions).toList :=
      not_mem_intercalate (by decide) free
    rw [Kind.text_onException]
    cases handled <;> simpa using listed
  | proceed => decide
  | proxy intercept =>
    have own : '\n' ∉ intercept.toList := free intercept (List.mem_singleton_self intercept)
    change '\n' ∉ ("intercept(" ++ intercept ++ ")").toList
    simpa using own

theorem Kind.head?_text (k : Kind) : ∃ c, k.text.toList.head? = some c ∧ c ≠ ' ' := by
  cases k with
  | step uri =>
    refine ⟨'t', ?_, by decide⟩
    change ("to(" ++ uri ++ ")").toList.head? = some 't'
    simp
  | onException exceptions handled =>
    refine ⟨'o', ?_, by decide⟩
    rw [Kind.text_onException]
    simp
  | proceed => exact ⟨'p', rfl, by decide⟩
  | proxy intercept =>
    refine ⟨'i', ?_, by decide⟩
    change ("intercept(" ++ intercept ++ ")").toList.head? = some 'i'
    simp

theorem Kind.legible_text_append {k : Kind} {more : String}
    (free : ∀ name ∈ k.wording, '\n' ∉ name.toList) (behind : '\n' ∉ more.toList) :
    Legible (k.text ++ more) := by
  obtain ⟨c, first, other⟩ := k.head?_text
  rw [Legible, String.toList_append, List.head?_append, first, List.mem_append]
  exact ⟨not_or.mpr ⟨Kind.newline_not_mem_text free, behind⟩,
    fun same => other (Option.some.inj same)⟩

theorem Node.legible_text (free : ∀ name ∈ n.wording, '\n' ∉ name.toList) : Legible n.text := by
  have of_kind : ∀ name ∈ n.kind.wording, '\n' ∉ name.toList := fun name hname =>
    free name (List.mem_append_left _ hname)
  obtain ⟨kind, id, outputs⟩ := n
  cases id with
  | none => exact Kind.legible_text_append of_kind List.not_mem_nil
  | some id =>
    have of_id : '\n' ∉ id.toList :=
      free id (List.mem_append_right _ (List.mem_singleton_self id))
    have behind : '\n' ∉ (" #" ++ id).toList := by simpa using of_id
    exact Kind.legible_text_append of_kind behind

/-! ### Entries -/

mutual

theorem Node.outline_eq_located (n : Node) (depth : Nat) :
    n.outline depth = n.located.map fun e => (depth + e.1.length, e.2.text) := by
  cases n with
  | mk kind id outputs =>
    rw [Node.outline, Node.located, List.map_cons, Forest.outline_eq_located outputs depth]
    rfl
termination_by sizeOf n

/-- The entries are those of the nodes in pre-order, each as deep as its address is long. -/
theorem Forest.outline_eq_located (f : Forest) (depth : Nat) :
    Forest.outline (depth + 1) f =
      (Forest.located f).map fun e => (depth + e.1.length, e.2.text) := by
  cases f with
  | nil => simp [Forest.outline, Forest.located]
  | cons n rest =>
    have shifted (a : Address) : a.shift.length = a.length := by cases a <;> rfl
    rw [Forest.outline, Forest.located, Node.outline_eq_located n (depth + 1),
      Forest.outline_eq_located rest depth, List.map_append, List.map_map, List.map_map]
    congr 1
    · refine List.map_congr_left fun e _ => ?_
      rw [Function.comp_apply, Prod.map_fst, Prod.map_snd, List.length_cons, id,
        Nat.add_right_comm, Nat.add_assoc]
    · refine List.map_congr_left fun e _ => ?_
      rw [Function.comp_apply, Prod.map_fst, Prod.map_snd, shifted, id]
termination_by sizeOf f

end

theorem Route.outline_eq_located (r : Route) :
    r.outline = (0, "route " ++ r.id) ::
      (Forest.located r.outputs).map fun e => (e.1.length, e.2.text) := by
  rw [Route.outline, ← Nat.zero_add 1, Forest.outline_eq_located]
  simp only [Nat.zero_add]

theorem Route.Unbroken.legible (unbroken : r.Unbroken) : ∀ e ∈ r.outline, Legible e.2 := by
  rw [Route.outline_eq_located]
  intro e he
  rcases List.mem_cons.mp he with rfl | below
  · have heading : ("route " ++ r.id).toList = "route ".toList ++ r.id.toList :=
      String.toList_append ..
    rw [Legible, heading, List.mem_append]
    exact ⟨not_or.mpr ⟨by decide, unbroken.id⟩, by simp⟩
  · obtain ⟨⟨a, n⟩, listed, rfl⟩ := List.mem_map.mp below
    have node : n ∈ Forest.preorder r.outputs := by
      rw [← Forest.map_snd_located]
      exact List.mem_map_of_mem listed
    exact Node.legible_text (unbroken.names n node)

theorem Route.Unbroken.splitOn_render (unbroken : r.Unbroken) :
    r.render.toList.splitOn '\n' = r.outline.map lineOf ++ [[]] := by
  rw [← splitOn_indented unbroken.legible, Route.render, String.toList_join, List.flatMap_map]

theorem Route.Unbroken.entries_of_render (unbroken : r.Unbroken) :
    (r.render.toList.splitOn '\n').dropLast.map entryOf = r.outline := by
  rw [unbroken.splitOn_render, List.dropLast_concat, List.map_map]
  have each : r.outline.map (entryOf ∘ lineOf) = r.outline.map fun e => e :=
    List.map_congr_left fun e he => entryOf_lineOf (unbroken.legible e he)
  rw [each, List.map_id']

/-! ### Trees -/

/-- Nodes that read alike and have as many outputs, each of which is like the other's. -/
inductive Node.Alike : Node → Node → Prop
  | intro {n m : Node} (text : n.text = m.text)
      (outputs : List.Forall₂ Node.Alike n.outputs m.outputs) : Node.Alike n m

/-- The rest of an outline begins with an entry that is less deep, or there is no rest. -/
def EndsBefore (depth : Nat) (rest : List (Nat × String)) : Prop := ∀ e ∈ rest.head?, e.1 < depth

theorem EndsBefore.succ {rest : List (Nat × String)} (ends : EndsBefore depth rest) :
    EndsBefore (depth + 1) rest := fun e he => Nat.lt_succ_of_lt (ends e he)

theorem Forest.outline_cons (depth : Nat) (n : Node) (f : Forest) :
    Forest.outline depth (n :: f) =
      (depth, n.text) :: (Forest.outline (depth + 1) n.outputs ++ Forest.outline depth f) := by
  cases n
  rw [Forest.outline, Node.outline, List.cons_append]
  rfl

theorem EndsBefore.append_outline {rest : List (Nat × String)} (ends : EndsBefore depth rest)
    (f : Forest) : EndsBefore (depth + 1) (Forest.outline depth f ++ rest) := by
  cases f with
  | nil =>
    rw [Forest.outline, List.nil_append]
    exact ends.succ
  | cons n f =>
    rw [Forest.outline_cons]
    intro e he
    cases he
    exact Nat.lt_succ_self depth

/-- The entries of trees tell the trees, and where their entries end. -/
theorem Forest.alike_of_outline (f g : Forest) {depth : Nat} {rest rest' : List (Nat × String)}
    (ends : EndsBefore depth rest) (ends' : EndsBefore depth rest')
    (same : Forest.outline depth f ++ rest = Forest.outline depth g ++ rest') :
    List.Forall₂ Node.Alike f g ∧ rest = rest' := by
  match f, g with
  | [], [] =>
    rw [Forest.outline, List.nil_append, List.nil_append] at same
    exact ⟨.nil, same⟩
  | [], m :: g =>
    rw [Forest.outline_cons, Forest.outline, List.nil_append] at same
    exact absurd (ends _ (by rw [same]; rfl)) (Nat.lt_irrefl depth)
  | n :: f, [] =>
    rw [Forest.outline_cons, Forest.outline, List.nil_append] at same
    exact absurd (ends' _ (by rw [← same]; rfl)) (Nat.lt_irrefl depth)
  | ⟨kind, id, outputs⟩ :: f, ⟨kind', id', outputs'⟩ :: g =>
    rw [Forest.outline_cons, Forest.outline_cons, List.cons_append, List.cons_append,
      List.append_assoc, List.append_assoc, List.cons.injEq] at same
    obtain ⟨top, below⟩ := same
    -- The outputs end at the next entry that is no deeper than their node, whichever tree it is of.
    obtain ⟨inner, behind⟩ := Forest.alike_of_outline outputs outputs'
      (ends.append_outline f) (ends'.append_outline g) below
    obtain ⟨others, remaining⟩ := Forest.alike_of_outline f g ends ends' behind
    exact ⟨.cons (.intro (congrArg Prod.snd top) inner) others, remaining⟩
termination_by sizeOf f

/-! ### Paths -/

section

variable {α β γ δ : Type} {R : α → β → Prop} {S : γ → δ → Prop}

theorem rel_getElem?_of_forall₂ {l : List α} {l' : List β} (each : List.Forall₂ R l l') (i : Nat) :
    Option.Rel R l[i]? l'[i]? := by
  induction each generalizing i with
  | nil => exact .none
  | cons first later ih =>
    cases i with
    | zero => exact .some first
    | succ i => exact ih i

theorem rel_bind {x : Option α} {y : Option β} {next : α → Option γ} {next' : β → Option δ}
    (first : Option.Rel R x y) (onward : ∀ a b, R a b → Option.Rel S (next a) (next' b)) :
    Option.Rel S (x.bind next) (y.bind next') := by
  cases first with
  | none => exact .none
  | some related => exact onward _ _ related

theorem rel_map_eq {x : Option α} {y : Option β} {view : α → γ} {view' : β → γ}
    (related : Option.Rel R x y) (same : ∀ a b, R a b → view a = view' b) :
    x.map view = y.map view' := by
  cases related with
  | none => rfl
  | some related => exact congrArg some (same _ _ related)

end

theorem Node.Alike.at? (alike : n.Alike m) (a : Address) :
    Option.Rel Node.Alike (Node.at? a n) (Node.at? a m) := by
  induction a generalizing n m with
  | nil => exact .some alike
  | cons i rest ih =>
    obtain ⟨-, outputs⟩ := alike
    exact rel_bind (rel_getElem?_of_forall₂ outputs i) fun _ _ same => ih same

theorem Forest.alike_at? (alike : List.Forall₂ Node.Alike f g) (a : Address) :
    Option.Rel Node.Alike (Forest.at? a f) (Forest.at? a g) := by
  cases a with
  | nil => exact .none
  | cons i rest => exact rel_bind (rel_getElem?_of_forall₂ alike i) fun _ _ same => same.at? rest

/-! ### The whole text -/

namespace Route

/-- The text of a route has one line for the route and one for each of its nodes, in pre-order, with
two blanks in front for each index of the node's address. Routes with the same text have the same id
and trees of the same shape, and whatever an address leads to reads alike in both. -/
theorem render_determines {r s : Route} (unbroken : r.Unbroken) (unbroken' : s.Unbroken) :
    (r.render.toList.splitOn '\n' =
        ("route " ++ r.id).toList ::
          (Forest.located r.outputs).map (fun (a, n) =>
            List.replicate (2 * a.length) ' ' ++ n.text.toList) ++ [[]] ∧
      (Forest.located r.outputs).map Prod.snd = Forest.preorder r.outputs ∧
      Enumerates (Forest.located r.outputs) r.at?) ∧
    (r.render = s.render →
      r.id = s.id ∧ List.Forall₂ Node.Alike r.outputs s.outputs ∧
        ∀ a, (r.at? a).map Node.text = (s.at? a).map Node.text) := by
  refine ⟨⟨?_, Forest.map_snd_located r.outputs, Forest.enumerates_located r.outputs⟩, ?_⟩
  · rw [unbroken.splitOn_render, outline_eq_located, List.map_cons, List.map_map]
    rfl
  · intro same
    have entries : r.outline = s.outline := by
      rw [← unbroken.entries_of_render, ← unbroken'.entries_of_render, same]
    obtain ⟨heading, trees⟩ := List.cons.inj entries
    have ids : r.id = s.id := by
      have chars := congrArg String.toList (congrArg Prod.snd heading)
      rw [String.toList_append, String.toList_append, List.append_cancel_left_eq] at chars
      exact String.toList_inj.mp chars
    have ended : EndsBefore 1 [] := nofun
    have alike : List.Forall₂ Node.Alike r.outputs s.outputs :=
      (Forest.alike_of_outline r.outputs s.outputs ended ended
        (by rw [List.append_nil, List.append_nil, trees])).1
    exact ⟨ids, alike, fun a => rel_map_eq (Forest.alike_at? alike a) fun _ _ ⟨text, _⟩ => text⟩

/-- The signs that an outline uses may stand in names as well. So two routes that differ can have the
same text, and then they read alike everywhere. -/
theorem render_determines_lookalikes :
    let tail : Forest := [Node.step "  log:(x)", Node.marker]
    let clause (exceptions : List String) : Node := ⟨.onException exceptions true, none, tail⟩
    let r : Route := ⟨"orders ", [⟨.step "a", some "b)", [clause ["A", "B"]]⟩]⟩
    let s : Route := ⟨"orders ", [⟨.step "a) #b", none, [clause ["A, B"]]⟩]⟩
    r.Unbroken ∧ s.Unbroken ∧ r ≠ s ∧ r.render = s.render ∧
    r.render.toList.splitOn '\n' = ["route orders ", "  to(a) #b)", "    onException(A, B) handled",
      "      to(  log:(x))", "      proceed", ""].map String.toList ∧
    r.id = s.id ∧ List.Forall₂ Node.Alike r.outputs s.outputs ∧
      ∀ a, (r.at? a).map Node.text = (s.at? a).map Node.text := by
  intro tail clause r s
  have unbroken : r.Unbroken := ⟨by decide, by decide⟩
  have unbroken' : s.Unbroken := ⟨by decide, by decide⟩
  have same : r.render = s.render := by decide +kernel
  obtain ⟨⟨lines, -, -⟩, determined⟩ := render_determines unbroken unbroken'
  exact ⟨unbroken, unbroken', by decide, same, lines.trans (by decide +kernel), determined same⟩

end Route

end RouteLoom
