import RouteLoom.Assembly.Assembler
import RouteLoom.Assembly.Channel

/-!
# What a receiver is told

A channel stands for the history of all that was sent on it, of which it keeps the end. What a
receiver gets is a matter of that history alone: each message from where it joined, in order, and
in place of those that were no longer kept their exact number.
-/

namespace RouteLoom

namespace Channel

variable {α : Type} {c : Channel α} {history : List α} {rx next n : Nat} {a : α}

/-- `history` was sent on the channel, which keeps the end of it. -/
structure Carried (c : Channel α) (history : List α) : Prop where
  sent : c.sent = history.length
  kept : c.kept = history.reverse.take c.capacity

theorem carried_ofCapacity (made : ofCapacity? n = some c) :
    c.Carried [] ∧ c.capacity = n.nextPowerOfTwo := by
  rw [ofCapacity?] at made
  split at made
  · cases made
  · cases made
    exact ⟨⟨rfl, List.take_nil.symm⟩, rfl⟩

theorem receivers_subscribe (c : Channel α) :
    c.subscribe.2.receivers[c.subscribe.1]? = some (some c.sent) :=
  List.getElem?_concat_length

def wanting (c : Channel α) (rx next : Nat) : Channel α :=
  { c with receivers := c.receivers.set rx (some next) }

theorem wanting_wanting (c : Channel α) (rx next n : Nat) :
    (c.wanting rx next).wanting rx n = c.wanting rx n := by
  simp only [wanting, List.set_set]

theorem wanting_self (there : c.receivers[rx]? = some (some next)) : c.wanting rx next = c := by
  have here : c.receivers.set rx (some next) = c.receivers := by
    apply List.ext_getElem?
    intro i
    by_cases hi : rx = i
    · subst hi
      rw [List.getElem?_set_self (List.getElem?_eq_some_iff.mp there).1, there]
    · rw [List.getElem?_set_ne hi]
  rw [wanting, here]

theorem receivers_wanting (there : c.receivers[rx]? = some (some next)) (n : Nat) :
    (c.wanting rx n).receivers[rx]? = some (some n) :=
  List.getElem?_set_self (List.getElem?_eq_some_iff.mp there).1

theorem receive_eq (there : c.receivers[rx]? = some (some next)) :
    c.receive rx = ((c.answer next).1, c.wanting rx (c.answer next).2) := by
  rw [receive, there]
  rfl

namespace Carried

variable (carried : c.Carried history)
include carried

theorem send (a : α) : (c.send a).Carried (history ++ [a]) := by
  constructor
  · rw [Channel.send, carried.sent, List.length_append, List.length_singleton]
  · rw [Channel.send, carried.kept, List.reverse_append, List.reverse_singleton,
      List.singleton_append]
    cases c.capacity with
    | zero => rfl
    | succ k => rw [List.take_succ_cons, List.take_succ_cons, List.take_take,
        Nat.min_eq_left k.le_succ]

theorem wanting (rx next : Nat) : (c.wanting rx next).Carried history :=
  ⟨carried.sent, carried.kept⟩

theorem oldest : c.oldest = history.length - c.capacity := by
  rw [Channel.oldest, carried.sent, carried.kept, List.length_take, List.length_reverse]
  omega

/-! ### One answer -/

theorem answer_late (late : next < history.length - c.capacity) :
    c.answer next =
      (.lagged (history.length - c.capacity - next), history.length - c.capacity) := by
  rw [answer, carried.oldest, if_pos late]

theorem answer_message (kept : history.length - c.capacity ≤ next)
    (there : history[next]? = some a) : c.answer next = (.message a, next + 1) := by
  obtain ⟨bound, _⟩ := List.getElem?_eq_some_iff.mp there
  have place : history.length - 1 - next < c.capacity := by omega
  have found : c.kept[c.sent - 1 - next]? = some a := by
    rw [carried.sent, carried.kept, List.getElem?_take_of_lt place,
      List.getElem?_reverse (by omega)]
    rw [show history.length - 1 - (history.length - 1 - next) = next by omega, there]
  rw [answer, carried.oldest, if_neg (by omega), carried.sent, if_pos bound, ← carried.sent, found]

theorem answer_latest (latest : history.length ≤ next) :
    c.answer next = (if c.closed then .closed else .empty, next) := by
  rw [answer, carried.oldest, if_neg (by omega), carried.sent, if_neg (by omega)]

end Carried

/-! ### Any use of a channel -/

inductive Operation (α : Type)
  | subscribe
  | leave (receiver : Nat)
  | send (a : α)
  | close
  | receive (receiver : Nat)

def step (c : Channel α) : Operation α → Channel α
  | .subscribe => c.subscribe.2
  | .leave n => c.leave n
  | .send a => c.send a
  | .close => c.close
  | .receive n => (c.receive n).2

/-- What one receiver gets in a step. -/
def gets (c : Channel α) (rx : Nat) : Operation α → List (Received α)
  | .receive n => if n = rx then [(c.receive rx).1] else []
  | _ => []

/-- What one receiver gets while the channel is used. -/
def hears (rx : Nat) : Channel α → List (Operation α) → List (Received α)
  | _, [] => []
  | c, op :: ops => c.gets rx op ++ hears rx (c.step op) ops

def sends : Operation α → List α
  | .send a => [a]
  | _ => []

/-- What was received leads from one place of the history to another: no message is skipped but
those that are counted, each with more messages behind it than the channel keeps, and none is given
twice. -/
inductive Accounts (capacity : Nat) (history : List α) : Nat → List (Received α) → Nat → Prop
  | nothing (n : Nat) : Accounts capacity history n [] n
  | message {n m : Nat} {a : α} {got : List (Received α)} (there : history[n]? = some a)
      (rest : Accounts capacity history (n + 1) got m) :
      Accounts capacity history n (.message a :: got) m
  | lagged {n m missed : Nat} {got : List (Received α)} (some_missed : 0 < missed)
      (full : n + missed + capacity ≤ history.length)
      (rest : Accounts capacity history (n + missed) got m) :
      Accounts capacity history n (.lagged missed :: got) m
  | empty {n m : Nat} {got : List (Received α)} (rest : Accounts capacity history n got m) :
      Accounts capacity history n (.empty :: got) m
  | closed {n m : Nat} {got : List (Received α)} (rest : Accounts capacity history n got m) :
      Accounts capacity history n (.closed :: got) m

theorem receivers_receive (c : Channel α) (n : Nat) :
    (c.receive n).2 = c ∨ ∃ next, (c.receive n).2 = c.wanting n next := by
  rw [receive]
  cases c.receivers[n]?.join with
  | none => exact .inl rfl
  | some next => exact .inr ⟨_, rfl⟩

theorem capacity_step (c : Channel α) (op : Operation α) : (c.step op).capacity = c.capacity := by
  cases op with
  | receive n =>
    show (c.receive n).2.capacity = c.capacity
    obtain same | ⟨next, same⟩ := c.receivers_receive n
    · rw [same]
    · rw [same, wanting]
  | _ => rfl

theorem Carried.step (carried : c.Carried history) (op : Operation α) :
    (c.step op).Carried (history ++ sends op) := by
  cases op with
  | send a => exact carried.send a
  | receive n =>
    show (c.receive n).2.Carried (history ++ [])
    rw [List.append_nil]
    obtain same | ⟨next, same⟩ := c.receivers_receive n
    · rw [same]
      exact carried
    · rw [same]
      exact carried.wanting n next
  | _ =>
    change Carried _ (history ++ [])
    rw [List.append_nil]
    exact ⟨carried.sent, carried.kept⟩

theorem Carried.accounts_answer (carried : c.Carried history) (later : List α)
    {got : List (Received α)} {m : Nat}
    (rest : Accounts c.capacity (history ++ later) (c.answer next).2 got m) :
    Accounts c.capacity (history ++ later) next ((c.answer next).1 :: got) m := by
  by_cases late : next < history.length - c.capacity
  · rw [carried.answer_late late] at rest ⊢
    apply Accounts.lagged
    · omega
    · rw [List.length_append]
      omega
    · rw [Nat.add_sub_of_le (Nat.le_of_lt late)]
      exact rest
  · by_cases bound : next < history.length
    · have there := List.getElem?_eq_getElem bound
      rw [carried.answer_message (Nat.le_of_not_lt late) there] at rest ⊢
      refine .message ?_ rest
      rw [List.getElem?_append_left bound, there]
    · rw [carried.answer_latest (Nat.le_of_not_lt bound)] at rest ⊢
      cases c.closed with
      | true => exact .closed rest
      | false => exact .empty rest

/-- A step leads a receiver that does not leave from the message it wants to the one it wants then,
and what it gets is accounted for. -/
theorem Carried.accounts_step (carried : c.Carried history)
    (there : c.receivers[rx]? = some (some next)) {op : Operation α} (stays : op ≠ .leave rx) :
    ∃ n, (c.step op).receivers[rx]? = some (some n) ∧
      ∀ (later : List α) (got : List (Received α)) (m : Nat),
        Accounts c.capacity (history ++ later) n got m →
          Accounts c.capacity (history ++ later) next (c.gets rx op ++ got) m := by
  cases op with
  | subscribe =>
    refine ⟨next, ?_, ?_⟩
    · rw [← there]
      apply List.getElem?_append_left
      exact (List.getElem?_eq_some_iff.mp there).1
    · intro later got m rest
      exact rest
  | leave n =>
    refine ⟨next, ?_, ?_⟩
    · rw [← there]
      apply List.getElem?_set_ne
      intro same
      exact stays (congrArg Operation.leave same)
    · intro later got m rest
      exact rest
  | send a =>
    refine ⟨next, there, ?_⟩
    intro later got m rest
    exact rest
  | close =>
    refine ⟨next, there, ?_⟩
    intro later got m rest
    exact rest
  | receive n =>
    by_cases same : n = rx
    · subst same
      rw [Channel.step, gets, if_pos rfl, receive_eq there]
      refine ⟨_, receivers_wanting there _, ?_⟩
      intro later got m rest
      exact carried.accounts_answer later rest
    · refine ⟨next, ?_, ?_⟩
      · show (c.receive n).2.receivers[rx]? = some (some next)
        obtain unchanged | ⟨_, changed⟩ := c.receivers_receive n
        · rw [unchanged, there]
        · rw [changed, ← there]
          apply List.getElem?_set_ne
          exact same
      · intro later got m rest
        rw [gets, if_neg same]
        exact rest

/-- However a channel is used, a receiver that stays gets what is sent from its place on, in order,
but for messages whose number it is told. -/
theorem accounts_hears (ops : List (Operation α)) (carried : c.Carried history)
    (there : c.receivers[rx]? = some (some next)) (stays : ∀ op ∈ ops, op ≠ .leave rx) :
    ∃ n, (ops.foldl step c).receivers[rx]? = some (some n) ∧
      Accounts c.capacity (history ++ ops.flatMap sends) next (c.hears rx ops) n := by
  induction ops generalizing c history next with
  | nil => exact ⟨next, there, .nothing next⟩
  | cons op ops ih =>
    obtain ⟨stay, others⟩ := List.forall_mem_cons.mp stays
    obtain ⟨mid, place, leads⟩ := carried.accounts_step there stay
    obtain ⟨n, last, accounts⟩ := ih (carried.step op) place others
    rw [List.append_assoc, capacity_step] at accounts
    exact ⟨n, last, leads _ _ n accounts⟩

/-! ### Drained after every batch -/

def emit (c : Channel α) (batch : List α) : Channel α := batch.foldl send c

theorem Carried.emit (carried : c.Carried history) (batch : List α) :
    (c.emit batch).Carried (history ++ batch) := by
  induction batch generalizing c history with
  | nil =>
    rw [List.append_nil]
    exact carried
  | cons a batch ih =>
    rw [List.append_cons]
    exact ih (carried.send a)

theorem emit_capacity (c : Channel α) (batch : List α) : (c.emit batch).capacity = c.capacity := by
  induction batch generalizing c with
  | nil => rfl
  | cons a batch ih => exact ih (c.send a)

theorem emit_receivers (c : Channel α) (batch : List α) :
    (c.emit batch).receivers = c.receivers := by
  induction batch generalizing c with
  | nil => rfl
  | cons a batch ih => exact ih (c.send a)

theorem Carried.drain_kept (carried : c.Carried history)
    (there : c.receivers[rx]? = some (some next))
    (kept : history.length - c.capacity ≤ next) (known : next ≤ history.length) {turns : Nat}
    (enough : history.length - next ≤ turns) :
    c.drain rx turns =
      ((history.drop next).map .message, c.wanting rx history.length) := by
  induction turns generalizing c next with
  | zero =>
    have latest : next = history.length := by omega
    subst latest
    rw [drain, List.drop_length, wanting_self there]
    rfl
  | succ turns ih =>
    by_cases bound : next < history.length
    · rw [drain, receive_eq there, carried.answer_message kept (List.getElem?_eq_getElem bound)]
      dsimp only
      have later : history.length - (c.wanting rx (next + 1)).capacity ≤ next + 1 :=
        Nat.le_succ_of_le kept
      rw [ih (carried.wanting rx _) (receivers_wanting there _) later bound (by omega),
        wanting_wanting, List.drop_eq_getElem_cons bound]
      rfl
    · have latest : next = history.length := by omega
      subst latest
      rw [drain, receive_eq there, carried.answer_latest Nat.le.refl, List.drop_length]
      cases c.closed <;> rfl

theorem Carried.drain_late (carried : c.Carried history)
    (there : c.receivers[rx]? = some (some next)) (late : next < history.length - c.capacity) :
    c.drain rx (c.capacity + 1) =
      (.lagged (history.length - c.capacity - next) ::
          (history.drop (history.length - c.capacity)).map .message,
        c.wanting rx history.length) := by
  rw [drain, receive_eq there, carried.answer_late late]
  dsimp only
  rw [(carried.wanting rx _).drain_kept (receivers_wanting there _) Nat.le.refl (by omega)
    (by omega), wanting_wanting]

/-- What a receiver that had everything before is told of a batch. -/
def told (capacity : Nat) (batch : List α) : List (Received α) :=
  if batch.length ≤ capacity then batch.map .message
  else .lagged (batch.length - capacity) ::
    (batch.drop (batch.length - capacity)).map .message

theorem Carried.drain_emit (carried : c.Carried history)
    (there : c.receivers[rx]? = some (some history.length)) (batch : List α) :
    (c.emit batch).drain rx (c.capacity + 1) =
      (told c.capacity batch, (c.emit batch).wanting rx (history ++ batch).length) := by
  have after := carried.emit batch
  have size : (history ++ batch).length = history.length + batch.length := List.length_append
  rw [← c.emit_receivers batch] at there
  rw [told, ← c.emit_capacity batch]
  split
  next fits =>
    rw [after.drain_kept there (by omega) (by omega) (by omega), List.drop_left]
  next exceeds =>
    have oldest : (history ++ batch).length - (c.emit batch).capacity =
        history.length + (batch.length - (c.emit batch).capacity) := by
      omega
    rw [after.drain_late there (by omega), oldest, Nat.add_sub_cancel_left,
      List.drop_length_add_append]

/-- What a receiver is told that takes all there is after each of several batches. -/
def follow (rx : Nat) : Channel α → List (List α) → List (List (Received α))
  | _, [] => []
  | c, batch :: batches =>
    let (got, c) := (c.emit batch).drain rx (c.capacity + 1)
    got :: follow rx c batches

theorem Carried.follow_eq (carried : c.Carried history)
    (there : c.receivers[rx]? = some (some history.length)) (batches : List (List α)) :
    c.follow rx batches = batches.map (told c.capacity) := by
  induction batches generalizing c history with
  | nil => rfl
  | cons batch batches ih =>
    rw [follow, carried.drain_emit there]
    dsimp only
    rw [← c.emit_receivers batch] at there
    have after := (carried.emit batch).wanting rx (history ++ batch).length
    have capacity : ((c.emit batch).wanting rx (history ++ batch).length).capacity = c.capacity :=
      c.emit_capacity batch
    rw [ih after (receivers_wanting there _), capacity, List.map_cons]

end Channel

/-! ### The events of passes -/

/-- Who subscribes to a new channel before several contexts are assembled, and looks after each of
them, is told the events of each pass, all of them if the channel has room, and else the last that
it has room for behind the number of the others. -/
theorem Context.follow_assemble {capacity : Nat} {c : Channel Event}
    (made : Channel.ofCapacity? capacity = some c) (parents : List Bindings)
    (contexts : List Context) :
    c.subscribe.2.follow c.subscribe.1 (contexts.map fun d => (d.assemble parents).events) =
      contexts.map fun d =>
        Channel.told capacity.nextPowerOfTwo (d.assemble parents).events := by
  obtain ⟨fresh, room⟩ := Channel.carried_ofCapacity made
  have carried : c.subscribe.2.Carried [] := fresh.step .subscribe
  have there := c.receivers_subscribe
  rw [fresh.sent] at there
  rw [carried.follow_eq there, List.map_map, ← room]
  rfl

end RouteLoom
