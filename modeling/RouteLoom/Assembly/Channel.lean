/-!
# Channels

A channel keeps the last messages that were sent, as many as its capacity, and hands each of them
to every receiver that was there when it was sent. Messages are numbered from zero. A receiver
knows the number of the message it wants next. If that message is no longer kept, the receiver is
told how many it missed and goes on with the oldest one kept.
-/

namespace RouteLoom

structure Channel (α : Type) where
  capacity : Nat
  sent : Nat
  /-- The last messages, latest first, at most `capacity` of them. -/
  kept : List α
  closed : Bool
  /-- For each receiver that ever was, the message it wants next, unless it has left. -/
  receivers : List (Option Nat)
deriving DecidableEq, Repr

inductive Received (α : Type)
  | message (a : α)
  | empty
  | closed
  | lagged (missed : Nat)
deriving DecidableEq, Repr

namespace Channel

variable {α : Type}

def defaultCapacity : Nat := 256

/-- A channel with room for at least `capacity` messages: the number is rounded up to a power of
two. There is no channel without room. -/
def ofCapacity? (capacity : Nat) : Option (Channel α) :=
  if capacity = 0 then none else some ⟨capacity.nextPowerOfTwo, 0, [], false, []⟩

/-- Adds a receiver for what is sent from now on. The receivers are numbered in their order. -/
def subscribe (c : Channel α) : Nat × Channel α :=
  (c.receivers.length, { c with receivers := c.receivers ++ [some c.sent] })

def leave (c : Channel α) (receiver : Nat) : Channel α :=
  { c with receivers := c.receivers.set receiver none }

def send (c : Channel α) (a : α) : Channel α :=
  { c with sent := c.sent + 1, kept := (a :: c.kept).take c.capacity }

def close (c : Channel α) : Channel α := { c with closed := true }

def oldest (c : Channel α) : Nat := c.sent - c.kept.length

/-- What a receiver that wants the message `next` gets, and what it wants from then on. -/
def answer (c : Channel α) (next : Nat) : Received α × Nat :=
  if next < c.oldest then (.lagged (c.oldest - next), c.oldest)
  else if next < c.sent then
    match c.kept[c.sent - 1 - next]? with
    | some a => (.message a, next + 1)
    | none => (.empty, next)
  else (if c.closed then .closed else .empty, next)

/-- A receiver that has left finds the channel closed. -/
def receive (c : Channel α) (receiver : Nat) : Received α × Channel α :=
  match c.receivers[receiver]?.join with
  | none => (.closed, c)
  | some next =>
    let (received, next) := c.answer next
    (received, { c with receivers := c.receivers.set receiver (some next) })

/-- Everything that a receiver can get now, within the given number of turns. -/
def drain (c : Channel α) (receiver : Nat) : (turns : Nat) → List (Received α) × Channel α
  | 0 => ([], c)
  | turns + 1 =>
    match c.receive receiver with
    | (.empty, c) => ([], c)
    | (.closed, c) => ([], c)
    | (received, c) =>
      let (rest, c) := c.drain receiver turns
      (received :: rest, c)

end Channel

end RouteLoom
