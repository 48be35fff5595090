/-!
# Bounded channels

A bounded first-in first-out channel, with the record of all that was sent into it and received from it.
That nothing is lost or reordered in it is part of the type: what was received, then what is queued, is what was
sent. Who may still send or receive is left to the system that has the channel.
-/

structure Channel (α : Type) (capacity : Nat) where
  sent : List α
  received : List α
  queue : List α
  conserved : received ++ queue = sent
  bounded : queue.length ≤ capacity
  deriving DecidableEq, Repr

namespace Channel

variable {α : Type} {capacity : Nat}

def empty : Channel α capacity := ⟨[], [], [], rfl, Nat.zero_le _⟩

/-- A send, if there is room. -/
def send (c : Channel α capacity) (x : α) : Option (Channel α capacity) :=
  if room : c.queue.length < capacity then
    some {
      sent := c.sent ++ [x]
      received := c.received
      queue := c.queue ++ [x]
      conserved := by rw [← List.append_assoc, c.conserved]
      bounded := by rw [List.length_append]; exact room }
  else none

/-- A receive, if something is queued. -/
def recv (c : Channel α capacity) : Option (α × Channel α capacity) :=
  match queued : c.queue with
  | [] => none
  | x :: rest => some (x, {
      sent := c.sent
      received := c.received ++ [x]
      queue := rest
      conserved := by rw [List.append_assoc, List.singleton_append, ← queued, c.conserved]
      bounded := by
        have bounded := c.bounded
        rw [queued] at bounded
        exact Nat.le_of_succ_le bounded })

/-- What a send does. -/
structure Sends (c : Channel α capacity) (x : α) (d : Channel α capacity) : Prop where
  room : c.queue.length < capacity
  sent : d.sent = c.sent ++ [x]
  received : d.received = c.received
  queue : d.queue = c.queue ++ [x]

/-- What a receive does. -/
structure Receives (c : Channel α capacity) (x : α) (d : Channel α capacity) : Prop where
  sent : d.sent = c.sent
  received : d.received = c.received ++ [x]
  queue : c.queue = x :: d.queue

theorem sends {c d : Channel α capacity} {x : α} (send : c.send x = some d) : c.Sends x d := by
  unfold Channel.send at send
  split at send
  · rename_i room
    cases send
    exact ⟨room, rfl, rfl, rfl⟩
  · cases send

theorem receives {c d : Channel α capacity} {x : α} (recv : c.recv = some (x, d)) : c.Receives x d := by
  unfold Channel.recv at recv
  split at recv
  · cases recv
  · rename_i y rest queued
    cases recv
    exact ⟨rfl, rfl, queued⟩

/-- A receive waits just when nothing is queued. -/
theorem recv_eq_none {c : Channel α capacity} : c.recv = none ↔ c.queue = [] := by
  unfold Channel.recv
  split
  · rename_i queued
    exact iff_of_true rfl queued
  · rename_i x rest queued
    have nonempty : c.queue ≠ [] := queued ▸ List.cons_ne_nil x rest
    exact iff_of_false (Option.some_ne_none _) nonempty

theorem exists_send {c : Channel α capacity} (room : c.queue.length < capacity) (x : α) : ∃ d, c.send x = some d :=
  ⟨_, dif_pos room⟩

theorem exists_recv {c : Channel α capacity} {x : α} {rest : List α} (queued : c.queue = x :: rest) :
    ∃ d, c.recv = some (x, d) := by
  unfold Channel.recv
  split
  · rename_i empty
    cases queued.symm.trans empty
  · rename_i y rest' queued'
    cases queued.symm.trans queued'
    exact ⟨_, rfl⟩

/-- What was received is what was sent first. -/
theorem received_first (c : Channel α capacity) : c.received <+: c.sent := ⟨c.queue, c.conserved⟩

/-- With nothing queued, all that was sent was received. -/
theorem received_eq_sent {c : Channel α capacity} (drained : c.queue = []) : c.received = c.sent := by
  rw [← c.conserved, drained, List.append_nil]

end Channel
