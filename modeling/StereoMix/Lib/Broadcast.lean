/-!
# Broadcast channels

The receiving end of a broadcast channel: every receiver gets every value sent since it subscribed, in order, as long
as it is no more than the capacity behind. One that is further behind is told so at its next receive, with the number
of the values it lost, and goes on with those that are still kept. A receiver has the record of all that was sent since
it subscribed; that what it passed (received or lost), then what is outstanding, is just that is part of the type.
A send is done to every receiver; one that subscribes later never sees it.
-/

namespace Broadcast

structure Receiver (α : Type) (capacity : Nat) where
  since : List α
  passed : List α
  outstanding : List α
  conserved : passed ++ outstanding = since
  deriving Repr

namespace Receiver

variable {α : Type} {capacity : Nat}

theorem conserved_nil : ([] : List α) ++ [] = [] := rfl

def subscribe : Receiver α capacity := ⟨[], [], [], conserved_nil⟩

/-- A value is sent into the channel. -/
def sent (rx : Receiver α capacity) (x : α) : Receiver α capacity where
  since := rx.since ++ [x]
  passed := rx.passed
  outstanding := rx.outstanding ++ [x]
  conserved := by rw [← List.append_assoc, rx.conserved]

/-- The receiver goes past the first `n` of what is outstanding. -/
def pass (rx : Receiver α capacity) (n : Nat) : Receiver α capacity where
  since := rx.since
  passed := rx.passed ++ rx.outstanding.take n
  outstanding := rx.outstanding.drop n
  conserved := by rw [List.append_assoc, List.take_append_drop, rx.conserved]

/-- How many values the channel no longer keeps for this receiver. -/
def missed (rx : Receiver α capacity) : Nat := rx.outstanding.length - capacity

/-- A receive: `none` waits, and an error is that so many values were lost. -/
def recv (rx : Receiver α capacity) : Option (Except Nat α × Receiver α capacity) :=
  match rx.outstanding with
  | [] => none
  | x :: _ => if rx.missed = 0 then some (.ok x, rx.pass 1) else some (.error rx.missed, rx.pass rx.missed)

/-! ## What a receive does -/

/-- The receive of a value. -/
structure Receives (rx : Receiver α capacity) (x : α) (rx' : Receiver α capacity) : Prop where
  since : rx'.since = rx.since
  passed : rx'.passed = rx.passed ++ [x]
  outstanding : rx.outstanding = x :: rx'.outstanding

theorem receives {rx rx' : Receiver α capacity} {x : α} (recv : rx.recv = some (.ok x, rx')) : rx.Receives x rx' := by
  unfold Receiver.recv at recv
  split at recv
  · cases recv
  rename_i y rest outstanding
  split at recv
  · cases recv
    refine ⟨rfl, ?_, ?_⟩
    · change rx.passed ++ rx.outstanding.take 1 = _
      rw [outstanding, List.take_succ_cons, List.take_zero]
    · change rx.outstanding = x :: rx.outstanding.drop 1
      rw [outstanding, List.drop_succ_cons, List.drop_zero]
  · cases recv

/-- A receive waits just when nothing is outstanding. -/
theorem recv_eq_none {rx : Receiver α capacity} : rx.recv = none ↔ rx.outstanding = [] := by
  unfold Receiver.recv
  split
  · rename_i drained
    exact iff_of_true rfl drained
  · rename_i x rest outstanding
    have nonempty : rx.outstanding ≠ [] := outstanding ▸ List.cons_ne_nil x rest
    split <;> exact iff_of_false (Option.some_ne_none _) nonempty

/-- A receiver that is no more than the capacity behind loses nothing. -/
theorem recv_of_within {rx : Receiver α capacity} {x : α} {rest : List α} (outstanding : rx.outstanding = x :: rest)
    (within : rx.outstanding.length ≤ capacity) : rx.recv = some (.ok x, rx.pass 1) := by
  have none_missed : rx.missed = 0 := Nat.sub_eq_zero_of_le within
  unfold Receiver.recv
  rw [outstanding]
  exact if_pos none_missed

theorem ok_of_within {rx rx' : Receiver α capacity} {result : Except Nat α}
    (within : rx.outstanding.length ≤ capacity) (recv : rx.recv = some (result, rx')) :
    ∃ x, result = .ok x ∧ rx.Receives x rx' := by
  cases outstanding : rx.outstanding with
  | nil =>
    cases (recv_eq_none.2 outstanding).symm.trans recv
  | cons x rest =>
    cases (recv_of_within outstanding within).symm.trans recv
    exact ⟨x, rfl, receives (recv_of_within outstanding within)⟩

end Receiver

end Broadcast
