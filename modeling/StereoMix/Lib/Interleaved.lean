import Mathlib.Data.List.GetD
import Mathlib.Data.List.TakeDrop
import Mathlib.Tactic.Ring

/-!
# Interleaved channels

Samples of `c` channels stored frame after frame. `channel c k xs` is the `k`-th sample of every whole frame
of `xs`: an incomplete last frame is cut off.
-/

namespace Interleaved

variable {α β : Type} [Inhabited α] [Inhabited β]

/-- The samples of channel `k` of `c`, one for each whole frame. -/
def channel (c k : Nat) (xs : List α) : List α := (List.range (xs.length / c)).map fun f => xs.getD (f * c + k) default

@[simp] theorem length_channel (c k : Nat) (xs : List α) : (channel c k xs).length = xs.length / c := by
  simp [channel]

/-- The channels of whole frames followed by more samples. -/
theorem channel_append {c k n : Nat} {xs ys : List α} (inside : k < c) (whole : xs.length = n * c) :
    channel c k (xs ++ ys) = channel c k xs ++ channel c k ys := by
  have positive : 0 < c := by omega
  have count : (xs ++ ys).length / c = n + ys.length / c := by
    rw [List.length_append, whole, Nat.add_comm, Nat.add_mul_div_right _ _ positive, Nat.add_comm]
  have first : xs.length / c = n := by
    rw [whole, Nat.mul_div_cancel _ positive]
  rw [channel, channel, channel, count, first, List.range_add, List.map_append, List.map_map]
  congr 1
  · refine List.map_congr_left fun f member => List.getD_append _ _ _ _ ?_
    have frame : f + 1 ≤ n := List.mem_range.1 member
    have := Nat.mul_le_mul_right c frame
    rw [Nat.succ_mul] at this
    omega
  · apply List.map_congr_left
    intro f _
    have index : (n + f) * c + k = xs.length + (f * c + k) := by rw [whole]; ring
    rw [Function.comp_apply, index, List.getD_append_right _ _ _ _ (Nat.le_add_right _ _), Nat.add_sub_cancel_left]

/-- Samples after the last whole frame do not count. -/
theorem channel_append_short {c k n : Nat} {xs ys : List α} (inside : k < c) (whole : xs.length = n * c)
    (short : ys.length < c) : channel c k (xs ++ ys) = channel c k xs := by
  have nothing : channel c k ys = [] := by
    rw [channel, Nat.div_eq_of_lt short]
    rfl
  rw [channel_append inside whole, nothing, List.append_nil]

omit [Inhabited α] in
theorem length_take_whole (c : Nat) (xs : List α) : (xs.take (xs.length / c * c)).length = xs.length / c * c := by
  rw [List.length_take]
  exact Nat.min_eq_left (Nat.div_mul_le_self _ _)

omit [Inhabited α] in
/-- Less than a frame is left after the whole frames. -/
theorem length_drop_whole {c : Nat} (positive : 0 < c) (xs : List α) : (xs.drop (xs.length / c * c)).length < c := by
  have rest := Nat.mod_lt xs.length positive
  have split := Nat.div_add_mod' xs.length c
  rw [List.length_drop]
  omega

/-- Cutting to whole frames does not change a channel. -/
theorem channel_take_whole {c k : Nat} (inside : k < c) (xs : List α) :
    channel c k (xs.take (xs.length / c * c)) = channel c k xs := by
  conv_rhs => rw [← List.take_append_drop (xs.length / c * c) xs]
  rw [channel_append_short inside (length_take_whole c xs) (length_drop_whole (by omega) xs)]

/-- One frame. -/
theorem channel_frame {c k : Nat} {xs : List α} (inside : k < c) (one : xs.length = c) :
    channel c k xs = [xs.getD k default] := by
  rw [channel, one, Nat.div_self (by omega)]
  simp

/-! ## Frames written one after another -/

/-- Every index of `m` frames of `c` samples, frame by frame. -/
theorem range_frames (m c : Nat) :
    List.range (m * c) = (List.range m).flatMap fun f => (List.range c).map fun k => f * c + k := by
  induction m with
  | zero => simp
  | succ m ih => rw [Nat.succ_mul, List.range_add, ih, List.range_succ, List.flatMap_append, List.flatMap_singleton]

omit [Inhabited α] [Inhabited β] in
/-- Blocks of one size written end to end are found at the multiples of that size. -/
theorem take_drop_flatMap {block : α → List β} {n i : Nat} {a : α} {l : List α} (size : ∀ a, (block a).length = n)
    (here : l[i]? = some a) : ((l.flatMap block).drop (n * i)).take n = block a := by
  induction l generalizing i with
  | nil => cases here
  | cons b l ih =>
    rw [List.flatMap_cons]
    cases i with
    | zero =>
      cases here
      rw [Nat.mul_zero, List.drop_zero, List.take_left' (size a)]
    | succ i =>
      rw [Nat.mul_succ, Nat.add_comm, ← List.drop_drop, List.drop_left' (size b)]
      exact ih here

end Interleaved
