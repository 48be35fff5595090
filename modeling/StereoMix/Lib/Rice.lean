import Mathlib.Algebra.BigOperators.Group.List.Basic
import Mathlib.Algebra.Order.BigOperators.Group.List
import Mathlib.Tactic.Linarith
import Mathlib.Tactic.Ring

/-!
# Rice codes and their parameter

With parameter `k` a number costs its quotient by `2 ^ k` in unary, a stop bit and `k` low bits. The logarithm of
the mean, capped, is a parameter that costs less than one bit a number more than any other up to the cap:
a larger parameter pays for its low bits, a smaller one for its quotients.
-/

namespace Rice

/-- The bits of the numbers `fs` coded with parameter `k`. -/
def cost (k : Nat) (fs : List Nat) : Nat := (fs.map (· / 2 ^ k)).sum + fs.length * (k + 1)

/-- The logarithm of the mean, at most `cap`. -/
def param (cap : Nat) (fs : List Nat) : Nat := min (fs.sum / fs.length).log2 cap

theorem mul_sum_div_le (d : Nat) (fs : List Nat) : d * (fs.map (· / d)).sum ≤ fs.sum := by
  induction fs with
  | nil => simp
  | cons f fs ih =>
    have first := Nat.mul_div_le f d
    rw [List.map_cons, List.sum_cons, List.sum_cons, Nat.mul_add]
    omega

/-- Rounding each quotient down loses less than the divisor. -/
theorem sum_le_mul_sum_div {d : Nat} (positive : 0 < d) (fs : List Nat) :
    fs.sum + fs.length ≤ d * ((fs.map (· / d)).sum + fs.length) := by
  induction fs with
  | nil => simp
  | cons f fs ih =>
    have first := Nat.lt_mul_div_succ f positive
    rw [List.map_cons, List.sum_cons, List.sum_cons, List.length_cons]
    calc f + fs.sum + (fs.length + 1)
      _ ≤ d * (f / d + 1) + d * ((fs.map (· / d)).sum + fs.length) := by omega
      _ = d * (f / d + (fs.map (· / d)).sum + (fs.length + 1)) := by ring

/-- A parameter past the logarithm of the mean gains nothing on the quotients. -/
theorem cost_lt_of_lt {fs : List Nat} {k k' : Nat} (above : k < k') (mean : fs.sum < fs.length * 2 ^ (k + 1)) :
    cost k fs < cost k' fs + fs.length := by
  have quotients : (fs.map (· / 2 ^ k)).sum < 2 * fs.length := by
    have scaled := mul_sum_div_le (2 ^ k) fs
    apply Nat.lt_of_mul_lt_mul_left (a := 2 ^ k)
    calc 2 ^ k * (fs.map (· / 2 ^ k)).sum
      _ < fs.length * 2 ^ (k + 1) := scaled.trans_lt mean
      _ = 2 ^ k * (2 * fs.length) := by ring
  have low : fs.length * (k + 1 + 1) ≤ fs.length * (k' + 1) := Nat.mul_le_mul_left _ (by omega)
  rw [Nat.mul_succ] at low
  unfold cost
  omega

/-- A parameter short of the logarithm of the mean loses on the quotients. -/
theorem cost_lt_of_gt {fs : List Nat} {k k' : Nat} (some : fs ≠ []) (below : k' < k)
    (mean : fs.length * 2 ^ k ≤ fs.sum) : cost k fs < cost k' fs + fs.length := by
  obtain ⟨d, rfl⟩ := Nat.exists_eq_add_of_lt below
  obtain ⟨p, power, steep⟩ : ∃ p, 2 ^ (d + 1) = p + 2 ∧ d ≤ p := by
    have := Nat.lt_two_pow_self (n := d + 1)
    exact ⟨2 ^ (d + 1) - 2, by omega, by omega⟩
  have count : 0 < fs.length := List.length_pos_iff.mpr some
  -- the quotients by `2 ^ (k' + d + 1)` are those by `2 ^ k'`, divided once more
  have again : fs.map (· / 2 ^ (k' + d + 1)) = (fs.map (· / 2 ^ k')).map (· / (p + 2)) := by
    rw [List.map_map]
    refine List.map_congr_left fun f _ => ?_
    rw [Function.comp_apply, Nat.div_div_eq_div_mul, ← power, ← Nat.pow_add, Nat.add_assoc]
  have quotients := mul_sum_div_le (p + 2) (fs.map (· / 2 ^ k'))
  have large : fs.length * (p + 2) < (fs.map (· / 2 ^ k')).sum + fs.length := by
    have positive := Nat.two_pow_pos k'
    have loss := sum_le_mul_sum_div positive fs
    apply Nat.lt_of_mul_lt_mul_left (a := 2 ^ k')
    calc 2 ^ k' * (fs.length * (p + 2))
      _ = fs.length * 2 ^ (k' + d + 1) := by rw [← power, Nat.add_assoc, Nat.pow_add]; ring
      _ ≤ fs.sum := mean
      _ < 2 ^ k' * ((fs.map (· / 2 ^ k')).sum + fs.length) := by omega
  unfold cost
  rw [again]
  generalize (fs.map (· / 2 ^ k')).sum = g at quotients large ⊢
  generalize ((fs.map (· / 2 ^ k')).map (· / (p + 2))).sum = q at quotients ⊢
  have slope : fs.length * d ≤ fs.length * p := Nat.mul_le_mul_left _ steep
  have saved : q + fs.length * p < g := by
    by_contra less
    nlinarith
  calc q + fs.length * (k' + d + 1 + 1)
    _ = q + fs.length * d + (fs.length * (k' + 1) + fs.length) := by ring
    _ < g + fs.length * (k' + 1) + fs.length := by omega

/-- **The capped logarithm of the mean is near-optimal**: less than one bit a number above the best parameter. -/
theorem cost_param_lt {fs : List Nat} {cap k' : Nat} (some : fs ≠ []) (range : k' ≤ cap) :
    cost (param cap fs) fs < cost k' fs + fs.length := by
  have count : 0 < fs.length := List.length_pos_iff.mpr some
  rcases Nat.lt_trichotomy (param cap fs) k' with above | same | below
  · apply cost_lt_of_lt above
    have uncapped : param cap fs = (fs.sum / fs.length).log2 := by
      unfold param at above ⊢
      omega
    rw [uncapped, Nat.mul_comm]
    exact (Nat.div_lt_iff_lt_mul count).mp Nat.lt_log2_self
  · rw [same]
    omega
  · apply cost_lt_of_gt some below
    have nonzero : fs.sum / fs.length ≠ 0 := by
      intro zero
      rw [param, zero] at below
      simp at below
    have power : 2 ^ param cap fs ≤ fs.sum / fs.length := (Nat.le_log2 nonzero).mp (Nat.min_le_left _ _)
    rw [Nat.mul_comm]
    exact (Nat.le_div_iff_mul_le count).mp power

/-- Numbers whose quotients at the cap are at most `q` cost no more than that quotient, the stop bit and the low bits
of the cap. -/
theorem cost_param_le {fs : List Nat} {cap q : Nat} (some : 1 ≤ q) (small : ∀ f ∈ fs, f / 2 ^ cap ≤ q) :
    cost (param cap fs) fs ≤ fs.length * (q + cap + 1) := by
  by_cases empty : fs = []
  · subst empty
    simp [cost]
  have count : 0 < fs.length := List.length_pos_iff.mpr empty
  rcases Nat.lt_or_ge (fs.sum / fs.length).log2 cap with below | above
  · have uncapped : param cap fs = (fs.sum / fs.length).log2 := Nat.min_eq_left below.le
    have mean : fs.sum < fs.length * 2 ^ (param cap fs + 1) := by
      rw [uncapped, Nat.mul_comm]
      exact (Nat.div_lt_iff_lt_mul count).mp Nat.lt_log2_self
    have scaled := mul_sum_div_le (2 ^ param cap fs) fs
    have quotients : (fs.map (· / 2 ^ param cap fs)).sum < 2 * fs.length := by
      apply Nat.lt_of_mul_lt_mul_left (a := 2 ^ param cap fs)
      calc 2 ^ param cap fs * (fs.map (· / 2 ^ param cap fs)).sum
        _ < fs.length * 2 ^ (param cap fs + 1) := scaled.trans_lt mean
        _ = 2 ^ param cap fs * (2 * fs.length) := by ring
    have low : fs.length * (param cap fs + 1 + 1 + 1) ≤ fs.length * (q + cap + 1) :=
      Nat.mul_le_mul_left _ (by omega)
    rw [Nat.mul_succ, Nat.mul_succ] at low
    unfold cost
    omega
  · have capped : param cap fs = cap := Nat.min_eq_right above
    have quotients : (fs.map (· / 2 ^ cap)).sum ≤ fs.length * q := by
      have bound := List.sum_le_card_nsmul (fs.map (· / 2 ^ cap)) q (by simpa using small)
      simpa using bound
    rw [capped, cost, Nat.add_assoc q, Nat.mul_add fs.length q]
    exact Nat.add_le_add_right quotients _

end Rice
