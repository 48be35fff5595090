import StereoMix.Encode.FlacSubframe
import StereoMix.Lib.Rice

/-!
# The Rice parameter is near-optimal

`choose_rice_param` takes the logarithm of the mean of the folded residuals, at most 14, so it costs less than one
bit a residual more than the best parameter. It adds the residuals up in a `u64`: for as long as their sum fits
there, which is for every list of less than 2^47 residuals.
-/

namespace StereoMix.Encode

open BitString BitWriter

/-- The folded residual `f`, as a number. -/
def folded (r : BitVec 32) : Nat := (foldResidual r).toNat

/-- `sum(f >> k) + n * (k + 1)`. -/
def codedLength (k : Nat) (residuals : List (BitVec 32)) : Nat := Rice.cost k (residuals.map folded)

/-- `iter().sum()` with the overflow check of a debug build: `none` where it panics. -/
def checkedSum (xs : List (BitVec 64)) : Option (BitVec 64) :=
  xs.foldlM (fun sum x => if sum.toNat + x.toNat < 2 ^ 64 then some (sum + x) else none) 0#64

/-- The Rice codes that `encode_residuals` writes take `codedLength` bits. -/
theorem appends_riceCodes (w : BitWriter) {k : Nat} (bound : k < 32) {residuals : List (BitVec 32)}
    (small : ∀ r ∈ residuals, SmallResidual r) :
    ∃ b, Appends w (residuals.foldl (fun w r =>
        let folded := foldResidual r
        let quotient := folded >>> k
        let remainder := folded &&& ((1#32 <<< k) - 1#32)
        let w := w.writeUnary quotient.toNat
        if k > 0 then w.writeBits (remainder.setWidth 64) k else w) w) b ∧
      b.length = codedLength k residuals := by
  refine ⟨_, appends_foldl residuals (fun w r member => (appends_rice w bound (small r member)).1) w, ?_⟩
  clear small
  induction residuals with
  | nil => simp [codedLength, Rice.cost]
  | cons r residuals ih =>
    rw [List.flatMap_cons, List.length_append, ih]
    simp only [codedLength, Rice.cost, folded, List.map_cons, List.sum_cons, List.length_cons, List.length_append,
      List.length_replicate, List.length_nil, length_ofNat, List.length_map]
    ring

/-! ## The sum -/

theorem toNat_foldl_add (xs : List (BitVec 64)) (sum : BitVec 64) :
    (xs.foldl (· + ·) sum).toNat = (sum.toNat + (xs.map BitVec.toNat).sum) % 2 ^ 64 := by
  induction xs generalizing sum with
  | nil => simp [Nat.mod_eq_of_lt sum.isLt]
  | cons x xs ih =>
    rw [List.foldl_cons, ih, BitVec.toNat_add, List.map_cons, List.sum_cons, Nat.mod_add_mod, Nat.add_assoc]

/-- The sum overflows when the numbers' sum is not below 2^64. -/
theorem checkedSum_isSome_iff (xs : List (BitVec 64)) :
    (checkedSum xs).isSome ↔ (xs.map BitVec.toNat).sum < 2 ^ 64 := by
  suffices from_any : ∀ sum : BitVec 64,
      (xs.foldlM (fun sum x => if sum.toNat + x.toNat < 2 ^ 64 then some (sum + x) else none) sum).isSome ↔
        sum.toNat + (xs.map BitVec.toNat).sum < 2 ^ 64 by
    simpa [checkedSum] using from_any 0#64
  intro sum
  induction xs generalizing sum with
  | nil => simpa using sum.isLt
  | cons x xs ih =>
    rw [List.foldlM_cons, List.map_cons, List.sum_cons]
    by_cases fits : sum.toNat + x.toNat < 2 ^ 64
    · have added : (sum + x).toNat = sum.toNat + x.toNat := by
        rw [BitVec.toNat_add, Nat.mod_eq_of_lt fits]
      rw [if_pos fits, Option.bind_eq_bind, Option.bind_some, ih, added, Nat.add_assoc]
    · rw [if_neg fits]
      simp
      omega

/-- Both foldings of a residual are the same number, below 2^17. -/
theorem toNat_foldResidual64 {r : BitVec 32} (small : SmallResidual r) :
    (foldResidual64 r).toNat = folded r ∧ folded r < 2 ^ 17 := by
  obtain ⟨low, high⟩ := small
  have wrapped := BitVec.toInt_eq_toNat_cond r
  have extended := BitVec.toInt_eq_toNat_cond (r.signExtend 64)
  rw [BitVec.toInt_signExtend_of_le (by omega)] at extended
  unfold folded foldResidual64 foldResidual
  split
  · simp only [BitVec.toNat_mul, BitVec.toNat_ofNat]
    omega
  · have word : (-2#64 * r.signExtend 64 - 1#64).toNat = (-2 * r.toInt - 1).toNat := by
      obtain ⟨m, here⟩ : ∃ m, (r.signExtend 64).toNat + m = 2 ^ 64 := ⟨2 ^ 64 - (r.signExtend 64).toNat, by omega⟩
      simp only [BitVec.toNat_sub, BitVec.toNat_mul, BitVec.toNat_neg, BitVec.toNat_ofNat,
        Nat.reducePow, Nat.reduceMod, Nat.reduceSub]
      rw [show (r.signExtend 64).toNat = 2 ^ 64 - m by omega]
      omega
    rw [BitVec.toNat_setWidth, word]
    omega

theorem map_foldResidual64 {residuals : List (BitVec 32)} (small : ∀ r ∈ residuals, SmallResidual r) :
    (residuals.map foldResidual64).map BitVec.toNat = residuals.map folded := by
  rw [List.map_map]
  exact List.map_congr_left fun r member => (toNat_foldResidual64 (small r member)).1

/-- Less than 2^47 residuals fit the sum. -/
theorem sum_folded_lt {residuals : List (BitVec 32)} (small : ∀ r ∈ residuals, SmallResidual r)
    (few : residuals.length < 2 ^ 47) : (residuals.map folded).sum < 2 ^ 64 := by
  have bound : (residuals.map folded).sum ≤ (residuals.map folded).length * 2 ^ 17 := by
    apply List.sum_le_card_nsmul
    intro f member
    obtain ⟨r, inside, rfl⟩ := List.mem_map.1 member
    exact (toNat_foldResidual64 (small r inside)).2.le
  rw [List.length_map] at bound
  omega

/-! ## The parameter -/

/-- The leading zeros of a word give its logarithm. -/
theorem log2_toNat {x : BitVec 64} (nonzero : x ≠ 0#64) : 64 - x.clz.toNat - 1 = x.toNat.log2 := by
  have low := BitVec.two_pow_sub_clz_le_toNat_of_ne_zero (by omega) nonzero
  have high := BitVec.toNat_lt_two_pow_sub_clz (x := x)
  have positive : x.toNat ≠ 0 := fun zero => nonzero (BitVec.eq_of_toNat_eq zero)
  have short : x.clz.toNat < 64 := by
    by_contra long
    rw [show 64 - x.clz.toNat = 0 by omega] at high
    omega
  symm
  rw [Nat.log2_eq_iff positive, show 64 - x.clz.toNat - 1 = 64 - 1 - x.clz.toNat by omega]
  exact ⟨low, by rwa [show 64 - 1 - x.clz.toNat + 1 = 64 - x.clz.toNat by omega]⟩

/-- While the sum fits, the parameter is the capped logarithm of the mean. -/
theorem chooseRiceParam_eq {residuals : List (BitVec 32)} (nonempty : residuals ≠ [])
    (small : ∀ r ∈ residuals, SmallResidual r) (slice : residuals.length < 2 ^ 64)
    (fits : (residuals.map folded).sum < 2 ^ 64) :
    chooseRiceParam residuals = Rice.param 14 (residuals.map folded) := by
  have sum : ((residuals.map foldResidual64).foldl (· + ·) 0#64).toNat = (residuals.map folded).sum := by
    rw [toNat_foldl_add, map_foldResidual64 small]
    simpa using fits
  have mean : ((residuals.map foldResidual64).foldl (· + ·) 0#64 / BitVec.ofNat 64 residuals.length).toNat =
      (residuals.map folded).sum / residuals.length := by
    rw [BitVec.toNat_udiv, sum, BitVec.toNat_ofNat, Nat.mod_eq_of_lt slice]
  unfold chooseRiceParam Rice.param
  rw [if_neg (by simpa using nonempty), List.length_map, ← mean]
  dsimp only
  split
  · rename_i zero
    rw [zero]
    rfl
  · rename_i nonzero
    rw [log2_toNat nonzero]

/-- **The Rice parameter costs less than one bit a residual more than the best**, for every list whose folded
residuals add up to less than 2^64; the sum does not overflow there. -/
theorem rice_param_near_optimal {residuals : List (BitVec 32)} (nonempty : residuals ≠ [])
    (small : ∀ r ∈ residuals, SmallResidual r) (slice : residuals.length < 2 ^ 64)
    (fits : (residuals.map folded).sum < 2 ^ 64) :
    (checkedSum (residuals.map foldResidual64)).isSome ∧ chooseRiceParam residuals ≤ 14 ∧
      ∀ k' ≤ 14, codedLength (chooseRiceParam residuals) residuals < codedLength k' residuals + residuals.length := by
  refine ⟨?_, chooseRiceParam_le residuals, fun k' range => ?_⟩
  · rwa [checkedSum_isSome_iff, map_foldResidual64 small]
  · have some_folded : residuals.map folded ≠ [] := by simpa using nonempty
    have best := Rice.cost_param_lt some_folded range
    rwa [chooseRiceParam_eq nonempty small slice fits, codedLength, codedLength, ← List.length_map]

theorem rice_param_near_optimal_three :
    (checkedSum ([5#32, -9#32, 40#32].map foldResidual64)).isSome ∧
      codedLength (chooseRiceParam [5#32, -9#32, 40#32]) [5#32, -9#32, 40#32] <
        codedLength 4 [5#32, -9#32, 40#32] + 3 := by
  have small : ∀ r ∈ [5#32, -9#32, 40#32], SmallResidual r := by simp [SmallResidual]
  obtain ⟨fits, -, best⟩ := rice_param_near_optimal (by simp) small (by simp) (sum_folded_lt small (by simp))
  exact ⟨fits, best 4 (by decide)⟩

/-- Every residual 32768 folds to 2^16, so 2^48 of them add up to 2^64. The sum overflows; wrapped, it gives
parameter 0, which costs far more than 14. -/
theorem sum_overflows (n : Nat) (size : n = 2 ^ 48) :
    List.replicate n 32768#32 ≠ [] ∧ (∀ r ∈ List.replicate n 32768#32, SmallResidual r) ∧
      checkedSum ((List.replicate n 32768#32).map foldResidual64) = none ∧
      ¬ codedLength (chooseRiceParam (List.replicate n 32768#32)) (List.replicate n 32768#32) <
        codedLength 14 (List.replicate n 32768#32) + (List.replicate n 32768#32).length := by
  have small : ∀ r ∈ List.replicate n 32768#32, SmallResidual r := by
    intro r member
    rw [List.eq_of_mem_replicate member]
    exact ⟨by decide, by decide⟩
  have total : ((List.replicate n 32768#32).map folded).sum = 2 ^ 64 := by
    rw [List.map_replicate, List.sum_replicate_nat, show folded 32768#32 = 2 ^ 16 from rfl, size]
    rfl
  have wrapped : (List.replicate n 32768#32 |>.map foldResidual64).foldl (· + ·) 0#64 = 0#64 := by
    apply BitVec.eq_of_toNat_eq
    rw [toNat_foldl_add, map_foldResidual64 small, total]
    rfl
  have zero : chooseRiceParam (List.replicate n 32768#32) = 0 := by
    unfold chooseRiceParam
    rw [wrapped]
    simp
  refine ⟨?_, small, ?_, ?_⟩
  · intro empty
    have := congrArg List.length empty
    rw [List.length_replicate, List.length_nil] at this
    omega
  · rw [← Option.not_isSome_iff_eq_none, checkedSum_isSome_iff, map_foldResidual64 small, total]
    exact Nat.lt_irrefl _
  · rw [zero, codedLength, codedLength, Rice.cost, Rice.cost, List.map_replicate, List.map_replicate,
      List.map_replicate, List.sum_replicate_nat, List.sum_replicate_nat, List.length_replicate,
      List.length_replicate, show folded 32768#32 = 2 ^ 16 from rfl]
    omega

theorem rice_param_overflows :
    List.replicate (2 ^ 48) 32768#32 ≠ [] ∧ (∀ r ∈ List.replicate (2 ^ 48) 32768#32, SmallResidual r) ∧
      checkedSum ((List.replicate (2 ^ 48) 32768#32).map foldResidual64) = none ∧
      ¬ codedLength (chooseRiceParam (List.replicate (2 ^ 48) 32768#32)) (List.replicate (2 ^ 48) 32768#32) <
        codedLength 14 (List.replicate (2 ^ 48) 32768#32) + (List.replicate (2 ^ 48) 32768#32).length :=
  sum_overflows (2 ^ 48) rfl

end StereoMix.Encode
