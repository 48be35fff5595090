import StereoMix.Encode.FlacHeader

/-!
# Residuals and subframes

A folded residual unfolds to the residual, so both codings of `encode_residuals` (Rice codes and the
escape with raw fields) read back as the residuals, and the sums of a FIXED subframe's residuals restore
the samples. `appends_encodeSubframe` covers the three ways a channel of a block can be coded.
-/

namespace StereoMix.Encode

open BitString BitReader FlacFormat BitWriter

/-! ## Signed fields -/

/-- The two's complement reading of `n` bits of a number is its balanced remainder. -/
theorem signed_mod {n : Nat} (wide : 1 ≤ n) (v : Nat) : signed n (v % 2 ^ n) = Int.bmod v (2 ^ n) := by
  have half : 2 ^ n = 2 * 2 ^ (n - 1) := by rw [← pow_succ', Nat.sub_add_cancel wide]
  have cast : (2 : Int) ^ n = ((2 ^ n : Nat) : Int) := by norm_cast
  rw [Int.bmod_def, signed, cast]
  generalize 2 ^ n = m at half ⊢
  split <;> split <;> omega

/-- The low `n` bits of a sign-extended number read back as the number, when it fits. -/
theorem appends_signed (w : BitWriter) {k n : Nat} (x : BitVec k) (narrow : k ≤ 64) (wide : 1 ≤ n) (fits : n < 64)
    (low : -2 ^ (n - 1) ≤ x.toInt) (high : x.toInt < 2 ^ (n - 1)) :
    Appends w (w.writeBits (x.signExtend 64 &&& ((1#64 <<< n) - 1#64)) n) (ofNat n (x.signExtend 64).toNat) ∧
      Reads (int n) (ofNat n (x.signExtend 64).toNat) x.toInt := by
  have small : 2 ^ n < 2 ^ 64 := Nat.pow_lt_pow_right (by omega) fits
  have positive : 0 < 2 ^ n := Nat.two_pow_pos n
  have mask : ((1#64 <<< n) - 1#64).toNat = 2 ^ n - 1 := by
    rw [BitVec.toNat_sub, BitVec.toNat_shiftLeft, Nat.shiftLeft_eq]
    simp only [BitVec.toNat_ofNat]
    omega
  have field : (x.signExtend 64 &&& ((1#64 <<< n) - 1#64)).toNat % 2 ^ n = (x.signExtend 64).toNat % 2 ^ n := by
    rw [BitVec.toNat_and, mask, Nat.and_two_pow_sub_one_eq_mod, Nat.mod_mod]
  have value : signed n ((x.signExtend 64).toNat % 2 ^ n) = x.toInt := by
    have wrapped := BitVec.toInt_eq_toNat_bmod (x.signExtend 64)
    rw [BitVec.toInt_signExtend_of_le narrow] at wrapped
    have half : 2 ^ n = 2 * 2 ^ (n - 1) := by rw [← pow_succ', Nat.sub_add_cancel wide]
    have cast : ((2 ^ (n - 1) : Nat) : Int) = 2 ^ (n - 1) := by norm_cast
    rw [signed_mod wide, ← Int.bmod_bmod_of_dvd (Nat.pow_dvd_pow 2 fits.le), ← wrapped]
    refine Int.bmod_eq_of_le ?_ ?_ <;> omega
  rw [← ofNat_mod]
  refine ⟨appends_field w field, ?_⟩
  rw [← value]
  exact reads_int (Nat.mod_lt _ positive)

/-! ## Residuals -/

/-- The residuals of 16-bit samples. -/
def SmallResidual (r : BitVec 32) : Prop := -65535 ≤ r.toInt ∧ r.toInt ≤ 65535

/-- A folded residual stands for the residual. -/
theorem unfold_foldResidual {r : BitVec 32} (small : SmallResidual r) :
    FlacFormat.unfold (foldResidual r).toNat = r.toInt := by
  obtain ⟨low, high⟩ := small
  have wrapped := BitVec.toInt_eq_toNat_cond r
  unfold foldResidual
  split
  · rename_i nonneg
    have folded : (2#32 * r).toNat = 2 * r.toNat := by
      rw [BitVec.toNat_mul, BitVec.toNat_ofNat]; omega
    rw [folded, FlacFormat.unfold, if_pos (by omega)]
    omega
  · rename_i negative
    have extended := BitVec.toInt_eq_toNat_cond (r.signExtend 64)
    rw [BitVec.toInt_signExtend_of_le (by omega)] at extended
    have folded : ((-2#64 * r.signExtend 64 - 1#64).setWidth 32).toNat = (-2 * r.toInt - 1).toNat := by
      simp only [BitVec.toNat_setWidth, BitVec.toNat_sub, BitVec.toNat_mul, BitVec.toNat_neg, BitVec.toNat_ofNat,
        Nat.reducePow, Nat.reduceMod, Nat.reduceSub]
      omega
    rw [folded, FlacFormat.unfold, if_neg (by omega)]
    omega

theorem chooseRiceParam_le (residuals : List (BitVec 32)) : chooseRiceParam residuals ≤ 14 := by
  unfold chooseRiceParam
  extract_lets sum mean k
  split
  · exact Nat.zero_le _
  · split
    · exact Nat.zero_le _
    · exact Nat.min_le_right _ _

/-- The Rice code of one residual: the quotient in unary, then the low `k` bits. -/
theorem appends_rice (w : BitWriter) {k : Nat} (bound : k < 32) {r : BitVec 32} (small : SmallResidual r) :
    Appends w
        (let folded := foldResidual r
         let w := w.writeUnary (folded >>> k).toNat
         if k > 0 then w.writeBits ((folded &&& ((1#32 <<< k) - 1#32)).setWidth 64) k else w)
        ((List.replicate ((foldResidual r).toNat / 2 ^ k) false ++ [true]) ++ ofNat k (foldResidual r).toNat) ∧
      Reads (rice k)
        ((List.replicate ((foldResidual r).toNat / 2 ^ k) false ++ [true]) ++ ofNat k (foldResidual r).toNat)
        r.toInt := by
  have fold := unfold_foldResidual small
  generalize foldResidual r = folded at fold
  have quotient : (folded >>> k).toNat = folded.toNat / 2 ^ k := by
    rw [BitVec.toNat_ushiftRight, Nat.shiftRight_eq_div_pow]
  have positive : 0 < 2 ^ k := Nat.two_pow_pos k
  have wide : 2 ^ k < 2 ^ 32 := Nat.pow_lt_pow_right (by omega) bound
  have mask : ((1#32 <<< k) - 1#32).toNat = 2 ^ k - 1 := by
    rw [BitVec.toNat_sub, BitVec.toNat_shiftLeft, Nat.shiftLeft_eq]
    simp only [BitVec.toNat_ofNat]
    omega
  have remainder : ((folded &&& ((1#32 <<< k) - 1#32)).setWidth 64).toNat = folded.toNat % 2 ^ k := by
    rw [BitVec.toNat_setWidth, BitVec.toNat_and, mask, Nat.and_two_pow_sub_one_eq_mod]
    exact Nat.mod_eq_of_lt (lt_of_le_of_lt (Nat.mod_le _ _) (lt_trans folded.isLt (by omega)))
  constructor
  · rw [← quotient]
    apply (appends_writeUnary w _).trans
    split
    · rw [← ofNat_mod, ← remainder]
      exact appends_writeBits _ _ k
    · rename_i zero
      rw [show k = 0 by omega]
      exact .refl _
  · rw [rice, ← ofNat_mod, ← fold]
    refine (reads_unary _).bind ((reads_nat (Nat.mod_lt _ positive)).last ?_)
    rw [Nat.mul_comm, Nat.div_add_mod]
    exact .pure _

/-- `encode_residuals` is read back as one partition with the residuals of a block predicted with order 1. -/
theorem appends_encodeResiduals (w : BitWriter) {residuals : List (BitVec 32)}
    (small : ∀ r ∈ residuals, SmallResidual r) :
    ∃ b, Appends w (encodeResiduals w residuals) b ∧
      Reads (FlacFormat.residual (residuals.length + 1) 1) b (residuals.map BitVec.toInt) := by
  have param := chooseRiceParam_le residuals
  unfold encodeResiduals
  extract_lets w1 w2 k maxQ w3 rawBps w4 rmask w5
  have app1 : Appends w w1 (ofNat 2 0) := appends_writeBits w _ 2
  have app2 : Appends w1 w2 (ofNat 4 0) := appends_writeBits w1 _ 4
  suffices body : ∃ b, Appends w2 (if maxQ > 128 then
        residuals.foldl (fun w r => w.writeBits (r.signExtend 64 &&& rmask) rawBps) w4
      else residuals.foldl (fun w r =>
        let folded := foldResidual r
        let quotient := folded >>> k
        let remainder := folded &&& ((1#32 <<< k) - 1#32)
        let w := w.writeUnary quotient.toNat
        if k > 0 then w.writeBits (remainder.setWidth 64) k else w) w5) b ∧
      Reads (partition 4 residuals.length) b (residuals.map BitVec.toInt) by
    obtain ⟨b, app, reads⟩ := body
    refine ⟨_, app1.trans (app2.trans app), ?_⟩
    unfold FlacFormat.residual
    refine (reads_nat (by omega)).bind (.check (by omega) ((reads_nat (by omega)).bind (.check (by simp) ?_)))
    simp only [pow_zero, Nat.div_one, Nat.add_sub_cancel, Nat.add_zero, Nat.sub_self, times]
    refine reads.last ((Reads.pure []).last ?_)
    rw [List.flatten_nil, List.append_nil]
    exact .pure _
  split
  · have app3 : Appends w2 w3 (ofNat 4 15) := appends_writeBits w2 _ 4
    have app4 : Appends w3 w4 (ofNat 5 17) := appends_writeBits w3 _ 5
    have field := fun w r (member : r ∈ residuals) =>
      appends_signed w (n := 17) r (by omega) (by omega) (by omega) (by have := (small r member).1; omega)
        (by have := (small r member).2; omega)
    refine ⟨_, app3.trans (app4.trans (appends_foldl residuals (fun w r member => (field w r member).1) w4)), ?_⟩
    unfold partition
    apply (reads_nat (by omega)).bind
    rw [if_pos (by norm_num)]
    apply (reads_nat (by omega)).bind
    exact reads_times residuals fun r member => (field .new r member).2
  · have app3 : Appends w2 w5 (ofNat 4 k) := appends_field w2 (by rw [BitVec.toNat_ofNat]; omega)
    have code := fun w r (member : r ∈ residuals) => appends_rice w (k := k) (by omega) (small r member)
    refine ⟨_, app3.trans (appends_foldl residuals (fun w r member => (code w r member).1) w5), ?_⟩
    unfold partition
    apply (reads_nat (by omega)).bind
    rw [if_neg (by omega)]
    exact reads_times residuals fun r member => (code .new r member).2

/-! ## Subframes -/

/-- The difference of two samples in 32 bits. -/
theorem toInt_difference (next prev : BitVec 16) :
    (next.signExtend 32 - prev.signExtend 32).toInt = next.toInt - prev.toInt ∧
      SmallResidual (next.signExtend 32 - prev.signExtend 32) := by
  have nextLow := BitVec.le_toInt next
  have nextHigh := BitVec.toInt_lt (x := next)
  have prevLow := BitVec.le_toInt prev
  have prevHigh := BitVec.toInt_lt (x := prev)
  have exact_difference : (next.signExtend 32 - prev.signExtend 32).toInt = next.toInt - prev.toInt := by
    rw [BitVec.toInt_sub, BitVec.toInt_signExtend_of_le (by omega), BitVec.toInt_signExtend_of_le (by omega)]
    refine Int.bmod_eq_of_le ?_ ?_ <;> omega
  refine ⟨exact_difference, ?_⟩
  rw [SmallResidual, exact_difference]
  omega

/-- Summing the differences restores the samples. -/
theorem scanl_differences (first : BitVec 16) (rest : List (BitVec 16)) :
    ((List.zipWith (fun next prev => next.signExtend 32 - prev.signExtend 32) rest (first :: rest)).map
      (BitVec.toInt (n := 32))).scanl (· + ·) first.toInt = (first :: rest).map BitVec.toInt := by
  induction rest generalizing first with
  | nil => rfl
  | cons second rest ih =>
    rw [List.zipWith_cons_cons, List.map_cons, List.scanl_cons, (toInt_difference second first).1,
      show first.toInt + (second.toInt - first.toInt) = second.toInt by omega, ih, List.map_cons, List.map_cons,
      List.map_cons]

/-- A subframe's samples at the 16 bits of an i16. -/
theorem appends_sample (w : BitWriter) (s : BitVec 16) :
    Appends w (w.writeBits (s.signExtend 64 &&& ((1#64 <<< 16) - 1#64)) 16) (ofNat 16 (s.signExtend 64).toNat) ∧
      Reads (int 16) (ofNat 16 (s.signExtend 64).toNat) s.toInt :=
  appends_signed w s (by omega) (by omega) (by omega) (BitVec.le_toInt s) BitVec.toInt_lt

/-- The three fields before a subframe's samples. -/
theorem appends_kind (w : BitWriter) (kind : Nat) (fits : kind < 64) :
    Appends w (((w.writeBits 0#64 1).writeBits (BitVec.ofNat 64 kind) 6).writeBits 0#64 1)
      (ofNat 1 0 ++ (ofNat 6 kind ++ ofNat 1 0)) := by
  refine (appends_writeBits w _ 1).trans (.trans (appends_field _ ?_) (appends_writeBits _ _ 1))
  rw [BitVec.toNat_ofNat]
  omega

/-- A reader of the fields before a subframe's samples goes on with the kind. -/
theorem reads_subframe {kind n : Nat} {b : List Bool} {samples : List Int} (fits : kind < 64)
    (body : Reads (if kind = 0 then return List.replicate n (← int 16)
      else if kind = 1 then times (int 16) n
      else if kind = 9 then do
        let first ← int 16
        let res ← FlacFormat.residual n 1
        return res.scanl (· + ·) first
      else failure) b samples) :
    Reads (subframe 16 n) ((ofNat 1 0 ++ (ofNat 6 kind ++ ofNat 1 0)) ++ b) samples := by
  simp only [List.append_assoc]
  unfold subframe
  exact (reads_nat (by omega)).bind (.check rfl ((reads_nat fits).bind ((reads_nat (by omega)).bind (.check rfl body))))

/-- A FIXED subframe of order 1 carries its samples. -/
theorem appends_encodeSubframeFixed1 (w : BitWriter) (first : BitVec 16) (rest : List (BitVec 16)) :
    ∃ b, Appends w (encodeSubframeFixed1 w (first :: rest) 16#16) b ∧
      Reads (subframe 16 (rest.length + 1)) b ((first :: rest).map BitVec.toInt) := by
  unfold encodeSubframeFixed1
  extract_lets w1 w2 w3 mask w4 residuals
  have small : ∀ r ∈ residuals, SmallResidual r := by
    intro r member
    obtain ⟨i, bound, rfl⟩ := List.mem_iff_getElem.1 member
    rw [List.getElem_zipWith]
    exact (toInt_difference _ _).2
  have count : residuals.length = rest.length := by
    simp [residuals]
  obtain ⟨b, app, reads⟩ := appends_encodeResiduals w4 small
  obtain ⟨sample, readSample⟩ := appends_sample w3 first
  refine ⟨_, (appends_kind w 9 (by omega)).trans (sample.trans app), reads_subframe (by omega) ?_⟩
  rw [if_neg (by omega), if_neg (by omega), if_pos rfl]
  apply readSample.bind
  rw [count] at reads
  apply reads.last
  rw [← scanl_differences]
  exact .pure _

/-- **A subframe.** Whichever coding a channel of a block gets, the format's decoder reads back its samples. -/
theorem appends_encodeSubframe (w : BitWriter) {samples : List (BitVec 16)} (some : samples ≠ []) :
    ∃ b, Appends w (encodeSubframe w samples 16#16) b ∧
      Reads (subframe 16 samples.length) b (samples.map BitVec.toInt) := by
  cases samples with
  | nil => exact absurd rfl some
  | cons first rest =>
    unfold encodeSubframe
    dsimp only
    by_cases constant : (first :: rest).all (· == first) = true
    · rw [if_pos constant]
      obtain ⟨sample, readSample⟩ := appends_sample (((w.writeBits 0#64 1).writeBits 0b000000#64 6).writeBits 0#64 1) first
      refine ⟨_, (appends_kind w 0 (by omega)).trans sample, reads_subframe (by omega) ?_⟩
      have same : (first :: rest).map BitVec.toInt = List.replicate (first :: rest).length first.toInt := by
        refine List.eq_replicate_iff.2 ⟨by simp, fun x member => ?_⟩
        obtain ⟨s, inside, rfl⟩ := List.mem_map.1 member
        rw [eq_of_beq (List.all_eq_true.1 constant s inside)]
      rw [if_pos rfl, same]
      exact readSample.map _
    · rw [if_neg constant]
      have long : ¬ (first :: rest).length ≤ 1 := by
        intro short
        have alone : rest = [] := List.eq_nil_of_length_eq_zero (by simpa using short)
        exact constant (by simp [alone])
      rw [if_neg long]
      exact appends_encodeSubframeFixed1 w first rest

end StereoMix.Encode
