import StereoMix.Lib.Crc
import Mathlib.Algebra.Field.ZMod
import Mathlib.Algebra.Polynomial.FieldDivision
import Mathlib.Tactic.LinearCombination

/-!
# Cyclic redundancy checks as polynomial division

A bit string is a polynomial over GF(2), its first bit the highest coefficient, and so is a register. The
register's invariant is the division's: what was fed, shifted up by the register's width, is a multiple of
the generator and the register (`dvd_crc`). A check value is thus the remainder, a string followed by its own
check value leaves nothing, and a burst no longer than the register changes the remainder.
-/

namespace Crc

open BitString Polynomial

variable {w : Nat}

/-- The coefficient a bit stands for. -/
def bitCoeff (b : Bool) : ZMod 2 := if b then 1 else 0

/-- The polynomial of a bit string, the first bit its highest coefficient. -/
noncomputable def ofBits (bits : List Bool) : (ZMod 2)[X] := bits.foldl (fun p b => X * p + C (bitCoeff b)) 0

/-- The polynomial of a register. -/
noncomputable def ofReg (r : BitVec w) : (ZMod 2)[X] := ofBits (ofNat w r.toNat)

/-- The generator whose low coefficients are `poly`. -/
noncomputable def generator (poly : BitVec w) : (ZMod 2)[X] := X ^ w + ofReg poly

theorem bitCoeff_xor (a b : Bool) : bitCoeff (a ^^ b) = bitCoeff a + bitCoeff b := by
  cases a <;> cases b <;> decide

theorem bitCoeff_injective : Function.Injective bitCoeff := by decide

@[simp] theorem ofBits_nil : ofBits [] = 0 := rfl

theorem foldl_ofBits (bits : List Bool) (p : (ZMod 2)[X]) :
    bits.foldl (fun p b => X * p + C (bitCoeff b)) p = p * X ^ bits.length + ofBits bits := by
  induction bits generalizing p with
  | nil => simp
  | cons b bits ih =>
    rw [ofBits, List.foldl_cons, List.foldl_cons, ih, ih (X * 0 + C (bitCoeff b)), List.length_cons]
    ring

theorem ofBits_append (xs ys : List Bool) : ofBits (xs ++ ys) = ofBits xs * X ^ ys.length + ofBits ys := by
  rw [ofBits, List.foldl_append, foldl_ofBits ys, ← ofBits]

theorem ofBits_cons (b : Bool) (bits : List Bool) :
    ofBits (b :: bits) = C (bitCoeff b) * X ^ bits.length + ofBits bits := by
  rw [← List.singleton_append, ofBits_append]
  simp [ofBits]

theorem degree_ofBits_lt (bits : List Bool) : (ofBits bits).degree < bits.length := by
  induction bits with
  | nil => simp
  | cons b bits ih =>
    have grows : (bits.length : WithBot Nat) < (b :: bits).length := by
      rw [List.length_cons]
      exact_mod_cast Nat.lt_succ_self _
    rw [ofBits_cons]
    refine (degree_add_le _ _).trans_lt (max_lt ?_ (ih.trans grows))
    exact (degree_C_mul_X_pow_le _ _).trans_lt grows

/-- Strings of one length with one polynomial are equal. -/
theorem ofBits_inj {xs ys : List Bool} (lengths : xs.length = ys.length) (same : ofBits xs = ofBits ys) :
    xs = ys := by
  induction xs generalizing ys with
  | nil => exact (List.length_eq_zero_iff.mp lengths.symm).symm
  | cons x xs ih =>
    rcases ys with _ | ⟨y, ys⟩
    · simp at lengths
    · simp only [List.length_cons, Nat.succ_inj] at lengths
      rw [ofBits_cons, ofBits_cons, lengths] at same
      have first := congrArg (fun p : (ZMod 2)[X] => p.coeff ys.length) same
      simp only [coeff_add, coeff_C_mul, coeff_X_pow_self, mul_one,
        coeff_eq_zero_of_degree_lt (degree_ofBits_lt ys),
        coeff_eq_zero_of_degree_lt (lengths ▸ degree_ofBits_lt xs), add_zero] at first
      rw [bitCoeff_injective first] at same ⊢
      rw [ih lengths (add_left_cancel same)]

theorem coeff_ofBits_ofNat (n v i : Nat) :
    (ofBits (ofNat n v)).coeff i = bitCoeff (decide (i < n) && v.testBit i) := by
  induction n with
  | zero => simp [bitCoeff]
  | succ n ih =>
    rw [ofNat, ofBits_cons, coeff_add, coeff_C_mul, length_ofNat, coeff_X_pow, ih]
    rcases Nat.lt_trichotomy i n with below | rfl | above
    · simp [below.ne, below, Nat.lt_succ_of_lt below]
    · simp [bitCoeff]
    · simp [above.ne', show ¬ i < n by omega, show ¬ i < n + 1 by omega, bitCoeff]

@[simp] theorem coeff_ofReg (r : BitVec w) (i : Nat) : (ofReg r).coeff i = bitCoeff (r.getLsbD i) := by
  rw [ofReg, coeff_ofBits_ofNat, BitVec.testBit_toNat]
  by_cases range : i < w
  · simp [range]
  · simp [range, BitVec.getLsbD_of_ge r i (by omega)]

theorem degree_ofReg_lt (r : BitVec w) : (ofReg r).degree < w := by
  simpa [ofReg] using degree_ofBits_lt (ofNat w r.toNat)

theorem ofReg_injective : Function.Injective (ofReg : BitVec w → (ZMod 2)[X]) := by
  intro a b same
  apply BitVec.eq_of_getLsbD_eq
  intro i range
  apply bitCoeff_injective
  rw [← coeff_ofReg, ← coeff_ofReg, same]

@[simp] theorem ofReg_zero : ofReg (0#w) = 0 := by
  ext i
  simp [bitCoeff]

theorem ofReg_xor (a b : BitVec w) : ofReg (a ^^^ b) = ofReg a + ofReg b := by
  ext i
  simp [bitCoeff_xor]

/-- A shifted register has lost its top bit. -/
theorem ofReg_shiftLeft (r : BitVec w) : ofReg (r <<< 1) = X * ofReg r + C (bitCoeff r.msb) * X ^ w := by
  ext i
  rw [coeff_add, coeff_C_mul, coeff_X_pow, coeff_ofReg, BitVec.msb_eq_getLsbD_last]
  rcases i with _ | i
  · by_cases wide : 0 = w
    · subst wide
      simp [bitCoeff]
    · simp [wide, bitCoeff]
  · rw [coeff_X_mul, coeff_ofReg]
    by_cases last : i + 1 = w
    · subst last
      simp [CharTwo.add_self_eq_zero]
      rfl
    · by_cases range : i + 1 < w
      · simp [last, range, -BitVec.getLsbD_eq_getElem]
      · simp [last, range, BitVec.getLsbD_of_ge r i (by omega)]

theorem monic_generator (poly : BitVec w) : (generator poly).Monic := monic_X_pow_add (degree_ofReg_lt poly)

theorem degree_generator (poly : BitVec w) : (generator poly).degree = w := by
  rw [generator, degree_add_eq_left_of_degree_lt]
  · exact degree_X_pow w
  · rw [degree_X_pow]
    exact degree_ofReg_lt poly

/-- One bit fed: the division's step, the generator added when a one leaves the register. -/
theorem ofReg_feed (poly reg : BitVec w) (b : Bool) :
    ofReg (feed poly reg b) =
      X * ofReg reg + C (bitCoeff b) * X ^ w + C (bitCoeff (reg.msb ^^ b)) * generator poly := by
  have twice : ∀ p : (ZMod 2)[X], p + p = 0 := CharTwo.add_self_eq_zero
  have step : feed poly reg b = (reg <<< 1) ^^^ (if reg.msb ^^ b then poly else 0#w) := by
    rw [feed]
    cases reg.msb <;> cases b <;> simp
  rw [step, ofReg_xor, ofReg_shiftLeft, generator]
  cases reg.msb <;> cases b <;> simp [bitCoeff]
  · linear_combination -(twice (X ^ w))
  · ring

/-- The division's invariant: what was fed, shifted up by the register's width, and the register differ by
a multiple of the generator. -/
theorem dvd_crc (poly : BitVec w) (bits : List Bool) :
    generator poly ∣ ofBits bits * X ^ w - ofReg (crc poly bits) := by
  induction bits using List.reverseRecOn with
  | nil => simp [crc]
  | append_singleton bits b ih =>
    obtain ⟨q, fed⟩ := ih
    refine ⟨X * q - C (bitCoeff (((crc poly bits).msb) ^^ b)), ?_⟩
    rw [crc, List.foldl_append, ← crc, List.foldl_cons, List.foldl_nil, ofReg_feed, ofBits_append, ofBits_cons]
    simp only [List.length_singleton, List.length_nil, ofBits_nil]
    linear_combination X * fed

/-- **A check value is a remainder.** -/
theorem ofReg_crc (poly : BitVec w) (bits : List Bool) :
    ofReg (crc poly bits) = (ofBits bits * X ^ w) %ₘ generator poly := by
  obtain ⟨q, division⟩ := dvd_crc poly bits
  refine (div_modByMonic_unique q _ (monic_generator poly) ⟨?_, ?_⟩).2.symm
  · linear_combination -division
  · rw [degree_generator]
    exact degree_ofReg_lt _

/-- A string followed by its own check value leaves the register empty. -/
theorem crc_append_crc (poly : BitVec w) (bits : List Bool) :
    crc poly (bits ++ ofNat w (crc poly bits).toNat) = 0 := by
  apply ofReg_injective
  have twice : ofReg (crc poly bits) + ofReg (crc poly bits) = 0 := CharTwo.add_self_eq_zero _
  have whole : generator poly ∣ ofBits (bits ++ ofNat w (crc poly bits).toNat) := by
    rw [ofBits_append, length_ofNat, ← ofReg]
    convert dvd_crc poly bits using 1
    linear_combination twice
  rw [ofReg_crc, (modByMonic_eq_zero_iff_dvd (monic_generator poly)).mpr (whole.mul_right _)]
  exact ofReg_zero.symm

/-! ## Bursts -/

/-- Two strings differ, and only inside a window of at most `n` bits. -/
def Burst (n : Nat) (xs ys : List Bool) : Prop :=
  xs ≠ ys ∧ ∃ before a b after, xs = before ++ a ++ after ∧ ys = before ++ b ++ after ∧
    a.length = b.length ∧ a.length ≤ n

/-- A generator with a constant term divides no more of a product by a power of `X` than of the factor. -/
theorem dvd_of_dvd_mul_X_pow {poly : BitVec w} (odd : (generator poly).coeff 0 = 1) {p : (ZMod 2)[X]} {n : Nat}
    (divides : generator poly ∣ p * X ^ n) : generator poly ∣ p := by
  have coprime : IsCoprime ((X : (ZMod 2)[X]) ^ n) (generator poly) := by
    apply IsCoprime.pow_left
    rw [(irreducible_X (R := ZMod 2)).coprime_iff_not_dvd, X_dvd_iff, odd]
    exact one_ne_zero
  exact coprime.symm.dvd_of_dvd_mul_right divides

/-- **A burst no longer than the register is seen.** -/
theorem crc_ne_of_burst {poly : BitVec w} (odd : (generator poly).coeff 0 = 1) {xs ys : List Bool}
    (burst : Burst w xs ys) : crc poly xs ≠ crc poly ys := by
  obtain ⟨differ, before, a, b, after, rfl, rfl, lengths, short⟩ := burst
  intro same
  apply differ
  have dividesX := dvd_crc poly (before ++ a ++ after)
  rw [same] at dividesX
  have divides : generator poly ∣ (ofBits a - ofBits b) * X ^ (after.length + w) := by
    convert dvd_sub dividesX (dvd_crc poly (before ++ b ++ after)) using 1
    simp only [ofBits_append, lengths, pow_add]
    ring
  have small : (ofBits a - ofBits b).degree < (generator poly).degree := by
    rw [degree_generator]
    refine (degree_sub_le _ _).trans_lt (max_lt ?_ ?_)
    · exact (degree_ofBits_lt a).trans_le (by exact_mod_cast short)
    · exact (degree_ofBits_lt b).trans_le (by exact_mod_cast lengths ▸ short)
  have zero := eq_zero_of_dvd_of_degree_lt (dvd_of_dvd_mul_X_pow odd divides) small
  rw [ofBits_inj lengths (sub_eq_zero.mp zero)]

end Crc
