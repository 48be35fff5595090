import StereoMix.Lib.BitString
import Mathlib.Logic.Function.Iterate

/-!
# Cyclic redundancy checks, bit by bit

`crc poly bits` is the register of the division of `bits`, followed by as many zeros as the register is
wide, by the polynomial with leading term `x ^ w` and low coefficients `poly`: the register starts at
zero, the bits enter at the top. A byte-wise implementation instead adds a whole byte to the top of the
register and shifts it out; `foldl_feed` says that this is the same, since a shift is linear.
-/

namespace Crc

open BitString

variable {w : Nat}

/-- One shift of the register, the polynomial subtracted when a one leaves it. -/
def shift (poly reg : BitVec w) : BitVec w := if reg.msb then (reg <<< 1) ^^^ poly else reg <<< 1

/-- One bit enters the register. -/
def feed (poly reg : BitVec w) (b : Bool) : BitVec w :=
  if reg.msb != b then (reg <<< 1) ^^^ poly else reg <<< 1

/-- The check value of a bit string. -/
def crc (poly : BitVec w) (bits : List Bool) : BitVec w := bits.foldl (feed poly) 0

/-- The bits `bs` placed at the top of an otherwise zero register. -/
def top : List Bool → BitVec w
  | [] => 0
  | b :: bs => (if b then BitVec.twoPow w (w - 1) else 0) ^^^ (top bs >>> 1)

theorem shift_xor (poly a b : BitVec w) : shift poly (a ^^^ b) = shift poly a ^^^ shift poly b := by
  have cancel : ∀ x y : BitVec w, x ^^^ y = (x ^^^ poly) ^^^ (y ^^^ poly) := by
    intro x y
    rw [BitVec.xor_assoc, BitVec.xor_comm y, ← BitVec.xor_assoc poly, BitVec.xor_self, BitVec.zero_xor]
  simp only [shift, BitVec.msb_xor, BitVec.shiftLeft_xor_distrib]
  cases a.msb <;> cases b.msb <;> simp only [Bool.xor_false, Bool.xor_true, Bool.not_false, Bool.not_true,
    if_true, Bool.false_eq_true, if_false]
  · rw [BitVec.xor_assoc]
  · rw [BitVec.xor_assoc, BitVec.xor_comm (b <<< 1), ← BitVec.xor_assoc]
  · exact cancel _ _

/-- Feeding a bit is adding it to the top of the register and shifting. -/
theorem feed_eq (poly reg : BitVec w) (b : Bool) (wide : 0 < w) :
    feed poly reg b = shift poly (reg ^^^ if b then BitVec.twoPow w (w - 1) else 0) := by
  have out : BitVec.twoPow w (w - 1) <<< 1 = 0#w := by
    ext i hi
    simp
    omega
  have msb : (BitVec.twoPow w (w - 1)).msb = true := by
    simp [BitVec.msb_twoPow]; omega
  rw [shift_xor]
  cases b
  · simp [feed, shift]
  · simp only [feed, shift, if_true, out, msb, BitVec.zero_xor]
    cases reg.msb with
    | false => simp
    | true =>
      simp only [Bool.xor_true, Bool.not_true, Bool.false_eq_true, if_false, if_true]
      rw [BitVec.xor_assoc, BitVec.xor_self, BitVec.xor_zero]

/-- The bits of a string of at most `w` bits, placed at the top, leave the low bits of the register zero. -/
theorem top_low {bs : List Bool} {i : Nat} (low : i + bs.length < w) : (top bs : BitVec w).getLsbD i = false := by
  induction bs generalizing i with
  | nil => simp [top]
  | cons b bs ih =>
    simp only [List.length_cons] at low
    have rest := ih (i := 1 + i) (by omega)
    cases b <;> simp [top, rest, BitVec.getLsbD_twoPow]
    omega

/-- Bits below the top are shifted up without a subtraction. -/
theorem shift_top (poly : BitVec w) {bs : List Bool} (fits : bs.length < w) :
    shift poly ((top bs : BitVec w) >>> 1) = top bs := by
  have msb : ((top bs : BitVec w) >>> 1).msb = false := by
    rw [BitVec.msb_eq_getLsbD_last, BitVec.getLsbD_ushiftRight]
    exact BitVec.getLsbD_of_ge _ _ (by omega)
  rw [shift, msb]
  apply BitVec.eq_of_getLsbD_eq
  intro i hi
  rcases i with _ | i
  · simp [top_low (show 0 + bs.length < w by omega)]
  · simp [hi, Nat.add_comm]

/-- **Byte-wise division.** Feeding at most `w` bits one by one is adding them to the top of the register
and shifting once for each. -/
theorem foldl_feed (poly : BitVec w) (bs : List Bool) (fits : bs.length ≤ w) (reg : BitVec w) :
    bs.foldl (feed poly) reg = (shift poly)^[bs.length] (reg ^^^ top bs) := by
  induction bs generalizing reg with
  | nil => simp [top]
  | cons b bs ih =>
    simp only [List.length_cons] at fits
    rw [List.foldl_cons, ih (by omega), List.length_cons, Function.iterate_succ_apply, top, ← BitVec.xor_assoc,
      shift_xor poly _ (top bs >>> 1), shift_top poly (by omega), feed_eq poly reg b (by omega)]

theorem getLsbD_top (bs : List Bool) {i : Nat} (range : i < w) :
    (top bs : BitVec w).getLsbD i = (bs[w - 1 - i]?).getD false := by
  induction bs generalizing i with
  | nil => simp [top]
  | cons b bs ih =>
    by_cases last : i = w - 1
    · subst last
      cases b <;> simp [top, range]
      all_goals exact BitVec.getLsbD_of_ge _ _ (by omega)
    · have rest := ih (i := 1 + i) (by omega)
      rw [show w - 1 - i = w - 1 - (1 + i) + 1 by omega, List.getElem?_cons_succ, ← rest]
      cases b <;> simp [top, BitVec.getLsbD_twoPow, Ne.symm last]

/-- A byte at the top of the register. -/
theorem top_byte (b : BitVec 8) (wide : 8 ≤ w) : (top (ofNat 8 b.toNat) : BitVec w) = b.setWidth w <<< (w - 8) := by
  apply BitVec.eq_of_getLsbD_eq
  intro i range
  rw [getLsbD_top _ range, getElem?_ofNat]
  by_cases high : w - 1 - i < 8
  · simp only [high, if_true, Option.getD_some, BitVec.testBit_toNat, BitVec.getLsbD_shiftLeft, BitVec.getLsbD_setWidth]
    rw [show 8 - 1 - (w - 1 - i) = i - (w - 8) by omega]
    simp [range, show ¬ i < w - 8 by omega, show i - (w - 8) < w by omega]
  · simp [high, show i < w - 8 by omega]

/-- The division of whole bytes, a byte at a time. -/
theorem crc_ofBytes (poly : BitVec w) (wide : 8 ≤ w) (bytes : List (BitVec 8)) :
    crc poly (ofBytes bytes) =
      bytes.foldl (fun (reg : BitVec w) (b : BitVec 8) => (shift poly)^[8] (reg ^^^ (b.setWidth w <<< (w - 8)))) 0 := by
  suffices from_any : ∀ reg, (ofBytes bytes).foldl (feed poly) reg =
      bytes.foldl (fun (reg : BitVec w) (b : BitVec 8) => (shift poly)^[8] (reg ^^^ (b.setWidth w <<< (w - 8)))) reg
    from from_any 0
  intro reg
  induction bytes generalizing reg with
  | nil => rfl
  | cons b bytes ih =>
    have byte := foldl_feed poly (ofNat 8 b.toNat) (by simpa using wide) reg
    rw [ofBytes_cons, List.foldl_append, byte, ih, List.foldl_cons, top_byte b wide, length_ofNat]

end Crc
