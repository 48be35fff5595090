import StereoMix.Lib.BitString
import Mathlib.Tactic.IntervalCases

/-!
# `flac_enc.rs`'s bit writer

The writer holds the completed bytes and a partial byte whose `bit_pos` high bits are used. `bits` is the
bit string it has taken so far; `Appends w w' b` says that a step from `w` to `w'` keeps the writer well
formed and adds exactly `b`, so an encoder built from such steps appends the concatenation.
-/

namespace StereoMix.Encode

open BitString

/-- MSB-first bit-stream writer: completed bytes, the partial byte and the number of bits used in it. -/
structure BitWriter where
  buf : List (BitVec 8)
  current : BitVec 8
  bitPos : Nat
  deriving DecidableEq, Repr

namespace BitWriter

def new : BitWriter := ⟨[], 0, 0⟩

/-- The body of the loop in `write_bits`: one bit goes into the partial byte. -/
def pushBit (w : BitWriter) (bit : BitVec 8) : BitWriter :=
  let current := w.current ||| (bit <<< (7 - w.bitPos))
  let bitPos := w.bitPos + 1
  if bitPos = 8 then ⟨w.buf ++ [current], 0, 0⟩ else ⟨w.buf, current, bitPos⟩

/-- Write the low `count` bits of `val`, most significant first (`count` at most 64). -/
def writeBits (w : BitWriter) (val : BitVec 64) : Nat → BitWriter
  | 0 => w
  | i + 1 => (w.pushBit (((val >>> i) &&& 1#64).setWidth 8)).writeBits val i

/-- Unary code: `count` zeros followed by a one. -/
def writeUnary (w : BitWriter) (count : Nat) : BitWriter :=
  ((fun w => w.writeBits 0#64 1)^[count] w).writeBits 1#64 1

/-- Pad with zeros to the next byte boundary. -/
def byteAlign (w : BitWriter) : BitWriter :=
  if w.bitPos > 0 then ⟨w.buf ++ [w.current], 0, 0⟩ else w

/-- Completed bytes so far (excludes any partial byte). -/
def bytes (w : BitWriter) : List (BitVec 8) := w.buf

/-- All bytes, a partial byte padded with zeros. -/
def intoBytes (w : BitWriter) : List (BitVec 8) := w.byteAlign.buf

/-- The writer's invariant: the partial byte is not full and its unused low bits are zero. -/
structure Ok (w : BitWriter) : Prop where
  partialByte : w.bitPos < 8
  unused : ∀ i, i < 8 - w.bitPos → w.current.getLsbD i = false

/-- The bit string written so far: the completed bytes and the used bits of the partial one. -/
def bits (w : BitWriter) : List Bool :=
  ofBytes w.buf ++ ofNat w.bitPos (w.current.toNat >>> (8 - w.bitPos))

/-- `w'` is well formed and has taken exactly the bits `b` after those of `w`. -/
def Appends (w w' : BitWriter) (b : List Bool) : Prop := w.Ok → w'.Ok ∧ w'.bits = w.bits ++ b

theorem new_ok : new.Ok := ⟨by simp [new], by simp [new]⟩

@[simp] theorem bits_new : new.bits = [] := rfl

theorem Appends.refl (w : BitWriter) : Appends w w [] := fun ok => ⟨ok, by simp⟩

theorem Appends.trans {w w' w'' : BitWriter} {b c : List Bool} (h : Appends w w' b) (h' : Appends w' w'' c) :
    Appends w w'' (b ++ c) := by
  intro ok
  obtain ⟨ok', first⟩ := h ok
  obtain ⟨ok'', second⟩ := h' ok'
  exact ⟨ok'', by rw [second, first, List.append_assoc]⟩

/-- A loop whose turn for `x` appends `bits x` appends the bits of all elements. -/
theorem appends_foldl {α : Type} {turn : BitWriter → α → BitWriter} {bits : α → List Bool} (xs : List α)
    (each : ∀ w, ∀ x ∈ xs, Appends w (turn w x) (bits x)) (w : BitWriter) :
    Appends w (xs.foldl turn w) (xs.flatMap bits) := by
  induction xs generalizing w with
  | nil => exact .refl w
  | cons x xs ih => exact (each w x (by simp)).trans (ih (fun w y hy => each w y (by simp [hy])) _)

theorem length_bits (w : BitWriter) : w.bits.length = 8 * w.buf.length + w.bitPos := by
  simp [bits]

/-- On a byte boundary the bits are those of the completed bytes. -/
theorem Ok.bits_of_aligned {w : BitWriter} (ok : w.Ok) (whole : w.bits.length % 8 = 0) :
    w.bitPos = 0 ∧ w.bits = ofBytes w.buf := by
  have := ok.partialByte
  rw [length_bits] at whole
  have zero : w.bitPos = 0 := by omega
  exact ⟨zero, by simp [bits, zero]⟩

/-- Whole bytes appended on a byte boundary follow the completed ones. -/
theorem Appends.bytes {w w' : BitWriter} {b : List Bool} (app : Appends w w' b) (ok : w.Ok) (aligned : w.bitPos = 0)
    (whole : b.length % 8 = 0) : w'.bitPos = 0 ∧ ofBytes w'.bytes = ofBytes w.bytes ++ b := by
  obtain ⟨ok', bits⟩ := app ok
  have before : w.bits = ofBytes w.bytes := by simp [BitWriter.bits, BitWriter.bytes, aligned]
  have boundary := ok'.bits_of_aligned (by
    rw [bits, before, List.length_append, length_ofBytes]
    omega)
  exact ⟨boundary.1, by rw [BitWriter.bytes, ← boundary.2, bits, before]⟩

/-- Setting the first unused bit of the partial byte changes that bit only. -/
theorem Ok.getLsbD_current {w : BitWriter} (ok : w.Ok) (b : Bool) {i : Nat} (range : i < 8) :
    (w.current ||| ((BitVec.ofBool b).setWidth 8 <<< (7 - w.bitPos))).getLsbD i =
      if i = 7 - w.bitPos then b else w.current.getLsbD i := by
  have partialByte := ok.partialByte
  by_cases here : i = 7 - w.bitPos
  · subst here
    have free := ok.unused (7 - w.bitPos) (by omega)
    cases b <;> simp [free]
    omega
  · have other : ∀ k, (BitVec.setWidth 8 (BitVec.ofBool b)).getLsbD (k + 1) = false := by
      cases b <;> simp
    by_cases above : i < 7 - w.bitPos
    · simp [here, above]
    · obtain ⟨k, gap⟩ : ∃ k, i - (7 - w.bitPos) = k + 1 := ⟨i - (7 - w.bitPos) - 1, by omega⟩
      rw [BitVec.getLsbD_or, BitVec.getLsbD_shiftLeft, gap, other]
      simp [here]

theorem appends_pushBit (w : BitWriter) (b : Bool) : Appends w (w.pushBit ((BitVec.ofBool b).setWidth 8)) [b] := by
  intro ok
  have partialByte := ok.partialByte
  have bit := fun i (range : i < 8) => ok.getLsbD_current b range
  simp only [pushBit]
  generalize w.current ||| ((BitVec.ofBool b).setWidth 8 <<< (7 - w.bitPos)) = cur at bit
  have added : ofBytes w.buf ++ ofNat (w.bitPos + 1) (cur.toNat >>> (7 - w.bitPos)) = w.bits ++ [b] := by
    rw [bits, ofNat_add, List.append_assoc, ← Nat.shiftRight_add]
    congr 2
    · rw [show 7 - w.bitPos + 1 = 8 - w.bitPos by omega]
      apply ofNat_congr
      intro i range
      simp only [Nat.testBit_shiftRight, BitVec.testBit_toNat]
      rw [bit _ (by omega), if_neg (by omega)]
    · simpa [ofNat, BitVec.testBit_toNat] using bit (7 - w.bitPos) (by omega)
  split
  · rename_i full
    rw [full, show 7 - w.bitPos = 0 by omega] at added
    refine ⟨⟨by simp, by simp⟩, ?_⟩
    simpa [bits] using added
  · refine ⟨⟨by simp only; omega, fun i free => ?_⟩, ?_⟩
    · simp only at free ⊢
      rw [bit i (by omega), if_neg (by omega)]
      exact ok.unused i (by omega)
    · rw [← added, bits, show 8 - (w.bitPos + 1) = 7 - w.bitPos by omega]

/-- `write_bits` appends the field of the `count` low bits of `val`. -/
theorem appends_writeBits (w : BitWriter) (val : BitVec 64) (count : Nat) :
    Appends w (w.writeBits val count) (ofNat count val.toNat) := by
  induction count generalizing w with
  | zero => exact .refl w
  | succ i ih =>
    have bit : ((val >>> i) &&& 1#64).setWidth 8 = (BitVec.ofBool (val.toNat.testBit i)).setWidth 8 := by
      ext j hj
      rcases j with _ | j <;> simp [BitVec.testBit_toNat]
    rw [writeBits, bit]
    exact (appends_pushBit w _).trans (ih _)

/-- A field written with more bits than its value needs. -/
theorem appends_field (w : BitWriter) {val : BitVec 64} {count v : Nat} (same : val.toNat % 2 ^ count = v) :
    Appends w (w.writeBits val count) (ofNat count v) := by
  rw [← same, ofNat_mod]
  exact appends_writeBits w val count

/-- A register written whole. -/
theorem appends_register (w : BitWriter) {n : Nat} (r : BitVec n) (fits : n ≤ 64) :
    Appends w (w.writeBits (r.setWidth 64) n) (ofNat n r.toNat) := by
  apply appends_field w
  rw [BitVec.toNat_setWidth, Nat.mod_mod_of_dvd _ (Nat.pow_dvd_pow 2 fits), Nat.mod_eq_of_lt r.isLt]

theorem appends_writeUnary (w : BitWriter) (count : Nat) :
    Appends w (w.writeUnary count) (List.replicate count false ++ [true]) := by
  have zeros : Appends w ((fun w => w.writeBits 0#64 1)^[count] w) (List.replicate count false) := by
    induction count generalizing w with
    | zero => exact .refl w
    | succ n ih =>
      rw [Function.iterate_succ_apply, List.replicate_succ, ← List.singleton_append]
      exact (appends_writeBits w 0#64 1).trans (ih _)
  exact zeros.trans (appends_writeBits _ 1#64 1)

/-- `byte_align` adds the zeros up to the next byte boundary. -/
theorem appends_byteAlign (w : BitWriter) :
    Appends w w.byteAlign (List.replicate ((8 - w.bits.length % 8) % 8) false) := by
  intro ok
  have partialByte := ok.partialByte
  rw [length_bits]
  unfold byteAlign
  split
  · have padding : ofNat (8 - w.bitPos) w.current.toNat = List.replicate (8 - w.bitPos) false := by
      rw [← ofNat_zero_right]
      apply ofNat_congr
      intro i range
      rw [BitVec.testBit_toNat, ok.unused i range, Nat.zero_testBit]
    have whole := ofNat_add w.bitPos (8 - w.bitPos) w.current.toNat
    rw [padding, show w.bitPos + (8 - w.bitPos) = 8 by omega] at whole
    refine ⟨⟨by simp, by simp⟩, ?_⟩
    rw [show (8 - (8 * w.buf.length + w.bitPos) % 8) % 8 = 8 - w.bitPos by omega]
    simp [bits, whole]
  · have zero : w.bitPos = 0 := by omega
    exact ⟨ok, by simp [zero]⟩

/-! ## Something written -/

/-- The writer has taken a bit. -/
def Started (w : BitWriter) : Prop := w.buf ≠ [] ∨ 0 < w.bitPos

theorem started_pushBit (w : BitWriter) (bit : BitVec 8) : (w.pushBit bit).Started := by
  simp only [pushBit]
  split
  · exact .inl (by simp)
  · exact .inr (Nat.succ_pos _)

theorem started_writeBits (w : BitWriter) (val : BitVec 64) (count : Nat) : (w.writeBits val (count + 1)).Started := by
  induction count generalizing w with
  | zero => exact started_pushBit w _
  | succ count ih => exact ih (w.pushBit _)

theorem Started.intoBytes_ne_nil {w : BitWriter} (started : w.Started) : w.intoBytes ≠ [] := by
  unfold intoBytes byteAlign
  split
  · simp
  · rename_i aligned
    exact started.resolve_right aligned

end BitWriter

end StereoMix.Encode
