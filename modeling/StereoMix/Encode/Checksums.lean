import StereoMix.Encode.FrameParts
import StereoMix.Lib.CrcPolynomial

/-!
# The checksums are polynomial remainders

`crc8` and `crc16` divide what they are given by the polynomials their comments name. A whole frame, its own
CRC-16 included, is therefore a multiple of the second polynomial, and a burst within the width of a checksum
never goes unseen.
-/

namespace StereoMix.Encode

open BitString BitWriter Crc Polynomial

theorem generator_crc8 : generator 0x07#8 = X ^ 8 + X ^ 2 + X + 1 := by
  have bits : ofNat 8 (0x07#8).toNat = [false, false, false, false, false, true, true, true] := rfl
  rw [generator, ofReg, bits]
  simp [ofBits, bitCoeff]
  ring

theorem generator_crc16 : generator 0x8005#16 = X ^ 16 + X ^ 15 + X ^ 2 + 1 := by
  have bits : ofNat 16 (0x8005#16).toNat = [true, false, false, false, false, false, false, false,
      false, false, false, false, false, true, false, true] := rfl
  rw [generator, ofReg, bits]
  simp [ofBits, bitCoeff]
  ring

theorem crc8_remainder (data : List (BitVec 8)) :
    ofReg (crc8 data) = (ofBits (ofBytes data) * X ^ 8) %ₘ (X ^ 8 + X ^ 2 + X + 1) := by
  rw [crc8_eq, ofReg_crc, generator_crc8]

theorem crc16_remainder (data : List (BitVec 8)) :
    ofReg (crc16 data) = (ofBits (ofBytes data) * X ^ 16) %ₘ (X ^ 16 + X ^ 15 + X ^ 2 + 1) := by
  rw [crc16_eq, ofReg_crc, generator_crc16]

/-- A frame ends with its own checksum. -/
theorem crc16_encodeFrame (xs : List (BitVec 16)) (channels : BitVec 16) (sampleRate : BitVec 32) (bps : BitVec 16)
    (num : BitVec 32) : crc16 (encodeFrame xs channels sampleRate bps num) = 0#16 := by
  obtain ⟨body, whole⟩ := encodeFrame_tail xs channels sampleRate bps num
  rw [crc16_eq, whole, crc16_eq body]
  exact crc_append_crc _ _

theorem crc8_ne_of_burst {data other : List (BitVec 8)} (burst : Burst 8 (ofBytes data) (ofBytes other)) :
    crc8 data ≠ crc8 other := by
  rw [crc8_eq, crc8_eq]
  exact crc_ne_of_burst (by simp [generator_crc8, coeff_X, coeff_one]) burst

theorem crc16_ne_of_burst {data other : List (BitVec 8)} (burst : Burst 16 (ofBytes data) (ofBytes other)) :
    crc16 data ≠ crc16 other := by
  rw [crc16_eq, crc16_eq]
  exact crc_ne_of_burst (by simp [generator_crc16, coeff_one]) burst

/-- **The checksums are the polynomial ones.** They are remainders of the data shifted up by their width; so the
CRC-16 of a complete frame is zero, and a burst of at most 8 or 16 bits changes the checksum of that width. -/
theorem checksums_polynomial :
    (∀ data, ofReg (crc8 data) = (ofBits (ofBytes data) * X ^ 8) %ₘ (X ^ 8 + X ^ 2 + X + 1)) ∧
    (∀ data, ofReg (crc16 data) = (ofBits (ofBytes data) * X ^ 16) %ₘ (X ^ 16 + X ^ 15 + X ^ 2 + 1)) ∧
    (∀ xs channels sampleRate bps num, crc16 (encodeFrame xs channels sampleRate bps num) = 0#16) ∧
    (∀ data other, Burst 8 (ofBytes data) (ofBytes other) → crc8 data ≠ crc8 other) ∧
    (∀ data other, Burst 16 (ofBytes data) (ofBytes other) → crc16 data ≠ crc16 other) :=
  ⟨crc8_remainder, crc16_remainder, crc16_encodeFrame, fun _ _ => crc8_ne_of_burst, fun _ _ => crc16_ne_of_burst⟩

/-- A burst across a byte boundary. -/
theorem checksums_polynomial_burst : crc16 [0x01#8, 0x80#8, 0x00#8] ≠ crc16 [0x00#8, 0x00#8, 0x00#8] := by
  apply checksums_polynomial.2.2.2.2
  refine ⟨by decide, List.replicate 7 false, [true, true], [false, false], List.replicate 15 false, ?_⟩
  exact ⟨by decide, by decide, by decide, by decide⟩

end StereoMix.Encode
