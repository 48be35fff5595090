import StereoMix.Encode.FrameParts

/-!
# What a frame header states

A decoder that knows STREAMINFO reads a frame's header, checks its CRC-8 and goes on after it. It learns the
block size, the channels, the sample size and the number of the frame as they were. The rate has a field of
16 bits when no code stands for it, in Hz or in tens of Hz, so a rate that fits neither is stated as another.
-/

namespace StereoMix.Encode

open BitString BitReader FlacFormat BitWriter

/-- The rates a frame header can state. -/
def RateFits (sr : BitVec 32) : Prop := sr.toNat < 2 ^ 16 ∨ sr.toNat % 10 = 0 ∧ sr.toNat / 10 < 2 ^ 16

theorem statedRate_eq_iff (sr : BitVec 32) : statedRate sr = sr.toNat ↔ RateFits sr := by
  unfold statedRate sampleRateCode RateFits
  split
  -- the rates of the table
  iterate 11
    rename_i rate
    simp [rate]
  split
  · rename_i khz
    have whole : sr.toNat % 1000 = 0 := by simpa using congrArg BitVec.toNat khz.1
    have small : sr.toNat / 1000 ≤ 255 := by simpa [BitVec.le_def] using khz.2
    simp
    omega
  · split
    · rename_i hz
      have small : sr.toNat ≤ 65535 := by simpa [BitVec.le_def] using hz
      simp
      omega
    · rename_i large
      have large : 65535 < sr.toNat := by simpa [BitVec.le_def] using large
      simp
      omega

/-- A sample size with no code of its own is that of STREAMINFO. -/
theorem sampleSize_code {info : StreamInfo} {bps : BitVec 16} (same : info.bitsPerSample = bps.toNat) :
    sampleSize info (sampleSizeCode bps).toNat = some bps.toNat := by
  unfold sampleSizeCode
  split
  iterate 6
    rename_i depth
    simp [sampleSize, depth]
  · simp [sampleSize, same]

section

variable (info : StreamInfo) (xs : List (BitVec 16)) (channels : BitVec 16) (sampleRate : BitVec 32) (bps : BitVec 16)
  (num : BitVec 32)

/-- A decoder that has read STREAMINFO takes exactly the header bytes and the CRC-8 of a frame, accepts them, and
has the stream's own parameters. -/
def StatesParameters : Prop :=
  ∃ h, (checkedHeader info).run (ofBytes (encodeFrame xs channels sampleRate bps num)) = some (h,
      ofBytes ((encodeFrame xs channels sampleRate bps num).drop
        ((headerBytes xs channels sampleRate bps num).length + 1))) ∧
    h.blockSize = xs.length / channels.toNat ∧ h.rate.getD info.sampleRate = sampleRate.toNat ∧
    h.channels = channels.toNat ∧ h.bitsPerSample = bps.toNat ∧ h.number = num.toNat

end

section

variable {info : StreamInfo} {xs : List (BitVec 16)} {channels : BitVec 16} {sampleRate : BitVec 32} {bps : BitVec 16}
  {num : BitVec 32}

/-- What the decoder reads at the front of a frame. -/
theorem run_checkedHeader (low : 1 ≤ xs.length / channels.toNat) (high : xs.length / channels.toNat ≤ 65536)
    (chans : 1 ≤ channels.toNat ∧ channels.toNat ≤ 8) (range : num.toNat < 2 ^ 26)
    (depth : info.bitsPerSample = bps.toNat) :
    (checkedHeader info).run (ofBytes (encodeFrame xs channels sampleRate bps num)) =
      some (⟨num.toNat, xs.length / channels.toNat, some (statedRate sampleRate), channels.toNat, bps.toNat⟩,
        ofBytes ((encodeFrame xs channels sampleRate bps num).drop
          ((headerBytes xs channels sampleRate bps num).length + 1))) := by
  obtain ⟨b, whole, app, reads⟩ :=
    appends_writeFrameHeader .new info sampleRate low high chans range (sampleSize_code depth)
  obtain ⟨aligned, headBits⟩ := app.bytes new_ok rfl (by omega)
  change ofBytes (headerBytes xs channels sampleRate bps num) = b at headBits
  obtain ⟨rest, frame⟩ := encodeFrame_head xs channels sampleRate bps num aligned
  have crc : Reads (checkedHeader info) (b ++ ofNat 8 (crc8 (headerBytes xs channels sampleRate bps num)).toNat)
      ⟨num.toNat, xs.length / channels.toNat, some (statedRate sampleRate), channels.toNat, bps.toNat⟩ := by
    unfold checkedHeader
    refine reads.consuming.bind ((reads_nat (BitVec.isLt _)).last (.check ?_ (.pure _)))
    rw [crc8_eq, headBits]
  have after : (encodeFrame xs channels sampleRate bps num).drop
      ((headerBytes xs channels sampleRate bps num).length + 1) = rest := by
    rw [frame, List.drop_append, List.drop_eq_nil_of_le (by omega), Nat.add_sub_cancel_left]
    rfl
  rw [after, frame, ofBytes_append, ofBytes_cons, headBits, ← List.append_assoc]
  exact crc _

/-- **A frame header states the stream's parameters exactly when the rate fits its fields**: below 65536 Hz, or
a multiple of 10 Hz up to 655350 Hz. -/
theorem header_states_parameters_iff {minBlock maxBlock : BitVec 16} {totalSamples : BitVec 64}
    (low : 1 ≤ xs.length / channels.toNat) (high : xs.length / channels.toNat ≤ 65535)
    (rate : 1 ≤ sampleRate.toNat ∧ sampleRate.toNat < 2 ^ 20) (chans : 1 ≤ channels.toNat ∧ channels.toNat ≤ 8)
    (depth : 1 ≤ bps.toNat ∧ bps.toNat ≤ 32) (range : num.toNat < 2 ^ 26)
    (read : streamInfo.run (ofBytes (buildStreaminfo minBlock maxBlock sampleRate channels bps totalSamples)) =
      some (info, [])) :
    StatesParameters info xs channels sampleRate bps num ↔ RateFits sampleRate := by
  have built : streamInfo.run
      (ofBytes (buildStreaminfo minBlock maxBlock sampleRate channels bps totalSamples) ++ []) = _ :=
    reads_buildStreaminfo rate.2 chans depth []
  rw [List.append_nil, read] at built
  obtain ⟨fields, -⟩ := Prod.mk.inj (Option.some.inj built)
  have size : info.bitsPerSample = bps.toNat := by rw [fields]
  have run : (checkedHeader info).run (ofBytes (encodeFrame xs channels sampleRate bps num)) = _ :=
    run_checkedHeader low (by omega) chans range size
  rw [← statedRate_eq_iff]
  constructor
  · rintro ⟨h, read, -, rate, -⟩
    rw [run] at read
    obtain ⟨rfl, -⟩ := Prod.mk.inj (Option.some.inj read)
    exact rate
  · intro exact_rate
    exact ⟨_, run, rfl, exact_rate, rfl, rfl, rfl⟩

/-- A block of CD audio. -/
theorem header_states_parameters_cd :
    StatesParameters ⟨4096, 4096, 0, 0, 44100, 1, 16, 0, 0⟩ [7#16] 1#16 44100#32 16#16 0#32 := by
  have read : streamInfo.run (ofBytes (buildStreaminfo 4096#16 4096#16 44100#32 1#16 16#16 0#64)) =
      some (⟨4096, 4096, 0, 0, 44100, 1, 16, 0, 0⟩, []) := by decide +kernel
  apply (header_states_parameters_iff (by decide) (by decide) (by decide) (by decide) (by decide) (by decide) read).mpr
  exact .inl (by decide)

/-- 768 kHz is stated as 112640 Hz. -/
theorem header_misstates_rate :
    streamInfo.run (ofBytes (buildStreaminfo 4096#16 4096#16 768000#32 1#16 16#16 0#64)) =
      some (⟨4096, 4096, 0, 0, 768000, 1, 16, 0, 0⟩, []) ∧
    ¬ StatesParameters ⟨4096, 4096, 0, 0, 768000, 1, 16, 0, 0⟩ [7#16] 1#16 768000#32 16#16 0#32 := by
  refine ⟨by decide +kernel, ?_⟩
  rintro ⟨h, read, -, rate, -⟩
  rw [run_checkedHeader (by decide) (by decide) (by decide) (by decide) rfl] at read
  obtain ⟨rfl, -⟩ := Prod.mk.inj (Option.some.inj read)
  exact absurd rate (by decide)

end

end StereoMix.Encode
