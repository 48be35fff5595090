import StereoMix.Encode.FlacFile
import StereoMix.Encode.RiceParam

/-!
# The size of a FLAC file

The encoder has no way out for noise: every block goes through the residuals of its neighbours. With the parameter it
chooses a residual costs at most 22 bits, so a file has at most that much a sample, and some bytes a block and in front.
-/

namespace StereoMix.Encode

open BitString BitWriter FileSystem ByteFile

/-! ## What the writer takes at most -/

/-- `w'` is well formed if `w` is, and has taken at most `n` bits more. -/
def AddsAtMost (n : Nat) (w w' : BitWriter) : Prop := w.Ok → w'.Ok ∧ w'.bits.length ≤ w.bits.length + n

namespace AddsAtMost

variable {w w' w'' : BitWriter} {m n : Nat}

theorem refl (w : BitWriter) : AddsAtMost 0 w w := fun ok => ⟨ok, Nat.le_refl _⟩

theorem trans (first : AddsAtMost m w w') (second : AddsAtMost n w' w'') : AddsAtMost (m + n) w w'' := by
  intro ok
  obtain ⟨ok', few⟩ := first ok
  obtain ⟨ok'', few'⟩ := second ok'
  exact ⟨ok'', by omega⟩

theorem weaken (adds : AddsAtMost m w w') (below : m ≤ n) : AddsAtMost n w w' := by
  intro ok
  obtain ⟨ok', few⟩ := adds ok
  exact ⟨ok', by omega⟩

theorem of_appends {b : List Bool} (app : Appends w w' b) (few : b.length ≤ n) : AddsAtMost n w w' := by
  intro ok
  obtain ⟨ok', bits⟩ := app ok
  rw [bits, List.length_append]
  exact ⟨ok', by omega⟩

theorem foldl {α : Type} {turn : BitWriter → α → BitWriter} {cost : α → Nat} (xs : List α)
    (each : ∀ w, ∀ x ∈ xs, AddsAtMost (cost x) w (turn w x)) (w : BitWriter) :
    AddsAtMost (xs.map cost).sum w (xs.foldl turn w) := by
  induction xs generalizing w with
  | nil => exact refl w
  | cons x xs ih => exact (each w x (by simp)).trans (ih (fun w y member => each w y (by simp [member])) _)

end AddsAtMost

theorem addsAtMost_writeBits (w : BitWriter) (val : BitVec 64) (count : Nat) :
    AddsAtMost count w (w.writeBits val count) :=
  .of_appends (appends_writeBits w val count) (length_ofNat ..).le

/-! ## A frame -/

theorem addsAtMost_encodeResiduals (w : BitWriter) {residuals : List (BitVec 32)}
    (small : ∀ r ∈ residuals, SmallResidual r) (few : residuals.length < 2 ^ 47) :
    AddsAtMost (15 + 22 * residuals.length) w (encodeResiduals w residuals) := by
  unfold encodeResiduals
  extract_lets w1 w2 k maxQ w3 rawBps w4 rmask w5
  have front : AddsAtMost 6 w w2 := (addsAtMost_writeBits w _ 2).trans (addsAtMost_writeBits w1 _ 4)
  split
  · have escape : AddsAtMost 9 w2 w4 := (addsAtMost_writeBits w2 _ 4).trans (addsAtMost_writeBits w3 _ 5)
    have raw : AddsAtMost (residuals.map fun _ => 17).sum w4
        (residuals.foldl (fun w r => w.writeBits (r.signExtend 64 &&& rmask) rawBps) w4) :=
      .foldl residuals (fun w r _ => addsAtMost_writeBits w _ 17) w4
    refine (front.trans (escape.trans raw)).weaken ?_
    simp
    omega
  · have param : AddsAtMost 4 w2 w5 := addsAtMost_writeBits w2 _ 4
    obtain ⟨b, app, size⟩ := appends_riceCodes w5 (k := k) (by have := chooseRiceParam_le residuals; omega) small
    have coded : codedLength k residuals ≤ 22 * residuals.length := by
      by_cases empty : residuals = []
      · rw [empty]
        simp [codedLength, Rice.cost]
      · have chosen := chooseRiceParam_eq empty small (by omega) (sum_folded_lt small few)
        have quotients : ∀ f ∈ residuals.map folded, f / 2 ^ 14 ≤ 7 := by
          intro f member
          obtain ⟨r, inside, rfl⟩ := List.mem_map.1 member
          have below := (toNat_foldResidual64 (small r inside)).2
          omega
        have most := Rice.cost_param_le (by omega : 1 ≤ 7) quotients
        rw [List.length_map] at most
        rw [show k = _ from chosen, codedLength, Nat.mul_comm]
        exact most
    exact (front.trans (param.trans (.of_appends app size.le))).weaken (by omega)

/-- A channel of a block: at most 22 bits a sample, and a sample and 17 bits less in front. -/
theorem addsAtMost_encodeSubframe (w : BitWriter) {samples : List (BitVec 16)} (bps : BitVec 16)
    (few : samples.length < 2 ^ 47) :
    AddsAtMost (22 * samples.length + (bps.toNat + 1)) w (encodeSubframe w samples bps) := by
  cases samples with
  | nil => exact (AddsAtMost.refl w).weaken (Nat.zero_le _)
  | cons first rest =>
    have kind (kind : BitVec 64) :
        AddsAtMost 8 w (((w.writeBits 0#64 1).writeBits kind 6).writeBits 0#64 1) :=
      (addsAtMost_writeBits w _ 1).trans ((addsAtMost_writeBits _ _ 6).trans (addsAtMost_writeBits _ _ 1))
    rw [List.length_cons] at few ⊢
    unfold encodeSubframe
    dsimp only
    split
    · exact ((kind _).trans (addsAtMost_writeBits _ _ _)).weaken (by omega)
    split
    · rename_i short
      have alone : rest = [] := List.eq_nil_of_length_eq_zero (by simpa using short)
      subst alone
      exact ((kind _).trans (addsAtMost_writeBits _ _ _)).weaken (by simp; omega)
    · unfold encodeSubframeFixed1
      extract_lets w1 w2 w3 mask w4 residuals
      have small : ∀ r ∈ residuals, SmallResidual r := by
        intro r member
        obtain ⟨i, bound, rfl⟩ := List.mem_iff_getElem.1 member
        rw [List.getElem_zipWith]
        exact (toInt_difference _ _).2
      have count : residuals.length = rest.length := by simp [residuals]
      have coded := addsAtMost_encodeResiduals w4 small (by omega)
      exact ((kind _).trans ((addsAtMost_writeBits w3 _ _).trans coded)).weaken (by omega)

theorem addsAtMost_writeFrameHeader (w : BitWriter) (blockSize : Nat) (channels : BitVec 16) (sampleRate : BitVec 32)
    (bps : BitVec 16) (num : BitVec 32) :
    AddsAtMost 104 w (writeFrameHeader w blockSize channels sampleRate bps num) := by
  unfold writeFrameHeader
  extract_lets w1 bsCode srCode w2 w3 w4 w5 w6 w7 w8
  have codes : AddsAtMost 32 w w6 := (addsAtMost_writeBits w _ 16).trans ((addsAtMost_writeBits w1 _ 4).trans
    ((addsAtMost_writeBits w2 _ 4).trans ((addsAtMost_writeBits w3 _ 4).trans ((addsAtMost_writeBits w4 _ 3).trans
      (addsAtMost_writeBits w5 _ 1)))))
  have number : AddsAtMost 40 w6 w7 := by
    refine .of_appends (appends_form w6 num) ?_
    have few := continuationBytes_le num
    rw [length_ofBytes, ExtendedUtf8.form, List.length_cons, ExtendedUtf8.length_continuations]
    omega
  have size : AddsAtMost 16 w7 w8 := by
    unfold w8
    split
    · exact (addsAtMost_writeBits _ _ 8).weaken (by omega)
    split
    · exact addsAtMost_writeBits _ _ 16
    · exact (AddsAtMost.refl _).weaken (by omega)
  have rate : AddsAtMost 16 w8 (if srCode = 12#8 then w8.writeBits ((sampleRate / 1000#32).setWidth 64) 8
      else if srCode = 13#8 then w8.writeBits (sampleRate.setWidth 64) 16
      else if srCode = 14#8 then w8.writeBits ((sampleRate / 10#32).setWidth 64) 16 else w8) := by
    split
    · exact (addsAtMost_writeBits _ _ 8).weaken (by omega)
    split
    · exact addsAtMost_writeBits _ _ 16
    split
    · exact addsAtMost_writeBits _ _ 16
    · exact (AddsAtMost.refl _).weaken (by omega)
  exact codes.trans (number.trans (size.trans rate))

/-- Padding to a byte costs at most seven bits, and the CRC-16 behind it ends on a byte. -/
theorem length_intoBytes_le {w : BitWriter} {n : Nat} (adds : AddsAtMost n .new w) :
    8 * (w.byteAlign.writeBits ((crc16 w.byteAlign.bytes).setWidth 64) 16).intoBytes.length ≤ n + 23 := by
  obtain ⟨ok, few⟩ := adds new_ok
  obtain ⟨paddedOk, padded⟩ := appends_byteAlign w ok
  have boundary := paddedOk.bits_of_aligned (by rw [padded, List.length_append, List.length_replicate]; omega)
  have appCrc := appends_register w.byteAlign (crc16 w.byteAlign.bytes) (by omega)
  obtain ⟨doneOk, done⟩ := appCrc paddedOk
  obtain ⟨doneAligned, -⟩ := appCrc.bytes paddedOk boundary.1 (by rw [length_ofNat])
  have size := length_bits (w.byteAlign.writeBits ((crc16 w.byteAlign.bytes).setWidth 64) 16)
  rw [done, padded, doneAligned, List.length_append, List.length_append, List.length_replicate, length_ofNat] at size
  rw [intoBytes, byteAlign, if_neg (by omega)]
  rw [bits_new, List.length_nil] at few
  omega

/-- **A frame of whole multi-channel samples.** -/
theorem length_encodeFrame_le {n : Nat} {xs : List (BitVec 16)} {channels : BitVec 16} (sampleRate : BitVec 32)
    (bps : BitVec 16) (num : BitVec 32) (whole : xs.length = n * channels.toNat) (few : n < 2 ^ 47) :
    8 * (encodeFrame xs channels sampleRate bps num).length ≤
      135 + (channels.toNat * (bps.toNat + 1) + 22 * xs.length) := by
  have sizes : ∀ samples ∈ deinterleave channels.toNat xs, samples.length = n := by
    rw [deinterleave_eq xs whole]
    intro samples member
    obtain ⟨k, inside, rfl⟩ := List.mem_map.1 member
    rw [Interleaved.length_channel, whole, Nat.mul_div_cancel _ (Nat.zero_lt_of_lt (List.mem_range.1 inside))]
  unfold encodeFrame
  extract_lets blockSize chData w0 hdrCrc w1 w2 w3 frameCrc w4
  have header : AddsAtMost 112 .new w1 :=
    (addsAtMost_writeFrameHeader .new _ channels sampleRate bps num).trans (addsAtMost_writeBits w0 _ 8)
  have subframes : AddsAtMost (chData.map fun samples => 22 * samples.length + (bps.toNat + 1)).sum w1 w2 :=
    .foldl chData (fun w samples member => addsAtMost_encodeSubframe w bps (by rw [sizes samples member]; exact few)) w1
  have sum : (chData.map fun samples => 22 * samples.length + (bps.toNat + 1)).sum ≤
      channels.toNat * (bps.toNat + 1) + 22 * xs.length := by
    have each := List.sum_le_card_nsmul (chData.map fun samples => 22 * samples.length + (bps.toNat + 1))
      (22 * n + (bps.toNat + 1)) (by simpa using fun samples member => (sizes samples member).le)
    rw [List.length_map, length_deinterleave, nsmul_eq_mul, Nat.cast_id, Nat.mul_add] at each
    rw [whole]
    linarith
  have size := length_intoBytes_le (header.trans subframes)
  exact size.trans (by omega)

/-! ## The file -/

theorem length_framesFrom_le {f : PcmFormat} {blocks : List (List (BitVec 16))}
    (each : ∀ b ∈ blocks, WholeBlock f.channels.toNat b) (start : Nat) :
    8 * (framesFrom f start blocks).length ≤
      blocks.length * (135 + f.channels.toNat * (f.bitDepth.toNat + 1)) + 22 * blocks.flatten.length := by
  induction blocks generalizing start with
  | nil => simp [framesFrom]
  | cons b blocks ih =>
    have block := each b (by simp)
    have rest := ih (fun b member => each b (by simp [member])) (start + 1)
    have first := length_encodeFrame_le f.sampleRate f.bitDepth (BitVec.ofNat 32 start) block.whole
      (by have := block.few; rw [FLAC_BLOCK_SIZE] at this; omega)
    have split : framesFrom f start (b :: blocks) =
        encodeFrame b f.channels f.sampleRate f.bitDepth (BitVec.ofNat 32 start) ++ framesFrom f (start + 1) blocks := by
      simp [framesFrom, List.zipIdx_cons]
    rw [split, List.length_append, List.length_cons, List.flatten_cons, List.length_append]
    linarith

/-- **A FLAC recording has at most 22 bits a sample**, 135 bits and a sample and a bit a channel for each block of 4096
frames and the last, and 42 bytes. -/
theorem flac_size_le {m m' : FlacMuxer} {world world' : World} {path : String} {pcmFormat : PcmFormat}
    {codecName : String} {bitrateKbps : BitVec 32} {packets : List AudioPacket} (closed : m.writer = none)
    (chans : 1 ≤ pcmFormat.channels.toNat)
    (done : recording FlacMuxer path pcmFormat codecName bitrateKbps packets (m, world) = .ok () (m', world')) :
    ∃ file, world'.files path = some file ∧ 8 * file.length ≤ 336 + 22 * (packetSamples packets).length +
      ((packetSamples packets).length / pcmFormat.channels.toNat / FLAC_BLOCK_SIZE + 1) *
        (135 + pcmFormat.channels.toNat * (pcmFormat.bitDepth.toNat + 1)) := by
  refine ⟨_, FlacMuxer.recording_file closed (fun _ => chans) done, ?_⟩
  generalize packetSamples packets = xs
  have each : ∀ b ∈ blocksOf pcmFormat xs, WholeBlock pcmFormat.channels.toNat b :=
    fun b member => wholeBlock_of_mem chans member
  have frames := length_framesFrom_le each 0
  have whole : (blocksOf pcmFormat xs).flatten.length ≤ xs.length := by
    rw [flatten_blocksOf chans]
    exact List.length_take_le' _ _
  have blocks := Nat.mul_le_mul_right (135 + pcmFormat.channels.toNat * (pcmFormat.bitDepth.toNat + 1))
    (length_blocksOf pcmFormat xs)
  rw [flacFile, List.length_append, FlacMuxer.length_streamHeader]
  unfold flacFrames
  linarith

/-- Three samples of noise, as far apart as they can be. -/
theorem flac_size_le_noise : ∃ m world' file, recording FlacMuxer "take.flac" ⟨44100#32, 1#16, 16#16⟩ "flac" 0#32
      [⟨[0#8, 128#8, 255#8, 127#8, 0#8, 128#8], 0#64, 1#64, true⟩] (.new, ⟨fun _ => none, []⟩) = .ok () (m, world') ∧
    world'.files "take.flac" = some file ∧ 8 * file.length ≤ 336 + 22 * 3 + (135 + 17) := by
  obtain ⟨m, world', done⟩ := FlacMuxer.recording_quiet ⟨fun _ => none, []⟩ .new "take.flac" ⟨44100#32, 1#16, 16#16⟩
    "flac" 0#32 [⟨[0#8, 128#8, 255#8, 127#8, 0#8, 128#8], 0#64, 1#64, true⟩] rfl (fun _ => by decide) rfl
  obtain ⟨file, stored, size⟩ := flac_size_le rfl (by decide) done
  exact ⟨m, world', file, done, stored, size⟩

end StereoMix.Encode
