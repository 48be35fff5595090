import StereoMix.Encode.FlacSubframe
import StereoMix.Lib.Interleaved

/-!
# A whole frame

`deinterleave` cuts a block into its channels, the subframes carry them, and the two checksums cover what
the decoder checks them over: `reads_encodeFrame` reads the block back.
-/

namespace StereoMix.Encode

open BitString BitReader FlacFormat BitWriter Interleaved

/-! ## De-interleaving -/

/-- The turns for the samples of one frame append each sample to its channel. -/
theorem foldl_frame {c n : Nat} (zs : List (BitVec 16)) (o : Nat) (fits : o + zs.length ≤ c)
    (chData : List (List (BitVec 16))) (k : Nat) :
    ((zs.zipIdx (n * c + o)).foldl (fun chData p => chData.modify (p.2 % c) (· ++ [p.1])) chData)[k]? =
      chData[k]?.map fun l => if o ≤ k ∧ k < o + zs.length then l ++ [zs.getD (k - o) default] else l := by
  induction zs generalizing o chData with
  | nil =>
    have empty : ¬ (o ≤ k ∧ k < o) := by omega
    simp [empty]
  | cons z zs ih =>
    simp only [List.length_cons] at fits ⊢
    rw [List.zipIdx_cons, List.foldl_cons, Nat.add_assoc, ih (o + 1) (by omega), List.getElem?_modify,
      Nat.mul_add_mod_of_lt (by omega)]
    cases chData[k]? with
    | none => rfl
    | some l =>
      by_cases here : o = k
      · subst here
        simp
      · by_cases later : o + 1 ≤ k ∧ k < o + 1 + zs.length
        · have inside : o ≤ k ∧ k < o + (zs.length + 1) := by omega
          obtain ⟨j, rfl⟩ : ∃ j, k = o + 1 + j := ⟨k - (o + 1), by omega⟩
          simp [here, later, inside, show o + 1 + j - o = j + 1 by omega]
        · have outside : ¬ (o ≤ k ∧ k < o + (zs.length + 1)) := by omega
          simp only [Option.map_eq_map, Option.map_some, if_neg here, if_neg later, if_neg outside]

theorem length_deinterleave (c : Nat) (xs : List (BitVec 16)) : (deinterleave c xs).length = c := by
  have kept : ∀ (ps : List (BitVec 16 × Nat)) (chData : List (List (BitVec 16))),
      (ps.foldl (fun chData p => chData.modify (p.2 % c) (· ++ [p.1])) chData).length = chData.length := by
    intro ps
    induction ps with
    | nil => exact fun _ => rfl
    | cons p ps ih => exact fun chData => (ih _).trans (List.length_modify _ _ _)
  rw [deinterleave, kept, List.length_replicate]

/-- The buffers of whole frames are the channels. -/
theorem deinterleave_eq {c n : Nat} (xs : List (BitVec 16)) (whole : xs.length = n * c) :
    deinterleave c xs = (List.range c).map fun k => channel c k xs := by
  apply List.ext_getElem?
  intro k
  by_cases inside : k < c
  · rw [List.getElem?_map, List.getElem?_range inside, Option.map_some]
    induction n generalizing xs with
    | zero =>
      rw [Nat.zero_mul] at whole
      rw [List.eq_nil_of_length_eq_zero whole]
      simp [deinterleave, channel, inside]
    | succ n ih =>
      rw [Nat.succ_mul] at whole
      obtain ⟨front, back, rfl, size⟩ : ∃ front back, xs = front ++ back ∧ front.length = n * c :=
        ⟨xs.take (n * c), xs.drop (n * c), (List.take_append_drop _ _).symm, by rw [List.length_take]; omega⟩
      rw [List.length_append, size] at whole
      have last := foldl_frame (n := n) back 0 (c := c) (by omega) (deinterleave c front) k
      have one : channel c k back = [back.getD k default] := channel_frame inside (by omega)
      rw [ih front size, Option.map_some, if_pos (by omega)] at last
      rw [channel_append inside size, one, deinterleave, List.zipIdx_append, List.foldl_append, size, Nat.zero_add]
      exact last
  · rw [List.getElem?_eq_none (by rw [length_deinterleave]; omega),
      List.getElem?_eq_none (by rw [List.length_map, List.length_range]; omega)]

/-! ## Frames -/

/-- One subframe a channel. -/
theorem appends_subframes (w : BitWriter) {n : Nat} (chData : List (List (BitVec 16)))
    (sizes : ∀ samples ∈ chData, samples.length = n) (positive : 1 ≤ n) :
    ∃ b, Appends w (chData.foldl (fun w samples => encodeSubframe w samples 16#16) w) b ∧
      Reads (times (subframe 16 n) chData.length) b (chData.map (List.map BitVec.toInt)) := by
  induction chData generalizing w with
  | nil => exact ⟨[], .refl w, .pure []⟩
  | cons samples chData ih =>
    have size := sizes samples (by simp)
    have nonempty : samples ≠ [] := by
      rintro rfl
      simp at size
      omega
    obtain ⟨b, app, reads⟩ := appends_encodeSubframe w nonempty
    obtain ⟨c, app', reads'⟩ := ih (encodeSubframe w samples 16#16) fun s member => sizes s (by simp [member])
    rw [size] at reads
    refine ⟨b ++ c, app.trans app', ?_⟩
    rw [List.length_cons, List.map_cons, times]
    exact reads.bind (reads'.map _)

/-- The fields of STREAMINFO that a frame of the encoder has to agree with. -/
structure Admits (info : StreamInfo) (channels : BitVec 16) (blockSize : Nat) : Prop where
  channels : info.channels = channels.toNat
  depth : info.bitsPerSample = 16
  size : blockSize ≤ info.maxBlock

/-- Zero padding up to the next byte is read and dropped. -/
theorem reads_aligned {α : Type} {r : BitReader α} {b : List Bool} {a : α} (h : Reads r b a) :
    Reads (aligned r) (b ++ List.replicate ((8 - b.length % 8) % 8) false) a := by
  unfold aligned
  apply h.consuming.bind
  rw [← ofNat_zero_right]
  exact (reads_nat (Nat.two_pow_pos _)).last (.check rfl (.pure a))

/-- A header, its CRC-8 and one subframe a channel are read back. -/
theorem appends_frameBody {info : StreamInfo} {n : Nat} {channels : BitVec 16} {chData : List (List (BitVec 16))}
    (sampleRate num : BitVec 32) (positive : 1 ≤ n) (bound : n ≤ 65536)
    (chans : 1 ≤ channels.toNat ∧ channels.toNat ≤ 8) (range : num.toNat < 2 ^ 26) (admits : Admits info channels n)
    (count : chData.length = channels.toNat) (sizes : ∀ samples ∈ chData, samples.length = n) :
    let w := writeFrameHeader .new n channels sampleRate 16#16 num
    let w1 := w.writeBits ((crc8 w.bytes).setWidth 64) 8
    ∃ b, Appends .new (chData.foldl (fun w samples => encodeSubframe w samples 16#16) w1) b ∧
      Reads (frameBody info) b ⟨⟨num.toNat, n, some (statedRate sampleRate), channels.toNat, 16⟩,
        chData.map (List.map BitVec.toInt)⟩ := by
  intro w w1
  obtain ⟨bHead, headWhole, appHead, readHead⟩ : ∃ b, 8 ∣ b.length ∧ Appends .new w b ∧
      Reads (header info) b ⟨num.toNat, n, some (statedRate sampleRate), channels.toNat, 16⟩ :=
    appends_writeFrameHeader .new info sampleRate positive bound chans range rfl
  -- the header ends on a byte boundary, so its CRC-8 covers its bits
  have headBits : ofBytes w.bytes = bHead := (appHead.bytes new_ok rfl (by omega)).2
  have headCrc : crc8 w.bytes = Crc.crc 0x07#8 bHead := by
    rw [← headBits]
    exact crc8_eq _
  have appCrc : Appends w w1 (ofNat 8 (crc8 w.bytes).toNat) := appends_register w (crc8 w.bytes) (by omega)
  obtain ⟨bBody, appBody, readBody⟩ := appends_subframes w1 chData sizes positive
  refine ⟨_, appHead.trans (appCrc.trans appBody), ?_⟩
  unfold frameBody
  refine readHead.consuming.bind ((reads_nat (crc8 w.bytes).isLt).bind (.check (by rw [headCrc]) ?_))
  refine .check ⟨admits.channels.symm, admits.depth.symm, admits.size⟩ ?_
  rw [count] at readBody
  exact readBody.map _

/-- A body that is padded to a byte and followed by its CRC-16 is a frame. -/
theorem reads_frame_of_body {info : StreamInfo} {w : BitWriter} {b : List Bool} {f : Frame} (app : Appends .new w b)
    (reads : Reads (frameBody info) b f) :
    Reads (frame info) (ofBytes (w.byteAlign.writeBits ((crc16 w.byteAlign.bytes).setWidth 64) 16).intoBytes) f := by
  obtain ⟨bodyOk, bodyBits⟩ := app new_ok
  rw [bits_new, List.nil_append] at bodyBits
  have padded := reads_aligned reads
  rw [← bodyBits] at padded
  obtain ⟨paddedOk, paddedBits⟩ := appends_byteAlign w bodyOk
  rw [← paddedBits] at padded
  have boundary := paddedOk.bits_of_aligned (by rw [paddedBits, List.length_append, List.length_replicate]; omega)
  have bodyCrc : crc16 w.byteAlign.bytes = Crc.crc 0x8005#16 w.byteAlign.bits := by
    rw [boundary.2]
    exact crc16_eq _
  have appCrc := appends_register w.byteAlign (crc16 w.byteAlign.bytes) (by omega)
  obtain ⟨doneAligned, doneBytes⟩ := appCrc.bytes paddedOk boundary.1 (by rw [length_ofNat])
  have done : ofBytes (w.byteAlign.writeBits ((crc16 w.byteAlign.bytes).setWidth 64) 16).intoBytes =
      w.byteAlign.bits ++ ofNat 16 (crc16 w.byteAlign.bytes).toNat := by
    rw [intoBytes, byteAlign, if_neg (by omega), boundary.2]
    exact doneBytes
  rw [done]
  unfold frame
  exact padded.consuming.bind ((reads_nat (crc16 w.byteAlign.bytes).isLt).last (.check (by rw [bodyCrc]) (.pure _)))

/-- **A frame round trip.** The format's decoder reads a frame of whole multi-channel samples back, its
checksums included. -/
theorem reads_encodeFrame {info : StreamInfo} {n : Nat} {xs : List (BitVec 16)} {channels : BitVec 16}
    (sampleRate num : BitVec 32) (positive : 1 ≤ n) (whole : xs.length = n * channels.toNat)
    (chans : 1 ≤ channels.toNat ∧ channels.toNat ≤ 8) (range : num.toNat < 2 ^ 26) (bound : n ≤ 65536)
    (admits : Admits info channels n) :
    ∃ rate, Reads (frame info) (ofBytes (encodeFrame xs channels sampleRate 16#16 num))
      ⟨⟨num.toNat, n, rate, channels.toNat, 16⟩,
        (List.range channels.toNat).map fun k => (channel channels.toNat k xs).map BitVec.toInt⟩ := by
  have blocks : xs.length / channels.toNat = n := by
    rw [whole, Nat.mul_div_cancel _ (by omega)]
  have sizes : ∀ samples ∈ deinterleave channels.toNat xs, samples.length = n := by
    simp [deinterleave_eq xs whole, blocks]
  obtain ⟨b, app, reads⟩ :=
    appends_frameBody sampleRate num positive bound chans range admits (length_deinterleave _ xs) sizes
  refine ⟨some (statedRate sampleRate), ?_⟩
  have subframes : (deinterleave channels.toNat xs).map (List.map BitVec.toInt) =
      (List.range channels.toNat).map fun k => (channel channels.toNat k xs).map BitVec.toInt := by
    rw [deinterleave_eq xs whole, List.map_map]
    rfl
  unfold encodeFrame
  rw [blocks, ← subframes]
  exact reads_frame_of_body app reads

end StereoMix.Encode
