import StereoMix.Encode.FlacFrame

/-!
# The parts of any frame

Whatever it encodes, the encoder only adds to its writer (`Extends`): the bytes completed at one point of
`encode_frame` stay at the front of the frame. So a frame begins with its header and the header's CRC-8, and
it ends with the CRC-16 of everything before.
-/

namespace StereoMix.Encode

open BitString BitWriter

namespace BitWriter

/-- `w'` is well formed if `w` is, and the bytes of `w` are its first. -/
structure Extends (w w' : BitWriter) : Prop where
  ok : w.Ok → w'.Ok
  kept : w.bytes <+: w'.bytes

theorem Extends.refl (w : BitWriter) : Extends w w := ⟨id, List.prefix_rfl⟩

theorem Extends.trans {w w' w'' : BitWriter} (h : Extends w w') (h' : Extends w' w'') : Extends w w'' :=
  ⟨h'.ok ∘ h.ok, h.kept.trans h'.kept⟩

theorem bytes_prefix_pushBit (w : BitWriter) (bit : BitVec 8) : w.bytes <+: (w.pushBit bit).bytes := by
  simp only [pushBit, bytes]
  split
  · exact List.prefix_append _ _
  · exact List.prefix_rfl

theorem extends_writeBits (w : BitWriter) (val : BitVec 64) (count : Nat) : Extends w (w.writeBits val count) := by
  refine ⟨fun ok => (appends_writeBits w val count ok).1, ?_⟩
  induction count generalizing w with
  | zero => exact List.prefix_rfl
  | succ count ih => exact (bytes_prefix_pushBit w _).trans (ih _)

theorem extends_writeUnary (w : BitWriter) (count : Nat) : Extends w (w.writeUnary count) := by
  have zeros : Extends w ((fun w => w.writeBits 0#64 1)^[count] w) := by
    induction count generalizing w with
    | zero => exact .refl w
    | succ count ih => exact (extends_writeBits w _ 1).trans (ih _)
  exact zeros.trans (extends_writeBits _ _ 1)

theorem extends_byteAlign (w : BitWriter) : Extends w w.byteAlign := by
  refine ⟨fun ok => (appends_byteAlign w ok).1, ?_⟩
  simp only [byteAlign, bytes]
  split
  · exact List.prefix_append _ _
  · exact List.prefix_rfl

theorem extends_foldl {α : Type} {turn : BitWriter → α → BitWriter} (each : ∀ w x, Extends w (turn w x)) (xs : List α)
    (w : BitWriter) : Extends w (xs.foldl turn w) := by
  induction xs generalizing w with
  | nil => exact .refl w
  | cons x xs ih => exact (each w x).trans (ih _)

end BitWriter

theorem extends_encodeResiduals (w : BitWriter) (residuals : List (BitVec 32)) :
    Extends w (encodeResiduals w residuals) := by
  unfold encodeResiduals
  extract_lets w1 w2 k maxQ w3 rawBps w4 rmask w5
  have front : Extends w w2 := (extends_writeBits w _ 2).trans (extends_writeBits _ _ 4)
  split
  · have escape : Extends w2 w4 := (extends_writeBits w2 _ 4).trans (extends_writeBits _ _ 5)
    exact front.trans (escape.trans (extends_foldl (fun w r => extends_writeBits w _ _) residuals w4))
  · refine front.trans ((extends_writeBits w2 _ 4).trans (extends_foldl (fun w r => ?_) residuals w5))
    dsimp only
    split
    · exact (extends_writeUnary w _).trans (extends_writeBits _ _ k)
    · exact extends_writeUnary w _

/-- The three fields before a subframe's samples. -/
theorem extends_kind (w : BitWriter) (pad kind wasted : BitVec 64) :
    Extends w (((w.writeBits pad 1).writeBits kind 6).writeBits wasted 1) :=
  (extends_writeBits w _ 1).trans ((extends_writeBits _ _ 6).trans (extends_writeBits _ _ 1))

theorem extends_encodeSubframe (w : BitWriter) (samples : List (BitVec 16)) (bps : BitVec 16) :
    Extends w (encodeSubframe w samples bps) := by
  cases samples with
  | nil => exact .refl w
  | cons first rest =>
    unfold encodeSubframe
    dsimp only
    split
    · exact (extends_kind w _ _ _).trans (extends_writeBits _ _ _)
    split
    · exact (extends_kind w _ _ _).trans (extends_foldl (fun w s => extends_writeBits w _ _) (first :: rest) _)
    · unfold encodeSubframeFixed1
      exact (extends_kind w _ _ _).trans ((extends_writeBits _ _ _).trans (extends_encodeResiduals _ _))

theorem extends_writeUtf8Coded (w : BitWriter) (val : BitVec 32) : Extends w (writeUtf8Coded w val) := by
  have byte (w : BitWriter) (b : BitVec 32) : Extends w (w.writeBits (b.setWidth 64) 8) := extends_writeBits w _ 8
  unfold writeUtf8Coded
  dsimp only
  split
  · exact byte w _
  split
  · exact (byte w _).trans (byte _ _)
  split
  · exact (byte w _).trans ((byte _ _).trans (byte _ _))
  split
  · exact (byte w _).trans ((byte _ _).trans ((byte _ _).trans (byte _ _)))
  · exact (byte w _).trans ((byte _ _).trans ((byte _ _).trans ((byte _ _).trans (byte _ _))))

theorem extends_writeFrameHeader (w : BitWriter) (blockSize : Nat) (channels : BitVec 16) (sampleRate : BitVec 32)
    (bps : BitVec 16) (num : BitVec 32) : Extends w (writeFrameHeader w blockSize channels sampleRate bps num) := by
  unfold writeFrameHeader
  extract_lets w1 bsCode srCode w2 w3 w4 w5 w6 w7 w8
  have codes : Extends w w6 := (extends_writeBits w _ 16).trans ((extends_writeBits w1 _ 4).trans
    ((extends_writeBits w2 _ 4).trans ((extends_writeBits w3 _ 4).trans ((extends_writeBits w4 _ 3).trans
      (extends_writeBits w5 _ 1)))))
  have size : Extends w7 w8 := by
    unfold w8
    split
    · exact extends_writeBits _ _ 8
    split
    · exact extends_writeBits _ _ 16
    · exact .refl w7
  refine codes.trans ((extends_writeUtf8Coded w6 num).trans (size.trans ?_))
  split
  · exact extends_writeBits _ _ 8
  split
  · exact extends_writeBits _ _ 16
  split
  · exact extends_writeBits _ _ 16
  · exact .refl w8

section

variable (xs : List (BitVec 16)) (channels : BitVec 16) (sampleRate : BitVec 32) (bps : BitVec 16) (num : BitVec 32)

/-- The bytes of the frame header, without its CRC-8. -/
def headerBytes : List (BitVec 8) :=
  (writeFrameHeader .new (xs.length / channels.toNat) channels sampleRate bps num).bytes

/-- A frame whose header ends on a byte boundary begins with the header and its CRC-8. -/
theorem encodeFrame_head
    (aligned : (writeFrameHeader .new (xs.length / channels.toNat) channels sampleRate bps num).bitPos = 0) :
    ∃ rest, encodeFrame xs channels sampleRate bps num =
      headerBytes xs channels sampleRate bps num ++ crc8 (headerBytes xs channels sampleRate bps num) :: rest := by
  have ok := (extends_writeFrameHeader .new (xs.length / channels.toNat) channels sampleRate bps num).ok new_ok
  unfold encodeFrame headerBytes
  extract_lets blockSize chData w hdrCrc w1 w2 w3 frameCrc w4
  have after : w1.bytes = w.bytes ++ [hdrCrc] := by
    apply ofBytes_injective
    have whole := ((appends_register w hdrCrc (by omega)).bytes ok aligned (by rw [length_ofNat])).2
    rw [ofBytes_append, ofBytes_cons, ofBytes_nil, List.append_nil]
    exact whole
  have subframes : Extends w1 w2 := extends_foldl (fun w samples => extends_encodeSubframe w samples bps) chData w1
  have rest : Extends w1 w4.byteAlign := subframes.trans
    ((extends_byteAlign w2).trans ((extends_writeBits w3 _ 16).trans (extends_byteAlign w4)))
  obtain ⟨tail, frame⟩ := rest.kept
  refine ⟨tail, ?_⟩
  rw [intoBytes, ← bytes, ← frame, after, List.append_assoc, List.singleton_append]

/-- A frame ends with the CRC-16 of the bytes before. -/
theorem encodeFrame_tail :
    ∃ body, ofBytes (encodeFrame xs channels sampleRate bps num) = ofBytes body ++ ofNat 16 (crc16 body).toNat := by
  unfold encodeFrame
  extract_lets blockSize chData w hdrCrc w1 w2 w3 frameCrc w4
  have head : Extends .new w := extends_writeFrameHeader .new blockSize channels sampleRate bps num
  have subframes : Extends w1 w2 := extends_foldl (fun w samples => extends_encodeSubframe w samples bps) chData w1
  have body : Extends .new w3 :=
    head.trans ((extends_writeBits w _ 8).trans (subframes.trans (extends_byteAlign w2)))
  have aligned : w3.bitPos = 0 := by
    simp only [w3, byteAlign]
    split
    · rfl
    · omega
  obtain ⟨boundary, whole⟩ :=
    (appends_register w3 frameCrc (by omega)).bytes (body.ok new_ok) aligned (by rw [length_ofNat])
  refine ⟨w3.bytes, ?_⟩
  rw [intoBytes, byteAlign, if_neg (by rw [boundary]; omega)]
  exact whole

end

end StereoMix.Encode
