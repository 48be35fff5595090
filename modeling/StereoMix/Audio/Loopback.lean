import StereoMix.Audio.Wasapi

/-!
# Loopback capture

`loopback.rs`: the render mix, read as bytes, is brought to i16 and to the requested channel count. Indexing is
checked: `none` is an index out of range. `floatToI16` stands for the clamp, scale and cast of an f32 with the given
bits.
-/

namespace StereoMix.Audio

open ByteFile

/-! ## Samples in bytes -/

/-- `i32::to_le_bytes`. -/
def i32Bytes (v : BitVec 32) : Bytes :=
  [v.setWidth 8, (v >>> 8).setWidth 8, (v >>> 16).setWidth 8, (v >>> 24).setWidth 8]

@[simp] theorem length_i32Bytes (v : BitVec 32) : (i32Bytes v).length = 4 := rfl

/-- `i16::from_le_bytes` of two indexed bytes. -/
def readI16 (bytes : Bytes) (idx : Nat) : Option (BitVec 16) :=
  match bytes[idx]?, bytes[idx + 1]? with
  | some b0, some b1 => some (b1 ++ b0)
  | _, _ => none

/-- `i32::from_le_bytes` of four indexed bytes. -/
def readI32 (bytes : Bytes) (idx : Nat) : Option (BitVec 32) :=
  match bytes[idx]?, bytes[idx + 1]?, bytes[idx + 2]?, bytes[idx + 3]? with
  | some b0, some b1, some b2, some b3 => some (b3 ++ b2 ++ b1 ++ b0)
  | _, _, _, _ => none

/-! ## The mix -/

/-- The render mix format, reduced to what conversion needs. -/
structure MixInfo where
  sampleRate : BitVec 32
  channels : BitVec 16
  bits : BitVec 16
  isFloat : Bool
  deriving DecidableEq, Repr

def MixInfo.toPcmFormat (self : MixInfo) (requestedChannels : BitVec 16) : PcmFormat :=
  ⟨self.sampleRate, requestedChannels, 16#16⟩

/-- The outputs of a loop's iterations end to end, if none fails. -/
def collect {α β : Type} (emit : α → Option (List β)) : List α → Option (List β)
  | [] => some []
  | a :: as =>
    match emit a, collect emit as with
    | some b, some bs => some (b ++ bs)
    | _, _ => none

section

variable (floatToI16 : BitVec 32 → BitVec 16)

/-- The closure `sample_i16`. -/
def MixInfo.sampleI16 (info : MixInfo) (bytes : Bytes) (srcCh bytesPerSample ch frame : Nat) : Option (BitVec 16) :=
  let idx := (frame * srcCh + ch) * bytesPerSample
  if idx + bytesPerSample > bytes.length then some 0#16
  else if info.isFloat ∧ info.bits = 32#16 then (readI32 bytes idx).map floatToI16
  else if info.bits = 16#16 then readI16 bytes idx
  else if info.bits = 32#16 then (readI32 bytes idx).map fun v => (v.sshiftRight 16).setWidth 16
  else some 0#16

/-- `mix_to_i16`. -/
def mixToI16 (bytes : Bytes) (info : MixInfo) (dstChannels : BitVec 16) : Option Bytes :=
  let srcCh := max info.channels.toNat 1
  let dstCh := max dstChannels.toNat 1
  let bytesPerSample := max (info.bits / 8#16).toNat 1
  let stride := srcCh * bytesPerSample
  if stride = 0 ∨ bytes.length < stride then some []
  else
    let frames := bytes.length / stride
    collect (fun f => collect (fun dch =>
      let sch := if srcCh = dstCh then dch else if dstCh > srcCh then dch % srcCh else dch
      (info.sampleI16 floatToI16 bytes srcCh bytesPerSample sch f).map i16Bytes) (List.range dstCh)) (List.range frames)

/-- The frame that `capture_loop` sends for a packet of `numFrames` frames, whose bytes are `none` when it is silent. -/
def loopbackFrame (mix : MixInfo) (requestedChannels : BitVec 16) (numFrames : BitVec 32) (packet : Option Bytes)
    (now seq : BitVec 64) : Option PcmFrame :=
  let i16Data :=
    match packet with
    | none => some (List.replicate (numFrames.toNat * requestedChannels.toNat * 2) 0#8)
    | some slice => mixToI16 floatToI16 slice mix requestedChannels
  i16Data.map fun data => ⟨data, mix.toPcmFormat requestedChannels, now, seq, numFrames⟩

end

/-! ## Reading what was written -/

theorem readI16_of_drop {bytes : Bytes} {idx : Nat} {v : BitVec 16}
    (here : (bytes.drop idx).take 2 = i16Bytes v) : readI16 bytes idx = some v := by
  have at_ (k : Nat) (inside : k < 2) : bytes[idx + k]? = (i16Bytes v)[k]? := by
    rw [← here, List.getElem?_take_of_lt inside, List.getElem?_drop]
  unfold readI16
  rw [show bytes[idx]? = _ from at_ 0 (by decide), at_ 1 (by decide)]
  simp only [i16Bytes, List.getElem?_cons_zero, List.getElem?_cons_succ]
  congr 1
  apply BitVec.eq_of_getLsbD_eq
  intro i inside
  simp only [BitVec.getLsbD_append, BitVec.getLsbD_setWidth, BitVec.getLsbD_ushiftRight]
  grind

theorem readI32_of_drop {bytes : Bytes} {idx : Nat} {v : BitVec 32}
    (here : (bytes.drop idx).take 4 = i32Bytes v) : readI32 bytes idx = some v := by
  have at_ (k : Nat) (inside : k < 4) : bytes[idx + k]? = (i32Bytes v)[k]? := by
    rw [← here, List.getElem?_take_of_lt inside, List.getElem?_drop]
  unfold readI32
  rw [show bytes[idx]? = _ from at_ 0 (by decide), at_ 1 (by decide), at_ 2 (by decide), at_ 3 (by decide)]
  simp only [i32Bytes, List.getElem?_cons_zero, List.getElem?_cons_succ]
  congr 1
  apply BitVec.eq_of_getLsbD_eq
  intro i inside
  simp only [BitVec.getLsbD_append, BitVec.getLsbD_setWidth, BitVec.getLsbD_ushiftRight]
  grind

theorem collect_eq {α β : Type} {emit : α → Option (List β)} {g : α → List β} {l : List α}
    (all : ∀ a ∈ l, emit a = some (g a)) : collect emit l = some (l.flatMap g) := by
  induction l with
  | nil => rfl
  | cons a l ih =>
    rw [collect, all a List.mem_cons_self, ih fun b member => all b (List.mem_cons_of_mem a member)]
    rfl

end StereoMix.Audio
