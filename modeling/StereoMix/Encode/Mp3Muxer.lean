import StereoMix.Encode.Muxer

/-!
# The MP3 container writer

`Mp3Muxer` of `muxer.rs`. LAME is a parameter: the steps of its builder, and what it makes of samples and of the end of
a stream, or the errors they answer. `finalize` keeps the encoder and the writer.
-/

namespace StereoMix.Encode

open ByteFile FileSystem

/-- The bitrates of `mp3lame_encoder`, in kbps. -/
inductive Bitrate where
  | kbps8
  | kbps16
  | kbps24
  | kbps32
  | kbps40
  | kbps48
  | kbps64
  | kbps80
  | kbps96
  | kbps112
  | kbps128
  | kbps160
  | kbps192
  | kbps224
  | kbps256
  | kbps320
  deriving DecidableEq, Repr

/-- The nearest bitrate. -/
def nearestBitrate (kbps : BitVec 32) : Bitrate :=
  let n := kbps.toNat
  if n ≤ 12 then .kbps8
  else if n ≤ 20 then .kbps16
  else if n ≤ 28 then .kbps24
  else if n ≤ 36 then .kbps32
  else if n ≤ 44 then .kbps40
  else if n ≤ 56 then .kbps48
  else if n ≤ 72 then .kbps64
  else if n ≤ 88 then .kbps80
  else if n ≤ 104 then .kbps96
  else if n ≤ 120 then .kbps112
  else if n ≤ 144 then .kbps128
  else if n ≤ 176 then .kbps160
  else if n ≤ 208 then .kbps192
  else if n ≤ 240 then .kbps224
  else if n ≤ 288 then .kbps256
  else .kbps320

/-- LAME: a builder, whose quality is set to the best, and an encoder, which encodes interleaved samples and flushes
without a gap. An error is its text. -/
structure Lame (Encoder : Type) where
  Builder : Type
  new : Option Builder
  setNumChannels : BitVec 8 → Builder → Except String Builder
  setSampleRate : BitVec 32 → Builder → Except String Builder
  setBrate : Bitrate → Builder → Except String Builder
  setQuality : Builder → Except String Builder
  build : Builder → Except String Encoder
  encode : List (BitVec 16) → Encoder → Except String Bytes × Encoder
  flush : Encoder → Except String Bytes × Encoder

/-- `.map_err(|e| EncodeError::OpenFailed(..))` on a step of the builder. -/
def openFailed {α : Type} (step : String) (answer : Except String α) : Except EncodeError α :=
  answer.mapError fun e => .openFailed s!"LAME {step}: {e}"

/-- The encoder that `open` builds. -/
def Lame.builtFor {Encoder : Type} (lame : Lame Encoder) (pcmFormat : PcmFormat) (bitrateKbps : BitVec 32) :
    Except EncodeError Encoder := do
  let builder ←
    match lame.new with
    | none => .error (.openFailed "LAME init failed")
    | some builder => .ok builder
  let builder ← openFailed "channels" (lame.setNumChannels (pcmFormat.channels.setWidth 8) builder)
  let builder ← openFailed "sample rate" (lame.setSampleRate pcmFormat.sampleRate builder)
  let builder ← openFailed "bitrate" (lame.setBrate (nearestBitrate bitrateKbps) builder)
  let builder ← openFailed "quality" (lame.setQuality builder)
  openFailed "build" (lame.build builder)

/-- A LAME whose calls succeed: the encoder it builds, and what it gives. -/
def Lame.succeeding {Encoder : Type} (built : Encoder) (encode : List (BitVec 16) → Encoder → Bytes × Encoder)
    (flush : Encoder → Bytes × Encoder) : Lame Encoder where
  Builder := Unit
  new := some ()
  setNumChannels _ := .ok
  setSampleRate _ := .ok
  setBrate _ := .ok
  setQuality := .ok
  build _ := .ok built
  encode samples encoder := ((encode samples encoder).map .ok id)
  flush encoder := (flush encoder).map .ok id

structure Mp3Muxer {Encoder : Type} (lame : Lame Encoder) where
  writer : Option BufWriter
  encoder : Option Encoder
  mp3Buf : Bytes
  channels : BitVec 16

namespace Mp3Muxer

variable {Encoder : Type} {lame : Lame Encoder}

def new : Mp3Muxer lame := ⟨none, none, [], 2⟩

def «open» (path : String) (pcmFormat : PcmFormat) (_codecName : String) (bitrateKbps : BitVec 32) :
    EStateM EncodeError (Mp3Muxer lame × World) Unit := fun (self, world) =>
  match create path world with
  | .error e world => .error (.outputFile e) (self, world)
  | .ok file world =>
    let world := dropWriter self.writer world
    let self := { self with writer := some (.new file), channels := pcmFormat.channels }
    match lame.builtFor pcmFormat bitrateKbps with
    | .error e => .error e (self, world)
    | .ok encoder => .ok () ({ self with encoder := some encoder }, world)

/-- What LAME gave goes to the writer, when it is anything. -/
def putBuf (buf : Bytes) : EStateM EncodeError (BufWriter × World) Unit := if buf.isEmpty then pure () else put buf

/-- A call on the writer in its place. -/
def onWriter (self : Mp3Muxer lame) (call : EStateM EncodeError (BufWriter × World) Unit) (w : BufWriter)
    (world : World) : EStateM.Result EncodeError (Mp3Muxer lame × World) Unit :=
  match call (w, world) with
  | .error e (w, world) => .error e ({ self with writer := some w }, world)
  | .ok _ (w, world) => .ok () ({ self with writer := some w }, world)

def writePacket (pkt : AudioPacket) : EStateM EncodeError (Mp3Muxer lame × World) Unit := fun (self, world) =>
  match self.encoder, self.writer with
  | none, _ => .error (.encodeFailed "MP3 encoder not initialised") (self, world)
  | some _, none => .error (.outputFile "not open") (self, world)
  | some encoder, some w =>
    match lame.encode (i16Samples pkt.data) encoder with
    | (.error e, encoder) =>
      .error (.encodeFailed s!"LAME encode: {e}") ({ self with encoder := some encoder, mp3Buf := [] }, world)
    | (.ok mp3Buf, encoder) => onWriter { self with encoder := some encoder, mp3Buf } (putBuf mp3Buf) w world

def finalize : EStateM EncodeError (Mp3Muxer lame × World) Unit := fun (self, world) =>
  match self.encoder with
  | none => .ok () (self, world)
  | some encoder =>
    match lame.flush encoder with
    | (.error e, encoder) =>
      .error (.encodeFailed s!"LAME flush: {e}") ({ self with encoder := some encoder, mp3Buf := [] }, world)
    | (.ok mp3Buf, encoder) =>
      let self := { self with encoder := some encoder, mp3Buf }
      match self.writer with
      | none => .ok () (self, world)
      | some w =>
        let putAndFlush : EStateM EncodeError (BufWriter × World) Unit := do
          putBuf mp3Buf
          EStateM.adaptExcept .muxFailed BufWriter.flushBuf
        onWriter self putAndFlush w world

instance : AudioMuxer (Mp3Muxer lame) where
  «open» := Mp3Muxer.open
  writePacket := Mp3Muxer.writePacket
  finalize := Mp3Muxer.finalize
  containerFormat := .mp3

theorem total_putBuf (buf : Bytes) : Total (putBuf buf) := by
  unfold putBuf
  split
  · exact fun w world quiet => ⟨(), w, world, rfl, quiet⟩
  · exact total_put buf

/-- A muxer that was opened accepts a packet whenever LAME and the operating system fail no call. -/
theorem writePacket_quiet {self : Mp3Muxer lame} {world : World} {encoder : Encoder} {w : BufWriter} {pkt : AudioPacket}
    (opened : self.encoder = some encoder) (writer : self.writer = some w)
    (encodes : (lame.encode (i16Samples pkt.data) encoder).1.isOk = true) (quiet : world.Quiet) :
    ∃ self' world', writePacket pkt (self, world) = .ok () (self', world') := by
  unfold writePacket onWriter
  dsimp only
  rw [opened, writer]
  dsimp only
  cases answer : lame.encode (i16Samples pkt.data) encoder with
  | mk given encoder' =>
    cases given with
    | error e =>
      rw [answer] at encodes
      cases encodes
    | ok mp3Buf =>
      obtain ⟨⟨⟩, w', world', run, -⟩ := total_putBuf mp3Buf w world quiet
      dsimp only
      rw [run]
      exact ⟨_, _, rfl⟩

end Mp3Muxer

end StereoMix.Encode
