import StereoMix.Lib.FileSystem
import StereoMix.Core.Types
import StereoMix.Encode.FlacEnc

/-!
# `muxer.rs`: the WAV and FLAC container writers

A muxer call is an `EStateM` over the muxer and the world of files. It keeps the muxer's fields as the source
leaves them on an early return. A local writer that goes out of scope is dropped, which flushes it.
-/

namespace StereoMix.Encode

open ByteFile FileSystem

/-- Container formats supported by the muxer. -/
inductive ContainerFormat where
  | mp3
  | flac
  | wav
  deriving DecidableEq, Repr

def ContainerFormat.extension : ContainerFormat → String
  | .mp3 => "mp3"
  | .flac => "flac"
  | .wav => "wav"

/-- Encoded audio packet for muxing. -/
structure AudioPacket where
  data : Bytes
  pts : BitVec 64
  duration : BitVec 64
  isKey : Bool
  deriving DecidableEq, Repr

/-- The packet that a frame is repackaged as; its audio is passed through. -/
def AudioPacket.ofFrame (frame : PcmFrame) : AudioPacket where
  data := frame.data
  pts := frame.timestampUs
  duration := frame.frameCount.setWidth 64
  isKey := true

/-- So packets carry the audio of their frames. -/
theorem map_data_ofFrame (frames : List PcmFrame) :
    (frames.map AudioPacket.ofFrame).map AudioPacket.data = frames.map PcmFrame.data := by
  rw [List.map_map]
  rfl

/-- Trait to implement container writers. -/
class AudioMuxer (M : Type) where
  «open» (path : String) (pcmFormat : PcmFormat) (codecName : String) (bitrateKbps : BitVec 32) :
    EStateM EncodeError (M × World) Unit
  writePacket (pkt : AudioPacket) : EStateM EncodeError (M × World) Unit
  finalize : EStateM EncodeError (M × World) Unit
  containerFormat : ContainerFormat

/-! ## Calls on a local writer -/

/-- `w.write_all(b).map_err(|e| EncodeError::MuxFailed(..))`. -/
def put (b : Bytes) : EStateM EncodeError (BufWriter × World) Unit :=
  EStateM.adaptExcept .muxFailed (BufWriter.writeAll b)

/-- A call on the file behind a flushed writer, its error an `OutputFile`. -/
def onOutputFile {α : Type} (call : EStateM String (File × World) α) : EStateM EncodeError (BufWriter × World) α :=
  EStateM.adaptExcept .outputFile (BufWriter.onFile call)

/-- `w.flush()` and `w.into_inner()`. -/
def flushAndUnwrap : EStateM EncodeError (BufWriter × World) Unit := do
  EStateM.adaptExcept .muxFailed BufWriter.flushBuf
  EStateM.adaptExcept .outputFile BufWriter.intoInner

/-- The file handle of a muxer that is being dropped or replaced. -/
def dropWriter (writer : Option BufWriter) (world : World) : World :=
  match writer with
  | none => world
  | some w => w.drop world

theorem dropWriter_quiet {world : World} (writer : Option BufWriter) (quiet : world.Quiet) :
    (dropWriter writer world).Quiet := by
  cases writer with
  | none => exact quiet
  | some w => exact w.drop_quiet quiet

theorem writes_put (b : Bytes) : Writes (put b) b := (Writes.writeAll b).adaptExcept

theorem total_put (b : Bytes) : Total (put b) := (Total.bufWriteAll b).adaptExcept

theorem total_onOutputFile {α : Type} {call : EStateM String (File × World) α} (total : Total call) :
    Total (onOutputFile call) := total.onFile.adaptExcept

theorem total_flushAndUnwrap : Total flushAndUnwrap :=
  Total.flushBuf.adaptExcept.bind fun _ => Total.flushBuf.adaptExcept

theorem flushAndUnwrap_ok {w w' : BufWriter} {world world' : World} {path : String} {c : Bytes}
    (start : Buffered w world path c) (done : flushAndUnwrap (w, world) = .ok () (w', world')) :
    Flushed w' world' path c := by
  obtain ⟨⟨⟩, ⟨w₁, world₁⟩, flushed, unwrapped⟩ := bind_eq_ok.1 done
  have kept := (BufWriter.flushBuf_ok start (adaptExcept_eq_ok.1 flushed)).2
  exact (BufWriter.flushBuf_ok kept (adaptExcept_eq_ok.1 unwrapped)).1

/-- Seek to `pos` and write `new` over as many bytes. -/
theorem overwrite_ok {w w₁ w₂ : BufWriter} {world world₁ world₂ : World} {path : String} {pos : Nat}
    {front old new back : Bytes} (start : Flushed w world path (front ++ old ++ back)) (place : pos = front.length)
    (size : new.length = old.length) (some : new ≠ [])
    (sought : onOutputFile (File.seek pos) (w, world) = .ok () (w₁, world₁))
    (written : onOutputFile (File.writeAll new) (w₁, world₁) = .ok () (w₂, world₂)) :
    Flushed w₂ world₂ path (front ++ new ++ back) := by
  obtain ⟨there, here⟩ := BufWriter.seek_ok start (adaptExcept_eq_ok.1 sought)
  have patched := BufWriter.patch_ok there some (adaptExcept_eq_ok.1 written)
  rwa [here, writeAt_middle place size] at patched

/-! ## WAV muxer -/

structure WavMuxer where
  writer : Option BufWriter
  bytesWritten : BitVec 32
  channels : BitVec 16
  sampleRate : BitVec 32
  bitsPerSample : BitVec 16

def WavMuxer.new : WavMuxer := ⟨none, 0, 2, 48000, 16⟩

def WavMuxer.writeRiffHeader (channels : BitVec 16) (sampleRate : BitVec 32) (bits : BitVec 16) :
    EStateM EncodeError (BufWriter × World) Unit := do
  let blockAlign := channels * (bits / 8#16)
  let byteRate := sampleRate * blockAlign.setWidth 32
  put [0x52#8, 0x49#8, 0x46#8, 0x46#8] -- RIFF
  put (leBytes 4 0) -- placeholder
  put [0x57#8, 0x41#8, 0x56#8, 0x45#8] -- WAVE
  put [0x66#8, 0x6D#8, 0x74#8, 0x20#8] -- fmt
  put (leBytes 4 16)
  put (leBytes 2 1)
  put (leBytes 2 channels.toNat)
  put (leBytes 4 sampleRate.toNat)
  put (leBytes 4 byteRate.toNat)
  put (leBytes 2 blockAlign.toNat)
  put (leBytes 2 bits.toNat)
  put [0x64#8, 0x61#8, 0x74#8, 0x61#8] -- data
  put (leBytes 4 0) -- placeholder

def WavMuxer.open (path : String) (pcmFormat : PcmFormat) (_codecName : String) (_bitrateKbps : BitVec 32) :
    EStateM EncodeError (WavMuxer × World) Unit := fun (self, world) =>
  match create path world with
  | .error e world => .error (.outputFile e) (self, world)
  | .ok file world =>
    let self := { self with
      channels := pcmFormat.channels, sampleRate := pcmFormat.sampleRate, bitsPerSample := pcmFormat.bitDepth }
    match writeRiffHeader self.channels self.sampleRate self.bitsPerSample (.new file, world) with
    | .error e (w, world) => .error e (self, w.drop world)
    | .ok _ (w, world) => .ok () ({ self with writer := some w }, dropWriter self.writer world)

def WavMuxer.writePacket (pkt : AudioPacket) : EStateM EncodeError (WavMuxer × World) Unit := fun (self, world) =>
  match self.writer with
  | none => .error (.outputFile "not open") (self, world)
  | some w =>
    match put pkt.data (w, world) with
    | .error e (w, world) => .error e ({ self with writer := some w }, world)
    | .ok _ (w, world) =>
      let bytesWritten := self.bytesWritten + BitVec.ofNat 32 pkt.data.length
      .ok () ({ self with writer := some w, bytesWritten }, world)

/-- The part of `finalize` that runs on the writer taken out of the muxer. -/
def WavMuxer.patchHeader (bytesWritten : BitVec 32) : EStateM EncodeError (BufWriter × World) Unit := do
  flushAndUnwrap
  let riffSz := 36#32 + bytesWritten
  onOutputFile (File.seek 4)
  onOutputFile (File.writeAll (leBytes 4 riffSz.toNat))
  onOutputFile (File.seek 40)
  onOutputFile (File.writeAll (leBytes 4 bytesWritten.toNat))

def WavMuxer.finalize : EStateM EncodeError (WavMuxer × World) Unit := fun (self, world) =>
  match self.writer with
  | none => .ok () (self, world)
  | some w =>
    let self := { self with writer := none }
    match patchHeader self.bytesWritten (w, world) with
    | .error e (w, world) => .error e (self, w.drop world)
    | .ok _ (w, world) => .ok () (self, w.drop world)

instance : AudioMuxer WavMuxer where
  «open» := WavMuxer.open
  writePacket := WavMuxer.writePacket
  finalize := WavMuxer.finalize
  containerFormat := .wav

/-! ## FLAC muxer -/

def FLAC_BLOCK_SIZE : Nat := 4096

structure FlacMuxer where
  writer : Option BufWriter
  pcmBuffer : List (BitVec 16)
  channels : BitVec 16
  sampleRate : BitVec 32
  bitsPerSample : BitVec 16
  frameNumber : BitVec 32
  totalSamples : BitVec 64

def FlacMuxer.new : FlacMuxer := ⟨none, [], 2, 48000, 16, 0, 0⟩

/-- The loop of `flush_blocks`. A turn takes at least one sample when there is a channel, so `fuel` above the
buffer's length is enough (without a channel the source panics on the division in `encode_frame`). -/
def FlacMuxer.flushLoop : Nat → EStateM EncodeError (FlacMuxer × World) Unit
  | 0 => pure ()
  | fuel + 1 => fun (self, world) =>
    let samplesPerBlock := FLAC_BLOCK_SIZE * self.channels.toNat
    if self.pcmBuffer.length ≥ samplesPerBlock then
      let block := self.pcmBuffer.take samplesPerBlock
      let frame := encodeFrame block self.channels self.sampleRate self.bitsPerSample self.frameNumber
      let self := { self with
        pcmBuffer := self.pcmBuffer.drop samplesPerBlock
        frameNumber := self.frameNumber + 1#32
        totalSamples := self.totalSamples + BitVec.ofNat 64 FLAC_BLOCK_SIZE }
      match self.writer with
      | none => .error (.outputFile "not open") (self, world)
      | some w =>
        match put frame (w, world) with
        | .error e (w, world) => .error e ({ self with writer := some w }, world)
        | .ok _ (w, world) => flushLoop fuel ({ self with writer := some w }, world)
    else .ok () (self, world)

/-- Write queued full blocks. -/
def FlacMuxer.flushBlocks : EStateM EncodeError (FlacMuxer × World) Unit := fun (self, world) =>
  flushLoop (self.pcmBuffer.length + 1) (self, world)

/-- The marker, the metadata block header (last block, STREAMINFO, 34 bytes) and STREAMINFO with a total of
zero, patched on finalize. -/
def FlacMuxer.writeStreamHeader (sampleRate : BitVec 32) (channels bitsPerSample : BitVec 16) :
    EStateM EncodeError (BufWriter × World) Unit := do
  put [0x66#8, 0x4C#8, 0x61#8, 0x43#8] -- fLaC
  put [0x80#8, 0x00#8, 0x00#8, 0x22#8]
  let si := buildStreaminfo (BitVec.ofNat 16 FLAC_BLOCK_SIZE) (BitVec.ofNat 16 FLAC_BLOCK_SIZE) sampleRate
    channels bitsPerSample 0#64
  put si

def FlacMuxer.open (path : String) (pcmFormat : PcmFormat) (_codecName : String) (_bitrateKbps : BitVec 32) :
    EStateM EncodeError (FlacMuxer × World) Unit := fun (self, world) =>
  match create path world with
  | .error e world => .error (.outputFile e) (self, world)
  | .ok file world =>
    let self := { self with
      channels := pcmFormat.channels, sampleRate := pcmFormat.sampleRate, bitsPerSample := pcmFormat.bitDepth
      frameNumber := 0#32, totalSamples := 0#64, pcmBuffer := [] }
    match writeStreamHeader self.sampleRate self.channels self.bitsPerSample (.new file, world) with
    | .error e (w, world) => .error e (self, w.drop world)
    | .ok _ (w, world) => .ok () ({ self with writer := some w }, dropWriter self.writer world)

def FlacMuxer.writePacket (pkt : AudioPacket) : EStateM EncodeError (FlacMuxer × World) Unit := fun (self, world) =>
  flushBlocks ({ self with pcmBuffer := self.pcmBuffer ++ i16Samples pkt.data }, world)

/-- The first part of `finalize`: the samples left become a shorter block, cut to whole frames. -/
def FlacMuxer.finishBlocks : EStateM EncodeError (FlacMuxer × World) Unit := fun (self, world) =>
  if self.pcmBuffer.isEmpty then .ok () (self, world)
  else
    let remaining := self.pcmBuffer
    let self := { self with pcmBuffer := [] }
    let blockSamples := remaining.length / self.channels.toNat
    if blockSamples > 0 then
      let frame := encodeFrame (remaining.take (blockSamples * self.channels.toNat)) self.channels self.sampleRate
        self.bitsPerSample self.frameNumber
      let self := { self with totalSamples := self.totalSamples + BitVec.ofNat 64 blockSamples }
      match self.writer with
      | none => .ok () (self, world)
      | some w =>
        match put frame (w, world) with
        | .error e (w, world) => .error e ({ self with writer := some w }, world)
        | .ok _ (w, world) => .ok () ({ self with writer := some w }, world)
    else .ok () (self, world)

theorem FlacMuxer.finishBlocks_empty {self : FlacMuxer} (empty : self.pcmBuffer = []) (world : World) :
    finishBlocks (self, world) = .ok () (self, world) := by
  unfold finishBlocks
  dsimp only
  rw [empty]
  rfl

/-- The five bytes at offset 21 with the total put in: the upper nibble of the first is kept. -/
def FlacMuxer.patchBytes (patch : Bytes) (ts : BitVec 64) : Bytes :=
  [(patch.headD 0#8 &&& 0xF0#8) ||| ((ts >>> 32) &&& 0x0F#64).setWidth 8,
   (ts >>> 24).setWidth 8, (ts >>> 16).setWidth 8, (ts >>> 8).setWidth 8, ts.setWidth 8]

/-- The second part of `finalize`, on the writer taken out of the muxer. -/
def FlacMuxer.patchTotal (ts : BitVec 64) : EStateM EncodeError (BufWriter × World) Unit := do
  flushAndUnwrap
  onOutputFile (File.seek 21)
  let patch ← onOutputFile (File.readExact 5)
  onOutputFile (File.seek 21)
  onOutputFile (File.writeAll (patchBytes patch ts))

def FlacMuxer.finalize : EStateM EncodeError (FlacMuxer × World) Unit := do
  finishBlocks
  fun (self, world) =>
    match self.writer with
    | none => .ok () (self, world)
    | some w =>
      let self := { self with writer := none }
      match patchTotal self.totalSamples (w, world) with
      | .error e (w, world) => .error e (self, w.drop world)
      | .ok _ (w, world) => .ok () (self, w.drop world)

instance : AudioMuxer FlacMuxer where
  «open» := FlacMuxer.open
  writePacket := FlacMuxer.writePacket
  finalize := FlacMuxer.finalize
  containerFormat := .flac

/-! ## A recording -/

/-- The audio of a recording: the bytes of its packets, in order. -/
def packetBytes (packets : List AudioPacket) : Bytes := packets.flatMap fun pkt => pkt.data

/-- A whole recording: open, a packet after the other, finalize; the first error ends it. -/
def recording (M : Type) [AudioMuxer M] (path : String) (pcmFormat : PcmFormat) (codecName : String)
    (bitrateKbps : BitVec 32) (packets : List AudioPacket) : EStateM EncodeError (M × World) Unit := do
  AudioMuxer.open path pcmFormat codecName bitrateKbps
  packets.forM AudioMuxer.writePacket
  AudioMuxer.finalize

end StereoMix.Encode
