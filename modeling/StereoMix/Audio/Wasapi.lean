import StereoMix.Lib.EventSystem
import StereoMix.Audio.Negotiation
import StereoMix.Audio.Mapping

/-!
# The capture backend

`wasapi.rs`'s backend and `monitor.rs`, in their Linux build. Every successful open starts a capture thread that
sends frames into its own channel of 64 places; `next_frame` reads the channel of the last open. A cpal thread drops its
stream, and the callback with the channel's sender, as soon as the stream plays. What cpal and PulseAudio answer is in
the events, and `f32ToI16` stands for the cast of a scaled f32 sample.
-/

namespace StereoMix.Audio

open ByteFile

def LOOPBACK_DEVICE_INDEX : BitVec 32 := BitVec.allOnes 32
def MONITOR_DEVICE_INDEX : BitVec 32 := BitVec.allOnes 32 - 1#32
def LOOPBACK_DEVICE_NAME : String := "System Audio (Loopback)"
def MONITOR_DEVICE_NAME : String := "System Audio (Monitor)"

/-- Places in a frame channel. -/
def FRAME_QUEUE : Nat := 64

/-- Frames captured per read chunk, about 20 ms. -/
def framesPerChunk (rate : BitVec 32) : Nat := max (rate / 50#32).toNat 1

/-- The rates that are looked for in a config's range. -/
def COMMON_RATES : List (BitVec 32) := [44100#32, 48000#32, 88200#32, 96000#32, 176400#32, 192000#32]

/-- `out.push(r)`, unless it is there. -/
def pushNew (out : List (BitVec 32)) (r : BitVec 32) : List (BitVec 32) := if r ∈ out then out else out ++ [r]

/-- The common rates in a config's range and its two ends are pushed. -/
def pushRates (out : List (BitVec 32)) (cfg : SupportedConfig) : List (BitVec 32) :=
  let common := COMMON_RATES.foldl (fun out r =>
    if r ≥ cfg.minSampleRate ∧ r ≤ cfg.maxSampleRate then pushNew out r else out) out
  pushNew (pushNew common cfg.minSampleRate) cfg.maxSampleRate

/-! ## What the host answers -/

structure Device where
  name : Option String
  configs : Except String (List SupportedConfig)

/-- cpal's devices, PulseAudio's check of a stream spec and its answer to an open. -/
structure Host where
  devices : Except String (List Device)
  specIsValid : BitVec 8 → BitVec 32 → Bool
  openMonitor : Except String Unit

/-! ## Capture threads -/

/-- What a capture thread was started with: a cpal stream, or a monitor stream with its `u8` channel count. -/
inductive Capture where
  | stream (sampleFormat : SampleFormat) (deviceChannels requestedChannels : BitVec 16) (sampleRate : BitVec 32)
  | monitor (streamChannels : BitVec 8) (format : PcmFormat)
  deriving DecidableEq, Repr

/-- A buffer handed to a callback, in the stream's sample type, or a chunk read from a monitor stream. -/
inductive Input (F : Type) where
  | f32 (data : List F)
  | i16 (data : List (BitVec 16))
  | u16 (data : List (BitVec 16))
  | chunk (data : Bytes)

/-- A captured frame, with the channel count and bit depth its bytes are really laid out in. -/
structure Captured where
  frame : PcmFrame
  channels : Nat
  bits : Nat
  deriving DecidableEq, Repr

/-- The stream's callback runs on whole frames of its sample type, a monitor read fills the chunk. -/
def Capture.Takes {F : Type} : Capture → Input F → Prop
  | .stream sampleFormat deviceChannels _ _, .f32 data =>
    streamFormat sampleFormat = .f32 ∧ deviceChannels.toNat ∣ data.length ∧ data.length < 2 ^ 32
  | .stream sampleFormat deviceChannels _ _, .i16 data =>
    streamFormat sampleFormat = .i16 ∧ deviceChannels.toNat ∣ data.length ∧ data.length < 2 ^ 32
  | .stream sampleFormat deviceChannels _ _, .u16 data =>
    streamFormat sampleFormat = .u16 ∧ deviceChannels.toNat ∣ data.length ∧ data.length < 2 ^ 32
  | .monitor _ format, .chunk data => data.length = framesPerChunk format.sampleRate * (format.channels.toNat * 2)
  | _, _ => False

instance {F : Type} (c : Capture) (i : Input F) : Decidable (c.Takes i) := by
  unfold Capture.Takes
  split <;> infer_instance

section

variable {F : Type} [Inhabited F] (f32ToI16 : F → BitVec 16)

/-- The frame a callback of a cpal stream sends. -/
def streamFrame (buf : Bytes) (samples : Nat) (deviceChannels requestedChannels : BitVec 16) (sampleRate : BitVec 32)
    (now seq : BitVec 64) : PcmFrame where
  data := buf
  format := ⟨sampleRate, requestedChannels, 16#16⟩
  timestampUs := now / 1000#64
  sequence := seq
  frameCount := BitVec.ofNat 32 samples / deviceChannels.setWidth 32

/-- What a capture thread makes of an input at time `now`. -/
def Capture.capture (c : Capture) (input : Input F) (now seq : BitVec 64) : Option Captured :=
  match c, input with
  | .stream sampleFormat dev req rate, .f32 data =>
    let buf := if sampleFormat = .f32 then mapInCallback f32ToI16 data dev.toNat req.toNat
      else mapF32Channels f32ToI16 data dev.toNat req.toNat
    some ⟨streamFrame buf data.length dev req rate now seq, req.toNat, 16⟩
  | .stream _ dev req rate, .i16 data =>
    some ⟨streamFrame (mapI16Channels data dev.toNat req.toNat) data.length dev req rate now seq, req.toNat, 16⟩
  | .stream _ dev req rate, .u16 data =>
    some ⟨streamFrame (mapU16Channels data dev.toNat req.toNat) data.length dev req rate now seq, req.toNat, 16⟩
  | .monitor streamChannels format, .chunk data =>
    let bytesPerFrame := format.channels.toNat * 2
    some ⟨⟨data, format, now, seq, BitVec.ofNat 32 (data.length / bytesPerFrame)⟩, streamChannels.toNat, 16⟩
  | _, _ => none

end

/-! ## The backend -/

/-- The backend's fields; a channel end is the number of the open it belongs to. -/
structure WasapiBackend where
  rx : Option Nat
  stopTx : Option Nat
  active : Bool
  actualFormat : Option PcmFormat
  deviceName : Option String
  deriving DecidableEq, Repr

def WasapiBackend.new : WasapiBackend := ⟨none, none, false, none, none⟩

/-- `monitor::imp::spawn`, up to the thread. -/
def spawnMonitorCapture (host : Host) (requested : PcmFormat) : Except AudioError (PcmFormat × Capture) :=
  let channels := if requested.channels = 0#16 then 1#16 else requested.channels
  let rate := if requested.sampleRate = 0#32 then 48000#32 else requested.sampleRate
  if !host.specIsValid (channels.setWidth 8) rate then
    .error (.unsupportedFormat s!"invalid PulseAudio spec: {channels.toNat}ch @ {rate.toNat}Hz S16LE")
  else
    match host.openMonitor with
    | .error e => .error (.deviceOpenFailed
        s!"PulseAudio/PipeWire monitor open failed: {e} (is a PulseAudio or PipeWire sound server running?)")
    | .ok _ =>
      let negotiated : PcmFormat := ⟨rate, channels, 16#16⟩
      .ok (negotiated, .monitor (channels.setWidth 8) negotiated)

/-- `open_device`, whose channels get the number `id`: the answer, the backend after it and the thread started. -/
def WasapiBackend.openDevice (host : Host) (deviceIndex : BitVec 32) (format : PcmFormat) (id : Nat)
    (self : WasapiBackend) : Except AudioError Capture × WasapiBackend :=
  if deviceIndex = LOOPBACK_DEVICE_INDEX then
    (.error (.unsupportedFormat
      "WASAPI loopback is Windows-only (Linux uses a PipeWire/PulseAudio monitor backend)"),
     { self with deviceName := some LOOPBACK_DEVICE_NAME })
  else if deviceIndex = MONITOR_DEVICE_INDEX then
    let self := { self with deviceName := some MONITOR_DEVICE_NAME }
    match spawnMonitorCapture host format with
    | .error e => (.error e, self)
    | .ok (actual, capture) => (.ok capture, { self with actualFormat := some actual, rx := some id, stopTx := some id })
  else
    match host.devices with
    | .error e => (.error (.wasapi 0#32 s!"device enumerate failed: {e}"), self)
    | .ok devices =>
      match devices[deviceIndex.toNat]? with
      | none => (.error (.deviceNotFound s!"index {deviceIndex.toNat}"), self)
      | some dev =>
        let self := { self with deviceName := dev.name }
        match dev.configs with
        | .error e => (.error (.wasapi 0#32 s!"supported configs failed: {e}"), self)
        | .ok configs =>
          match negotiate configs format with
          | .error e => (.error e, self)
          | .ok n => (.ok (.stream n.sampleFormat n.deviceChannels format.channels n.sampleRate),
              { self with actualFormat := some n.actualFormat, rx := some id, stopTx := some id })

def WasapiBackend.start (self : WasapiBackend) : WasapiBackend := { self with active := true }

/-- `stop`, and the open whose thread is told. -/
def WasapiBackend.stop (self : WasapiBackend) : WasapiBackend × Option Nat :=
  ({ self with active := false, stopTx := none }, self.stopTx)

def WasapiBackend.close (self : WasapiBackend) : WasapiBackend × Option Nat := self.stop

/-! ## The system -/

/-- A capture thread: what it runs, whether a stop was sent to it, whether its frame sender is gone, its counter and
its channel. -/
structure Thread where
  capture : Capture
  told : Bool
  ended : Bool
  seq : BitVec 64
  queue : List Captured
  deriving DecidableEq, Repr

/-- A frame that `next_frame` returned, the open it came from and the format the backend reported then. -/
structure Delivery where
  openId : Nat
  captured : Captured
  reported : Option PcmFormat
  deriving DecidableEq, Repr

structure CaptureState where
  backend : WasapiBackend
  threads : List Thread
  delivered : List Delivery
  deriving DecidableEq, Repr

/-- Calls on the backend, a callback or read of open `id`, and the end of its frame sender: with the stream, which is
dropped when it plays or could not be built, or with the loop of a monitor thread. -/
inductive CaptureEvent (F : Type) where
  | openDevice (host : Host) (deviceIndex : BitVec 32) (format : PcmFormat)
  | start
  | stop
  | close
  | nextFrame
  | input (id : Nat) (data : Input F) (now : BitVec 64)
  | ends (id : Nat)

/-- A thread's callback runs: its frame goes into the channel, if the receiver is still the backend's. -/
def Thread.send (t : Thread) (frame : Captured) (received : Bool) : Thread :=
  { t with seq := t.seq + 1#64, queue := if received then t.queue ++ [frame] else t.queue }

/-- The backend after a stop, whose message is with the thread it was sent to. -/
def CaptureState.tell (s : CaptureState) (stopped : WasapiBackend × Option Nat) : CaptureState :=
  match stopped.2 with
  | none => { s with backend := stopped.1 }
  | some id => { s with backend := stopped.1, threads := s.threads.modify id fun t => { t with told := true } }

/-- `open_device` on the system: a successful open adds its thread. -/
def CaptureState.openDevice (s : CaptureState) (host : Host) (deviceIndex : BitVec 32) (format : PcmFormat) :
    Except AudioError Unit × CaptureState :=
  match s.backend.openDevice host deviceIndex format s.threads.length with
  | (.error e, backend) => (.error e, { s with backend })
  | (.ok capture, backend) =>
    (.ok (), { s with backend, threads := s.threads ++ [⟨capture, false, false, 0#64, []⟩] })

/-- `next_frame` on the system; `none` while it waits. -/
def CaptureState.nextFrame (s : CaptureState) : Option (Option PcmFrame × CaptureState) :=
  if !s.backend.active then some (none, s)
  else
    match s.backend.rx with
    | none => some (none, s)
    | some id =>
      match s.threads[id]? with
      | none => none
      | some t =>
        match t.queue with
        | [] => if t.ended then some (none, s) else none
        | c :: queue => some (some c.frame, { s with
            threads := s.threads.set id { t with queue }
            delivered := s.delivered ++ [⟨id, c, s.backend.actualFormat⟩] })

section

variable {F : Type} [Inhabited F] (f32ToI16 : F → BitVec 16)

def captureStep (s : CaptureState) : CaptureEvent F → Option CaptureState
  | .openDevice host deviceIndex format => some (s.openDevice host deviceIndex format).2
  | .start => some { s with backend := s.backend.start }
  | .stop => some (s.tell s.backend.stop)
  | .close => some (s.tell s.backend.close)
  | .nextFrame => s.nextFrame.map Prod.snd
  | .input id data now =>
    match s.threads[id]? with
    | none => none
    | some t =>
      if t.ended then none
      else if t.capture.Takes data then
        match t.capture.capture f32ToI16 data now t.seq with
        | none => none
        | some c =>
          if s.backend.rx = some id then
            if t.queue.length < FRAME_QUEUE then some { s with threads := s.threads.set id (t.send c true) } else none
          else some { s with threads := s.threads.set id (t.send c false) }
      else none
  | .ends id =>
    match s.threads[id]? with
    | none => none
    | some t =>
      if t.ended then none else some { s with threads := s.threads.set id { t with ended := true } }

/-- The backend with its capture threads. -/
def captureSystem : EventSystem CaptureState (CaptureEvent F) where
  init s := s = ⟨.new, [], []⟩
  step := captureStep f32ToI16

end

end StereoMix.Audio
