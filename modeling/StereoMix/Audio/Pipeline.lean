import StereoMix.Audio.Capture
import Mathlib.Data.List.Sort

/-!
# The capture pipeline

`pipeline.rs` over the capture backend: the requested format beside the backend, and the device queries the window
makes. A frame's format is the stamp of the capture it comes from, so it is fixed when a device is opened
(`Fed.step`, `source_step`), whatever is requested later.
-/

namespace StereoMix.Audio

open EventSystem

structure DeviceEntry where
  index : BitVec 32
  name : String
  isLoopback : Bool
  deriving DecidableEq, Repr

/-- `enumerate_devices`, on Linux: the monitor first, then cpal's devices. -/
def enumerateDevices (host : Host) : List DeviceEntry :=
  ⟨MONITOR_DEVICE_INDEX, MONITOR_DEVICE_NAME, true⟩ ::
    match host.devices with
    | .error _ => []
    | .ok devices => devices.mapIdx fun i d => ⟨BitVec.ofNat 32 i, d.name.getD "Unnamed", false⟩

def enumerateSupportedSampleRates (host : Host) (deviceIndex : BitVec 32) (channels : BitVec 16) :
    Except AudioError (List (BitVec 32)) :=
  match host.devices with
  | .error e => .error (.wasapi 0#32 s!"device enumerate failed: {e}")
  | .ok devices =>
    match devices[deviceIndex.toNat]? with
    | none => .error (.deviceNotFound s!"index {deviceIndex.toNat}")
    | some dev =>
      match dev.configs with
      | .error e => .error (.wasapi 0#32 s!"supported configs failed: {e}")
      | .ok configs =>
        let out := configs.foldl (fun out cfg => if cfg.channels ≠ channels then out else pushRates out cfg) []
        .ok (out.insertionSort (· ≤ ·))

/-- Simple capture pipeline that owns a backend and exposes a high-level API. -/
structure CapturePipeline where
  backend : CaptureState
  requestedFormat : PcmFormat
  deriving DecidableEq, Repr

def CapturePipeline.new (fmt : PcmFormat) : CapturePipeline := ⟨⟨.new, [], []⟩, fmt⟩

/-- Change the requested format; it is used on the next open. -/
def CapturePipeline.setRequestedFormat (self : CapturePipeline) (fmt : PcmFormat) : CapturePipeline :=
  { self with requestedFormat := fmt }

def CapturePipeline.openWithConfig (self : CapturePipeline) (host : Host) (idx : BitVec 32)
    (preferredFormat : PcmFormat) : Except AudioError Unit × CapturePipeline :=
  let (answer, backend) := self.backend.openDevice host idx preferredFormat
  (answer, ⟨backend, preferredFormat⟩)

def CapturePipeline.start (self : CapturePipeline) : CapturePipeline :=
  { self with backend := { self.backend with backend := self.backend.backend.start } }

def CapturePipeline.nextFrame (self : CapturePipeline) : Option (Option PcmFrame × CapturePipeline) :=
  self.backend.nextFrame.map fun (frame, backend) => (frame, { self with backend })

/-! ## Where frames come from -/

/-- The format that a capture puts on its frames. -/
def Capture.stamp : Capture → PcmFormat
  | .stream _ _ requestedChannels sampleRate => ⟨sampleRate, requestedChannels, 16#16⟩
  | .monitor _ format => format

/-- The capture whose channel `next_frame` reads. -/
def CaptureState.source (s : CaptureState) : Option Capture :=
  s.backend.rx.bind fun id => s.threads[id]?.map Thread.capture

/-- Every queued frame has the stamp of its thread, and the channel that is read is one of a thread. -/
structure CaptureState.Fed (s : CaptureState) : Prop where
  stamped : ∀ th ∈ s.threads, ∀ c ∈ th.queue, c.frame.format = th.capture.stamp
  rx : ∀ id, s.backend.rx = some id → id < s.threads.length

theorem fed_new : CaptureState.Fed ⟨.new, [], []⟩ := by
  constructor
  · intro th member
    cases member
  · intro id rx
    cases rx

theorem SameChannels.symm {threads threads' : List Thread} (same : SameChannels threads threads') :
    SameChannels threads' threads := Eq.symm same

theorem SameChannels.source {s t : CaptureState} (same : SameChannels s.threads t.threads)
    (rx : t.backend.rx = s.backend.rx) : t.source = s.source := by
  unfold CaptureState.source
  rw [rx]
  apply congrArg
  funext id
  have at_id := congrArg (fun l => (l[id]?).map Prod.fst) same
  simpa only [List.getElem?_map, Option.map_map, Function.comp_def] using at_id

/-- A capture's channel keeps its thread when another queue replaces its own. -/
theorem source_set {threads : List Thread} {id : Nat} {th th' : Thread} (thread : threads[id]? = some th)
    (same : th'.capture = th.capture) (i : Nat) :
    (threads.set id th')[i]?.map Thread.capture = threads[i]?.map Thread.capture := by
  rw [List.getElem?_set]
  by_cases here : id = i
  · subst here
    obtain ⟨inside, -⟩ := List.getElem?_eq_some_iff.1 thread
    rw [if_pos rfl, if_pos inside, thread, Option.map_some, Option.map_some, same]
  · rw [if_neg here]

section

variable {F : Type} [Inhabited F] (f32ToI16 : F → BitVec 16)

theorem Capture.Made.format {c : Capture} {captured : Captured} (made : c.Made f32ToI16 captured) :
    captured.frame.format = c.stamp := by
  obtain ⟨input, now, seq, takes, run⟩ := made
  cases c with
  | stream sampleFormat dev req rate =>
    cases input with
    | f32 data => cases run; rfl
    | i16 data => cases run; rfl
    | u16 data => cases run; rfl
    | chunk data => cases run
  | monitor streamChannels format =>
    cases input with
    | chunk data => cases run; rfl
    | f32 data => cases run
    | i16 data => cases run
    | u16 data => cases run

theorem CaptureState.Fed.step {s t : CaptureState} {e : CaptureEvent F} (before : s.Fed)
    (step : Stepped f32ToI16 s e t) : t.Fed := by
  obtain ⟨stamped, reads⟩ := before
  cases step with
  | aside h =>
    constructor
    · intro th member c queued
      obtain ⟨i, there⟩ := List.mem_iff_getElem?.1 member
      obtain ⟨th', there', capture, queue⟩ := h.threads.symm.getElem? there
      rw [← capture]
      exact stamped th' (List.mem_of_getElem? there') c (queue ▸ queued)
    · intro id rx
      rw [h.threads.length]
      exact reads id (h.rx ▸ rx)
  | opened event h threads delivered =>
    constructor
    · intro th member c queued
      rw [threads] at member
      rcases List.mem_append.1 member with old | new
      · exact stamped th old c queued
      · rw [List.mem_singleton.1 new] at queued
        cases queued
    · intro id rx
      rw [(openDevice_ok h).1, Option.some.injEq] at rx
      rw [threads, List.length_append, ← rx]
      exact Nat.lt_succ_self _
  | @delivered id th c queue rx thread front backend threads added =>
    constructor
    · intro th' member c' queued
      rw [threads] at member
      rcases List.mem_or_eq_of_mem_set member with old | rfl
      · exact stamped th' old c' queued
      · exact stamped th (List.mem_of_getElem? thread) c' (front ▸ List.mem_cons_of_mem c queued)
    · intro id' rx'
      rw [threads, List.length_set]
      exact reads id' (backend ▸ rx')
  | @sent id th c received thread made backend threads delivered =>
    constructor
    · intro th' member c' queued
      rw [threads] at member
      rcases List.mem_or_eq_of_mem_set member with old | rfl
      · exact stamped th' old c' queued
      · have before := stamped th (List.mem_of_getElem? thread)
        unfold Thread.send at queued
        dsimp only at queued
        split at queued
        · rcases List.mem_append.1 queued with old | new
          · exact before c' old
          · rw [List.mem_singleton.1 new]
            exact made.format f32ToI16
        · exact before c' queued
    · intro id' rx'
      rw [threads, List.length_set]
      exact reads id' (backend ▸ rx')

/-- Only an open changes what `next_frame` reads. -/
theorem source_step {s t : CaptureState} {e : CaptureEvent F} (step : Stepped f32ToI16 s e t)
    (no_open : ∀ host deviceIndex format, e ≠ .openDevice host deviceIndex format) : t.source = s.source := by
  cases step with
  | aside h => exact h.threads.source h.rx
  | opened event => exact absurd event (no_open _ _ _)
  | delivered rx thread front backend threads =>
    unfold CaptureState.source
    rw [backend, threads]
    exact congrArg _ (funext (source_set thread rfl))
  | sent received thread made backend threads =>
    unfold CaptureState.source
    rw [backend, threads]
    exact congrArg _ (funext (source_set thread rfl))

end

/-- A frame that `next_frame` answers has the stamp of what it reads. -/
theorem nextFrame_stamp {s t : CaptureState} {frame : PcmFrame} (fed : s.Fed)
    (next : s.nextFrame = some (some frame, t)) : ∃ c, s.source = some c ∧ frame.format = c.stamp := by
  cases nextFrame_cases next with
  | @frame id th c queue rx thread front =>
    refine ⟨th.capture, ?_, ?_⟩
    · rw [CaptureState.source, rx, Option.bind_some, thread, Option.map_some]
    · exact fed.stamped th (List.mem_of_getElem? thread) c (front ▸ List.mem_cons_self)

/-- A successful open is read from then on; a failed one leaves what is read. -/
theorem openDevice_source (s : CaptureState) (host : Host) (deviceIndex : BitVec 32) (format : PcmFormat) :
    (s.openDevice host deviceIndex format).2.source =
      match (s.backend.openDevice host deviceIndex format s.threads.length).1 with
      | .ok c => some c
      | .error _ => s.source := by
  unfold CaptureState.openDevice
  split
  · rename_i e backend failed
    obtain ⟨name, rfl⟩ := openDevice_error failed
    rw [failed]
    rfl
  · rename_i c backend opened
    rw [opened]
    dsimp only [CaptureState.source]
    rw [(openDevice_ok opened).1, Option.bind_some, List.getElem?_concat_length, Option.map_some]

end StereoMix.Audio
