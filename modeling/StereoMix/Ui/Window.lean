import StereoMix.Lib.EventSystem
import StereoMix.Audio.Pipeline
import StereoMix.Ui.Recording

/-!
# The window

`window.rs`: the handlers of the window's buttons, the monitor loop, and the recordings they set up. The handlers
run on one thread; while `stop_recording` waits for the mux loop no other handler runs. The loops of every recording
the window ever started go on beside it, and frames reach them from the capture backend.
-/

namespace StereoMix.Ui

open Audio Encode EventSystem

/-- Where the window's thread is: between handlers, or in `stop_recording` before it drops its sender, or waiting. -/
inductive UiPc where
  | idle
  | dropping
  | waiting
  deriving DecidableEq, Repr

/-- The window's fields, and every recording it started. A handle of a recording is its number. -/
structure BsmWindow where
  pipeline : CapturePipeline
  devices : List DeviceEntry
  selectedDevice : Nat
  sampleRates : List (BitVec 32)
  selectedRateIdx : Nat
  mono : Bool
  isRecording : Bool
  recordingPaused : Bool
  recordThread : Option Nat
  recordPath : Option PathBuf
  recordStop : Option Nat
  recordTx : Option Nat
  monitorThread : Bool
  outputDir : PathBuf
  bitrateKbps : BitVec 32
  containerFormat : ContainerFormat
  ui : UiPc
  recordings : List Recording
  deriving DecidableEq, Repr

def BsmWindow.new (outputDir : PathBuf) (bitrateKbps : BitVec 32) (containerFormat : ContainerFormat) : BsmWindow where
  pipeline := .new ⟨48000#32, 2#16, 16#16⟩
  devices := []
  selectedDevice := 0
  sampleRates := [48000, 44100, 96000]
  selectedRateIdx := 0
  mono := false
  isRecording := false
  recordingPaused := false
  recordThread := none
  recordPath := none
  recordStop := none
  recordTx := none
  monitorThread := false
  outputDir
  bitrateKbps
  containerFormat
  ui := .idle
  recordings := []

/-- What is clicked, and the window's own start of the monitor loop. -/
inductive Click where
  | refresh (host : Host)
  | select (i : Nat) (host : Host)
  | rate (i : Nat)
  | stereo
  | mono
  | container (format : ContainerFormat)
  | bitrate (kbps : BitVec 32)
  | browse (dir : PathBuf)
  | record (secs : BitVec 64) (opened : Bool)
  | pause
  | stop
  | monitorStart

/-- What can happen: a handler runs, `stop_recording` goes on, the monitor loop reads, a recording's loop takes a
step, a capture thread makes a frame or ends. -/
inductive WindowEvent (F : Type) where
  | click (c : Click)
  | stopDropTx
  | stopAbort
  | stopped
  | monitorRead
  | captureRead (n : Nat)
  | loop (n : Nat) (e : LoopStep)
  | input (id : Nat) (data : Input F) (now : BitVec 64)
  | ends (id : Nat)

/-! ## Handlers -/

def codecName : ContainerFormat → String
  | .wav => "pcm_s16le"
  | .mp3 => "mp3"
  | .flac => "flac"

/-- The rates of a device that is not a loopback are listed, if they can be had. -/
def BsmWindow.listRates (self : BsmWindow) (host : Host) (d : DeviceEntry) : BsmWindow :=
  if d.isLoopback then self
  else
    match enumerateSupportedSampleRates host d.index self.pipeline.requestedFormat.channels with
    | .ok r => { self with sampleRates := r, selectedRateIdx := 0 }
    | .error _ => self

/-- A click on a device: its rates are listed, and it is opened and started. -/
def BsmWindow.select (self : BsmWindow) (host : Host) (i : Nat) (d : DeviceEntry) : BsmWindow :=
  let fmt := self.pipeline.requestedFormat
  let self := { self with selectedDevice := i }.listRates host d
  match self.pipeline.openWithConfig host d.index fmt with
  | (.ok _, pipeline) => { self with pipeline := pipeline.start }
  | (.error _, pipeline) => { self with pipeline }

/-- A click on a rate or a channel count. -/
def BsmWindow.request (self : BsmWindow) (change : PcmFormat → PcmFormat) : BsmWindow :=
  { self with pipeline := self.pipeline.setRequestedFormat (change self.pipeline.requestedFormat) }

/-- The recording that `start_recording` sets up at time `secs`. -/
def BsmWindow.newRecording (self : BsmWindow) (secs : BitVec 64) : Recording where
  path := self.outputDir ++ [s!"recording-{secs.toNat}.{self.containerFormat.extension}"]
  container := self.containerFormat
  codecName := codecName self.containerFormat
  bitrateKbps := self.bitrateKbps
  header := self.pipeline.requestedFormat
  stopFlag := false
  recordTx := true
  channel := .empty
  capture := .check
  mux := .spawned
  captured := []
  written := []
  sentAtStop := none

/-- `start_recording`, once the monitor loop has ended; `opened` is the answer of `mux.open`. -/
def BsmWindow.startRecording (self : BsmWindow) (secs : BitVec 64) (opened : Bool) : BsmWindow :=
  let self := { self with monitorThread := false }
  if opened then
    let r := self.newRecording secs
    let n := self.recordings.length
    { self with
      recordings := self.recordings ++ [r]
      recordTx := some n
      recordStop := some n
      isRecording := true
      recordThread := some n
      recordPath := some r.path }
  else self

/-- What happens to recording `n`. -/
def BsmWindow.onRecording (self : BsmWindow) (n : Nat) (e : RecordingEvent) : Option BsmWindow :=
  match self.recordings[n]? with
  | none => none
  | some r => (r.step e).map fun r' => { self with recordings := self.recordings.set n r' }

/-- The end of `stop_recording`. -/
def BsmWindow.finishStop (self : BsmWindow) : BsmWindow :=
  { self with
    recordThread := none
    recordPath := none
    isRecording := false
    recordingPaused := false
    monitorThread := false
    ui := .idle }

/-- Whether the mux loop of the recording that is being stopped has ended. -/
def BsmWindow.muxEnded (self : BsmWindow) : Bool :=
  match self.recordThread.bind fun n => self.recordings[n]? with
  | none => true
  | some r => r.muxGone

/-- The handlers of clicks. -/
def BsmWindow.click (self : BsmWindow) : Click → Option BsmWindow
  | .refresh host => some { self with devices := enumerateDevices host }
  | .select i host => self.devices[i]?.map (self.select host i)
  | .rate i => self.sampleRates[i]?.map fun r =>
      { self with selectedRateIdx := i }.request fun fmt => { fmt with sampleRate := r }
  | .stereo => some ({ self with mono := false }.request fun fmt => { fmt with channels := 2#16 })
  | .mono => some ({ self with mono := true }.request fun fmt => { fmt with channels := 1#16 })
  | .container format => some { self with containerFormat := format }
  | .bitrate kbps => some { self with bitrateKbps := kbps }
  | .browse dir => some { self with outputDir := dir }
  | .record secs opened => some (if self.isRecording then self else self.startRecording secs opened)
  | .pause => some (if self.isRecording then { self with recordingPaused := !self.recordingPaused } else self)
  | .stop =>
    if self.isRecording then
      let self' := { self with recordStop := none, ui := .dropping }
      match self.recordStop with
      | none => some self'
      | some n => self'.onRecording n .signal
    else some self
  | .monitorStart => some (if self.isRecording then self else { self with monitorThread := true })

section

variable {F : Type} [Inhabited F] (f32ToI16 : F → BitVec 16)

def windowStep (self : BsmWindow) : WindowEvent F → Option BsmWindow
  | .click c => if self.ui = .idle then self.click c else none
  | .stopDropTx =>
    if self.ui = .dropping then
      let self' := { self with recordTx := none, ui := .waiting }
      match self.recordTx with
      | none => some self'
      | some n => self'.onRecording n .dropSender
    else none
  | .stopAbort =>
    if self.ui = .waiting then self.recordThread.bind fun n => self.onRecording n .abort else none
  | .stopped => if self.ui = .waiting && self.muxEnded then some self.finishStop else none
  | .monitorRead =>
    if self.monitorThread then self.pipeline.nextFrame.map fun (_, pipeline) => { self with pipeline } else none
  | .captureRead n =>
    self.pipeline.nextFrame.bind fun (frame, pipeline) =>
      { self with pipeline }.onRecording n
        (.took (frame.map fun frame => ⟨frame, self.isRecording && self.recordingPaused⟩))
  | .loop n e => self.onRecording n (.loop e)
  | .input id data now =>
    (captureStep f32ToI16 self.pipeline.backend (.input id data now)).map fun backend =>
      { self with pipeline := { self.pipeline with backend } }
  | .ends id =>
    (captureStep f32ToI16 self.pipeline.backend (.ends id)).map fun backend =>
      { self with pipeline := { self.pipeline with backend } }

/-- The window, from its start with any saved configuration. -/
def windowSystem : EventSystem BsmWindow (WindowEvent F) where
  init s := ∃ outputDir bitrateKbps containerFormat, s = .new outputDir bitrateKbps containerFormat
  step := windowStep f32ToI16

end

/-! ## What one step does -/

section

variable {F : Type}

/-- The events of a recording that a step of the window causes. -/
inductive Causes (s : BsmWindow) : WindowEvent F → Nat → RecordingEvent → Prop where
  | loop (n : Nat) (e : LoopStep) : Causes s (.loop n e) n (.loop e)
  | took {frame : Option PcmFrame} {pipeline : CapturePipeline} (n : Nat)
      (next : s.pipeline.nextFrame = some (frame, pipeline)) :
      Causes s (.captureRead n) n (.took (frame.map fun frame => ⟨frame, s.isRecording && s.recordingPaused⟩))
  | signal {n : Nat} (recordStop : s.recordStop = some n) : Causes s (.click .stop) n .signal
  | dropSender {n : Nat} (dropping : s.ui = .dropping) : Causes s .stopDropTx n .dropSender
  | abort (n : Nat) : Causes s .stopAbort n .abort

/-- A capture loop takes what `next_frame` answers, marked with the window's state. -/
theorem Causes.of_took {s : BsmWindow} {e : WindowEvent F} {n : Nat} {re : RecordingEvent} {taken : Taken}
    (cause : Causes s e n re) (took : re = .took (some taken)) :
    ∃ frame pipeline, e = .captureRead n ∧ s.pipeline.nextFrame = some (some frame, pipeline) ∧
      taken = ⟨frame, s.isRecording && s.recordingPaused⟩ := by
  cases cause with
  | @took answer pipeline n next =>
    obtain ⟨frame, rfl, rfl⟩ := Option.map_eq_some_iff.1 (RecordingEvent.took.inj took)
    exact ⟨frame, pipeline, rfl, next, rfl⟩
  | _ => cases took

/-- The handle that `stop_recording` takes is kept, or gone. -/
def KeepsHandle (s t : BsmWindow) : Prop :=
  t.recordStop = none ∨ (t.recordStop = s.recordStop ∧ (s.ui = .idle → t.ui = .idle))

/-- What a step can do to the recordings: nothing, a new one, an event of one of them. -/
inductive Effect (s : BsmWindow) (e : WindowEvent F) (t : BsmWindow) : Prop where
  | aside (recordings : t.recordings = s.recordings) (handle : KeepsHandle s t)
  | started (secs : BitVec 64) (event : e = .click (.record secs true)) (idle : s.isRecording = false)
      (new : t.recordings = s.recordings ++ [s.newRecording secs]) (handle : t.recordStop = some s.recordings.length)
      (ui : t.ui = .idle)
  | moved {n : Nat} {re : RecordingEvent} {r r' : Recording} (cause : Causes s e n re)
      (there : s.recordings[n]? = some r) (moves : r.Moves re r') (set : t.recordings = s.recordings.set n r')
      (handle : KeepsHandle s t) (taken : re = .signal → t.recordStop = none)

theorem onRecording_eq_some {s t : BsmWindow} {n : Nat} {re : RecordingEvent} (on : s.onRecording n re = some t) :
    ∃ r r', s.recordings[n]? = some r ∧ r.Moves re r' ∧ t = { s with recordings := s.recordings.set n r' } := by
  unfold BsmWindow.onRecording at on
  split at on
  · cases on
  · rename_i r there
    obtain ⟨r', step, rfl⟩ := Option.map_eq_some_iff.1 on
    exact ⟨r, r', there, Recording.moves_of_step step, rfl⟩

theorem listRates_eq (s : BsmWindow) (host : Host) (d : DeviceEntry) :
    ∃ sampleRates selectedRateIdx, s.listRates host d = { s with sampleRates, selectedRateIdx } := by
  unfold BsmWindow.listRates
  split
  · exact ⟨s.sampleRates, s.selectedRateIdx, rfl⟩
  · split
    · exact ⟨_, _, rfl⟩
    · exact ⟨s.sampleRates, s.selectedRateIdx, rfl⟩

/-- What a click on a device does to the pipeline: an open with the requested format and, if it succeeds, a start. -/
def openSelected (p : CapturePipeline) (host : Host) (d : DeviceEntry) : CapturePipeline :=
  match p.openWithConfig host d.index p.requestedFormat with
  | (.ok _, pipeline) => pipeline.start
  | (.error _, pipeline) => pipeline

theorem select_eq (s : BsmWindow) (host : Host) (i : Nat) (d : DeviceEntry) :
    ∃ sampleRates selectedRateIdx, s.select host i d =
      { s with selectedDevice := i, sampleRates, selectedRateIdx, pipeline := openSelected s.pipeline host d } := by
  obtain ⟨rates, idx, listed⟩ := listRates_eq { s with selectedDevice := i } host d
  refine ⟨rates, idx, ?_⟩
  unfold BsmWindow.select openSelected
  rw [listed]
  dsimp only
  generalize s.pipeline.openWithConfig host d.index s.pipeline.requestedFormat = opened
  obtain ⟨answer | _, pipeline⟩ := opened <;> rfl

theorem effect_of_click {s t : BsmWindow} {c : Click} (idle : s.ui = .idle) (step : s.click c = some t) :
    Effect (F := F) s (.click c) t := by
  cases c with
  | select i host =>
    obtain ⟨d, -, rfl⟩ := Option.map_eq_some_iff.1 step
    obtain ⟨rates, idx, same⟩ := select_eq s host i d
    rw [same]
    exact .aside rfl (.inr ⟨rfl, id⟩)
  | rate i =>
    obtain ⟨r, -, rfl⟩ := Option.map_eq_some_iff.1 step
    exact .aside rfl (.inr ⟨rfl, id⟩)
  | record secs opened =>
    cases step
    by_cases recording : s.isRecording = true
    · rw [if_pos recording]
      exact .aside rfl (.inr ⟨rfl, id⟩)
    · rw [if_neg recording]
      cases opened with
      | false => exact .aside rfl (.inr ⟨rfl, id⟩)
      | true => exact .started secs rfl (Bool.not_eq_true _ ▸ recording) rfl rfl idle
  | pause =>
    cases step
    split <;> exact .aside rfl (.inr ⟨rfl, id⟩)
  | stop =>
    unfold BsmWindow.click at step
    dsimp only at step
    split at step
    · split at step
      · cases step
        exact .aside rfl (.inl rfl)
      · rename_i n handle
        obtain ⟨r, r', there, moves, rfl⟩ := onRecording_eq_some step
        exact .moved (.signal handle) there moves rfl (.inl rfl) fun _ => rfl
    · cases step
      exact .aside rfl (.inr ⟨rfl, id⟩)
  | monitorStart =>
    cases step
    split <;> exact .aside rfl (.inr ⟨rfl, id⟩)
  | _ =>
    cases step
    exact .aside rfl (.inr ⟨rfl, id⟩)

variable [Inhabited F] (f32ToI16 : F → BitVec 16)

theorem effect_of_windowStep {s t : BsmWindow} {e : WindowEvent F} (step : windowStep f32ToI16 s e = some t) :
    Effect s e t := by
  cases e with
  | click c =>
    obtain ⟨idle, step⟩ := Option.ite_none_right_eq_some.1 step
    exact effect_of_click idle step
  | stopDropTx =>
    obtain ⟨dropping, step⟩ := Option.ite_none_right_eq_some.1 step
    have elsewhere : s.ui = .idle → UiPc.waiting = .idle := by
      rw [dropping]
      nofun
    split at step
    · cases step
      exact .aside rfl (.inr ⟨rfl, elsewhere⟩)
    · obtain ⟨r, r', there, moves, rfl⟩ := onRecording_eq_some step
      exact .moved (.dropSender dropping) there moves rfl (.inr ⟨rfl, elsewhere⟩) nofun
  | stopAbort =>
    obtain ⟨-, step⟩ := Option.ite_none_right_eq_some.1 step
    obtain ⟨n, -, step⟩ := Option.bind_eq_some_iff.1 step
    obtain ⟨r, r', there, moves, rfl⟩ := onRecording_eq_some step
    exact .moved (.abort n) there moves rfl (.inr ⟨rfl, id⟩) nofun
  | stopped =>
    obtain ⟨-, step⟩ := Option.ite_none_right_eq_some.1 step
    cases step
    exact .aside rfl (.inr ⟨rfl, fun _ => rfl⟩)
  | monitorRead =>
    obtain ⟨-, step⟩ := Option.ite_none_right_eq_some.1 step
    obtain ⟨next, -, rfl⟩ := Option.map_eq_some_iff.1 step
    exact .aside rfl (.inr ⟨rfl, id⟩)
  | captureRead n =>
    obtain ⟨⟨frame, pipeline⟩, next, step⟩ := Option.bind_eq_some_iff.1 step
    obtain ⟨r, r', there, moves, rfl⟩ := onRecording_eq_some step
    exact .moved (.took n next) there moves rfl (.inr ⟨rfl, id⟩) nofun
  | loop n e =>
    obtain ⟨r, r', there, moves, rfl⟩ := onRecording_eq_some step
    exact .moved (.loop n e) there moves rfl (.inr ⟨rfl, id⟩) nofun
  | input i data now =>
    obtain ⟨backend, -, rfl⟩ := Option.map_eq_some_iff.1 step
    exact .aside rfl (.inr ⟨rfl, id⟩)
  | ends i =>
    obtain ⟨backend, -, rfl⟩ := Option.map_eq_some_iff.1 step
    exact .aside rfl (.inr ⟨rfl, id⟩)

end

/-! ## All recordings -/

section

variable {F : Type}

/-- What new recordings have and what their events preserve, every recording has. -/
theorem Effect.recordings {P : Recording → Prop} {s t : BsmWindow} {e : WindowEvent F} (effect : Effect s e t)
    (new : ∀ secs, e = .click (.record secs true) → s.isRecording = false → P (s.newRecording secs))
    (moved : ∀ n re r r', Causes s e n re → s.recordings[n]? = some r → r.Moves re r' → P r → P r')
    (before : ∀ r ∈ s.recordings, P r) : ∀ r ∈ t.recordings, P r := by
  intro r member
  cases effect with
  | aside same handle =>
    rw [same] at member
    exact before r member
  | started secs event idle added handle ui =>
    rw [added] at member
    rcases List.mem_append.1 member with old | last
    · exact before r old
    · rw [List.mem_singleton.1 last]
      exact new secs event idle
  | @moved n re r₀ r₁ cause there moves set handle taken =>
    rw [set] at member
    rcases List.mem_or_eq_of_mem_set member with old | same
    · exact before r old
    · rw [same]
      exact moved n re r₀ r₁ cause there moves (before r₀ (List.mem_of_getElem? there))

theorem newRecording_flows (s : BsmWindow) (secs : BitVec 64) : (s.newRecording secs).Flows :=
  ⟨⟨[], rfl, fun _ => rfl⟩, ⟨[], rfl, fun _ => rfl⟩, nofun⟩

theorem newRecording_only (P : Taken → Prop) (s : BsmWindow) (secs : BitVec 64) : (s.newRecording secs).Only P := by
  constructor
  · intro taken member
    cases member
  · intro running taken member
    cases member

/-- The recording that a Stop click will signal runs: its flag is not set, and the window still has its sender. -/
def Ready (s : BsmWindow) : Prop :=
  ∀ n, s.recordStop = some n →
    s.ui = .idle ∧ ∃ r, s.recordings[n]? = some r ∧ r.stopFlag = false ∧ r.recordTx = true

theorem Ready.step {s t : BsmWindow} {e : WindowEvent F} (before : Ready s) (effect : Effect s e t) : Ready t := by
  have kept (handle : KeepsHandle s t) (n : Nat) (signals : t.recordStop = some n) :
      s.recordStop = some n ∧ (s.ui = .idle → t.ui = .idle) := by
    rcases handle with gone | ⟨same, ui⟩
    · rw [gone] at signals
      cases signals
    · exact ⟨same ▸ signals, ui⟩
  cases effect with
  | aside recordings handle =>
    intro n signals
    obtain ⟨earlier, ui⟩ := kept handle n signals
    obtain ⟨idle, running⟩ := before n earlier
    exact ⟨ui idle, recordings ▸ running⟩
  | started secs event idle new handle ui =>
    intro n signals
    rw [handle, Option.some.injEq] at signals
    refine ⟨ui, s.newRecording secs, ?_, rfl, rfl⟩
    rw [new, ← signals]
    exact List.getElem?_concat_length
  | @moved i re r r' cause there moves set handle taken =>
    intro n signals
    obtain ⟨earlier, ui⟩ := kept handle n signals
    obtain ⟨idle, r₀, there₀, flag, sender⟩ := before n earlier
    refine ⟨ui idle, ?_⟩
    by_cases here : i = n
    · subst here
      rw [there, Option.some.injEq] at there₀
      subst there₀
      have inside := (List.getElem?_eq_some_iff.1 there).1
      have flags : r'.stopFlag = r.stopFlag ∧ r'.recordTx = r.recordTx := by
        apply moves.flags
        · rintro rfl
          rw [taken rfl] at signals
          cases signals
        · rintro rfl
          cases cause with
          | dropSender dropping =>
            rw [dropping] at idle
            cases idle
      exact ⟨r', by rw [set, List.getElem?_set_self inside], flags.1.trans flag, flags.2.trans sender⟩
    · exact ⟨r₀, by rw [set, List.getElem?_set_ne here]; exact there₀, flag, sender⟩

end

end StereoMix.Ui
