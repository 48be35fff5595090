import StereoMix.Ipc.StopTotals

/-!
# The ledger of frames

What a dispatcher is for, seen from outside: a recorder that is given commands and frames. It has a state, the frames of
the recording that goes on, what each stop reported, and the frames that no stop will report: those that came while
nothing was being recorded, and those of a recording that another one replaced. A dispatcher follows its ledger in every
interleaving of its tasks, so no frame is in two reports.
-/

namespace StereoMix.Ipc

open EventSystem

/-! ## The ledger -/

structure Ledger where
  state : RecordingState
  stops : List Nat
  current : Nat
  aside : Nat
  deriving DecidableEq

namespace Ledger

def new : Ledger := ⟨.idle, [], 0, 0⟩

/-- Some frames come in. -/
def captured (l : Ledger) (frames : Nat) : Ledger :=
  if l.state = .idle then { l with aside := l.aside + frames } else { l with current := l.current + frames }

def command (l : Ledger) (nowMs : Nat) : IpcCommand → Ledger
  | .startRecording deviceIndex =>
    { l with state := .recording deviceIndex nowMs, current := 0, aside := l.aside + l.current }
  | .stopRecording => { l with state := .idle, stops := l.stops ++ [l.current], current := 0 }
  | .pauseRecording =>
    match l.state with
    | .recording deviceIndex startedAt => { l with state := .paused deviceIndex startedAt }
    | _ => l
  | .resumeRecording =>
    match l.state with
    | .paused deviceIndex startedAt => { l with state := .recording deviceIndex startedAt }
    | _ => l
  | _ => l

/-- The tasks and the shutdown methods write nothing in the ledger but the frames. -/
def after (l : Ledger) : DispatcherEvent → Ledger
  | .command r cmd _ => l.command r.nowMs cmd
  | .task _ e => l.captured e.frames
  | _ => l

/-- All frames in the ledger. -/
def total (l : Ledger) : Nat := l.stops.sum + l.current + l.aside

end Ledger

/-- The ledger of a run. -/
def ledger (es : List DispatcherEvent) : Ledger := es.foldl Ledger.after .new

def DispatcherEvent.frames : DispatcherEvent → Nat
  | .task _ e => e.frames
  | _ => 0

/-- All frames that the pipeline tasks count in a run. -/
def framesIn (es : List DispatcherEvent) : Nat := (es.map DispatcherEvent.frames).sum

theorem ledger_append (es : List DispatcherEvent) (e : DispatcherEvent) : ledger (es ++ [e]) = (ledger es).after e :=
  List.foldl_append ..

theorem framesIn_append (es : List DispatcherEvent) (e : DispatcherEvent) :
    framesIn (es ++ [e]) = framesIn es + e.frames := by
  simp [framesIn]

namespace Ledger

variable (l : Ledger)

@[simp] theorem total_captured (frames : Nat) : (l.captured frames).total = l.total + frames := by
  unfold captured total
  split <;> dsimp only <;> omega

@[simp] theorem total_command (nowMs : Nat) (cmd : IpcCommand) : (l.command nowMs cmd).total = l.total := by
  unfold command total
  cases cmd with
  | startRecording =>
    dsimp only
    omega
  | stopRecording =>
    dsimp only
    rw [List.sum_append, List.sum_singleton]
    omega
  | pauseRecording | resumeRecording =>
    dsimp only
    split <;> rfl
  | _ => rfl

theorem total_after (e : DispatcherEvent) : (l.after e).total = l.total + e.frames := by
  cases e with
  | command r cmd id => exact l.total_command r.nowMs cmd
  | task g e => exact l.total_captured e.frames
  | call | caller | pass => rfl

end Ledger

/-- The ledger accounts for every frame. -/
theorem total_ledger (es : List DispatcherEvent) : (ledger es).total = framesIn es := by
  induction es using List.reverseRecOn with
  | nil => rfl
  | append_singleton es e ih => rw [ledger_append, framesIn_append, Ledger.total_after, ih]

/-! ## A dispatcher follows its ledger -/

/-- What an `audio_stopped` reports. -/
def TelemetryEvent.totalFrames : TelemetryEvent → Option Nat
  | .audioStopped _ totalFrames => some totalFrames
  | _ => none

/-- The state and the reports are the ledger's, and the counter has the ledger's frames: those of the recording that
goes on since its mark. -/
structure Dispatcher.Follows (d : Dispatcher) (l : Ledger) : Prop where
  state : d.state = l.state
  stops : d.telemetry.filterMap TelemetryEvent.totalFrames = l.stops
  captured : d.framesCaptured = l.total
  idle : l.state = .idle → l.current = 0
  mark : l.state ≠ .idle → d.framesCaptured = d.framesAtStart + l.current

namespace Dispatcher.Follows

variable {d : Dispatcher} {l : Ledger}

theorem task {e : TaskEvent} (before : d.Follows l) (fits : l.total + e.frames < 2 ^ 64)
    (generations : List Generation) (call : Option ShutdownCall) :
    Dispatcher.Follows { d with generations, audioQuality := d.audioQuality.after e, call } (l.captured e.frames) := by
  obtain ⟨state, stops, captured, idle, mark⟩ := before
  have samples : (d.audioQuality.after e).samplesCaptured = d.framesCaptured + e.frames := by
    have bounded : d.framesCaptured < 2 ^ 64 := by omega
    have sum := AudioQualityState.samplesCaptured_after bounded e
    change _ = (d.framesCaptured + e.frames) % 2 ^ 64 at sum
    rwa [Nat.mod_eq_of_lt (by omega)] at sum
  have total : (d.audioQuality.after e).samplesCaptured = (l.captured e.frames).total := by
    rw [samples, captured, Ledger.total_captured]
  by_cases not_recording : l.state = .idle
  · rw [Ledger.captured, if_pos not_recording] at total ⊢
    exact ⟨state, stops, total, idle, fun recording => absurd not_recording recording⟩
  · rw [Ledger.captured, if_neg not_recording] at total ⊢
    refine ⟨state, stops, total, fun now => absurd now not_recording, fun recording => ?_⟩
    exact samples.trans ((congrArg (· + e.frames) (mark recording)).trans (Nat.add_assoc ..))

theorem startRecording (before : d.Follows l) (r : Reading) (deviceIndex : Option (BitVec 32)) :
    (d.startRecording r deviceIndex).Follows (l.command r.nowMs (.startRecording deviceIndex)) := by
  obtain ⟨state, stops, captured, idle, mark⟩ := before
  refine ⟨rfl, ?_, ?_, nofun, fun _ => rfl⟩
  · change (d.telemetry ++ [_]).filterMap TelemetryEvent.totalFrames = _
    rw [List.filterMap_append, stops]
    exact List.append_nil _
  · exact captured.trans (Ledger.total_command ..).symm

/-- What a stop reports is what the ledger has of the recording. -/
theorem reports (before : d.Follows l) (r : Reading) : (d.signal.stopTotals r).2 = l.current := by
  obtain ⟨state, stops, captured, idle, mark⟩ := before
  unfold Dispatcher.stopTotals
  rw [show d.signal.state = l.state from state]
  cases now : l.state with
  | idle => exact (idle now).symm
  | recording deviceIndex startedAt | paused deviceIndex startedAt =>
    have since := mark (by simp [now])
    change d.framesCaptured - d.framesAtStart = l.current
    omega

theorem stopRecording (before : d.Follows l) (r : Reading) :
    (d.stopRecording r).Follows (l.command r.nowMs .stopRecording) := by
  have reported := before.reports r
  refine ⟨rfl, ?_, ?_, fun _ => rfl, fun recording => absurd rfl recording⟩
  · change (d.telemetry ++ [TelemetryEvent.audioStopped _ (d.signal.stopTotals r).2]).filterMap TelemetryEvent.totalFrames = _
    rw [List.filterMap_append, before.stops, reported]
    rfl
  · exact before.captured.trans (Ledger.total_command ..).symm

/-- A change of the state that keeps a recording a recording. -/
theorem switched (before : d.Follows l) {state : RecordingState} (recording : l.state ≠ .idle) (still : state ≠ .idle) :
    Dispatcher.Follows { d with state } { l with state } where
  state := rfl
  stops := before.stops
  captured := before.captured
  idle now := absurd now still
  mark _ := before.mark recording

end Dispatcher.Follows

theorem Dispatcher.Follows.command {d : Dispatcher} {l : Ledger} (before : d.Follows l) (r : Reading)
    (cmd : IpcCommand) (id : String) : (d.handleCommand r cmd id).1.Follows (l.command r.nowMs cmd) := by
  cases cmd with
  | startRecording deviceIndex => exact before.startRecording r deviceIndex
  | stopRecording => exact before.stopRecording r
  | pauseRecording =>
    have same := before.state
    unfold Dispatcher.handleCommand Ledger.command
    dsimp only
    rw [same]
    cases now : l.state with
    | recording deviceIndex startedAt => exact before.switched (by simp [now]) (by simp)
    | idle | paused => exact before
  | resumeRecording =>
    have same := before.state
    unfold Dispatcher.handleCommand Ledger.command
    dsimp only
    rw [same]
    cases now : l.state with
    | paused deviceIndex startedAt => exact before.switched (by simp [now]) (by simp)
    | idle | recording => exact before
  | shutdown =>
    refine ⟨before.state, ?_, before.captured, before.idle, before.mark⟩
    change (d.telemetry ++ [_]).filterMap TelemetryEvent.totalFrames = _
    rw [List.filterMap_append, before.stops]
    exact List.append_nil _
  | getStatus | setDevice | updateConfig | health | stats | subscribeTelemetry => exact before

/-- Each step of a dispatcher is the ledger's. -/
theorem Dispatcher.Follows.step {d t : Dispatcher} {l : Ledger} {e : DispatcherEvent} (before : d.Follows l)
    (fits : l.total + e.frames < 2 ^ 64) (step : dispatcherStep d e = some t) : t.Follows (l.after e) := by
  cases e with
  | command r cmd id =>
    obtain ⟨-, step⟩ := Option.ite_none_right_eq_some.1 step
    cases step
    exact before.command r cmd id
  | task g e =>
    cases Dispatcher.moves_of_step step with
    | task there alive moved => exact before.task fits _ _
  | call | caller | pass =>
    have same : d.state = t.state ∧ d.telemetry = t.telemetry ∧ d.audioQuality = t.audioQuality ∧
        d.framesAtStart = t.framesAtStart := by
      cases Dispatcher.moves_of_step step <;> exact ⟨rfl, rfl, rfl, rfl⟩
    obtain ⟨state, telemetry, quality, mark⟩ := same
    obtain ⟨now, stops, captured, idle, since⟩ := before
    unfold Dispatcher.framesCaptured at captured since
    rw [quality] at captured since
    exact ⟨state ▸ now, telemetry ▸ stops, captured, idle, mark ▸ since⟩

/-- **A dispatcher follows its ledger as long as its counter does not overflow**, whatever its tasks do in between. So
every frame is in one report at most: the reports, the frames of the recording that goes on, and those that no stop
will report add up to what was captured. -/
theorem follows_ledger {es : List DispatcherEvent} {d : Dispatcher} (run : dispatcherSystem.run .new es = some d)
    (fits : framesIn es < 2 ^ 64) : d.Follows (ledger es) ∧ (d.telemetry.filterMap TelemetryEvent.totalFrames).sum +
      (ledger es).current + (ledger es).aside = framesIn es := by
  have follows : d.Follows (ledger es) := by
    refine invariant_since (I := fun es d => framesIn es < 2 ^ 64 → d.Follows (ledger es)) ?_ ?_ run fits
    · exact fun _ => ⟨rfl, rfl, rfl, fun _ => rfl, fun recording => absurd rfl recording⟩
    · intro es d e t _ before step fits
      rw [framesIn_append] at fits
      rw [ledger_append]
      exact (before (by omega)).step (by rwa [total_ledger]) step
  refine ⟨follows, ?_⟩
  rw [follows.stops]
  exact total_ledger es

/-- Two recordings of a frame each, both stopped. -/
theorem follows_ledger_two : ∃ d, dispatcherSystem.run .new (secondRecording ++ [.send .stopRecording]) = some d ∧
    (ledger (secondRecording ++ [.send .stopRecording])).stops = [1, 1] ∧
    d.Follows (ledger (secondRecording ++ [.send .stopRecording])) ∧
    (d.telemetry.filterMap TelemetryEvent.totalFrames).sum +
      (ledger (secondRecording ++ [.send .stopRecording])).current +
      (ledger (secondRecording ++ [.send .stopRecording])).aside =
        framesIn (secondRecording ++ [.send .stopRecording]) := by
  obtain ⟨d, run⟩ : ∃ d, dispatcherSystem.run .new (secondRecording ++ [.send .stopRecording]) = some d := ⟨_, rfl⟩
  exact ⟨d, run, rfl, follows_ledger run (by decide)⟩

end StereoMix.Ipc
