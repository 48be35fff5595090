import StereoMix.Ipc.CaptureGraph
import StereoMix.Ipc.Commands
import StereoMix.Lib.Parts

/-!
# The dispatcher

`dispatcher.rs`: the commands, and the shutdown methods with their waiting. Every StartRecording makes a generation of
tasks with channels, a counter and a notifier of its own, and the dispatcher's handles are of the last one. A command
is one step: it reads or changes one thing that tasks share (the samples, or a shutdown channel), so what a task does
while a command runs it could as well do before or after. A shutdown method takes a step for every load, every look at
the clock, and the making and polling of a `Notified` future. Peaks, uptime and time stamps are readings.
-/

namespace StereoMix.Ipc

open EventSystem

/-! ## The state -/

inductive RecordingState where
  | idle
  | recording (deviceIndex : Option (BitVec 32)) (startedAt : Nat)
  | paused (deviceIndex : Option (BitVec 32)) (startedAt : Nat)
  deriving DecidableEq, Repr

/-- Shared audio quality metrics, but for the peaks. -/
structure AudioQualityState where
  underrunCount : Nat
  sampleRate : BitVec 32
  samplesCaptured : Nat
  deriving DecidableEq, Repr

/-- A telemetry event of the dispatcher's own, but for its time stamp. -/
inductive TelemetryEvent where
  | audioStarted (deviceName : String) (sampleRate channels : Nat)
  | audioStopped (durationMs totalFrames : Nat)
  | errorOccurred (code message component : String)
  deriving DecidableEq, Repr

/-- What one StartRecording spawned. The runtime's end cancels the tasks; `exitedAt` is the record of when the last
counted task was done. -/
structure Generation where
  graph : CaptureGraph
  cancelled : Bool
  exitedAt : Option Nat
  deriving DecidableEq, Repr

/-- The shutdown methods with their timeouts; `shutdown` is `withTimeout none`. -/
inductive ShutdownMethod where
  | blocking
  | blockingWithTimeout (maxWait : Option Nat)
  | withTimeout (maxWait : Option Nat)
  deriving DecidableEq, Repr

/-- Where a call of a shutdown method is, after it sent the signal. `wait`: at the `Notified` future, under a timer
or without one, and whether the future was notified. -/
inductive ShutdownPc where
  | check
  | deadline
  | load
  | clock
  | create (remaining : Option Nat)
  | wait (timer : Option Nat) (notified : Bool)
  | recheck
  | polling
  | pollClock
  | finish (completed : Bool)
  deriving DecidableEq, Repr

structure ShutdownCall where
  method : ShutdownMethod
  pc : ShutdownPc
  deadline : Option Nat
  deriving DecidableEq, Repr

/-- The dispatcher with all that it spawned. Its four handles are numbers of generations. -/
structure Dispatcher where
  state : RecordingState
  telemetry : List TelemetryEvent
  rt : Bool
  pcmTx : Option Nat
  shutdownTx : Option Nat
  activeTasks : Option Nat
  shutdownNotify : Option Nat
  audioQuality : AudioQualityState
  framesAtStart : Nat
  generations : List Generation
  now : Nat
  call : Option ShutdownCall
  deriving DecidableEq, Repr

def Dispatcher.new : Dispatcher where
  state := .idle
  telemetry := []
  rt := false
  pcmTx := none
  shutdownTx := none
  activeTasks := none
  shutdownNotify := none
  audioQuality := ⟨0, 0, 0⟩
  framesAtStart := 0
  generations := []
  now := 0
  call := none

/-! ## Commands -/

/-- What a command reads besides the dispatcher: the clock, the uptime and the peaks as they are printed. -/
structure Reading where
  nowMs : Nat
  uptimeMs : Nat
  peakAmplitude : String
  peakLeft : String
  peakRight : String
  deriving DecidableEq, Repr

namespace Dispatcher

/-- The generations after something is done to the channels of one. -/
def onGraph (d : Dispatcher) (handle : Option Nat) (f : CaptureGraph → CaptureGraph) : List Generation :=
  match handle with
  | none => d.generations
  | some g => d.generations.modify g fun gen => { gen with graph := f gen.graph }

/-- `tx.send(())`, if there is one. -/
def signal (d : Dispatcher) : Dispatcher := { d with generations := d.onGraph d.shutdownTx CaptureGraph.signal }

/-- The ends of the channels are dropped. -/
def dropPcmTx (d : Dispatcher) : Dispatcher :=
  { d with generations := d.onGraph d.pcmTx CaptureGraph.dropPcm, pcmTx := none }

def dropShutdownTx (d : Dispatcher) : Dispatcher :=
  { d with generations := d.onGraph d.shutdownTx CaptureGraph.signal, shutdownTx := none }

/-- The frames the pipelines have captured since this dispatcher was made. -/
def framesCaptured (d : Dispatcher) : Nat := d.audioQuality.samplesCaptured

/-- The tasks are spawned, and the new handles replace the old ones, which are dropped. -/
def spawnBackgroundTasks (d : Dispatcher) : Dispatcher :=
  let g := d.generations.length
  let dropped := d.dropPcmTx.dropShutdownTx
  { dropped with
    rt := true
    generations := dropped.generations ++ [⟨.spawned, false, none⟩]
    pcmTx := some g
    shutdownTx := some g
    activeTasks := some g
    shutdownNotify := some g }

def emit (d : Dispatcher) (event : TelemetryEvent) : Dispatcher := { d with telemetry := d.telemetry ++ [event] }

/-- `format!("device-{}", i)`, or the default. -/
def deviceName : Option (BitVec 32) → String
  | some i => s!"device-{i.toNat}"
  | none => "default-device"

def startRecording (d : Dispatcher) (r : Reading) (deviceIndex : Option (BitVec 32)) : Dispatcher :=
  let marked := { d with framesAtStart := d.framesCaptured }
  let spawned := marked.spawnBackgroundTasks
  { spawned with state := .recording deviceIndex r.nowMs }.emit (.audioStarted (deviceName deviceIndex) 48000 2)

/-- The duration and the frames that `audio_stopped` reports. -/
def stopTotals (d : Dispatcher) (r : Reading) : Nat × Nat :=
  match d.state with
  | .recording _ startedAt | .paused _ startedAt => (r.nowMs - startedAt, d.framesCaptured - d.framesAtStart)
  | .idle => (0, 0)

def stopRecording (d : Dispatcher) (r : Reading) : Dispatcher :=
  let told := d.signal
  let totals := told.stopTotals r
  { told with state := .idle }.emit (.audioStopped totals.1 totals.2)

def jsonNat (n : Nat) : Json := .number (.posInt n)

/-- The data of GetStatus. -/
def statusData (state : RecordingState) : Json :=
  match state with
  | .idle => .object [("state", .string "idle")]
  | .recording deviceIndex startedAt => .object [
      ("device_index", (deviceIndex.map fun i => jsonNat i.toNat).getD .null),
      ("started_at", jsonNat startedAt),
      ("state", .string "recording")]
  | .paused deviceIndex startedAt => .object [
      ("device_index", (deviceIndex.map fun i => jsonNat i.toNat).getD .null),
      ("started_at", jsonNat startedAt),
      ("state", .string "paused")]

def isRecording : RecordingState → Bool
  | .recording _ _ => true
  | _ => false

def isPaused : RecordingState → Bool
  | .paused _ _ => true
  | _ => false

def stateName : RecordingState → String
  | .idle => "idle"
  | .recording _ _ => "recording"
  | .paused _ _ => "paused"

def healthData (state : RecordingState) (r : Reading) : Json :=
  .object [
    ("recording_active", .bool (isRecording state)),
    ("state", .string (stateName state)),
    ("status", .string "ok"),
    ("uptime_ms", jsonNat r.uptimeMs)]

def statsData (quality : AudioQualityState) (r : Reading) : Json :=
  .object [
    ("buffer_underruns", jsonNat quality.underrunCount),
    ("peak_amplitude", .number (.float r.peakAmplitude)),
    ("peak_left", .number (.float r.peakLeft)),
    ("peak_right", .number (.float r.peakRight)),
    ("sample_rate", jsonNat quality.sampleRate.toNat),
    ("samples_captured", jsonNat quality.samplesCaptured)]

/-- Handle a single `IpcCommand` and return a response envelope. -/
def handleCommand (d : Dispatcher) (r : Reading) (cmd : IpcCommand) (id : String) : Dispatcher × ResponseEnvelope :=
  match cmd with
  | .startRecording deviceIndex => (d.startRecording r deviceIndex, .success id)
  | .stopRecording => (d.stopRecording r, .success id)
  | .pauseRecording =>
    match d.state with
    | .recording deviceIndex startedAt => ({ d with state := .paused deviceIndex startedAt }, .success id)
    | _ => (d, .err id "not_recording")
  | .resumeRecording =>
    match d.state with
    | .paused deviceIndex startedAt => ({ d with state := .recording deviceIndex startedAt }, .success id)
    | _ => (d, .err id "not_paused")
  | .getStatus => (d, .okData id (statusData d.state))
  | .setDevice _ => (d, .success id)
  | .updateConfig _ => (d, .success id)
  | .shutdown => (d.signal.emit (.errorOccurred "shutdown" "shutdown requested" "bsm-ipc"), .success id)
  | .health => (d, .okData id (healthData d.state r))
  | .stats => (d, .okData id (statsData d.audioQuality r))
  | .subscribeTelemetry => (d, .err id "unsupported_command")

/-! ## The shutdown methods -/

/-- `active.load`, if there is a counter. -/
def active (d : Dispatcher) : Option Nat := (d.activeTasks.bind fun g => d.generations[g]?).map (·.graph.active)

end Dispatcher

def ShutdownMethod.maxWait : ShutdownMethod → Option Nat
  | .blocking => none
  | .blockingWithTimeout maxWait => maxWait
  | .withTimeout maxWait => maxWait

def ShutdownMethod.isAsync : ShutdownMethod → Bool
  | .withTimeout _ => true
  | _ => false

/-- The loop of a call: awaiting the notifier, or polling where there is none or the method blocks. -/
def ShutdownCall.loop (c : ShutdownCall) (d : Dispatcher) : ShutdownPc :=
  if c.method.isAsync ∧ d.shutdownNotify.isSome then .load else .polling

/-- A call's next place, if it is not waiting; `none` too where it is about to return. -/
def ShutdownCall.next (c : ShutdownCall) (d : Dispatcher) : Option ShutdownCall :=
  -- A counter that is not there, or is 0, ends the waiting.
  let loaded (more : ShutdownPc) : ShutdownCall := { c with pc := if 0 < d.active.getD 0 then more else .finish true }
  match c.pc with
  | .check => some (loaded (if c.method.maxWait.isSome then .deadline else c.loop d))
  | .deadline => some { c with pc := c.loop d, deadline := c.method.maxWait.map (d.now + ·) }
  | .load => some (loaded (if c.deadline.isSome then .clock else .create none))
  | .clock =>
    let deadline := c.deadline.getD 0
    some { c with pc := if deadline ≤ d.now then .finish false else .create (some (deadline - d.now)) }
  | .create remaining => some { c with pc := .wait (remaining.map (d.now + ·)) false }
  | .wait timer notified =>
    if notified then some { c with pc := if c.deadline.isSome then .recheck else .load }
    else if timer.any (· ≤ d.now) then some { c with pc := .finish false }
    else none
  | .recheck => some (loaded .load)
  | .polling => some (loaded (if c.deadline.isSome then .pollClock else .polling))
  | .pollClock => some { c with pc := if c.deadline.getD 0 ≤ d.now then .finish false else .polling }
  | .finish _ => none

def Generation.cancel (gen : Generation) : Generation := { gen with cancelled := true }

/-- The runtime is dropped with its tasks, and the handles. -/
def Dispatcher.finished (d : Dispatcher) : Dispatcher :=
  let cancelled := { d with generations := d.generations.map Generation.cancel }
  { cancelled.dropPcmTx.dropShutdownTx with
    rt := false
    activeTasks := none
    shutdownNotify := none
    call := none }

def Dispatcher.callerStep (d : Dispatcher) (c : ShutdownCall) : Option Dispatcher :=
  match c.pc with
  | .finish _ => some d.finished
  | _ => (c.next d).map fun c => { d with call := some c }

/-! ## Steps -/

/-- What can happen: a command is handled, a task of a generation takes a step, a shutdown method is called or takes
a step, time passes. -/
inductive DispatcherEvent where
  | command (r : Reading) (cmd : IpcCommand) (id : String)
  | task (g : Nat) (e : TaskEvent)
  | call (method : ShutdownMethod)
  | caller
  | pass (time : Nat)

/-- What a pipeline task's step does to the shared metrics; the sum is of `u64`. -/
def AudioQualityState.after (quality : AudioQualityState) : TaskEvent → AudioQualityState
  | .frame f =>
    if f.format.bitDepth = 16 ∧ 2 ≤ f.data.length then
      { quality with
        sampleRate := f.format.sampleRate
        samplesCaptured := (quality.samplesCaptured + framesCounted f) % 2 ^ 64 }
    else if f.data = [] then { quality with underrunCount := quality.underrunCount + 1 }
    else quality
  | .failed => { quality with underrunCount := quality.underrunCount + 1 }
  | _ => quality

/-- `notify_waiters` wakes the future that was made, and leaves nothing for a later one. -/
def ShutdownCall.woken (c : ShutdownCall) : ShutdownCall :=
  match c.pc with
  | .wait timer _ => { c with pc := .wait timer true }
  | _ => c

/-- The call after a task's step: woken, if the notifier is the one it awaits. -/
def Dispatcher.callAfter (d : Dispatcher) (g : Nat) : TaskEvent → Option ShutdownCall
  | .notify _ => if d.shutdownNotify = some g then d.call.map ShutdownCall.woken else d.call
  | _ => d.call

instance (g : CaptureGraph) : Decidable g.AllExited := by
  unfold CaptureGraph.AllExited
  infer_instance

/-- A generation after a task's step. -/
def Generation.after (gen : Generation) (graph : CaptureGraph) (now : Nat) : Generation :=
  { gen with graph, exitedAt := if gen.exitedAt = none ∧ graph.AllExited then some now else gen.exitedAt }

def Dispatcher.taskStep (d : Dispatcher) (g : Nat) (e : TaskEvent) : Option Dispatcher :=
  match d.generations[g]? with
  | none => none
  | some gen =>
    if gen.cancelled then none
    else (gen.graph.step e).map fun graph => { d with
      generations := d.generations.set g (gen.after graph d.now)
      audioQuality := d.audioQuality.after e
      call := d.callAfter g e }

def dispatcherStep (d : Dispatcher) : DispatcherEvent → Option Dispatcher
  | .command r cmd id => if d.call = none then some (d.handleCommand r cmd id).1 else none
  | .task g e => d.taskStep g e
  | .call method => if d.call = none then some { d.signal with call := some ⟨method, .check, none⟩ } else none
  | .caller =>
    match d.call with
    | some c => d.callerStep c
    | none => none
  | .pass time => some { d with now := d.now + time }

def dispatcherSystem : EventSystem Dispatcher DispatcherEvent where
  init d := d = .new
  step := dispatcherStep

/-! ## What one step does -/

/-- The steps of a dispatcher, with what they need and what they leave. -/
inductive Dispatcher.Moves (d : Dispatcher) : DispatcherEvent → Dispatcher → Prop where
  | started {r : Reading} {deviceIndex : Option (BitVec 32)} {id : String} (free : d.call = none) :
      d.Moves (.command r (.startRecording deviceIndex) id) (d.startRecording r deviceIndex)
  | stopped {r : Reading} {id : String} (free : d.call = none) :
      d.Moves (.command r .stopRecording id) (d.stopRecording r)
  | paused {r : Reading} {id : String} {deviceIndex : Option (BitVec 32)} {startedAt : Nat} (free : d.call = none)
      (recording : d.state = .recording deviceIndex startedAt) :
      d.Moves (.command r .pauseRecording id) { d with state := .paused deviceIndex startedAt }
  | resumed {r : Reading} {id : String} {deviceIndex : Option (BitVec 32)} {startedAt : Nat} (free : d.call = none)
      (paused : d.state = .paused deviceIndex startedAt) :
      d.Moves (.command r .resumeRecording id) { d with state := .recording deviceIndex startedAt }
  | told {r : Reading} {id : String} (free : d.call = none) : d.Moves (.command r .shutdown id)
      (d.signal.emit (.errorOccurred "shutdown" "shutdown requested" "bsm-ipc"))
  | answered {r : Reading} {cmd : IpcCommand} {id : String} (free : d.call = none) : d.Moves (.command r cmd id) d
  | task {g : Nat} {e : TaskEvent} {gen : Generation} {graph : CaptureGraph} (there : d.generations[g]? = some gen)
      (alive : gen.cancelled = false) (moved : gen.graph.step e = some graph) : d.Moves (.task g e) { d with
        generations := d.generations.set g (gen.after graph d.now)
        audioQuality := d.audioQuality.after e
        call := d.callAfter g e }
  | called {method : ShutdownMethod} (free : d.call = none) : d.Moves (.call method)
      { d.signal with call := some ⟨method, .check, none⟩ }
  | caller {c c' : ShutdownCall} (calls : d.call = some c) (next : c.next d = some c') :
      d.Moves .caller { d with call := some c' }
  | finished {c : ShutdownCall} {completed : Bool} (calls : d.call = some c) (at_finish : c.pc = .finish completed) :
      d.Moves .caller d.finished
  | passed {time : Nat} : d.Moves (.pass time) { d with now := d.now + time }

theorem Dispatcher.moves_of_step {d t : Dispatcher} {e : DispatcherEvent} (step : dispatcherStep d e = some t) :
    d.Moves e t := by
  cases e with
  | command r cmd id =>
    obtain ⟨free, step⟩ := Option.ite_none_right_eq_some.1 step
    cases step
    unfold Dispatcher.handleCommand
    cases cmd with
    | startRecording deviceIndex => exact .started free
    | stopRecording => exact .stopped free
    | pauseRecording =>
      dsimp only
      split
      · rename_i recording
        exact .paused free recording
      · exact .answered free
    | resumeRecording =>
      dsimp only
      split
      · rename_i paused
        exact .resumed free paused
      · exact .answered free
    | shutdown => exact .told free
    | getStatus | setDevice | updateConfig | health | stats | subscribeTelemetry => exact .answered free
  | task g e =>
    change d.taskStep g e = some t at step
    unfold Dispatcher.taskStep at step
    split at step
    · cases step
    · rename_i gen there
      obtain ⟨alive, step⟩ := Option.ite_none_left_eq_some.1 step
      obtain ⟨graph, moved, same⟩ := Option.map_eq_some_iff.1 step
      cases same
      exact .task there (Bool.not_eq_true _ ▸ alive) moved
  | call method =>
    obtain ⟨free, step⟩ := Option.ite_none_right_eq_some.1 step
    cases step
    exact .called free
  | caller =>
    unfold dispatcherStep at step
    dsimp only at step
    split at step
    · rename_i c calls
      unfold Dispatcher.callerStep at step
      split at step
      · rename_i completed at_finish
        cases step
        exact .finished calls at_finish
      · obtain ⟨c', next, same⟩ := Option.map_eq_some_iff.1 step
        cases same
        exact .caller calls next
    · cases step
  | pass time =>
    cases step
    exact .passed

/-- The steps of a call up to its end, with what they need and what they leave. -/
inductive ShutdownCall.Moves (c : ShutdownCall) (d : Dispatcher) : ShutdownCall → Prop where
  | done (loads : c.pc = .check ∨ c.pc = .load ∨ c.pc = .recheck ∨ c.pc = .polling) (zero : d.active.getD 0 = 0) :
      c.Moves d { c with pc := .finish true }
  | begins (at_check : c.pc = .check) (counted : 0 < d.active.getD 0) (timed : c.method.maxWait.isSome = true) :
      c.Moves d { c with pc := .deadline }
  | enters (at_check : c.pc = .check) (counted : 0 < d.active.getD 0) (untimed : c.method.maxWait = none) :
      c.Moves d { c with pc := c.loop d }
  | timed (at_deadline : c.pc = .deadline) :
      c.Moves d { c with pc := c.loop d, deadline := c.method.maxWait.map (d.now + ·) }
  | looks (at_load : c.pc = .load) (counted : 0 < d.active.getD 0) (timed : c.deadline.isSome = true) :
      c.Moves d { c with pc := .clock }
  | unbounded (at_load : c.pc = .load) (counted : 0 < d.active.getD 0) (untimed : c.deadline = none) :
      c.Moves d { c with pc := .create none }
  | late (at_clock : c.pc = .clock) (passed : c.deadline.getD 0 ≤ d.now) : c.Moves d { c with pc := .finish false }
  | inTime (at_clock : c.pc = .clock) (ahead : d.now < c.deadline.getD 0) :
      c.Moves d { c with pc := .create (some (c.deadline.getD 0 - d.now)) }
  | created {remaining : Option Nat} (at_create : c.pc = .create remaining) :
      c.Moves d { c with pc := .wait (remaining.map (d.now + ·)) false }
  | notified {timer : Option Nat} (at_wait : c.pc = .wait timer true) :
      c.Moves d { c with pc := if c.deadline.isSome then .recheck else .load }
  | elapsed {timer : Nat} (at_wait : c.pc = .wait (some timer) false) (passed : timer ≤ d.now) :
      c.Moves d { c with pc := .finish false }
  | again (at_recheck : c.pc = .recheck) (counted : 0 < d.active.getD 0) : c.Moves d { c with pc := .load }
  | polls (at_polling : c.pc = .polling) (counted : 0 < d.active.getD 0) :
      c.Moves d { c with pc := if c.deadline.isSome then .pollClock else .polling }
  | pollsLate (at_clock : c.pc = .pollClock) (passed : c.deadline.getD 0 ≤ d.now) :
      c.Moves d { c with pc := .finish false }
  | sleeps (at_clock : c.pc = .pollClock) (ahead : d.now < c.deadline.getD 0) : c.Moves d { c with pc := .polling }

theorem ShutdownCall.moves_of_next {c c' : ShutdownCall} {d : Dispatcher} (next : c.next d = some c') :
    c.Moves d c' := by
  have loaded (more : ShutdownPc) (loads : c.pc = .check ∨ c.pc = .load ∨ c.pc = .recheck ∨ c.pc = .polling)
      (counted : 0 < d.active.getD 0 → c.Moves d { c with pc := more }) :
      c.Moves d { c with pc := if 0 < d.active.getD 0 then more else .finish true } := by
    split
    · rename_i some_active
      exact counted some_active
    · rename_i none_active
      exact .done loads (Nat.eq_zero_of_not_pos none_active)
  unfold ShutdownCall.next at next
  dsimp only at next
  split at next
  · rename_i at_check
    cases next
    apply loaded _ (.inl at_check)
    intro counted
    split
    · rename_i timed
      exact .begins at_check counted timed
    · rename_i untimed
      exact .enters at_check counted (Option.not_isSome_iff_eq_none.1 untimed)
  · rename_i at_deadline
    cases next
    exact .timed at_deadline
  · rename_i at_load
    cases next
    apply loaded _ (.inr (.inl at_load))
    intro counted
    split
    · rename_i timed
      exact .looks at_load counted timed
    · rename_i untimed
      exact .unbounded at_load counted (Option.not_isSome_iff_eq_none.1 untimed)
  · rename_i at_clock
    cases next
    split
    · rename_i passed
      exact .late at_clock passed
    · rename_i ahead
      exact .inTime at_clock (Nat.lt_of_not_le ahead)
  · rename_i remaining at_create
    cases next
    exact .created at_create
  · rename_i timer notified at_wait
    split at next
    · rename_i woken
      subst woken
      cases next
      exact .notified at_wait
    · rename_i unwoken
      obtain ⟨passed, same⟩ := Option.ite_none_right_eq_some.1 next
      cases same
      cases notified with
      | true => exact absurd rfl unwoken
      | false =>
        cases timer with
        | none => cases passed
        | some timer => exact .elapsed at_wait (of_decide_eq_true passed)
  · rename_i at_recheck
    cases next
    exact loaded _ (.inr (.inr (.inl at_recheck))) fun counted => .again at_recheck counted
  · rename_i at_polling
    cases next
    exact loaded _ (.inr (.inr (.inr at_polling))) fun counted => .polls at_polling counted
  · rename_i at_clock
    cases next
    split
    · rename_i passed
      exact .pollsLate at_clock passed
    · rename_i ahead
      exact .sleeps at_clock (Nat.lt_of_not_le ahead)
  · cases next

/-! ## The generations after a step -/

namespace Dispatcher

variable {d : Dispatcher}

theorem getElem?_onGraph (handle : Option Nat) (f : CaptureGraph → CaptureGraph) (g : Nat) :
    (d.onGraph handle f)[g]? =
      d.generations[g]?.map fun gen => { gen with graph := if handle = some g then f gen.graph else gen.graph } := by
  cases handle with
  | none => simp [onGraph]
  | some h =>
    simp only [onGraph, List.getElem?_modify, Option.some.injEq]
    cases d.generations[g]? with
    | none => rfl
    | some gen =>
      by_cases same : h = g <;> simp [same]

@[simp] theorem length_onGraph (handle : Option Nat) (f : CaptureGraph → CaptureGraph) :
    (d.onGraph handle f).length = d.generations.length := by
  cases handle with
  | none => rfl
  | some h => exact List.length_modify ..

/-- The generations that a StartRecording keeps: those whose handles it replaces see their channels closed. -/
theorem generations_start (r : Reading) (deviceIndex : Option (BitVec 32)) :
    (d.startRecording r deviceIndex).generations =
      d.dropPcmTx.dropShutdownTx.generations ++ [⟨.spawned, false, none⟩] := rfl

@[simp] theorem length_dropped : d.dropPcmTx.dropShutdownTx.generations.length = d.generations.length := by
  rw [dropShutdownTx, length_onGraph, dropPcmTx, length_onGraph]

/-- The graph of generation `g` when the dispatcher's ends of its channels are dropped. -/
def droppedGraph (d : Dispatcher) (g : Nat) (graph : CaptureGraph) : CaptureGraph :=
  if d.shutdownTx = some g then (if d.pcmTx = some g then graph.dropPcm else graph).signal
  else if d.pcmTx = some g then graph.dropPcm else graph

theorem getElem?_dropped (g : Nat) : d.dropPcmTx.dropShutdownTx.generations[g]? =
    d.generations[g]?.map fun gen => { gen with graph := d.droppedGraph g gen.graph } := by
  rw [dropShutdownTx]
  dsimp only
  rw [getElem?_onGraph, dropPcmTx]
  dsimp only
  rw [getElem?_onGraph, Option.map_map]
  rfl

theorem getElem?_signal (g : Nat) : d.signal.generations[g]? = d.generations[g]?.map fun gen =>
    { gen with graph := if d.shutdownTx = some g then gen.graph.signal else gen.graph } :=
  getElem?_onGraph d.shutdownTx CaptureGraph.signal g

theorem getElem?_finished (g : Nat) : d.finished.generations[g]? = d.generations[g]?.map fun gen =>
    { gen with graph := d.droppedGraph g gen.graph, cancelled := true } := by
  have dropped := getElem?_dropped (d := { d with generations := d.generations.map Generation.cancel }) g
  refine dropped.trans ?_
  dsimp only
  rw [List.getElem?_map, Option.map_map]
  rfl

/-- What the ends of the channels do not change is the same for every generation after a signal. -/
theorem map_signal {β : Type} {p : CaptureGraph → β} (signal : ∀ graph, p graph.signal = p graph) :
    (d.signal.generations.map fun gen => p gen.graph) = d.generations.map fun gen => p gen.graph := by
  apply List.ext_getElem?
  intro g
  rw [List.getElem?_map, List.getElem?_map, getElem?_signal, Option.map_map]
  congr 1
  funext gen
  dsimp only [Function.comp]
  split
  · exact signal _
  · rfl

theorem apply_droppedGraph {β : Type} {p : CaptureGraph → β} (signal : ∀ graph, p graph.signal = p graph)
    (dropPcm : ∀ graph, p graph.dropPcm = p graph) (g : Nat) (graph : CaptureGraph) :
    p (d.droppedGraph g graph) = p graph := by
  unfold droppedGraph
  split <;> split
  · rw [signal, dropPcm]
  · exact signal graph
  · exact dropPcm graph
  · rfl

theorem map_dropped {β : Type} {p : CaptureGraph → β} (signal : ∀ graph, p graph.signal = p graph)
    (dropPcm : ∀ graph, p graph.dropPcm = p graph) :
    (d.dropPcmTx.dropShutdownTx.generations.map fun gen => p gen.graph) = d.generations.map fun gen => p gen.graph := by
  apply List.ext_getElem?
  intro g
  rw [List.getElem?_map, List.getElem?_map, getElem?_dropped, Option.map_map]
  congr 1
  funext gen
  exact apply_droppedGraph signal dropPcm g gen.graph

theorem map_finished {β : Type} {p : CaptureGraph → β} (signal : ∀ graph, p graph.signal = p graph)
    (dropPcm : ∀ graph, p graph.dropPcm = p graph) :
    (d.finished.generations.map fun gen => p gen.graph) = d.generations.map fun gen => p gen.graph := by
  apply List.ext_getElem?
  intro g
  rw [List.getElem?_map, List.getElem?_map, getElem?_finished, Option.map_map]
  congr 1
  funext gen
  exact apply_droppedGraph signal dropPcm g gen.graph

end Dispatcher

/-- What a new generation has, what the dispatcher's ends of its channels and the end of the runtime keep, and what a
step of its tasks keeps, every generation keeps. -/
theorem Dispatcher.Moves.generations {d t : Dispatcher} {e : DispatcherEvent} (moves : d.Moves e t)
    {P : Generation → Prop} (spawned : P ⟨.spawned, false, none⟩)
    (signal : ∀ gen, P gen → P { gen with graph := gen.graph.signal })
    (dropPcm : ∀ gen, P gen → P { gen with graph := gen.graph.dropPcm })
    (cancel : ∀ gen, P gen → P gen.cancel)
    (task : ∀ gen e graph, P gen → gen.graph.step e = some graph → P (gen.after graph d.now))
    (before : ∀ (g : Nat) (gen : Generation), d.generations[g]? = some gen → P gen) :
    ∀ (g : Nat) (gen : Generation), t.generations[g]? = some gen → P gen := by
  have told (g : Nat) (gen : Generation) (there : d.signal.generations[g]? = some gen) : P gen := by
    rw [Dispatcher.getElem?_signal] at there
    obtain ⟨old, at_g, same⟩ := Option.map_eq_some_iff.1 there
    cases same
    split
    · exact signal old (before g old at_g)
    · exact before g old at_g
  have dropped (g : Nat) (gen : Generation) (here : P gen) : P { gen with graph := d.droppedGraph g gen.graph } := by
    unfold Dispatcher.droppedGraph
    split <;> split
    · exact signal _ (dropPcm gen here)
    · exact signal gen here
    · exact dropPcm gen here
    · exact here
  cases moves with
  | started =>
    intro g gen there
    rw [Dispatcher.generations_start] at there
    rcases Parts.of_added there with old | ⟨-, new⟩
    · rw [Dispatcher.getElem?_dropped] at old
      obtain ⟨gen', at_g, same⟩ := Option.map_eq_some_iff.1 old
      cases same
      exact dropped g gen' (before g gen' at_g)
    · rw [new]
      exact spawned
  | stopped | told | called => exact told
  | @task g e gen graph there alive moved =>
    intro g' gen' there'
    rcases Parts.of_set there there' with ⟨rfl, rfl⟩ | ⟨-, old⟩
    · exact task gen e graph (before g' gen there) moved
    · exact before g' gen' old
  | finished =>
    intro g gen there
    rw [Dispatcher.getElem?_finished] at there
    obtain ⟨gen', at_g, same⟩ := Option.map_eq_some_iff.1 there
    cases same
    exact cancel _ (dropped g gen' (before g gen' at_g))
  | paused | resumed | answered | caller | passed => exact before

/-- The invariant rule on what the steps do, for the runs whose steps all meet a condition. -/
theorem dispatcher_invariant {C : Dispatcher → DispatcherEvent → Prop} {I : Dispatcher → Prop} (start : I .new)
    (pres : ∀ d e t, dispatcherSystem.Reachable d → I d → C d e → d.Moves e t → I t) {d : Dispatcher}
    (reached : dispatcherSystem.ReachableWhere C d) : I d := by
  have known : dispatcherSystem.Reachable d ∧ I d := by
    apply invariant_where (S := dispatcherSystem) (C := C)
      (I := fun d => dispatcherSystem.Reachable d ∧ I d) _ _ reached
    · rintro d rfl
      exact ⟨⟨_, [], rfl, rfl⟩, start⟩
    · rintro d e t ⟨reached, before⟩ meets step
      exact ⟨reached.step step, pres d e t reached before meets (Dispatcher.moves_of_step step)⟩
  exact known.2

/-- The invariant rule for what is true of every generation by itself. -/
theorem generations_invariant {P : Generation → Prop} (spawned : P ⟨.spawned, false, none⟩)
    (signal : ∀ gen, P gen → P { gen with graph := gen.graph.signal })
    (dropPcm : ∀ gen, P gen → P { gen with graph := gen.graph.dropPcm })
    (cancel : ∀ gen, P gen → P gen.cancel)
    (task : ∀ gen e graph now, P gen → gen.graph.step e = some graph → P (gen.after graph now))
    {d : Dispatcher} (reached : dispatcherSystem.Reachable d) {g : Nat} {gen : Generation}
    (there : d.generations[g]? = some gen) : P gen := by
  have all : ∀ (g : Nat) (gen : Generation), d.generations[g]? = some gen → P gen := by
    apply invariant (S := dispatcherSystem)
      (I := fun d => ∀ (g : Nat) (gen : Generation), d.generations[g]? = some gen → P gen) _ _ reached
    · rintro d rfl g gen there
      cases there
    · exact fun d e t before step => (Dispatcher.moves_of_step step).generations spawned signal dropPcm cancel
        (fun gen e graph => task gen e graph d.now) before
  exact all g gen there

/-- Every generation's tasks run as a capture graph does. -/
theorem graph_reachable {d : Dispatcher} (reached : dispatcherSystem.Reachable d) {g : Nat} {gen : Generation}
    (there : d.generations[g]? = some gen) : graphSystem.Reachable gen.graph := by
  apply generations_invariant (P := fun gen => graphSystem.Reachable gen.graph) _ _ _ _ _ reached there
  · exact ⟨_, [], rfl, rfl⟩
  · exact fun gen here => here.step (e := .signal) rfl
  · exact fun gen here => here.step (e := .dropPcm) rfl
  · exact fun gen here => here
  · exact fun gen e graph now here moved => here.step (e := .task e) moved

/-! ## The handles -/

/-- The four handles are of one generation, the latest. -/
structure Dispatcher.Handles (d : Dispatcher) : Prop where
  pcm : d.pcmTx = d.activeTasks
  shutdown : d.shutdownTx = d.activeTasks
  notify : d.shutdownNotify = d.activeTasks
  latest : ∀ g, d.activeTasks = some g → g + 1 = d.generations.length

theorem Dispatcher.Handles.step {d t : Dispatcher} {e : DispatcherEvent} (before : d.Handles) (moves : d.Moves e t) :
    t.Handles := by
  obtain ⟨pcm, shutdown, notify, latest⟩ := before
  have signalled : d.signal.generations.length = d.generations.length := Dispatcher.length_onGraph ..
  cases moves with
  | started =>
    refine ⟨rfl, rfl, rfl, ?_⟩
    rintro g ⟨⟩
    rw [Dispatcher.generations_start, List.length_append, Dispatcher.length_dropped]
    rfl
  | stopped | told | called => exact ⟨pcm, shutdown, notify, fun g stored => (latest g stored).trans signalled.symm⟩
  | task => exact ⟨pcm, shutdown, notify, fun g stored => (latest g stored).trans List.length_set.symm⟩
  | finished => exact ⟨rfl, rfl, rfl, nofun⟩
  | paused | resumed | answered | caller | passed => exact ⟨pcm, shutdown, notify, latest⟩

theorem handles {d : Dispatcher} (reached : dispatcherSystem.Reachable d) : d.Handles := by
  apply invariant (S := dispatcherSystem) (I := Dispatcher.Handles) _ _ reached
  · rintro d rfl
    exact ⟨rfl, rfl, rfl, nofun⟩
  · exact fun d e t before step => before.step (Dispatcher.moves_of_step step)

/-! ## Short runs -/

/-- A command at time 0. -/
def DispatcherEvent.send (cmd : IpcCommand) : DispatcherEvent := .command ⟨0, 0, "0.0", "0.0", "0.0"⟩ cmd "1"

/-- The pipeline task of generation `g` opens and starts its backend. -/
def pipelineStarts (g : Nat) : List DispatcherEvent := [.task g .opened, .task g .started]

/-- The counted tasks of generation `g`, which was told to shut down, end; the stats task is the last. -/
def tasksEnd (g : Nat) : List DispatcherEvent :=
  pipelineStarts g ++ [.task g .pipelineTold, .task g .stopped, .task g (.count .pipeline), .task g .encoderStarts,
    .task g .encoderTold, .task g (.count .encoder), .task g .statsTold, .task g (.count .stats),
    .task g (.notify .stats)]

end StereoMix.Ipc
