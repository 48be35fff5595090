import StereoMix.Lib.EventSystem
import StereoMix.Lib.Channel
import StereoMix.Encode.Session

/-!
# The capture graph

The tasks that `spawn_background_tasks` makes for one StartRecording: the pipeline task, the encoder task with the
task that `start_encoder` spawns in it, and the stats task, with two queues and the shutdown broadcast between them.
A task that waits in a `select!` or a send has no step until what it waits for is there. What the backend's
`next_frame` gives is in the events. The ticks of the stats task and the encoder's statistics are left out: they are
emitted as telemetry, and no task waits for them.
-/

namespace StereoMix.Ipc

open EventSystem StereoMix.Encode

/-- Places in each of the two queues. -/
def QUEUE : Nat := 256

/-! ## The tasks -/

/-- Where a counted task is: in its body, behind it, before `notify_waiters` (as the last one), or done. -/
inductive CountedPc (body : Type) where
  | running (pc : body)
  | left
  | notifying
  | exited
  deriving DecidableEq, Repr

inductive PipelinePc where
  | opening
  | starting
  | select
  | send (frame : PcmFrame)
  | stopping
  deriving DecidableEq, Repr

/-- The encoder task of the dispatcher: before it called `start_encoder`, or in its loop. -/
inductive EncoderTaskPc where
  | starting
  | select
  deriving DecidableEq, Repr

/-- The tasks that `active` counts. -/
inductive CountedTask where
  | pipeline
  | encoder
  | stats
  deriving DecidableEq, Repr

/-- The tasks of one recording. `signalled`: a () was sent on the shutdown channel, or its sender is gone. `pcmTx`: the
dispatcher has its sender of the pcm queue. `inner` is the task that `start_encoder` spawned. `counted` is the record
of the frames that the pipeline task added to `samples_captured`. -/
structure CaptureGraph where
  signalled : Bool
  pcmTx : Bool
  pcm : Channel PcmFrame QUEUE
  packets : Channel AudioPacket QUEUE
  pipeline : CountedPc PipelinePc
  encoder : CountedPc EncoderTaskPc
  inner : Option EncoderPc
  stats : CountedPc Unit
  active : Nat
  counted : Nat
  deriving DecidableEq, Repr

/-- The tasks as they are spawned. -/
def CaptureGraph.spawned : CaptureGraph where
  signalled := false
  pcmTx := true
  pcm := .empty
  packets := .empty
  pipeline := .running .opening
  encoder := .running .starting
  inner := none
  stats := .running ()
  active := 3
  counted := 0

/-- What a frame adds to `samples_captured`. -/
def framesCounted (f : PcmFrame) : Nat :=
  if f.format.bitDepth = 16 ∧ 2 ≤ f.data.length then f.frameCount.toNat else 0

/-! ## Steps -/

/-- The steps of the tasks. Those of the pipeline task from `opened` to `pipelineSends` and of the encoder task's two
loops come first, then those of any counted task behind its body. -/
inductive TaskEvent where
  | opened
  | started
  | frame (f : PcmFrame)
  | ended
  | failed
  | pipelineTold
  | stopped
  | pipelineSends
  | encoderStarts
  | packet
  | encoderTold
  | innerLook
  | innerRecv
  | innerSend
  | statsTold
  | count (task : CountedTask)
  | notify (task : CountedTask)
  deriving DecidableEq, Repr

/-- The task is in its body. -/
def CountedPc.isRunning {body : Type} : CountedPc body → Bool
  | .running _ => true
  | _ => false

/-- `fetch_sub(1)` on `active`. -/
def CountedPc.count {body : Type} (active : Nat) : CountedPc body → Option (CountedPc body)
  | .left => some (if active = 1 then .notifying else .exited)
  | _ => none

def CountedPc.notify {body : Type} : CountedPc body → Option (CountedPc body)
  | .notifying => some .exited
  | _ => none

/-- No sender of the pcm queue is left. -/
def CaptureGraph.pcmClosed (g : CaptureGraph) : Bool := !g.pcmTx && g.pipeline = .exited

def CaptureGraph.step (g : CaptureGraph) : TaskEvent → Option CaptureGraph
  | .opened => if g.pipeline = .running .opening then some { g with pipeline := .running .starting } else none
  | .started => if g.pipeline = .running .starting then some { g with pipeline := .running .select } else none
  | .frame f =>
    if g.pipeline = .running .select then
      some { g with pipeline := .running (.send f), counted := g.counted + framesCounted f }
    else none
  | .ended | .failed => if g.pipeline = .running .select then some { g with pipeline := .left } else none
  | .pipelineTold =>
    if g.pipeline = .running .select ∧ g.signalled then some { g with pipeline := .running .stopping } else none
  | .stopped => if g.pipeline = .running .stopping then some { g with pipeline := .left } else none
  | .pipelineSends =>
    match g.pipeline with
    | .running (.send f) =>
      -- The receiver is gone with the task that `start_encoder` spawned; the frame is lost then.
      if g.inner = some .exited then some { g with pipeline := .running .select }
      else (g.pcm.send f).map fun pcm => { g with pcm, pipeline := .running .select }
    | _ => none
  | .encoderStarts =>
    if g.encoder = .running .starting then some { g with encoder := .running .select, inner := some .look } else none
  | .packet =>
    if g.encoder = .running .select then g.packets.recv.map fun (_, packets) => { g with packets } else none
  | .encoderTold =>
    if g.encoder = .running .select ∧ g.signalled then some { g with encoder := .left } else none
  | .innerLook =>
    if g.inner = some .look then some { g with inner := some (if g.signalled then .exited else .recv) } else none
  | .innerRecv =>
    if g.inner = some .recv then
      match g.pcm.recv with
      | some (f, pcm) => some { g with pcm, inner := some (.send (.ofFrame f)) }
      -- It waits, until the shutdown wakes it or the queue is closed.
      | none => if g.signalled || g.pcmClosed then some { g with inner := some .exited } else none
    else none
  | .innerSend =>
    match g.inner with
    | some (.send pkt) =>
      if g.encoder.isRunning then (g.packets.send pkt).map fun packets => { g with packets, inner := some .look }
      else some { g with inner := some .exited }
    | _ => none
  | .statsTold => if g.stats = .running () ∧ g.signalled then some { g with stats := .left } else none
  | .count .pipeline =>
    (g.pipeline.count g.active).map fun pipeline => { g with pipeline, active := g.active - 1 }
  | .count .encoder => (g.encoder.count g.active).map fun encoder => { g with encoder, active := g.active - 1 }
  | .count .stats => (g.stats.count g.active).map fun stats => { g with stats, active := g.active - 1 }
  | .notify .pipeline => g.pipeline.notify.map fun pipeline => { g with pipeline }
  | .notify .encoder => g.encoder.notify.map fun encoder => { g with encoder }
  | .notify .stats => g.stats.notify.map fun stats => { g with stats }

/-- What can happen to a graph: the dispatcher sends on the shutdown channel or drops its sender, or drops its sender
of the pcm queue, or a task takes a step. -/
inductive GraphEvent where
  | signal
  | dropPcm
  | task (e : TaskEvent)
  deriving DecidableEq, Repr

def CaptureGraph.signal (g : CaptureGraph) : CaptureGraph := { g with signalled := true }
def CaptureGraph.dropPcm (g : CaptureGraph) : CaptureGraph := { g with pcmTx := false }

def graphStep (g : CaptureGraph) : GraphEvent → Option CaptureGraph
  | .signal => some g.signal
  | .dropPcm => some g.dropPcm
  | .task e => g.step e

def graphSystem : EventSystem CaptureGraph GraphEvent where
  init g := g = .spawned
  step := graphStep

/-- A step that a task takes without a frame, an end or an error of the device's. -/
def GraphEvent.own : GraphEvent → Prop
  | .signal | .dropPcm | .task (.frame _) | .task .ended | .task .failed => False
  | .task _ => True

/-! ## What one step does -/

section

variable {body : Type}

/-- One more step of a counted task behind its body: its counting, or its notification. -/
theorem CountedPc.count_eq_some {active : Nat} {pc pc' : CountedPc body} :
    pc.count active = some pc' ↔ pc = .left ∧ pc' = if active = 1 then .notifying else .exited := by
  cases pc <;> simp [CountedPc.count, eq_comm]

theorem CountedPc.notify_eq_some {pc pc' : CountedPc body} :
    pc.notify = some pc' ↔ pc = .notifying ∧ pc' = .exited := by
  cases pc <;> simp [CountedPc.notify, eq_comm]

end

/-- The steps of the tasks, with what they need and what they leave. -/
inductive CaptureGraph.Moves (g : CaptureGraph) : TaskEvent → CaptureGraph → Prop where
  | opened (at_opening : g.pipeline = .running .opening) : g.Moves .opened { g with pipeline := .running .starting }
  | started (at_starting : g.pipeline = .running .starting) : g.Moves .started { g with pipeline := .running .select }
  | frame (f : PcmFrame) (at_select : g.pipeline = .running .select) : g.Moves (.frame f)
      { g with pipeline := .running (.send f), counted := g.counted + framesCounted f }
  | ended (at_select : g.pipeline = .running .select) : g.Moves .ended { g with pipeline := .left }
  | failed (at_select : g.pipeline = .running .select) : g.Moves .failed { g with pipeline := .left }
  | pipelineTold (at_select : g.pipeline = .running .select) (signalled : g.signalled = true) :
      g.Moves .pipelineTold { g with pipeline := .running .stopping }
  | stopped (at_stopping : g.pipeline = .running .stopping) : g.Moves .stopped { g with pipeline := .left }
  | pipelineRefused {f : PcmFrame} (at_send : g.pipeline = .running (.send f)) (gone : g.inner = some .exited) :
      g.Moves .pipelineSends { g with pipeline := .running .select }
  | pipelineSends {f : PcmFrame} {pcm : Channel PcmFrame QUEUE} (at_send : g.pipeline = .running (.send f))
      (sends : g.pcm.Sends f pcm) : g.Moves .pipelineSends { g with pcm, pipeline := .running .select }
  | encoderStarts (at_starting : g.encoder = .running .starting) :
      g.Moves .encoderStarts { g with encoder := .running .select, inner := some .look }
  | packet {pkt : AudioPacket} {packets : Channel AudioPacket QUEUE} (at_select : g.encoder = .running .select)
      (receives : g.packets.Receives pkt packets) : g.Moves .packet { g with packets }
  | encoderTold (at_select : g.encoder = .running .select) (signalled : g.signalled = true) :
      g.Moves .encoderTold { g with encoder := .left }
  | innerLooks (at_look : g.inner = some .look) :
      g.Moves .innerLook { g with inner := some (if g.signalled then .exited else .recv) }
  | innerTakes {f : PcmFrame} {pcm : Channel PcmFrame QUEUE} (at_recv : g.inner = some .recv)
      (receives : g.pcm.Receives f pcm) : g.Moves .innerRecv { g with pcm, inner := some (.send (.ofFrame f)) }
  | innerWakes (at_recv : g.inner = some .recv) (empty : g.pcm.queue = [])
      (woken : g.signalled = true ∨ g.pcmClosed = true) : g.Moves .innerRecv { g with inner := some .exited }
  | innerSends {pkt : AudioPacket} {packets : Channel AudioPacket QUEUE} (at_send : g.inner = some (.send pkt))
      (sends : g.packets.Sends pkt packets) : g.Moves .innerSend { g with packets, inner := some .look }
  | innerRefused {pkt : AudioPacket} (at_send : g.inner = some (.send pkt)) (gone : g.encoder.isRunning = false) :
      g.Moves .innerSend { g with inner := some .exited }
  | statsTold (at_loop : g.stats = .running ()) (signalled : g.signalled = true) :
      g.Moves .statsTold { g with stats := .left }
  | pipelineCounts (behind : g.pipeline = .left) : g.Moves (.count .pipeline)
      { g with pipeline := if g.active = 1 then .notifying else .exited, active := g.active - 1 }
  | encoderCounts (behind : g.encoder = .left) : g.Moves (.count .encoder)
      { g with encoder := if g.active = 1 then .notifying else .exited, active := g.active - 1 }
  | statsCounts (behind : g.stats = .left) : g.Moves (.count .stats)
      { g with stats := if g.active = 1 then .notifying else .exited, active := g.active - 1 }
  | pipelineNotifies (last : g.pipeline = .notifying) : g.Moves (.notify .pipeline) { g with pipeline := .exited }
  | encoderNotifies (last : g.encoder = .notifying) : g.Moves (.notify .encoder) { g with encoder := .exited }
  | statsNotifies (last : g.stats = .notifying) : g.Moves (.notify .stats) { g with stats := .exited }

theorem CaptureGraph.moves_of_step {g g' : CaptureGraph} {e : TaskEvent} (step : g.step e = some g') :
    g.Moves e g' := by
  cases e with
  | opened =>
    obtain ⟨at_opening, step⟩ := Option.ite_none_right_eq_some.1 step
    cases step
    exact .opened at_opening
  | started =>
    obtain ⟨at_starting, step⟩ := Option.ite_none_right_eq_some.1 step
    cases step
    exact .started at_starting
  | frame f =>
    obtain ⟨at_select, step⟩ := Option.ite_none_right_eq_some.1 step
    cases step
    exact .frame f at_select
  | ended =>
    obtain ⟨at_select, step⟩ := Option.ite_none_right_eq_some.1 step
    cases step
    exact .ended at_select
  | failed =>
    obtain ⟨at_select, step⟩ := Option.ite_none_right_eq_some.1 step
    cases step
    exact .failed at_select
  | pipelineTold =>
    obtain ⟨⟨at_select, signalled⟩, step⟩ := Option.ite_none_right_eq_some.1 step
    cases step
    exact .pipelineTold at_select signalled
  | stopped =>
    obtain ⟨at_stopping, step⟩ := Option.ite_none_right_eq_some.1 step
    cases step
    exact .stopped at_stopping
  | pipelineSends =>
    unfold CaptureGraph.step at step
    dsimp only at step
    split at step
    · rename_i f at_send
      split at step
      · rename_i gone
        cases step
        exact .pipelineRefused at_send gone
      · obtain ⟨pcm, send, same⟩ := Option.map_eq_some_iff.1 step
        cases same
        exact .pipelineSends at_send (Channel.sends send)
    · cases step
  | encoderStarts =>
    obtain ⟨at_starting, step⟩ := Option.ite_none_right_eq_some.1 step
    cases step
    exact .encoderStarts at_starting
  | packet =>
    obtain ⟨at_select, step⟩ := Option.ite_none_right_eq_some.1 step
    obtain ⟨⟨pkt, packets⟩, recv, same⟩ := Option.map_eq_some_iff.1 step
    cases same
    exact .packet at_select (Channel.receives recv)
  | encoderTold =>
    obtain ⟨⟨at_select, signalled⟩, step⟩ := Option.ite_none_right_eq_some.1 step
    cases step
    exact .encoderTold at_select signalled
  | innerLook =>
    obtain ⟨at_look, step⟩ := Option.ite_none_right_eq_some.1 step
    cases step
    exact .innerLooks at_look
  | innerRecv =>
    obtain ⟨at_recv, step⟩ := Option.ite_none_right_eq_some.1 step
    split at step
    · rename_i f pcm recv
      cases step
      exact .innerTakes at_recv (Channel.receives recv)
    · rename_i nothing
      obtain ⟨woken, step⟩ := Option.ite_none_right_eq_some.1 step
      cases step
      exact .innerWakes at_recv (Channel.recv_eq_none.1 nothing) (by simpa using woken)
  | innerSend =>
    unfold CaptureGraph.step at step
    dsimp only at step
    split at step
    · rename_i pkt at_send
      split at step
      · obtain ⟨packets, send, same⟩ := Option.map_eq_some_iff.1 step
        cases same
        exact .innerSends at_send (Channel.sends send)
      · rename_i gone
        cases step
        exact .innerRefused at_send (Bool.not_eq_true _ ▸ gone)
    · cases step
  | statsTold =>
    obtain ⟨⟨at_loop, signalled⟩, step⟩ := Option.ite_none_right_eq_some.1 step
    cases step
    exact .statsTold at_loop signalled
  | count task =>
    cases task with
    | pipeline =>
      obtain ⟨pc, counted, same⟩ := Option.map_eq_some_iff.1 step
      obtain ⟨behind, pc_eq⟩ := CountedPc.count_eq_some.1 counted
      cases pc_eq
      cases same
      exact .pipelineCounts behind
    | encoder =>
      obtain ⟨pc, counted, same⟩ := Option.map_eq_some_iff.1 step
      obtain ⟨behind, pc_eq⟩ := CountedPc.count_eq_some.1 counted
      cases pc_eq
      cases same
      exact .encoderCounts behind
    | stats =>
      obtain ⟨pc, counted, same⟩ := Option.map_eq_some_iff.1 step
      obtain ⟨behind, pc_eq⟩ := CountedPc.count_eq_some.1 counted
      cases pc_eq
      cases same
      exact .statsCounts behind
  | notify task =>
    cases task with
    | pipeline =>
      obtain ⟨pc, notified, same⟩ := Option.map_eq_some_iff.1 step
      obtain ⟨last, pc_eq⟩ := CountedPc.notify_eq_some.1 notified
      cases pc_eq
      cases same
      exact .pipelineNotifies last
    | encoder =>
      obtain ⟨pc, notified, same⟩ := Option.map_eq_some_iff.1 step
      obtain ⟨last, pc_eq⟩ := CountedPc.notify_eq_some.1 notified
      cases pc_eq
      cases same
      exact .encoderNotifies last
    | stats =>
      obtain ⟨pc, notified, same⟩ := Option.map_eq_some_iff.1 step
      obtain ⟨last, pc_eq⟩ := CountedPc.notify_eq_some.1 notified
      cases pc_eq
      cases same
      exact .statsNotifies last

/-! ## The count of the tasks -/

/-- What a task contributes to `active`. -/
def CountedPc.uncounted {body : Type} : CountedPc body → Nat
  | .running _ | .left => 1
  | .notifying | .exited => 0

theorem CountedPc.uncounted_left {body : Type} : (CountedPc.left : CountedPc body).uncounted = 1 := rfl

theorem CountedPc.uncounted_counted {body : Type} {active : Nat} :
    (if active = 1 then (.notifying : CountedPc body) else .exited).uncounted = 0 := by
  split <;> rfl

/-- `active` is the number of tasks that have not counted themselves done, and the encoder task has spawned its task
when it is in its loop. -/
structure CaptureGraph.Counts (g : CaptureGraph) : Prop where
  active : g.active = g.pipeline.uncounted + g.encoder.uncounted + g.stats.uncounted
  inner : g.inner = none ↔ g.encoder = .running .starting

theorem CaptureGraph.Counts.task {g g' : CaptureGraph} {e : TaskEvent} (before : g.Counts) (moves : g.Moves e g') :
    g'.Counts := by
  obtain ⟨active, inner⟩ := before
  cases moves with
  | opened there | started there | frame f there | ended there | failed there | pipelineTold there | stopped there
  | pipelineRefused there | pipelineSends there =>
    refine ⟨?_, inner⟩
    rw [active, there]
    rfl
  | encoderStarts there =>
    refine ⟨?_, by simp⟩
    rw [active, there]
    rfl
  | packet => exact ⟨active, inner⟩
  | encoderTold there =>
    refine ⟨?_, ?_⟩
    · rw [active, there]
      rfl
    · rw [inner, there]
      simp
  | innerLooks there | innerTakes there | innerWakes there | innerSends there | innerRefused there =>
    rw [there] at inner
    exact ⟨active, by simpa using inner⟩
  | statsTold there =>
    refine ⟨?_, inner⟩
    rw [active, there]
    rfl
  | pipelineCounts there | statsCounts there =>
    refine ⟨?_, inner⟩
    rw [there, CountedPc.uncounted_left] at active
    simp only [CountedPc.uncounted_counted]
    omega
  | encoderCounts there =>
    refine ⟨?_, ?_⟩
    · rw [there, CountedPc.uncounted_left] at active
      simp only [CountedPc.uncounted_counted]
      omega
    · rw [inner, there]
      split <;> simp
  | pipelineNotifies there | statsNotifies there =>
    refine ⟨?_, inner⟩
    rw [active, there]
    rfl
  | encoderNotifies there =>
    refine ⟨?_, ?_⟩
    · rw [active, there]
      rfl
    · rw [inner, there]
      simp

theorem CaptureGraph.Counts.step {g g' : CaptureGraph} {e : GraphEvent} (before : g.Counts)
    (step : graphStep g e = some g') : g'.Counts := by
  cases e with
  | signal =>
    cases step
    exact ⟨before.active, before.inner⟩
  | dropPcm =>
    cases step
    exact ⟨before.active, before.inner⟩
  | task e => exact before.task (CaptureGraph.moves_of_step step)

theorem counts_spawned : CaptureGraph.spawned.Counts := ⟨rfl, by decide⟩

theorem counts {g : CaptureGraph} (reached : graphSystem.Reachable g) : g.Counts := by
  apply invariant (S := graphSystem) (I := CaptureGraph.Counts) _ _ reached
  · rintro g rfl
    exact counts_spawned
  · exact fun g e g' before step => before.step step

/-! ## Ending by own steps -/

open CaptureGraph

/-- Every counted task has left. -/
def CaptureGraph.AllExited (g : CaptureGraph) : Prop :=
  g.pipeline = .exited ∧ g.encoder = .exited ∧ g.stats = .exited

theorem leads_step {g g' : CaptureGraph} (e : TaskEvent) (own : GraphEvent.own (.task e))
    (step : g.step e = some g') : graphSystem.Leads GraphEvent.own g g' := Leads.single own step

/-- The encoder task leaves its loop once it sees the shutdown. -/
theorem encoder_leaves {g : CaptureGraph} (signalled : g.signalled = true) (counts : g.Counts) :
    ∃ g', graphSystem.Leads GraphEvent.own g g' ∧ g'.signalled = true ∧ g'.inner ≠ none ∧
      g'.encoder.isRunning = false := by
  have spawned := mt counts.inner.1
  cases at_pc : g.encoder with
  | running pc =>
    cases pc with
    | starting =>
      have first : g.step .encoderStarts = some { g with encoder := .running .select, inner := some .look } :=
        if_pos at_pc
      have starts := leads_step .encoderStarts trivial first
      exact ⟨_, starts.trans (leads_step .encoderTold trivial (if_pos ⟨rfl, signalled⟩)), signalled,
        Option.some_ne_none _, rfl⟩
    | select =>
      have told : g.step .encoderTold = some { g with encoder := .left } := if_pos ⟨at_pc, signalled⟩
      exact ⟨_, leads_step .encoderTold trivial told, signalled, spawned (by simp [at_pc]), rfl⟩
  | left | notifying | exited =>
    exact ⟨g, .refl, signalled, spawned (by simp [at_pc]), by rw [at_pc]; rfl⟩

/-- Then the task it spawned ends: its next send is refused, and it sees the shutdown before a receive. -/
theorem inner_exits {g : CaptureGraph} (signalled : g.signalled = true) (spawned : g.inner ≠ none)
    (left : g.encoder.isRunning = false) :
    ∃ g', graphSystem.Leads GraphEvent.own g g' ∧ g'.signalled = true ∧ g'.inner = some .exited ∧
      g'.encoder = g.encoder := by
  have refused {g : CaptureGraph} {pkt : AudioPacket} (left : g.encoder.isRunning = false)
      (at_send : g.inner = some (.send pkt)) : g.step .innerSend = some { g with inner := some .exited } := by
    simp [CaptureGraph.step, at_send, left]
  cases at_pc : g.inner with
  | none => exact absurd at_pc spawned
  | some pc =>
    cases pc with
    | look =>
      have sees : g.step .innerLook = some { g with inner := some .exited } := by
        simp [CaptureGraph.step, at_pc, signalled]
      exact ⟨_, leads_step .innerLook trivial sees, signalled, rfl, rfl⟩
    | recv =>
      cases recv : g.pcm.recv with
      | none =>
        have woken : g.step .innerRecv = some { g with inner := some .exited } := by
          simp [CaptureGraph.step, at_pc, recv, signalled]
        exact ⟨_, leads_step .innerRecv trivial woken, signalled, rfl, rfl⟩
      | some taken =>
        obtain ⟨f, pcm⟩ := taken
        have takes : g.step .innerRecv = some { g with pcm, inner := some (.send (.ofFrame f)) } := by
          simp [CaptureGraph.step, at_pc, recv]
        have first := leads_step .innerRecv trivial takes
        exact ⟨_, first.trans (leads_step .innerSend trivial (refused left rfl)), signalled, rfl, rfl⟩
    | send pkt => exact ⟨_, leads_step .innerSend trivial (refused left at_pc), signalled, rfl, rfl⟩
    | exited => exact ⟨g, .refl, signalled, at_pc, rfl⟩

/-- Then no send of the pipeline task waits, and it leaves through its loop. -/
theorem pipeline_leaves {g : CaptureGraph} (signalled : g.signalled = true) (gone : g.inner = some .exited) :
    ∃ g', graphSystem.Leads GraphEvent.own g g' ∧ g'.signalled = true ∧ g'.encoder = g.encoder ∧
      g'.pipeline.isRunning = false := by
  have stops {g : CaptureGraph} (at_stopping : g.pipeline = .running .stopping) :
      graphSystem.Leads GraphEvent.own g { g with pipeline := .left } :=
    leads_step .stopped trivial (if_pos at_stopping)
  have told {g : CaptureGraph} (signalled : g.signalled = true) (at_select : g.pipeline = .running .select) :
      graphSystem.Leads GraphEvent.own g { g with pipeline := .left } :=
    (leads_step .pipelineTold trivial (if_pos ⟨at_select, signalled⟩)).trans (stops rfl)
  have starts {g : CaptureGraph} (signalled : g.signalled = true) (at_starting : g.pipeline = .running .starting) :
      graphSystem.Leads GraphEvent.own g { g with pipeline := .left } :=
    (leads_step .started trivial (if_pos at_starting)).trans (told signalled rfl)
  have ends (leads : graphSystem.Leads GraphEvent.own g { g with pipeline := .left }) :
      ∃ g', graphSystem.Leads GraphEvent.own g g' ∧ g'.signalled = true ∧ g'.encoder = g.encoder ∧
        g'.pipeline.isRunning = false := ⟨_, leads, signalled, rfl, rfl⟩
  cases at_pc : g.pipeline with
  | running pc =>
    cases pc with
    | opening => exact ends ((leads_step .opened trivial (if_pos at_pc)).trans (starts signalled rfl))
    | starting => exact ends (starts signalled at_pc)
    | select => exact ends (told signalled at_pc)
    | send f =>
      have refused : g.step .pipelineSends = some { g with pipeline := .running .select } := by
        simp [CaptureGraph.step, at_pc, gone]
      exact ends ((leads_step .pipelineSends trivial refused).trans (told signalled rfl))
    | stopping => exact ends (stops at_pc)
  | left | notifying | exited => exact ⟨g, .refl, signalled, rfl, by rw [at_pc]; rfl⟩

theorem stats_leaves {g : CaptureGraph} (signalled : g.signalled = true) :
    ∃ g', graphSystem.Leads GraphEvent.own g g' ∧ g'.encoder = g.encoder ∧ g'.pipeline = g.pipeline ∧
      g'.stats.isRunning = false := by
  cases at_pc : g.stats with
  | running pc =>
    exact ⟨_, leads_step .statsTold trivial (if_pos ⟨at_pc, signalled⟩), rfl, rfl, rfl⟩
  | left | notifying | exited => exact ⟨g, .refl, rfl, rfl, by rw [at_pc]; rfl⟩

/-- Behind its body a task counts itself done, and notifies if it is the last. -/
theorem task_exits {body : Type} (task : CountedTask) (get : CaptureGraph → CountedPc body)
    (put : CaptureGraph → CountedPc body → CaptureGraph)
    (count : ∀ g, g.step (.count task) =
      ((get g).count g.active).map fun pc => { put g pc with active := g.active - 1 })
    (notify : ∀ g, g.step (.notify task) = (get g).notify.map (put g))
    (put_get : ∀ g, { put g (get g) with active := g.active } = g)
    (get_put : ∀ (g : CaptureGraph) (pc : CountedPc body) (n : Nat), get { put g pc with active := n } = pc)
    (put_put : ∀ (g : CaptureGraph) (pc pc' : CountedPc body) (n : Nat),
      put { put g pc with active := n } pc' = { put g pc' with active := n })
    {g : CaptureGraph} (behind : (get g).isRunning = false) :
    ∃ n, graphSystem.Leads GraphEvent.own g { put g .exited with active := n } := by
  have notifies {g : CaptureGraph} (last : get g = .notifying) :
      graphSystem.Leads GraphEvent.own g (put g .exited) := by
    apply leads_step (.notify task) trivial
    rw [notify, last]
    rfl
  cases at_pc : get g with
  | running pc =>
    rw [at_pc] at behind
    cases behind
  | left =>
    have counts : graphSystem.Leads GraphEvent.own g
        { put g (if g.active = 1 then .notifying else .exited) with active := g.active - 1 } := by
      apply leads_step (.count task) trivial
      rw [count, at_pc]
      rfl
    refine ⟨g.active - 1, ?_⟩
    by_cases last : g.active = 1
    · rw [if_pos last] at counts
      have told := notifies (get_put g .notifying (g.active - 1))
      rw [put_put] at told
      exact counts.trans told
    · rw [if_neg last] at counts
      exact counts
  | notifying =>
    refine ⟨g.active, ?_⟩
    have told := notifies at_pc
    have same : { put g .exited with active := g.active } = put g .exited := by
      have twice := put_put g (get g) .exited g.active
      rw [put_get] at twice
      exact twice.symm
    rw [same]
    exact told
  | exited =>
    refine ⟨g.active, ?_⟩
    rw [← at_pc, put_get]
    exact .refl

/-- Once the shutdown is signalled, the tasks' own steps lead to where all counted tasks are done. -/
theorem all_exit {g : CaptureGraph} (reached : graphSystem.Reachable g) (signalled : g.signalled = true) :
    ∃ g', graphSystem.Leads GraphEvent.own g g' ∧ g'.AllExited ∧ g'.active = 0 := by
  obtain ⟨g₁, to_g₁, signalled, spawned, left⟩ := encoder_leaves signalled (counts reached)
  obtain ⟨g₂, to_g₂, signalled, gone, same⟩ := inner_exits signalled spawned left
  obtain ⟨g₃, to_g₃, signalled, same', pipeline_left⟩ := pipeline_leaves signalled gone
  obtain ⟨g₄, to_g₄, same_encoder, same_pipeline, stats_left⟩ := stats_leaves signalled
  rw [← same, ← same', ← same_encoder] at left
  rw [← same_pipeline] at pipeline_left
  obtain ⟨m, to_m⟩ := task_exits .pipeline CaptureGraph.pipeline (fun g pipeline => { g with pipeline }) (fun _ => rfl)
    (fun _ => rfl) (fun _ => rfl) (fun _ _ _ => rfl) (fun _ _ _ _ => rfl) pipeline_left
  obtain ⟨n, to_n⟩ := task_exits .encoder CaptureGraph.encoder (fun g encoder => { g with encoder }) (fun _ => rfl)
    (fun _ => rfl) (fun _ => rfl) (fun _ _ _ => rfl) (fun _ _ _ _ => rfl)
    (g := { g₄ with pipeline := .exited, active := m }) left
  obtain ⟨k, to_k⟩ := task_exits .stats CaptureGraph.stats (fun g stats => { g with stats }) (fun _ => rfl)
    (fun _ => rfl) (fun _ => rfl) (fun _ _ _ => rfl) (fun _ _ _ _ => rfl)
    (g := { g₄ with pipeline := .exited, encoder := .exited, active := n }) stats_left
  have leads := ((((to_g₁.trans to_g₂).trans to_g₃).trans to_g₄).trans to_m).trans (to_n.trans to_k)
  exact ⟨_, leads, ⟨rfl, rfl, rfl⟩, (counts (leads.reachable reached)).active⟩

/-! ## No deadlock -/

/-- A task waits in a send. -/
def CaptureGraph.PipelineBlocked (g : CaptureGraph) : Prop :=
  (∃ f, g.pipeline = .running (.send f)) ∧ g.step .pipelineSends = none

def CaptureGraph.InnerBlocked (g : CaptureGraph) : Prop :=
  (∃ pkt, g.inner = some (.send pkt)) ∧ g.step .innerSend = none

/-- With the shutdown signalled and tasks left to count, some task has a step, and steps of the tasks alone lead to
where all counted tasks are done; before, the encoder task can receive a packet if both sends wait. -/
structure CaptureGraph.DeadlockFree (g : CaptureGraph) : Prop where
  enabled : g.signalled = true → 0 < g.active → ∃ e, GraphEvent.own e ∧ (graphStep g e).isSome
  ends : g.signalled = true → 0 < g.active → ∃ es g', (∀ e ∈ es, GraphEvent.own e) ∧ graphSystem.run g es = some g' ∧
    g'.AllExited ∧ g'.active = 0
  flows : g.signalled = false → ¬ (g.PipelineBlocked ∧ g.InnerBlocked ∧ g.step .packet = none)

/-- A send that waits finds the queue full and its receiver in its loop. -/
theorem receives_of_innerBlocked {g : CaptureGraph} (counts : g.Counts) (blocked : g.InnerBlocked) :
    g.step .packet ≠ none := by
  obtain ⟨⟨pkt, at_send⟩, waits⟩ := blocked
  simp only [CaptureGraph.step, at_send] at waits
  have running : g.encoder.isRunning = true := by
    by_contra gone
    rw [if_neg gone] at waits
    cases waits
  rw [if_pos running, Option.map_eq_none_iff] at waits
  have at_select : g.encoder = .running .select := by
    have spawned : g.encoder ≠ .running .starting := by
      intro at_starting
      rw [counts.inner.2 at_starting] at at_send
      cases at_send
    cases at_pc : g.encoder with
    | running pc =>
      cases pc with
      | starting => exact absurd at_pc spawned
      | select => rfl
    | left | notifying | exited =>
      rw [at_pc] at running
      cases running
  have full : g.packets.queue ≠ [] := by
    intro empty
    unfold Channel.send at waits
    rw [dif_pos (by rw [empty]; decide)] at waits
    cases waits
  intro nothing
  simp only [CaptureGraph.step, at_select, if_true, Option.map_eq_none_iff] at nothing
  exact full (Channel.recv_eq_none.1 nothing)

/-- **The capture graph cannot deadlock.** -/
theorem graph_deadlock_free {g : CaptureGraph} (reached : graphSystem.Reachable g) : g.DeadlockFree where
  enabled := by
    intro signalled active
    obtain ⟨g', leads, -, none_left⟩ := all_exit reached signalled
    apply leads.enabled
    rintro rfl
    omega
  ends := by
    intro signalled _
    obtain ⟨g', ⟨es, own, run⟩, exited, none_left⟩ := all_exit reached signalled
    exact ⟨es, g', own, run, exited, none_left⟩
  flows := fun _ blocked => receives_of_innerBlocked (counts reached) blocked.2.1 blocked.2.2

/-- A frame of one stereo sample. -/
def oneFrame : PcmFrame := ⟨[0, 0, 0, 0], ⟨48000, 2, 16⟩, 0, 0, 1⟩

/-- The tasks begin, a frame arrives at the task that repackages it, and another is in a send when the shutdown is
signalled. -/
def signalledInSend : List GraphEvent :=
  [.task .opened, .task .started, .task .encoderStarts, .task .innerLook, .task (.frame oneFrame),
    .task .pipelineSends, .task .innerRecv, .task (.frame oneFrame), .signal]

theorem graph_deadlock_free_in_send : ∃ g, graphSystem.run .spawned signalledInSend = some g ∧
    (g.signalled = true ∧ g.active = 3 ∧ g.counted = 2) ∧ g.DeadlockFree :=
  ⟨_, rfl, ⟨rfl, rfl, rfl⟩, graph_deadlock_free ⟨_, signalledInSend, rfl, rfl⟩⟩

end StereoMix.Ipc
