import StereoMix.Ipc.Dispatcher

/-!
# The frames of a recording on their way

Between the device and the loop that reads the packets a frame passes two queues and two tasks. In every run, what the
loop has read is the first of what the pipeline task took, in its order; and until the recording is told to shut down
all the rest is still under way, so it is never more than the queues and the two tasks can hold.
-/

namespace StereoMix.Ipc

open EventSystem StereoMix.Encode

/-- The frames that the pipeline task of generation `g` takes from its device in a run. -/
def framesTaken (g : Nat) (es : List DispatcherEvent) : List PcmFrame :=
  es.filterMap fun
    | .task h (.frame f) => if h = g then some f else none
    | _ => none

/-- What a pipeline task has in hand. -/
def CountedPc.inHand : CountedPc PipelinePc → List PcmFrame
  | .running (.send f) => [f]
  | _ => []

/-- What the task that `start_encoder` spawned has in hand. -/
def innerInHand : Option EncoderPc → List AudioPacket
  | some (.send pkt) => [pkt]
  | _ => []

/-- What is between the device and the loop that reads the packets, the oldest first. -/
def CaptureGraph.underWay (g : CaptureGraph) : List AudioPacket :=
  g.packets.queue ++ innerInHand g.inner ++ (g.pcm.queue ++ g.pipeline.inHand).map .ofFrame

theorem framesTaken_append (g : Nat) (es fs : List DispatcherEvent) :
    framesTaken g (es ++ fs) = framesTaken g es ++ framesTaken g fs := List.filterMap_append ..

theorem length_inHand_le (pc : CountedPc PipelinePc) : pc.inHand.length ≤ 1 := by
  unfold CountedPc.inHand
  split <;> simp

theorem length_innerInHand_le (inner : Option EncoderPc) : (innerInHand inner).length ≤ 1 := by
  unfold innerInHand
  split <;> simp

/-! ## One recording -/

/-- Each queue was sent all that its sender took. -/
structure CaptureGraph.Whole (taken : List PcmFrame) (g : CaptureGraph) : Prop where
  pcm : g.pcm.sent ++ g.pipeline.inHand = taken
  packets : g.packets.sent ++ innerInHand g.inner = g.pcm.received.map .ofFrame

/-- What was sent into each queue is the first of what its sender took, and all of it until the receiver of the frames
is gone, which before a shutdown waits for the end of the pipeline task. -/
structure CaptureGraph.Keeps (taken : List PcmFrame) (g : CaptureGraph) : Prop where
  pcm : g.pcm.sent <+: taken
  packets : g.packets.sent <+: g.pcm.received.map .ofFrame
  whole : g.signalled = false ∨ g.inner ≠ some .exited → g.Whole taken
  ended : g.signalled = false → g.inner = some .exited → g.pipeline.isRunning = false
  reads : g.signalled = false → g.encoder.isRunning = true

namespace CaptureGraph.Keeps

variable {taken : List PcmFrame} {g g' : CaptureGraph}

theorem spawned : CaptureGraph.spawned.Keeps [] :=
  ⟨List.prefix_rfl, List.prefix_rfl, fun _ => ⟨rfl, rfl⟩, nofun, fun _ => rfl⟩

theorem signal (before : g.Keeps taken) : g.signal.Keeps taken where
  pcm := before.pcm
  packets := before.packets
  whole now := by
    rcases now with unsignalled | alive
    · cases unsignalled
    · obtain ⟨pcm, packets⟩ := before.whole (.inr alive)
      exact ⟨pcm, packets⟩
  ended := nofun
  reads := nofun

theorem dropPcm (before : g.Keeps taken) : g.dropPcm.Keeps taken := by
  obtain ⟨pcm, packets, whole, ended, reads⟩ := before
  exact ⟨pcm, packets, fun now => ⟨(whole now).pcm, (whole now).packets⟩, ended, reads⟩

/-- A step of the pipeline task between its frames. -/
theorem pipelineMoves (before : g.Keeps taken) {pipeline : CountedPc PipelinePc} (active : Nat)
    (hand : g.pipeline.inHand = pipeline.inHand)
    (leaves : g.pipeline.isRunning = false → pipeline.isRunning = false) :
    CaptureGraph.Keeps taken { g with pipeline, active } where
  pcm := before.pcm
  packets := before.packets
  whole now := ⟨hand ▸ (before.whole now).pcm, (before.whole now).packets⟩
  ended unsignalled gone := leaves (before.ended unsignalled gone)
  reads := before.reads

/-- A step of the encoder task behind its loop. -/
theorem encoderMoves (before : g.Keeps taken) (encoder : CountedPc EncoderTaskPc) (active : Nat)
    (signalled : g.signalled = true) : CaptureGraph.Keeps taken { g with encoder, active } where
  pcm := before.pcm
  packets := before.packets
  whole now := ⟨(before.whole now).pcm, (before.whole now).packets⟩
  ended := before.ended
  reads unsignalled := nomatch signalled.symm.trans unsignalled

theorem statsMoves (before : g.Keeps taken) (stats : CountedPc Unit) (active : Nat) :
    CaptureGraph.Keeps taken { g with stats, active } where
  pcm := before.pcm
  packets := before.packets
  whole now := ⟨(before.whole now).pcm, (before.whole now).packets⟩
  ended := before.ended
  reads := before.reads

/-- The encoder task has left its loop only after the shutdown. -/
theorem signalled_of_left (before : g.Keeps taken) (left : g.encoder.isRunning = false) : g.signalled = true := by
  by_contra unsignalled
  have running := before.reads (Bool.not_eq_true _ ▸ unsignalled)
  rw [left] at running
  cases running

theorem frame (before : g.Keeps taken) (f : PcmFrame) (at_select : g.pipeline = .running .select) (counted : Nat) :
    CaptureGraph.Keeps (taken ++ [f]) { g with pipeline := .running (.send f), counted } where
  pcm := before.pcm.trans (List.prefix_append ..)
  packets := before.packets
  whole now := by
    obtain ⟨pcm, packets⟩ := before.whole now
    rw [at_select] at pcm
    refine ⟨?_, packets⟩
    rw [← pcm]
    exact congrArg (· ++ [f]) (List.append_nil _).symm
  ended unsignalled gone := by
    have left := before.ended unsignalled gone
    rw [at_select] at left
    cases left
  reads := before.reads

/-- The pipeline task sends its frame, or finds the receiver gone. -/
theorem pipelineSends (before : g.Keeps taken) (step : g.step .pipelineSends = some g') : g'.Keeps taken := by
  obtain ⟨pcm, packets, whole, ended, reads⟩ := before
  unfold CaptureGraph.step at step
  dsimp only at step
  split at step
  · rename_i f at_send
    have running (unsignalled : g.signalled = false) : g.inner ≠ some .exited := by
      intro gone
      have left := ended unsignalled gone
      rw [at_send] at left
      cases left
    split at step
    · rename_i gone
      cases step
      refine ⟨pcm, packets, fun now => ?_, fun unsignalled gone => absurd gone (running unsignalled), reads⟩
      rcases now with unsignalled | alive
      · exact absurd gone (running unsignalled)
      · exact absurd gone alive
    · rename_i alive
      obtain ⟨queue, send, same⟩ := Option.map_eq_some_iff.1 step
      cases same
      have sends := Channel.sends send
      obtain ⟨all, passed⟩ := whole (.inr alive)
      have all' : queue.sent = taken := by
        rw [sends.sent, ← all, at_send]
        rfl
      refine ⟨?_, ?_, fun _ => ⟨?_, ?_⟩, fun _ gone => absurd gone alive, reads⟩
      · exact all' ▸ List.prefix_rfl
      · exact sends.received.symm ▸ packets
      · exact (List.append_nil _).trans all'
      · exact sends.received.symm ▸ passed
  · cases step

theorem innerTakes (before : g.Keeps taken) {f : PcmFrame} {pcm : Channel PcmFrame QUEUE}
    (at_recv : g.inner = some .recv) (receives : g.pcm.Receives f pcm) :
    CaptureGraph.Keeps taken { g with pcm, inner := some (.send (.ofFrame f)) } := by
  obtain ⟨sent, packets, whole, ended, reads⟩ := before
  have alive : g.inner ≠ some .exited := by simp [at_recv]
  obtain ⟨all, passed⟩ := whole (.inr alive)
  have passed' : g.packets.sent ++ [.ofFrame f] = pcm.received.map AudioPacket.ofFrame := by
    rw [at_recv] at passed
    rw [receives.received, List.map_append, ← passed]
    exact congrArg (· ++ [AudioPacket.ofFrame f]) (List.append_nil _).symm
  refine ⟨receives.sent ▸ sent, ?_, fun _ => ⟨receives.sent ▸ all, passed'⟩, nofun, reads⟩
  rw [← passed']
  exact List.prefix_append ..

theorem innerSends (before : g.Keeps taken) {pkt : AudioPacket} {packets : Channel AudioPacket QUEUE}
    (at_send : g.inner = some (.send pkt)) (sends : g.packets.Sends pkt packets) :
    CaptureGraph.Keeps taken { g with packets, inner := some .look } := by
  obtain ⟨sent, -, whole, -, reads⟩ := before
  have alive : g.inner ≠ some .exited := by simp [at_send]
  obtain ⟨all, passed⟩ := whole (.inr alive)
  have passed' : packets.sent = g.pcm.received.map AudioPacket.ofFrame := by
    rw [sends.sent, ← passed, at_send]
    rfl
  refine ⟨sent, passed' ▸ List.prefix_rfl, fun _ => ⟨all, ?_⟩, nofun, reads⟩
  exact (List.append_nil _).trans passed'

/-- The task that `start_encoder` spawned goes on with nothing in hand. -/
theorem innerMoves (before : g.Keeps taken) (inner : EncoderPc) (empty : innerInHand g.inner = innerInHand (some inner))
    (alive : g.inner ≠ some .exited)
    (ended : g.signalled = false → inner = .exited → g.pipeline.isRunning = false) :
    CaptureGraph.Keeps taken { g with inner := some inner } where
  pcm := before.pcm
  packets := before.packets
  whole _ := ⟨(before.whole (.inr alive)).pcm, empty ▸ (before.whole (.inr alive)).packets⟩
  ended unsignalled gone := ended unsignalled (Option.some.inj gone)
  reads := before.reads

/-- The frames that an event of a pipeline task takes. -/
def taking : TaskEvent → List PcmFrame
  | .frame f => [f]
  | _ => []

theorem task {e : TaskEvent} (before : g.Keeps taken) (counts : g.Counts) (step : g.step e = some g') :
    g'.Keeps (taken ++ taking e) := by
  have same {g' : CaptureGraph} (kept : g'.Keeps taken) : g'.Keeps (taken ++ []) := by rwa [List.append_nil]
  have running {pc : PipelinePc} (there : g.pipeline = .running pc) : g.pipeline.isRunning ≠ false := by
    rw [there]
    nofun
  cases CaptureGraph.moves_of_step step with
  | frame f at_select => exact before.frame f at_select _
  | pipelineRefused | pipelineSends => exact same (before.pipelineSends step)
  | opened there | started there | pipelineTold there =>
    exact same (before.pipelineMoves g.active (by rw [there]; rfl) fun left => absurd left (running there))
  | ended there | failed there | stopped there =>
    exact same (before.pipelineMoves g.active (by rw [there]; rfl) fun _ => rfl)
  | pipelineCounts there =>
    refine same (before.pipelineMoves _ ?_ fun _ => ?_)
    · rw [there]
      split <;> rfl
    · split <;> rfl
  | pipelineNotifies there => exact same (before.pipelineMoves g.active (by rw [there]; rfl) fun _ => rfl)
  | encoderStarts at_starting =>
    obtain ⟨pcm, packets, whole, -, -⟩ := before
    have unspawned := counts.inner.2 at_starting
    obtain ⟨all, passed⟩ := whole (.inr (by simp [unspawned]))
    rw [unspawned] at passed
    exact same ⟨pcm, packets, fun _ => ⟨all, passed⟩, nofun, fun _ => rfl⟩
  | packet at_select receives =>
    obtain ⟨pcm, packets, whole, ended, reads⟩ := before
    refine same ⟨pcm, receives.sent ▸ packets, fun now => ?_, ended, reads⟩
    exact ⟨(whole now).pcm, receives.sent ▸ (whole now).packets⟩
  | encoderTold _ signalled => exact same (before.encoderMoves _ g.active signalled)
  | encoderCounts there =>
    exact same (before.encoderMoves _ _ (before.signalled_of_left (by rw [there]; rfl)))
  | encoderNotifies there =>
    exact same (before.encoderMoves _ g.active (before.signalled_of_left (by rw [there]; rfl)))
  | innerLooks at_look =>
    refine same (before.innerMoves _ ?_ (by simp [at_look]) fun unsignalled exited => ?_)
    · rw [at_look]
      split <;> rfl
    · rw [unsignalled] at exited
      cases exited
  | innerTakes at_recv receives => exact same (before.innerTakes at_recv receives)
  | innerWakes at_recv empty woken =>
    refine same (before.innerMoves .exited (by rw [at_recv]; rfl) (by simp [at_recv]) fun unsignalled _ => ?_)
    rcases woken with signalled | closed
    · exact nomatch signalled.symm.trans unsignalled
    · have exited : g.pipeline = .exited := by simpa using (Bool.and_eq_true_iff.1 closed).2
      rw [exited]
      rfl
  | innerSends at_send sends => exact same (before.innerSends at_send sends)
  | innerRefused at_send gone =>
    have signalled := before.signalled_of_left gone
    obtain ⟨pcm, packets, -, -, reads⟩ := before
    refine same ⟨pcm, packets, fun now => ?_, fun unsignalled => (nomatch signalled.symm.trans unsignalled), reads⟩
    rcases now with unsignalled | alive
    · exact nomatch signalled.symm.trans unsignalled
    · exact absurd rfl alive
  | statsTold => exact same (before.statsMoves _ g.active)
  | statsCounts => exact same (before.statsMoves _ _)
  | statsNotifies => exact same (before.statsMoves _ g.active)

theorem dropped (before : g.Keeps taken) (d : Dispatcher) (i : Nat) : (d.droppedGraph i g).Keeps taken := by
  unfold Dispatcher.droppedGraph
  split <;> split
  · exact before.dropPcm.signal
  · exact before.signal
  · exact before.dropPcm
  · exact before

end CaptureGraph.Keeps

/-! ## All recordings of a dispatcher -/

/-- Every generation keeps what was taken for it, and nothing was for one that is not there. -/
structure Dispatcher.Keeps (taken : Nat → List PcmFrame) (d : Dispatcher) : Prop where
  unspawned : ∀ g, d.generations[g]? = none → taken g = []
  spawned : ∀ (g : Nat) (gen : Generation), d.generations[g]? = some gen → gen.graph.Keeps (taken g)

namespace Dispatcher.Keeps

variable {taken : Nat → List PcmFrame} {d t : Dispatcher}

theorem mapped (before : d.Keeps taken) {change : Nat → Generation → Generation}
    (kept : ∀ g gen, gen.graph.Keeps (taken g) → (change g gen).graph.Keeps (taken g))
    (maps : ∀ g, t.generations[g]? = d.generations[g]?.map (change g)) : t.Keeps taken where
  unspawned g absent := before.unspawned g (Option.map_eq_none_iff.1 ((maps g).symm.trans absent))
  spawned g gen there := by
    obtain ⟨old, at_g, rfl⟩ := Option.map_eq_some_iff.1 ((maps g).symm.trans there)
    exact kept g old (before.spawned g old at_g)

theorem signal (before : d.Keeps taken) : d.signal.Keeps taken := by
  refine before.mapped (fun g gen here => ?_) Dispatcher.getElem?_signal
  dsimp only
  split
  · exact here.signal
  · exact here

theorem finished (before : d.Keeps taken) : d.finished.Keeps taken :=
  before.mapped (fun g _ here => here.dropped d g) Dispatcher.getElem?_finished

theorem startRecording (before : d.Keeps taken) (r : Reading) (deviceIndex : Option (BitVec 32)) :
    (d.startRecording r deviceIndex).Keeps taken := by
  have dropped : d.dropPcmTx.dropShutdownTx.Keeps taken :=
    before.mapped (fun g _ here => here.dropped d g) Dispatcher.getElem?_dropped
  constructor
  · intro g absent
    rw [Dispatcher.generations_start, List.getElem?_eq_none_iff, List.length_append] at absent
    exact dropped.unspawned g (List.getElem?_eq_none_iff.2 (by omega))
  · intro g gen there
    rw [Dispatcher.generations_start] at there
    rcases Parts.of_added there with old | ⟨same, rfl⟩
    · exact dropped.spawned g gen old
    · rw [dropped.unspawned g (List.getElem?_eq_none_iff.2 same.ge)]
      exact .spawned

/-- A step of a task of generation `g` takes for that one only. -/
theorem task (before : d.Keeps taken) (reached : dispatcherSystem.Reachable d) {g : Nat} {e : TaskEvent}
    {gen : Generation} {graph : CaptureGraph} (there : d.generations[g]? = some gen)
    (moved : gen.graph.step e = some graph) {taken' : Nat → List PcmFrame}
    (here : taken' g = taken g ++ CaptureGraph.Keeps.taking e) (elsewhere : ∀ i, i ≠ g → taken' i = taken i)
    (generations : t.generations = d.generations.set g (gen.after graph d.now)) : t.Keeps taken' := by
  constructor
  · intro i absent
    rw [generations, List.getElem?_eq_none_iff, List.length_set] at absent
    have outside := List.getElem?_eq_none_iff.2 absent
    rw [elsewhere i (by rintro rfl; cases there.symm.trans outside)]
    exact before.unspawned i outside
  · intro i x found
    rw [generations] at found
    rcases Parts.of_set there found with ⟨rfl, rfl⟩ | ⟨other, old⟩
    · rw [here]
      exact (before.spawned i gen there).task (counts (graph_reachable reached there)) moved
    · rw [elsewhere i other]
      exact before.spawned i x old

end Dispatcher.Keeps

/-- In every run each generation keeps what its pipeline task has taken. -/
theorem keeps_taken {es : List DispatcherEvent} {d : Dispatcher} (run : dispatcherSystem.run .new es = some d) :
    d.Keeps fun g => framesTaken g es := by
  have start : Dispatcher.new.Keeps fun g => framesTaken g [] := by
    refine ⟨fun _ _ => rfl, ?_⟩
    intro g gen there
    cases there
  refine invariant_since (I := fun es d => d.Keeps fun g => framesTaken g es) start ?_ run
  intro es d e t run before step
  have reached : dispatcherSystem.Reachable d := ⟨_, es, rfl, run⟩
  -- Only a frame is taken.
  have plain (none_taken : ∀ g, framesTaken g [e] = []) (after : t.Keeps fun g => framesTaken g es) :
      t.Keeps fun g => framesTaken g (es ++ [e]) := by
    simpa only [framesTaken_append, none_taken, List.append_nil] using after
  cases Dispatcher.moves_of_step step with
  | started => exact plain (fun _ => rfl) (before.startRecording _ _)
  | stopped | told | called => exact plain (fun _ => rfl) ⟨before.signal.unspawned, before.signal.spawned⟩
  | paused | resumed | answered | caller | passed =>
    refine plain (fun _ => rfl) ?_
    exact ⟨before.unspawned, before.spawned⟩
  | finished => exact plain (fun _ => rfl) before.finished
  | @task g e gen graph there alive moved =>
    refine before.task reached there moved ?_ ?_ rfl
    · rw [framesTaken_append]
      congr 1
      cases e with
      | frame f => simp [framesTaken, CaptureGraph.Keeps.taking]
      | _ => rfl
    · intro i other
      rw [framesTaken_append]
      cases e with
      | frame f => simp [framesTaken, Ne.symm other]
      | _ => exact List.append_nil _

/-- **What the encoder task reads are the first frames that the pipeline task took, in their order; and before the
shutdown of their recording the other frames are all under way.** -/
theorem frames_kept {es : List DispatcherEvent} {d : Dispatcher} (run : dispatcherSystem.run .new es = some d) {g : Nat}
    {gen : Generation} (there : d.generations[g]? = some gen) :
    gen.graph.packets.received <+: (framesTaken g es).map .ofFrame ∧
      gen.graph.packets.received.map AudioPacket.data <+: (framesTaken g es).map PcmFrame.data ∧
      gen.graph.underWay.length ≤ 2 * QUEUE + 2 ∧
      (gen.graph.signalled = false →
        gen.graph.packets.received ++ gen.graph.underWay = (framesTaken g es).map .ofFrame) := by
  have keeps := (keeps_taken run).spawned g gen there
  have read : gen.graph.packets.received <+: gen.graph.pcm.received.map .ofFrame :=
    gen.graph.packets.received_first.trans keeps.packets
  have received : gen.graph.pcm.received <+: framesTaken g es := gen.graph.pcm.received_first.trans keeps.pcm
  have first := read.trans (received.map _)
  refine ⟨first, map_data_ofFrame (framesTaken g es) ▸ first.map _, ?_, fun unsignalled => ?_⟩
  · have frames := gen.graph.pcm.bounded
    have packets := gen.graph.packets.bounded
    have hand := length_inHand_le gen.graph.pipeline
    have hand' := length_innerInHand_le gen.graph.inner
    simp only [CaptureGraph.underWay, List.length_append, List.length_map]
    omega
  · obtain ⟨all, passed⟩ := keeps.whole (.inl unsignalled)
    rw [← all, ← gen.graph.pcm.conserved, CaptureGraph.underWay, List.map_append, List.map_append, List.map_append,
      ← passed, ← gen.graph.packets.conserved]
    simp only [List.append_assoc]

/-- Two frames of a recording: one is read, and the other in the pipeline task's hand. -/
def twoFrames : List DispatcherEvent :=
  [.send (.startRecording none)] ++ pipelineStarts 0 ++ [.task 0 .encoderStarts, .task 0 .innerLook,
    .task 0 (.frame oneFrame), .task 0 .pipelineSends, .task 0 .innerRecv, .task 0 .innerSend, .task 0 .packet,
    .task 0 (.frame oneFrame)]

theorem frames_kept_two : ∃ d gen, dispatcherSystem.run .new twoFrames = some d ∧ d.generations[0]? = some gen ∧
    gen.graph.signalled = false ∧ gen.graph.packets.received = [.ofFrame oneFrame] ∧
    gen.graph.packets.received <+: (framesTaken 0 twoFrames).map .ofFrame ∧
    gen.graph.packets.received.map AudioPacket.data <+: (framesTaken 0 twoFrames).map PcmFrame.data ∧
    gen.graph.underWay.length ≤ 2 * QUEUE + 2 ∧ (gen.graph.signalled = false →
      gen.graph.packets.received ++ gen.graph.underWay = (framesTaken 0 twoFrames).map .ofFrame) := by
  obtain ⟨d, gen, run, there, unsignalled, read⟩ : ∃ d gen, dispatcherSystem.run .new twoFrames = some d ∧
      d.generations[0]? = some gen ∧ gen.graph.signalled = false ∧
      gen.graph.packets.received = [.ofFrame oneFrame] := ⟨_, _, rfl, rfl, rfl, rfl⟩
  exact ⟨d, gen, run, there, unsignalled, read, frames_kept run there⟩

end StereoMix.Ipc
