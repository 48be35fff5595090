import StereoMix.Ipc.Dispatcher

/-!
# The frames that a stop reports

All recordings of a dispatcher share the counter of samples, and a recording is known by the counter's value at its
start. So `audio_stopped` reports a recording's own frames exactly as long as, while it goes on, no other pipeline
counts frames: an earlier one may, until it observes that it was shut down.
-/

namespace StereoMix.Ipc

open EventSystem

/-- While a recording goes on, only its own pipeline task counts frames, and the counter does not overflow. -/
def CountsOwn (d : Dispatcher) : DispatcherEvent → Prop
  | .task g (.frame f) => d.state ≠ .idle → 0 < framesCounted f →
      g + 1 = d.generations.length ∧ d.framesCaptured + framesCounted f < 2 ^ 64
  | _ => True

instance (d : Dispatcher) (e : DispatcherEvent) : Decidable (CountsOwn d e) := by
  unfold CountsOwn
  split <;> infer_instance

namespace Dispatcher

variable {d t : Dispatcher}

/-- What each pipeline task has counted. -/
def counts (d : Dispatcher) : List Nat := d.generations.map fun gen => gen.graph.counted

/-- What the pipeline task of the latest StartRecording has counted. -/
def latestCounted (d : Dispatcher) : Nat := d.counts.getLast?.getD 0

/-- A StopRecording reports the frames that the pipeline task of the recording being stopped has counted, and 0 when
nothing is being recorded. -/
def StopsWithOwnFrames (d : Dispatcher) : Prop :=
  ∀ (r : Reading) (id : String), ∃ durationMs, (d.handleCommand r .stopRecording id).1.telemetry =
    d.telemetry ++ [.audioStopped durationMs (if d.state = .idle then 0 else d.latestCounted)]

end Dispatcher

/-! ## What the steps count -/

/-- What a step adds to its pipeline task's count. -/
def TaskEvent.frames : TaskEvent → Nat
  | .frame f => framesCounted f
  | _ => 0

theorem CaptureGraph.Moves.counted {g g' : CaptureGraph} {e : TaskEvent} (moves : g.Moves e g') :
    g'.counted = g.counted + e.frames := by
  cases moves <;> rfl

/-- The shared counter grows by what the step's own count grows by. -/
theorem AudioQualityState.samplesCaptured_after {quality : AudioQualityState}
    (bounded : quality.samplesCaptured < 2 ^ 64) (e : TaskEvent) :
    (quality.after e).samplesCaptured = (quality.samplesCaptured + e.frames) % 2 ^ 64 := by
  have kept : quality.samplesCaptured = (quality.samplesCaptured + 0) % 2 ^ 64 := (Nat.mod_eq_of_lt bounded).symm
  cases e with
  | frame f =>
    simp only [AudioQualityState.after, TaskEvent.frames]
    by_cases whole : f.format.bitDepth = 16 ∧ 2 ≤ f.data.length
    · rw [if_pos whole]
    · rw [if_neg whole, framesCounted, if_neg whole]
      split <;> exact kept
  | _ => exact kept

namespace Dispatcher

variable {d t : Dispatcher}

theorem counts_signal : d.signal.counts = d.counts := map_signal (p := CaptureGraph.counted) fun _ => rfl

theorem counts_start (r : Reading) (deviceIndex : Option (BitVec 32)) :
    (d.startRecording r deviceIndex).counts = d.counts ++ [0] := by
  unfold counts
  rw [generations_start, List.map_append, map_dropped (p := CaptureGraph.counted) (fun _ => rfl) (fun _ => rfl)]
  rfl

theorem counts_finished : d.finished.counts = d.counts :=
  map_finished (p := CaptureGraph.counted) (fun _ => rfl) fun _ => rfl

/-- A step of a generation that is not the latest leaves the latest's count. -/
theorem getLast?_counts_set {g : Nat} {gen : Generation} (other : g + 1 ≠ d.generations.length) :
    ((d.generations.set g gen).map fun gen => gen.graph.counted).getLast? = d.counts.getLast? := by
  unfold counts
  have apart : g ≠ d.generations.length - 1 ∨ d.generations = [] := by
    by_cases empty : d.generations = []
    · exact .inr empty
    · have := List.length_pos_of_ne_nil empty
      exact .inl (by omega)
  rw [List.getLast?_eq_getElem?, List.getLast?_eq_getElem?, List.getElem?_map, List.getElem?_map, List.length_map,
    List.length_map, List.length_set]
  rcases apart with apart | empty
  · rw [List.getElem?_set_ne apart]
  · rw [empty, List.set_nil]

theorem getLast?_counts_set_last {g : Nat} {gen old : Generation} (there : d.generations[g]? = some old)
    (last : g + 1 = d.generations.length) :
    ((d.generations.set g gen).map fun gen => gen.graph.counted).getLast? = some gen.graph.counted ∧
      d.counts.getLast? = some old.graph.counted := by
  have inside := (List.getElem?_eq_some_iff.1 there).1
  unfold counts
  rw [List.getLast?_eq_getElem?, List.getLast?_eq_getElem?, List.getElem?_map, List.getElem?_map, List.length_map,
    List.length_map, List.length_set, show d.generations.length - 1 = g by omega, List.getElem?_set_self inside, there]
  exact ⟨rfl, rfl⟩

/-! ## The invariant -/

/-- While a recording goes on, the counter is its value at the recording's start and what the recording counted. -/
structure Framed (d : Dispatcher) : Prop where
  bounded : d.framesCaptured < 2 ^ 64
  own : d.state ≠ .idle → d.framesCaptured = d.framesAtStart + d.latestCounted

theorem Framed.step {e : DispatcherEvent} (before : d.Framed) (counts_own : CountsOwn d e) (moves : d.Moves e t) :
    t.Framed := by
  obtain ⟨bounded, own⟩ := before
  cases moves with
  | @started r deviceIndex _ free =>
    refine ⟨bounded, fun _ => ?_⟩
    have none_yet : (d.startRecording r deviceIndex).latestCounted = 0 := by
      rw [latestCounted, counts_start, List.getLast?_concat]
      rfl
    rw [none_yet]
    rfl
  | stopped => exact ⟨bounded, fun recording => absurd rfl recording⟩
  | paused _ there | resumed _ there =>
    refine ⟨bounded, fun _ => own ?_⟩
    rw [there]
    simp
  | told | called =>
    refine ⟨bounded, fun recording => ?_⟩
    have same : d.signal.latestCounted = d.latestCounted := by rw [latestCounted, counts_signal, latestCounted]
    exact (own recording).trans (congrArg _ same.symm)
  | answered | caller | passed => exact ⟨bounded, own⟩
  | finished =>
    refine ⟨bounded, fun recording => ?_⟩
    have same : d.finished.latestCounted = d.latestCounted := by rw [latestCounted, counts_finished, latestCounted]
    exact (own recording).trans (congrArg _ same.symm)
  | @task g e gen graph there alive moved =>
    have samples : (d.audioQuality.after e).samplesCaptured = (d.framesCaptured + e.frames) % 2 ^ 64 :=
      AudioQualityState.samplesCaptured_after bounded e
    have counted := (CaptureGraph.moves_of_step moved).counted
    constructor
    · exact samples.trans_lt (Nat.mod_lt _ (by decide))
    · intro recording
      change (d.audioQuality.after e).samplesCaptured = d.framesAtStart +
        ((d.generations.set g (gen.after graph d.now)).map fun gen => gen.graph.counted).getLast?.getD 0
      have whole := own recording
      have counting : 0 < e.frames → g + 1 = d.generations.length ∧ d.framesCaptured + e.frames < 2 ^ 64 := by
        cases e with
        | frame f => exact counts_own recording
        | _ => exact fun some_frames => absurd some_frames (Nat.lt_irrefl 0)
      have fits : d.framesCaptured + e.frames < 2 ^ 64 := by
        rcases Nat.eq_zero_or_pos e.frames with none_counted | some_frames
        · rw [none_counted]
          exact bounded
        · exact (counting some_frames).2
      rw [samples, Nat.mod_eq_of_lt fits]
      by_cases last : g + 1 = d.generations.length
      · obtain ⟨after, before⟩ := @getLast?_counts_set_last d g (gen.after graph d.now) gen there last
        rw [after]
        rw [latestCounted, before] at whole
        exact (congrArg (· + e.frames) whole).trans ((Nat.add_assoc ..).trans (congrArg _ counted.symm))
      · have none_counted : e.frames = 0 := Nat.eq_zero_of_not_pos fun some_frames => last (counting some_frames).1
        rw [getLast?_counts_set last, none_counted]
        exact whole

end Dispatcher

/-- **A stop reports its own recording's frames, in the runs where no other pipeline counts meanwhile.** -/
theorem stops_with_own_frames {d : Dispatcher} (reached : dispatcherSystem.ReachableWhere CountsOwn d) :
    d.StopsWithOwnFrames := by
  have framed : d.Framed := by
    apply dispatcher_invariant _ _ reached
    · exact ⟨by decide, fun recording => absurd rfl recording⟩
    · exact fun d e t _ before counts_own moves => before.step counts_own moves
  intro r id
  have total : (d.signal.stopTotals r).2 = if d.state = .idle then 0 else d.latestCounted := by
    unfold Dispatcher.stopTotals
    rw [show d.signal.state = d.state from rfl]
    cases recording : d.state with
    | idle => rfl
    | recording deviceIndex startedAt | paused deviceIndex startedAt =>
      have whole : d.framesCaptured = d.framesAtStart + d.latestCounted := framed.own (by simp [recording])
      change d.framesCaptured - d.framesAtStart = d.latestCounted
      rw [whole, Nat.add_sub_cancel_left]
  refine ⟨(d.signal.stopTotals r).1, ?_⟩
  rw [← total]
  rfl

/-- A frame in each of two recordings; the first's pipeline task sees its shutdown before the second begins. -/
def secondRecording : List DispatcherEvent :=
  [.send (.startRecording none)] ++ pipelineStarts 0 ++ [.task 0 (.frame oneFrame), .send .stopRecording,
    .task 0 .pipelineSends, .task 0 .pipelineTold, .send (.startRecording none)] ++ pipelineStarts 1 ++
    [.task 1 (.frame oneFrame)]

theorem stops_with_own_frames_second : ∃ d, dispatcherSystem.run .new secondRecording = some d ∧
    d.counts = [1, 1] ∧ d.StopsWithOwnFrames :=
  ⟨_, rfl, rfl, stops_with_own_frames ⟨_, secondRecording, rfl, by decide, rfl⟩⟩

/-- The first recording's pipeline task counts a frame after the second began: the second's stop reports it. -/
theorem stop_reports_other_frames : ∃ d, dispatcherSystem.run .new
    ([.send (.startRecording none)] ++ pipelineStarts 0 ++ [.send .stopRecording, .send (.startRecording none),
      .task 0 (.frame oneFrame)]) = some d ∧ d.counts = [1, 0] ∧ ¬ d.StopsWithOwnFrames := by
  refine ⟨_, rfl, rfl, ?_⟩
  intro stops
  obtain ⟨durationMs, same⟩ := stops ⟨0, 0, "0.0", "0.0", "0.0"⟩ "1"
  cases same

end StereoMix.Ipc
