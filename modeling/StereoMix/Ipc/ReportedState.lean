import StereoMix.Ipc.Dispatcher

/-!
# The state that is reported

The state field changes with the recording commands, and the shutdown channel with a StopRecording, the Shutdown
command and the shutdown methods. The two agree as long as the latter two come when nothing is being recorded.
-/

namespace StereoMix.Ipc

open EventSystem

/-- The Shutdown command is handled, and a shutdown method called, only when nothing is being recorded. -/
def ShutsDownIdle (d : Dispatcher) : DispatcherEvent → Prop
  | .command _ .shutdown _ | .call _ => d.state = .idle
  | _ => True

instance (d : Dispatcher) (e : DispatcherEvent) : Decidable (ShutsDownIdle d e) := by
  unfold ShutsDownIdle
  split <;> infer_instance

/-- A response that reported a recording goes on, or is paused. -/
def ResponseEnvelope.ReportsRecording (response : ResponseEnvelope) : Prop :=
  ∃ data, response.data = some data ∧ (data.get "state" = some (.string "recording") ∨
    data.get "state" = some (.string "paused") ∨ data.get "recording_active" = some (.bool true))

/-- The tasks of the latest StartRecording were started, run on, and were sent no shutdown signal. -/
def Dispatcher.LatestRuns (d : Dispatcher) : Prop :=
  ∃ gen, d.generations.getLast? = some gen ∧ gen.graph.signalled = false ∧ gen.cancelled = false

/-- What GetStatus and Health report is true of the tasks. -/
def Dispatcher.ReportsTasks (d : Dispatcher) : Prop :=
  ∀ (r : Reading) (cmd : IpcCommand) (id : String), (cmd = .getStatus ∨ cmd = .health) →
    (d.handleCommand r cmd id).2.ReportsRecording → d.LatestRuns

/-! ## Reports -/

theorem not_idle_of_reports {d : Dispatcher} {r : Reading} {cmd : IpcCommand} {id : String}
    (asks : cmd = .getStatus ∨ cmd = .health) (reports : (d.handleCommand r cmd id).2.ReportsRecording) :
    d.state ≠ .idle := by
  intro idle
  obtain ⟨data, same, reported⟩ := reports
  rcases asks with rfl | rfl
  · have whole : data = .object [("state", .string "idle")] := by
      simpa [Dispatcher.handleCommand, Dispatcher.statusData, ResponseEnvelope.okData, idle] using same.symm
    simp [whole, Json.get] at reported
  · have whole : data = Dispatcher.healthData .idle r := by
      simpa [Dispatcher.handleCommand, ResponseEnvelope.okData, idle] using same.symm
    simp [whole, Dispatcher.healthData, Dispatcher.stateName, Dispatcher.isRecording, Json.get] at reported

/-! ## The invariant -/

theorem CaptureGraph.Moves.signalled {g g' : CaptureGraph} {e : TaskEvent} (moves : g.Moves e g') :
    g'.signalled = g.signalled := by
  cases moves <;> rfl

/-- While something is recorded, the tasks of the latest generation run, and no shutdown method is under way. -/
structure Dispatcher.Recorded (d : Dispatcher) : Prop where
  begun : d.state ≠ .idle → d.generations ≠ []
  runs : d.state ≠ .idle → ∀ (g : Nat) (gen : Generation), g + 1 = d.generations.length →
    d.generations[g]? = some gen → gen.graph.signalled = false ∧ gen.cancelled = false
  free : d.state ≠ .idle → d.call = none

theorem Dispatcher.Recorded.step {d t : Dispatcher} {e : DispatcherEvent} (before : d.Recorded)
    (idle : ShutsDownIdle d e) (moves : d.Moves e t) : t.Recorded := by
  obtain ⟨begun, runs, free⟩ := before
  have stays_idle {t : Dispatcher} (here : t.state = .idle) : t.Recorded :=
    ⟨fun recording => absurd here recording, fun recording => absurd here recording,
      fun recording => absurd here recording⟩
  cases moves with
  | @started r deviceIndex _ uncalled =>
    refine ⟨fun _ => List.append_ne_nil_of_right_ne_nil _ (List.cons_ne_nil _ _), ?_, fun _ => uncalled⟩
    intro _ g gen last there
    rw [Dispatcher.generations_start] at last there
    rcases Parts.of_added there with old | ⟨-, new⟩
    · have inside := (List.getElem?_eq_some_iff.1 old).1
      rw [List.length_append, List.length_singleton] at last
      omega
    · rw [new]
      exact ⟨rfl, rfl⟩
  | stopped => exact stays_idle rfl
  | told | called => exact stays_idle idle
  | paused _ there | resumed _ there =>
    have recording : d.state ≠ .idle := by simp [there]
    exact ⟨fun _ => begun recording, fun _ => runs recording, fun _ => free recording⟩
  | answered | passed => exact ⟨begun, runs, free⟩
  | caller calls | finished calls =>
    apply stays_idle
    by_contra recording
    rw [free recording] at calls
    cases calls
  | @task g e gen graph there alive moved =>
    refine ⟨?_, ?_, ?_⟩
    · intro recording none_left
      exact begun recording ((List.set_eq_nil_iff ..).1 none_left)
    · intro recording i x last found
      rw [List.length_set] at last
      rcases Parts.of_set there found with ⟨rfl, rfl⟩ | ⟨-, old⟩
      · obtain ⟨unsignalled, running⟩ := runs recording i gen last there
        exact ⟨(CaptureGraph.moves_of_step moved).signalled.trans unsignalled, running⟩
      · exact runs recording i x last old
    · intro recording
      have uncalled := free recording
      unfold Dispatcher.callAfter
      split
      · rw [uncalled]
        split <;> rfl
      · exact uncalled

/-- **What is reported is true of the tasks, in the runs that shut down only when nothing is being recorded.** -/
theorem reports_tasks {d : Dispatcher} (reached : dispatcherSystem.ReachableWhere ShutsDownIdle d) :
    d.ReportsTasks := by
  have recorded : d.Recorded := by
    apply dispatcher_invariant _ _ reached
    · exact ⟨fun recording => absurd rfl recording, fun recording => absurd rfl recording, fun _ => rfl⟩
    · exact fun d e t _ before idle moves => before.step idle moves
  intro r cmd id asks reports
  have recording := not_idle_of_reports asks reports
  have some_generation := List.length_pos_of_ne_nil (recorded.begun recording)
  have last : d.generations.length - 1 < d.generations.length := by omega
  have there := List.getElem?_eq_getElem last
  obtain ⟨unsignalled, running⟩ := recorded.runs recording _ _ (by omega) there
  exact ⟨_, (List.getLast?_eq_getElem? ..).trans there, unsignalled, running⟩

theorem reports_tasks_paused : ∃ d, dispatcherSystem.run .new
    [.send (.startRecording (some 1)), .send .stopRecording, .send .shutdown, .send (.startRecording none),
      .send .pauseRecording] = some d ∧ d.state = .paused none 0 ∧ d.ReportsTasks :=
  ⟨_, rfl, rfl, reports_tasks ⟨_, [.send (.startRecording (some 1)), .send .stopRecording, .send .shutdown,
    .send (.startRecording none), .send .pauseRecording], rfl, by decide, rfl⟩⟩

/-- After a Shutdown command, as after a shutdown method, GetStatus goes on saying that it records. -/
theorem reports_recording_after_shutdown :
    (∃ d, dispatcherSystem.run .new [.send (.startRecording none), .send .shutdown] = some d ∧ ¬ d.ReportsTasks) ∧
      ∃ d, dispatcherSystem.run .new [.send (.startRecording none), .call (.withTimeout (some 0)), .caller, .caller,
        .caller, .caller, .caller] = some d ∧ d.call = none ∧ ¬ d.ReportsTasks := by
  refine ⟨⟨_, rfl, ?_⟩, _, rfl, rfl, ?_⟩
  all_goals
    intro truthful
    obtain ⟨gen, latest, unsignalled, -⟩ :=
      truthful ⟨0, 0, "0.0", "0.0", "0.0"⟩ .getStatus "1" (.inl rfl) ⟨_, rfl, .inl rfl⟩
    cases latest
    cases unsignalled

end StereoMix.Ipc
