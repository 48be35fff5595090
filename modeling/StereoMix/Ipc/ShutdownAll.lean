import StereoMix.Ipc.Dispatcher

/-!
# What a completed shutdown covers

A shutdown method loads the counter of the latest generation only: a StartRecording has replaced the handles of the one
before, and a shutdown that timed out has dropped its own. So a shutdown that completes covers every task where handles
are only given up when their tasks are done.
-/

namespace StereoMix.Ipc

open EventSystem

/-- The counter of every generation is at 0. -/
def Dispatcher.AllDone (d : Dispatcher) : Prop := ∀ gen ∈ d.generations, gen.graph.active = 0

instance (d : Dispatcher) : Decidable d.AllDone := by
  unfold Dispatcher.AllDone
  infer_instance

/-- The call under way has timed out and is about to drop the handles. -/
def Dispatcher.timedOut (d : Dispatcher) : Bool := d.call.any fun c => c.pc = .finish false

/-- The steps that give handles up, a StartRecording and the end of a shutdown that timed out, find the counters of the
generations made so far at 0. -/
def GivesUpDone (d : Dispatcher) : DispatcherEvent → Prop
  | .command _ (.startRecording _) _ => d.AllDone
  | .caller => d.timedOut = true → d.AllDone
  | _ => True

instance (d : Dispatcher) (e : DispatcherEvent) : Decidable (GivesUpDone d e) := by
  unfold GivesUpDone
  split <;> infer_instance

/-- Every counted task has left its loop and counted itself done. -/
def CaptureGraph.AllCounted (g : CaptureGraph) : Prop :=
  g.pipeline.uncounted = 0 ∧ g.encoder.uncounted = 0 ∧ g.stats.uncounted = 0

/-- A shutdown method that is about to drop the runtime and return as completed has waited for every task of every
generation. -/
def Dispatcher.CompletedCovers (d : Dispatcher) : Prop :=
  ∀ c, d.call = some c → c.pc = .finish true → ∀ gen ∈ d.generations, gen.graph.AllCounted

/-! ## Loads -/

/-- A call ends as completed by a load of 0. -/
theorem ShutdownCall.load_zero {c c' : ShutdownCall} {d : Dispatcher} (next : c.next d = some c')
    (at_finish : c'.pc = .finish true) : d.active.getD 0 = 0 := by
  have loop : c.loop d = .load ∨ c.loop d = .polling := by
    unfold ShutdownCall.loop
    split
    · exact .inl rfl
    · exact .inr rfl
  cases ShutdownCall.moves_of_next next with
  | done _ zero => exact zero
  | enters | timed => rcases loop with at_load | at_polling <;> simp_all
  | notified | polls =>
    dsimp only at at_finish
    split at at_finish <;> cases at_finish
  | _ => cases at_finish

theorem active_stored {d : Dispatcher} {g : Nat} {gen : Generation} (stored : d.activeTasks = some g)
    (there : d.generations[g]? = some gen) : d.active = some gen.graph.active := by
  unfold Dispatcher.active
  rw [stored, Option.bind_some, there]
  rfl

theorem CaptureGraph.Moves.active_le {g g' : CaptureGraph} {e : TaskEvent} (moves : g.Moves e g') :
    g'.active ≤ g.active := by
  cases moves <;> first | exact Nat.le_refl _ | exact Nat.sub_le _ _

/-! ## The invariant -/

/-- The generations that the dispatcher has no counter of are done, and so are all at the end of a completed call. -/
structure Dispatcher.Accounted (d : Dispatcher) : Prop where
  given_up : ∀ (g : Nat) (gen : Generation), d.generations[g]? = some gen → d.activeTasks ≠ some g →
    gen.graph.active = 0
  finished : ∀ c, d.call = some c → c.pc = .finish true → d.AllDone

theorem Dispatcher.AllDone.at {d : Dispatcher} (done : d.AllDone) {g : Nat} {gen : Generation}
    (there : d.generations[g]? = some gen) : gen.graph.active = 0 := done gen (List.mem_of_getElem? there)

theorem ShutdownCall.pc_woken {c : ShutdownCall} (at_finish : c.woken.pc = .finish true) : c.pc = .finish true := by
  unfold ShutdownCall.woken at at_finish
  split at at_finish
  · cases at_finish
  · exact at_finish

/-- A task's step brings no call to its end. -/
theorem Dispatcher.call_of_callAfter {d : Dispatcher} {g : Nat} {e : TaskEvent} {c : ShutdownCall}
    (calls : d.callAfter g e = some c) (at_finish : c.pc = .finish true) :
    ∃ c₀, d.call = some c₀ ∧ c₀.pc = .finish true := by
  unfold callAfter at calls
  split at calls
  · split at calls
    · obtain ⟨c₀, called, woken⟩ := Option.map_eq_some_iff.1 calls
      cases woken
      exact ⟨c₀, called, ShutdownCall.pc_woken at_finish⟩
    · exact ⟨c, calls, at_finish⟩
  · exact ⟨c, calls, at_finish⟩

/-- A load of 0 finds every generation done, where those that were given up are. -/
theorem Dispatcher.Accounted.done_of_load {d : Dispatcher} (before : d.Accounted) (load : d.active.getD 0 = 0) :
    d.AllDone := by
  intro gen member
  obtain ⟨g, there⟩ := List.mem_iff_getElem?.1 member
  by_cases stored : d.activeTasks = some g
  · rw [active_stored stored there] at load
    exact load
  · exact before.given_up g gen there stored

theorem Dispatcher.Accounted.step {d t : Dispatcher} {e : DispatcherEvent} (before : d.Accounted)
    (meets : GivesUpDone d e) (moves : d.Moves e t) : t.Accounted := by
  -- What a signal or a dropped end leaves of the counters.
  have signalled (g : Nat) (gen : Generation) (there : d.signal.generations[g]? = some gen)
      (elsewhere : d.activeTasks ≠ some g) : gen.graph.active = 0 := by
    rw [getElem?_signal] at there
    obtain ⟨old, at_g, rfl⟩ := Option.map_eq_some_iff.1 there
    have zero := before.given_up g old at_g elsewhere
    dsimp only
    split <;> exact zero
  have uncalled {t : Dispatcher} (free : t.call = none) : ∀ c, t.call = some c → c.pc = .finish true → t.AllDone := by
    intro c calls
    rw [free] at calls
    cases calls
  cases moves with
  | started free =>
    refine ⟨fun g gen there elsewhere => ?_, uncalled free⟩
    rw [generations_start] at there
    rcases Parts.of_added there with old | ⟨last, -⟩
    · rw [getElem?_dropped] at old
      obtain ⟨gen', at_g, rfl⟩ := Option.map_eq_some_iff.1 old
      have zero : gen'.graph.active = 0 := AllDone.at meets at_g
      rw [← zero]
      exact apply_droppedGraph (p := CaptureGraph.active) (fun _ => rfl) (fun _ => rfl) g gen'.graph
    · rw [length_dropped] at last
      subst last
      exact absurd rfl elsewhere
  | stopped free | told free => exact ⟨signalled, uncalled free⟩
  | paused free | resumed free | answered free => exact ⟨before.given_up, uncalled free⟩
  | called =>
    refine ⟨signalled, ?_⟩
    rintro c ⟨⟩ at_finish
    cases at_finish
  | @finished c completed calls at_finish =>
    -- A completed call found all counters at 0, one that timed out meets the condition.
    have done : d.AllDone := by
      cases completed with
      | true => exact before.finished c calls at_finish
      | false =>
        apply meets
        rw [timedOut, calls, Option.any_some]
        exact decide_eq_true at_finish
    refine ⟨fun g gen there _ => ?_, uncalled rfl⟩
    rw [getElem?_finished] at there
    obtain ⟨old, at_g, rfl⟩ := Option.map_eq_some_iff.1 there
    rw [← done.at at_g]
    exact apply_droppedGraph (p := CaptureGraph.active) (fun _ => rfl) (fun _ => rfl) g old.graph
  | passed => exact ⟨before.given_up, before.finished⟩
  | @caller c c' calls next =>
    refine ⟨before.given_up, ?_⟩
    rintro c'' ⟨⟩ at_finish
    exact before.done_of_load (ShutdownCall.load_zero next at_finish)
  | @task g e gen graph there alive moved =>
    have fewer : graph.active ≤ gen.graph.active := (CaptureGraph.moves_of_step moved).active_le
    refine ⟨fun g' gen' there' elsewhere => ?_, fun c calls at_finish gen' member => ?_⟩
    · rcases Parts.of_set there there' with ⟨rfl, rfl⟩ | ⟨-, old⟩
      · exact Nat.le_zero.1 (before.given_up g' gen there elsewhere ▸ fewer)
      · exact before.given_up g' gen' old elsewhere
    · obtain ⟨c₀, called, at_finish₀⟩ := call_of_callAfter calls at_finish
      have done := before.finished c₀ called at_finish₀
      rcases List.mem_or_eq_of_mem_set member with old | rfl
      · exact done gen' old
      · exact Nat.le_zero.1 (done.at there ▸ fewer)

/-- **A completed shutdown covers every task, in the runs where handles are given up only when their tasks are
done.** -/
theorem completed_shutdown_covers {d : Dispatcher} (reached : dispatcherSystem.ReachableWhere GivesUpDone d) :
    d.CompletedCovers := by
  have accounted : d.Accounted := by
    apply dispatcher_invariant _ _ reached
    · refine ⟨?_, ?_⟩
      · rintro g gen ⟨⟩
      · rintro c ⟨⟩
    · exact fun d e t _ before meets moves => before.step meets moves
  intro c calls at_finish gen member
  obtain ⟨g, there⟩ := List.mem_iff_getElem?.1 member
  have active := (counts (graph_reachable reached.reachable there)).active
  rw [accounted.finished c calls at_finish gen member] at active
  have none_left := Nat.add_eq_zero_iff.1 active.symm
  exact ⟨(Nat.add_eq_zero_iff.1 none_left.1).1, (Nat.add_eq_zero_iff.1 none_left.1).2, none_left.2⟩

/-- A recording whose tasks end after its StopRecording, then a second one that is shut down. -/
def oneAfterAnother : List DispatcherEvent :=
  [.send (.startRecording none), .send .stopRecording] ++ tasksEnd 0 ++
    [.send (.startRecording none), .call (.withTimeout none)] ++ tasksEnd 1 ++ [.caller]

theorem completed_shutdown_covers_two : ∃ d, dispatcherSystem.run .new oneAfterAnother = some d ∧
    d.generations.length = 2 ∧ d.call = some ⟨.withTimeout none, .finish true, none⟩ ∧ d.CompletedCovers :=
  ⟨_, rfl, rfl, rfl, completed_shutdown_covers ⟨_, oneAfterAnother, rfl, by decide +kernel, rfl⟩⟩

/-- A shutdown completes with the tasks of the recording before the last one still running, and one after a shutdown
that timed out completes at once. -/
theorem completed_shutdown_misses :
    (∃ d, dispatcherSystem.run .new ([.send (.startRecording none), .send (.startRecording none),
      .call (.withTimeout none)] ++ tasksEnd 1 ++ [.caller]) = some d ∧
        d.call = some ⟨.withTimeout none, .finish true, none⟩ ∧ ¬ d.CompletedCovers) ∧
      ∃ d, dispatcherSystem.run .new ([.send (.startRecording none), .call (.blockingWithTimeout (some 0)), .caller,
        .caller, .caller, .caller, .caller, .call (.blockingWithTimeout none), .caller]) = some d ∧
          d.call = some ⟨.blockingWithTimeout none, .finish true, none⟩ ∧ ¬ d.CompletedCovers := by
  refine ⟨⟨_, rfl, rfl, ?_⟩, _, rfl, rfl, ?_⟩
  all_goals
    intro covers
    exact absurd (covers _ rfl rfl _ List.mem_cons_self).1 (by decide)

end StereoMix.Ipc
