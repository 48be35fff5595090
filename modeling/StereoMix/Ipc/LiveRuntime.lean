import StereoMix.Ipc.Server

/-!
# The runtime in the connection handler

A StartRecording on a connection makes its dispatcher a runtime, and nothing takes that but a shutdown method or the
end of the dispatcher. In the handler both are in async code, where a runtime must not be dropped.
-/

namespace StereoMix.Ipc

open EventSystem

/-- The connection is open, and its dispatcher has a runtime. -/
def Connection.HoldsRuntime (conn : Connection) : Prop := conn.pc ≠ .closed ∧ conn.dispatcher.rt = true

/-- From `s` to `t` a handler has ended with its dispatcher's runtime, or its shutdown has dropped it. -/
def IpcServer.DropsRuntime (s t : IpcServer) : Prop :=
  ∃ (c : Nat) (conn conn' : Connection), s.connections[c]? = some conn ∧ conn.HoldsRuntime ∧
    t.connections[c]? = some conn' ∧ ¬ conn'.HoldsRuntime

/-- Nothing that can happen next drops a live runtime in async code. -/
def IpcServer.KeepsRuntimes (serde : SerdeJson) (s : IpcServer) : Prop :=
  ∀ e t, serverStep serde s e = some t → ¬ s.DropsRuntime t

/-- The line is a StartRecording. -/
def starts (serde : SerdeJson) (line : String) : Bool :=
  match parseCommand serde line with
  | .ok (.startRecording _, _) => true
  | _ => false

/-- No StartRecording is answered. -/
def NotStarted (serde : SerdeJson) (s : IpcServer) : ServerEvent → Prop
  | .line _ text _ => s.shutdown = true ∨ blank text = true ∨ starts serde text = false
  | _ => True

instance (serde : SerdeJson) (s : IpcServer) (e : ServerEvent) : Decidable (NotStarted serde s e) :=
  match e with
  | .line _ text _ => inferInstanceAs (Decidable (s.shutdown = true ∨ blank text = true ∨ starts serde text = false))
  | .accept | .ctrlC | .inside _ _ | .answer _ | .gone _ => .isTrue trivial

/-- No open connection has a runtime. -/
def IpcServer.NoRuntime (s : IpcServer) : Prop :=
  ∀ (c : Nat) (conn : Connection), s.connections[c]? = some conn → ¬ conn.HoldsRuntime

/-! ## The dispatcher's runtime -/

/-- A command makes a runtime exactly if it is StartRecording. -/
theorem rt_handleLine {serde : SerdeJson} {d : Dispatcher} (r : Reading) {line : String} (unmade : d.rt = false) :
    (handleLine serde d r line).1.rt = true ↔ ¬ (blank line = true ∨ starts serde line = false) := by
  unfold handleLine starts
  split
  · rename_i empty
    exact iff_of_false (by rw [unmade]; decide) fun none_of => none_of (.inl empty)
  · rename_i some_text
    cases parseCommand serde line with
    | error e => simp [unmade]
    | ok parsed =>
      obtain ⟨cmd, id⟩ := parsed
      cases cmd with
      | startRecording deviceIndex =>
        refine iff_of_true rfl ?_
        rintro (empty | other)
        · exact some_text empty
        · cases other
      | pauseRecording | resumeRecording =>
        unfold Dispatcher.handleCommand
        cases d.state <;> simp [unmade]
      | _ =>
        refine iff_of_false ?_ fun none_of => none_of (.inr rfl)
        exact Bool.eq_false_iff.1 unmade

/-- A subscription leaves the dispatcher as it was. -/
theorem handleLine_subscribed {serde : SerdeJson} {d d' : Dispatcher} {r : Reading} {line : String} {ack : Json}
    (handles : handleLine serde d r line = (d', .subscribed ack)) : d' = d := by
  unfold handleLine at handles
  split at handles
  · cases handles
  · split at handles <;> cases handles
    rfl

/-- The dispatcher's other steps make none. -/
theorem Dispatcher.Moves.rt {d t : Dispatcher} {e : DispatcherEvent} (moves : d.Moves e t)
    (other : ∀ r cmd id, e ≠ .command r cmd id) (unmade : d.rt = false) : t.rt = false := by
  cases moves with
  | started | stopped | paused | resumed | told | answered => exact absurd rfl (other _ _ _)
  | finished => rfl
  | task | called | caller | passed => exact unmade

/-! ## The server -/

theorem IpcServer.noRuntime_set {s : IpcServer} {c : Nat} {conn conn' : Connection} (before : s.NoRuntime)
    (there : s.connections[c]? = some conn) :
    (∀ (i : Nat) (other : Connection), (s.connections.set c conn')[i]? = some other → ¬ other.HoldsRuntime) ↔
      ¬ conn'.HoldsRuntime := by
  constructor
  · intro after
    exact after c conn' (List.getElem?_set_self (List.getElem?_eq_some_iff.1 there).1)
  · intro unheld i other found
    rcases Parts.of_set there found with ⟨-, rfl⟩ | ⟨-, old⟩
    · exact unheld
    · exact before i other old

/-- A line that is read keeps the open connections without a runtime exactly if it is blank or no StartRecording. -/
theorem IpcServer.noRuntime_handled {serde : SerdeJson} {s : IpcServer} {c : Nat} {conn : Connection} {text : String}
    {r : Reading} (before : s.NoRuntime) (there : s.connections[c]? = some conn) (opened : conn.pc ≠ .closed)
    (unmade : conn.dispatcher.rt = false) :
    (s.handled serde c conn text r).NoRuntime ↔ blank text = true ∨ starts serde text = false := by
  rw [← not_iff_not, ← rt_handleLine r unmade]
  unfold IpcServer.handled
  cases handles : handleLine serde conn.dispatcher r text with
  | mk dispatcher handling =>
    cases handling with
    | skipped | replied =>
      refine (not_congr (noRuntime_set before there)).trans (not_not.trans ?_)
      exact and_iff_right opened
    | subscribed ack =>
      rw [handleLine_subscribed handles]
      refine iff_of_false ?_ (Bool.eq_false_iff.1 unmade)
      exact fun held => held ((noRuntime_set before there).2 fun held => held.1 rfl)

/-- A step keeps the open connections without a runtime exactly if it answers no StartRecording. -/
theorem IpcServer.noRuntime_step {serde : SerdeJson} {s t : IpcServer} {e : ServerEvent} (before : s.NoRuntime)
    (step : serverStep serde s e = some t) : t.NoRuntime ↔ NotStarted serde s e := by
  have unmade {c : Nat} {conn : Connection} (there : s.connections[c]? = some conn) (opened : conn.pc ≠ .closed) :
      conn.dispatcher.rt = false :=
    Bool.eq_false_iff.2 fun made => before c conn there ⟨opened, made⟩
  cases e with
  | accept =>
    obtain ⟨-, step⟩ := Option.ite_none_right_eq_some.1 step
    cases step
    refine iff_of_true ?_ trivial
    intro c conn found
    rcases Parts.of_added found with old | ⟨-, rfl⟩
    · exact before c conn old
    · exact fun held => nomatch held.2
  | ctrlC =>
    cases step
    exact iff_of_true before trivial
  | line c text r =>
    obtain ⟨conn, there, step⟩ := Option.bind_eq_some_iff.1 step
    split at step
    · rename_i at_loop
      have none_made := unmade there (by rw [at_loop]; nofun)
      unfold IpcServer.read at step
      split at step
      · rename_i set
        obtain ⟨dispatcher, called, same⟩ := Option.map_eq_some_iff.1 step
        cases same
        refine iff_of_true ((noRuntime_set before there).2 ?_) (.inl set)
        rintro ⟨-, made⟩
        have still := (Dispatcher.moves_of_step called).rt nofun none_made
        exact Bool.eq_false_iff.1 still made
      · rename_i unset
        cases step
        have opened : conn.pc ≠ .closed := by rw [at_loop]; nofun
        exact (noRuntime_handled before there opened none_made).trans (or_iff_right unset).symm
    · cases step
  | inside c e =>
    obtain ⟨conn, there, step⟩ := Option.bind_eq_some_iff.1 step
    split at step
    · cases step
    · rename_i opened
      obtain ⟨own, step⟩ := Option.ite_none_right_eq_some.1 step
      obtain ⟨dispatcher, moved, same⟩ := Option.map_eq_some_iff.1 step
      cases same
      refine iff_of_true ((noRuntime_set before there).2 ?_) trivial
      rintro ⟨-, made⟩
      have still := (Dispatcher.moves_of_step moved).rt (by rintro r cmd id rfl; cases own) (unmade there opened)
      exact Bool.eq_false_iff.1 still made
  | answer c =>
    obtain ⟨conn, there, step⟩ := Option.bind_eq_some_iff.1 step
    split at step
    · obtain ⟨-, step⟩ := Option.ite_none_right_eq_some.1 step
      cases step
      exact iff_of_true ((noRuntime_set before there).2 fun held => held.1 rfl) trivial
    · cases step
  | gone c =>
    obtain ⟨conn, there, same⟩ := Option.map_eq_some_iff.1 step
    cases same
    exact iff_of_true ((noRuntime_set before there).2 fun held => held.1 rfl) trivial

/-- A client may go away at any time, so a connection that has a runtime may end with it. -/
theorem IpcServer.keepsRuntimes_iff {serde : SerdeJson} {s : IpcServer} : s.KeepsRuntimes serde ↔ s.NoRuntime := by
  constructor
  · intro keeps c conn there held
    have inside := (List.getElem?_eq_some_iff.1 there).1
    have gone : serverStep serde s (.gone c) =
        some { s with connections := s.connections.set c { conn with pc := .closed } } := by
      unfold serverStep
      dsimp only
      rw [there]
      rfl
    exact keeps _ _ gone ⟨c, conn, { conn with pc := .closed }, there, held, List.getElem?_set_self inside,
      fun after => after.1 rfl⟩
  · rintro none_held e t - ⟨c, conn, conn', there, held, -⟩
    exact none_held c conn there held

/-- **No handler ever drops a live runtime, exactly in the runs that answer no StartRecording.** -/
theorem handler_keeps_runtime {serde : SerdeJson} {events : List ServerEvent} {s : IpcServer}
    (run : (serverSystem serde).run ⟨true, false, [], []⟩ events = some s) :
    (serverSystem serde).Throughout (IpcServer.KeepsRuntimes serde) ⟨true, false, [], []⟩ events ↔
      (serverSystem serde).Meets (NotStarted serde) ⟨true, false, [], []⟩ events := by
  have start : (⟨true, false, [], []⟩ : IpcServer).KeepsRuntimes serde :=
    IpcServer.keepsRuntimes_iff.2 fun _ _ there => nomatch there
  apply throughout_iff_meets (J := fun _ => True) (fun _ _ _ _ _ => trivial) _ trivial start run
  intro s e t _ keeps step
  exact IpcServer.keepsRuntimes_iff.trans (IpcServer.noRuntime_step (IpcServer.keepsRuntimes_iff.1 keeps) step)

/-- A client asks for the state, stops what is not recording, and goes away. -/
theorem handler_keeps_runtime_status : (serverSystem (requestReader COMMANDS)).Throughout
    (IpcServer.KeepsRuntimes (requestReader COMMANDS)) ⟨true, false, [], []⟩
    [.accept, .send 0 "get_status", .send 0 "stop_recording", .gone 0] := by
  rw [@handler_keeps_runtime _ [.accept, .send 0 "get_status", .send 0 "stop_recording", .gone 0] _ rfl]
  decide +kernel

/-- A client starts a recording and goes away, and the dispatcher is dropped with its runtime. Another one's runtime is
dropped by the shutdown that its handler awaits. -/
theorem handler_drops_runtime :
    (∃ s t, (serverSystem (requestReader COMMANDS)).run ⟨true, false, [], []⟩ [.accept, .send 0 "start_recording"] =
      some s ∧ serverStep (requestReader COMMANDS) s (.gone 0) = some t ∧ s.DropsRuntime t) ∧
    ∃ s t, (serverSystem (requestReader COMMANDS)).run ⟨true, false, [], []⟩ ([.accept, .send 0 "start_recording",
      .ctrlC, .send 0 "get_status"] ++ (tasksEnd 0).map (.inside 0) ++ [.inside 0 .caller]) = some s ∧
        serverStep (requestReader COMMANDS) s (.inside 0 .caller) = some t ∧ s.DropsRuntime t :=
  ⟨⟨_, _, rfl, rfl, 0, _, _, rfl, ⟨nofun, rfl⟩, rfl, fun held => held.1 rfl⟩,
    _, _, rfl, rfl, 0, _, _, rfl, ⟨nofun, rfl⟩, rfl, fun held => nomatch held.2⟩

end StereoMix.Ipc
