import StereoMix.Ipc.Correlation

/-!
# The server after ctrl-c

Once the flag is set no connection obeys a line: the first one it reads is answered with the farewell, after the
recordings of its dispatcher are over, and ends it. At most one more client gets in, and no recording is started.
-/

namespace StereoMix.Ipc

open EventSystem

/-! ## The dispatcher of a connection that leaves -/

/-- When no shutdown method is being called any more, the tasks of every recording are cancelled. -/
def Dispatcher.Over (d : Dispatcher) : Prop := d.call = none → ∀ gen ∈ d.generations, gen.cancelled = true

/-- What a dispatcher's own steps leave: the state, how many recordings were started, and that they are over. -/
structure Dispatcher.Rests (d d' : Dispatcher) : Prop where
  state : d'.state = d.state
  generations : d'.generations.length = d.generations.length
  ended : d.Over → d'.Over

theorem Dispatcher.cancelled_finished (d : Dispatcher) : ∀ gen ∈ d.finished.generations, gen.cancelled = true := by
  intro gen member
  obtain ⟨g, there⟩ := List.mem_iff_getElem?.1 member
  rw [getElem?_finished] at there
  obtain ⟨old, -, rfl⟩ := Option.map_eq_some_iff.1 there
  rfl

theorem Dispatcher.length_finished (d : Dispatcher) : d.finished.generations.length = d.generations.length := by
  have same : d.finished.generations.map (fun _ => ()) = d.generations.map fun _ => () :=
    map_finished (p := fun _ => ()) (fun _ => rfl) fun _ => rfl
  simpa using congrArg List.length same

theorem Dispatcher.rests {d d' : Dispatcher} {e : DispatcherEvent} (own : e.isOwn = true)
    (step : dispatcherStep d e = some d') : d.Rests d' := by
  cases Dispatcher.moves_of_step step with
  | @task g e gen graph there alive moved =>
    refine ⟨rfl, List.length_set, fun ended free => ?_⟩
    have idle : d.call = none := by
      unfold callAfter at free
      dsimp only at free
      split at free
      · split at free
        · exact Option.map_eq_none_iff.1 free
        · exact free
      · exact free
    have cancelled := ended idle gen (List.mem_of_getElem? there)
    rw [alive] at cancelled
    cases cancelled
  | caller calls next => exact ⟨rfl, rfl, fun _ => nofun⟩
  | finished calls at_finish => exact ⟨rfl, d.length_finished, fun _ _ => d.cancelled_finished⟩
  | passed => exact ⟨rfl, rfl, id⟩
  | _ => cases own

/-! ## A connection that leaves -/

/-- The answer to the Shutdown command that the server gives a dispatcher itself. -/
def farewell : Json := (ResponseEnvelope.success "shutdown").toJson

/-- A connection in its shutdown is about to write the farewell, when its recordings are over. -/
def Connection.Leaves (conn : Connection) : Prop :=
  ∀ resp, conn.pc = .shuttingDown resp → resp = farewell ∧ conn.dispatcher.Over

/-- The steps of a connection once the flag is set. -/
inductive Connection.Ends (conn : Connection) : Connection → Prop where
  | told {dispatcher : Dispatcher} (at_reading : conn.pc = .reading) (rests : conn.dispatcher.Rests dispatcher)
      (calls : dispatcher.call ≠ none) : conn.Ends { conn with dispatcher, pc := .shuttingDown farewell }
  | inside {dispatcher : Dispatcher} (alive : conn.pc ≠ .closed) (rests : conn.dispatcher.Rests dispatcher) :
      conn.Ends { conn with dispatcher }
  | answered {resp : Json} (at_answer : conn.pc = .shuttingDown resp) (free : conn.dispatcher.call = none) :
      conn.Ends { conn with pc := .closed, last := some resp }
  | gone : conn.Ends { conn with pc := .closed }

/-- The Shutdown command and the call of `shutdown_with_timeout` behind it. -/
theorem Dispatcher.rests_told {d d' : Dispatcher} (r : Reading) (id : String)
    (step : dispatcherStep (d.handleCommand r .shutdown id).1 (.call (.withTimeout (some 5000))) = some d') :
    d.Rests d' ∧ d'.call ≠ none := by
  obtain ⟨-, same⟩ := Option.ite_none_right_eq_some.1 step
  cases same
  refine ⟨⟨rfl, ?_, fun _ => nofun⟩, nofun⟩
  change (Dispatcher.signal _).generations.length = _
  rw [signal, length_onGraph]
  change d.signal.generations.length = _
  rw [signal, length_onGraph]

theorem Connection.Leaves.ends {conn conn' : Connection} (before : conn.Leaves) (ends : conn.Ends conn') :
    conn'.Leaves := by
  cases ends with
  | told at_reading rests calls =>
    rintro resp ⟨⟩
    exact ⟨rfl, fun free => absurd free calls⟩
  | inside alive rests =>
    intro resp at_answer
    obtain ⟨same, ended⟩ := before resp at_answer
    exact ⟨same, rests.ended ended⟩
  | answered | gone => exact nofun

/-- What a connection is since the flag was set: no line was obeyed, nothing was started, and if it wrote anything
it was the farewell, as its last answer and with its recordings over. -/
structure Connection.Since (conn conn' : Connection) : Prop where
  lines : conn'.lines = conn.lines
  written : conn'.written = conn.written
  state : conn'.dispatcher.state = conn.dispatcher.state
  generations : conn'.dispatcher.generations.length = conn.dispatcher.generations.length
  last : conn'.last = conn.last ∨ conn'.last = some farewell ∧ conn'.pc = .closed ∧
    ∀ gen ∈ conn'.dispatcher.generations, gen.cancelled = true

theorem Connection.Since.refl (conn : Connection) : conn.Since conn := ⟨rfl, rfl, rfl, rfl, .inl rfl⟩

theorem Connection.Since.ends {conn conn' conn'' : Connection} (before : conn.Since conn') (leaves : conn'.Leaves)
    (ends : conn'.Ends conn'') : conn.Since conn'' := by
  obtain ⟨lines, written, state, generations, last⟩ := before
  -- A connection that wrote the farewell is closed, and only goes away.
  have unanswered (alive : conn'.pc ≠ .closed) : conn'.last = conn.last := by
    rcases last with same | ⟨-, closed, -⟩
    · exact same
    · exact absurd closed alive
  cases ends with
  | told at_reading rests =>
    have alive : conn'.pc ≠ .closed := by simp [at_reading]
    exact ⟨lines, written, rests.state.trans state, rests.generations.trans generations, .inl (unanswered alive)⟩
  | inside alive rests =>
    exact ⟨lines, written, rests.state.trans state, rests.generations.trans generations, .inl (unanswered alive)⟩
  | answered at_answer free =>
    obtain ⟨same, ended⟩ := leaves _ at_answer
    exact ⟨lines, written, state, generations, .inr ⟨congrArg some same, rfl, ended free⟩⟩
  | gone =>
    refine ⟨lines, written, state, generations, ?_⟩
    rcases last with same | ⟨said, -, ended⟩
    · exact .inl same
    · exact .inr ⟨said, rfl, ended⟩

/-! ## The server -/

/-- The steps of a server that obey no line. -/
inductive IpcServer.Closing (s : IpcServer) : IpcServer → Prop where
  | accepted (accepting : s.accepting = true) :
      s.Closing { s with accepting := !s.shutdown, connections := s.connections ++ [.new] }
  | pressed : s.Closing { s with shutdown := true }
  | ends {c : Nat} {conn conn' : Connection} (there : s.connections[c]? = some conn) (ends : conn.Ends conn') :
      s.Closing { s with connections := s.connections.set c conn' }

/-- A step obeys a line only where the flag is not set. -/
theorem IpcServer.closing_of_step {serde : SerdeJson} {s t : IpcServer} {e : ServerEvent}
    (step : serverStep serde s e = some t) : s.Closing t ∨ s.shutdown = false ∧
      ∃ c conn text r, s.connections[c]? = some conn ∧ conn.pc = .reading ∧ t = s.handled serde c conn text r := by
  cases e with
  | accept =>
    obtain ⟨accepting, step⟩ := Option.ite_none_right_eq_some.1 step
    cases step
    exact .inl (.accepted accepting)
  | ctrlC =>
    cases step
    exact .inl .pressed
  | line c text r =>
    obtain ⟨conn, there, step⟩ := Option.bind_eq_some_iff.1 step
    split at step
    · rename_i at_reading
      unfold IpcServer.read at step
      split at step
      · obtain ⟨dispatcher, calls, same⟩ := Option.map_eq_some_iff.1 step
        cases same
        obtain ⟨rests, busy⟩ := Dispatcher.rests_told r "shutdown" calls
        exact .inl (.ends there (.told at_reading rests busy))
      · rename_i unset
        cases step
        exact .inr ⟨Bool.not_eq_true _ ▸ unset, c, conn, text, r, there, at_reading, rfl⟩
    · cases step
  | inside c e =>
    obtain ⟨conn, there, step⟩ := Option.bind_eq_some_iff.1 step
    split at step
    · cases step
    · rename_i alive
      obtain ⟨own, step⟩ := Option.ite_none_right_eq_some.1 step
      obtain ⟨dispatcher, moved, same⟩ := Option.map_eq_some_iff.1 step
      cases same
      exact .inl (.ends there (.inside alive (Dispatcher.rests own moved)))
  | answer c =>
    obtain ⟨conn, there, step⟩ := Option.bind_eq_some_iff.1 step
    split at step
    · rename_i resp at_answer
      obtain ⟨free, step⟩ := Option.ite_none_right_eq_some.1 step
      cases step
      exact .inl (.ends there (.answered at_answer free))
    · cases step
  | gone c =>
    obtain ⟨conn, there, same⟩ := Option.map_eq_some_iff.1 step
    cases same
    exact .inl (.ends there .gone)

/-- No connection of the server is in a shutdown that ends with anything but the farewell. -/
def IpcServer.Leaving (s : IpcServer) : Prop := ∀ (c : Nat) (conn : Connection), s.connections[c]? = some conn → conn.Leaves

theorem IpcServer.Leaving.closing {s t : IpcServer} (before : s.Leaving) (closing : s.Closing t) : t.Leaving := by
  cases closing with
  | accepted =>
    intro c conn there
    rcases Parts.of_added there with old | ⟨-, rfl⟩
    · exact before c conn old
    · exact nofun
  | pressed => exact before
  | ends there ends =>
    intro c conn found
    rcases Parts.of_set there found with ⟨rfl, rfl⟩ | ⟨-, old⟩
    · exact (before _ _ there).ends ends
    · exact before c conn old

/-- A line that is obeyed leaves its connection at its loop, or ends it. -/
theorem IpcServer.Leaving.handled {serde : SerdeJson} {s : IpcServer} {c : Nat} {conn : Connection} (before : s.Leaving)
    (there : s.connections[c]? = some conn) (at_reading : conn.pc = .reading) (text : String) (r : Reading) :
    (s.handled serde c conn text r).Leaving := by
  have changed {conn' : Connection} (leaves : conn'.Leaves) (log : List Handled) :
      IpcServer.Leaving { s with connections := s.connections.set c conn', log } := by
    intro i x found
    rcases Parts.of_set there found with ⟨rfl, rfl⟩ | ⟨-, old⟩
    · exact leaves
    · exact before i x old
  have reads (dispatcher : Dispatcher) (lines : List String) (written : List Json) :
      Connection.Leaves { conn with dispatcher, lines, written } := by
    intro resp at_answer
    cases at_reading.symm.trans at_answer
  unfold IpcServer.handled
  split
  split
  · exact changed (reads _ _ _) s.log
  · exact changed (reads _ _ _) _
  · refine changed ?_ s.log
    exact nofun

theorem leaving {serde : SerdeJson} {s : IpcServer} (reached : (serverSystem serde).Reachable s) : s.Leaving := by
  refine invariant (I := IpcServer.Leaving) ?_ ?_ reached
  · rintro s rfl c conn there
    cases there
  · intro s e t before step
    rcases IpcServer.closing_of_step step with closing | ⟨-, c, conn, text, r, there, at_reading, rfl⟩
    · exact before.closing closing
    · exact before.handled there at_reading text r

/-- What a server is since the flag was set in `s`. -/
structure IpcServer.Since (s t : IpcServer) : Prop where
  set : t.shutdown = true
  log : t.log = s.log
  kept : s.connections.length ≤ t.connections.length
  most : t.connections.length ≤ s.connections.length + 1
  more : t.accepting = true → t.connections.length ≤ s.connections.length
  since : ∀ (c : Nat) (conn : Connection), t.connections[c]? = some conn → ((s.connections[c]?).getD Connection.new).Since conn
  leaving : t.Leaving

theorem IpcServer.Since.step {serde : SerdeJson} {s t u : IpcServer} {e : ServerEvent} (before : s.Since t)
    (step : serverStep serde t e = some u) : s.Since u := by
  have next : t.Closing u := by
    rcases IpcServer.closing_of_step step with closing | ⟨unset, -⟩
    · exact closing
    · rw [before.set] at unset
      cases unset
  obtain ⟨set, log, kept, most, more, since, leaving⟩ := before
  have left := leaving.closing next
  cases next with
  | accepted accepting =>
    have fewer := more accepting
    refine ⟨set, log, ?_, ?_, ?_, ?_, left⟩
    · exact kept.trans (by simp)
    · simpa using fewer
    · simp [set]
    · intro c conn there
      rcases Parts.of_added there with old | ⟨same, rfl⟩
      · exact since c conn old
      · rw [List.getElem?_eq_none (same ▸ kept)]
        exact .refl .new
  | pressed => exact ⟨rfl, log, kept, most, more, since, left⟩
  | ends there ends =>
    refine ⟨set, log, ?_, ?_, ?_, ?_, left⟩
    · simpa using kept
    · simpa using most
    · simpa using more
    · intro c conn found
      rcases Parts.of_set there found with ⟨rfl, rfl⟩ | ⟨-, old⟩
      · exact (since _ _ there).ends (leaving _ _ there) ends
      · exact since c conn old

/-- **After ctrl-c no line is obeyed**: whatever the clients send, and in whatever order the server's parties move,
nothing is logged, at most one more client gets in, and a connection starts and stops nothing; it writes at most the
farewell, as its last answer, and not before the tasks of its recordings are cancelled. -/
theorem obeys_nothing_after_ctrlC {serde : SerdeJson} {s t : IpcServer} {es : List ServerEvent}
    (reached : (serverSystem serde).Reachable s) (set : s.shutdown = true)
    (run : (serverSystem serde).run s es = some t) :
    t.log = s.log ∧ t.connections.length ≤ s.connections.length + 1 ∧
      ∀ (c : Nat) (conn : Connection), t.connections[c]? = some conn → ((s.connections[c]?).getD Connection.new).Since conn := by
  have start : s.Since s := by
    refine ⟨set, rfl, Nat.le_refl _, Nat.le_succ _, fun _ => Nat.le_refl _, ?_, leaving reached⟩
    intro c conn there
    rw [there]
    exact .refl conn
  have since : s.Since t :=
    run_induction (C := fun _ _ => True) (fun _ _ _ before _ step => before.step step) start (meets_true s es) run
  exact ⟨since.log, since.most, since.since⟩

/-- A recording is under way at ctrl-c, its client asks for the state, and another client gets in. -/
theorem obeys_nothing_after_ctrlC_recording : ∃ s t,
    (serverSystem (requestReader ["start_recording", "get_status"])).run ⟨true, false, [], []⟩
      [.accept, .send 0 "start_recording", .ctrlC] = some s ∧
    (serverSystem (requestReader ["start_recording", "get_status"])).run s
      ([.accept, .send 0 "get_status"] ++ List.replicate 5 (.inside 0 .caller) ++
        [.inside 0 (.pass 5000), .inside 0 .caller, .inside 0 .caller, .answer 0]) = some t ∧
    (t.connections.map (·.last)) = [some farewell, none] ∧
    t.log = s.log ∧ t.connections.length ≤ s.connections.length + 1 ∧
      ∀ (c : Nat) (conn : Connection), t.connections[c]? = some conn → ((s.connections[c]?).getD Connection.new).Since conn := by
  obtain ⟨s, t, begun, set, run, last⟩ : ∃ s t, (serverSystem (requestReader ["start_recording", "get_status"])).run
      ⟨true, false, [], []⟩ [.accept, .send 0 "start_recording", .ctrlC] = some s ∧ s.shutdown = true ∧
      (serverSystem (requestReader ["start_recording", "get_status"])).run s
        ([.accept, .send 0 "get_status"] ++ List.replicate 5 (.inside 0 .caller) ++
          [.inside 0 (.pass 5000), .inside 0 .caller, .inside 0 .caller, .answer 0]) = some t ∧
      t.connections.map (·.last) = [some farewell, none] := ⟨_, _, rfl, rfl, rfl, rfl⟩
  exact ⟨s, t, begun, run, last, obeys_nothing_after_ctrlC ⟨_, _, rfl, begun⟩ set run⟩

end StereoMix.Ipc
