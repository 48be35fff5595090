import StereoMix.Encode.SessionFile

/-!
# A stopped session ends

Once `stop` is called, each task of the session has a few steps left, whatever the senders, the muxer and the operating
system do: the shutdown is polled first, so a task that comes back to its `select!` leaves its loop. As long as the call
has not returned some task can take a step. So `stop` returns as soon as the tasks have taken their steps, and then both
tasks are over.
-/

namespace StereoMix.Encode

open EventSystem FileSystem

/-- The steps of the session's tasks and of the call, not those of the senders. -/
def SessionEvent.own : SessionEvent → Bool
  | .accept _ | .closePcm | .forward => false
  | _ => true

def RecorderEvent.own : RecorderEvent → Bool
  | .session e => e.own
  | .write | .finalize => true

/-- The steps that the encoder task has left after the shutdown. -/
def EncoderPc.rank : EncoderPc → Nat
  | .recv => 3
  | .send _ => 2
  | .look => 1
  | .exited => 0

/-- The steps that the mux task has left after the shutdown. -/
def MuxTaskPc.rank : MuxTaskPc → Nat
  | .recv => 4
  | .write _ => 3
  | .look | .shutdownOnly => 2
  | .finalize => 1
  | .finished _ => 0

/-- The steps that the call of `stop` has left. -/
def StopPc.rank : StopPc → Nat
  | .uncalled => 3
  | .encoder => 2
  | .mux => 1
  | .returned _ => 0

variable {capacity : Nat}

def Session.rank (s : Session capacity) : Nat := s.encoder.rank + s.mux.rank + s.stop.rank

/-- A session whose `stop` was called: the shutdown is signalled, and the call has waited for the tasks that it went
past. -/
structure Session.Stopping (s : Session capacity) : Prop where
  called : s.stop ≠ .uncalled
  signalled : s.signalled = true
  joined : s.stop ≠ .encoder → s.encoder = .exited
  finished : ∀ answer, s.stop = .returned answer → s.mux.gone = true

theorem Session.Stopping.step {s t : Session capacity} {e : SessionEvent} (before : s.Stopping)
    (step : sessionStep s e = some t) : t.Stopping := by
  obtain ⟨called, signalled, joined, finished⟩ := before
  have not_yet (runs : s.mux.gone = false) : ∀ answer, s.stop ≠ .returned answer := by
    intro answer returned
    rw [finished answer returned] at runs
    cases runs
  have waits {pc : EncoderPc} (at_ : s.encoder = pc) (runs : pc ≠ .exited) : s.stop = .encoder := by
    by_contra past
    exact runs (at_.symm.trans (joined past))
  cases Session.moves_of_step step with
  | encoderStops => exact ⟨called, signalled, fun _ => rfl, finished⟩
  | encoderLooks at_ | encoderTakes at_ | encoderWaits at_ | encoderSends at_ =>
    have waiting := waits at_ nofun
    exact ⟨called, signalled, fun past => absurd waiting past, finished⟩
  | encoderRefused => exact ⟨called, signalled, fun _ => rfl, finished⟩
  | muxStops waiting =>
    have runs : s.mux.gone = false := by rcases waiting with at_ | at_ <;> rw [at_] <;> rfl
    exact ⟨called, signalled, joined, fun answer returned => absurd returned (not_yet runs answer)⟩
  | muxLooks at_ | muxTakes at_ | muxWaits at_ | muxWrites at_ | muxDrops at_ | muxFinalizes _ at_ =>
    have runs : s.mux.gone = false := by rw [at_]; rfl
    exact ⟨called, signalled, joined, fun answer returned => absurd returned (not_yet runs answer)⟩
  | stops uncalled => exact absurd uncalled called
  | joins waiting exited => exact ⟨nofun, signalled, fun _ => exited, nofun⟩
  | returns waiting done =>
    refine ⟨nofun, signalled, fun _ => joined (by rw [waiting]; nofun), ?_⟩
    intro answer returned
    dsimp only
    rw [done]
    rfl
  | forwarded => exact ⟨called, rfl, joined, finished⟩
  | accepted | closed => exact ⟨called, signalled, joined, finished⟩

/-- A session is stopping from the call on. -/
theorem Session.stopping_step {s t : Session capacity} {e : SessionEvent}
    (before : s.stop ≠ .uncalled → s.Stopping) (step : sessionStep s e = some t) : t.stop ≠ .uncalled → t.Stopping := by
  intro called
  by_cases uncalled : s.stop = .uncalled
  · cases Session.moves_of_step step with
    | stops => exact ⟨nofun, rfl, fun past => absurd rfl past, nofun⟩
    | joins waiting =>
      rw [uncalled] at waiting
      cases waiting
    | returns waiting =>
      rw [uncalled] at waiting
      cases waiting
    | _ => exact absurd uncalled called
  · exact (before uncalled).step step

/-- After the shutdown every step of a task brings it nearer to its end. -/
theorem Session.Stopping.lowers {s t : Session capacity} {e : SessionEvent} (before : s.Stopping)
    (step : sessionStep s e = some t) : t.rank + (if e.own then 1 else 0) ≤ s.rank := by
  have signalled := before.signalled
  cases Session.moves_of_step step with
  | encoderLooks at_ =>
    -- The shutdown is polled first: a signalled encoder task that looks leaves.
    rw [sessionStep, if_pos at_, if_pos signalled] at step
    have left : EncoderPc.exited = .recv := congrArg Session.encoder (Option.some.inj step)
    cases left
  | muxLooks at_ =>
    rw [sessionStep, if_pos at_, if_pos signalled] at step
    have left : MuxTaskPc.finalize = .recv := congrArg Session.mux (Option.some.inj step)
    cases left
  | stops uncalled => exact absurd uncalled before.called
  | encoderWaits at_ =>
    simp only [Session.rank, at_, SessionEvent.own, if_true]
    split <;> simp only [EncoderPc.rank] <;> omega
  | muxWaits at_ =>
    simp only [Session.rank, at_, SessionEvent.own, if_true]
    split <;> simp only [MuxTaskPc.rank] <;> omega
  | muxStops waiting =>
    rcases waiting with at_ | at_ <;> simp only [Session.rank, at_, MuxTaskPc.rank, SessionEvent.own, if_true] <;> omega
  | encoderStops at_ | encoderTakes at_ | encoderRefused at_ | encoderSends at_ =>
    simp only [Session.rank, at_, EncoderPc.rank, SessionEvent.own, if_true]
    omega
  | muxTakes at_ | muxWrites at_ | muxDrops at_ | muxFinalizes _ at_ =>
    simp only [Session.rank, at_, MuxTaskPc.rank, SessionEvent.own, if_true]
    omega
  | joins at_ | returns at_ =>
    simp [Session.rank, at_, StopPc.rank, SessionEvent.own]
  | _ => exact Nat.le_refl _

/-- As long as `stop` has not returned, some task can take a step. -/
theorem Session.Stopping.enabled {s : Session capacity} (stopping : s.Stopping)
    (waiting : ∀ answer, s.stop ≠ .returned answer) : ∃ e, e.own = true ∧ (sessionStep s e).isSome = true := by
  have signalled := stopping.signalled
  have muxMoves (runs : s.mux.gone = false) : ∃ e, e.own = true ∧ (sessionStep s e).isSome = true := by
    cases at_ : s.mux with
    | look => exact ⟨.muxLook, rfl, by simp [sessionStep, at_]⟩
    | shutdownOnly => exact ⟨.muxLook, rfl, by simp [sessionStep, at_, signalled]⟩
    | recv =>
      refine ⟨.muxRecv, rfl, ?_⟩
      rw [sessionStep, if_pos at_]
      split <;> rfl
    | write pkt => exact ⟨.muxWrite (.ok ()), rfl, by simp [sessionStep, at_]⟩
    | finalize => exact ⟨.muxFinalize (.ok ()), rfl, by simp [sessionStep, at_]⟩
    | finished answer =>
      rw [at_] at runs
      cases runs
  cases at_ : s.encoder with
  | look => exact ⟨.encoderLook, rfl, by simp [sessionStep, at_]⟩
  | recv =>
    refine ⟨.encoderRecv, rfl, ?_⟩
    rw [sessionStep, if_pos at_]
    split <;> rfl
  | send pkt =>
    -- A full queue is drained by the mux task or goes away with it.
    cases gone : s.mux.gone with
    | true => exact ⟨.encoderSend, rfl, by simp [sessionStep, at_, gone]⟩
    | false => exact muxMoves gone
  | exited =>
    cases call : s.stop with
    | uncalled => exact absurd call stopping.called
    | encoder => exact ⟨.stopEncoder, rfl, by simp [sessionStep, at_, call]⟩
    | mux =>
      cases mux : s.mux with
      | finished answer => exact ⟨.stopMux, rfl, by simp [sessionStep, call, mux]⟩
      | _ => exact muxMoves (by rw [mux]; rfl)
    | returned answer => exact absurd call (waiting answer)

/-! ## With the muxer -/

variable {M : Type}

/-- The mux task goes on with the muxer's answer. -/
theorem Recorder.of_call {r t : Recorder M capacity} {call : EStateM EncodeError (M × World) Unit}
    {answered : Except EncodeError Unit → SessionEvent} (called : r.call call answered = some t) :
    (call (r.muxer, r.world) = .ok () (t.muxer, t.world) ∧ sessionStep r.session (answered (.ok ())) = some t.session) ∨
      ∃ e, call (r.muxer, r.world) = .error e (t.muxer, t.world) ∧
        sessionStep r.session (answered (.error e)) = some t.session := by
  unfold Recorder.call at called
  split at called
  · rename_i done
    obtain ⟨session, moved, rfl⟩ := Option.map_eq_some_iff.1 called
    exact .inl ⟨done, moved⟩
  · rename_i e muxer world failed
    obtain ⟨session, moved, rfl⟩ := Option.map_eq_some_iff.1 called
    exact .inr ⟨e, failed, moved⟩

/-- A call of the mux task goes on with one of the answers. -/
theorem Recorder.call_step {r t : Recorder M capacity} {call : EStateM EncodeError (M × World) Unit}
    {answered : Except EncodeError Unit → SessionEvent} (step : r.call call answered = some t) :
    ∃ answer, sessionStep r.session (answered answer) = some t.session := by
  rcases Recorder.of_call step with ⟨-, moved⟩ | ⟨e, -, moved⟩
  · exact ⟨.ok (), moved⟩
  · exact ⟨.error e, moved⟩

/-- A call can be made when the session can go on with either answer. -/
theorem Recorder.call_enabled {r : Recorder M capacity} {call : EStateM EncodeError (M × World) Unit}
    {answered : Except EncodeError Unit → SessionEvent}
    (goes_on : ∀ answer, (sessionStep r.session (answered answer)).isSome = true) :
    (r.call call answered).isSome = true := by
  unfold Recorder.call
  split <;> rw [Option.isSome_map] <;> exact goes_on _

variable [AudioMuxer M]

/-- A step of the recorder is one of its session, of the same party. -/
theorem Recorder.session_step {r t : Recorder M capacity} {e : RecorderEvent} (step : recorderStep r e = some t) :
    ∃ e', e'.own = e.own ∧ sessionStep r.session e' = some t.session := by
  cases e with
  | session e =>
    obtain ⟨-, step⟩ := Option.ite_none_left_eq_some.1 step
    obtain ⟨session, moved, rfl⟩ := Option.map_eq_some_iff.1 step
    exact ⟨e, rfl, moved⟩
  | write =>
    unfold recorderStep at step
    dsimp only at step
    split at step
    · obtain ⟨answer, moved⟩ := Recorder.call_step step
      exact ⟨_, rfl, moved⟩
    · cases step
  | finalize =>
    have call : r.call AudioMuxer.finalize .muxFinalize = some t := step
    obtain ⟨answer, moved⟩ := Recorder.call_step call
    exact ⟨_, rfl, moved⟩

/-- What some task of the session can do, some task of the recorder can. -/
theorem Recorder.enabled {r : Recorder M capacity} {e : SessionEvent} (own : e.own = true)
    (goes_on : (sessionStep r.session e).isSome = true) :
    ∃ e', e'.own = true ∧ (recorderStep r e').isSome = true := by
  have alone (without : e.asksMuxer = false) : ∃ e', e'.own = true ∧ (recorderStep r e').isSome = true := by
    refine ⟨.session e, own, ?_⟩
    rw [recorderStep, without, if_neg Bool.false_ne_true, Option.isSome_map]
    exact goes_on
  cases e with
  | muxWrite answer =>
    cases at_ : r.session.mux with
    | write pkt =>
      have either : ∀ answer, (sessionStep r.session (.muxWrite answer)).isSome = true := by
        intro answer
        cases answer <;> simp [sessionStep, at_]
      refine ⟨.write, rfl, ?_⟩
      simp only [recorderStep, at_]
      exact Recorder.call_enabled either
    | _ => simp [sessionStep, at_] at goes_on
  | muxFinalize answer =>
    have at_ : r.session.mux = .finalize := by
      by_contra elsewhere
      simp [sessionStep, elsewhere] at goes_on
    have either : ∀ answer, (sessionStep r.session (.muxFinalize answer)).isSome = true := by
      intro answer
      simp [sessionStep, at_]
    exact ⟨.finalize, rfl, Recorder.call_enabled either⟩
  | accept | closePcm | forward => cases own
  | encoderLook | encoderRecv | encoderSend | muxLook | muxRecv | stop | stopEncoder | stopMux => exact alone rfl

/-- In a reachable state a session whose `stop` was called is stopping. -/
theorem Recorder.stopping {new : M} {r : Recorder M capacity} (reached : (recorderSystem new capacity).Reachable r) :
    r.session.stop ≠ .uncalled → r.session.Stopping := by
  apply invariant (S := recorderSystem new capacity) (I := fun r => r.session.stop ≠ .uncalled → r.session.Stopping) _ _
    reached
  · rintro r ⟨path, inputFormat, codec, bitrateKbps, world, -, started⟩ called
    rw [started] at called
    exact absurd rfl called
  · intro r e t before step
    obtain ⟨e', -, moved⟩ := Recorder.session_step step
    exact Session.stopping_step before moved

/-- **A stopped session ends.** After the call of `stop` the tasks of a session have at most nine steps left, in any
interleaving with the senders, and until the call has returned one of them can be taken. When it returns both tasks are
over. -/
theorem stopped_session_ends {new : M} {r t : Recorder M capacity} {es : List RecorderEvent}
    (reached : (recorderSystem new capacity).Reachable r) (called : r.session.stop ≠ .uncalled)
    (run : (recorderSystem new capacity).run r es = some t) :
    es.countP RecorderEvent.own ≤ 9 ∧
      ((∃ answer, t.session.stop = .returned answer ∧ t.session.encoder = .exited ∧ t.session.mux.gone = true) ∨
        ∃ e, e.own = true ∧ (recorderStep t e).isSome = true) := by
  have lowers : ∀ (s : Recorder M capacity) (e : RecorderEvent) (u : Recorder M capacity), s.session.Stopping →
      recorderStep s e = some u → u.session.rank + (if e.own then 1 else 0) ≤ s.session.rank := by
    intro s e u stopping step
    obtain ⟨e', same, moved⟩ := Recorder.session_step step
    rw [← same]
    exact stopping.lowers moved
  have pres : ∀ (s : Recorder M capacity) (e : RecorderEvent) (u : Recorder M capacity), s.session.Stopping →
      recorderStep s e = some u → u.session.Stopping := by
    intro s e u stopping step
    obtain ⟨e', -, moved⟩ := Recorder.session_step step
    exact stopping.step moved
  have stopping := Recorder.stopping reached called
  have ending : t.session.Stopping :=
    run_induction (C := fun _ _ => True) (I := fun s => s.session.Stopping)
      (fun s e u before _ step => pres s e u before step) stopping (meets_true r es) run
  constructor
  · have bound := countP_add_rank_le (S := recorderSystem new capacity) (I := fun s => s.session.Stopping) pres lowers
      stopping run
    have encoder : r.session.encoder.rank ≤ 3 := by
      cases r.session.encoder <;> simp [EncoderPc.rank]
    have mux : r.session.mux.rank ≤ 4 := by
      cases r.session.mux <;> simp [MuxTaskPc.rank]
    have call : r.session.stop.rank ≤ 2 := by
      cases at_ : r.session.stop with
      | uncalled => exact absurd at_ stopping.called
      | _ => simp [StopPc.rank]
    unfold Session.rank at bound
    omega
  · by_cases returned : ∃ answer, t.session.stop = .returned answer
    · obtain ⟨answer, returned⟩ := returned
      exact .inl ⟨answer, returned, ending.joined (by rw [returned]; nofun), ending.finished answer returned⟩
    · obtain ⟨e, own, goes_on⟩ := ending.enabled (not_exists.1 returned)
      exact .inr (Recorder.enabled own goes_on)

theorem stopped_session_ends_take : ∃ (r₀ r t : Recorder WavMuxer 8) (answer : Except EncodeError SessionInfo),
    (recorderSystem WavMuxer.new 8).run r₀ (takeStopped.take 8) = some r ∧
      (recorderSystem WavMuxer.new 8).run r (takeStopped.drop 8) = some t ∧
        (takeStopped.drop 8).countP RecorderEvent.own ≤ 9 ∧ t.session.stop = .returned answer := by
  have reached : ∃ (r₀ r t : Recorder WavMuxer 8), (recorderSystem WavMuxer.new 8).init r₀ ∧
      (recorderSystem WavMuxer.new 8).run r₀ (takeStopped.take 8) = some r ∧ r.session.stop ≠ .uncalled ∧
        (recorderSystem WavMuxer.new 8).run r (takeStopped.drop 8) = some t ∧
          t.session.stop = .returned (.ok ⟨"session", "take.wav", 1, 0, 4, "libopus", 48000#32, 2#16, 0#32⟩) :=
    ⟨⟨_, _, _⟩, _, _, ⟨"take.wav", silentFrame.format, "libopus", 128#32, ⟨fun _ => none, []⟩, rfl, rfl⟩, rfl, nofun,
      rfl, rfl⟩
  obtain ⟨r₀, r, t, first, run, called, rest, returned⟩ := reached
  exact ⟨r₀, r, t, _, run, rest, (stopped_session_ends ⟨r₀, _, first, run⟩ called rest).1, returned⟩

end StereoMix.Encode
