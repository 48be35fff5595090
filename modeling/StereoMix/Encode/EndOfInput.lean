import StereoMix.Encode.Session

/-!
# The end of a session's input

In the mux task's `select!` a closed and empty packet channel only disables the branch that receives: the shutdown branch
is still pending, so the `else` arm does not run, and the task waits for a shutdown. It leaves its loop by itself only
after a failed write.
-/

namespace StereoMix.Encode

open EventSystem

variable {capacity : Nat}

/-- A step of the mux task. -/
def SessionEvent.isMux : SessionEvent → Bool
  | .muxLook | .muxRecv | .muxWrite _ | .muxFinalize _ => true
  | _ => false

/-- No shutdown is signalled. -/
def SessionEvent.keepsGoing : SessionEvent → Bool
  | .forward | .stop => false
  | _ => true

/-- The encoder task has exited, and every packet was taken up and tried. -/
def Session.InputEnded (s : Session capacity) : Prop :=
  s.encoder = .exited ∧ s.packets.queue = [] ∧ s.mux.inHand = []

/-- The mux task goes on to finalize the file, without a shutdown. -/
def Session.GoesOn (s : Session capacity) : Prop :=
  s.mux ≠ .shutdownOnly ∧
    ∃ t, (sessionSystem capacity).Leads (fun e => e.isMux = true) s t ∧ t.mux.gone = true

theorem MuxTaskPc.left_of_gone {pc : MuxTaskPc} (gone : pc.gone = true) : pc.left = true := by
  cases pc with
  | finished answer => rfl
  | look | recv | shutdownOnly | write | finalize => cases gone

namespace Session

variable {s t : Session capacity} {e : SessionEvent}

/-- Without a shutdown the mux task is in its loop just until a write fails. -/
structure Unsignalled (s : Session capacity) : Prop where
  signalled : s.signalled = false
  left : s.mux.left = true ↔ s.framesDropped ≠ 0

theorem Unsignalled.step (before : s.Unsignalled) (going : e.keepsGoing = true) (moves : s.Moves e t) :
    t.Unsignalled := by
  obtain ⟨signalled, left⟩ := before
  -- A place in the loop is not left, so no write has failed.
  have inside (runs : s.mux.left = false) : s.framesDropped = 0 := by
    by_contra failed
    rw [left.2 failed] at runs
    cases runs
  cases moves with
  | forwarded | stops => cases going
  | encoderStops _ told => exact ⟨signalled, left⟩
  | muxStops _ told => exact absurd told (Bool.eq_false_iff.1 signalled)
  | muxLooks at_ | muxTakes at_ =>
    exact ⟨signalled, iff_of_false nofun fun failed => failed (inside (by rw [at_]; rfl))⟩
  | muxWaits at_ =>
    refine ⟨signalled, iff_of_false ?_ fun failed => failed (inside (by rw [at_]; rfl))⟩
    dsimp only
    split <;> nofun
  | muxWrites at_ => exact ⟨signalled, iff_of_false nofun fun failed => failed (inside (by rw [at_]; rfl))⟩
  | muxDrops => exact ⟨signalled, iff_of_true rfl (Nat.succ_ne_zero _)⟩
  | muxFinalizes answer at_ => exact ⟨signalled, iff_of_true rfl (left.1 (by rw [at_]; rfl))⟩
  | _ => exact ⟨signalled, left⟩

/-- A step keeps the count of failed writes at 0 exactly if it is no failed write. -/
theorem framesDropped_step (moves : s.Moves e t) :
    t.framesDropped = 0 ↔ s.framesDropped = 0 ∧ ∀ error, e ≠ .muxWrite (.error error) := by
  cases moves with
  | muxDrops => exact iff_of_false (Nat.succ_ne_zero _) fun both => both.2 _ rfl
  | _ => exact (and_iff_left nofun).symm

/-- After the end of the input, the mux task's steps keep it in its loop. -/
theorem inside_step (ended : s.InputEnded) (signalled : s.signalled = false) (inside : s.mux.left = false)
    (mux : e.isMux = true) (moves : s.Moves e t) :
    t.InputEnded ∧ t.signalled = false ∧ t.mux.left = false := by
  obtain ⟨exited, drained, nothing⟩ := ended
  cases moves with
  | muxStops _ told => exact absurd told (Bool.eq_false_iff.1 signalled)
  | muxLooks => exact ⟨⟨exited, drained, rfl⟩, signalled, rfl⟩
  | muxTakes _ receives =>
    have some_queued := receives.queue
    rw [drained] at some_queued
    cases some_queued
  | muxWaits =>
    rw [if_pos exited]
    exact ⟨⟨exited, drained, rfl⟩, signalled, rfl⟩
  | muxWrites at_ | muxDrops at_ =>
    rw [at_] at nothing
    cases nothing
  | muxFinalizes _ at_ =>
    rw [at_] at inside
    cases inside
  | _ => cases mux

/-- After the end of the input, without a shutdown, the mux task goes on just if it has left its loop. -/
theorem InputEnded.goesOn_iff (ended : s.InputEnded) (signalled : s.signalled = false) :
    s.GoesOn ↔ s.mux.left = true := by
  constructor
  · rintro ⟨-, t, leads, gone⟩
    by_contra inside
    have known : t.InputEnded ∧ t.signalled = false ∧ t.mux.left = false := by
      refine leads.induction
        (I := fun u : Session capacity => u.InputEnded ∧ u.signalled = false ∧ u.mux.left = false) ?_
        ⟨ended, signalled, Bool.eq_false_iff.2 inside⟩
      rintro u e v ⟨ended, signalled, inside⟩ mux step
      exact inside_step ended signalled inside mux (moves_of_step step)
    obtain ⟨-, -, left⟩ := known
    rw [MuxTaskPc.left_of_gone gone] at left
    cases left
  · intro left
    cases pc : s.mux with
    | finalize =>
      refine ⟨by rw [pc]; nofun, _, .single (e := .muxFinalize (.ok ())) rfl (if_pos pc), rfl⟩
    | finished answer => exact ⟨by rw [pc]; nofun, s, .refl, by rw [pc]; rfl⟩
    | look | recv | shutdownOnly | write =>
      rw [pc] at left
      cases left

end Session

/-- **At the end of its input a session that is not shut down goes on to finalize its file exactly if a write has
failed.** -/
theorem end_of_input_goes_on {start s : Session capacity} {events : List SessionEvent}
    (first : (sessionSystem capacity).init start) (run : (sessionSystem capacity).run start events = some s)
    (going : ∀ e ∈ events, e.keepsGoing = true) (ended : s.InputEnded) :
    s.GoesOn ↔ ∃ error, .muxWrite (.error error) ∈ events := by
  obtain ⟨outputFile, codec, inputFormat, rfl⟩ := first
  have start : (Session.started outputFile codec inputFormat : Session capacity).Unsignalled :=
    ⟨rfl, iff_of_false nofun fun failed => failed rfl⟩
  have pres (u : Session capacity) (e : SessionEvent) (v : Session capacity) (before : u.Unsignalled)
      (going : e.keepsGoing = true) (step : sessionStep u e = some v) : v.Unsignalled :=
    before.step going (Session.moves_of_step step)
  have known : s.Unsignalled := run_induction pres start ((meets_iff_forall run).2 going) run
  have dropped := run_iff_meets (S := sessionSystem capacity) (I := fun s => s.framesDropped = 0)
    (C := fun _ e => ∀ error, e ≠ .muxWrite (.error error))
    (fun s e t step => Session.framesDropped_step (Session.moves_of_step step)) run
  rw [meets_iff_forall run] at dropped
  have none_failed := dropped.trans (and_iff_right rfl)
  rw [ended.goesOn_iff known.signalled, known.left, ne_eq, none_failed]
  simp only [not_forall, not_not]
  constructor
  · rintro ⟨e, member, error, rfl⟩
    exact ⟨error, member⟩
  · rintro ⟨error, member⟩
    exact ⟨_, member, error, rfl⟩

/-- A frame is accepted, the sender dropped, and the frame's write refused. -/
def refusedTake : List SessionEvent :=
  [.accept silentFrame, .closePcm, .encoderLook, .encoderRecv, .encoderSend, .muxLook, .muxRecv,
    .muxWrite (.error (.muxFailed "No space left on device")), .encoderLook, .encoderRecv]

theorem end_of_input_goes_on_refused : ∃ s, (sessionSystem 8).run (.started "rec_test.wav" "libopus" silentFrame.format)
    refusedTake = some s ∧ s.GoesOn := by
  refine ⟨_, rfl, ?_⟩
  refine (@end_of_input_goes_on 8 (.started "rec_test.wav" "libopus" silentFrame.format) _ refusedTake
    ⟨"rec_test.wav", "libopus", silentFrame.format, rfl⟩ rfl (by decide) ⟨rfl, rfl, rfl⟩).2 ?_
  exact ⟨.muxFailed "No space left on device", by decide⟩

/-- The sender is dropped after a frame that is written: the mux task waits for a shutdown. -/
theorem end_of_input_waits : ∃ s, (sessionSystem 8).run (.started "rec_test.wav" "libopus" silentFrame.format)
    (frameWritten ++ [.closePcm, .encoderLook, .encoderRecv, .muxLook, .muxRecv]) = some s ∧ s.pcmClosed = true ∧
      s.InputEnded ∧ s.mux = .shutdownOnly ∧ ¬ s.GoesOn :=
  ⟨_, rfl, rfl, ⟨rfl, rfl, rfl⟩, rfl, fun goes => goes.1 rfl⟩

end StereoMix.Encode
