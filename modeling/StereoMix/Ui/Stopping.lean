import StereoMix.Ui.Window

/-!
# Stop and Pause

What a recording keeps. Stop sets the flag at once, and the mux loop looks at it after each receive, so what is
queued then is received and thrown away; Pause sets a field that no loop reads.
-/

namespace StereoMix.Ui

open Audio Encode EventSystem

section

variable {F : Type} [Inhabited F] (f32ToI16 : F → BitVec 16)

/-- What holds of every window whose run keeps `Ready` and, for every recording, what flows through it. -/
structure Sound (s : BsmWindow) : Prop where
  ready : Ready s
  flows : ∀ r ∈ s.recordings, r.Flows

omit [Inhabited F] in
theorem Sound.step {s t : BsmWindow} {e : WindowEvent F} (before : Sound s) (effect : Effect s e t) : Sound t where
  ready := before.ready.step effect
  flows := by
    apply effect.recordings (P := Recording.Flows)
    · intro secs event idle
      exact newRecording_flows s secs
    · intro n re r r' cause there moves flows
      exact flows.step moves
    · exact before.flows

theorem sound_init {s : BsmWindow} (init : (windowSystem f32ToI16).init s) : Sound s := by
  obtain ⟨outputDir, bitrateKbps, containerFormat, rfl⟩ := init
  constructor
  · intro n signals
    cases signals
  · intro r member
    cases member

/-- The invariant rule for recordings: what a new one has, and every event that a window's step causes preserves,
holds of every recording of every window reached. -/
theorem recordings_invariant {C : BsmWindow → WindowEvent F → Prop} {P : Recording → Prop}
    (new : ∀ s secs, P (BsmWindow.newRecording s secs))
    (pres : ∀ s e n re r r', Sound s → C s e → Causes s e n re → s.recordings[n]? = some r → r.Moves re r' → P r → P r')
    {s : BsmWindow} (reached : (windowSystem f32ToI16).ReachableWhere C s) : ∀ r ∈ s.recordings, r.Flows ∧ P r := by
  have holds : Sound s ∧ ∀ r ∈ s.recordings, P r := by
    apply invariant_where (S := windowSystem f32ToI16) (C := C) (I := fun s => Sound s ∧ ∀ r ∈ s.recordings, P r)
    · intro s init
      refine ⟨sound_init f32ToI16 init, ?_⟩
      obtain ⟨outputDir, bitrateKbps, containerFormat, rfl⟩ := init
      intro r member
      cases member
    · rintro s e t ⟨sound, before⟩ condition step
      have effect := effect_of_windowStep f32ToI16 step
      refine ⟨sound.step effect, effect.recordings ?_ ?_ before⟩
      · intro secs event idle
        exact new s secs
      · intro n re r r' cause there moves
        exact pres s e n re r r' sound condition cause there moves
    · exact reached
  intro r member
  exact ⟨holds.1.flows r member, holds.2 r member⟩

/-! ## Stop -/

/-- The mux loop has received a packet and is about to look at the flag. -/
def MuxPc.looks : MuxPc → Bool
  | .check _ => true
  | _ => false

/-- When Stop is clicked, nothing is queued in the recording and its mux loop has no packet it is yet to look at the
flag for. -/
def StopsDrained (s : BsmWindow) : WindowEvent F → Prop
  | .click .stop => ∀ r ∈ s.recordStop.bind fun n => s.recordings[n]?, r.channel.queue = [] ∧ r.mux.looks = false
  | _ => True

omit [Inhabited F] in
instance (s : BsmWindow) (e : WindowEvent F) : Decidable (StopsDrained s e) := by
  unfold StopsDrained
  split <;> infer_instance

/-- Once the mux loop has gone on to `finalize`, what had been sent when the flag was set is written. -/
def StopKeeps (s : BsmWindow) : Prop :=
  ∀ r ∈ s.recordings, r.mux.left = true → ∀ n, r.sentAtStop = some n → r.channel.sent.take n <+: r.written

/-- Everything sent before the flag is written, but for what the mux loop is about to write. -/
def Recording.Kept (r : Recording) : Prop := ∀ n, r.sentAtStop = some n → n ≤ (r.written ++ r.mux.passed).length

theorem Recording.Kept.step {r r' : Recording} {e : RecordingEvent} (before : r.Kept) (flows : r.Flows)
    (moves : r.Moves e r') (drained : e = .signal → r.mux.left = false ∧ r.channel.queue = [] ∧
      r.mux.looks = false) : r'.Kept := by
  intro n signalled
  cases moves with
  | signalled =>
    obtain ⟨inside, queue, looked⟩ := drained rfl
    obtain ⟨lost, received, lostNone⟩ := flows.written
    cases lostNone inside
    have passed : r.mux.inHand = r.mux.passed := by
      cases at_ : r.mux with
      | check taken =>
        rw [at_] at looked
        cases looked
      | _ => rfl
    rw [List.append_nil, passed, Channel.received_eq_sent queue] at received
    cases signalled
    rw [received]
  | sent at_send sends => exact before n signalled
  | wrote at_write =>
    have earlier := before n signalled
    rw [at_write] at earlier
    simpa [MuxPc.passed] using earlier
  | started at_ | received at_ | closed at_ | discarded at_ | finalized at_ | aborted at_ =>
    have earlier := before n signalled
    rw [at_] at earlier
    exact earlier
  | passed at_check =>
    have earlier := before n signalled
    rw [at_check] at earlier
    apply Nat.le_trans earlier
    simp [MuxPc.passed]
  | _ => exact before n signalled

theorem Recording.Kept.sent_written {r : Recording} (kept : r.Kept) (flows : r.Flows) (left : r.mux.left = true) {n : Nat}
    (signalled : r.sentAtStop = some n) : r.channel.sent.take n <+: r.written := by
  have all := kept n signalled
  have passed : r.mux.passed = [] := by
    cases at_ : r.mux with
    | write taken =>
      rw [at_] at left
      cases left
    | _ => rfl
  rw [passed, List.append_nil] at all
  obtain ⟨rest, same⟩ := flows.written_first
  rw [← same, List.take_append_of_le_length all]
  exact List.take_prefix n r.written

/-- **Stop loses nothing in the runs where it is clicked with the queue drained.** -/
theorem stop_keeps_packets {s : BsmWindow} (reached : (windowSystem f32ToI16).ReachableWhere StopsDrained s) :
    StopKeeps s := by
  have kept : ∀ r ∈ s.recordings, r.Flows ∧ r.Kept := by
    apply recordings_invariant f32ToI16 (C := StopsDrained) (P := Recording.Kept)
    · intro s secs n signalled
      cases signalled
    · intro s e n re r r' sound drained cause there moves before
      have flows := sound.flows r (List.mem_of_getElem? there)
      apply before.step flows moves
      rintro rfl
      cases cause with
      | signal handle =>
        obtain ⟨-, r₀, there₀, flag, sender⟩ := sound.ready n handle
        rw [there, Option.some.injEq] at there₀
        subst there₀
        refine ⟨?_, drained r (Option.bind_eq_some_iff.2 ⟨n, handle, there⟩)⟩
        by_contra left
        rcases flows.left (Bool.not_eq_false _ ▸ left) with set | dropped
        · rw [flag] at set
          cases set
        · rw [sender] at dropped
          cases dropped
    · exact reached
  intro r member left n signalled
  obtain ⟨flows, all⟩ := kept r member
  exact all.sent_written flows left signalled

/-! ## Pause -/

/-- While the window is recording and paused, the capture loop of a recording that runs on takes no frame. -/
def TakesUnpaused (s : BsmWindow) : WindowEvent F → Prop
  | .captureRead n => s.isRecording = true → s.recordingPaused = true →
      ∀ r ∈ s.recordings[n]?, r.stopFlag = false → (s.pipeline.nextFrame.bind Prod.fst) = none
  | _ => True

omit [Inhabited F] in
instance (s : BsmWindow) (e : WindowEvent F) : Decidable (TakesUnpaused s e) := by
  unfold TakesUnpaused
  split <;> infer_instance

/-- No frame taken while paused is written, and the others are written in the order they were taken. -/
def PausePauses (s : BsmWindow) : Prop :=
  ∀ r ∈ s.recordings, (∀ taken ∈ r.written, taken.paused = false) ∧
    (r.written.filter fun taken => !taken.paused) <+: r.captured.filter fun taken => !taken.paused

/-- **Pause pauses in the runs where no frame is taken while paused.** -/
theorem pause_pauses {s : BsmWindow} (reached : (windowSystem f32ToI16).ReachableWhere TakesUnpaused s) :
    PausePauses s := by
  have only : ∀ r ∈ s.recordings, r.Flows ∧ r.Only fun taken => taken.paused = false := by
    apply recordings_invariant f32ToI16 (C := TakesUnpaused) (P := Recording.Only fun taken => taken.paused = false)
    · exact newRecording_only _
    · intro s e n re r r' sound unpaused cause there moves before
      apply before.step (sound.flows r (List.mem_of_getElem? there)) moves
      intro taken took running
      obtain ⟨frame, pipeline, rfl, next, rfl⟩ := cause.of_took took
      show (s.isRecording && s.recordingPaused) = false
      by_contra paused
      obtain ⟨recording, paused⟩ := Bool.and_eq_true_iff.1 (Bool.not_eq_false _ ▸ paused)
      have nothing := unpaused recording paused r there running
      rw [next] at nothing
      cases nothing
    · exact reached
  intro r member
  obtain ⟨flows, unpaused⟩ := only r member
  constructor
  · intro taken written
    exact unpaused.written taken (List.mem_append_left _ written)
  · exact (flows.written_first.trans flows.sent_first).filter _

end

/-- A stereo device is opened, at the format the window starts with. -/
def deviceOpened : List (WindowEvent (BitVec 32)) :=
  [.click (.refresh (oneDevice .i16)), .click (.select 1 (oneDevice .i16))]

/-- The device makes a frame, and the capture loop of the first recording sends it. -/
def frameSent : List (WindowEvent (BitVec 32)) :=
  [.input 0 (.i16 [1#16, 2#16]) 0#64, .loop 0 .captureCheck, .captureRead 0, .loop 0 .captureSend]

/-- The mux loop of the first recording writes a packet. -/
def packetWritten : List (WindowEvent (BitVec 32)) := [.loop 0 .muxRecv, .loop 0 .muxCheck, .loop 0 .muxWrite]

/-- The mux loop of the first recording throws a packet away, and finalizes. -/
def packetDiscarded : List (WindowEvent (BitVec 32)) := [.loop 0 .muxRecv, .loop 0 .muxCheck, .loop 0 .muxFinalize]

/-- A frame is recorded, then one after the Stop click is thrown away. -/
def drainedRun : List (WindowEvent (BitVec 32)) :=
  deviceOpened ++ [.click (.record 0#64 true), .loop 0 .muxStart] ++ frameSent ++ packetWritten ++
    [.loop 0 .captureCheck, .click .stop, .input 0 (.i16 [3#16, 4#16]) 0#64, .captureRead 0, .loop 0 .captureSend] ++
    packetDiscarded

theorem stop_keeps_packets_drained : ∃ s, (windowSystem silence).run (.new [] 128#32 .wav) drainedRun = some s ∧
    StopKeeps s :=
  ⟨_, rfl, stop_keeps_packets silence ⟨_, drainedRun, ⟨[], 128#32, .wav, rfl⟩, by decide, rfl⟩⟩

/-- A frame is queued when Stop is clicked: the mux loop receives it, sees the flag and finalizes without it. -/
theorem stop_discards_queued : ∃ s, (windowSystem silence).run (.new [] 128#32 .wav)
    (deviceOpened ++ [.click (.record 0#64 true), .loop 0 .muxStart] ++ frameSent ++ [.click .stop] ++ packetDiscarded) =
      some s ∧ ¬ StopKeeps s := by
  refine ⟨_, rfl, ?_⟩
  intro keeps
  have written := keeps _ (List.mem_singleton_self _) rfl 1 rfl
  exact absurd written (by decide)

/-- A frame is recorded, then Pause is clicked twice with no frame between, then another is recorded. -/
def quietRun : List (WindowEvent (BitVec 32)) :=
  deviceOpened ++ [.click (.record 0#64 true), .loop 0 .muxStart] ++ frameSent ++ packetWritten ++
    [.click .pause, .click .pause] ++ frameSent ++ packetWritten

theorem pause_pauses_quiet : ∃ s, (windowSystem silence).run (.new [] 128#32 .wav) quietRun = some s ∧ PausePauses s :=
  ⟨_, rfl, pause_pauses silence ⟨_, quietRun, ⟨[], 128#32, .wav, rfl⟩, by decide, rfl⟩⟩

/-- Pause is clicked and a frame arrives: it is taken, sent and written. -/
theorem pause_records : ∃ s, (windowSystem silence).run (.new [] 128#32 .wav)
    (deviceOpened ++ [.click (.record 0#64 true), .loop 0 .muxStart, .click .pause] ++ frameSent ++ packetWritten) =
      some s ∧ ¬ PausePauses s := by
  refine ⟨_, rfl, ?_⟩
  intro pauses
  have unpaused := (pauses _ (List.mem_singleton_self _)).1 _ (List.mem_singleton_self _)
  exact absurd unpaused (by decide)

end StereoMix.Ui
