import StereoMix.Ui.Readers
import StereoMix.Encode.FlacFile
import StereoMix.Encode.WavFile

/-!
# A take is a stretch of the captured sound

`stop_recording` waits for the mux loop and not for the capture loop, which may be about to read one more frame.
Where every recording starts after the capture loops of the earlier ones are gone, nothing else reads while a recording
can still send, so its packets are a stretch of what the backend delivered, without a gap. Where one lives on it can
take a frame out of the next recording.
-/

namespace StereoMix.Ui

open Audio Encode EventSystem FlacFormat Interleaved

/-- The frames that the backend has delivered, to whichever reader. -/
def BsmWindow.delivered (s : BsmWindow) : List PcmFrame := s.pipeline.backend.delivered.map fun d => d.captured.frame

section

variable {F : Type}

def WindowEvent.isRecord : WindowEvent F → Bool
  | .click (.record _ _) => true
  | _ => false

/-- A Record click that starts a recording finds the capture loops of the earlier ones gone. -/
def RecordsAlone (s : BsmWindow) (e : WindowEvent F) : Prop :=
  e.isRecord = true → s.isRecording = false → ∀ r ∈ s.recordings, r.capture = .exited

instance (s : BsmWindow) (e : WindowEvent F) : Decidable (RecordsAlone s e) :=
  inferInstanceAs (Decidable (e.isRecord = true → s.isRecording = false → ∀ r ∈ s.recordings, r.capture = .exited))

end

/-- The capture loop reads on, and what it reads can still be sent. -/
def Recording.Live (r : Recording) : Prop := r.capture ≠ .exited ∧ r.muxGone = false

/-- What was sent in a recording is a stretch of `delivered`, and what a live one captured is its end. -/
structure Recording.Stretches (delivered : List PcmFrame) (r : Recording) : Prop where
  sent : r.channel.sent.map Taken.frame <:+: delivered
  live : r.Live → r.captured.map Taken.frame <:+ delivered

/-- Only the last recording has a capture loop, and a live one is the one being recorded. -/
structure Stretches (s : BsmWindow) : Prop where
  sound : Sound s
  off : s.isRecording = true → s.monitorThread = false
  last : ∀ (n : Nat) (r : Recording), s.recordings[n]? = some r → r.capture ≠ .exited → n + 1 = s.recordings.length
  held : ∀ (n : Nat) (r : Recording), s.recordings[n]? = some r → r.Live →
    s.isRecording = true ∧ s.recordThread = some n
  each : ∀ r ∈ s.recordings, r.Stretches s.delivered

/-! ## One recording -/

variable {r r' : Recording} {delivered : List PcmFrame}

/-- A loop that is gone does not come back. -/
theorem Recording.Moves.live {e : RecordingEvent} (moves : r.Moves e r') (live : r'.Live) : r.Live := by
  obtain ⟨capturing, muxing⟩ := live
  cases moves with
  | looked at_ | failed at_ | refused at_ | sent at_ | idled at_ | took at_ => exact ⟨by simp [at_], muxing⟩
  | started at_ | received at_ | closed at_ | discarded at_ | passed at_ | wrote at_ | finalized at_ | aborted at_ =>
    exact ⟨capturing, by simp [Recording.muxGone, at_]⟩
  | signalled | dropped => exact ⟨capturing, muxing⟩

theorem Recording.Moves.capturing {e : RecordingEvent} (moves : r.Moves e r') (capturing : r'.capture ≠ .exited) :
    r.capture ≠ .exited := by
  cases moves with
  | looked at_ | failed at_ | refused at_ | sent at_ | idled at_ | took at_ => simp [at_]
  | _ => exact capturing

/-- A packet is sent while the mux loop is there, by a capture loop that is. -/
theorem Recording.live_of_sends {le : LoopStep} (step : r.loopStep le = some r')
    (sends : r'.channel.sent ≠ r.channel.sent) : r.Live := by
  cases Recording.moves_of_loopStep step with
  | sent at_send sent =>
    refine ⟨by simp [at_send], ?_⟩
    by_contra gone
    simp only [Recording.loopStep, at_send, Bool.not_eq_false _ ▸ gone, if_true, Option.some.injEq] at step
    cases congrArg Recording.capture step
  | received at_recv receives => exact absurd receives.sent sends
  | _ => exact absurd rfl sends

/-- A step of the recording's own loops. -/
theorem Recording.Stretches.loop {le : LoopStep} (before : r.Stretches delivered) (flows : r.Flows)
    (step : r.loopStep le = some r') : r'.Stretches delivered := by
  have moves := Recording.moves_of_loopStep step
  have captured : r'.captured = r.captured := moves.captured nofun
  refine ⟨?_, fun live => captured ▸ before.live (moves.live live)⟩
  by_cases same : r'.channel.sent = r.channel.sent
  · exact same ▸ before.sent
  · have whole := captured ▸ before.live (Recording.live_of_sends step same)
    exact ((flows.step moves).sent_first.map _).isInfix.trans whole.isInfix

/-- What is delivered to another reader. -/
theorem Recording.Stretches.passed (before : r.Stretches delivered) (gone : ¬ r.Live) (frame : PcmFrame) :
    r.Stretches (delivered ++ [frame]) :=
  ⟨before.sent.trans (List.prefix_append ..).isInfix, fun live => absurd live gone⟩

/-- A frame is delivered to the recording. -/
theorem Recording.Stretches.took (before : r.Stretches delivered) (taken : Taken) (capture : r.capture ≠ .exited) :
    Recording.Stretches (delivered ++ [taken.frame])
      { r with capture := .send taken, captured := r.captured ++ [taken] } := by
  refine ⟨before.sent.trans (List.prefix_append ..).isInfix, fun live => ?_⟩
  obtain ⟨earlier, whole⟩ := before.live ⟨capture, live.2⟩
  refine ⟨earlier, ?_⟩
  rw [← whole, List.map_append, List.append_assoc]
  rfl

/-! ## The window -/

variable {s t : BsmWindow}

/-- `next_frame` delivers what it answers. -/
theorem delivered_nextFrame {frame : Option PcmFrame} {pipeline : CapturePipeline}
    (next : s.pipeline.nextFrame = some (frame, pipeline)) :
    (frame = none ∧ ({ s with pipeline } : BsmWindow).delivered = s.delivered) ∨
      ∃ c, frame = some c ∧ ({ s with pipeline } : BsmWindow).delivered = s.delivered ++ [c] := by
  obtain ⟨⟨frame', backend⟩, answer, same⟩ := Option.map_eq_some_iff.1 next
  cases same
  cases nextFrame_cases answer with
  | nothing => exact .inl ⟨rfl, rfl⟩
  | @frame id th c queue rx thread front =>
    refine .inr ⟨c.frame, rfl, ?_⟩
    rw [BsmWindow.delivered, List.map_append]
    rfl

theorem onRecording_step {n : Nat} {re : RecordingEvent} (on : s.onRecording n re = some t) :
    ∃ r r', s.recordings[n]? = some r ∧ r.step re = some r' ∧ t.recordings = s.recordings.set n r' := by
  unfold BsmWindow.onRecording at on
  split at on
  · cases on
  · rename_i r there
    obtain ⟨r', step, rfl⟩ := Option.map_eq_some_iff.1 on
    exact ⟨r, r', there, step, rfl⟩

/-- What a step leaves of the recording that is being made. -/
def SameHeld (s t : BsmWindow) : Prop := t.isRecording = s.isRecording ∧ t.recordThread = s.recordThread

theorem sameHeld_onRecording {n : Nat} {re : RecordingEvent} (on : s.onRecording n re = some t) : SameHeld s t := by
  obtain ⟨r, r', -, -, rfl⟩ := onRecording_eq_some on
  exact ⟨rfl, rfl⟩

theorem sameHeld_click {c : Click} (step : s.click c = some t)
    (no_start : ∀ secs, c = .record secs true → s.isRecording = true) : SameHeld s t := by
  cases c with
  | select i host =>
    obtain ⟨d, -, rfl⟩ := Option.map_eq_some_iff.1 step
    obtain ⟨rates, idx, same⟩ := select_eq s host i d
    rw [same]
    exact ⟨rfl, rfl⟩
  | rate i =>
    obtain ⟨r, -, rfl⟩ := Option.map_eq_some_iff.1 step
    exact ⟨rfl, rfl⟩
  | record secs opened =>
    cases step
    split
    · exact ⟨rfl, rfl⟩
    · rename_i idle
      cases opened with
      | false => exact ⟨rfl, rfl⟩
      | true => exact absurd (no_start secs rfl) idle
  | pause | monitorStart =>
    cases step
    split <;> exact ⟨rfl, rfl⟩
  | stop =>
    unfold BsmWindow.click at step
    dsimp only at step
    split at step
    · split at step
      · cases step
        exact ⟨rfl, rfl⟩
      · obtain ⟨r, r', -, -, rfl⟩ := onRecording_eq_some step
        exact ⟨rfl, rfl⟩
    · cases step
      exact ⟨rfl, rfl⟩
  | _ =>
    cases step
    exact ⟨rfl, rfl⟩

section

variable {F : Type} [Inhabited F] (f32ToI16 : F → BitVec 16)

/-- Only a Record click and the end of `stop_recording` change which recording is being made. -/
theorem sameHeld_windowStep {e : WindowEvent F} (step : windowStep f32ToI16 s e = some t)
    (no_start : ∀ secs, e = .click (.record secs true) → s.isRecording = true) (no_end : e ≠ .stopped) :
    SameHeld s t := by
  cases e with
  | click c =>
    refine sameHeld_click (Option.ite_none_right_eq_some.1 step).2 fun secs same => ?_
    exact no_start secs (congrArg WindowEvent.click same)
  | stopDropTx =>
    obtain ⟨-, step⟩ := Option.ite_none_right_eq_some.1 step
    split at step
    · cases step
      exact ⟨rfl, rfl⟩
    · obtain ⟨r, r', -, -, rfl⟩ := onRecording_eq_some step
      exact ⟨rfl, rfl⟩
  | stopAbort =>
    obtain ⟨-, step⟩ := Option.ite_none_right_eq_some.1 step
    obtain ⟨n, -, step⟩ := Option.bind_eq_some_iff.1 step
    exact sameHeld_onRecording step
  | stopped => exact absurd rfl no_end
  | monitorRead =>
    obtain ⟨-, step⟩ := Option.ite_none_right_eq_some.1 step
    obtain ⟨next, -, rfl⟩ := Option.map_eq_some_iff.1 step
    exact ⟨rfl, rfl⟩
  | captureRead n =>
    obtain ⟨next, -, step⟩ := Option.bind_eq_some_iff.1 step
    obtain ⟨r, r', -, -, rfl⟩ := onRecording_eq_some step
    exact ⟨rfl, rfl⟩
  | loop n e => exact sameHeld_onRecording step
  | input | ends =>
    obtain ⟨backend, -, rfl⟩ := Option.map_eq_some_iff.1 step
    exact ⟨rfl, rfl⟩

omit [Inhabited F] in
/-- A step that moves recording `n`. -/
theorem Stretches.moved (before : Stretches s) (sound : Sound t) (off : t.isRecording = true → t.monitorThread = false)
    (held : SameHeld s t) {n : Nat} {re : RecordingEvent} (there : s.recordings[n]? = some r) (moves : r.Moves re r')
    (set : t.recordings = s.recordings.set n r') (mine : r'.Stretches t.delivered)
    (others : ∀ m x, m ≠ n → s.recordings[m]? = some x → x.Stretches t.delivered) : Stretches t := by
  obtain ⟨isRecording, recordThread⟩ := held
  have old_or_moved {m : Nat} {x : Recording} (found : t.recordings[m]? = some x) :
      (m = n ∧ x = r') ∨ (m ≠ n ∧ s.recordings[m]? = some x) := Parts.of_set there (set ▸ found)
  refine ⟨sound, off, ?_, ?_, ?_⟩
  · intro m x found capturing
    rw [set, List.length_set]
    rcases old_or_moved found with ⟨rfl, rfl⟩ | ⟨-, old⟩
    · exact before.last m r there (moves.capturing capturing)
    · exact before.last m x old capturing
  · intro m x found live
    rw [isRecording, recordThread]
    rcases old_or_moved found with ⟨rfl, rfl⟩ | ⟨-, old⟩
    · exact before.held m r there (moves.live live)
    · exact before.held m x old live
  · intro x member
    obtain ⟨m, found⟩ := List.mem_iff_getElem?.1 member
    rcases old_or_moved found with ⟨-, rfl⟩ | ⟨other, old⟩
    · exact mine
    · exact others m x other old

omit [Inhabited F] in
/-- A step that moves at most one recording, by no read, send or start. -/
theorem Stretches.aside {e : WindowEvent F} (before : Stretches s) (sound : Sound t)
    (off : t.isRecording = true → t.monitorThread = false) (held : SameHeld s t) (delivered : t.delivered = s.delivered)
    (effect : Effect s e t) (no_start : ∀ secs, e = .click (.record secs true) → s.isRecording = true)
    (no_loop : ∀ n le, e ≠ .loop n le) (no_read : ∀ n, e ≠ .captureRead n) : Stretches t := by
  cases effect with
  | aside recordings =>
    obtain ⟨isRecording, recordThread⟩ := held
    refine ⟨sound, off, recordings ▸ before.last, ?_, ?_⟩
    · rw [recordings, isRecording, recordThread]
      exact before.held
    · rw [recordings, delivered]
      exact before.each
  | started secs event idle =>
    rw [no_start secs event] at idle
    cases idle
  | @moved n re r r' cause there moves set =>
    have kept : r'.captured = r.captured ∧ r'.channel = r.channel := by
      cases cause with
      | loop n le => exact absurd rfl (no_loop n le)
      | took n => exact absurd rfl (no_read n)
      | signal | dropSender | abort =>
        cases moves
        exact ⟨rfl, rfl⟩
    have stretches := before.each r (List.mem_of_getElem? there)
    refine before.moved sound off held there moves set ?_ fun m x _ found => ?_
    · rw [delivered]
      exact ⟨kept.2 ▸ stretches.sent, fun live => kept.1 ▸ stretches.live (moves.live live)⟩
    · rw [delivered]
      exact before.each x (List.mem_of_getElem? found)

omit [Inhabited F] in
/-- A recording starts where no capture loop is left. -/
theorem Stretches.started (secs : BitVec 64) (before : Stretches s) (sound : Sound t)
    (off : t.isRecording = true → t.monitorThread = false) (alone : ∀ r ∈ s.recordings, r.capture = .exited)
    (new : t.recordings = s.recordings ++ [s.newRecording secs]) (isRecording : t.isRecording = true)
    (recordThread : t.recordThread = some s.recordings.length) (delivered : t.delivered = s.delivered) : Stretches t := by
  refine ⟨sound, off, ?_, ?_, ?_⟩
  · intro n r found capturing
    rw [new] at found ⊢
    rcases Parts.of_added found with old | ⟨rfl, -⟩
    · exact absurd (alone r (List.mem_of_getElem? old)) capturing
    · rw [List.length_append, List.length_singleton]
  · intro n r found live
    rw [new] at found
    rcases Parts.of_added found with old | ⟨rfl, -⟩
    · exact absurd (alone r (List.mem_of_getElem? old)) live.1
    · exact ⟨isRecording, recordThread⟩
  · intro r member
    rw [delivered]
    rw [new] at member
    rcases List.mem_append.1 member with old | added
    · exact before.each r old
    · rw [List.mem_singleton.1 added]
      exact ⟨List.nil_infix, fun _ => List.nil_suffix⟩

theorem Stretches.step {e : WindowEvent F} (before : Stretches s) (alone : RecordsAlone s e)
    (step : windowStep f32ToI16 s e = some t) : Stretches t := by
  have effect := effect_of_windowStep f32ToI16 step
  have sound := before.sound.step effect
  have off := monitorOff_windowStep f32ToI16 before.off step
  cases e with
  | click c =>
    have delivered : t.delivered = s.delivered :=
      congrArg (List.map fun d => d.captured.frame) (delivered_windowStep f32ToI16 step nofun nofun)
    by_cases starts : ∃ secs, c = .record secs true ∧ s.isRecording = false
    · obtain ⟨secs, rfl, idle⟩ := starts
      obtain ⟨-, clicked⟩ := Option.ite_none_right_eq_some.1 step
      cases clicked
      refine Stretches.started secs before sound off (alone rfl idle) ?_ ?_ ?_ delivered
      all_goals
        rw [if_neg (by simp [idle])]
        rfl
    · have no_start (secs : BitVec 64) (event : WindowEvent.click c = .click (F := F) (.record secs true)) :
          s.isRecording = true := by
        cases event
        by_contra idle
        exact starts ⟨secs, rfl, Bool.not_eq_true _ ▸ idle⟩
      exact before.aside sound off (sameHeld_windowStep f32ToI16 step no_start nofun) delivered effect no_start nofun
        nofun
  | monitorRead =>
    obtain ⟨monitorThread, step⟩ := Option.ite_none_right_eq_some.1 step
    obtain ⟨⟨frame, pipeline⟩, next, rfl⟩ := Option.map_eq_some_iff.1 step
    refine ⟨sound, off, before.last, before.held, fun r member => ?_⟩
    have gone : ¬ r.Live := by
      intro live
      obtain ⟨n, found⟩ := List.mem_iff_getElem?.1 member
      rw [before.off (before.held n r found live).1] at monitorThread
      cases monitorThread
    rcases delivered_nextFrame next with ⟨-, same⟩ | ⟨c, -, more⟩
    · exact same ▸ before.each r member
    · exact more ▸ (before.each r member).passed gone c
  | captureRead n =>
    have held := sameHeld_windowStep f32ToI16 step nofun nofun
    obtain ⟨⟨frame, pipeline⟩, next, step⟩ := Option.bind_eq_some_iff.1 step
    obtain ⟨r, r', there, moves, rfl⟩ := onRecording_eq_some step
    have mine := before.each r (List.mem_of_getElem? there)
    rcases delivered_nextFrame next with ⟨rfl, same⟩ | ⟨c, rfl, more⟩
    · cases moves with
      | idled at_read =>
        refine before.moved sound off held there (.idled at_read) rfl ?_ fun m x _ found => ?_
        · exact ⟨same ▸ mine.sent, fun live => same ▸ mine.live ⟨by simp [at_read], live.2⟩⟩
        · exact same ▸ before.each x (List.mem_of_getElem? found)
    · cases moves with
      | took at_read =>
        have capturing : r.capture ≠ .exited := by simp [at_read]
        refine before.moved sound off held there (.took at_read) rfl (more ▸ mine.took ⟨c, _⟩ capturing) ?_
        intro m x apart found
        -- only the last recording has a capture loop, and this is it
        have gone : ¬ x.Live := fun live => apart (Nat.succ.inj
          ((before.last m x found live.1).trans (before.last n r there capturing).symm))
        exact more ▸ (before.each x (List.mem_of_getElem? found)).passed gone c
  | loop n le =>
    have held := sameHeld_windowStep f32ToI16 step nofun nofun
    have delivered : t.delivered = s.delivered :=
      congrArg (List.map fun d => d.captured.frame) (delivered_windowStep f32ToI16 step nofun nofun)
    obtain ⟨r, r', there, stepped, set⟩ := onRecording_step step
    refine before.moved sound off held there (Recording.moves_of_step stepped) set ?_ fun m x _ found => ?_
    · have member := List.mem_of_getElem? there
      exact delivered ▸ (before.each r member).loop (before.sound.flows r member) stepped
    · exact delivered ▸ before.each x (List.mem_of_getElem? found)
  | stopped =>
    obtain ⟨ended, step⟩ := Option.ite_none_right_eq_some.1 step
    cases step
    refine ⟨sound, off, before.last, fun n r found live => ?_, before.each⟩
    -- a live recording is the one that is being stopped, and its mux loop has ended
    have there : s.recordings[n]? = some r := found
    have muxEnded := (Bool.and_eq_true_iff.1 ended).2
    rw [BsmWindow.muxEnded, (before.held n r found live).2, Option.bind_some, there] at muxEnded
    cases live.2.symm.trans muxEnded
  | _ =>
    have delivered : t.delivered = s.delivered :=
      congrArg (List.map fun d => d.captured.frame) (delivered_windowStep f32ToI16 step nofun nofun)
    exact before.aside sound off (sameHeld_windowStep f32ToI16 step nofun nofun) delivered effect nofun nofun nofun

theorem stretches (reached : (windowSystem f32ToI16).ReachableWhere RecordsAlone s) : Stretches s := by
  refine invariant_where ?_ (fun s e t before alone step => before.step f32ToI16 alone step) reached
  intro s init
  have sound := sound_init f32ToI16 init
  obtain ⟨outputDir, bitrateKbps, containerFormat, rfl⟩ := init
  refine ⟨sound, ?_, ?_, ?_, ?_⟩
  · intro recording
    cases recording
  · intro n r found
    cases found
  · intro n r found
    cases found
  · intro r member
    cases member

/-- **A take is a stretch of the captured sound.** In a run where every recording starts after the capture loops of
the earlier ones are gone, what a recording wrote is a stretch of the frames that the backend delivered, without a gap:
the audio of its WAV file is the bytes of this stretch, and its FLAC file decodes to the samples of this stretch. -/
theorem takes_are_stretches (reached : (windowSystem f32ToI16).ReachableWhere RecordsAlone s)
    (member : r ∈ s.recordings) :
    ∃ frames, frames <:+: s.delivered ∧
      (∀ path world m world', recording WavMuxer path r.header r.codecName r.bitrateKbps (r.written.map Taken.packet)
          (.new, world) = .ok () (m, world') →
        ∃ header : WavFormat.Header, world'.files path = some (header.bytes ++ frames.flatMap PcmFrame.data)) ∧
      (1 ≤ r.header.channels.toNat ∧ r.header.channels.toNat ≤ 8 → r.header.bitDepth = 16#16 →
        r.header.sampleRate.toNat < 2 ^ 20 →
        (frames.flatMap fun frame => i16Samples frame.data).length / r.header.channels.toNat < 2 ^ 36 →
        ∀ path world m world', recording FlacMuxer path r.header r.codecName r.bitrateKbps
          (r.written.map Taken.packet) (.new, world) = .ok () (m, world') →
        ∃ file d, world'.files path = some file ∧ decode file = some d ∧
          ∀ k, k < r.header.channels.toNat → d.channel k =
            (channel r.header.channels.toNat k (frames.flatMap fun frame => i16Samples frame.data)).map BitVec.toInt) := by
  have all := stretches f32ToI16 reached
  have written := (all.sound.flows r member).written_first.map Taken.frame
  refine ⟨r.written.map Taken.frame, written.isInfix.trans (all.each r member).sent, ?_, ?_⟩
  · intro path world m world' done
    have stored := WavMuxer.recording_new_file done
    rw [packetBytes, List.flatMap_map] at stored
    rw [List.flatMap_map]
    exact ⟨_, stored⟩
  · intro chans depth rate small path world m world' done
    have stored := FlacMuxer.recording_file rfl (fun _ => chans.1) done
    rw [packetSamples, List.flatMap_map] at stored
    rw [List.flatMap_map] at small ⊢
    obtain ⟨d, decoded, -, -, -, samples⟩ := decode_flacFile chans depth rate small
    exact ⟨_, d, stored, decoded, samples⟩

end


theorem takes_are_stretches_drained : ∃ s, (windowSystem silence).run (.new [] 128#32 .wav) drainedRun = some s ∧
    ∃ r ∈ s.recordings, r.written.length = 1 ∧ ∃ frames, frames <:+: s.delivered ∧
      ∀ path world m world', recording WavMuxer path r.header r.codecName r.bitrateKbps (r.written.map Taken.packet)
        (.new, world) = .ok () (m, world') →
        ∃ header : WavFormat.Header, world'.files path = some (header.bytes ++ frames.flatMap PcmFrame.data) := by
  obtain ⟨s, run, r, member, one⟩ : ∃ s, (windowSystem silence).run (.new [] 128#32 .wav) drainedRun = some s ∧
      ∃ r ∈ s.recordings, r.written.length = 1 := ⟨_, rfl, _, List.mem_singleton_self _, rfl⟩
  obtain ⟨frames, stretch, wav, -⟩ :=
    takes_are_stretches silence ⟨_, drainedRun, ⟨[], 128#32, .wav, rfl⟩, by decide, run⟩ member
  exact ⟨s, run, r, member, one, frames, stretch, wav⟩

/-- A frame is made, and the capture loop of recording `n` reads it. -/
def frameRead (n : Nat) (sample : BitVec 16) : List (WindowEvent (BitVec 32)) :=
  [.input 0 (.i16 [sample, sample]) 0#64, .captureRead n]

/-- The mux loop of recording `n` writes what its capture loop has read. -/
def frameWritten (n : Nat) : List (WindowEvent (BitVec 32)) :=
  [.loop n .captureSend, .loop n .captureCheck, .loop n .muxRecv, .loop n .muxCheck, .loop n .muxWrite]

/-- A take is stopped while its capture loop is in `next_frame`, and the next one started at once. -/
def racedRun : List (WindowEvent (BitVec 32)) :=
  deviceOpened ++ [.click (.record 0#64 true), .loop 0 .captureCheck, .click .stop, .stopDropTx, .stopAbort, .stopped,
    .click (.record 1#64 true), .loop 1 .muxStart, .loop 1 .captureCheck] ++
    frameRead 1 1#16 ++ frameWritten 1 ++ frameRead 0 2#16 ++ frameRead 1 3#16 ++ frameWritten 1

/-- The capture loop of the stopped take reads the second frame, which the next take does not have. -/
theorem take_raced : ∃ s, (windowSystem silence).run (.new [] 128#32 .wav) racedRun = some s ∧
    ∃ r ∈ s.recordings, ¬ (r.written.map Taken.frame <:+: s.delivered) := by
  obtain ⟨s, run, delivered, r, there, written⟩ : ∃ s, (windowSystem silence).run (.new [] 128#32 .wav) racedRun =
      some s ∧ s.delivered.map PcmFrame.sequence = [0#64, 1#64, 2#64] ∧ ∃ r, s.recordings[1]? = some r ∧
        (r.written.map Taken.frame).map PcmFrame.sequence = [0#64, 2#64] := ⟨_, rfl, rfl, _, rfl, rfl⟩
  refine ⟨s, run, r, List.mem_of_getElem? there, fun stretch => ?_⟩
  have numbers := stretch.map PcmFrame.sequence
  rw [delivered, written] at numbers
  revert numbers
  decide

end StereoMix.Ui
