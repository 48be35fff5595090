import StereoMix.Audio.Sequence
import StereoMix.Ui.Header
import StereoMix.Ui.Stopping

/-!
# Who reads the captured frames

The monitor loop and the capture loops of all recordings read frames from one backend, each for itself. Whatever the
clicks and the interleaving, every frame goes to one reader: a recording captures exactly the frames that its loop
read, in the order the backend delivered them, and no frame is in two files.
-/

namespace StereoMix.Ui

open Audio Encode EventSystem

/-- The frames of `delivered` that reader `n` read, where `readers` names the reader of each; the monitor loop is
`none`. -/
def readBy (delivered : List Delivery) (readers : List (Option Nat)) (n : Nat) : List PcmFrame :=
  ((delivered.zip readers).filter fun p => p.2 = some n).map fun p => p.1.captured.frame

/-- The frames that each recording has captured. -/
def BsmWindow.captures (s : BsmWindow) : List (List PcmFrame) :=
  s.recordings.map fun r => r.captured.map Taken.frame

/-- Every delivered frame has one reader, and recordings have what their loops read. -/
structure Readers (s : BsmWindow) (readers : List (Option Nat)) : Prop where
  each : readers.length = s.pipeline.backend.delivered.length
  known : ∀ n, some n ∈ readers → n < s.captures.length
  captured : ∀ n frames, s.captures[n]? = some frames → frames = readBy s.pipeline.backend.delivered readers n

theorem readBy_append {delivered : List Delivery} {readers : List (Option Nat)} (d : Delivery) (reader : Option Nat)
    (each : readers.length = delivered.length) (n : Nat) :
    readBy (delivered ++ [d]) (readers ++ [reader]) n =
      readBy delivered readers n ++ if reader = some n then [d.captured.frame] else [] := by
  rw [readBy, readBy, List.zip_append each.symm, List.filter_append, List.map_append]
  congr 1
  by_cases own : reader = some n
  · simp [own]
  · simp [own]

theorem readBy_eq_nil {delivered : List Delivery} {readers : List (Option Nat)} {n : Nat} (absent : some n ∉ readers) :
    readBy delivered readers n = [] := by
  rw [readBy, List.map_eq_nil_iff, List.filter_eq_nil_iff]
  intro p member own
  rw [decide_eq_true_eq] at own
  exact absent (own ▸ (List.of_mem_zip member).2)

variable {s t : BsmWindow} {readers : List (Option Nat)}

/-- A step that delivers nothing and gives no recording a frame. -/
theorem Readers.aside (before : Readers s readers)
    (delivered : t.pipeline.backend.delivered = s.pipeline.backend.delivered) (captures : t.captures = s.captures) :
    Readers t readers := by
  refine ⟨?_, ?_, ?_⟩
  · rw [delivered]
    exact before.each
  · rw [captures]
    exact before.known
  · rw [captures, delivered]
    exact before.captured

/-- A new recording has captured nothing. -/
theorem Readers.added (before : Readers s readers)
    (delivered : t.pipeline.backend.delivered = s.pipeline.backend.delivered) (captures : t.captures = s.captures ++ [[]]) :
    Readers t readers := by
  refine ⟨?_, ?_, ?_⟩
  · rw [delivered]
    exact before.each
  · intro n member
    rw [captures, List.length_append]
    exact Nat.lt_add_right _ (before.known n member)
  · intro n frames there
    rw [delivered]
    rw [captures] at there
    rcases Parts.of_added there with old | ⟨rfl, rfl⟩
    · exact before.captured n frames old
    · refine (readBy_eq_nil fun member => ?_).symm
      exact absurd (before.known _ member) (Nat.lt_irrefl _)

/-- The monitor loop reads a frame. -/
theorem Readers.monitored (before : Readers s readers) {d : Delivery}
    (delivered : t.pipeline.backend.delivered = s.pipeline.backend.delivered ++ [d]) (captures : t.captures = s.captures) :
    Readers t (readers ++ [none]) := by
  refine ⟨?_, ?_, ?_⟩
  · rw [delivered, List.length_append, List.length_append, before.each]
    rfl
  · intro n member
    rw [captures]
    exact before.known n (by simpa using member)
  · intro n frames there
    rw [captures] at there
    rw [delivered, readBy_append d none before.each, if_neg nofun, List.append_nil]
    exact before.captured n frames there

/-- The capture loop of recording `n` reads a frame. -/
theorem Readers.read (before : Readers s readers) {n : Nat} {d : Delivery} {frames : List PcmFrame}
    (delivered : t.pipeline.backend.delivered = s.pipeline.backend.delivered ++ [d])
    (there : s.captures[n]? = some frames) (captures : t.captures = s.captures.set n (frames ++ [d.captured.frame])) :
    Readers t (readers ++ [some n]) := by
  refine ⟨?_, ?_, ?_⟩
  · rw [delivered, List.length_append, List.length_append, before.each]
    rfl
  · intro m member
    rw [captures, List.length_set]
    rcases List.mem_append.1 member with old | new
    · exact before.known m old
    · cases List.mem_singleton.1 new
      exact (List.getElem?_eq_some_iff.1 there).1
  · intro m later found
    rw [captures] at found
    rw [delivered, readBy_append d (some n) before.each]
    rcases Parts.of_set there found with ⟨rfl, rfl⟩ | ⟨apart, old⟩
    · rw [if_pos rfl, ← before.captured m frames there]
    · rw [if_neg fun same => apart (Option.some.inj same).symm, List.append_nil]
      exact before.captured m later old

/-! ## Steps of the window -/

theorem Recording.Moves.captured {r r' : Recording} {e : RecordingEvent} (moves : r.Moves e r')
    (none_taken : ∀ taken, e ≠ .took (some taken)) : r'.captured = r.captured := by
  cases moves with
  | took => exact absurd rfl (none_taken _)
  | _ => rfl

theorem captures_set {n : Nat} {r' : Recording} (set : t.recordings = s.recordings.set n r') :
    t.captures = s.captures.set n (r'.captured.map Taken.frame) := by
  rw [BsmWindow.captures, BsmWindow.captures, set, List.map_set]

theorem captures_moved {n : Nat} {r r' : Recording} (there : s.recordings[n]? = some r)
    (set : t.recordings = s.recordings.set n r') (captured : r'.captured = r.captured) : t.captures = s.captures := by
  rw [BsmWindow.captures, BsmWindow.captures, set]
  exact Parts.map_set there (congrArg (List.map Taken.frame) captured)

theorem delivered_openDevice (b : CaptureState) (host : Host) (deviceIndex : BitVec 32) (format : PcmFormat) :
    (b.openDevice host deviceIndex format).2.delivered = b.delivered := by
  unfold CaptureState.openDevice
  split <;> rfl

theorem delivered_select (host : Host) (i : Nat) (d : DeviceEntry) :
    (s.select host i d).pipeline.backend.delivered = s.pipeline.backend.delivered := by
  have opened := delivered_openDevice s.pipeline.backend host d.index s.pipeline.requestedFormat
  rw [select_backend]
  split
  · rename_i b answer
    rwa [answer] at opened
  · rename_i b answer
    rwa [answer] at opened

theorem delivered_click {c : Click} (step : s.click c = some t) :
    t.pipeline.backend.delivered = s.pipeline.backend.delivered := by
  cases c with
  | select i host =>
    obtain ⟨d, -, rfl⟩ := Option.map_eq_some_iff.1 step
    exact delivered_select host i d
  | rate i =>
    obtain ⟨r, -, rfl⟩ := Option.map_eq_some_iff.1 step
    rfl
  | record secs opened =>
    cases step
    split
    · rfl
    · cases opened <;> rfl
  | pause =>
    cases step
    split <;> rfl
  | stop =>
    unfold BsmWindow.click at step
    dsimp only at step
    split at step
    · split at step
      · cases step
        rfl
      · rw [onRecording_pipeline step]
    · cases step
      rfl
  | monitorStart =>
    cases step
    split <;> rfl
  | _ =>
    cases step
    rfl

section

variable {F : Type} [Inhabited F] (f32ToI16 : F → BitVec 16)

/-- Frames are delivered to the monitor loop and to capture loops. -/
theorem delivered_windowStep {e : WindowEvent F} (step : windowStep f32ToI16 s e = some t)
    (no_monitor : e ≠ .monitorRead) (no_capture : ∀ n, e ≠ .captureRead n) :
    t.pipeline.backend.delivered = s.pipeline.backend.delivered := by
  cases e with
  | click c => exact delivered_click (Option.ite_none_right_eq_some.1 step).2
  | stopDropTx =>
    obtain ⟨-, step⟩ := Option.ite_none_right_eq_some.1 step
    split at step
    · cases step
      rfl
    · rw [onRecording_pipeline step]
  | stopAbort =>
    obtain ⟨-, step⟩ := Option.ite_none_right_eq_some.1 step
    obtain ⟨n, -, step⟩ := Option.bind_eq_some_iff.1 step
    rw [onRecording_pipeline step]
  | stopped =>
    obtain ⟨-, step⟩ := Option.ite_none_right_eq_some.1 step
    cases step
    rfl
  | monitorRead => exact absurd rfl no_monitor
  | captureRead n => exact absurd rfl (no_capture n)
  | loop n e => rw [onRecording_pipeline step]
  | input id data now =>
    obtain ⟨backend, moved, rfl⟩ := Option.map_eq_some_iff.1 step
    obtain ⟨th, c, received, -, -, -, rfl⟩ := captureStep_input f32ToI16 moved
    rfl
  | ends id =>
    obtain ⟨backend, moved, rfl⟩ := Option.map_eq_some_iff.1 step
    obtain ⟨th, -, rfl⟩ := captureStep_ends f32ToI16 moved
    rfl

theorem Readers.step {e : WindowEvent F} (before : Readers s readers) (step : windowStep f32ToI16 s e = some t) :
    ∃ readers', Readers t readers' := by
  cases e with
  | monitorRead =>
    obtain ⟨-, step⟩ := Option.ite_none_right_eq_some.1 step
    obtain ⟨⟨frame, pipeline⟩, next, rfl⟩ := Option.map_eq_some_iff.1 step
    obtain ⟨⟨frame', backend⟩, answer, same⟩ := Option.map_eq_some_iff.1 next
    cases same
    cases nextFrame_cases answer with
    | nothing => exact ⟨readers, before.aside rfl rfl⟩
    | frame rx thread front => exact ⟨_, before.monitored rfl rfl⟩
  | captureRead n =>
    obtain ⟨⟨frame, pipeline⟩, next, step⟩ := Option.bind_eq_some_iff.1 step
    obtain ⟨⟨frame', backend⟩, answer, same⟩ := Option.map_eq_some_iff.1 next
    cases same
    obtain ⟨r, r', there, moves, rfl⟩ := onRecording_eq_some step
    have here : s.captures[n]? = some (r.captured.map Taken.frame) := by
      rw [BsmWindow.captures, List.getElem?_map, there, Option.map_some]
    cases nextFrame_cases answer with
    | nothing =>
      cases moves with
      | idled => exact ⟨readers, before.aside rfl (captures_moved there rfl rfl)⟩
    | frame rx thread front =>
      cases moves with
      | took =>
        refine ⟨_, before.read rfl here ?_⟩
        rw [captures_set rfl, List.map_append]
        rfl
  | _ =>
    have delivered := delivered_windowStep f32ToI16 step nofun nofun
    cases effect_of_windowStep f32ToI16 step with
    | aside recordings =>
      refine ⟨readers, before.aside delivered ?_⟩
      rw [BsmWindow.captures, recordings, BsmWindow.captures]
    | started secs event idle new =>
      refine ⟨readers, before.added delivered ?_⟩
      rw [BsmWindow.captures, new, List.map_append, BsmWindow.captures]
      rfl
    | @moved n re r r' cause there moves set =>
      refine ⟨readers, before.aside delivered (captures_moved there set (moves.captured fun taken took => ?_))⟩
      obtain ⟨frame, pipeline, event, -⟩ := cause.of_took took
      cases event

/-- The backend of a window runs as a backend does. -/
theorem backend_reachable (reached : (windowSystem f32ToI16).Reachable s) :
    (captureSystem f32ToI16).Reachable s.pipeline.backend := by
  refine invariant (I := fun s => (captureSystem f32ToI16).Reachable s.pipeline.backend) ?_ ?_ reached
  · rintro s ⟨outputDir, bitrateKbps, containerFormat, rfl⟩
    exact ⟨_, [], rfl, rfl⟩
  · intro s e t before step
    cases feeds_of_windowStep f32ToI16 step with
    | same backend => rwa [backend]
    | moved ce no_open step => exact before.step step
    | selected i host d event there chosen =>
      have opened := before.step (e := .openDevice host d.index s.pipeline.requestedFormat) rfl
      rw [chosen, select_backend]
      split
      · rename_i b answer
        rw [answer] at opened
        exact opened.step (e := .start) rfl
      · rename_i b answer
        rwa [answer] at opened

/-- A click that starts the monitor loop finds no recording, and one that starts a recording ends the monitor loop. -/
theorem monitorOff_click {c : Click} (off : s.isRecording = true → s.monitorThread = false)
    (step : s.click c = some t) : t.isRecording = true → t.monitorThread = false := by
  cases c with
  | select i host =>
    obtain ⟨d, -, rfl⟩ := Option.map_eq_some_iff.1 step
    obtain ⟨rates, idx, same⟩ := select_eq s host i d
    rw [same]
    exact off
  | rate i =>
    obtain ⟨r, -, rfl⟩ := Option.map_eq_some_iff.1 step
    exact off
  | record secs opened =>
    cases step
    split
    · exact off
    · cases opened <;> exact fun _ => rfl
  | pause =>
    cases step
    split <;> exact off
  | stop =>
    unfold BsmWindow.click at step
    dsimp only at step
    split at step
    · split at step
      · cases step
        exact off
      · obtain ⟨r, r', -, -, rfl⟩ := onRecording_eq_some step
        exact off
    · cases step
      exact off
  | monitorStart =>
    cases step
    split
    · exact off
    · rename_i idle
      exact fun recording => absurd recording idle
  | _ =>
    cases step
    exact off

theorem monitorOff_windowStep {e : WindowEvent F} (off : s.isRecording = true → s.monitorThread = false)
    (step : windowStep f32ToI16 s e = some t) : t.isRecording = true → t.monitorThread = false := by
  cases e with
  | click c => exact monitorOff_click off (Option.ite_none_right_eq_some.1 step).2
  | stopDropTx =>
    obtain ⟨-, step⟩ := Option.ite_none_right_eq_some.1 step
    split at step
    · cases step
      exact off
    · obtain ⟨r, r', -, -, rfl⟩ := onRecording_eq_some step
      exact off
  | stopAbort =>
    obtain ⟨-, step⟩ := Option.ite_none_right_eq_some.1 step
    obtain ⟨n, -, step⟩ := Option.bind_eq_some_iff.1 step
    obtain ⟨r, r', -, -, rfl⟩ := onRecording_eq_some step
    exact off
  | stopped =>
    obtain ⟨-, step⟩ := Option.ite_none_right_eq_some.1 step
    cases step
    exact fun _ => rfl
  | monitorRead =>
    obtain ⟨-, step⟩ := Option.ite_none_right_eq_some.1 step
    obtain ⟨next, -, rfl⟩ := Option.map_eq_some_iff.1 step
    exact off
  | captureRead n =>
    obtain ⟨next, -, step⟩ := Option.bind_eq_some_iff.1 step
    obtain ⟨r, r', -, -, rfl⟩ := onRecording_eq_some step
    exact off
  | loop n e =>
    obtain ⟨r, r', -, -, rfl⟩ := onRecording_eq_some step
    exact off
  | input | ends =>
    obtain ⟨backend, -, rfl⟩ := Option.map_eq_some_iff.1 step
    exact off

/-- While the window records the monitor loop does not run. -/
theorem monitor_off (reached : (windowSystem f32ToI16).Reachable s) (recording : s.isRecording = true) :
    s.monitorThread = false := by
  refine invariant ?_ (fun s e t => monitorOff_windowStep f32ToI16) reached recording
  rintro s ⟨outputDir, bitrateKbps, containerFormat, rfl⟩ recording
  rfl

/-- **Every captured frame has one reader.** Whatever is clicked and however the loops interleave, the backend has
delivered of each open the frames 0, 1, 2 and so on, each to one reader; what a recording wrote is a front part of what
its own loop read, in that order; and while the window records the monitor loop reads nothing. -/
theorem frames_have_one_reader (reached : (windowSystem f32ToI16).Reachable s) :
    (∃ readers : List (Option Nat), readers.length = s.pipeline.backend.delivered.length ∧
      ∀ n r, s.recordings[n]? = some r → r.written <+: r.captured ∧
        r.captured.map Taken.frame = readBy s.pipeline.backend.delivered readers n) ∧
    (∀ id, s.pipeline.backend.deliveredNumbers id = upTo (s.pipeline.backend.deliveredNumbers id).length) ∧
    (s.isRecording = true → windowStep f32ToI16 s .monitorRead = none) := by
  have shared : ∃ readers, Readers s readers := by
    refine invariant (I := fun s => ∃ readers, Readers s readers) ?_ (fun s e t before step => ?_) reached
    · rintro s ⟨outputDir, bitrateKbps, containerFormat, rfl⟩
      exact ⟨[], rfl, nofun, nofun⟩
    · obtain ⟨readers, before⟩ := before
      exact before.step f32ToI16 step
  obtain ⟨readers, shared⟩ := shared
  refine ⟨⟨readers, shared.each, fun n r there => ⟨?_, ?_⟩⟩, fun id => ?_, fun recording => ?_⟩
  · obtain ⟨s₀, es, start, run⟩ := reached
    have flows := (recordings_invariant f32ToI16 (P := fun _ => True) (fun _ _ => trivial)
      (fun _ _ _ _ _ _ _ _ _ _ _ _ => trivial) ⟨s₀, es, start, meets_true s₀ es, run⟩ r (List.mem_of_getElem? there)).1
    exact flows.written_first.trans flows.sent_first
  · apply shared.captured
    rw [BsmWindow.captures, List.getElem?_map, there, Option.map_some]
  · exact delivered_in_sequence f32ToI16 (backend_reachable f32ToI16 reached) id
  · exact if_neg (Bool.not_eq_true _ ▸ monitor_off f32ToI16 reached recording)

end

theorem frames_have_one_reader_drained : ∃ s, (windowSystem silence).run (.new [] 128#32 .wav) drainedRun = some s ∧
    ∃ readers, readers.length = 2 ∧ ∀ r, s.recordings[0]? = some r →
      r.captured.map Taken.frame = readBy s.pipeline.backend.delivered readers 0 := by
  obtain ⟨s, run, two⟩ : ∃ s, (windowSystem silence).run (.new [] 128#32 .wav) drainedRun = some s ∧
      s.pipeline.backend.delivered.length = 2 := ⟨_, rfl, rfl⟩
  obtain ⟨⟨readers, each, shared⟩, -, -⟩ :=
    frames_have_one_reader silence ⟨_, drainedRun, ⟨[], 128#32, .wav, rfl⟩, run⟩
  exact ⟨s, run, readers, each.trans two, fun r there => (shared 0 r there).2⟩

end StereoMix.Ui
