import StereoMix.Ui.Stopping

/-!
# The header and the audio

A recording's header is the format requested when Record is clicked; its frames carry the stamp of the capture that
the last successful open started. The two agree in the runs where they agree at every Record click, and where a
device opened during a recording comes with the header's format.
-/

namespace StereoMix.Ui

open Audio Encode EventSystem

section

variable {F : Type} [Inhabited F] (f32ToI16 : F → BitVec 16)

/-- What a click on a device starts, if it is opened. -/
def BsmWindow.opens (s : BsmWindow) (host : Host) (i : Nat) : Option Capture :=
  s.devices[i]?.bind fun d =>
    (s.pipeline.backend.backend.openDevice host d.index s.pipeline.requestedFormat
      s.pipeline.backend.threads.length).1.toOption

/-- When Record is clicked the open device's frames are in the requested format, and a device opened while a
recording runs has frames in its header's format. -/
def KeepsHeader (s : BsmWindow) : WindowEvent F → Prop
  | .click (.record _ true) => s.isRecording = false →
      ∀ c ∈ s.pipeline.backend.source, c.stamp = s.pipeline.requestedFormat
  | .click (.select i host) => ∀ c ∈ s.opens host i, ∀ r ∈ s.recordings, r.stopFlag = false → c.stamp = r.header
  | _ => True

omit [Inhabited F] in
instance (s : BsmWindow) : (e : WindowEvent F) → Decidable (KeepsHeader s e)
  | .click (.record _ true) => inferInstanceAs (Decidable (_ → ∀ c ∈ s.pipeline.backend.source, _))
  | .click (.select i host) => inferInstanceAs (Decidable (∀ c ∈ s.opens host i, ∀ r ∈ s.recordings, _ → _))
  | .click (.record _ false) | .click (.refresh _) | .click (.rate _) | .click .stereo | .click .mono
  | .click (.container _) | .click (.bitrate _) | .click (.browse _) | .click .pause | .click .stop
  | .click .monitorStart | .stopDropTx | .stopAbort | .stopped | .monitorRead | .captureRead _ | .loop _ _
  | .input _ _ _ | .ends _ => .isTrue trivial

/-- Every frame written is in the format that the muxer was opened with. -/
def HeaderDescribes (s : BsmWindow) : Prop :=
  ∀ r ∈ s.recordings, ∀ taken ∈ r.written, taken.frame.format = r.header

/-! ## Where the window's frames come from -/

theorem select_backend (s : BsmWindow) (host : Host) (i : Nat) (d : DeviceEntry) :
    (s.select host i d).pipeline.backend =
      match s.pipeline.backend.openDevice host d.index s.pipeline.requestedFormat with
      | (.ok _, b) => { b with backend := b.backend.start }
      | (.error _, b) => b := by
  obtain ⟨rates, idx, same⟩ := select_eq s host i d
  rw [same]
  unfold openSelected CapturePipeline.openWithConfig
  generalize s.pipeline.backend.openDevice host d.index s.pipeline.requestedFormat = opened
  obtain ⟨answer | _, backend⟩ := opened <;> rfl

/-- What a step can do to the capture backend: nothing, a step of its own that opens nothing, a click on a device. -/
inductive Feeds (s : BsmWindow) (e : WindowEvent F) (t : BsmWindow) : Prop where
  | same (backend : t.pipeline.backend = s.pipeline.backend)
  | moved (ce : CaptureEvent F) (no_open : ∀ host deviceIndex format, ce ≠ .openDevice host deviceIndex format)
      (step : captureStep f32ToI16 s.pipeline.backend ce = some t.pipeline.backend)
  | selected (i : Nat) (host : Host) (d : DeviceEntry) (event : e = .click (.select i host))
      (there : s.devices[i]? = some d) (chosen : t = s.select host i d)

theorem onRecording_pipeline {s t : BsmWindow} {n : Nat} {re : RecordingEvent} (on : s.onRecording n re = some t) :
    t.pipeline = s.pipeline := by
  obtain ⟨r, r', -, -, rfl⟩ := onRecording_eq_some on
  rfl

theorem nextFrame_moved {s : BsmWindow} {frame : Option PcmFrame} {pipeline : CapturePipeline}
    (next : s.pipeline.nextFrame = some (frame, pipeline)) :
    captureStep f32ToI16 s.pipeline.backend .nextFrame = some pipeline.backend := by
  obtain ⟨⟨frame', backend⟩, answer, same⟩ := Option.map_eq_some_iff.1 next
  cases same
  exact congrArg (Option.map Prod.snd) answer

theorem feeds_of_windowStep {s t : BsmWindow} {e : WindowEvent F} (step : windowStep f32ToI16 s e = some t) :
    Feeds f32ToI16 s e t := by
  cases e with
  | click c =>
    obtain ⟨-, step⟩ := Option.ite_none_right_eq_some.1 step
    cases c with
    | select i host =>
      obtain ⟨d, there, rfl⟩ := Option.map_eq_some_iff.1 step
      exact .selected i host d rfl there rfl
    | rate i =>
      obtain ⟨r, -, rfl⟩ := Option.map_eq_some_iff.1 step
      exact .same rfl
    | record secs opened =>
      cases step
      split
      · exact .same rfl
      · cases opened <;> exact .same rfl
    | pause =>
      cases step
      split <;> exact .same rfl
    | stop =>
      unfold BsmWindow.click at step
      dsimp only at step
      split at step
      · split at step
        · cases step
          exact .same rfl
        · have kept := onRecording_pipeline step
          exact .same (congrArg CapturePipeline.backend kept)
      · cases step
        exact .same rfl
    | monitorStart =>
      cases step
      split <;> exact .same rfl
    | _ =>
      cases step
      exact .same rfl
  | stopDropTx =>
    obtain ⟨-, step⟩ := Option.ite_none_right_eq_some.1 step
    split at step
    · cases step
      exact .same rfl
    · have kept := onRecording_pipeline step
      exact .same (congrArg CapturePipeline.backend kept)
  | stopAbort =>
    obtain ⟨-, step⟩ := Option.ite_none_right_eq_some.1 step
    obtain ⟨n, -, step⟩ := Option.bind_eq_some_iff.1 step
    exact .same (congrArg CapturePipeline.backend (onRecording_pipeline step))
  | stopped =>
    obtain ⟨-, step⟩ := Option.ite_none_right_eq_some.1 step
    cases step
    exact .same rfl
  | monitorRead =>
    obtain ⟨-, step⟩ := Option.ite_none_right_eq_some.1 step
    obtain ⟨⟨frame, pipeline⟩, next, rfl⟩ := Option.map_eq_some_iff.1 step
    exact .moved .nextFrame nofun (nextFrame_moved f32ToI16 next)
  | captureRead n =>
    obtain ⟨⟨frame, pipeline⟩, next, step⟩ := Option.bind_eq_some_iff.1 step
    refine .moved .nextFrame nofun ?_
    rw [onRecording_pipeline step]
    exact nextFrame_moved f32ToI16 next
  | loop n e => exact .same (congrArg CapturePipeline.backend (onRecording_pipeline step))
  | input id data now =>
    obtain ⟨backend, moved, rfl⟩ := Option.map_eq_some_iff.1 step
    exact .moved (.input id data now) nofun moved
  | ends id =>
    obtain ⟨backend, moved, rfl⟩ := Option.map_eq_some_iff.1 step
    exact .moved (.ends id) nofun moved

theorem select_source (s : BsmWindow) (host : Host) {i : Nat} {d : DeviceEntry} (there : s.devices[i]? = some d) :
    (s.select host i d).pipeline.backend.source = (s.opens host i).or s.pipeline.backend.source := by
  have opened := openDevice_source s.pipeline.backend host d.index s.pipeline.requestedFormat
  rw [select_backend, BsmWindow.opens, there, Option.bind_some]
  unfold CaptureState.openDevice at opened ⊢
  generalize s.pipeline.backend.backend.openDevice host d.index s.pipeline.requestedFormat
    s.pipeline.backend.threads.length = answer at opened ⊢
  obtain ⟨answer | c, backend⟩ := answer
  · exact opened
  · exact opened

theorem Feeds.fed {s t : BsmWindow} {e : WindowEvent F} (feeds : Feeds f32ToI16 s e t)
    (fed : s.pipeline.backend.Fed) : t.pipeline.backend.Fed := by
  cases feeds with
  | same backend => rwa [backend]
  | moved ce no_open step => exact fed.step f32ToI16 (stepped_of_captureStep f32ToI16 step)
  | selected i host d event there chosen =>
    have opened : (s.pipeline.backend.openDevice host d.index s.pipeline.requestedFormat).2.Fed :=
      fed.step f32ToI16 (stepped_of_captureStep f32ToI16 (e := .openDevice host d.index s.pipeline.requestedFormat) rfl)
    rw [chosen, select_backend]
    split
    · rename_i b answer
      rw [answer] at opened
      exact opened.step f32ToI16 (stepped_of_captureStep f32ToI16 (e := .start) rfl)
    · rename_i b answer
      rw [answer] at opened
      exact opened

/-! ## The recordings -/

/-- The frames of the open device are in the format of every running recording. -/
def InTune (s : BsmWindow) : Prop :=
  ∀ r ∈ s.recordings, r.stopFlag = false → ∀ c ∈ s.pipeline.backend.source, c.stamp = r.header

theorem InTune.step {s t : BsmWindow} {e : WindowEvent F} (before : InTune s) (keeps : KeepsHeader s e)
    (step : windowStep f32ToI16 s e = some t) : InTune t := by
  have effect := effect_of_windowStep f32ToI16 step
  have kept (source : t.pipeline.backend.source = s.pipeline.backend.source) : InTune t := by
    apply effect.recordings (P := fun r => r.stopFlag = false → ∀ c ∈ t.pipeline.backend.source, c.stamp = r.header)
    · intro secs event idle running c inside
      subst event
      rw [source] at inside
      exact keeps idle c inside
    · intro n re r r' cause there moves before running c inside
      rw [moves.header]
      exact before (moves.stopFlag running) c inside
    · intro r member running
      rw [source]
      exact before r member running
  cases feeds_of_windowStep f32ToI16 step with
  | same backend => exact kept (congrArg CaptureState.source backend)
  | moved ce no_open step => exact kept (source_step f32ToI16 (stepped_of_captureStep f32ToI16 step) no_open)
  | selected i host d event there chosen =>
    subst event
    obtain ⟨rates, idx, eq⟩ := select_eq s host i d
    have same : t.recordings = s.recordings := by rw [chosen, eq]
    intro r member running c source
    rw [same] at member
    rw [chosen, select_source s host there, Option.mem_def, Option.or_eq_some_iff] at source
    rcases source with opens | ⟨-, earlier⟩
    · exact keeps c opens r member running
    · exact before r member running c earlier

/-- What holds of every window whose run keeps the headers. -/
structure Described (s : BsmWindow) : Prop where
  sound : Sound s
  fed : s.pipeline.backend.Fed
  inTune : InTune s
  only : ∀ r ∈ s.recordings, r.Only fun taken => taken.frame.format = r.header

theorem described_init {s : BsmWindow} (init : (windowSystem f32ToI16).init s) : Described s := by
  have sound := sound_init f32ToI16 init
  obtain ⟨outputDir, bitrateKbps, containerFormat, rfl⟩ := init
  refine ⟨sound, fed_new, ?_, ?_⟩
  · intro r member
    cases member
  · intro r member
    cases member

theorem Described.step {s t : BsmWindow} {e : WindowEvent F} (before : Described s) (keeps : KeepsHeader s e)
    (step : windowStep f32ToI16 s e = some t) : Described t := by
  have effect := effect_of_windowStep f32ToI16 step
  refine ⟨before.sound.step effect, (feeds_of_windowStep f32ToI16 step).fed f32ToI16 before.fed,
    before.inTune.step f32ToI16 keeps step, ?_⟩
  apply effect.recordings (P := fun r => r.Only fun taken => taken.frame.format = r.header)
  · intro secs event idle
    exact newRecording_only _ s secs
  · intro n re r r' cause there moves only
    have member := List.mem_of_getElem? there
    rw [moves.header]
    apply only.step (before.sound.flows r member) moves
    intro taken took running
    obtain ⟨frame, pipeline, -, next, rfl⟩ := cause.of_took took
    obtain ⟨⟨answer, backend⟩, answered, same⟩ := Option.map_eq_some_iff.1 next
    cases same
    obtain ⟨c, source, stamped⟩ := nextFrame_stamp before.fed answered
    exact stamped.trans (before.inTune r member running c source)
  · exact before.only

/-- **The header describes the audio in the runs that keep it.** -/
theorem header_describes {s : BsmWindow} (reached : (windowSystem f32ToI16).ReachableWhere KeepsHeader s) :
    HeaderDescribes s := by
  have described : Described s := by
    apply invariant_where (S := windowSystem f32ToI16) (C := KeepsHeader) (I := Described)
    · exact fun s init => described_init f32ToI16 init
    · exact fun s e t before keeps step => before.step f32ToI16 keeps step
    · exact reached
  intro r member taken written
  exact (described.only r member).written taken (List.mem_append_left _ written)

end

/-- A frame of the format that was opened is recorded. -/
def keptRun : List (WindowEvent (BitVec 32)) :=
  deviceOpened ++ [.click (.record 0#64 true), .loop 0 .muxStart] ++ frameSent ++ packetWritten

theorem header_describes_kept : ∃ s, (windowSystem silence).run (.new [] 128#32 .wav) keptRun = some s ∧
    HeaderDescribes s :=
  ⟨_, rfl, header_describes silence ⟨_, keptRun, ⟨[], 128#32, .wav, rfl⟩, by decide, rfl⟩⟩

/-- A device is opened at 48 kHz, 44.1 kHz is clicked, and a recording started: its header says 44.1 kHz, and the
frame written is one at 48 kHz. -/
theorem header_misdescribes : ∃ s, (windowSystem silence).run (.new [] 128#32 .wav)
    (deviceOpened ++ [.click (.rate 0), .click (.record 0#64 true), .loop 0 .muxStart] ++ frameSent ++ packetWritten) =
      some s ∧ ¬ HeaderDescribes s := by
  refine ⟨_, rfl, ?_⟩
  intro describes
  have same := describes _ (List.mem_singleton_self _) _ (List.mem_singleton_self _)
  exact absurd same (by decide)

end StereoMix.Ui
