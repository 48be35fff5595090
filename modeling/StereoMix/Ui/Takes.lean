import StereoMix.Ui.Window
import Mathlib

/-!
# The files of a window's takes

`start_recording` names a take by the whole second it starts in and opens the file with truncation, whatever is there.
So a take overwrites an earlier one exactly if that one is still on disk and was started in the same second, with the
same folder and container.
-/

namespace StereoMix.Ui

open Audio Encode EventSystem

/-- What a take was started with, and whether its file is still on disk. -/
structure Take where
  outputDir : PathBuf
  secs : BitVec 64
  container : ContainerFormat
  onDisk : Bool
  deriving DecidableEq, Repr

def Take.path (take : Take) : PathBuf := take.outputDir ++ [s!"recording-{take.secs.toNat}.{take.container.extension}"]

/-- The window and its takes, one for each recording. -/
structure Takes where
  window : BsmWindow
  takes : List Take

/-- A step of the window, or the removal of a take's file. -/
inductive TakesEvent (F : Type) where
  | window (e : WindowEvent F)
  | delete (n : Nat)

/-- The take that a click on Record starts now. -/
def BsmWindow.take (self : BsmWindow) (secs : BitVec 64) : Take := ⟨self.outputDir, secs, self.containerFormat, true⟩

/-- The takes after a step of the window. -/
def Takes.after {F : Type} (s : Takes) : WindowEvent F → List Take
  | .click (.record secs true) => if s.window.isRecording then s.takes else s.takes ++ [s.window.take secs]
  | _ => s.takes

section

variable {F : Type} [Inhabited F] (f32ToI16 : F → BitVec 16)

def takesStep (s : Takes) : TakesEvent F → Option Takes
  | .window e => (windowStep f32ToI16 s.window e).map fun window => ⟨window, s.after e⟩
  | .delete n => some { s with takes := s.takes.modify n fun take => { take with onDisk := false } }

/-- The window with its takes, from its start. -/
def takesSystem : EventSystem Takes (TakesEvent F) where
  init s := ∃ outputDir bitrateKbps containerFormat, s = ⟨.new outputDir bitrateKbps containerFormat, []⟩
  step := takesStep f32ToI16

end

/-- The path that a click on Record opens is not that of an earlier recording whose file is still on disk. -/
def OpensNewPath {F : Type} (s : Takes) (e : TakesEvent F) : Prop :=
  ∀ secs opened, e = .window (.click (.record secs opened)) → s.window.isRecording = false →
    ∀ (n : Nat) r take, s.window.recordings[n]? = some r → s.takes[n]? = some take → take.onDisk = true →
      r.path ≠ (s.window.newRecording secs).path

/-- No take on disk was started in the second that the clock reads, with the folder and the container chosen now. -/
def NewSecond {F : Type} (s : Takes) (e : TakesEvent F) : Prop :=
  ∀ secs opened, e = .window (.click (.record secs opened)) → s.window.isRecording = false →
    ∀ take ∈ s.takes, take.onDisk = true →
      ¬ (take.outputDir = s.window.outputDir ∧ take.secs = secs ∧ take.container = s.window.containerFormat)

/-! ## Names -/

/-- A recording's name tells the second and the container. -/
theorem name_inj {a b : BitVec 64} {c d : ContainerFormat}
    (same : s!"recording-{a.toNat}.{c.extension}" = s!"recording-{b.toNat}.{d.extension}") : a = b ∧ c = d := by
  replace same : "recording-" ++ a.toNat.repr ++ "." ++ c.extension =
      "recording-" ++ b.toNat.repr ++ "." ++ d.extension := same
  have containers : c = d := by
    have last := congrArg (fun name => name.toList.getLast?) same
    cases c <;> cases d <;> first | rfl | simp [ContainerFormat.extension, List.getLast?_cons] at last
  subst containers
  refine ⟨?_, rfl⟩
  apply BitVec.eq_of_toNat_eq
  simpa [Nat.repr_inj] using same

theorem Take.path_eq_iff (take : Take) (s : BsmWindow) (secs : BitVec 64) : take.path = (s.newRecording secs).path ↔
    take.outputDir = s.outputDir ∧ take.secs = secs ∧ take.container = s.containerFormat := by
  unfold Take.path BsmWindow.newRecording
  constructor
  · intro same
    obtain ⟨folder, name⟩ := List.append_inj' same rfl
    exact ⟨folder, name_inj (List.cons.inj name).1⟩
  · rintro ⟨folder, second, container⟩
    rw [folder, second, container]

/-! ## One step -/

/-- Take `n` was recorded into the file of recording `n`. -/
def Filed (s : Takes) : Prop := s.takes.map Take.path = s.window.recordings.map Recording.path

theorem Recording.Moves.path {r r' : Recording} {e : RecordingEvent} (moves : r.Moves e r') : r'.path = r.path := by
  cases moves <;> rfl

section

variable {F : Type} [Inhabited F] (f32ToI16 : F → BitVec 16)

theorem filed_step {s t : Takes} {e : TakesEvent F} (filed : Filed s) (step : takesStep f32ToI16 s e = some t) :
    Filed t := by
  unfold Filed at filed ⊢
  cases e with
  | delete n =>
    cases step
    rw [← filed]
    apply Parts.map_modify_same
    intro take
    rfl
  | window e =>
    obtain ⟨window, moved, rfl⟩ := Option.map_eq_some_iff.1 step
    dsimp only
    by_cases click : ∃ secs, e = .click (.record secs true)
    · obtain ⟨secs, rfl⟩ := click
      obtain ⟨-, clicked⟩ := Option.ite_none_right_eq_some.1 moved
      cases clicked
      cases recording : s.window.isRecording with
      | true => simpa [Takes.after, recording] using filed
      | false =>
        have takes : s.after (.click (.record secs true) : WindowEvent F) = s.takes ++ [s.window.take secs] := by
          simp [Takes.after, recording]
        have recordings : (s.window.startRecording secs true).recordings =
            s.window.recordings ++ [s.window.newRecording secs] := rfl
        rw [takes, if_neg Bool.false_ne_true, recordings, List.map_append, List.map_append, filed]
        rfl
    · have same : s.after e = s.takes := by
        unfold Takes.after
        split
        · rename_i secs
          exact absurd ⟨secs, rfl⟩ click
        · rfl
      rw [same, filed]
      cases effect_of_windowStep f32ToI16 moved with
      | aside recordings handle => rw [recordings]
      | started secs event idle new handle ui => exact absurd ⟨secs, event⟩ click
      | moved cause there moves set handle taken => rw [set, Parts.map_set there moves.path]

theorem Filed.path {s : Takes} (filed : Filed s) {n : Nat} {r : Recording} {take : Take}
    (there : s.window.recordings[n]? = some r) (taken : s.takes[n]? = some take) : r.path = take.path := by
  have places := congrArg (fun paths => paths[n]?) filed
  simpa [there, taken, eq_comm] using places

theorem Filed.recording {s : Takes} (filed : Filed s) {n : Nat} {take : Take} (taken : s.takes[n]? = some take) :
    ∃ r, s.window.recordings[n]? = some r := by
  have places := congrArg (fun paths => paths[n]?) filed
  simp only [List.getElem?_map, taken, Option.map_some] at places
  obtain ⟨r, there, -⟩ := Option.map_eq_some_iff.1 places.symm
  exact ⟨r, there⟩

omit [Inhabited F] in
/-- A click opens a new path exactly if it is in a new second. -/
theorem opensNewPath_iff {s : Takes} (filed : Filed s) (e : TakesEvent F) : OpensNewPath s e ↔ NewSecond s e := by
  constructor
  · intro opens secs opened event idle take member onDisk same
    obtain ⟨n, taken⟩ := List.getElem?_of_mem member
    obtain ⟨r, there⟩ := filed.recording taken
    refine opens secs opened event idle n r take there taken onDisk ?_
    rw [filed.path there taken]
    exact (take.path_eq_iff s.window secs).2 same
  · intro new secs opened event idle n r take there taken onDisk same
    rw [filed.path there taken] at same
    exact new secs opened event idle take (List.mem_of_getElem? taken) onDisk ((take.path_eq_iff s.window secs).1 same)

/-! ## Runs -/

/-- **A take overwrites an earlier one just where the second repeats**: in a run of the window, over any clicks,
removals and clock readings, every Record opens a path that no take on disk has, exactly if every Record is in another
second, or with another folder or container, than each take on disk. -/
theorem takes_keep_iff (outputDir : PathBuf) (bitrateKbps : BitVec 32) (containerFormat : ContainerFormat)
    (es : List (TakesEvent F)) :
    (takesSystem f32ToI16).Meets OpensNewPath ⟨.new outputDir bitrateKbps containerFormat, []⟩ es ↔
      (takesSystem f32ToI16).Meets NewSecond ⟨.new outputDir bitrateKbps containerFormat, []⟩ es :=
  meets_congr_of (fun _ _ _ filed step => filed_step f32ToI16 filed step) (fun _ e filed => opensNewPath_iff filed e)
    rfl

end

/-- A take that is stopped before its mux loop began, and the next one. -/
def takesInOneSecond : List (TakesEvent Unit) :=
  [.window (.click (.record 5#64 true)), .window (.click .stop), .window .stopDropTx, .window .stopAbort,
    .window .stopped, .window (.click (.record 5#64 true))]

/-- The second take of a second is recorded over the first. -/
theorem take_overwritten : ¬ (takesSystem fun _ : Unit => 0#16).Meets OpensNewPath
    ⟨.new ["takes"] 192#32 .wav, []⟩ takesInOneSecond := by
  intro opens
  have last := (((((opens.2 _ rfl).2 _ rfl).2 _ rfl).2 _ rfl).2 _ rfl).1
  exact last 5#64 true rfl rfl 0 _ _ rfl rfl rfl rfl

end StereoMix.Ui
