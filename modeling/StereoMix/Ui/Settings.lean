import StereoMix.Lib.FileSystem
import StereoMix.Ui.Window

/-!
# The settings file

`UiConfig` of `window.rs`: the folder, the bitrate and the container are saved at every change, into a file that is
truncated and written in place, and loaded at the next launch. A launch that cannot load them shows the defaults and
saves these over what is there. `serde_json` is a parameter; the abstract level is a register that keeps the settings
of the last save, unless that was cut.
-/

namespace StereoMix.Ui

open Audio Encode EventSystem ByteFile FileSystem

structure UiConfig where
  outputDir : PathBuf
  bitrateKbps : Option (BitVec 32)
  container : Option String
  deriving DecidableEq, Repr

/-- `serde_json` on the settings: `to_string_pretty`, and `from_str` on what a file holds. -/
structure UiConfigJson where
  toStringPretty : UiConfig → Except String Bytes
  fromStr : Bytes → Option UiConfig

/-- What was written is read, and the text of an object is none without its last byte. -/
structure UiConfigJson.Lawful (serde : UiConfigJson) : Prop where
  whole : ∀ c b, serde.toStringPretty c = .ok b → serde.fromStr b = some c
  cut : ∀ c b part, serde.toStringPretty c = .ok b → part <+: b → part.length < b.length → serde.fromStr part = none

/-- The user's directories, as the operating system names them. -/
structure Dirs where
  configDir : Option String
  audioDir : Option PathBuf
  homeDir : Option PathBuf

/-! ## Load and save -/

/-- `exists`: a failed call counts as no file. -/
def fileExists (path : String) (world : World) : Bool × World :=
  match world.answer with
  | (.success, world) => ((world.files path).isSome, world)
  | (.failure _ _, world) => (false, world)

def readToString (path : String) : EStateM String World Bytes := fun world =>
  match world.answer with
  | (.success, world) => .ok (world.contents path) world
  | (.failure text _, world) => .error text world

def createDirAll : EStateM String World Unit := fun world =>
  match world.answer with
  | (.success, world) => .ok () world
  | (.failure text _, world) => .error text world

/-- The world that a call leaves, whatever it answered. -/
def worldAfter {α : Type} : EStateM.Result String World α → World
  | .ok _ world => world
  | .error _ world => world

def UiConfig.path (dirs : Dirs) : Option String := dirs.configDir.map (· ++ "/bsm-ui/config.json")

def UiConfig.load (serde : UiConfigJson) (dirs : Dirs) (world : World) : Option UiConfig × World :=
  match UiConfig.path dirs with
  | none => (none, world)
  | some p =>
    match fileExists p world with
    | (false, world) => (none, world)
    | (true, world) =>
      match readToString p world with
      | .ok s world => (serde.fromStr s, world)
      | .error _ world => (none, world)

def UiConfig.save (serde : UiConfigJson) (dirs : Dirs) (self : UiConfig) : EStateM String World Unit := fun world =>
  match UiConfig.path dirs with
  | none => .error "no config dir" world
  | some p =>
    match createDirAll world with
    | .error e world => .error e world
    | .ok _ world =>
      match serde.toStringPretty self with
      | .error e => .error e world
      | .ok s =>
        match create p world with
        | .error e world => .error e world
        | .ok f world =>
          match File.writeAll s (f, world) with
          | .error e (_, world) => .error e world
          | .ok _ (_, world) => .ok () world

/-! ## The window's settings -/

def containerName : ContainerFormat → String
  | .wav => "wav"
  | .mp3 => "mp3"
  | .flac => "flac"

/-- The container that a saved name stands for. -/
def containerNamed : String → ContainerFormat
  | "mp3" => .mp3
  | "flac" => .flac
  | _ => .wav

def defaultOutputDir (dirs : Dirs) : PathBuf :=
  match dirs.audioDir, dirs.homeDir with
  | some d, _ => d ++ ["BSM_output"]
  | none, some h => h ++ ["Music", "BSM_output"]
  | none, none => ["BSM_output"]

/-- What the window saves. -/
def BsmWindow.config (self : BsmWindow) : UiConfig where
  outputDir := self.outputDir
  bitrateKbps := some self.bitrateKbps
  container := some (containerName self.containerFormat)

/-- The settings that a launch makes of what it loaded. -/
def BsmWindow.ofConfig (dirs : Dirs) (cfg : Option UiConfig) : BsmWindow :=
  .new ((cfg.map UiConfig.outputDir).getD (defaultOutputDir dirs)) ((cfg.bind UiConfig.bitrateKbps).getD 128#32)
    (((cfg.bind UiConfig.container).map containerNamed).getD .wav)

/-- `BsmWindow::new`: the settings are loaded, and the defaults saved if there were none. -/
def BsmWindow.launch (serde : UiConfigJson) (dirs : Dirs) (world : World) : BsmWindow × World :=
  let (cfg, world) := UiConfig.load serde dirs world
  let window := BsmWindow.ofConfig dirs cfg
  let world := if cfg.isNone then worldAfter (window.config.save serde dirs world) else world
  (window, worldAfter (createDirAll world))

/-- A change of one setting. -/
inductive Change where
  | outputDir (dir : PathBuf)
  | bitrateKbps (kbps : BitVec 32)
  | container (format : ContainerFormat)
  deriving DecidableEq, Repr

def UiConfig.change (c : UiConfig) : Change → UiConfig
  | .outputDir dir => { c with outputDir := dir }
  | .bitrateKbps kbps => { c with bitrateKbps := some kbps }
  | .container format => { c with container := some (containerName format) }

section

variable {F : Type}

/-- The clicks whose handlers change a setting, and save. -/
def WindowEvent.change : WindowEvent F → Option Change
  | .click (.browse dir) => some (.outputDir dir)
  | .click (.bitrate kbps) => some (.bitrateKbps kbps)
  | .click (.container format) => some (.container format)
  | _ => none

end

/-! ## The program -/

/-- The files, and the window of the instance that has the lock. -/
structure App where
  world : World
  window : Option BsmWindow

/-- A launch, the end of the window by whatever cause, or a step of it. -/
inductive AppEvent (F : Type) where
  | launch
  | close
  | window (e : WindowEvent F)

section

variable {F : Type} [Inhabited F] (f32ToI16 : F → BitVec 16) (serde : UiConfigJson) (dirs : Dirs)

def appStep (s : App) : AppEvent F → Option App
  | .launch =>
    match s.window with
    -- The port is taken: `main` returns.
    | some _ => some s
    | none => some ⟨(BsmWindow.launch serde dirs s.world).2, some (BsmWindow.launch serde dirs s.world).1⟩
  | .close => some { s with window := none }
  | .window e => s.window.bind fun window => (windowStep f32ToI16 window e).map fun window =>
      ⟨if e.change.isSome then worldAfter (window.config.save serde dirs s.world) else s.world, some window⟩

/-- The program, before its first launch and with any files. -/
def appSystem : EventSystem App (AppEvent F) where
  init s := s.window = none
  step := appStep f32ToI16 serde dirs

end

/-! ## The register -/

/-- How a save can end: before it touches the file, within the write, or well. -/
inductive Saving where
  | refused
  | cut
  | whole
  deriving DecidableEq, Repr

/-- What is kept after a save. -/
def Saving.keep (c : UiConfig) (kept : Option UiConfig) : Saving → Option UiConfig
  | .refused => kept
  | .cut => none
  | .whole => some c

/-- What is kept for the next launch, and what is shown. -/
structure Register where
  kept : Option UiConfig
  shown : Option UiConfig
  deriving DecidableEq, Repr

inductive RegisterEvent where
  | launch (readable : Bool) (saving : Saving)
  | close
  | change (c : Change) (saving : Saving)
  deriving DecidableEq, Repr

/-- What a launch shows of the settings that it has. -/
def UiConfig.shown (dirs : Dirs) (cfg : Option UiConfig) : UiConfig := (BsmWindow.ofConfig dirs cfg).config

def registerStep (dirs : Dirs) (s : Register) : RegisterEvent → Option Register
  | .launch readable saving =>
    if s.shown.isSome then none
    else
      let cfg := if readable then s.kept else none
      let shown := UiConfig.shown dirs cfg
      some ⟨if cfg.isNone then saving.keep shown s.kept else s.kept, some shown⟩
  | .close => some { s with shown := none }
  | .change c saving => s.shown.map fun shown => ⟨saving.keep (shown.change c) s.kept, some (shown.change c)⟩

def registerSystem (dirs : Dirs) : EventSystem Register RegisterEvent where
  init s := s.shown = none
  step := registerStep dirs

/-- What a launch whose calls succeed loads. -/
def kept (serde : UiConfigJson) (dirs : Dirs) (world : World) : Option UiConfig :=
  (UiConfig.path dirs).bind fun p => (world.files p).bind serde.fromStr

/-- The program as a register. -/
def App.register (serde : UiConfigJson) (dirs : Dirs) (s : App) : Register :=
  ⟨kept serde dirs s.world, s.window.map BsmWindow.config⟩

/-! ## One load, one save -/

section

variable {serde : UiConfigJson} {dirs : Dirs} {world world' : World} {path : String}

theorem fileExists_files {there : Bool} (looked : fileExists path world = (there, world')) :
    world'.files = world.files ∧ (there = true → ∃ b, world.files path = some b) := by
  have same := World.files_answer world
  unfold fileExists at looked
  split at looked
  · rename_i answered
    cases looked
    rw [answered] at same
    rw [same]
    exact ⟨rfl, Option.isSome_iff_exists.1⟩
  · rename_i answered
    cases looked
    rw [answered] at same
    exact ⟨same, nofun⟩

theorem readToString_ok {s : Bytes} (done : readToString path world = .ok s world') :
    world'.files = world.files ∧ s = world.contents path := by
  have same := World.files_answer world
  unfold readToString at done
  split at done
  · rename_i answered
    cases done
    rw [answered] at same
    exact ⟨same, congrArg (·.getD []) (congrFun same path)⟩
  · cases done

theorem readToString_error {e : String} (failed : readToString path world = .error e world') :
    world'.files = world.files := by
  have same := World.files_answer world
  unfold readToString at failed
  split at failed
  · cases failed
  · rename_i answered
    cases failed
    rwa [answered] at same

theorem kept_congr (files : world'.files = world.files) : kept serde dirs world' = kept serde dirs world := by
  rw [kept, kept, files]

theorem files_createDirAll (world : World) : (worldAfter (createDirAll world)).files = world.files := by
  have same := World.files_answer world
  unfold createDirAll
  split <;> rename_i answered <;> rwa [answered] at same

/-- A load changes no file, and gives what is kept or nothing. -/
theorem load_cases {cfg : Option UiConfig} (loaded : UiConfig.load serde dirs world = (cfg, world')) :
    world'.files = world.files ∧ (cfg = kept serde dirs world ∨ cfg = none) := by
  unfold UiConfig.load at loaded
  unfold kept
  split at loaded
  · cases loaded
    exact ⟨rfl, .inr rfl⟩
  · rename_i p at_path
    rw [at_path, Option.bind_some]
    split at loaded
    · rename_i looked
      cases loaded
      exact ⟨(fileExists_files looked).1, .inr rfl⟩
    · rename_i world₁ looked
      obtain ⟨same, there⟩ := fileExists_files looked
      obtain ⟨b, stored⟩ := there rfl
      split at loaded
      · rename_i s world₂ read
        cases loaded
        obtain ⟨same', rfl⟩ := readToString_ok read
        rw [World.contents, same, stored, Option.getD_some, Option.bind_some]
        exact ⟨same'.trans same, .inl rfl⟩
      · rename_i read
        cases loaded
        exact ⟨(readToString_error read).trans same, .inr rfl⟩

theorem launch_loaded {c : UiConfig} (loaded : UiConfig.load serde dirs world = (some c, world')) :
    BsmWindow.launch serde dirs world = (BsmWindow.ofConfig dirs (some c), worldAfter (createDirAll world')) := by
  rw [BsmWindow.launch, loaded]
  rfl

theorem launch_defaults (loaded : UiConfig.load serde dirs world = (none, world')) :
    BsmWindow.launch serde dirs world = (BsmWindow.ofConfig dirs none,
      worldAfter (createDirAll (worldAfter ((UiConfig.shown dirs none).save serde dirs world')))) := by
  rw [BsmWindow.launch, loaded]
  rfl

/-- A save is refused, cut or whole. -/
theorem exists_saving (dirs : Dirs) (lawful : serde.Lawful) (c : UiConfig) (world : World) :
    ∃ saving : Saving, kept serde dirs (worldAfter (c.save serde dirs world)) = saving.keep c (kept serde dirs world) := by
  unfold UiConfig.save kept
  cases UiConfig.path dirs with
  | none => exact ⟨.refused, rfl⟩
  | some p =>
    have untouched {world' : World} (files : world'.files = world.files) : ∃ saving : Saving,
        ((world'.files p).bind serde.fromStr) = saving.keep c ((world.files p).bind serde.fromStr) :=
      ⟨.refused, by rw [files]; rfl⟩
    have parent := files_createDirAll world
    dsimp only [Option.bind_some]
    split
    · rename_i refused
      rw [refused] at parent
      exact untouched parent
    · rename_i world₁ made
      rw [made] at parent
      split
      · exact untouched parent
      · rename_i s printed
        split
        · rename_i failed
          exact untouched ((create_error failed).trans parent)
        · rename_i f world₂ created
          split
          · rename_i failed
            obtain ⟨part, first, shorter, stored⟩ := rewrite_error created failed
            refine ⟨.cut, ?_⟩
            rw [worldAfter, stored, Option.bind_some, lawful.cut c s part printed first shorter]
            rfl
          · rename_i done
            refine ⟨.whole, ?_⟩
            rw [worldAfter, rewrite_ok created done, Option.bind_some, lawful.whole c s printed]
            rfl

theorem createDirAll_quiet (quiet : world.Quiet) : createDirAll world = .ok () world := by
  rw [createDirAll, quiet.answer]

theorem load_quiet (dirs : Dirs) (quiet : world.Quiet) :
    UiConfig.load serde dirs world = (kept serde dirs world, world) := by
  unfold UiConfig.load kept
  cases UiConfig.path dirs with
  | none => rfl
  | some p =>
    rw [Option.bind_some]
    cases stored : world.files p with
    | none => simp only [fileExists, quiet.answer, stored, Option.isSome_none, Option.bind_none]
    | some b =>
      simp only [fileExists, readToString, quiet.answer, stored, Option.isSome_some, World.contents, Option.getD_some,
        Option.bind_some]

theorem save_quiet {p : String} {c : UiConfig} {s : Bytes} (lawful : serde.Lawful) (at_path : UiConfig.path dirs = some p)
    (printed : serde.toStringPretty c = .ok s) (quiet : world.Quiet) :
    (worldAfter (c.save serde dirs world)).Quiet ∧ kept serde dirs (worldAfter (c.save serde dirs world)) = some c := by
  obtain ⟨f, world₁, created, quiet₁⟩ := create_quiet p quiet
  obtain ⟨⟨⟩, f', world₂, done, quiet₂⟩ := Total.writeAll s f world₁ quiet₁
  have saved : c.save serde dirs world = .ok () world₂ := by
    unfold UiConfig.save
    rw [at_path]
    dsimp only
    rw [createDirAll_quiet quiet, printed]
    dsimp only
    rw [created]
    dsimp only
    rw [done]
  rw [saved]
  refine ⟨quiet₂, ?_⟩
  rw [kept, at_path, Option.bind_some, worldAfter, rewrite_ok created done, Option.bind_some, lawful.whole c s printed]

end

theorem containerNamed_containerName (format : ContainerFormat) : containerNamed (containerName format) = format := by
  cases format <;> rfl

/-- What is saved tells the settings. -/
theorem settings_eq {window window' : BsmWindow} (same : window'.config = window.config) :
    window'.outputDir = window.outputDir ∧ window'.bitrateKbps = window.bitrateKbps ∧
      window'.containerFormat = window.containerFormat := by
  obtain ⟨outputDir, bitrateKbps, container⟩ := UiConfig.mk.inj same
  refine ⟨outputDir, Option.some.inj bitrateKbps, ?_⟩
  rw [← containerNamed_containerName window'.containerFormat, Option.some.inj container, containerNamed_containerName]

/-- What a window saved is shown again. -/
@[simp] theorem shown_config (dirs : Dirs) (window : BsmWindow) : UiConfig.shown dirs (some window.config) = window.config := by
  simp [UiConfig.shown, BsmWindow.ofConfig, BsmWindow.config, BsmWindow.new, containerNamed_containerName]

/-! ## The window's steps -/

section

variable {s t : BsmWindow}

theorem config_onRecording {n : Nat} {re : RecordingEvent} (on : s.onRecording n re = some t) : t.config = s.config := by
  obtain ⟨r, r', -, -, rfl⟩ := onRecording_eq_some on
  rfl

variable {F : Type} [Inhabited F] (f32ToI16 : F → BitVec 16)

omit [Inhabited F] in
theorem config_click {c : Click} (step : s.click c = some t) :
    t.config = ((WindowEvent.click c : WindowEvent F).change.elim s.config s.config.change) := by
  cases c with
  | container | bitrate | browse | refresh | stereo | mono =>
    cases step
    rfl
  | select i host =>
    obtain ⟨d, -, rfl⟩ := Option.map_eq_some_iff.1 step
    obtain ⟨rates, idx, same⟩ := select_eq s host i d
    rw [same]
    rfl
  | rate i =>
    obtain ⟨r, -, rfl⟩ := Option.map_eq_some_iff.1 step
    rfl
  | record secs opened =>
    cases step
    split
    · rfl
    · cases opened <;> rfl
  | pause | monitorStart =>
    cases step
    split <;> rfl
  | stop =>
    unfold BsmWindow.click at step
    dsimp only at step
    split at step
    · split at step
      · cases step
        rfl
      · obtain ⟨r, r', -, -, rfl⟩ := onRecording_eq_some step
        rfl
    · cases step
      rfl

/-- Only the clicks that save change a setting. -/
theorem config_windowStep {e : WindowEvent F} (step : windowStep f32ToI16 s e = some t) :
    t.config = e.change.elim s.config s.config.change := by
  cases e with
  | click c => exact config_click (Option.ite_none_right_eq_some.1 step).2
  | stopDropTx =>
    obtain ⟨-, step⟩ := Option.ite_none_right_eq_some.1 step
    split at step
    · cases step
      rfl
    · obtain ⟨r, r', -, -, rfl⟩ := onRecording_eq_some step
      rfl
  | stopAbort =>
    obtain ⟨-, step⟩ := Option.ite_none_right_eq_some.1 step
    obtain ⟨n, -, step⟩ := Option.bind_eq_some_iff.1 step
    exact config_onRecording step
  | stopped =>
    obtain ⟨-, step⟩ := Option.ite_none_right_eq_some.1 step
    cases step
    rfl
  | monitorRead =>
    obtain ⟨-, step⟩ := Option.ite_none_right_eq_some.1 step
    obtain ⟨next, -, rfl⟩ := Option.map_eq_some_iff.1 step
    rfl
  | captureRead n =>
    obtain ⟨next, -, step⟩ := Option.bind_eq_some_iff.1 step
    obtain ⟨r, r', -, -, rfl⟩ := onRecording_eq_some step
    rfl
  | loop n e => exact config_onRecording step
  | input | ends =>
    obtain ⟨backend, -, rfl⟩ := Option.map_eq_some_iff.1 step
    rfl

end

/-- The change that a step of the program makes. -/
def AppEvent.change {F : Type} : AppEvent F → Option Change
  | .window e => WindowEvent.change e
  | _ => none

/-- The change that a step of the register makes. -/
def RegisterEvent.made : RegisterEvent → Option Change
  | .change c _ => some c
  | _ => none

/-! ## The program is a register -/

section

variable {serde : UiConfigJson} {dirs : Dirs} {s t : App}

theorem register_launch (dirs : Dirs) (lawful : serde.Lawful) (world : World) : ∃ readable saving,
    registerStep dirs ⟨kept serde dirs world, none⟩ (.launch readable saving) =
      some ⟨kept serde dirs (BsmWindow.launch serde dirs world).2,
        some (BsmWindow.launch serde dirs world).1.config⟩ := by
  rcases loaded : UiConfig.load serde dirs world with ⟨cfg, world₁⟩
  obtain ⟨files, cfg_cases⟩ := load_cases loaded
  cases cfg with
  | none =>
    obtain ⟨saving, saved⟩ := exists_saving dirs lawful (UiConfig.shown dirs none) world₁
    rw [kept_congr files] at saved
    refine ⟨false, saving, ?_⟩
    rw [launch_defaults loaded, kept_congr (files_createDirAll _), saved]
    rfl
  | some c =>
    have read : kept serde dirs world = some c := by
      rcases cfg_cases with here | gone
      · exact here.symm
      · cases gone
    refine ⟨true, .whole, ?_⟩
    rw [launch_loaded loaded, kept_congr (files_createDirAll _), kept_congr files, read]
    rfl

variable {F : Type} [Inhabited F] (f32ToI16 : F → BitVec 16)

/-- A step of the program is a step of the register, or none. -/
theorem register_step (lawful : serde.Lawful) (s : App) (e : AppEvent F) (t : App)
    (step : (appSystem f32ToI16 serde dirs).step s e = some t) :
    ∃ ds, (registerSystem dirs).run (s.register serde dirs) ds = some (t.register serde dirs) ∧
      ds.filterMap RegisterEvent.made = e.change.toList := by
  obtain ⟨world, window⟩ := s
  cases e with
  | launch =>
    cases window with
    | some window =>
      cases step
      exact ⟨[], rfl, rfl⟩
    | none =>
      cases step
      obtain ⟨readable, saving, launched⟩ := register_launch dirs lawful world
      exact ⟨[.launch readable saving], run_single launched, rfl⟩
  | close =>
    cases step
    exact ⟨[.close], rfl, rfl⟩
  | window e =>
    obtain ⟨window, rfl, step⟩ := Option.bind_eq_some_iff.1 step
    obtain ⟨window', moved, rfl⟩ := Option.map_eq_some_iff.1 step
    have config := config_windowStep f32ToI16 moved
    have shown : AppEvent.change (.window e) = e.change := rfl
    rw [App.register, App.register, Option.map_some, Option.map_some, shown]
    cases change : e.change with
    | none =>
      rw [change, Option.elim_none] at config
      rw [config]
      exact ⟨[], rfl, rfl⟩
    | some c =>
      rw [change, Option.elim_some] at config
      obtain ⟨saving, saved⟩ := exists_saving dirs lawful (window.config.change c) world
      refine ⟨[.change c saving], run_single ?_, rfl⟩
      simp only [Option.isSome_some, if_true, saved, config]
      rfl

/-- **The settings are a register.** Whatever the operating system fails, and after whichever step the program ends (an
end inside a save is no event), what is kept and what is shown are those of a register that the same changes are made
to: a save leaves what was kept, keeps the new settings, or, cut by a failed write, keeps none; and a launch shows what
is kept, or the defaults, which it then saves. -/
theorem settings_follow_register (lawful : serde.Lawful) {es : List (AppEvent F)}
    (run : (appSystem f32ToI16 serde dirs).run s es = some t) :
    ∃ ds, (registerSystem dirs).run (s.register serde dirs) ds = some (t.register serde dirs) ∧
      ds.filterMap RegisterEvent.made = es.filterMap AppEvent.change :=
  run_simulates (register_step f32ToI16 lawful) run

/-! ## Without failures -/

/-- What a step saves has a text: the defaults at a launch, what is shown after a change. -/
def HasText (serde : UiConfigJson) (dirs : Dirs) (s : App) (e : AppEvent F) : Prop :=
  (serde.toStringPretty (UiConfig.shown dirs none)).isOk = true ∧
    ∀ c ∈ e.change, ∀ window ∈ s.window, (serde.toStringPretty (window.config.change c)).isOk = true

instance (serde : UiConfigJson) (dirs : Dirs) (s : App) (e : AppEvent F) : Decidable (HasText serde dirs s e) :=
  inferInstanceAs (Decidable (_ ∧ ∀ c ∈ e.change, ∀ window ∈ s.window, _))

theorem exists_text {serde : UiConfigJson} {c : UiConfig} (ok : (serde.toStringPretty c).isOk = true) :
    ∃ b, serde.toStringPretty c = .ok b := by
  cases printed : serde.toStringPretty c with
  | ok b => exact ⟨b, rfl⟩
  | error e =>
    rw [printed] at ok
    cases ok

/-- No call is going to fail, and a launch would show what is shown. -/
structure Settled (serde : UiConfigJson) (dirs : Dirs) (s : App) : Prop where
  quiet : s.world.Quiet
  shown : ∀ window, s.window = some window → UiConfig.shown dirs (kept serde dirs s.world) = window.config

theorem Settled.closed {world : World} (quiet : world.Quiet) : Settled serde dirs ⟨world, none⟩ := by
  refine ⟨quiet, ?_⟩
  intro window gone
  cases gone

/-- In a quiet world the window shows what is kept, or else the defaults, which are then kept. -/
theorem launch_quiet {world : World} (lawful : serde.Lawful)
    (defaults : ∃ b, serde.toStringPretty (UiConfig.shown dirs none) = .ok b) (there : dirs.configDir.isSome = true) (quiet : world.Quiet) :
    (BsmWindow.launch serde dirs world).1 = BsmWindow.ofConfig dirs (kept serde dirs world) ∧
      Settled serde dirs ⟨(BsmWindow.launch serde dirs world).2, some (BsmWindow.launch serde dirs world).1⟩ := by
  have loaded : UiConfig.load serde dirs world = (kept serde dirs world, world) := load_quiet dirs quiet
  cases keeps : kept serde dirs world with
  | some c =>
    rw [keeps] at loaded
    rw [launch_loaded loaded, createDirAll_quiet quiet]
    refine ⟨rfl, quiet, ?_⟩
    rintro window ⟨⟩
    rw [worldAfter, keeps]
    rfl
  | none =>
    obtain ⟨dir, at_dir⟩ := Option.isSome_iff_exists.1 there
    obtain ⟨b, printed⟩ := defaults
    have at_path : UiConfig.path dirs = some (dir ++ "/bsm-ui/config.json") := by rw [UiConfig.path, at_dir]; rfl
    obtain ⟨quiet', keeps'⟩ := save_quiet lawful at_path printed quiet
    rw [keeps] at loaded
    rw [launch_defaults loaded, createDirAll_quiet quiet']
    refine ⟨rfl, quiet', ?_⟩
    rintro window ⟨⟩
    rw [worldAfter, keeps']
    exact shown_config dirs (BsmWindow.ofConfig dirs none)

theorem Settled.step (lawful : serde.Lawful) (there : dirs.configDir.isSome = true) {e : AppEvent F}
    (before : Settled serde dirs s) (text : HasText serde dirs s e) (step : (appSystem f32ToI16 serde dirs).step s e = some t) : Settled serde dirs t := by
  cases e with
  | launch =>
    obtain ⟨world, window⟩ := s
    cases window with
    | some window =>
      cases step
      exact before
    | none =>
      cases step
      exact (launch_quiet lawful (exists_text text.1) there before.quiet).2
  | close =>
    cases step
    exact .closed before.quiet
  | window e =>
    obtain ⟨window, open_, step⟩ := Option.bind_eq_some_iff.1 step
    obtain ⟨window', moved, rfl⟩ := Option.map_eq_some_iff.1 step
    have config := config_windowStep f32ToI16 moved
    cases change : e.change with
    | none =>
      rw [change, Option.elim_none] at config
      refine ⟨before.quiet, ?_⟩
      rintro _ ⟨⟩
      exact (before.shown window open_).trans config.symm
    | some c =>
      obtain ⟨dir, at_dir⟩ := Option.isSome_iff_exists.1 there
      rw [change, Option.elim_some] at config
      obtain ⟨b, printed⟩ := exists_text (text.2 c change window open_)
      rw [← config] at printed
      have at_path : UiConfig.path dirs = some (dir ++ "/bsm-ui/config.json") := by rw [UiConfig.path, at_dir]; rfl
      obtain ⟨quiet', keeps'⟩ := save_quiet lawful at_path printed before.quiet
      refine ⟨quiet', ?_⟩
      rintro _ ⟨⟩
      simp only [Option.isSome_some, if_true, keeps', shown_config]

/-- **Settings survive.** When no call fails, what is saved has a text and there is a folder for the file, then after
whichever step the program ends, the next launch shows the folder, the bitrate and the container that were shown last. -/
theorem settings_survive (lawful : serde.Lawful) (there : dirs.configDir.isSome = true) {world : World}
    (quiet : world.Quiet) {es : List (AppEvent F)}
    (text : (appSystem f32ToI16 serde dirs).Meets (HasText serde dirs) ⟨world, none⟩ es)
    (run : (appSystem f32ToI16 serde dirs).run ⟨world, none⟩ es = some s) {window : BsmWindow}
    (shown : s.window = some window) :
    ∃ t window', (appSystem f32ToI16 serde dirs).run s [.close, .launch] = some t ∧ t.window = some window' ∧
      window'.outputDir = window.outputDir ∧ window'.bitrateKbps = window.bitrateKbps ∧
      window'.containerFormat = window.containerFormat := by
  have settled : Settled serde dirs s :=
    run_induction (fun s e t before text step => before.step f32ToI16 lawful there text step) (.closed quiet) text run
  have same : (BsmWindow.launch serde dirs s.world).1.config = window.config := by
    rw [BsmWindow.launch, load_quiet dirs settled.quiet]
    exact settled.shown window shown
  exact ⟨_, _, rfl, rfl, settings_eq same⟩

end

/-! ## A user without folders of his own -/

def ascii (text : String) : Bytes := text.toList.map fun c => BitVec.ofNat 8 c.toNat

/-- The settings with one container, and the text that `serde_json` gives them. -/
def printedWith (format : ContainerFormat) : UiConfig × Bytes :=
  (⟨["BSM_output"], some 128#32, some (containerName format)⟩,
    ascii ("\x7b\n  \"output_dir\": \"BSM_output\",\n  \"bitrate_kbps\": 128,\n  \"container\": \"" ++
      containerName format ++ "\"\n\x7d"))

/-- `serde_json` on these settings. -/
def printedJson : UiConfigJson where
  toStringPretty c := if c = (printedWith .wav).1 then .ok (printedWith .wav).2
    else if c = (printedWith .flac).1 then .ok (printedWith .flac).2 else .error "not printed"
  fromStr b := if b = (printedWith .wav).2 then some (printedWith .wav).1
    else if b = (printedWith .flac).2 then some (printedWith .flac).1 else none

theorem printedJson_printed {c : UiConfig} {b : Bytes} (printed : printedJson.toStringPretty c = .ok b) :
    ∃ format ∈ [ContainerFormat.wav, .flac], c = (printedWith format).1 ∧ b = (printedWith format).2 := by
  unfold printedJson at printed
  dsimp only at printed
  split at printed
  · cases printed
    exact ⟨.wav, by simp, ‹_›, rfl⟩
  · split at printed
    · cases printed
      exact ⟨.flac, by simp, ‹_›, rfl⟩
    · cases printed

theorem printedJson_lawful : printedJson.Lawful where
  whole := by
    intro c b printed
    obtain ⟨format, member, rfl, rfl⟩ := printedJson_printed printed
    revert format
    decide
  cut := by
    intro c b part printed first shorter
    obtain ⟨format, member, rfl, rfl⟩ := printedJson_printed printed
    have other : ∀ format ∈ [ContainerFormat.wav, .flac], ∀ format' ∈ [ContainerFormat.wav, .flac],
        (printedWith format').2 <+: (printedWith format).2 → (printedWith format).2.length ≤ (printedWith format').2.length := by
      decide
    have unread (format' : ContainerFormat) (member' : format' ∈ [ContainerFormat.wav, .flac]) :
        part ≠ (printedWith format').2 := by
      rintro rfl
      exact absurd (other format member format' member' first) (Nat.not_le_of_lt shorter)
    show (if _ then _ else _) = none
    rw [if_neg (unread .wav (by simp)), if_neg (unread .flac (by simp))]

/-- The window is launched, and another container chosen. -/
def flacChosen : List (AppEvent (BitVec 32)) := [.launch, .window (.click (.container .flac))]

def homeless : Dirs := ⟨some "/etc/xdg", none, none⟩

theorem settings_survive_flac : ∃ s t window', (appSystem silence printedJson homeless).run
      ⟨⟨fun _ => none, []⟩, none⟩ flacChosen = some s ∧
    (appSystem silence printedJson homeless).run s [.close, .launch] = some t ∧ t.window = some window' ∧
      window'.containerFormat = .flac := by
  obtain ⟨s, window, run, shown, flac⟩ : ∃ s window, (appSystem silence printedJson homeless).run
      ⟨⟨fun _ => none, []⟩, none⟩ flacChosen = some s ∧ s.window = some window ∧ window.containerFormat = .flac :=
    ⟨_, _, rfl, rfl, rfl⟩
  have text : (appSystem silence printedJson homeless).Meets (HasText printedJson homeless) ⟨⟨fun _ => none, []⟩, none⟩
      flacChosen := by decide
  have quiet : World.Quiet ⟨fun _ => none, []⟩ := rfl
  obtain ⟨t, window', again, shown', -, -, same⟩ :=
    settings_survive silence printedJson_lawful rfl quiet text run shown
  exact ⟨s, t, window', run, again, shown', same.trans flac⟩

/-- Seven calls succeed, and the write of the next save breaks off. -/
def diskFull : World := ⟨fun _ => none, List.replicate 7 .success ++ [.failure "No space left on device" 5]⟩

/-- The choice of a container is cut on its way to the file, and the next launch shows the defaults. -/
theorem settings_follow_register_cut : ∃ s ds, (appSystem silence printedJson homeless).run ⟨diskFull, none⟩
      (flacChosen ++ [.close, .launch]) = some s ∧ s.window.map BsmWindow.containerFormat = some .wav ∧
    (registerSystem homeless).run ⟨none, none⟩ ds = some (s.register printedJson homeless) ∧
      ds.filterMap RegisterEvent.made = [.container .flac] := by
  obtain ⟨s, run, wav⟩ : ∃ s, (appSystem silence printedJson homeless).run ⟨diskFull, none⟩
      (flacChosen ++ [.close, .launch]) = some s ∧ s.window.map BsmWindow.containerFormat = some .wav := ⟨_, rfl, rfl⟩
  obtain ⟨ds, run', made⟩ := settings_follow_register silence printedJson_lawful run
  exact ⟨s, ds, run, wav, run', made⟩

end StereoMix.Ui
