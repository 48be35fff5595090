import StereoMix.Audio.Capture

/-!
# Opens that fail

`open_device` assigns the device's name as soon as it knows the device, and everything else at its end. A failure before
the name changes nothing; every later one leaves the name of a device that is not open, beside the format and the channel
of the one that is.
-/

namespace StereoMix.Audio

open EventSystem

/-- The name that goes with the index, where a device does. -/
def deviceNamed (host : Host) (deviceIndex : BitVec 32) : Option (Option String) :=
  if deviceIndex = LOOPBACK_DEVICE_INDEX then some (some LOOPBACK_DEVICE_NAME)
  else if deviceIndex = MONITOR_DEVICE_INDEX then some (some MONITOR_DEVICE_NAME)
  else
    match host.devices with
    | .error _ => none
    | .ok devices => devices[deviceIndex.toNat]?.map Device.name

/-- Whatever its answer, `open_device` leaves the name of the device at the index, if there is one. -/
theorem deviceName_openDevice (b : WasapiBackend) (host : Host) (deviceIndex : BitVec 32) (format : PcmFormat) (id : Nat) :
    (b.openDevice host deviceIndex format id).2.deviceName = (deviceNamed host deviceIndex).getD b.deviceName := by
  unfold WasapiBackend.openDevice deviceNamed
  split
  · rfl
  · split
    · dsimp only
      split <;> rfl
    · cases host.devices with
      | error e => rfl
      | ok devices =>
        dsimp only
        cases devices[deviceIndex.toNat]? with
        | none => rfl
        | some dev =>
          dsimp only
          split
          · rfl
          · split <;> rfl

/-- The four answers of the backend are as they were, and so is the channel that `next_frame` reads. -/
structure SameBackend (s t : CaptureState) : Prop where
  deviceName : t.backend.deviceName = s.backend.deviceName
  actualFormat : t.backend.actualFormat = s.backend.actualFormat
  active : t.backend.active = s.backend.active
  rx : t.backend.rx = s.backend.rx
  threads : t.threads = s.threads

/-- A device at the index has the name that the backend reports already. -/
def NameHeld (host : Host) (deviceIndex : BitVec 32) (b : WasapiBackend) : Prop :=
  ∀ name, deviceNamed host deviceIndex = some name → name = b.deviceName

/-- An open that fails leaves the backend as it was exactly if it finds no device, or one of the name held. -/
theorem sameBackend_iff {s t : CaptureState} {host : Host} {deviceIndex : BitVec 32} {format : PcmFormat} {e : AudioError}
    (failed : s.openDevice host deviceIndex format = (.error e, t)) :
    SameBackend s t ↔ NameHeld host deviceIndex s.backend := by
  unfold CaptureState.openDevice at failed
  split at failed
  · rename_i e' backend refused
    cases failed
    have named := deviceName_openDevice s.backend host deviceIndex format s.threads.length
    rw [refused] at named
    dsimp only at named
    obtain ⟨deviceName, rfl⟩ := openDevice_error refused
    dsimp only at named
    constructor
    · intro same name there
      rw [← same.deviceName]
      dsimp only
      rw [named, there]
      rfl
    · intro held
      refine ⟨?_, rfl, rfl, rfl, rfl⟩
      rw [named]
      cases there : deviceNamed host deviceIndex with
      | none => rfl
      | some name => exact held name there
  · cases failed

/-! ## Runs -/

section

variable {F : Type}

/-- If the event is an open that fails, the backend stays as it was. -/
def FailedOpenKeeps (s : CaptureState) : CaptureEvent F → Prop
  | .openDevice host deviceIndex format =>
    ∀ e t, s.openDevice host deviceIndex format = (.error e, t) → SameBackend s t
  | _ => True

/-- If the event is an open that fails, it finds no device, or one of the name held. -/
def FailedOpenNameHeld (s : CaptureState) : CaptureEvent F → Prop
  | .openDevice host deviceIndex format =>
    ∀ e t, s.openDevice host deviceIndex format = (.error e, t) → NameHeld host deviceIndex s.backend
  | _ => True

theorem failedOpenKeeps_iff (s : CaptureState) (event : CaptureEvent F) :
    FailedOpenKeeps s event ↔ FailedOpenNameHeld s event := by
  cases event with
  | openDevice host deviceIndex format =>
    exact forall_congr' fun e => forall_congr' fun t => forall_congr' fun failed => sameBackend_iff failed
  | _ => exact Iff.rfl

variable [Inhabited F] (f32ToI16 : F → BitVec 16)

/-- **The failed opens of a run leave the backend as it was exactly if each finds no device at its index, or one of the
name that the backend reports already.** -/
theorem failed_open_keeps_backend (events : List (CaptureEvent F)) :
    (captureSystem f32ToI16).Meets FailedOpenKeeps ⟨.new, [], []⟩ events ↔
      (captureSystem f32ToI16).Meets FailedOpenNameHeld ⟨.new, [], []⟩ events :=
  meets_congr failedOpenKeeps_iff

end

/-- A host with one stereo microphone. -/
def micHost : Host where
  devices := .ok [⟨some "Mic", .ok [⟨2#16, 48000#32, 48000#32, .i16⟩]⟩]
  specIsValid _ _ := true
  openMonitor := .error "Connection refused"

/-- A monitor that cannot be opened while the microphone is: its name is reported. -/
theorem failed_open_renames : ¬ (captureSystem fun _ : Unit => 0#16).Meets FailedOpenKeeps ⟨.new, [], []⟩
    [.openDevice micHost 0#32 ⟨48000#32, 2#16, 16#16⟩, .start,
      .openDevice micHost MONITOR_DEVICE_INDEX ⟨48000#32, 2#16, 16#16⟩] := by
  intro keeps
  have last := ((keeps.2 _ rfl).2 _ rfl).1 _ _ rfl
  exact absurd last.deviceName (by decide)

end StereoMix.Audio
