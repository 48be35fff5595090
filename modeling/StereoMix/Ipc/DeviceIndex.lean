import StereoMix.Ipc.Commands
import Mathlib.Algebra.Group.Nat.Defs

/-!
# The device index of a command

`start_recording` and `set_device` look a `device_index` up, test it for an unsigned integer and cut it to 32 bits.
An integer past 32 bits becomes another device, and `start_recording` takes anything that is not an unsigned
integer for no index at all, where `set_device` refuses it.
-/

namespace StereoMix.Ipc

/-- The `device_index` of an envelope's payload. -/
def CommandEnvelope.given (env : CommandEnvelope) : Option Json := env.payload.get "device_index"

/-- A device is taken exactly or refused: a command with index `i` had the integer `i`, and a recording without an
index had none, or `null`. -/
structure ExactDevice (env : CommandEnvelope) : Prop where
  taken : ∀ i, IpcCommand.fromEnvelope env = .ok (.startRecording (some i)) ∨
    IpcCommand.fromEnvelope env = .ok (.setDevice i) → env.given = some (.number (.posInt i.toNat))
  absent : IpcCommand.fromEnvelope env = .ok (.startRecording none) → env.given = none ∨ env.given = some .null

/-- The index is missing or fits 32 bits, or the command refuses what is not an unsigned integer, or takes no index. -/
def IndexFits (env : CommandEnvelope) : Prop :=
  env.given = none ∨ env.given = some .null ∨ (∃ n < 2 ^ 32, env.given = some (.number (.posInt n))) ∨
    (env.cmd = "set_device" ∧ ∀ n, env.given ≠ some (.number (.posInt n))) ∨
    (env.cmd ≠ "start_recording" ∧ env.cmd ≠ "set_device")

theorem asU64_eq_some {value : Json} {n : Nat} : value.asU64 = some n ↔ value = .number (.posInt n) := by
  unfold Json.asU64
  split
  · simp
  · rename_i other
    simp
    exact other n

variable {env : CommandEnvelope}

theorem deviceIndex_eq_some {i : BitVec 32} :
    env.deviceIndex = some i ↔ ∃ n, env.given = some (.number (.posInt n)) ∧ BitVec.ofNat 32 n = i := by
  unfold CommandEnvelope.deviceIndex CommandEnvelope.given
  simp only [Option.map_eq_some_iff, Option.bind_eq_some_iff, asU64_eq_some]
  constructor
  · rintro ⟨n, ⟨value, found, rfl⟩, cut⟩
    exact ⟨n, found, cut⟩
  · rintro ⟨n, found, cut⟩
    exact ⟨n, ⟨_, found, rfl⟩, cut⟩

theorem deviceIndex_eq_none : env.deviceIndex = none ↔ ∀ n, env.given ≠ some (.number (.posInt n)) := by
  constructor
  · intro refused n found
    have taken := deviceIndex_eq_some.mpr ⟨n, found, rfl⟩
    rw [refused] at taken
    cases taken
  · intro other
    by_contra taken
    obtain ⟨i, index⟩ := Option.ne_none_iff_exists'.mp taken
    obtain ⟨n, found, -⟩ := deviceIndex_eq_some.mp index
    exact other n found

/-- An integer keeps its value in 32 bits if it is below 2^32. -/
theorem toNat_ofNat_eq_iff {n : Nat} : (BitVec.ofNat 32 n).toNat = n ↔ n < 2 ^ 32 := by
  rw [BitVec.toNat_ofNat]
  omega

theorem fromEnvelope_start (start : env.cmd = "start_recording") :
    IpcCommand.fromEnvelope env = .ok (.startRecording env.deviceIndex) := by
  simp [IpcCommand.fromEnvelope, start]

theorem fromEnvelope_set_eq {i : BitVec 32} (set : env.cmd = "set_device") :
    IpcCommand.fromEnvelope env = .ok (.setDevice i) ↔ env.deviceIndex = some i := by
  simp only [IpcCommand.fromEnvelope, set]
  cases env.deviceIndex <;> simp

/-- Only two commands take a device. -/
theorem fromEnvelope_other (start : env.cmd ≠ "start_recording") (set : env.cmd ≠ "set_device") :
    (∀ i, IpcCommand.fromEnvelope env ≠ .ok (.startRecording i)) ∧
      ∀ i, IpcCommand.fromEnvelope env ≠ .ok (.setDevice i) := by
  unfold IpcCommand.fromEnvelope
  split
  case h_1 name => exact absurd name start
  case h_7 name => exact absurd name set
  all_goals simp

/-- An index is kept exactly if every integer that is given fits 32 bits. -/
theorem taken_iff : (∀ i, env.deviceIndex = some i → env.given = some (.number (.posInt i.toNat))) ↔
    ∀ n, env.given = some (.number (.posInt n)) → n < 2 ^ 32 := by
  constructor
  · intro taken n found
    have kept := taken _ (deviceIndex_eq_some.mpr ⟨n, found, rfl⟩)
    rw [found] at kept
    simp only [Option.some.injEq, Json.number.injEq, JsonNumber.posInt.injEq] at kept
    exact toNat_ofNat_eq_iff.mp kept.symm
  · intro fits i index
    obtain ⟨n, found, rfl⟩ := deviceIndex_eq_some.mp index
    rw [toNat_ofNat_eq_iff.mpr (fits n found), found]

/-- `start_recording` is exact if the index keeps its value, and is only missed where there is none. -/
theorem exactDevice_start_iff (start : env.cmd = "start_recording") : ExactDevice env ↔
    (∀ n, env.given = some (.number (.posInt n)) → n < 2 ^ 32) ∧
      ((∀ n, env.given ≠ some (.number (.posInt n))) → env.given = none ∨ env.given = some .null) := by
  rw [← taken_iff, ← deviceIndex_eq_none]
  have command := fromEnvelope_start start
  constructor
  · intro h
    exact ⟨fun i index => h.taken i (.inl (by rw [command, index])), fun missed => h.absent (by rw [command, missed])⟩
  · rintro ⟨taken, absent⟩
    refine ⟨fun i => ?_, fun ok => ?_⟩
    · rw [command]
      simpa using taken i
    · rw [command] at ok
      simp only [Except.ok.injEq, IpcCommand.startRecording.injEq] at ok
      exact absent ok

/-- `set_device` is exact if the index keeps its value. -/
theorem exactDevice_set_iff (set : env.cmd = "set_device") : ExactDevice env ↔
    ∀ n, env.given = some (.number (.posInt n)) → n < 2 ^ 32 := by
  rw [← taken_iff]
  have not_start : ∀ i, IpcCommand.fromEnvelope env ≠ .ok (.startRecording i) := by
    intro i
    simp only [IpcCommand.fromEnvelope, set]
    cases env.deviceIndex <;> simp
  constructor
  · intro h i index
    exact h.taken i (.inr ((fromEnvelope_set_eq set).mpr index))
  · intro taken
    refine ⟨fun i => ?_, fun ok => absurd ok (not_start none)⟩
    rintro (ok | ok)
    · exact absurd ok (not_start _)
    · exact taken i ((fromEnvelope_set_eq set).mp ok)

/-- **A device index is taken exactly or refused** exactly if it is missing or fits 32 bits, or `set_device` refuses
it, or the command takes none. -/
theorem device_index_exact_iff (env : CommandEnvelope) : ExactDevice env ↔ IndexFits env := by
  have unique {n m : Nat} (found : env.given = some (.number (.posInt n)))
      (again : env.given = some (.number (.posInt m))) : n = m := by
    rw [found] at again
    simpa using again
  by_cases start : env.cmd = "start_recording"
  · rw [exactDevice_start_iff start]
    constructor
    · rintro ⟨fits, absent⟩
      by_cases integer : ∃ n, env.given = some (.number (.posInt n))
      · obtain ⟨n, found⟩ := integer
        exact .inr (.inr (.inl ⟨n, fits n found, found⟩))
      · rcases absent fun n found => integer ⟨n, found⟩ with missing | null
        · exact .inl missing
        · exact .inr (.inl null)
    · rintro (missing | null | ⟨n, fits, found⟩ | ⟨set, -⟩ | ⟨other, -⟩)
      · simp [missing]
      · simp [null]
      · exact ⟨fun m again => unique found again ▸ fits, fun none => absurd found (none n)⟩
      · simp [start] at set
      · exact absurd start other
  by_cases set : env.cmd = "set_device"
  · rw [exactDevice_set_iff set]
    constructor
    · intro fits
      by_cases integer : ∃ n, env.given = some (.number (.posInt n))
      · obtain ⟨n, found⟩ := integer
        exact .inr (.inr (.inl ⟨n, fits n found, found⟩))
      · exact .inr (.inr (.inr (.inl ⟨set, fun n found => integer ⟨n, found⟩⟩)))
    · rintro (missing | null | ⟨n, fits, found⟩ | ⟨-, other⟩ | ⟨-, other⟩) m again
      · simp [missing] at again
      · simp [null] at again
      · exact unique found again ▸ fits
      · exact absurd again (other m)
      · exact absurd set other
  · obtain ⟨no_start, no_set⟩ := fromEnvelope_other start set
    refine iff_of_true ⟨fun i => ?_, fun ok => absurd ok (no_start none)⟩ (.inr (.inr (.inr (.inr ⟨start, set⟩))))
    rintro (ok | ok)
    · exact absurd ok (no_start _)
    · exact absurd ok (no_set i)

/-- 2^32 is taken for device 0, 2^33 - 2 for the system's monitor, and a text for no index. -/
theorem device_index_changed :
    IpcCommand.fromEnvelope ⟨"start_recording", "1", .object [("device_index", .number (.posInt 4294967296))]⟩ =
      .ok (.startRecording (some 0#32)) ∧
    IpcCommand.fromEnvelope ⟨"set_device", "1", .object [("device_index", .number (.posInt 8589934590))]⟩ =
      .ok (.setDevice 0xFFFFFFFE#32) ∧
    IpcCommand.fromEnvelope ⟨"start_recording", "1", .object [("device_index", .string "2")]⟩ =
      .ok (.startRecording none) ∧
    ¬ ExactDevice ⟨"start_recording", "1", .object [("device_index", .number (.posInt 4294967296))]⟩ := by
  refine ⟨rfl, rfl, rfl, fun exact_device => ?_⟩
  have taken := exact_device.taken 0#32 (.inl rfl)
  simp [CommandEnvelope.given, Json.get] at taken

end StereoMix.Ipc
