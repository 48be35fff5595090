import StereoMix.Lib.EventSystem
import Mathlib.Data.List.Nodup

/-!
# The lock file of a single instance

`SingleInstanceGuard` of `instance.rs`: a file in the directory for temporary files that a process creates when there is
none and removes when it drops its guard. Processes may have different such directories; a process that is killed
drops nothing, and others may remove the file or make it. Two guards never share a file unless somebody else removed it
under the first, and the file of a killed process keeps everyone out.
-/

namespace StereoMix

open EventSystem

/-! ## The source -/

/-- A path, as the directories and the name that it resolves to. -/
abbrev LockPath : Type := List String

structure SingleInstanceGuard where
  lockPath : LockPath
  deriving DecidableEq, Repr

inductive InstanceError where
  | alreadyRunning
  | systemError (msg : String)
  deriving DecidableEq, Repr

def InstanceError.text : InstanceError → String
  | .alreadyRunning => "Another instance of Baxter's Stereo Mix is already running"
  | .systemError msg => s!"System error acquiring instance guard: {msg}"

/-- `acquire`, where the files are `files`; the system may refuse to create one for a reason of its own. -/
def SingleInstanceGuard.acquire (files : List LockPath) (tempDir : LockPath) (refused : Option String) :
    Except InstanceError SingleInstanceGuard × List LockPath :=
  let path := tempDir ++ ["bsm_single_instance.lock"]
  match refused with
  | some e => (.error (.systemError e), files)
  | none => if path ∈ files then (.error .alreadyRunning, files) else (.ok ⟨path⟩, path :: files)

/-- `drop`; an error of `remove_file` is ignored. -/
def SingleInstanceGuard.drop (guard : SingleInstanceGuard) (files : List LockPath) (removed : Bool) : List LockPath :=
  if removed then files.filter (· ≠ guard.lockPath) else files

/-- The lock files, the guards of all processes, and the record of what `acquire` answered. -/
structure InstanceLocks where
  files : List LockPath
  guards : List SingleInstanceGuard
  answers : List (Except InstanceError SingleInstanceGuard)

/-- What can happen: a process asks for a guard, drops one, or is killed with it; somebody else makes or removes a
file. -/
inductive LockEvent where
  | acquire (tempDir : LockPath) (refused : Option String)
  | drop (guard : SingleInstanceGuard) (removed : Bool)
  | killed (guard : SingleInstanceGuard)
  | made (path : LockPath)
  | removed (path : LockPath)
  deriving DecidableEq

def lockStep (s : InstanceLocks) : LockEvent → Option InstanceLocks
  | .acquire tempDir refused =>
    let (answer, files) := SingleInstanceGuard.acquire s.files tempDir refused
    some ⟨files, s.guards ++ answer.toOption.toList, s.answers ++ [answer]⟩
  | .drop guard removed =>
    if guard ∈ s.guards then some { s with files := guard.drop s.files removed, guards := s.guards.erase guard }
    else none
  | .killed guard => if guard ∈ s.guards then some { s with guards := s.guards.erase guard } else none
  | .made path => some { s with files := path :: s.files }
  | .removed path => some { s with files := s.files.filter (· ≠ path) }

def lockSystem : EventSystem InstanceLocks LockEvent where
  init s := s.guards = [] ∧ s.answers = []
  step := lockStep

/-! ## One guard for a file -/

/-- Every guard has its file, and a file has one guard at most. -/
structure InstanceLocks.Held (s : InstanceLocks) : Prop where
  single : s.guards.Nodup
  there : ∀ guard ∈ s.guards, guard.lockPath ∈ s.files

/-- Nobody else removes the file of a guard. -/
def Undisturbed (s : InstanceLocks) : LockEvent → Prop
  | .removed path => ∀ guard ∈ s.guards, guard.lockPath ≠ path
  | _ => True

/-- What asking for a guard leaves: a guard with a file that was not there, or all as it was. -/
theorem acquire_cases {s t : InstanceLocks} {tempDir : LockPath} {refused : Option String}
    (step : lockStep s (.acquire tempDir refused) = some t) :
    (∃ path, path ∉ s.files ∧ t = ⟨path :: s.files, s.guards ++ [⟨path⟩], s.answers ++ [.ok ⟨path⟩]⟩) ∨
      ∃ e, t = { s with answers := s.answers ++ [.error e] } := by
  have asked : some (InstanceLocks.mk (SingleInstanceGuard.acquire s.files tempDir refused).2
      (s.guards ++ (SingleInstanceGuard.acquire s.files tempDir refused).1.toOption.toList)
      (s.answers ++ [(SingleInstanceGuard.acquire s.files tempDir refused).1])) = some t := step
  have nothing : s.guards ++ [] = s.guards := List.append_nil _
  cases refused with
  | some e =>
    cases asked
    exact .inr ⟨_, congrArg (InstanceLocks.mk s.files · _) nothing⟩
  | none =>
    by_cases there : tempDir ++ ["bsm_single_instance.lock"] ∈ s.files
    · simp only [SingleInstanceGuard.acquire, if_pos there] at asked
      cases asked
      exact .inr ⟨_, congrArg (InstanceLocks.mk s.files · _) nothing⟩
    · simp only [SingleInstanceGuard.acquire, if_neg there] at asked
      cases asked
      exact .inl ⟨_, there, rfl⟩

theorem lockPath_ne {g g' : SingleInstanceGuard} (other : g ≠ g') : g.lockPath ≠ g'.lockPath := by
  intro same
  cases g
  cases g'
  cases same
  exact other rfl

theorem InstanceLocks.Held.acquire {s t : InstanceLocks} (held : s.Held) {tempDir : LockPath}
    {refused : Option String} (step : lockStep s (.acquire tempDir refused) = some t) : t.Held := by
  rcases acquire_cases step with ⟨path, absent, rfl⟩ | ⟨e, rfl⟩
  · constructor
    · refine List.nodup_append'.2 ⟨held.single, List.nodup_singleton _, ?_⟩
      intro guard member new
      cases List.mem_singleton.1 new
      exact absent (held.there _ member)
    · refine List.forall_mem_append.2 ⟨fun guard member => .tail _ (held.there guard member), ?_⟩
      exact List.forall_mem_singleton.2 List.mem_cons_self
  · exact ⟨held.single, held.there⟩

theorem InstanceLocks.Held.drop {s : InstanceLocks} (held : s.Held) (guard : SingleInstanceGuard) (removed : Bool) :
    InstanceLocks.Held { s with files := guard.drop s.files removed, guards := s.guards.erase guard } := by
  refine ⟨held.single.erase guard, fun guard' member => ?_⟩
  obtain ⟨other, member⟩ := held.single.mem_erase_iff.1 member
  have file := held.there guard' member
  unfold SingleInstanceGuard.drop
  split
  · exact List.mem_filter.2 ⟨file, decide_eq_true (lockPath_ne other)⟩
  · exact file

/-- What a step keeps of the guards. -/
theorem held_step {s t : InstanceLocks} {e : LockEvent} (held : s.Held) (step : lockStep s e = some t) :
    t.Held ↔ Undisturbed s e := by
  cases e with
  | acquire tempDir refused => exact iff_of_true (held.acquire step) trivial
  | drop guard removed =>
    obtain ⟨-, step⟩ := Option.ite_none_right_eq_some.1 step
    cases step
    exact iff_of_true (held.drop guard removed) trivial
  | killed guard =>
    obtain ⟨-, step⟩ := Option.ite_none_right_eq_some.1 step
    cases step
    exact iff_of_true (held.drop guard false) trivial
  | made path =>
    cases step
    exact iff_of_true ⟨held.single, fun guard member => .tail _ (held.there guard member)⟩ trivial
  | removed path =>
    cases step
    constructor
    · intro after guard member
      exact of_decide_eq_true (List.mem_filter.1 (after.there guard member)).2
    · intro undisturbed
      refine ⟨held.single, fun guard member => ?_⟩
      exact List.mem_filter.2 ⟨held.there guard member, decide_eq_true (undisturbed guard member)⟩

theorem held_of_init {s : InstanceLocks} (first : lockSystem.init s) : s.Held :=
  ⟨first.1 ▸ List.nodup_nil, first.1 ▸ List.forall_mem_nil _⟩

/-- **Two guards never share a file**, whichever processes ask, drop their guards and are killed in whatever order:
every guard has its file and no file two guards, throughout a run, exactly if nobody else ever removes the file of a
guard. -/
theorem guards_exclude {s t : InstanceLocks} {es : List LockEvent} (first : lockSystem.init s)
    (run : lockSystem.run s es = some t) :
    lockSystem.Throughout InstanceLocks.Held s es ↔ lockSystem.Meets Undisturbed s es :=
  throughout_iff_meets (J := fun _ => True) (fun _ _ _ _ _ => trivial) (fun _ _ _ _ held step => held_step held step)
    trivial (held_of_init first) run

def tmpLock : LockPath := ["tmp", "bsm_single_instance.lock"]

/-- Two processes with one directory, and a killed one whose file somebody removes. -/
def twoProcesses : List LockEvent :=
  [.acquire ["tmp"] none, .acquire ["tmp"] none, .killed ⟨tmpLock⟩, .removed tmpLock, .acquire ["tmp"] none]

theorem guards_exclude_two : ∃ t, lockSystem.run ⟨[], [], []⟩ twoProcesses = some t ∧
    (lockSystem.Throughout InstanceLocks.Held ⟨[], [], []⟩ twoProcesses ↔
      lockSystem.Meets Undisturbed ⟨[], [], []⟩ twoProcesses) :=
  ⟨_, rfl, guards_exclude ⟨rfl, rfl⟩ rfl⟩

/-! ## A file without a guard -/

/-- A file that was left behind, or that somebody else made. -/
def InstanceLocks.Stale (s : InstanceLocks) (path : LockPath) : Prop := path ∈ s.files ∧ ⟨path⟩ ∉ s.guards

/-- While nobody removes a file without a guard, it stays so, and nobody gets a guard for it. -/
theorem stale_stays {s t : InstanceLocks} {es : List LockEvent} {path : LockPath} (stale : s.Stale path)
    (kept : .removed path ∉ es) (run : lockSystem.run s es = some t) :
    t.Stale path ∧ ∃ answers, t.answers = s.answers ++ answers ∧ .ok ⟨path⟩ ∉ answers := by
  induction es generalizing s with
  | nil =>
    cases run
    exact ⟨stale, [], (List.append_nil _).symm, nofun⟩
  | cons e es ih =>
    obtain ⟨u, step, rest⟩ := run_cons_eq_some.1 run
    rw [List.mem_cons, not_or] at kept
    have onwards {answer : List (Except InstanceError SingleInstanceGuard)} (stale : u.Stale path)
        (same : u.answers = s.answers ++ answer) (other : .ok ⟨path⟩ ∉ answer) :
        t.Stale path ∧ ∃ answers, t.answers = s.answers ++ answers ∧ .ok ⟨path⟩ ∉ answers := by
      obtain ⟨after, answers, same', others⟩ := ih stale kept.2 rest
      refine ⟨after, answer ++ answers, by rw [same', same, List.append_assoc], ?_⟩
      exact fun member => (List.mem_append.1 member).elim other others
    have without (guard : SingleInstanceGuard) : ⟨path⟩ ∉ s.guards.erase guard := fun member =>
      stale.2 (List.mem_of_mem_erase member)
    cases e with
    | acquire tempDir refused =>
      rcases acquire_cases step with ⟨path', absent, rfl⟩ | ⟨e, rfl⟩
      · have other : path' ≠ path := fun here => absent (here ▸ stale.1)
        refine onwards ⟨.tail _ stale.1, ?_⟩ rfl ?_
        · intro member
          rcases List.mem_append.1 member with old | new
          · exact stale.2 old
          · cases List.mem_singleton.1 new
            exact other rfl
        · intro member
          cases List.mem_singleton.1 member
          exact other rfl
      · exact onwards stale rfl (by simp)
    | drop guard removed =>
      obtain ⟨member, step⟩ := Option.ite_none_right_eq_some.1 step
      cases step
      refine onwards ⟨?_, without guard⟩ (List.append_nil _).symm nofun
      have other : path ≠ guard.lockPath := by
        rintro rfl
        exact stale.2 member
      change path ∈ guard.drop s.files removed
      unfold SingleInstanceGuard.drop
      split
      · exact List.mem_filter.2 ⟨stale.1, decide_eq_true other⟩
      · exact stale.1
    | killed guard =>
      obtain ⟨-, step⟩ := Option.ite_none_right_eq_some.1 step
      cases step
      exact onwards ⟨stale.1, without guard⟩ (List.append_nil _).symm nofun
    | made other =>
      cases step
      exact onwards ⟨.tail _ stale.1, stale.2⟩ (List.append_nil _).symm nofun
    | removed other =>
      cases step
      have other : path ≠ other := fun same => kept.1 (same ▸ rfl)
      exact onwards ⟨List.mem_filter.2 ⟨stale.1, decide_eq_true other⟩, stale.2⟩ (List.append_nil _).symm nofun

/-- **A killed process keeps everyone out**: after an undisturbed run, the file of a guard that is killed is there
until somebody else removes it, and until then nobody gets a guard for it. -/
theorem killed_locks_out {s t u v : InstanceLocks} {es fs : List LockEvent} {guard : SingleInstanceGuard}
    (first : lockSystem.init s) (undisturbed : lockSystem.Meets Undisturbed s es) (run : lockSystem.run s es = some t)
    (killed : lockSystem.step t (.killed guard) = some u) (kept : .removed guard.lockPath ∉ fs)
    (onwards : lockSystem.run u fs = some v) :
    v.Stale guard.lockPath ∧ ∃ answers, v.answers = u.answers ++ answers ∧ .ok guard ∉ answers := by
  have held : t.Held := run_induction (I := InstanceLocks.Held)
    (fun _ _ _ held undisturbed step => (held_step held step).2 undisturbed) (held_of_init first) undisturbed run
  obtain ⟨member, step⟩ := Option.ite_none_right_eq_some.1 killed
  cases step
  exact stale_stays ⟨held.there guard member, held.single.not_mem_erase⟩ kept onwards

theorem killed_locks_out_two : ∃ v, lockSystem.run ⟨[tmpLock], [], [.ok ⟨tmpLock⟩]⟩
    [.acquire ["tmp"] none, .acquire ["var", "tmp"] none] = some v ∧ v.Stale tmpLock := by
  have undisturbed : lockSystem.Meets Undisturbed ⟨[], [], []⟩ [.acquire ["tmp"] none] := ⟨trivial, fun _ _ => trivial⟩
  have run : lockSystem.run ⟨[], [], []⟩ [.acquire ["tmp"] none] = some ⟨[tmpLock], [⟨tmpLock⟩], [.ok ⟨tmpLock⟩]⟩ := rfl
  have killed : lockSystem.step ⟨[tmpLock], [⟨tmpLock⟩], [.ok ⟨tmpLock⟩]⟩ (.killed ⟨tmpLock⟩) =
      some ⟨[tmpLock], [], [.ok ⟨tmpLock⟩]⟩ := rfl
  have kept : .removed tmpLock ∉ [LockEvent.acquire ["tmp"] none, .acquire ["var", "tmp"] none] := by decide
  exact ⟨_, rfl, (killed_locks_out ⟨rfl, rfl⟩ undisturbed run killed kept rfl).1⟩

end StereoMix
