import StereoMix.Lib.EventSystem
import Mathlib

/-!
# Instances

`bsm-core`'s `instance.rs` without its lock file. The clones of an `InstanceManager` share one map under one mutex, so
each call is one step on that map, whichever clone makes it. An instance is named by the nanoseconds of a clock reading
and inserted under its name: the map follows the instances alive exactly if no create reads a time at which one of them
was made.
-/

namespace StereoMix

open EventSystem

/-! ## The source -/

inductive BsmError where
  | unknown (msg : String)
  deriving DecidableEq, Repr

inductive InstanceState where
  | created
  | running
  | stopped
  deriving DecidableEq, Repr

/-- A reading of the clock: whole seconds and the nanoseconds past them. -/
structure DateTime where
  timestamp : Int
  subsecNanos : Nat
  deriving DecidableEq, Repr

def DateTime.nanos (now : DateTime) : Int := now.timestamp * 1000000000 + now.subsecNanos

@[ext] structure InstanceId where
  val : String
  deriving DecidableEq, Repr

structure Instance where
  id : InstanceId
  name : Option String
  createdAt : DateTime
  state : InstanceState
  deriving DecidableEq, Repr

/-- `Instance::new`, which reads the clock twice. -/
def Instance.new (name : Option String) (now createdAt : DateTime) : Instance where
  id := ⟨s!"inst-{now.nanos}"⟩
  name := name
  createdAt := createdAt
  state := .created

/-- What the clones of a manager share. -/
structure InstanceManager where
  inner : AList fun _ : String => Instance
  poisoned : Bool

namespace InstanceManager

def new : InstanceManager := ⟨∅, false⟩

variable (self : InstanceManager)

def lock : Except BsmError (AList fun _ : String => Instance) :=
  if self.poisoned then .error (.unknown "mutex poisoned: PoisonError \x7b .. \x7d") else .ok self.inner

def create (name : Option String) (now createdAt : DateTime) : Except BsmError InstanceId × InstanceManager :=
  match self.lock with
  | .error e => (.error e, self)
  | .ok guard =>
    let inst := Instance.new name now createdAt
    (.ok inst.id, { self with inner := guard.insert inst.id.val inst })

def get (id : InstanceId) : Except BsmError (Option Instance) := self.lock.map fun guard => guard.lookup id.val

def list : Except BsmError (List Instance) := self.lock.map fun guard => guard.entries.map Sigma.snd

def destroy (id : InstanceId) : Except BsmError Unit × InstanceManager :=
  match self.lock with
  | .error e => (.error e, self)
  | .ok guard =>
    match guard.lookup id.val with
    | some _ => (.ok (), { self with inner := guard.erase id.val })
    | none => (.error (.unknown s!"instance not found: {id.val}"), self)

end InstanceManager

/-! ## The system -/

/-- An instance and the clock reading that named it. -/
structure Created where
  reading : DateTime
  made : Instance

/-- The shared manager, how many clones there are, the creates and destroys that succeeded, and the instances created
and not destroyed. -/
structure Instances where
  manager : InstanceManager
  clones : Nat
  creates : Nat
  destroys : Nat
  live : List Created

/-- Calls through a clone of the manager, with what the clock reads. -/
inductive InstanceEvent where
  | clone (handle : Nat)
  | create (handle : Nat) (name : Option String) (now createdAt : DateTime)
  | destroy (handle : Nat) (id : InstanceId)

def Instances.create (s : Instances) (name : Option String) (now createdAt : DateTime) : Instances :=
  match s.manager.create name now createdAt with
  | (.error _, manager) => { s with manager }
  | (.ok _, manager) =>
    { s with manager, creates := s.creates + 1, live := s.live ++ [⟨now, Instance.new name now createdAt⟩] }

def Instances.destroy (s : Instances) (id : InstanceId) : Instances :=
  match s.manager.destroy id with
  | (.error _, manager) => { s with manager }
  | (.ok _, manager) =>
    { s with manager, destroys := s.destroys + 1, live := s.live.filter fun c => c.made.id ≠ id }

def instanceStep (s : Instances) : InstanceEvent → Option Instances
  | .clone handle => if handle < s.clones then some { s with clones := s.clones + 1 } else none
  | .create handle name now createdAt => if handle < s.clones then some (s.create name now createdAt) else none
  | .destroy handle id => if handle < s.clones then some (s.destroy id) else none

/-- A new manager and its clones. -/
def instanceSystem : EventSystem Instances InstanceEvent where
  init s := s = ⟨.new, 1, 0, 0, []⟩
  step := instanceStep

/-- As many instances are listed as were created less those destroyed, and each of these is found under its id. -/
structure Accounted (s : Instances) : Prop where
  counted : ∃ l, s.manager.list = .ok l ∧ l.length + s.destroys = s.creates
  found : ∀ c ∈ s.live, s.manager.get c.made.id = .ok (some c.made)

/-- A create that succeeds returns an id that is not stored, adds one instance under it and leaves the others. -/
def CreateAddsOne (s : Instances) : InstanceEvent → Prop
  | .create _ name now createdAt => ∀ id after, s.manager.create name now createdAt = (.ok id, after) →
    s.manager.get id = .ok none ∧
      (∃ l l', s.manager.list = .ok l ∧ after.list = .ok l' ∧ l'.length = l.length + 1) ∧
      after.get id = .ok (some (Instance.new name now createdAt)) ∧
      ∀ other, other ≠ id → after.get other = s.manager.get other
  | _ => True

/-- The clock reads no nanosecond at which an instance that is alive was made. -/
def FreshReading (s : Instances) : InstanceEvent → Prop
  | .create _ _ now _ => ∀ c ∈ s.live, c.reading.nanos ≠ now.nanos
  | _ => True

instance (s : Instances) (e : InstanceEvent) : Decidable (FreshReading s e) :=
  match e with
  | .create _ _ now _ => inferInstanceAs (Decidable (∀ c ∈ s.live, c.reading.nanos ≠ now.nanos))
  | .clone _ => .isTrue trivial
  | .destroy _ _ => .isTrue trivial

/-! ## The map -/

theorem length_entries_insert {β : Type} (m : AList fun _ : String => β) (id : String) (b : β) :
    (m.insert id b).entries.length = m.entries.length + if id ∈ m then 0 else 1 := by
  have size (m : AList fun _ : String => β) : m.entries.length = m.keys.length := (List.length_map _).symm
  rw [size, size, AList.keys_insert, List.length_cons, List.length_erase]
  by_cases here : id ∈ m
  · have some_key := List.length_pos_of_mem (AList.mem_keys.1 here)
    rw [if_pos here, if_pos (AList.mem_keys.1 here)]
    omega
  · rw [if_neg here, if_neg fun key => here (AList.mem_keys.2 key)]

theorem length_entries_erase {β : Type} {m : AList fun _ : String => β} {id : String} (here : id ∈ m) :
    (m.erase id).entries.length + 1 = m.entries.length := by
  have size (m : AList fun _ : String => β) : m.entries.length = m.keys.length := (List.length_map _).symm
  have some_key := List.length_pos_of_mem (AList.mem_keys.1 here)
  rw [size, size, AList.keys_erase, List.length_erase, if_pos (AList.mem_keys.1 here)]
  omega

section

variable {m : InstanceManager} (healthy : m.poisoned = false)
include healthy

theorem lock_healthy : m.lock = .ok m.inner := by
  rw [InstanceManager.lock, if_neg (by simp [healthy])]

theorem get_healthy (id : InstanceId) : m.get id = .ok (m.inner.lookup id.val) := by
  rw [InstanceManager.get, lock_healthy healthy]
  rfl

theorem list_healthy : m.list = .ok (m.inner.entries.map Sigma.snd) := by
  rw [InstanceManager.list, lock_healthy healthy]
  rfl

theorem create_healthy (name : Option String) (now createdAt : DateTime) :
    m.create name now createdAt = (.ok (Instance.new name now createdAt).id, { m with
      inner := m.inner.insert (Instance.new name now createdAt).id.val (Instance.new name now createdAt) }) := by
  rw [InstanceManager.create, lock_healthy healthy]

theorem destroy_stored {id : InstanceId} (here : id.val ∈ m.inner) :
    m.destroy id = (.ok (), { m with inner := m.inner.erase id.val }) := by
  obtain ⟨inst, found⟩ := Option.isSome_iff_exists.1 (AList.lookup_isSome.2 here)
  rw [InstanceManager.destroy, lock_healthy healthy]
  dsimp only
  rw [found]

theorem destroy_missing {id : InstanceId} (missing : id.val ∉ m.inner) :
    m.destroy id = (.error (.unknown s!"instance not found: {id.val}"), m) := by
  rw [InstanceManager.destroy, lock_healthy healthy]
  dsimp only
  rw [AList.lookup_eq_none.2 missing]

end

/-! ## One step -/

/-- The stored ids are those of the instances alive, each named by its reading. -/
structure Follows (s : Instances) : Prop where
  healthy : s.manager.poisoned = false
  named : ∀ c ∈ s.live, c.made.id = ⟨s!"inst-{c.reading.nanos}"⟩
  stored : ∀ id : InstanceId, id.val ∈ s.manager.inner ↔ ∃ c ∈ s.live, c.made.id = id

/-- What a step does: a clone, a create, a destroy of a stored instance or one that finds none. -/
inductive Instances.Steps (s : Instances) : InstanceEvent → Instances → Prop where
  | cloned (handle : Nat) : s.Steps (.clone handle) { s with clones := s.clones + 1 }
  | created (handle : Nat) {name : Option String} {now createdAt : DateTime} {inst : Instance}
      (made : inst = Instance.new name now createdAt) : s.Steps (.create handle name now createdAt) { s with
        manager := { s.manager with inner := s.manager.inner.insert inst.id.val inst }
        creates := s.creates + 1
        live := s.live ++ [⟨now, inst⟩] }
  | destroyed (handle : Nat) {id : InstanceId} (here : id.val ∈ s.manager.inner) :
      s.Steps (.destroy handle id) { s with
        manager := { s.manager with inner := s.manager.inner.erase id.val }
        destroys := s.destroys + 1
        live := s.live.filter fun c => c.made.id ≠ id }
  | missing (handle : Nat) {id : InstanceId} (missing : id.val ∉ s.manager.inner) : s.Steps (.destroy handle id) s

theorem steps_of_instanceStep {s t : Instances} {e : InstanceEvent} (healthy : s.manager.poisoned = false)
    (step : instanceStep s e = some t) : s.Steps e t := by
  cases e with
  | clone handle =>
    obtain ⟨-, step⟩ := Option.ite_none_right_eq_some.1 step
    cases step
    exact .cloned handle
  | create handle name now createdAt =>
    obtain ⟨-, step⟩ := Option.ite_none_right_eq_some.1 step
    cases step
    rw [Instances.create, create_healthy healthy]
    exact .created handle rfl
  | destroy handle id =>
    obtain ⟨-, step⟩ := Option.ite_none_right_eq_some.1 step
    cases step
    by_cases here : id.val ∈ s.manager.inner
    · rw [Instances.destroy, destroy_stored healthy here]
      exact .destroyed handle here
    · rw [Instances.destroy, destroy_missing healthy here]
      exact .missing handle here

theorem follows_step {s t : Instances} {e : InstanceEvent} (before : Follows s) (step : instanceStep s e = some t) :
    Follows t := by
  obtain ⟨healthy, named, stored⟩ := before
  cases steps_of_instanceStep healthy step with
  | cloned handle => exact ⟨healthy, named, stored⟩
  | @created handle name now createdAt inst made =>
    refine ⟨healthy, ?_, fun id => ?_⟩
    · intro c member
      obtain old | new := List.mem_append.1 member
      · exact named c old
      · rw [List.mem_singleton.1 new, made]
        rfl
    · dsimp only
      rw [AList.mem_insert, stored]
      simp [or_and_right, exists_or, or_comm, InstanceId.ext_iff, eq_comm]
  | @destroyed handle id here =>
    refine ⟨healthy, ?_, fun other => ?_⟩
    · intro c member
      exact named c (List.mem_filter.1 member).1
    · dsimp only
      rw [AList.mem_erase, stored]
      constructor
      · rintro ⟨apart, c, member, same⟩
        refine ⟨c, List.mem_filter.2 ⟨member, ?_⟩, same⟩
        rw [same]
        simpa [InstanceId.ext_iff] using apart
      · rintro ⟨c, member, same⟩
        obtain ⟨member, apart⟩ := List.mem_filter.1 member
        refine ⟨?_, c, member, same⟩
        rw [same] at apart
        simpa [InstanceId.ext_iff] using apart
  | missing handle missing => exact ⟨healthy, named, stored⟩

theorem freshReading_iff {s : Instances} (follows : Follows s) {handle : Nat} {name : Option String}
    {now createdAt : DateTime} : FreshReading s (.create handle name now createdAt) ↔
      (Instance.new name now createdAt).id.val ∉ s.manager.inner := by
  rw [follows.stored]
  constructor
  · rintro fresh ⟨c, member, same⟩
    rw [follows.named c member] at same
    exact fresh c member (by simpa [Instance.new, Int.repr_inj] using same)
  · intro unused c member same
    refine unused ⟨c, member, ?_⟩
    rw [follows.named c member, same]
    rfl

/-- A create adds one instance exactly if its reading is fresh. -/
theorem createAddsOne_iff {s : Instances} (follows : Follows s) (e : InstanceEvent) :
    CreateAddsOne s e ↔ FreshReading s e := by
  cases e with
  | clone handle => exact Iff.rfl
  | destroy handle id => exact Iff.rfl
  | create handle name now createdAt =>
    have healthy := follows.healthy
    rw [freshReading_iff follows, ← AList.lookup_eq_none]
    constructor
    · intro adds
      have missing := (adds _ _ (create_healthy healthy name now createdAt)).1
      rw [get_healthy healthy] at missing
      exact Except.ok.inj missing
    · intro missing id after made
      rw [create_healthy healthy] at made
      cases made
      have stays inner : InstanceManager.poisoned ⟨inner, s.manager.poisoned⟩ = false := healthy
      refine ⟨?_, ⟨_, _, list_healthy healthy, list_healthy healthy, ?_⟩, ?_, fun other apart => ?_⟩
      · rw [get_healthy healthy, missing]
      · rw [List.length_map, List.length_map, length_entries_insert, if_neg (AList.lookup_eq_none.1 missing)]
      · rw [get_healthy (stays _), AList.lookup_insert]
      · rw [get_healthy (stays _), get_healthy healthy, AList.lookup_insert_ne]
        exact fun same => apart (InstanceId.ext same)

theorem accounted_iff {s : Instances} (healthy : s.manager.poisoned = false) : Accounted s ↔
    s.manager.inner.entries.length + s.destroys = s.creates ∧
      ∀ c ∈ s.live, s.manager.inner.lookup c.made.id.val = some c.made := by
  constructor
  · rintro ⟨⟨l, listed, count⟩, found⟩
    rw [list_healthy healthy] at listed
    cases listed
    rw [List.length_map] at count
    refine ⟨count, fun c member => ?_⟩
    have here := found c member
    rw [get_healthy healthy] at here
    exact Except.ok.inj here
  · rintro ⟨count, found⟩
    refine ⟨⟨_, list_healthy healthy, by rwa [List.length_map]⟩, fun c member => ?_⟩
    rw [get_healthy healthy, found c member]

/-- A step keeps the account exactly if its reading is fresh. -/
theorem accounted_step {s t : Instances} {e : InstanceEvent} (follows : Follows s) (accounted : Accounted s)
    (step : instanceStep s e = some t) : Accounted t ↔ FreshReading s e := by
  obtain ⟨count, found⟩ := (accounted_iff follows.healthy).1 accounted
  rw [accounted_iff (follows_step follows step).healthy]
  cases steps_of_instanceStep follows.healthy step with
  | cloned handle => exact iff_of_true ⟨count, found⟩ trivial
  | missing handle missing => exact iff_of_true ⟨count, found⟩ trivial
  | @destroyed handle id here =>
    refine iff_of_true ⟨?_, fun c member => ?_⟩ trivial
    · have fewer := length_entries_erase here
      dsimp only
      omega
    · obtain ⟨member, apart⟩ := List.mem_filter.1 member
      dsimp only
      rw [AList.lookup_erase_ne (by simpa [InstanceId.ext_iff] using apart)]
      exact found c member
  | @created handle name now createdAt inst made =>
    have size := length_entries_insert s.manager.inner inst.id.val inst
    rw [freshReading_iff follows, ← made]
    dsimp only
    constructor
    · rintro ⟨count', -⟩ here
      rw [if_pos here] at size
      omega
    · intro missing
      rw [if_neg missing] at size
      refine ⟨by omega, fun c member => ?_⟩
      obtain old | new := List.mem_append.1 member
      · rw [AList.lookup_insert_ne, found c old]
        intro same
        exact missing (same ▸ (follows.stored c.made.id).2 ⟨c, old, rfl⟩)
      · rw [List.mem_singleton.1 new]
        exact AList.lookup_insert _

/-! ## Runs -/

/-- **No instance is lost just where no reading repeats**: over any calls from any clones, the manager accounts for
its instances in every state and every create adds one, exactly if every create reads the clock at another nanosecond
than those at which the instances alive were made. -/
theorem never_loses_iff {s : Instances} {es : List InstanceEvent}
    (run : instanceSystem.run ⟨.new, 1, 0, 0, []⟩ es = some s) :
    (instanceSystem.Throughout Accounted ⟨.new, 1, 0, 0, []⟩ es ∧
      instanceSystem.Meets CreateAddsOne ⟨.new, 1, 0, 0, []⟩ es) ↔
      instanceSystem.Meets FreshReading ⟨.new, 1, 0, 0, []⟩ es := by
  have start : Follows ⟨.new, 1, 0, 0, []⟩ := by
    refine ⟨rfl, List.forall_mem_nil _, fun id => ?_⟩
    simp [InstanceManager.new]
  have empty : Accounted ⟨.new, 1, 0, 0, []⟩ := ⟨⟨[], rfl, rfl⟩, List.forall_mem_nil _⟩
  have pres (s : Instances) (e : InstanceEvent) (t : Instances) (follows : Follows s)
      (step : instanceSystem.step s e = some t) : Follows t := follows_step follows step
  rw [meets_congr_of pres (fun s e follows => createAddsOne_iff follows e) start,
    throughout_iff_meets pres (fun s e t follows accounted step => accounted_step follows accounted step) start empty
      run, and_self]

/-- Two instances made a nanosecond apart, and one destroyed. -/
def twoInstances : List InstanceEvent :=
  [.create 0 (some "a") ⟨1, 5⟩ ⟨1, 6⟩, .clone 0, .create 1 (some "b") ⟨1, 6⟩ ⟨1, 7⟩, .destroy 1 ⟨"inst-1000000005"⟩]

theorem never_loses_iff_twoInstances : instanceSystem.Throughout Accounted ⟨.new, 1, 0, 0, []⟩ twoInstances ∧
    instanceSystem.Meets CreateAddsOne ⟨.new, 1, 0, 0, []⟩ twoInstances :=
  (never_loses_iff (Option.some_get (by decide +kernel)).symm).2 (by decide +kernel)

/-- Two creates that read the same nanosecond leave one instance. -/
theorem same_reading_replaces : ¬ instanceSystem.Throughout Accounted ⟨.new, 1, 0, 0, []⟩
    [.create 0 (some "a") ⟨1, 5⟩ ⟨1, 6⟩, .create 0 (some "b") ⟨1, 5⟩ ⟨1, 6⟩] := by
  intro all
  have last : Accounted _ := (all.2 _ rfl).2 _ rfl
  obtain ⟨l, listed, count⟩ := last.counted
  have one : l.length = 1 := by
    cases listed
    decide +kernel
  rw [one] at count
  exact absurd count (by decide +kernel)

end StereoMix
