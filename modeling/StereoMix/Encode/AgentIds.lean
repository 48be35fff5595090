import StereoMix.Encode.AgentStatus

/-!
# The ids of the sessions

An id is a reading of the clock in milliseconds, taken before the lock that the insert takes. In the runs where no
reading is that of a session in the map, or of one about to be inserted, every insert finds its id free, so that a
session is found by its id until a Stop for it.
-/

namespace StereoMix.Encode

open EventSystem

/-- The id that a handler is about to insert. -/
def HandlerPc.id : HandlerPc → Option String
  | .inserting _ id _ => some id
  | _ => none

/-- A Start reads a clock that gives the id of no session in the map, nor of one about to be inserted. -/
def FreshReading (s : AgentServer) : AgentEvent → Prop
  | .clock _ millis => (∀ e ∈ s.map, e.1 ≠ s!"session-{millis}") ∧
      ∀ handler ∈ s.handlers, handler.pc.id ≠ some s!"session-{millis}"
  | _ => True

instance (s : AgentServer) (e : AgentEvent) : Decidable (FreshReading s e) := by
  unfold FreshReading
  split <;> infer_instance

/-- No Stop for `id` is handled. -/
def NotStopped (id : String) (s : AgentServer) : AgentEvent → Prop
  | .stop h => ∀ handler ∈ s.handlers[h]?, handler.pc ≠ .arrived (.stop id)
  | _ => True

/-- A Start that inserts its session finds the id free, and in the runs from there whose steps meet `C` the id is
that session's as long as no Stop for it is handled. -/
def KeepsSessions (C : AgentServer → AgentEvent → Prop) (s : AgentServer) : Prop :=
  ∀ (h k : Nat) (handler : Handler) (id path : String) (t : AgentServer), s.handlers[h]? = some handler →
    handler.pc = .inserting k id path → agentStep s (.insert h) = some t →
      s.lookup id = none ∧ ∀ es u, agentSystem.Meets (fun v e => C v e ∧ NotStopped id v e) t es →
        agentSystem.run t es = some u → u.lookup id = some ⟨handler.origin, k⟩

/-! ## The map -/

theorem lookup_eq_none {s : AgentServer} {id : String} : s.lookup id = none ↔ ∀ e ∈ s.map, e.1 ≠ id := by
  simp [AgentServer.lookup]

theorem find?_others {s : AgentServer} {id id' : String} (other : id' ≠ id) :
    (s.map.filter fun e => e.1 ≠ id').find? (fun e => e.1 = id) = s.map.find? fun e => e.1 = id := by
  rw [List.find?_filter]
  congr 1
  funext e
  by_cases same : e.1 = id
  · simp [same, Ne.symm other]
  · simp [same]

theorem lookup_removed {s t : AgentServer} {id id' : String} (other : id' ≠ id) (map : t.map = s.removed id') :
    t.lookup id = s.lookup id := by
  unfold AgentServer.lookup
  rw [map, AgentServer.removed, find?_others other]

theorem lookup_inserted {s t : AgentServer} {id : String} {rs : RecordingSessionHandle}
    (map : t.map = s.inserted id rs) : t.lookup id = some rs := by
  have none_left : (s.map.filter fun e => e.1 ≠ id).find? (fun e => e.1 = id) = none := by simp
  unfold AgentServer.lookup
  rw [map, AgentServer.inserted, List.find?_append, none_left, Option.none_or, List.find?_singleton]
  simp

theorem lookup_inserted_other {s t : AgentServer} {id id' : String} {rs : RecordingSessionHandle} (other : id' ≠ id)
    (map : t.map = s.inserted id' rs) : t.lookup id = s.lookup id := by
  unfold AgentServer.lookup
  rw [map, AgentServer.inserted, List.find?_append, find?_others other]
  simp [other]

/-! ## Distinct ids -/

/-- The ids about to be inserted are different, and none of them is in the map. -/
structure DistinctIds (s : AgentServer) : Prop where
  pending : ∀ (i j : Nat) (x y : Handler) (id : String), s.handlers[i]? = some x → s.handlers[j]? = some y →
    x.pc.id = some id → y.pc.id = some id → i = j
  free : ∀ (i : Nat) (x : Handler) (id : String), s.handlers[i]? = some x → x.pc.id = some id → ∀ e ∈ s.map, e.1 ≠ id

/-- A step that gives no handler an id, and adds no entry. -/
theorem DistinctIds.kept {s t : AgentServer} (before : DistinctIds s) (map : t.map ⊆ s.map)
    (handlers : ∀ (i : Nat) (x : Handler) (id : String), t.handlers[i]? = some x → x.pc.id = some id →
      ∃ y, s.handlers[i]? = some y ∧ y.pc.id = some id) : DistinctIds t := by
  constructor
  · intro i j x y id at_i at_j mine yours
    obtain ⟨x', at_i, mine⟩ := handlers i x id at_i mine
    obtain ⟨y', at_j, yours⟩ := handlers j y id at_j yours
    exact before.pending i j x' y' id at_i at_j mine yours
  · intro i x id at_i mine e entry
    obtain ⟨x', at_i, mine⟩ := handlers i x id at_i mine
    exact before.free i x' id at_i mine e (map entry)

/-- A handler's step to a place without an id gives no handler an id. -/
theorem ids_setPc {s : AgentServer} {h : Nat} {handler : Handler} {pc : HandlerPc}
    (there : s.handlers[h]? = some handler) (none : pc.id = none) (i : Nat) (x : Handler) (id : String)
    (found : (s.setPc h handler pc).handlers[i]? = some x) (mine : x.pc.id = some id) :
    ∃ y, s.handlers[i]? = some y ∧ y.pc.id = some id := by
  rcases getElem?_setPc there found with ⟨rfl, rfl⟩ | ⟨-, found⟩
  · rw [none] at mine
    cases mine
  · exact ⟨x, found, mine⟩

theorem id_of_inFlight {pc : HandlerPc} (quiet : pc.inFlight = false) : pc.id = none := by
  cases pc with
  | inserting => cases quiet
  | _ => rfl

theorem DistinctIds.step {s t : AgentServer} {e : AgentEvent} (before : DistinctIds s) (fresh : FreshReading s e)
    (moves : s.Moves e t) : DistinctIds t := by
  cases moves with
  | connected origin cmd =>
    refine before.kept (List.Subset.refl _) ?_
    intro i x id found mine
    rcases Parts.of_added found with old | ⟨-, rfl⟩
    · exact ⟨x, old, mine⟩
    · cases mine
  | resolved there => exact before.kept (List.Subset.refl _) (ids_setPc there rfl)
  | aside pc lock there quiet after =>
    exact before.kept (List.Subset.refl _) (ids_setPc there (id_of_inFlight after))
  | passed there | failed there | began there | reported there | finished _ there =>
    exact before.kept (List.Subset.refl _) (ids_setPc there rfl)
  | @clocked h k handler path millis there at_started =>
    obtain ⟨no_entry, no_handler⟩ := fresh
    have unique (i : Nat) (x : Handler) (found : s.handlers[i]? = some x) : x.pc.id ≠ some s!"session-{millis}" :=
      no_handler x (List.mem_of_getElem? found)
    constructor
    · intro i j x y id at_i at_j mine yours
      rcases getElem?_setPc there at_i with ⟨rfl, rfl⟩ | ⟨-, old_i⟩ <;>
        rcases getElem?_setPc there at_j with ⟨rfl, rfl⟩ | ⟨-, old_j⟩
      · rfl
      · cases mine
        exact absurd yours (unique j y old_j)
      · cases yours
        exact absurd mine (unique i x old_i)
      · exact before.pending i j x y id old_i old_j mine yours
    · intro i x id found mine
      rcases getElem?_setPc there found with ⟨rfl, rfl⟩ | ⟨-, found⟩
      · cases mine
        exact no_entry
      · exact before.free i x id found mine
  | @inserted h k handler id path there at_inserting =>
    have mine : handler.pc.id = some id := by rw [at_inserting]; rfl
    have others (i : Nat) (x : Handler) (id' : String) :=
      @ids_setPc s h handler (.responding (.ok (.started id path))) there rfl i x id'
    constructor
    · intro i j x y id' at_i at_j mine yours
      obtain ⟨x', at_i, mine⟩ := others i x id' at_i mine
      obtain ⟨y', at_j, yours⟩ := others j y id' at_j yours
      exact before.pending i j x' y' id' at_i at_j mine yours
    · intro i x id' found theirs e entry
      rcases getElem?_setPc there found with ⟨rfl, rfl⟩ | ⟨apart, found⟩
      · cases theirs
      · rcases List.mem_append.1 entry with old | new
        · exact before.free i x id' found theirs e (List.mem_of_mem_filter old)
        · rw [List.mem_singleton.1 new]
          rintro rfl
          exact apart (before.pending i h x handler id found there theirs mine)
  | removed there => exact before.kept (List.filter_subset_self _) (ids_setPc there rfl)
  | forwarded | timedOut => exact before.kept (List.Subset.refl _) fun i x id found mine => ⟨x, found, mine⟩

/-! ## The sessions -/

/-- A step that is no Stop for an id, when no handler is about to insert under it, leaves the id's entry. -/
theorem lookup_step {s t : AgentServer} {e : AgentEvent} {id : String} (moves : s.Moves e t)
    (running : NotStopped id s e) (unshared : ∀ (i : Nat) (x : Handler), s.handlers[i]? = some x → x.pc.id ≠ some id) :
    t.lookup id = s.lookup id := by
  cases moves with
  | @inserted h k handler id' path there at_inserting =>
    apply lookup_inserted_other _ rfl
    rintro rfl
    exact unshared h handler there (by rw [at_inserting]; rfl)
  | @removed h handler id' rs there at_arrived found =>
    apply lookup_removed _ rfl
    rintro rfl
    exact running handler there at_arrived
  | _ => rfl

theorem inserted_of_step {s t : AgentServer} {h k : Nat} {handler : Handler} {id path : String}
    (there : s.handlers[h]? = some handler) (at_inserting : handler.pc = .inserting k id path)
    (step : agentStep s (.insert h) = some t) : t.map = s.inserted id ⟨handler.origin, k⟩ := by
  obtain ⟨origin, pc⟩ := handler
  cases at_inserting
  unfold agentStep at step
  dsimp only [AgentEvent.handler] at step
  rw [there] at step
  obtain ⟨-, step⟩ := Option.ite_none_right_eq_some.1 step
  cases step
  rfl

/-- **No live session is lost in the runs whose clock readings are fresh.** -/
theorem live_sessions_kept {s : AgentServer} (reached : agentSystem.ReachableWhere FreshReading s) :
    KeepsSessions FreshReading s := by
  have distinct : DistinctIds s := by
    apply invariant_where (S := agentSystem) (C := FreshReading) (I := DistinctIds)
    · rintro s ⟨env, files, rfl⟩
      constructor
      · intro i j x y id there
        cases there
      · intro i x id there
        cases there
    · exact fun s e t before fresh step => before.step fresh (AgentServer.moves_of_step step)
    · exact reached
  intro h k handler id path t there at_inserting step
  have mine : handler.pc.id = some id := by rw [at_inserting]; rfl
  have unused : s.lookup id = none := lookup_eq_none.2 (distinct.free h handler id there mine)
  refine ⟨unused, ?_⟩
  intro es u meets run
  have after : DistinctIds t := distinct.step (e := .insert h) trivial (AgentServer.moves_of_step step)
  have found : t.lookup id = some ⟨handler.origin, k⟩ := lookup_inserted (inserted_of_step there at_inserting step)
  -- The entry stays, since no handler can come to have its id.
  have kept : DistinctIds u ∧ u.lookup id = some ⟨handler.origin, k⟩ := by
    apply run_induction (S := agentSystem) (C := fun v e => FreshReading v e ∧ NotStopped id v e)
      (I := fun v => DistinctIds v ∧ v.lookup id = some ⟨handler.origin, k⟩) _ ⟨after, found⟩ meets run
    rintro v e w ⟨distinct, entry⟩ ⟨fresh, running⟩ step
    have moves := AgentServer.moves_of_step step
    refine ⟨distinct.step fresh moves, ?_⟩
    rw [lookup_step moves running, entry]
    intro i x found pending
    exact distinct.free i x id found pending _ (mem_of_lookup entry) rfl
  exact kept.2

/-- Handler `h` connects at a second of its own, and passes its checks and the rate limit. -/
def admittedAt (h second : Nat) : List AgentEvent :=
  [.connect "10.0.0.7" plainStart, .resolve h (fun _ => ⟨2026, 1, 2, 3, 4, second⟩) (.ok ()), .check h]

/-- Handler `h` starts its session and reads the clock. -/
def clockedAt (h : Nat) (millis : Int) : List AgentEvent := [.start h true (.ok ()), .clock h millis]

theorem live_sessions_kept_two : ∃ s, agentSystem.run ⟨⟨none, none, none⟩, [], [], none, [], [], []⟩
    (admittedAt 0 5 ++ admittedAt 1 6 ++ clockedAt 0 1000 ++ clockedAt 1 1001) = some s ∧
      KeepsSessions FreshReading s :=
  ⟨_, rfl, live_sessions_kept ⟨_, admittedAt 0 5 ++ admittedAt 1 6 ++ clockedAt 0 1000 ++ clockedAt 1 1001,
    ⟨⟨none, none, none⟩, [], rfl⟩, by decide, rfl⟩⟩

/-- Two Starts read the same millisecond: the second insert replaces the first session, which no Stop ended. -/
theorem live_session_replaced : ∃ s, agentSystem.run ⟨⟨none, none, none⟩, [], [], none, [], [], []⟩
    (admittedAt 0 5 ++ admittedAt 1 6 ++ clockedAt 0 1000 ++ clockedAt 1 1000) = some s ∧
      ¬ KeepsSessions (fun _ _ => True) s := by
  refine ⟨_, rfl, ?_⟩
  intro keeps
  obtain ⟨-, kept⟩ := keeps 0 0 _ _ _ _ rfl rfl rfl
  have still := kept [.insert 1] _ ⟨⟨trivial, trivial⟩, fun _ _ => trivial⟩ rfl
  exact absurd still (by decide)

end StereoMix.Encode
