import StereoMix.Encode.AgentServer

/-!
# The session limits

The rate limit counts what is in the map, and a Start that passed it is not in the map until it inserts. What stays
within the limits is the load, the entries and the Starts in flight together, so the limits hold in the runs where
every Start that passes finds room for the load.
-/

namespace StereoMix.Encode

open EventSystem

/-- The Starts in flight from origins that satisfy `p`. -/
def AgentServer.starts (s : AgentServer) (p : String → Bool) : Nat :=
  s.handlers.countP fun handler => p handler.origin && handler.pc.inFlight

/-- The entries of the map, and the Starts in flight, from origins that satisfy `p`. -/
def AgentServer.load (s : AgentServer) (p : String → Bool) : Nat :=
  s.map.countP (fun e => p e.2.origin) + s.starts p

/-- A Start that passes the rate limit leaves room for the Starts in flight too. -/
def CountsInFlight (s : AgentServer) : AgentEvent → Prop
  | .check h => ∀ handler ∈ s.handlers[h]?, s.hasRoom handler.origin = true →
      s.load (· = handler.origin) < MAX_PER_ORIGIN ∧ s.load (fun _ => true) < MAX_TOTAL
  | _ => True

instance (s : AgentServer) (e : AgentEvent) : Decidable (CountsInFlight s e) := by
  unfold CountsInFlight
  split <;> infer_instance

/-- The map holds at most 4 sessions of one origin, and at most 64 sessions. -/
def WithinLimits (s : AgentServer) : Prop :=
  (∀ origin, (s.map.countP fun e => e.2.origin = origin) ≤ MAX_PER_ORIGIN) ∧ s.map.length ≤ MAX_TOTAL

/-! ## The load -/

theorem countP_set_add {α : Type} {l : List α} {i : Nat} {x : α} (p : α → Bool) (there : l[i]? = some x) (y : α) :
    (l.set i y).countP p + (if p x then 1 else 0) = l.countP p + (if p y then 1 else 0) := by
  obtain ⟨inside, rfl⟩ := List.getElem?_eq_some_iff.1 there
  have counted : (if p l[i] then 1 else 0) ≤ l.countP p := List.boole_getElem_le_countP inside
  rw [List.countP_set inside]
  omega

/-- How a handler's step from one place to another changes the Starts in flight. -/
theorem starts_setPc {s : AgentServer} {h : Nat} {handler : Handler} (p : String → Bool)
    (there : s.handlers[h]? = some handler) (pc : HandlerPc) :
    (s.setPc h handler pc).starts p + (if p handler.origin && handler.pc.inFlight then 1 else 0) =
      s.starts p + (if p handler.origin && pc.inFlight then 1 else 0) :=
  countP_set_add (fun handler : Handler => p handler.origin && handler.pc.inFlight) there { handler with pc }

theorem starts_kept {s : AgentServer} {h : Nat} {handler : Handler} (p : String → Bool)
    (there : s.handlers[h]? = some handler) (pc : HandlerPc) (same : pc.inFlight = handler.pc.inFlight) :
    (s.setPc h handler pc).starts p = s.starts p := by
  have counted := starts_setPc p there pc
  rw [same] at counted
  exact Nat.add_right_cancel counted

/-- A Start that is over leaves the flight. -/
theorem starts_over {s : AgentServer} {h : Nat} {handler : Handler} (p : String → Bool)
    (there : s.handlers[h]? = some handler) (pc : HandlerPc) (before : handler.pc.inFlight = true)
    (after : pc.inFlight = false) :
    (s.setPc h handler pc).starts p + (if p handler.origin then 1 else 0) = s.starts p := by
  have counted := starts_setPc p there pc
  rw [before, after] at counted
  simpa using counted

/-- A Start that passes the check joins the flight. -/
theorem starts_joined {s : AgentServer} {h : Nat} {handler : Handler} (p : String → Bool)
    (there : s.handlers[h]? = some handler) (pc : HandlerPc) (before : handler.pc.inFlight = false)
    (after : pc.inFlight = true) :
    (s.setPc h handler pc).starts p = s.starts p + (if p handler.origin then 1 else 0) := by
  have counted := starts_setPc p there pc
  rw [before, after] at counted
  simpa using counted

theorem countP_removed_le (s : AgentServer) (id : String) (p : String → Bool) :
    (s.removed id).countP (fun e => p e.2.origin) ≤ s.map.countP fun e => p e.2.origin := by
  apply List.Sublist.countP_le
  exact List.filter_sublist

theorem countP_inserted_le (s : AgentServer) (id : String) (rs : RecordingSessionHandle) (p : String → Bool) :
    (s.inserted id rs).countP (fun e => p e.2.origin) ≤
      s.map.countP (fun e => p e.2.origin) + (if p rs.origin then 1 else 0) := by
  unfold AgentServer.inserted
  rw [List.countP_append, List.countP_singleton]
  apply Nat.add_le_add_right
  exact countP_removed_le s id p

/-- Only a Start that passes the rate limit adds to the load, and only to that of its origin. -/
theorem load_step {s t : AgentServer} {e : AgentEvent} (p : String → Bool) (moves : s.Moves e t) :
    t.load p ≤ s.load p ∨ ∃ h handler, e = .check h ∧ s.handlers[h]? = some handler ∧
      s.hasRoom handler.origin = true ∧ p handler.origin = true ∧ t.load p = s.load p + 1 := by
  cases moves with
  | connected origin cmd =>
    left
    simp [AgentServer.load, AgentServer.starts, HandlerPc.inFlight]
  | @passed h handler request there at_checking room =>
    have joined := starts_joined p there (.starting request) (by rw [at_checking]; rfl) rfl
    by_cases here : p handler.origin = true
    · right
      rw [if_pos here] at joined
      exact ⟨h, handler, rfl, there, room, here, congrArg (s.map.countP _ + ·) joined⟩
    · left
      rw [if_neg here] at joined
      exact Nat.le_of_eq (congrArg (s.map.countP _ + ·) joined)
  | @resolved h handler clock created c request there at_arrived found =>
    left
    have kept := starts_kept p there (.checking request) (by rw [at_arrived]; rfl)
    exact Nat.le_of_eq (congrArg (s.map.countP _ + ·) kept)
  | aside pc lock there before after unanswered unopened =>
    left
    have kept := starts_kept p there pc (after.trans before.symm)
    exact Nat.le_of_eq (congrArg (s.map.countP _ + ·) kept)
  | failed there at_starting =>
    left
    have ended := starts_over p there .ended (by rw [at_starting]; rfl) rfl
    exact Nat.add_le_add_left (Nat.le_of_add_right_le (Nat.le_of_eq ended)) _
  | @began h handler request opened answer there at_starting =>
    left
    have kept := starts_kept p there (.started s.sessions.length request.path) (by rw [at_starting]; rfl)
    exact Nat.le_of_eq (congrArg (s.map.countP _ + ·) kept)
  | @clocked h k handler path millis there at_started =>
    left
    have kept := starts_kept p there (.inserting k s!"session-{millis}" path) (by rw [at_started]; rfl)
    exact Nat.le_of_eq (congrArg (s.map.countP _ + ·) kept)
  | @inserted h k handler id path there at_inserting =>
    left
    have ended := starts_over p there (.responding (.ok (.started id path))) (by rw [at_inserting]; rfl) rfl
    have entry := countP_inserted_le s id ⟨handler.origin, k⟩ p
    unfold AgentServer.load
    rw [← ended, Nat.add_comm _ (if p handler.origin then 1 else 0), ← Nat.add_assoc]
    exact Nat.add_le_add_right entry _
  | @removed h handler id rs there at_arrived found =>
    left
    have kept := starts_kept p there (.stopping rs.session) (by rw [at_arrived]; rfl)
    exact Nat.add_le_add (countP_removed_le s id p) (Nat.le_of_eq kept)
  | @reported h handler id there at_arrived =>
    left
    have kept := starts_kept p there (.responding (.ok (s.statusOf id).1)) (by rw [at_arrived]; rfl)
    exact Nat.le_of_eq (congrArg (s.map.countP _ + ·) kept)
  | finished lock there at_responding =>
    left
    have kept := starts_kept p there .ended (by rw [at_responding]; rfl)
    exact Nat.le_of_eq (congrArg (s.map.countP _ + ·) kept)
  | forwarded => exact .inl (Nat.le_refl _)
  | timedOut => exact .inl (Nat.le_refl _)

/-- The load is within the limits. -/
def Bounded (s : AgentServer) : Prop :=
  (∀ origin, s.load (· = origin) ≤ MAX_PER_ORIGIN) ∧ s.load (fun _ => true) ≤ MAX_TOTAL

theorem Bounded.step {s t : AgentServer} {e : AgentEvent} (before : Bounded s) (counts : CountsInFlight s e)
    (moves : s.Moves e t) : Bounded t := by
  constructor
  · intro origin
    rcases load_step (· = origin) moves with less | ⟨h, handler, rfl, there, room, same, more⟩
    · exact less.trans (before.1 origin)
    · have here : handler.origin = origin := of_decide_eq_true same
      have left_over := (counts handler there room).1
      rw [here] at left_over
      exact more ▸ left_over
  · rcases load_step (fun _ => true) moves with less | ⟨h, handler, rfl, there, room, -, more⟩
    · exact less.trans before.2
    · exact more ▸ (counts handler there room).2

/-- **The session limits hold in the runs where the rate limit counts the Starts in flight.** -/
theorem sessions_within_limits {s : AgentServer} (reached : agentSystem.ReachableWhere CountsInFlight s) :
    WithinLimits s := by
  have bounded : Bounded s := by
    apply invariant_where (S := agentSystem) (C := CountsInFlight) (I := Bounded)
    · rintro s ⟨env, files, rfl⟩
      exact ⟨fun _ => Nat.zero_le _, Nat.zero_le _⟩
    · exact fun s e t before counts step => before.step counts (AgentServer.moves_of_step step)
    · exact reached
  constructor
  · intro origin
    exact (Nat.le_add_right _ _).trans (bounded.1 origin)
  · have all := bounded.2
    unfold AgentServer.load at all
    rw [List.countP_true] at all
    exact (Nat.le_add_right _ _).trans all

/-- A Start command for a WAV file. -/
def plainStart : Command := .start ⟨none, "take", none, none, none⟩

/-- Handler `h` connects, passes its checks and then the rate limit. -/
def admitted (h : Nat) : List AgentEvent :=
  [.connect "10.0.0.7" plainStart, .resolve h (fun _ => ⟨2026, 1, 2, 3, 4, 5⟩) (.ok ()), .check h]

/-- Handler `h` starts its session and inserts it. -/
def insertedAt (h : Nat) (millis : Int) : List AgentEvent := [.start h true (.ok ()), .clock h millis, .insert h]

/-- Of five Starts of one origin, two of them at a time, four are inserted and the last is refused. -/
def fourAdmitted : List AgentEvent :=
  admitted 0 ++ admitted 1 ++ insertedAt 1 1000 ++ insertedAt 0 1001 ++ admitted 2 ++ admitted 3 ++ insertedAt 2 1002 ++
    insertedAt 3 1003 ++ admitted 4

theorem sessions_within_limits_four : ∃ s, agentSystem.run ⟨⟨none, none, none⟩, [], [], none, [], [], []⟩
    fourAdmitted = some s ∧ s.map.length = 4 ∧ WithinLimits s := by
  have ran : (agentSystem.run ⟨⟨none, none, none⟩, [], [], none, [], [], []⟩ fourAdmitted).map (·.map.length) =
      some 4 := by
    decide +kernel
  obtain ⟨s, run, four⟩ := Option.map_eq_some_iff.1 ran
  exact ⟨s, run, four, sessions_within_limits
    ⟨_, fourAdmitted, ⟨⟨none, none, none⟩, [], rfl⟩, by decide +kernel, run⟩⟩

/-- Five Starts from one origin pass the rate limit before the first inserts: the map holds five of its sessions. -/
theorem sessions_over_limit : ∃ s, agentSystem.run ⟨⟨none, none, none⟩, [], [], none, [], [], []⟩
    (admitted 0 ++ admitted 1 ++ admitted 2 ++ admitted 3 ++ admitted 4 ++ insertedAt 0 1000 ++ insertedAt 1 1001 ++
      insertedAt 2 1002 ++ insertedAt 3 1003 ++ insertedAt 4 1004) = some s ∧ ¬ WithinLimits s := by
  refine ⟨_, rfl, ?_⟩
  intro within
  have four := within.1 "10.0.0.7"
  exact absurd four (by decide)

end StereoMix.Encode
