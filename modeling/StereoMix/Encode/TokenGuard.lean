import StereoMix.Encode.AgentStatus

/-!
# The API token

`ipc.rs`: with BSM_API_TOKEN set, a Start is refused before its first effect unless it carries the token. A Stop and a
Status have no field for a token and are not checked. So the requests without the token leave the sessions as they are
as long as no Stop among them names an id that is in the map.
-/

namespace StereoMix.Encode

open EventSystem

/-- The command carries the token; a Stop and a Status have no field for it. -/
def Command.carries (token : String) : Command → Bool
  | .start c => c.token = some token
  | _ => false

/-- A connection whose command does not carry the token, or a step of a handler from `first` on. -/
def AgentEvent.withoutToken (token : String) (first : Nat) : AgentEvent → Bool
  | .connect _ cmd => !cmd.carries token
  | e => e.handler.any (first ≤ ·)

/-- The map, the recordings and the files are the same. -/
structure SameSessions (s t : AgentServer) : Prop where
  map : t.map = s.map
  sessions : t.sessions = s.sessions
  files : t.files = s.files

theorem SameSessions.symm {s t : AgentServer} (same : SameSessions s t) : SameSessions t s :=
  ⟨same.map.symm, same.sessions.symm, same.files.symm⟩

theorem SameSessions.trans {s t u : AgentServer} (first : SameSessions s t) (second : SameSessions t u) :
    SameSessions s u :=
  ⟨second.map.trans first.map, second.sessions.trans first.sessions, second.files.trans first.files⟩

/-- The id that a handler is about to stop. -/
def HandlerPc.stops : HandlerPc → Option String
  | .arrived (.stop id) => some id
  | _ => none

/-- The handler that takes a step is not at a Stop whose id is in the map. -/
def StopsNothing (s : AgentServer) (e : AgentEvent) : Prop :=
  ∀ h ∈ e.handler, ∀ handler ∈ s.handlers[h]?, ∀ id ∈ handler.pc.stops, s.lookup id = none

/-! ## A handler without the token -/

/-- Where a handler whose command does not carry the token can be: a Start of it passes no check. -/
def HandlerPc.withoutToken (token : String) : HandlerPc → Bool
  | .arrived cmd => !cmd.carries token
  | .stopping _ => true
  | .responding _ => true
  | .ended => true
  | _ => false

/-- A Start that resolves its path carries the token. -/
theorem carries_of_startRequest {env : Environment} {clock : Nat → LocalTime} {files : List (List Component)}
    {created : Except String Unit} {c : StartCommand} {request : StartRequest} {token : String}
    (set : env.apiToken = some token) (found : startRequest env clock files created c = .ok request) :
    (Command.start c).carries token = true := by
  have authenticated := (startRequest_ok found).1.authenticated
  unfold Encode.authenticated at authenticated
  rw [set] at authenticated
  exact authenticated

/-- A handler without the token is answered, and the sessions are left alone, unless it is at a Stop of an id in the
map. -/
theorem handlerStep_withoutToken {s t : AgentServer} {h : Nat} {handler : Handler} {e : AgentEvent} {token : String}
    (set : s.env.apiToken = some token) (without : handler.pc.withoutToken token = true)
    (step : handlerStep s h handler e = some t) :
    ∃ pc lock, pc.withoutToken token = true ∧
      (((∀ id ∈ handler.pc.stops, s.lookup id = none) ∧
          ∃ reports, t = { s.setPc h handler pc with lock, reports }) ∨
        ∃ id rs, handler.pc.stops = some id ∧ s.lookup id = some rs ∧
          t = { s.setPc h handler pc with
            lock
            map := s.removed id
            sessions := s.tell rs.session fun session => { session with timeout := .finished } }) := by
  obtain ⟨origin, pc⟩ := handler
  have unstopped (elsewhere : pc.stops = none) : ∀ id ∈ pc.stops, s.lookup id = none := by
    intro id mine
    rw [elsewhere] at mine
    cases mine
  cases pc with
  | arrived cmd =>
    cases cmd with
    | start c =>
      cases e with
      | resolve h' clock created =>
        dsimp only [handlerStep] at step
        split at step
        · rename_i msg refused
          cases step
          exact ⟨.responding (.failed msg), s.lock, rfl, .inl ⟨unstopped rfl, s.reports, rfl⟩⟩
        · rename_i request found
          dsimp only [HandlerPc.withoutToken] at without
          rw [carries_of_startRequest set found] at without
          cases without
      | _ => cases step
    | stop id =>
      cases e with
      | stop h' =>
        obtain ⟨-, step⟩ := Option.ite_none_right_eq_some.1 step
        split at step
        · rename_i missing
          cases step
          refine ⟨.responding (.failed "id not found"), some h, rfl, .inl ⟨?_, s.reports, rfl⟩⟩
          intro id' mine
          cases mine
          exact missing
        · rename_i rs found
          cases step
          exact ⟨.stopping rs.session, some h, rfl, .inr ⟨id, rs, rfl, found, rfl⟩⟩
      | _ => cases step
    | status id =>
      cases e with
      | status h' =>
        obtain ⟨-, step⟩ := Option.ite_none_right_eq_some.1 step
        cases step
        exact ⟨.responding (.ok (s.statusOf id).1), some h, rfl, .inl ⟨unstopped rfl, _, rfl⟩⟩
      | _ => cases step
  | stopping k =>
    cases e with
    | stopped h' answer =>
      cases answer with
      | ok info =>
        cases step
        exact ⟨.responding (.ok (.stopped info)), s.lock, rfl, .inl ⟨unstopped rfl, s.reports, rfl⟩⟩
      | error e =>
        cases step
        exact ⟨.responding (.failed s!"stop failed: {e.text}"), s.lock, rfl, .inl ⟨unstopped rfl, s.reports, rfl⟩⟩
    | _ => cases step
  | responding response =>
    cases e with
    | ends h' =>
      cases step
      exact ⟨.ended, _, rfl, .inl ⟨unstopped rfl, s.reports, rfl⟩⟩
    | _ => cases step
  | ended =>
    cases e with
    | _ => cases step
  | _ => cases without

/-! ## Runs -/

/-- What the requests without the token keep: every handler from `first` on is without it, and the map has at most
`size` entries. -/
structure Guarded (token : String) (first size : Nat) (s : AgentServer) : Prop where
  required : s.env.apiToken = some token
  handlers : ∀ (i : Nat) (handler : Handler), s.handlers[i]? = some handler → first ≤ i →
    handler.pc.withoutToken token = true
  entries : s.map.length ≤ size

theorem length_removed {s : AgentServer} {id : String} {rs : RecordingSessionHandle} (found : s.lookup id = some rs) :
    (s.removed id).length < s.map.length := by
  apply List.length_filter_lt_length_iff_exists.2
  exact ⟨(id, rs), mem_of_lookup found, by simp⟩

/-- A step of a request without the token leaves the sessions as they are, or it takes an entry out of the map, which
no such request puts back. -/
theorem Guarded.step {s t : AgentServer} {e : AgentEvent} {token : String} {first size : Nat}
    (before : Guarded token first size s) (without : e.withoutToken token first = true)
    (step : agentStep s e = some t) :
    Guarded token first size t ∧
      ((SameSessions s t ∧ StopsNothing s e) ∨ (t.map.length < s.map.length ∧ ¬ StopsNothing s e)) := by
  have by_handler (h : Nat) (mine : e.handler = some h) (later : first ≤ h) : Guarded token first size t ∧
      ((SameSessions s t ∧ StopsNothing s e) ∨ (t.map.length < s.map.length ∧ ¬ StopsNothing s e)) := by
    obtain ⟨handler, there, step⟩ := handlerStep_of_agentStep mine step
    obtain ⟨pc, lock, quiet, outcome⟩ :=
      handlerStep_withoutToken before.required (before.handlers h handler there later) step
    have handlers (i : Nat) (x : Handler) (found : (s.setPc h handler pc).handlers[i]? = some x) (above : first ≤ i) :
        x.pc.withoutToken token = true := by
      rcases getElem?_setPc there found with ⟨-, rfl⟩ | ⟨-, found⟩
      · exact quiet
      · exact before.handlers i x found above
    have stops : StopsNothing s e ↔ ∀ id ∈ handler.pc.stops, s.lookup id = none := by
      simp [StopsNothing, mine, there]
    rw [stops]
    rcases outcome with ⟨missing, reports, rfl⟩ | ⟨id, rs, stop, found, rfl⟩
    · exact ⟨⟨before.required, handlers, before.entries⟩, .inl ⟨⟨rfl, rfl, rfl⟩, missing⟩⟩
    · have fewer : (s.removed id).length < s.map.length := length_removed found
      refine ⟨⟨before.required, handlers, fewer.le.trans before.entries⟩, .inr ⟨fewer, ?_⟩⟩
      intro missing
      rw [missing id stop] at found
      cases found
  cases e with
  | connect origin cmd =>
    cases step
    refine ⟨⟨before.required, ?_, before.entries⟩, .inl ⟨⟨rfl, rfl, rfl⟩, ?_⟩⟩
    · intro i handler found above
      rcases Parts.of_added found with old | ⟨-, rfl⟩
      · exact before.handlers i handler old above
      · exact without
    · intro h mine
      cases mine
  | forward k | timeout k => cases without
  | _ => exact by_handler _ rfl (of_decide_eq_true without)

/-- **The token guards the sessions exactly from the requests that stop none of them.** -/
theorem token_guards_iff {s t : AgentServer} {es : List AgentEvent} {token : String}
    (set : s.env.apiToken = some token) (without : ∀ e ∈ es, e.withoutToken token s.handlers.length = true)
    (run : agentSystem.run s es = some t) : SameSessions s t ↔ agentSystem.Meets StopsNothing s es := by
  have start : Guarded token s.handlers.length s.map.length s := by
    refine ⟨set, ?_, Nat.le_refl _⟩
    intro i handler found above
    have inside := (List.getElem?_eq_some_iff.1 found).1
    omega
  have same : SameSessions s t ↔ SameSessions s s ∧ agentSystem.Meets StopsNothing s es := by
    apply run_iff_meets_where (S := agentSystem) (C := StopsNothing) (I := SameSessions s)
      (J := Guarded token s.handlers.length s.map.length)
      (H := fun _ e => e.withoutToken token s.handlers.length = true) ?_ ?_ start ((meets_iff_forall run).2 without) run
    · intro u e v before without step
      exact (before.step without step).1
    · intro u e v before without step
      rcases (before.step without step).2 with ⟨kept, missing⟩ | ⟨fewer, found⟩
      · rw [and_iff_left missing]
        exact ⟨fun same => same.trans kept.symm, fun same => same.trans kept⟩
      · apply iff_of_false
        · intro same
          have entries := before.entries
          rw [← same.map] at entries
          omega
        · exact fun both => found both.2
  rw [same, and_iff_right ⟨rfl, rfl, rfl⟩]

/-- A server with its token set, where handler 0 has started a session with it. -/
def guardedSession : List AgentEvent :=
  [.connect "10.0.0.7" (.start ⟨some "secret", "take", none, none, none⟩),
    .resolve 0 (fun _ => ⟨2026, 1, 2, 3, 4, 5⟩) (.ok ()), .check 0] ++ insertedAt 0 1000

/-- A Start, a Status and a Stop of an unknown id, none of them with the token. -/
def harmlessRequests : List AgentEvent :=
  [.connect "10.0.0.9" plainStart, .resolve 1 (fun _ => ⟨2026, 1, 2, 3, 4, 6⟩) (.ok ()), .ends 1] ++ asks 2 ++
    [.connect "10.0.0.9" (.stop "session-999"), .stop 3, .ends 3]

theorem token_guards_iff_harmless : ∃ s t,
    agentSystem.run ⟨⟨some "secret", none, none⟩, [], [], none, [], [], []⟩ guardedSession = some s ∧
      agentSystem.run s harmlessRequests = some t ∧
      (SameSessions s t ↔ agentSystem.Meets StopsNothing s harmlessRequests) :=
  ⟨_, _, rfl, rfl, token_guards_iff rfl (by decide) rfl⟩

/-- A Stop of the session that was started, without the token. -/
def strangersStop : List AgentEvent := [.connect "10.0.0.9" (.stop "session-1000"), .stop 1]

/-- A Stop without the token ends the session of a Start that carried it. -/
theorem stop_needs_no_token : ∃ s t,
    agentSystem.run ⟨⟨some "secret", none, none⟩, [], [], none, [], [], []⟩ guardedSession = some s ∧
      (∀ e ∈ strangersStop, e.withoutToken "secret" s.handlers.length = true) ∧
      agentSystem.run s strangersStop = some t ∧ ¬ SameSessions s t := by
  refine ⟨_, _, rfl, by decide, rfl, ?_⟩
  intro same
  exact absurd same.map (by decide)

end StereoMix.Encode
