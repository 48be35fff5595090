import StereoMix.Lib.Parts
import StereoMix.Encode.AgentLimits

/-!
# What Status reports

Status reads the map, and the map is changed by a Start's insert and a Stop alone; a session is told to shut down by
its Stop, by its timeout, and by its forwarder once the handler that started it has ended. In the runs where the
latter two come only after the session left the map, every entry is of a session that was not told.
-/

namespace StereoMix.Encode

open EventSystem

/-- The session that a handler has started and not inserted. -/
def HandlerPc.session : HandlerPc → Option Nat
  | .started k _ => some k
  | .inserting k _ _ => some k
  | _ => none

/-- Session `k` is in the map, or about to be inserted. -/
def AgentServer.listed (s : AgentServer) (k : Nat) : Bool :=
  s.map.any (·.2.session = k) || s.handlers.any (·.pc.session = some k)

/-- A handler ends, and a timeout fires, only when the session is not in the map, nor about to be. -/
def KeepsUntilStop (s : AgentServer) : AgentEvent → Prop
  | .ends h => ∀ k ∈ List.range s.sessions.length, s.sessions[k]?.any (·.owner = h) → s.listed k = false
  | .timeout k => s.listed k = false
  | _ => True

instance (s : AgentServer) (e : AgentEvent) : Decidable (KeepsUntilStop s e) := by
  unfold KeepsUntilStop
  split <;> infer_instance

/-- Every id that Status reported was of a session that had not been told to shut down. -/
def StatusTruthful (s : AgentServer) : Prop := ∀ report ∈ s.reports, report.told = false

/-! ## The entries -/

/-- No session that is in the map, or about to be inserted, was told; the handler of an entry's session is at its
response, and no session has two entries. -/
structure Untold (s : AgentServer) : Prop where
  pending : ∀ (i : Nat) (handler : Handler) (k : Nat), s.handlers[i]? = some handler → handler.pc.session = some k →
    ∃ session : AgentSession, s.sessions[k]? = some session ∧ session.owner = i ∧ session.told = false
  entries : ∀ e ∈ s.map, ∃ (session : AgentSession) (handler : Handler), s.sessions[e.2.session]? = some session ∧
    session.told = false ∧ s.handlers[session.owner]? = some handler ∧ handler.pc.answers = true
  distinct : ∀ e ∈ s.map, ∀ e' ∈ s.map, e.2.session = e'.2.session → e = e'

theorem session_of_answers {pc : HandlerPc} (answers : pc.answers = true) : pc.session = none := by
  cases pc with
  | responding response => rfl
  | _ => cases answers

/-- An entry's session is not about to be inserted. -/
theorem Untold.not_pending {s : AgentServer} (untold : Untold s) {e : String × RecordingSessionHandle}
    (entry : e ∈ s.map) {i : Nat} {handler : Handler} (there : s.handlers[i]? = some handler) :
    handler.pc.session ≠ some e.2.session := by
  intro pending
  obtain ⟨session, known, owner, -⟩ := untold.pending i handler _ there pending
  obtain ⟨session', handler', known', -, answering, answers⟩ := untold.entries e entry
  rw [known, Option.some.injEq] at known'
  rw [← known', owner, there, Option.some.injEq] at answering
  rw [answering, session_of_answers answers] at pending
  cases pending

theorem getElem?_setPc {s : AgentServer} {h i : Nat} {handler x : Handler} {pc : HandlerPc}
    (there : s.handlers[h]? = some handler) (found : (s.setPc h handler pc).handlers[i]? = some x) :
    (i = h ∧ x = { handler with pc }) ∨ (i ≠ h ∧ s.handlers[i]? = some x) :=
  Parts.of_set there found

theorem getElem?_setPc_of_answers {s : AgentServer} {h i : Nat} {handler x : Handler} {pc : HandlerPc}
    (there : s.handlers[h]? = some handler) (unanswered : handler.pc.answers = false)
    (found : s.handlers[i]? = some x) (answers : x.pc.answers = true) :
    (s.setPc h handler pc).handlers[i]? = some x := by
  have other : h ≠ i := by
    rintro rfl
    rw [there, Option.some.injEq] at found
    rw [found, answers] at unanswered
    cases unanswered
  exact (List.getElem?_set_ne other).trans found

/-- A step of a handler that has not responded and starts no session, with the sessions and the map kept. -/
theorem Untold.setPc {s t : AgentServer} {h : Nat} {handler : Handler} (before : Untold s)
    (there : s.handlers[h]? = some handler) (unanswered : handler.pc.answers = false) (pc : HandlerPc)
    (session : pc.session = none ∨ pc.session = handler.pc.session)
    (handlers : t.handlers = (s.setPc h handler pc).handlers) (map : t.map = s.map)
    (sessions : ∀ (k : Nat) (session : AgentSession), s.sessions[k]? = some session → ∃ session' : AgentSession,
      t.sessions[k]? = some session' ∧ session'.owner = session.owner ∧ session'.told = session.told) :
    Untold t := by
  constructor
  · intro i x k found pending
    rw [handlers] at found
    have earlier : ∃ y, s.handlers[i]? = some y ∧ y.pc.session = some k := by
      rcases getElem?_setPc there found with ⟨rfl, rfl⟩ | ⟨-, found⟩
      · refine ⟨handler, there, ?_⟩
        rcases session with none | same
        · rw [none] at pending
          cases pending
        · exact same ▸ pending
      · exact ⟨x, found, pending⟩
    obtain ⟨y, at_i, pending⟩ := earlier
    obtain ⟨session, known, owner, untold⟩ := before.pending i y k at_i pending
    obtain ⟨session', known', owner', told'⟩ := sessions k session known
    exact ⟨session', known', owner'.trans owner, told'.trans untold⟩
  · intro e entry
    rw [map] at entry
    obtain ⟨session, x, known, untold, found, answers⟩ := before.entries e entry
    obtain ⟨session', known', owner', told'⟩ := sessions _ session known
    refine ⟨session', x, known', told'.trans untold, ?_, answers⟩
    rw [handlers, owner']
    exact getElem?_setPc_of_answers there unanswered found answers
  · rw [map]
    exact before.distinct

/-- Telling a session that is neither in the map nor about to be changes nothing of the listed ones. -/
theorem Untold.tell {s t : AgentServer} {k : Nat} {change : AgentSession → AgentSession} (before : Untold s)
    (handlers : t.handlers = s.handlers) (map : t.map ⊆ s.map) (sessions : t.sessions = s.tell k change)
    (not_entry : ∀ e ∈ t.map, e.2.session ≠ k)
    (not_pending : ∀ (i : Nat) (handler : Handler), s.handlers[i]? = some handler → handler.pc.session ≠ some k) :
    Untold t := by
  have kept (j : Nat) (other : j ≠ k) : t.sessions[j]? = s.sessions[j]? := by
    rw [sessions, AgentServer.tell, List.getElem?_modify_ne _ _ (Ne.symm other)]
  constructor
  · intro i handler j found pending
    rw [handlers] at found
    rw [kept j (fun same => not_pending i handler found (same ▸ pending))]
    exact before.pending i handler j found pending
  · intro e entry
    obtain ⟨session, handler, known, untold, found, answers⟩ := before.entries e (map entry)
    exact ⟨session, handler, (kept _ (not_entry e entry)).trans known, untold, handlers ▸ found, answers⟩
  · intro e entry e' entry'
    exact before.distinct e (map entry) e' (map entry')

theorem getElem?_modify_some {sessions : List AgentSession} {k j : Nat} {session : AgentSession}
    (change : AgentSession → AgentSession) (known : sessions[j]? = some session) :
    (sessions.modify k change)[j]? = some (if k = j then change session else session) := by
  rw [List.getElem?_modify, known]
  rfl

theorem mem_of_lookup {s : AgentServer} {id : String} {rs : RecordingSessionHandle} (found : s.lookup id = some rs) :
    (id, rs) ∈ s.map := by
  obtain ⟨e, there, rfl⟩ := Option.map_eq_some_iff.1 found
  have same : e.1 = id := by simpa using List.find?_some there
  rw [← same]
  exact List.mem_of_find?_eq_some there

theorem listed_eq_false {s : AgentServer} {k : Nat} (unlisted : s.listed k = false) :
    (∀ e ∈ s.map, e.2.session ≠ k) ∧
      ∀ (i : Nat) (handler : Handler), s.handlers[i]? = some handler → handler.pc.session ≠ some k := by
  unfold AgentServer.listed at unlisted
  rw [Bool.or_eq_false_iff, List.any_eq_false, List.any_eq_false] at unlisted
  constructor
  · intro e entry same
    exact unlisted.1 e entry (decide_eq_true same)
  · intro i handler there pending
    exact unlisted.2 handler (List.mem_of_getElem? there) (decide_eq_true pending)

theorem no_session_of_inFlight {pc : HandlerPc} (quiet : pc.inFlight = false) : pc.session = none := by
  cases pc with
  | started => cases quiet
  | inserting => cases quiet
  | _ => rfl

/-- A handler starts a session: nobody has been told to stop it. -/
theorem Untold.began {s : AgentServer} {h : Nat} {handler : Handler} {request : StartRequest} (before : Untold s)
    (there : s.handlers[h]? = some handler) (at_starting : handler.pc = .starting request) :
    Untold { s.setPc h handler (.started s.sessions.length request.path) with
      files := components request.path :: s.files
      sessions := s.sessions ++ [⟨h, request, false, .unset, false⟩] } := by
  have unanswered : handler.pc.answers = false := by rw [at_starting]; rfl
  have older {k : Nat} {session : AgentSession} (known : s.sessions[k]? = some session) :
      (s.sessions ++ [⟨h, request, false, .unset, false⟩])[k]? = some session :=
    (List.getElem?_append_left (List.getElem?_eq_some_iff.1 known).1).trans known
  constructor
  · intro i x k found pending
    rcases getElem?_setPc there found with ⟨rfl, rfl⟩ | ⟨-, found⟩
    · cases pending
      exact ⟨⟨i, request, false, .unset, false⟩, List.getElem?_concat_length, rfl, rfl⟩
    · obtain ⟨session, known, owner, untold⟩ := before.pending i x k found pending
      exact ⟨session, older known, owner, untold⟩
  · intro e entry
    obtain ⟨session, x, known, untold, found, answers⟩ := before.entries e entry
    exact ⟨session, x, older known, untold, getElem?_setPc_of_answers there unanswered found answers, answers⟩
  · exact before.distinct

/-- A handler inserts its session, which no entry of the map has yet. -/
theorem Untold.inserted {s : AgentServer} {h k : Nat} {handler : Handler} {id path : String} (before : Untold s)
    (there : s.handlers[h]? = some handler) (at_inserting : handler.pc = .inserting k id path) :
    Untold { s.setPc h handler (.responding (.ok (.started id path))) with
      map := s.inserted id ⟨handler.origin, k⟩ } := by
  have unanswered : handler.pc.answers = false := by rw [at_inserting]; rfl
  have pending : handler.pc.session = some k := by rw [at_inserting]; rfl
  have inserted {e : String × RecordingSessionHandle} (entry : e ∈ s.inserted id ⟨handler.origin, k⟩) :
      e ∈ s.map ∨ e = (id, ⟨handler.origin, k⟩) := by
    rcases List.mem_append.1 entry with old | new
    · exact .inl (List.mem_of_mem_filter old)
    · exact .inr (List.mem_singleton.1 new)
  have apart {e : String × RecordingSessionHandle} (old : e ∈ s.map) : e.2.session ≠ k := by
    rintro rfl
    exact before.not_pending old there pending
  constructor
  · intro i x j found pending
    rcases getElem?_setPc there found with ⟨rfl, rfl⟩ | ⟨-, found⟩
    · cases pending
    · exact before.pending i x j found pending
  · intro e entry
    rcases inserted entry with old | rfl
    · obtain ⟨session, x, known, untold, found, answers⟩ := before.entries e old
      exact ⟨session, x, known, untold, getElem?_setPc_of_answers there unanswered found answers, answers⟩
    · obtain ⟨session, known, rfl, untold⟩ := before.pending h handler k there pending
      have inside := (List.getElem?_eq_some_iff.1 there).1
      exact ⟨session, _, known, untold, List.getElem?_set_self inside, rfl⟩
  · intro e entry e' entry' same
    rcases inserted entry with old | rfl <;> rcases inserted entry' with old' | rfl
    · exact before.distinct e old e' old' same
    · exact absurd same (apart old)
    · exact absurd same.symm (apart old')
    · rfl

/-- A connection changes no session and no entry. -/
theorem Untold.connected {s : AgentServer} (before : Untold s) (origin : String) (cmd : Command) :
    Untold { s with handlers := s.handlers ++ [⟨origin, .arrived cmd⟩] } := by
  constructor
  · intro i x k found pending
    rcases Parts.of_added found with old | ⟨-, rfl⟩
    · exact before.pending i x k old pending
    · cases pending
  · intro e entry
    obtain ⟨session, handler, known, untold, found, answers⟩ := before.entries e entry
    have inside := (List.getElem?_eq_some_iff.1 found).1
    exact ⟨session, handler, known, untold, (List.getElem?_append_left inside).trans found, answers⟩
  · exact before.distinct

/-- A handler that owns no listed session may end. -/
theorem Untold.finished {s : AgentServer} {h : Nat} {handler : Handler} (before : Untold s)
    (keeps : KeepsUntilStop s (.ends h)) (there : s.handlers[h]? = some handler) (lock : Option Nat) :
    Untold { s.setPc h handler .ended with lock } := by
  constructor
  · intro i x k found pending
    rcases getElem?_setPc there found with ⟨rfl, rfl⟩ | ⟨-, found⟩
    · cases pending
    · exact before.pending i x k found pending
  · intro e entry
    obtain ⟨session, x, known, untold, found, answers⟩ := before.entries e entry
    refine ⟨session, x, known, untold, ?_, answers⟩
    have other : h ≠ session.owner := by
      intro mine
      have unlisted := keeps e.2.session (List.mem_range.2 (List.getElem?_eq_some_iff.1 known).1)
        (by rw [known]; exact decide_eq_true mine.symm)
      exact (listed_eq_false unlisted).1 e entry rfl
    exact (List.getElem?_set_ne other).trans found
  · exact before.distinct

/-- A forwarder that is woken tells a session that is not listed, since the handler that started it has ended. -/
theorem Untold.forwarded {s : AgentServer} {k : Nat} {session : AgentSession} (before : Untold s)
    (there : s.sessions[k]? = some session) (wakes : s.wakes session = true) :
    Untold { s with sessions := s.tell k fun session => { session with forwarded := true } } := by
  obtain ⟨owner, at_owner, ended⟩ := (Option.any_eq_true _ _).1 (Bool.and_eq_true_iff.1 wakes).2
  have ended : owner.pc = .ended := of_decide_eq_true ended
  refine before.tell rfl (List.Subset.refl _) rfl ?_ ?_
  · rintro e entry rfl
    obtain ⟨session', x, known, -, found, answers⟩ := before.entries e entry
    rw [there, Option.some.injEq] at known
    rw [← known, at_owner, Option.some.injEq] at found
    rw [← found, ended] at answers
    cases answers
  · intro i x found pending
    obtain ⟨session', known, rfl, -⟩ := before.pending i x k found pending
    rw [there, Option.some.injEq] at known
    rw [← known, at_owner, Option.some.injEq] at found
    rw [← found, ended] at pending
    cases pending

theorem Untold.step {s t : AgentServer} {e : AgentEvent} (before : Untold s) (keeps : KeepsUntilStop s e)
    (moves : s.Moves e t) : Untold t := by
  have same_sessions (k : Nat) (session : AgentSession) (known : s.sessions[k]? = some session) :
      ∃ session' : AgentSession, s.sessions[k]? = some session' ∧ session'.owner = session.owner ∧
        session'.told = session.told := ⟨session, known, rfl, rfl⟩
  cases moves with
  | connected origin cmd => exact before.connected origin cmd
  | @resolved h handler clock created c request there at_arrived found =>
    exact before.setPc there (by rw [at_arrived]; rfl) (.checking request) (.inl rfl) rfl rfl same_sessions
  | aside pc lock there quiet after unanswered unopened =>
    exact before.setPc there unanswered pc (.inl (no_session_of_inFlight after)) rfl rfl same_sessions
  | @passed h handler request there at_checking room =>
    exact before.setPc there (by rw [at_checking]; rfl) (.starting request) (.inl rfl) rfl rfl same_sessions
  | failed there at_starting =>
    exact before.setPc there (by rw [at_starting]; rfl) .ended (.inl rfl) rfl rfl same_sessions
  | began there at_starting => exact before.began there at_starting
  | @clocked h k handler path millis there at_started =>
    refine before.setPc there (by rw [at_started]; rfl) (.inserting k s!"session-{millis}" path) (.inr ?_) rfl rfl ?_
    · rw [at_started]
      rfl
    · intro j session known
      refine ⟨_, getElem?_modify_some _ known, ?_⟩
      split <;> exact ⟨rfl, rfl⟩
  | inserted there at_inserting => exact before.inserted there at_inserting
  | @removed h handler id rs there at_arrived found =>
    have entry := mem_of_lookup found
    have told : Untold { s with
        map := s.removed id
        sessions := s.tell rs.session fun session => { session with timeout := .finished } } := by
      refine before.tell rfl (List.filter_subset_self _) rfl ?_ fun i x there => before.not_pending entry there
      intro e kept same
      obtain ⟨member, other⟩ := List.mem_filter.1 kept
      rw [before.distinct e member _ entry same] at other
      exact absurd rfl (of_decide_eq_true other)
    exact told.setPc there (by rw [at_arrived]; rfl) (.stopping rs.session) (.inl rfl) rfl rfl
      fun k session known => ⟨session, known, rfl, rfl⟩
  | @reported h handler id there at_arrived =>
    exact before.setPc there (by rw [at_arrived]; rfl) (.responding (.ok (s.statusOf id).1)) (.inl rfl) rfl rfl
      same_sessions
  | finished lock there at_responding => exact before.finished keeps there lock
  | forwarded there wakes => exact before.forwarded there wakes
  | timedOut there =>
    obtain ⟨not_entry, not_pending⟩ := listed_eq_false keeps
    exact before.tell rfl (List.Subset.refl _) rfl not_entry not_pending

/-- What Status reports of untold entries is untold. -/
theorem Untold.reports {s : AgentServer} (untold : Untold s) (id : Option String) :
    ∀ report ∈ (s.statusOf id).2, report.told = false := by
  have entry_untold {e : String × RecordingSessionHandle} (entry : e ∈ s.map) : s.told e.2.session = false := by
    obtain ⟨session, handler, known, told, -⟩ := untold.entries e entry
    unfold AgentServer.told
    rw [known]
    exact told
  intro report reported
  cases id with
  | none =>
    obtain ⟨e, entry, rfl⟩ := List.mem_map.1 reported
    exact entry_untold entry
  | some id =>
    unfold AgentServer.statusOf at reported
    dsimp only at reported
    split at reported
    · rename_i rs found
      rw [List.mem_singleton.1 reported]
      exact entry_untold (mem_of_lookup found)
    · cases reported

/-- **Status tells the truth in the runs where sessions are told only after they left the map.** -/
theorem status_truthful {s : AgentServer} (reached : agentSystem.ReachableWhere KeepsUntilStop s) :
    StatusTruthful s := by
  have holds : Untold s ∧ StatusTruthful s := by
    apply invariant_where (S := agentSystem) (C := KeepsUntilStop) (I := fun s => Untold s ∧ StatusTruthful s)
    · rintro s ⟨env, files, rfl⟩
      constructor
      · constructor
        · intro i handler k there
          cases there
        · intro e entry
          cases entry
        · intro e entry
          cases entry
      · intro report reported
        cases reported
    · rintro s e t ⟨untold, truthful⟩ keeps step
      have moves := AgentServer.moves_of_step step
      refine ⟨untold.step keeps moves, ?_⟩
      cases moves with
      | reported there at_arrived =>
        intro report reported
        rcases List.mem_append.1 reported with old | new
        · exact truthful report old
        · exact untold.reports _ report new
      | _ => exact truthful
    · exact reached
  exact holds.2

/-- Handler `h` asks for all ids. -/
def asks (h : Nat) : List AgentEvent := [.connect "10.0.0.7" (.status none), .status h, .ends h]

/-- A session is started and inserted, and Status asked before the client has read the response. -/
theorem status_truthful_unread : ∃ s, agentSystem.run ⟨⟨none, none, none⟩, [], [], none, [], [], []⟩
    (admitted 0 ++ insertedAt 0 1000 ++ asks 1) = some s ∧ StatusTruthful s :=
  ⟨_, rfl, status_truthful
    ⟨_, admitted 0 ++ insertedAt 0 1000 ++ asks 1, ⟨⟨none, none, none⟩, [], rfl⟩, by decide, rfl⟩⟩

/-- The Start's handler ends once it has responded, its forwarder tells the session to shut down, and Status still
reports it. -/
theorem status_reports_told : ∃ s, agentSystem.run ⟨⟨none, none, none⟩, [], [], none, [], [], []⟩
    (admitted 0 ++ insertedAt 0 1000 ++ [.ends 0, .forward 0] ++ asks 1) = some s ∧ ¬ StatusTruthful s := by
  refine ⟨_, rfl, ?_⟩
  intro truthful
  have untold := truthful _ (List.mem_singleton_self _)
  exact absurd untold (by decide)

end StereoMix.Encode
