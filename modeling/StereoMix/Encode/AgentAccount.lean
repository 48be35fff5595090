import Mathlib.Data.List.Nodup
import StereoMix.Encode.AgentIds

/-!
# The account of the sessions

A session that was started is about to be inserted, in the map, or gone from it, taken by a Stop or replaced by an
insert under its id. It is one of these and once, so no two Stops get the same session, whatever the connections do.
-/

namespace StereoMix.Encode

open EventSystem

/-- The session that a step takes from the map for a Stop. -/
def AgentServer.stopTakes (s : AgentServer) : AgentEvent → List Nat
  | .stop h =>
    match s.handlers[h]?.map Handler.pc with
    | some (.arrived (.stop id)) => (s.lookup id).toList.map RecordingSessionHandle.session
    | _ => []
  | _ => []

/-- The session whose entry an insert replaces. -/
def AgentServer.insertReplaces (s : AgentServer) : AgentEvent → List Nat
  | .insert h =>
    match s.handlers[h]?.map Handler.pc with
    | some (.inserting _ id _) => (s.lookup id).toList.map RecordingSessionHandle.session
    | _ => []
  | _ => []

/-- The handlers that are about to insert session `k`. -/
def AgentServer.pending (s : AgentServer) (k : Nat) : Nat := s.handlers.countP fun handler => handler.pc.session = some k

/-- The entries of session `k`. -/
def AgentServer.entries (s : AgentServer) (k : Nat) : Nat := s.map.countP fun e => e.2.session = k

/-- Every session is in one place, once. -/
structure Accounted (s : AgentServer) (stopped replaced : List Nat) : Prop where
  keys : (s.map.map Prod.fst).Nodup
  once : ∀ k, s.pending k + s.entries k + stopped.count k + replaced.count k =
    if k < s.sessions.length then 1 else 0

/-! ## The map -/

variable {s t : AgentServer}

theorem removed_of_lookup_none {id : String} (missing : s.lookup id = none) : s.removed id = s.map :=
  List.filter_eq_self.2 fun e entry => decide_eq_true (lookup_eq_none.1 missing e entry)

/-- The entry of an id and the others are the map. -/
theorem perm_removed {id : String} {rs : RecordingSessionHandle} (keys : (s.map.map Prod.fst).Nodup)
    (found : s.lookup id = some rs) : s.map.Perm ((id, rs) :: s.removed id) := by
  have entry := mem_of_lookup found
  have others : s.map.erase (id, rs) = s.removed id := by
    rw [keys.of_map.erase_eq_filter, AgentServer.removed]
    apply List.filter_congr
    intro e member
    rw [Bool.eq_iff_iff, bne_iff_ne, decide_eq_true_iff]
    exact not_congr ⟨fun same => congrArg Prod.fst same, fun same => List.inj_on_of_nodup_map keys member entry same⟩
  rw [← others]
  exact List.perm_cons_erase entry

theorem nodup_removed (id : String) (keys : (s.map.map Prod.fst).Nodup) : ((s.removed id).map Prod.fst).Nodup :=
  keys.sublist (List.filter_sublist.map Prod.fst)

theorem nodup_inserted (id : String) (rs : RecordingSessionHandle) (keys : (s.map.map Prod.fst).Nodup) :
    ((s.inserted id rs).map Prod.fst).Nodup := by
  rw [AgentServer.inserted, List.map_append]
  refine List.Nodup.append (nodup_removed id keys) (List.nodup_singleton id) ?_
  intro key member new
  obtain ⟨e, entry, rfl⟩ := List.mem_map.1 member
  exact of_decide_eq_true (List.mem_filter.1 entry).2 (List.mem_singleton.1 new)

/-! ## The counts -/

/-- One more where `k` is the session, and none where it is another. -/
def one (k : Nat) (session : Option Nat) : Nat := if session = some k then 1 else 0

theorem pending_setPc {h : Nat} {handler : Handler} (there : s.handlers[h]? = some handler) (pc : HandlerPc) (k : Nat) :
    (s.setPc h handler pc).pending k + one k handler.pc.session = s.pending k + one k pc.session := by
  have counted := countP_set_add (fun handler : Handler => decide (handler.pc.session = some k)) there { handler with pc }
  simp only [decide_eq_true_eq] at counted
  exact counted

/-- A handler's step between places of the same session. -/
theorem pending_kept {h : Nat} {handler : Handler} (there : s.handlers[h]? = some handler) {pc : HandlerPc}
    (same : pc.session = handler.pc.session) (k : Nat) : (s.setPc h handler pc).pending k = s.pending k := by
  have counted := pending_setPc there pc k
  rw [same] at counted
  exact Nat.add_right_cancel counted

theorem entries_removed {id : String} {rs : RecordingSessionHandle} (keys : (s.map.map Prod.fst).Nodup)
    (found : s.lookup id = some rs) (k : Nat) :
    (s.removed id).countP (fun e => e.2.session = k) + one k (some rs.session) = s.entries k := by
  rw [AgentServer.entries, (perm_removed keys found).countP_eq, List.countP_cons]
  simp only [one, Option.some.injEq, decide_eq_true_eq]

theorem entries_inserted (id origin : String) (session k : Nat) :
    (s.inserted id ⟨origin, session⟩).countP (fun e => e.2.session = k) =
      (s.removed id).countP (fun e => e.2.session = k) + one k (some session) := by
  rw [AgentServer.inserted, List.countP_append, List.countP_singleton]
  simp only [one, Option.some.injEq, decide_eq_true_eq]
  rfl

theorem count_append_one (sessions : List Nat) (session k : Nat) :
    (sessions ++ [session]).count k = sessions.count k + one k (some session) := by
  rw [List.count_append, List.count_singleton]
  simp only [one, Option.some.injEq, beq_iff_eq]

/-! ## One step -/

theorem session_of_quiet {pc : HandlerPc} (quiet : pc.inFlight = false) : pc.session = none := by
  cases pc with
  | started | inserting => cases quiet
  | _ => rfl

/-- A step that moves no session from its place. -/
theorem Accounted.kept {stopped replaced : List Nat} (before : Accounted s stopped replaced) (map : t.map = s.map)
    (pending : ∀ k, t.pending k = s.pending k) (sessions : t.sessions.length = s.sessions.length) :
    Accounted t stopped replaced := by
  constructor
  · rw [map]
    exact before.keys
  · intro k
    rw [pending, AgentServer.entries, map, sessions]
    exact before.once k

/-- A step that is neither a Stop nor an insert. -/
theorem Accounted.aside {e : AgentEvent} {stopped replaced : List Nat} (before : Accounted s stopped replaced)
    (moves : s.Moves e t) (no_stop : ∀ h, e ≠ .stop h) (no_insert : ∀ h, e ≠ .insert h) :
    Accounted t stopped replaced := by
  cases moves with
  | connected origin cmd =>
    refine before.kept rfl (fun k => ?_) rfl
    simp [AgentServer.pending, HandlerPc.session]
  | resolved there at_ | passed there at_ | failed there at_ | reported there at_ | finished _ there at_ =>
    exact before.kept rfl (pending_kept there (by rw [at_]; rfl)) rfl
  | aside pc lock there quiet after =>
    exact before.kept rfl (pending_kept there ((session_of_quiet after).trans (session_of_quiet quiet).symm)) rfl
  | clocked there at_ => exact before.kept rfl (pending_kept there (by rw [at_]; rfl)) (List.length_modify ..)
  | forwarded | timedOut => exact before.kept rfl (fun k => rfl) (List.length_modify ..)
  | @began h handler request opened answer there at_starting =>
    refine ⟨before.keys, fun k => ?_⟩
    have started := pending_setPc there (.started s.sessions.length request.path) k
    have counted := before.once k
    rw [at_starting] at started
    show (s.setPc h handler (.started s.sessions.length request.path)).pending k + s.entries k + _ + _ = _
    rw [List.length_append, List.length_singleton]
    simp only [one, HandlerPc.session, Option.some.injEq, reduceCtorEq, if_false] at started
    split at started <;> split at counted <;> split <;> omega
  | inserted => exact absurd rfl (no_insert _)
  | removed => exact absurd rfl (no_stop _)

/-- A Stop takes the session of its id. -/
theorem Accounted.stop {h : Nat} {stopped replaced : List Nat} (before : Accounted s stopped replaced)
    (step : agentStep s (.stop h) = some t) : Accounted t (stopped ++ s.stopTakes (.stop h)) replaced := by
  obtain ⟨⟨origin, pc⟩, there, step⟩ := handlerStep_of_agentStep rfl step
  cases pc with
  | arrived cmd =>
    cases cmd with
    | stop id =>
      have takes : s.stopTakes (.stop h) = (s.lookup id).toList.map RecordingSessionHandle.session := by
        rw [AgentServer.stopTakes, there]
        rfl
      obtain ⟨-, step⟩ := Option.ite_none_right_eq_some.1 step
      split at step
      · rename_i missing
        cases step
        rw [takes, missing, Option.toList_none, List.map_nil, List.append_nil]
        exact before.kept rfl (pending_kept there rfl) rfl
      · rename_i rs found
        cases step
        refine ⟨nodup_removed id before.keys, fun k => ?_⟩
        have counted := before.once k
        have removed := entries_removed before.keys found k
        have waiting := pending_kept there (show (HandlerPc.stopping rs.session).session = none from rfl) k
        rw [takes, found]
        show (s.setPc h _ (.stopping rs.session)).pending k + (s.removed id).countP (fun e => e.2.session = k) +
          (stopped ++ [rs.session]).count k + replaced.count k = if k < (s.sessions.modify rs.session _).length then 1 else 0
        rw [List.length_modify, count_append_one, waiting, ← counted]
        omega
    | _ => cases step
  | _ => cases step

/-- An insert moves its session to the map, and may replace another. -/
theorem Accounted.insert {h : Nat} {stopped replaced : List Nat} (before : Accounted s stopped replaced)
    (step : agentStep s (.insert h) = some t) : Accounted t stopped (replaced ++ s.insertReplaces (.insert h)) := by
  obtain ⟨⟨origin, pc⟩, there, step⟩ := handlerStep_of_agentStep rfl step
  cases pc with
  | inserting session id path =>
    have replaces : s.insertReplaces (.insert h) = (s.lookup id).toList.map RecordingSessionHandle.session := by
      rw [AgentServer.insertReplaces, there]
      rfl
    obtain ⟨-, step⟩ := Option.ite_none_right_eq_some.1 step
    cases step
    refine ⟨nodup_inserted id ⟨origin, session⟩ before.keys, fun k => ?_⟩
    have counted := before.once k
    have moved := pending_setPc there (.responding (.ok (.started id path))) k
    have out : one k (HandlerPc.responding (.ok (.started id path))).session = 0 := rfl
    have mine : one k (HandlerPc.inserting session id path).session = one k (some session) := rfl
    show (s.setPc h _ _).pending k + (s.inserted id ⟨origin, session⟩).countP (fun e => e.2.session = k) +
      stopped.count k + (replaced ++ s.insertReplaces (.insert h)).count k = if k < s.sessions.length then 1 else 0
    rw [entries_inserted, ← counted, replaces]
    cases found : s.lookup id with
    | none =>
      rw [removed_of_lookup_none found, Option.toList_none, List.map_nil, List.append_nil]
      show _ + (s.entries k + _) + _ + _ = _
      dsimp only at moved
      omega
    | some rs =>
      have removed := entries_removed before.keys found k
      rw [Option.toList_some, List.map_singleton, count_append_one]
      dsimp only at moved
      omega
  | _ => cases step

theorem Accounted.step {e : AgentEvent} {stopped replaced : List Nat} (before : Accounted s stopped replaced)
    (step : agentStep s e = some t) : Accounted t (stopped ++ s.stopTakes e) (replaced ++ s.insertReplaces e) := by
  cases e with
  | stop h =>
    show Accounted t _ (replaced ++ [])
    rw [List.append_nil]
    exact before.stop step
  | insert h =>
    show Accounted t (stopped ++ []) _
    rw [List.append_nil]
    exact before.insert step
  | _ =>
    show Accounted t (stopped ++ []) (replaced ++ [])
    rw [List.append_nil, List.append_nil]
    exact before.aside (AgentServer.moves_of_step step) nofun nofun

/-! ## Runs -/

/-- **Every session is in one place, once.** Whatever is sent to the server and however its handlers interleave, a
session that was started is about to be inserted, in the map under one id, taken by one Stop or replaced by one insert,
and just one of these. -/
theorem each_session_once {env : Environment} {files : List (List Component)} {es : List AgentEvent}
    (run : agentSystem.run ⟨env, files, [], none, [], [], []⟩ es = some s) (k : Nat) :
    s.pending k + s.entries k + (agentSystem.gather AgentServer.stopTakes ⟨env, files, [], none, [], [], []⟩ es).count k +
      (agentSystem.gather AgentServer.insertReplaces ⟨env, files, [], none, [], [], []⟩ es).count k =
        if k < s.sessions.length then 1 else 0 := by
  have accounted : Accounted s (agentSystem.gather AgentServer.stopTakes ⟨env, files, [], none, [], [], []⟩ es)
      (agentSystem.gather AgentServer.insertReplaces ⟨env, files, [], none, [], [], []⟩ es) := by
    refine invariant_since (I := fun es s => Accounted s (agentSystem.gather AgentServer.stopTakes _ es)
      (agentSystem.gather AgentServer.insertReplaces _ es)) ?_ ?_ run
    · exact ⟨List.nodup_nil, fun k => rfl⟩
    · intro es s e t run before step
      rw [gather_snoc run, gather_snoc run]
      exact before.step step
  exact accounted.once k

/-- Two Starts insert under the id of one millisecond, and a Stop names it. -/
def replacedThenStopped : List AgentEvent :=
  admittedAt 0 5 ++ admittedAt 1 6 ++ clockedAt 0 1000 ++ clockedAt 1 1000 ++
    [.insert 0, .ends 0, .insert 1, .ends 1, .connect "10.0.0.7" (.stop "session-1000"), .stop 2]

theorem each_session_once_replaced : ∃ s,
    agentSystem.run ⟨⟨none, none, none⟩, [], [], none, [], [], []⟩ replacedThenStopped = some s ∧
      ∀ k, s.pending k + s.entries k + [1].count k + [0].count k = if k < 2 then 1 else 0 := by
  obtain ⟨s, run, two, stopped, replaced⟩ : ∃ s,
      agentSystem.run ⟨⟨none, none, none⟩, [], [], none, [], [], []⟩ replacedThenStopped = some s ∧ s.sessions.length = 2 ∧
      agentSystem.gather AgentServer.stopTakes ⟨⟨none, none, none⟩, [], [], none, [], [], []⟩ replacedThenStopped = [1] ∧
      agentSystem.gather AgentServer.insertReplaces ⟨⟨none, none, none⟩, [], [], none, [], [], []⟩ replacedThenStopped =
        [0] := ⟨_, rfl, rfl, rfl, rfl⟩
  refine ⟨s, run, fun k => ?_⟩
  have once := each_session_once run k
  rwa [stopped, replaced, two] at once

end StereoMix.Encode
