import StereoMix.Ipc.Server

/-!
# One server, many recorders

Every connection has a dispatcher of its own, so its recording state is that of one dispatcher for the lines of all
connections as long as no other connection was sent a line that sets the state. Where the lines that set the state and
those whose answers tell of it come on one connection, the server answers as that one dispatcher would.
-/

namespace StereoMix.Ipc

open EventSystem

/-! ## A single dispatcher -/

/-- What one dispatcher comes to and answers, given lines one after the other. -/
def singleAfter (serde : SerdeJson) (lines : List (String × Reading)) : Dispatcher × List Json :=
  lines.foldl (fun (d, replies) (line, r) =>
    match handleLine serde d r line with
    | (d, .replied reply) => (d, replies ++ [reply])
    | (d, _) => (d, replies)) (.new, [])

/-- A single dispatcher for the lines that the server has answered. -/
def IpcServer.single (s : IpcServer) (serde : SerdeJson) : Dispatcher × List Json :=
  singleAfter serde (s.log.map fun h => (h.line, h.reading))

/-- What counts of a response: ok, the error, and the state that is reported. -/
def view (reply : Json) : Option Json × Option Json × Option Json :=
  (reply.get "ok", reply.get "error", (reply.get "data").bind (Json.get "state"))

/-- The answers of the server are those that a single dispatcher gives. -/
def IpcServer.AnswersAsOne (s : IpcServer) (serde : SerdeJson) : Prop :=
  s.log.map (fun h => view h.reply) = (s.single serde).2.map view

/-! ## The lines that set and read the state -/

/-- The commands that set the recording state. -/
def IpcCommand.setsState : IpcCommand → Bool
  | .startRecording _ | .stopRecording | .pauseRecording | .resumeRecording => true
  | _ => false

/-- The commands whose answers tell of the recording state. -/
def IpcCommand.readsState : IpcCommand → Bool
  | .getStatus | .health | .pauseRecording | .resumeRecording => true
  | _ => false

/-- The command of a line, if it has one. -/
def lineCommand (serde : SerdeJson) (line : String) : Option IpcCommand :=
  if blank line then none
  else
    match parseCommand serde line with
    | .ok (cmd, _) => some cmd
    | .error _ => none

/-- A line that sets the state came on the connection. -/
def Connection.sets (conn : Connection) (serde : SerdeJson) : Bool :=
  conn.lines.any fun line => (lineCommand serde line).any IpcCommand.setsState

/-- A line whose answer tells of the state comes on the connection that all lines which set it before came on. -/
def ReadsWhereSet (serde : SerdeJson) (s : IpcServer) : ServerEvent → Prop
  | .line c text _ => s.shutdown = false → (lineCommand serde text).any IpcCommand.readsState = true →
    ∀ x ∈ s.connections.zipIdx, x.2 ≠ c → x.1.sets serde = false
  | _ => True

instance (serde : SerdeJson) (s : IpcServer) (e : ServerEvent) : Decidable (ReadsWhereSet serde s e) := by
  unfold ReadsWhereSet
  split <;> infer_instance

/-! ## Answers of two dispatchers -/

theorem view_toJson (response : ResponseEnvelope) : view response.toJson =
    (some (.bool response.ok), response.error.map .string, response.data.bind (Json.get "state")) := by
  obtain ⟨id, ok, error, data⟩ := response
  cases error <;> cases data <;> rfl

theorem view_handleCommand {d m : Dispatcher} {cmd : IpcCommand} (r : Reading) (id : String)
    (same : cmd.readsState = true → d.state = m.state) :
    view (d.handleCommand r cmd id).2.toJson = view (m.handleCommand r cmd id).2.toJson := by
  rw [view_toJson, view_toJson]
  cases cmd with
  | getStatus => simp [Dispatcher.handleCommand, same rfl]
  | health => simp [Dispatcher.handleCommand, same rfl]
  | pauseRecording | resumeRecording =>
    unfold Dispatcher.handleCommand
    rw [same rfl]
    cases m.state <;> rfl
  | _ => rfl

theorem state_handleCommand {d m : Dispatcher} (r : Reading) (cmd : IpcCommand) (id : String)
    (same : d.state = m.state) : (d.handleCommand r cmd id).1.state = (m.handleCommand r cmd id).1.state := by
  cases cmd with
  | startRecording | stopRecording => rfl
  | pauseRecording | resumeRecording =>
    unfold Dispatcher.handleCommand
    rw [same]
    cases state : m.state <;> simp [same, state]
  | _ => exact same

theorem state_handleCommand_of_unset (d : Dispatcher) (r : Reading) {cmd : IpcCommand} (id : String)
    (unset : cmd.setsState = false) : (d.handleCommand r cmd id).1.state = d.state := by
  cases cmd with
  | startRecording | stopRecording | pauseRecording | resumeRecording => cases unset
  | _ => rfl

/-- What becomes of a line on two dispatchers: `d'` and `reply` on `d`, `m'` and `reply'` on `m`. -/
structure Alike (serde : SerdeJson) (line : String) (d d' m m' : Dispatcher) (reply reply' : Json) : Prop where
  state : d.state = m.state → d'.state = m'.state
  unset : (lineCommand serde line).any IpcCommand.setsState = false → d'.state = d.state ∧ m'.state = m.state
  view : ((lineCommand serde line).any IpcCommand.readsState = true → d.state = m.state) → view reply = view reply'

/-- Another dispatcher answers a line that one has answered. -/
theorem handleLine_alike {serde : SerdeJson} {d d' : Dispatcher} {r : Reading} {line : String} {reply : Json}
    (handles : handleLine serde d r line = (d', .replied reply)) (m : Dispatcher) :
    ∃ m' reply', handleLine serde m r line = (m', .replied reply') ∧ Alike serde line d d' m m' reply reply' := by
  unfold handleLine at handles ⊢
  split at handles
  · cases handles
  rename_i some_text
  rw [if_neg some_text]
  split at handles
  · cases handles
  · rename_i cmd id other found
    have command : lineCommand serde line = some cmd := by
      unfold lineCommand
      rw [if_neg some_text, found]
    cases handles
    refine ⟨_, _, rfl, state_handleCommand r cmd id, ?_, ?_⟩
    · rw [command]
      exact fun unset => ⟨state_handleCommand_of_unset d r id unset, state_handleCommand_of_unset m r id unset⟩
    · rw [command]
      exact view_handleCommand r id
  · cases handles
    exact ⟨_, _, rfl, id, fun _ => ⟨rfl, rfl⟩, fun _ => rfl⟩

theorem singleAfter_concat {serde : SerdeJson} {lines : List (String × Reading)} {line : String} {r : Reading}
    {m : Dispatcher} {reply : Json}
    (handles : handleLine serde (singleAfter serde lines).1 r line = (m, .replied reply)) :
    singleAfter serde (lines ++ [(line, r)]) = (m, (singleAfter serde lines).2 ++ [reply]) := by
  unfold singleAfter at handles ⊢
  rw [List.foldl_append, List.foldl_cons, List.foldl_nil]
  dsimp only
  rw [handles]

/-! ## The states of the connections -/

/-- The connections' recording states, each with whether a line that sets it came on the connection. -/
def IpcServer.states (s : IpcServer) (serde : SerdeJson) : List (Bool × RecordingState) :=
  s.connections.map fun conn => (conn.sets serde, conn.dispatcher.state)

/-- A connection has the state `single` when no other one was sent a line that sets it; so would a new one. -/
def OwnStates (states : List (Bool × RecordingState)) (single : RecordingState) : Prop :=
  ∀ c : Nat, (∀ (i : Nat) (x : Bool × RecordingState), states[i]? = some x → i ≠ c → x.1 = false) →
    states[c]?.elim .idle Prod.snd = single

section

variable {states : List (Bool × RecordingState)} {single : RecordingState}

theorem OwnStates.added (before : OwnStates states single) : OwnStates (states ++ [(false, .idle)]) single := by
  intro c others
  have earlier : states[c]?.elim .idle Prod.snd = single := by
    refine before c fun i x there => others i x ?_
    rwa [List.getElem?_append_left (List.getElem?_eq_some_iff.1 there).1]
  cases found : (states ++ [(false, .idle)])[c]? with
  | none =>
    rw [List.getElem?_eq_none_iff, List.length_append] at found
    rw [List.getElem?_eq_none (Nat.le_of_add_right_le found)] at earlier
    exact earlier
  | some x =>
    rcases Parts.of_added found with old | ⟨rfl, rfl⟩
    · rw [old] at earlier
      exact earlier
    · rw [List.getElem?_eq_none (Nat.le_refl _)] at earlier
      exact earlier

/-- A line that connection `c` and the single dispatcher are given. -/
theorem OwnStates.sent {c : Nat} {x : Bool × RecordingState} (before : OwnStates states single)
    (there : states[c]? = some x) {sets : Bool} {state' single' : RecordingState}
    (same : x.2 = single → state' = single') (unset : sets = false → x.1 = false ∧ single' = single) :
    OwnStates (states.set c (sets, state')) single' := by
  have inside := (List.getElem?_eq_some_iff.1 there).1
  intro c' others
  by_cases here : c' = c
  · subst here
    rw [List.getElem?_set_self inside]
    have own := before c' fun i y at_i elsewhere => others i y (by rwa [List.getElem?_set_ne elsewhere.symm]) elsewhere
    rw [there] at own
    exact same own
  · obtain ⟨earlier, kept⟩ := unset (others c _ (List.getElem?_set_self inside) (Ne.symm here))
    rw [List.getElem?_set_ne (Ne.symm here), kept]
    refine before c' fun i y at_i elsewhere => ?_
    by_cases same_place : i = c
    · subst same_place
      cases there.symm.trans at_i
      exact earlier
    · exact others i y (by rwa [List.getElem?_set_ne (Ne.symm same_place)]) elsewhere

end

/-! ## Runs -/

/-- The connections' own states are those of a single dispatcher where no other connection set them, and the answers
are that dispatcher's. -/
structure IpcServer.OneSeen (s : IpcServer) (serde : SerdeJson) : Prop where
  states : OwnStates (s.states serde) (s.single serde).1.state
  answers : s.AnswersAsOne serde

theorem Connection.sets_append (conn : Connection) (serde : SerdeJson) (line : String) :
    ({ conn with lines := conn.lines ++ [line] } : Connection).sets serde =
      (conn.sets serde || (lineCommand serde line).any IpcCommand.setsState) := by
  simp [sets]

theorem IpcServer.OneSeen.step {serde : SerdeJson} {s t : IpcServer} {e : ServerEvent} (before : s.OneSeen serde)
    (meets : ReadsWhereSet serde s e) (step : serverStep serde s e = some t) : t.OneSeen serde := by
  obtain ⟨states, answers⟩ := before
  cases IpcServer.moves_of_step step with
  | accepted =>
    refine ⟨?_, answers⟩
    rw [IpcServer.states, List.map_append]
    exact states.added
  | pressed => exact ⟨states, answers⟩
  | @skipped c conn text r there empty =>
    have silent : lineCommand serde text = none := if_pos empty
    refine ⟨?_, answers⟩
    rw [IpcServer.states, Parts.map_set there]
    · exact states
    · rw [conn.sets_append, silent, Option.any_none, Bool.or_false]
  | aside there lines written state ends =>
    refine ⟨?_, answers⟩
    rw [IpcServer.states, Parts.map_set there]
    · exact states
    · rw [state, Connection.sets, lines, Connection.sets]
  | @replied c conn text r dispatcher reply there some_text unset handles =>
    obtain ⟨m, reply', single, alike⟩ := handleLine_alike handles (s.single serde).1
    have after : singleAfter serde ((s.log ++ [(⟨text, r, reply⟩ : Handled)]).map fun h => (h.line, h.reading)) =
        (m, (s.single serde).2 ++ [reply']) := by
      rw [List.map_append]
      exact singleAfter_concat single
    have at_c : (s.states serde)[c]? = some (conn.sets serde, conn.dispatcher.state) := by
      rw [IpcServer.states, List.getElem?_map, there, Option.map_some]
    constructor
    · rw [IpcServer.states, List.map_set]
      change OwnStates _ (singleAfter serde _).1.state
      rw [after]
      refine states.sent at_c alike.state fun unset => ?_
      change Connection.sets { conn with lines := conn.lines ++ [text] } serde = false at unset
      rw [conn.sets_append, Bool.or_eq_false_iff] at unset
      exact ⟨unset.1, (alike.unset unset.2).2⟩
    · -- Where the answer tells of the state, no other connection has set it.
      have same : view reply = view reply' := by
        refine alike.view fun reads => ?_
        have own : (s.states serde)[c]?.elim .idle Prod.snd = (s.single serde).1.state := by
          refine states c fun i x found elsewhere => ?_
          rw [IpcServer.states, List.getElem?_map] at found
          obtain ⟨other, at_i, rfl⟩ := Option.map_eq_some_iff.1 found
          exact meets unset reads (other, i) (List.mem_zipIdx_iff_getElem?.2 at_i) elsewhere
        rw [at_c] at own
        exact own
      change (s.log ++ [(⟨text, r, reply⟩ : Handled)]).map _ = (singleAfter serde _).2.map view
      rw [after, List.map_append, List.map_append, answers, List.map_singleton, List.map_singleton, same]

end StereoMix.Ipc
