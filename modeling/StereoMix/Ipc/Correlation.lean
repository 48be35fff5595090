import StereoMix.Ipc.Server
import Mathlib.Data.List.Forall2

/-!
# Responses and their ids

Every connection answers its non-blank lines one by one. An answer has the line's id where the line could be read as a
command, and no id where it could not: where a field of the envelope is repeated, the command is not known, or a
`set_device` lacks a usable index, though the id stands in the line.
-/

namespace StereoMix.Ipc

open EventSystem

/-- The line is a JSON object with string fields `cmd` and `id`. -/
def HasCmdAndId (serde : SerdeJson) (line : String) (fields : List (String × Json)) (cmd id : String) : Prop :=
  serde.read (trim line) = .ok (.object fields) ∧ (Json.object fields).get "cmd" = some (.string cmd) ∧
    (Json.object fields).get "id" = some (.string id)

/-- No field of the envelope is repeated, the command is known, and a `set_device` has an unsigned index. -/
structure Understood (fields : List (String × Json)) (cmd : String) : Prop where
  single : ∀ name ∈ ["cmd", "id", "payload"], (fields.filter fun field => field.1 = name).length ≤ 1
  known : cmd ∈ COMMANDS
  device : cmd = "set_device" →
    ((((Json.object fields).get "payload").getD .null).get "device_index").bind Json.asU64 ≠ none

/-- The answer to a line: some dispatcher's, and with the line's id exactly if the line is understood. -/
structure Answers (serde : SerdeJson) (line : String) (reply : Json) : Prop where
  given : ∃ d r d', handleLine serde d r line = (d', .replied reply)
  id : ∀ fields cmd id, HasCmdAndId serde line fields cmd id →
    (reply.get "id" = some (.string id) ↔ Understood fields cmd)

/-! ## Reading the fields -/

/-- The values under a name, in their order. -/
def valuesOf (name : String) (fields : List (String × Json)) : List Json :=
  (fields.filter fun field => field.1 = name).map Prod.snd

theorem get_object (name : String) (fields : List (String × Json)) :
    (Json.object fields).get name = (valuesOf name fields).getLast? := by
  unfold valuesOf
  rw [List.getLast?_map, ← List.head?_reverse, ← List.filter_reverse, List.head?_filter]
  rfl

theorem valuesOf_cons (name name' : String) (value : Json) (rest : List (String × Json)) :
    valuesOf name ((name', value) :: rest) =
      if name' = name then value :: valuesOf name rest else valuesOf name rest := by
  unfold valuesOf
  rw [List.filter_cons]
  by_cases same : name' = name <;> simp [same]

theorem not_string {value : Json} {e : String} (read : readString value = .error e) (s : String) :
    value ≠ .string s := by
  rintro rfl
  cases read

theorem readString_eq_ok {value : Json} {s : String} : readString value = .ok s ↔ value = .string s := by
  cases value <;> simp [readString]

/-- The fields are read if each was met once, and the payload at most once. -/
theorem readFields_eq_ok {cmd id : Option String} {payload : Option Json} {fields : List (String × Json)}
    {env : CommandEnvelope} : readFields cmd id payload fields = .ok env ↔
      (cmd.map Json.string).toList ++ valuesOf "cmd" fields = [.string env.cmd] ∧
      (id.map Json.string).toList ++ valuesOf "id" fields = [.string env.id] ∧
      (payload.toList ++ valuesOf "payload" fields = [env.payload] ∨
        payload.toList ++ valuesOf "payload" fields = [] ∧ env.payload = .null) := by
  induction fields generalizing cmd id payload with
  | nil =>
    obtain ⟨c, i, p⟩ := env
    cases cmd with
    | none => simp [readFields, valuesOf]
    | some cmd =>
      cases id with
      | none => simp [readFields, valuesOf]
      | some id =>
        cases payload <;> simp [readFields, valuesOf, eq_comm]
  | cons field rest ih =>
    obtain ⟨name, value⟩ := field
    simp only [readFields, valuesOf_cons]
    by_cases is_cmd : name = "cmd"
    · subst is_cmd
      simp only [if_true, show "cmd" ≠ "id" by decide, show "cmd" ≠ "payload" by decide, if_false]
      cases cmd with
      | some cmd => simp
      | none =>
        cases read : readString value with
        | error e => simp [not_string read]
        | ok s =>
          rw [readString_eq_ok.1 read]
          exact ih
    by_cases is_id : name = "id"
    · subst is_id
      simp only [if_true, show "id" ≠ "cmd" by decide, show "id" ≠ "payload" by decide, if_false]
      cases id with
      | some id => simp
      | none =>
        cases read : readString value with
        | error e => simp [not_string read]
        | ok s =>
          rw [readString_eq_ok.1 read]
          exact ih
    by_cases is_payload : name = "payload"
    · subst is_payload
      simp only [if_true, show "payload" ≠ "cmd" by decide, show "payload" ≠ "id" by decide, if_false]
      cases payload with
      | some payload => simp
      | none => exact ih
    · simp only [is_cmd, is_id, is_payload, if_false]
      exact ih

/-- Of an object with the two strings, no repeated field is what it takes to be read. -/
theorem readFields_ok_iff {fields : List (String × Json)} {cmd id : String}
    (has_cmd : (Json.object fields).get "cmd" = some (.string cmd))
    (has_id : (Json.object fields).get "id" = some (.string id)) :
    (∀ name ∈ ["cmd", "id", "payload"], (valuesOf name fields).length ≤ 1) ↔
      readFields none none none fields = .ok ⟨cmd, id, ((Json.object fields).get "payload").getD .null⟩ := by
  rw [get_object] at has_cmd has_id
  rw [get_object, readFields_eq_ok]
  have alone {values : List Json} {value : Json} (last : values.getLast? = some value) :
      values.length ≤ 1 ↔ values = [value] := by
    match values, last with
    | [_], rfl => simp
    | _ :: _ :: _, _ => simp
  simp only [List.forall_mem_cons, List.not_mem_nil, false_implies, implies_true, and_true, Option.map_none,
    Option.toList_none, List.nil_append, alone has_cmd, alone has_id]
  refine and_congr_right fun _ => and_congr_right fun _ => ?_
  match valuesOf "payload" fields with
  | [] => simp
  | [value] => simp
  | _ :: _ :: _ => simp

/-! ## Interpreting the command -/

theorem fromEnvelope_ok_iff {env : CommandEnvelope} : (∃ cmd, IpcCommand.fromEnvelope env = .ok cmd) ↔
    env.cmd ∈ COMMANDS ∧ (env.cmd = "set_device" → (env.payload.get "device_index").bind Json.asU64 ≠ none) := by
  obtain ⟨cmd, id, payload⟩ := env
  have plain {name : String} {c : IpcCommand} (known : name ∈ COMMANDS) (other : name ≠ "set_device") :
      (∃ cmd, (.ok c : Except IpcError IpcCommand) = .ok cmd) ↔ name ∈ COMMANDS ∧
        (name = "set_device" → (payload.get "device_index").bind Json.asU64 ≠ none) :=
    iff_of_true ⟨c, rfl⟩ ⟨known, fun same => absurd same other⟩
  unfold IpcCommand.fromEnvelope
  dsimp only
  split
  case h_7 =>
    unfold CommandEnvelope.deviceIndex
    cases index : (payload.get "device_index").bind Json.asU64 with
    | none => simp
    | some n => exact iff_of_true ⟨_, rfl⟩ ⟨by decide, fun _ => Option.some_ne_none n⟩
  case h_12 =>
    refine iff_of_false (by simp) ?_
    rintro ⟨known, -⟩
    simp_all [COMMANDS]
  all_goals exact plain (by decide) (by decide)

/-- A line with the two strings is an envelope with them if no field is repeated, and else none. -/
theorem parse_of_asks {serde : SerdeJson} {line : String} {fields : List (String × Json)} {cmd id : String}
    (asks : HasCmdAndId serde line fields cmd id) :
    if ∀ name ∈ ["cmd", "id", "payload"], (valuesOf name fields).length ≤ 1 then
      CommandEnvelope.parse serde line = .ok ⟨cmd, id, ((Json.object fields).get "payload").getD .null⟩
    else ∃ e, CommandEnvelope.parse serde line = .error e := by
  obtain ⟨read, has_cmd, has_id⟩ := asks
  have once := readFields_ok_iff has_cmd has_id
  have parse : CommandEnvelope.parse serde line = (readFields none none none fields).mapError
      fun e => .serialization s!"invalid JSON: {serde.located (trim line) e}" := by
    unfold CommandEnvelope.parse
    rw [read]
    dsimp only [CommandEnvelope.ofJson]
    cases readFields none none none fields <;> rfl
  split
  · rename_i single
    rw [parse, once.1 single]
    rfl
  · rename_i repeated
    cases fields_read : readFields none none none fields with
    | error e =>
      rw [fields_read] at parse
      exact ⟨_, parse⟩
    | ok env =>
      obtain ⟨cmds, ids, payloads⟩ := readFields_eq_ok.1 fields_read
      refine absurd ?_ repeated
      simp only [Option.map_none, Option.toList_none, List.nil_append] at cmds ids payloads
      simp only [List.forall_mem_cons, List.not_mem_nil, false_implies, implies_true, and_true, cmds, ids]
      rcases payloads with one | ⟨none, -⟩
      · simp [one]
      · simp [none]

/-- A line with the two strings is parsed exactly if it is understood. -/
theorem parseCommand_ok_iff {serde : SerdeJson} {line : String} {fields : List (String × Json)} {cmd id : String}
    (asks : HasCmdAndId serde line fields cmd id) :
    (∃ c id', parseCommand serde line = .ok (c, id')) ↔ Understood fields cmd := by
  have lengths (name : String) : (fields.filter fun field => field.1 = name).length = (valuesOf name fields).length :=
    (List.length_map ..).symm
  have parse := parse_of_asks asks
  split at parse
  · rename_i single
    have interprets := @fromEnvelope_ok_iff ⟨cmd, id, ((Json.object fields).get "payload").getD .null⟩
    have parsed : (∃ c id', parseCommand serde line = .ok (c, id')) ↔
        ∃ c, IpcCommand.fromEnvelope ⟨cmd, id, ((Json.object fields).get "payload").getD .null⟩ = .ok c := by
      unfold parseCommand
      rw [parse]
      dsimp only
      split <;> rename_i answer <;> simp [answer]
    rw [parsed, interprets]
    constructor
    · rintro ⟨known, device⟩
      exact ⟨fun name member => lengths name ▸ single name member, known, device⟩
    · rintro ⟨-, known, device⟩
      exact ⟨known, device⟩
  · rename_i repeated
    obtain ⟨e, failed⟩ := parse
    refine iff_of_false ?_ ?_
    · rintro ⟨c, id', parsed⟩
      unfold parseCommand at parsed
      rw [failed] at parsed
      cases parsed
    · intro understood
      exact repeated fun name member => lengths name ▸ understood.single name member

theorem parseCommand_id {serde : SerdeJson} {line : String} {fields : List (String × Json)} {cmd id id' : String}
    {c : IpcCommand} (asks : HasCmdAndId serde line fields cmd id) (parsed : parseCommand serde line = .ok (c, id')) :
    id' = id := by
  have parse := parse_of_asks asks
  unfold parseCommand at parsed
  split at parse
  · rw [parse] at parsed
    dsimp only at parsed
    split at parsed
    · cases parsed
    · cases parsed
      rfl
  · obtain ⟨e, failed⟩ := parse
    rw [failed] at parsed
    cases parsed

/-! ## Answers -/

theorem handleCommand_id (d : Dispatcher) (r : Reading) (cmd : IpcCommand) (id : String) :
    (d.handleCommand r cmd id).2.id = id := by
  unfold Dispatcher.handleCommand
  cases cmd with
  | pauseRecording | resumeRecording =>
    dsimp only
    split <;> rfl
  | _ => rfl

theorem get_id_toJson (response : ResponseEnvelope) : response.toJson.get "id" = some (.string response.id) := by
  obtain ⟨id, ok, error, data⟩ := response
  cases error <;> cases data <;> rfl

theorem answers_of_handleLine {serde : SerdeJson} {d d' : Dispatcher} {r : Reading} {line : String} {reply : Json}
    (handles : handleLine serde d r line = (d', .replied reply)) : Answers serde line reply := by
  refine ⟨⟨d, r, d', handles⟩, ?_⟩
  intro fields cmd id asks
  have parsed := parseCommand_ok_iff asks
  rw [← parsed]
  unfold handleLine at handles
  split at handles
  · cases handles
  split at handles
  · cases handles
  · rename_i c id' _ found
    cases handles
    refine iff_of_true ?_ ⟨c, id', found⟩
    rw [get_id_toJson, handleCommand_id, parseCommand_id asks found]
  · rename_i e failed
    cases handles
    refine iff_of_false ?_ ?_
    · intro same
      cases same
    · rintro ⟨c, id', found⟩
      rw [failed] at found
      cases found

/-- Each non-blank line that was read has one answer, in the order of the lines. -/
def Connection.AnswersEach (R : String → Json → Prop) (conn : Connection) : Prop :=
  List.Forall₂ R (conn.lines.filter fun line => !blank line) conn.written

namespace Connection.AnswersEach

variable {R : String → Json → Prop} {conn : Connection} {line : String}

theorem skip (each : conn.AnswersEach R) (empty : blank line = true) :
    { conn with lines := conn.lines ++ [line] }.AnswersEach R := by
  unfold Connection.AnswersEach
  rw [List.filter_append, List.filter_singleton, empty]
  exact (List.append_nil _).symm ▸ each

theorem reply (each : conn.AnswersEach R) (some_text : blank line = false) {reply : Json} (answer : R line reply)
    (dispatcher : Dispatcher) :
    { conn with dispatcher, lines := conn.lines ++ [line], written := conn.written ++ [reply] }.AnswersEach R := by
  unfold Connection.AnswersEach
  rw [List.filter_append, List.filter_singleton, some_text]
  exact List.rel_append each (.cons answer .nil)

end Connection.AnswersEach

/-- **Every connection answers its lines one by one, and with their ids exactly if they are understood.** -/
theorem lines_answered {serde : SerdeJson} {s : IpcServer} (reached : (serverSystem serde).Reachable s) :
    ∀ conn ∈ s.connections, conn.AnswersEach (Answers serde) := by
  apply invariant (S := serverSystem serde)
    (I := fun s => ∀ conn ∈ s.connections, conn.AnswersEach (Answers serde)) _ _ reached
  · rintro s rfl
    exact List.forall_mem_nil _
  · intro s e t before step
    have changed {c : Nat} {conn conn' : Connection} (there : s.connections[c]? = some conn)
        (kept : conn.AnswersEach (Answers serde) → conn'.AnswersEach (Answers serde)) :
        ∀ x ∈ s.connections.set c conn', x.AnswersEach (Answers serde) := by
      intro x member
      rcases List.mem_or_eq_of_mem_set member with old | rfl
      · exact before x old
      · exact kept (before conn (List.mem_of_getElem? there))
    cases IpcServer.moves_of_step step with
    | accepted => exact List.forall_mem_append.2 ⟨before, List.forall_mem_singleton.2 .nil⟩
    | pressed => exact before
    | skipped there empty => exact changed there fun each => each.skip empty
    | replied there some_text _ handles =>
      exact changed there fun each => each.reply some_text (answers_of_handleLine handles) _
    | aside there lines written _ =>
      apply changed there
      unfold Connection.AnswersEach
      rw [lines, written]
      exact id

theorem lines_answered_two : ∃ s, (serverSystem (requestReader COMMANDS)).run ⟨true, false, [], []⟩
    [.accept, .send 0 "get_status", .line 0 "  " ⟨0, 0, "0.0", "0.0", "0.0"⟩, .send 0 "pause_recording"] = some s ∧
      ∀ conn ∈ s.connections, conn.AnswersEach (Answers (requestReader COMMANDS)) :=
  ⟨_, rfl, lines_answered ⟨_, [.accept, .send 0 "get_status", .line 0 "  " ⟨0, 0, "0.0", "0.0", "0.0"⟩,
    .send 0 "pause_recording"], rfl, rfl⟩⟩

/-- A line whose command is not known has its id, and the answer has none. -/
theorem answer_without_id : ∃ s, (serverSystem (requestReader ["fly_a_kite"])).run ⟨true, false, [], []⟩
    [.accept, .send 0 "fly_a_kite"] = some s ∧ ¬ ∀ conn ∈ s.connections, conn.AnswersEach fun line reply =>
      ∀ fields cmd id, HasCmdAndId (requestReader ["fly_a_kite"]) line fields cmd id →
        reply.get "id" = some (.string id) := by
  refine ⟨_, rfl, ?_⟩
  intro correlated
  have one : List.Forall₂ _ [request "fly_a_kite"] [errorReply (.unknownCommand "fly_a_kite")] :=
    correlated _ List.mem_cons_self
  obtain ⟨here, -⟩ := List.forall₂_cons.1 one
  cases here _ _ _ ⟨rfl, rfl, rfl⟩

end StereoMix.Ipc
