import StereoMix.Ipc.Commands
import StereoMix.Lib.EventSystem
import StereoMix.Lib.Lines

/-!
# The telemetry client

`telemetry_client.rs` and the window's use of it. On the first frame the window starts a thread if an address is
configured. The thread dials the endpoint again and again, reads lines from it, and sends those that are not blank
without the white space behind them to the window, which takes them from the channel on its frames. The bytes of the
endpoint come in any chunks. Of an `audio_stats` event the window takes two floats for its meters; they are not here.
-/

namespace StereoMix.Ui

open EventSystem Ipc

/-! ## The source -/

def resolveAddr (envValue : Option String) : Option String :=
  envValue.bind fun value =>
    let trimmed := trim value
    if trimmed = "" then none else some trimmed

/-- `str::trim_end`. -/
def trimEnd (s : String) : String := String.ofList (s.toList.rdropWhile isWhitespace)

/-- What the window logs of a message. -/
def telemetryLogs (serde : SerdeJson) (msg : String) : List String :=
  match serde.read msg with
  | .error _ => []
  | .ok v =>
    match v.get "event" with
    | some (.string "audio_started") => ["telemetry: audio_started"]
    | some (.string "audio_stopped") => ["telemetry: audio_stopped"]
    | _ => []

/-- A connection to the endpoint. `arrived` is the record of what the endpoint sent, `unread` what of it the thread has
not taken, and `lines` the record of what the thread sent on for it; one that `failed` was not read to its end. -/
structure TelemetryStream where
  arrived : List UInt8
  unread : List UInt8
  closed : Bool
  lines : List String
  failed : Bool
  deriving DecidableEq

def TelemetryStream.new : TelemetryStream := ⟨[], [], false, [], false⟩

/-- Where the thread is: not started, about to dial, reading a stream, or returned. -/
inductive ListenerPc where
  | unstarted
  | dialling
  | listening (stream : TelemetryStream)
  | returned
  deriving DecidableEq

/-- The thread and the window. `past` is the record of the streams before, `queue` what is in the channel, and
`received` the record of what the window took from it; without `rx` the window has no end of the channel, and what is
left in it is lost. -/
structure TelemetryClient where
  closed : Bool
  checked : Bool
  pc : ListenerPc
  past : List TelemetryStream
  queue : List String
  rx : Bool
  received : List String
  logs : List String

def TelemetryClient.new : TelemetryClient := ⟨false, false, .unstarted, [], [], false, [], []⟩

/-- What can happen: the window draws a frame, looks into the channel, or is closed; the thread dials, reads a line, or
fails to; bytes of the endpoint come, or it closes the connection. -/
inductive TelemetryClientEvent where
  | frame
  | tryRecv
  | close
  | connect (accepted : Bool)
  | arrive (bytes : List UInt8)
  | hangUp
  | readLine
  | readFails
  deriving DecidableEq

/-- What the window logs when it starts the thread. -/
def telemetryGreeting (env : Option String) : List String :=
  (resolveAddr env).toList.map fun addr => s!"telemetry: connecting to {addr}"

/-- The stream is dropped. -/
def TelemetryClient.leaves (s : TelemetryClient) (stream : TelemetryStream) : TelemetryClient :=
  { s with pc := .dialling, past := s.past ++ [stream] }

/-- `read_line`, and what the thread does with the line. -/
def TelemetryClient.readLine (s : TelemetryClient) (stream : TelemetryStream) : Option TelemetryClient :=
  match Lines.readPiece Lines.newline stream.closed stream.unread with
  | none => if stream.closed then some (s.leaves stream) else none
  | some (piece, unread) =>
    match Lines.text? piece with
    | none => some (s.leaves { stream with unread })
    | some line =>
      let msg := trimEnd line
      if msg = "" then some { s with pc := .listening { stream with unread } }
      else if s.rx then some { s with
        pc := .listening { stream with unread, lines := stream.lines ++ [msg] }
        queue := s.queue ++ [msg] }
      else some { s with pc := .returned, past := s.past ++ [{ stream with unread, failed := true }] }

def telemetryClientStep (serde : SerdeJson) (env : Option String) (s : TelemetryClient) :
    TelemetryClientEvent → Option TelemetryClient
  | .frame =>
    if s.closed then none
    else if s.checked then some s
    else some { s with
      checked := true
      pc := if (resolveAddr env).isSome then .dialling else s.pc
      rx := (resolveAddr env).isSome
      logs := s.logs ++ telemetryGreeting env }
  | .tryRecv =>
    if s.rx then
      match s.queue with
      | msg :: queue => some { s with
        queue
        received := s.received ++ [msg]
        logs := s.logs ++ telemetryLogs serde msg }
      | [] => if s.pc = .returned then some { s with rx := false } else none
    else none
  | .close => some { s with closed := true, rx := false }
  | .connect accepted =>
    match s.pc with
    | .dialling => if accepted then some { s with pc := .listening .new } else some s
    | _ => none
  | .arrive bytes =>
    match s.pc with
    | .listening stream =>
      if stream.closed then none
      else some { s with
        pc := .listening { stream with arrived := stream.arrived ++ bytes, unread := stream.unread ++ bytes } }
    | _ => none
  | .hangUp =>
    match s.pc with
    | .listening stream => some { s with pc := .listening { stream with closed := true } }
    | _ => none
  | .readLine =>
    match s.pc with
    | .listening stream => s.readLine stream
    | _ => none
  | .readFails =>
    match s.pc with
    | .listening stream => some (s.leaves { stream with failed := true })
    | _ => none

def telemetryClientSystem (serde : SerdeJson) (env : Option String) :
    EventSystem TelemetryClient TelemetryClientEvent where
  init s := s = .new
  step := telemetryClientStep serde env

/-! ## What the endpoint says -/

/-- The messages in the lines of a stream, up to the first that is not text. -/
def messages : List (Option String) → List String
  | some line :: rest => if trimEnd line = "" then messages rest else trimEnd line :: messages rest
  | _ => []

/-- The messages of a stream. -/
def TelemetryStream.said (stream : TelemetryStream) : List String :=
  messages ((Lines.pieces Lines.newline stream.closed stream.arrived).map Lines.text?)

/-- Messages as a server streams them. -/
def streamed (msgs : List String) : List UInt8 := Lines.ended Lines.newline (msgs.map Lines.utf8)

/-- A message that is one line, with nothing around it that is trimmed. -/
def IsLine (msg : String) : Prop := '\n' ∉ msg.toList ∧ trimEnd msg = msg ∧ msg ≠ ""

/-- Messages are told apart again. -/
theorem said_streamed {stream : TelemetryStream} {msgs : List String} (lines : ∀ msg ∈ msgs, IsLine msg)
    (sent : stream.arrived = streamed msgs) : stream.said = msgs := by
  have clean : ∀ line ∈ msgs.map Lines.utf8, Lines.newline ∉ line :=
    List.forall_mem_map.2 fun msg member => Lines.newline_not_mem_utf8 (lines msg member).1
  rw [TelemetryStream.said, sent, streamed, Lines.pieces_ended clean, List.map_map, List.map_map]
  clear clean sent
  induction msgs with
  | nil => rfl
  | cons msg msgs ih =>
    obtain ⟨⟨-, trimmed, some_text⟩, rest⟩ := List.forall_mem_cons.1 lines
    have whole : trimEnd (msg ++ "\n") = msg := by
      rw [trimEnd, String.toList_append]
      exact (congrArg String.ofList (List.rdropWhile_concat_pos _ _ _ rfl)).trans trimmed
    rw [List.map_cons, Function.comp_apply, Function.comp_apply, Lines.text?_line, messages, whole, if_neg some_text,
      ih rest]

/-! ## What the thread has sent on -/

/-- The lines that were read were text, and what is in them was sent on. -/
def TelemetryStream.Follows (stream : TelemetryStream) : Prop :=
  ∃ read, Lines.Reads Lines.newline stream.closed stream.arrived read stream.unread ∧
    ∀ rest, messages (read.map Lines.text? ++ rest) = stream.lines ++ messages rest

/-- All that the endpoint said was sent on, unless the stream failed. -/
def TelemetryStream.SentOn (stream : TelemetryStream) : Prop :=
  stream.lines <+: stream.said ∧ (stream.failed = false → stream.lines = stream.said)

namespace TelemetryStream.Follows

variable {stream : TelemetryStream} {piece unread : List UInt8}

theorem said (follows : stream.Follows) : stream.said =
    stream.lines ++ messages ((Lines.pieces Lines.newline stream.closed stream.unread).map Lines.text?) := by
  obtain ⟨read, reads, sent⟩ := follows
  rw [TelemetryStream.said, reads.all, List.map_append, sent]

theorem new : TelemetryStream.new.Follows := ⟨[], .start _ _, fun _ => rfl⟩

theorem arrive (follows : stream.Follows) (opened : stream.closed = false) (bytes : List UInt8) :
    { stream with arrived := stream.arrived ++ bytes, unread := stream.unread ++ bytes }.Follows := by
  obtain ⟨read, reads, sent⟩ := follows
  rw [opened] at reads
  exact ⟨read, opened ▸ reads.arrive bytes, sent⟩

theorem hangUp (follows : stream.Follows) : { stream with closed := true }.Follows := by
  obtain ⟨read, reads, sent⟩ := follows
  exact ⟨read, reads.close, sent⟩

/-- A line of text is read. -/
theorem next (follows : stream.Follows)
    (got : Lines.readPiece Lines.newline stream.closed stream.unread = some (piece, unread)) {line : String}
    (text : Lines.text? piece = some line) {lines : List String}
    (same : lines = stream.lines ++ if trimEnd line = "" then [] else [trimEnd line]) :
    { stream with unread, lines }.Follows := by
  obtain ⟨read, reads, sent⟩ := follows
  refine ⟨read ++ [piece], reads.next got, fun rest => ?_⟩
  rw [List.map_append, List.append_assoc, sent, List.map_singleton, text, List.singleton_append, messages, same]
  split
  · rw [List.append_nil]
  · rw [List.append_assoc, List.singleton_append]

/-- The stream is at its end. -/
theorem ended (follows : stream.Follows)
    (got : Lines.readPiece Lines.newline stream.closed stream.unread = none) : stream.SentOn := by
  have whole : stream.lines = stream.said := by
    rw [follows.said, Lines.pieces_of_read_none got]
    exact (List.append_nil _).symm
  exact ⟨whole ▸ List.prefix_rfl, fun _ => whole⟩

/-- The next line is no text. -/
theorem invalid (follows : stream.Follows)
    (got : Lines.readPiece Lines.newline stream.closed stream.unread = some (piece, unread))
    (invalid : Lines.text? piece = none) : { stream with unread }.SentOn := by
  have whole : stream.lines = stream.said := by
    rw [follows.said, Lines.pieces_of_read got, List.map_cons, invalid]
    exact (List.append_nil _).symm
  exact ⟨(whole ▸ List.prefix_rfl : stream.lines <+: stream.said), fun _ => whole⟩

/-- The stream is given up. -/
theorem failed (follows : stream.Follows) (unread : List UInt8) : { stream with unread, failed := true }.SentOn := by
  refine ⟨?_, nofun⟩
  change stream.lines <+: stream.said
  rw [follows.said]
  exact List.prefix_append _ _

end TelemetryStream.Follows

/-! ## What the window receives -/

/-- What the thread has sent on of the stream it reads. -/
def TelemetryClient.current (s : TelemetryClient) : List String :=
  match s.pc with
  | .listening stream => stream.lines
  | _ => []

/-- The messages are in the window, in the channel, or lost with it, each in one place and in their order. -/
structure TelemetryClient.Forwards (serde : SerdeJson) (env : Option String) (s : TelemetryClient) : Prop where
  fresh : s.checked = false → s.pc = .unstarted ∧ s.rx = false ∧ s.received = [] ∧ s.logs = []
  queue : s.received ++ s.queue = s.past.flatMap TelemetryStream.lines ++ s.current
  past : ∀ stream ∈ s.past, stream.SentOn
  listening : ∀ stream, s.pc = .listening stream → stream.Follows
  returned : s.pc = .returned → s.rx = false
  logs : s.logs = (if s.checked then telemetryGreeting env else []) ++ s.received.flatMap (telemetryLogs serde)

namespace TelemetryClient.Forwards

variable {serde : SerdeJson} {env : Option String} {s t : TelemetryClient} {stream stream' : TelemetryStream}

theorem checked (forwards : s.Forwards serde env) (started : s.pc ≠ .unstarted) : s.checked = true :=
  Bool.of_not_eq_false fun unchecked => started (forwards.fresh unchecked).1

/-- The thread goes on with its stream, and nothing is sent on. -/
theorem listens (forwards : s.Forwards serde env) (at_stream : s.pc = .listening stream)
    (follows : stream'.Follows) (same : stream'.lines = stream.lines) :
    { s with pc := .listening stream' }.Forwards serde env := by
  have checked := forwards.checked (by rw [at_stream]; nofun)
  refine ⟨fun unchecked => ?_, ?_, forwards.past, ?_, nofun, forwards.logs⟩
  · cases checked.symm.trans unchecked
  · have queue := forwards.queue
    rw [TelemetryClient.current, at_stream] at queue
    change s.received ++ s.queue = _ ++ stream'.lines
    rwa [same]
  · rintro _ ⟨⟩
    exact follows

/-- The stream is dropped. -/
theorem leaves (forwards : s.Forwards serde env) (at_stream : s.pc = .listening stream)
    (sent : stream'.SentOn) (same : stream'.lines = stream.lines) {pc : ListenerPc}
    (silent : pc = .dialling ∨ pc = .returned ∧ s.rx = false) :
    { s with pc, past := s.past ++ [stream'] }.Forwards serde env := by
  have checked := forwards.checked (by rw [at_stream]; nofun)
  refine ⟨fun unchecked => ?_, ?_, ?_, ?_, ?_, forwards.logs⟩
  · cases checked.symm.trans unchecked
  · have queue := forwards.queue
    have nothing : TelemetryClient.current { s with pc, past := s.past ++ [stream'] } = [] := by
      rcases silent with rfl | ⟨rfl, -⟩ <;> rfl
    rw [TelemetryClient.current, at_stream] at queue
    rw [nothing, List.flatMap_append, List.flatMap_singleton, same, List.append_nil]
    exact queue
  · exact List.forall_mem_append.2 ⟨forwards.past, List.forall_mem_singleton.2 sent⟩
  · rintro _ rfl
    rcases silent with silent | ⟨silent, -⟩ <;> cases silent
  · rintro rfl
    rcases silent with silent | ⟨-, dropped⟩
    · cases silent
    · exact dropped

theorem readLine (forwards : s.Forwards serde env) (at_stream : s.pc = .listening stream)
    (step : s.readLine stream = some t) : t.Forwards serde env := by
  have follows := forwards.listening stream at_stream
  unfold TelemetryClient.readLine at step
  split at step
  · rename_i got
    obtain ⟨-, step⟩ := Option.ite_none_right_eq_some.1 step
    cases step
    exact forwards.leaves at_stream (follows.ended got) rfl (.inl rfl)
  · rename_i piece unread got
    split at step
    · rename_i invalid
      cases step
      exact forwards.leaves at_stream (follows.invalid got invalid) rfl (.inl rfl)
    · rename_i line text
      dsimp only at step
      split at step
      · rename_i blank
        cases step
        exact forwards.listens at_stream (follows.next got text (by rw [if_pos blank, List.append_nil])) rfl
      · rename_i some_text
        split at step
        · cases step
          have next : { stream with unread, lines := stream.lines ++ [trimEnd line] }.Follows :=
            follows.next got text (by rw [if_neg some_text])
          have checked := forwards.checked (by rw [at_stream]; nofun)
          refine ⟨fun unchecked => ?_, ?_, forwards.past, ?_, nofun, forwards.logs⟩
          · cases checked.symm.trans unchecked
          · have queue := forwards.queue
            rw [TelemetryClient.current, at_stream] at queue
            change s.received ++ (s.queue ++ [_]) = _ ++ (stream.lines ++ [_])
            rw [← List.append_assoc, queue, List.append_assoc]
          · rintro _ ⟨⟩
            exact next
        · rename_i dropped
          cases step
          exact forwards.leaves at_stream (follows.failed unread) rfl (.inr ⟨rfl, Bool.not_eq_true _ ▸ dropped⟩)

/-- The first frame. -/
theorem frame (forwards : s.Forwards serde env) (unchecked : s.checked = false) : TelemetryClient.Forwards serde env
    { s with
      checked := true
      pc := if (resolveAddr env).isSome then .dialling else s.pc
      rx := (resolveAddr env).isSome
      logs := s.logs ++ telemetryGreeting env } := by
  obtain ⟨unstarted, -, none_received, no_logs⟩ := forwards.fresh unchecked
  have silent (pc : ListenerPc) (known : pc = if (resolveAddr env).isSome then .dialling else s.pc) :
      pc = .dialling ∨ pc = .unstarted := by
    rw [known, unstarted]
    split
    · exact .inl rfl
    · exact .inr rfl
  have queue := forwards.queue
  rw [TelemetryClient.current, unstarted] at queue
  refine ⟨nofun, ?_, forwards.past, fun stream listening => ?_, fun returned => ?_, ?_⟩
  · unfold TelemetryClient.current
    dsimp only
    rcases silent _ rfl with here | here
    all_goals
      rw [here]
      exact queue
  · rcases silent _ rfl with here | here <;> cases here.symm.trans listening
  · rcases silent _ rfl with here | here <;> cases here.symm.trans returned
  · change s.logs ++ telemetryGreeting env = telemetryGreeting env ++ s.received.flatMap (telemetryLogs serde)
    rw [no_logs, none_received]
    exact (List.append_nil _).symm

end TelemetryClient.Forwards

theorem telemetry_forwards {serde : SerdeJson} {env : Option String} {s : TelemetryClient}
    (reached : (telemetryClientSystem serde env).Reachable s) : s.Forwards serde env := by
  apply invariant (S := telemetryClientSystem serde env) (I := fun s => s.Forwards serde env) _ _ reached
  · rintro s rfl
    exact ⟨fun _ => ⟨rfl, rfl, rfl, rfl⟩, rfl, List.forall_mem_nil _, nofun, nofun, rfl⟩
  · intro s e t before step
    have started {pc : ListenerPc} (here : s.pc = pc) (other : pc ≠ .unstarted) : s.checked = true :=
      before.checked (here ▸ other)
    cases e with
    | frame =>
      obtain ⟨-, step⟩ := Option.ite_none_left_eq_some.1 step
      split at step
      · cases step
        exact before
      · rename_i unchecked
        cases step
        exact before.frame (Bool.not_eq_true _ ▸ unchecked)
    | tryRecv =>
      obtain ⟨taken, step⟩ := Option.ite_none_right_eq_some.1 step
      have checked : s.checked = true := Bool.of_not_eq_false fun unchecked => by
        rw [(before.fresh unchecked).2.1] at taken
        cases taken
      split at step
      · rename_i msg queue at_queue
        cases step
        refine ⟨fun unchecked => ?_, ?_, before.past, before.listening, before.returned, ?_⟩
        · cases checked.symm.trans unchecked
        · have same := before.queue
          rw [at_queue] at same
          rw [← List.singleton_append, ← List.append_assoc] at same
          exact same
        · change s.logs ++ telemetryLogs serde msg = _
          rw [before.logs, List.flatMap_append, List.flatMap_singleton, List.append_assoc]
      · obtain ⟨returned, -⟩ := Option.ite_none_right_eq_some.1 step
        rw [before.returned returned] at taken
        cases taken
    | close =>
      cases step
      refine ⟨fun unchecked => ?_, before.queue, before.past, before.listening, fun _ => rfl, before.logs⟩
      obtain ⟨unstarted, -, rest⟩ := before.fresh unchecked
      exact ⟨unstarted, rfl, rest⟩
    | connect accepted =>
      unfold telemetryClientSystem telemetryClientStep at step
      dsimp only at step
      split at step
      · rename_i dialling
        have checked := started dialling nofun
        split at step
        · cases step
          refine ⟨fun unchecked => ?_, ?_, before.past, ?_, nofun, before.logs⟩
          · cases checked.symm.trans unchecked
          · have queue := before.queue
            rw [TelemetryClient.current, dialling] at queue
            exact queue
          · rintro _ ⟨⟩
            exact .new
        · cases step
          exact before
      · cases step
    | arrive bytes =>
      unfold telemetryClientSystem telemetryClientStep at step
      dsimp only at step
      split at step
      · rename_i stream at_stream
        obtain ⟨opened, step⟩ := Option.ite_none_left_eq_some.1 step
        cases step
        exact before.listens at_stream
          ((before.listening stream at_stream).arrive (Bool.not_eq_true _ ▸ opened) bytes) rfl
      · cases step
    | hangUp =>
      unfold telemetryClientSystem telemetryClientStep at step
      dsimp only at step
      split at step
      · rename_i stream at_stream
        cases step
        exact before.listens at_stream (before.listening stream at_stream).hangUp rfl
      · cases step
    | readLine =>
      unfold telemetryClientSystem telemetryClientStep at step
      dsimp only at step
      split at step
      · rename_i stream at_stream
        exact before.readLine at_stream step
      · cases step
    | readFails =>
      unfold telemetryClientSystem telemetryClientStep at step
      dsimp only at step
      split at step
      · rename_i stream at_stream
        cases step
        exact before.leaves at_stream ((before.listening stream at_stream).failed stream.unread) rfl (.inl rfl)
      · cases step

/-- **The window receives what the endpoint said**: in any chunks and any interleaving, the messages of the streams come
to the window in their order and once. Of a stream that was read to its end they are all that the endpoint said, and so
the very messages that a server streamed; of another they are the first of it. The window never finds the thread
gone. -/
theorem telemetry_received {serde : SerdeJson} {env : Option String} {s : TelemetryClient}
    (reached : (telemetryClientSystem serde env).Reachable s) :
    s.received ++ s.queue = s.past.flatMap TelemetryStream.lines ++ s.current ∧
      (∀ stream ∈ s.past, stream.SentOn ∧ (stream.failed = false → ∀ msgs, (∀ msg ∈ msgs, IsLine msg) →
        stream.arrived = streamed msgs → stream.lines = msgs)) ∧
      (∀ stream, s.pc = .listening stream → stream.lines <+: stream.said) ∧ (s.pc = .returned → s.rx = false) ∧
      s.logs = (if s.checked then telemetryGreeting env else []) ++ s.received.flatMap (telemetryLogs serde) := by
  have forwards := telemetry_forwards reached
  refine ⟨forwards.queue, fun stream member => ⟨forwards.past stream member, ?_⟩, ?_, forwards.returned, forwards.logs⟩
  · intro whole msgs lines sent
    exact ((forwards.past stream member).2 whole).trans (said_streamed lines sent)
  · intro stream at_stream
    rw [(forwards.listening stream at_stream).said]
    exact List.prefix_append _ _

/-- A reader of one event. -/
def startedReader : SerdeJson where
  read text :=
    if text = "\x7b\"event\":\"audio_started\"\x7d" then .ok (.object [("event", .string "audio_started")])
    else .error "expected value at line 1 column 1"
  located _ msg := msg

/-- An event in two chunks, a blank line, and a message without its end. -/
def chunkedEvent : List TelemetryClientEvent :=
  [.frame, .connect false, .connect true, .arrive (Lines.utf8 "\x7b\"event\":\"audio_st"),
    .arrive (Lines.utf8 "arted\"\x7d\r\n\n8"), .readLine, .tryRecv, .readLine, .hangUp, .readLine, .readLine]

theorem telemetry_received_chunks : ∃ s,
    (telemetryClientSystem startedReader (some " 127.0.0.1:9000\n")).run .new chunkedEvent = some s ∧
      s.received = ["\x7b\"event\":\"audio_started\"\x7d"] ∧ s.queue = ["8"] ∧
      s.logs = ["telemetry: connecting to 127.0.0.1:9000", "telemetry: audio_started"] ∧
      s.received ++ s.queue = s.past.flatMap TelemetryStream.lines ++ s.current := by
  have evaluated : ((telemetryClientSystem startedReader (some " 127.0.0.1:9000\n")).run .new chunkedEvent).map
      (fun s => (s.received, s.queue, s.logs)) = some (["\x7b\"event\":\"audio_started\"\x7d"], ["8"],
        ["telemetry: connecting to 127.0.0.1:9000", "telemetry: audio_started"]) := by decide +kernel
  obtain ⟨s, run, same⟩ := Option.map_eq_some_iff.1 evaluated
  obtain ⟨received, queue, logs⟩ := Prod.mk.inj same |>.imp_right Prod.mk.inj
  exact ⟨s, run, received, queue, logs, (telemetry_received ⟨_, chunkedEvent, rfl, run⟩).1⟩

end StereoMix.Ui
