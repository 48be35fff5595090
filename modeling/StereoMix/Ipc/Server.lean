import StereoMix.Ipc.Dispatcher

/-!
# The IPC server on Unix

`run_server` and `handle_connection_unix`: an acceptor, a handler for every connection with a dispatcher of its own,
and a flag that ctrl-c sets. A handler reads lines; each is skipped, answered, or ends the connection as a
subscription, or as the first line after the flag was set. Lines are read as text without their ends. A client that
goes away, or whose reads or writes fail, ends its connection.
-/

namespace StereoMix.Ipc

open EventSystem

/-! ## One line -/

/-- What a line comes to. -/
inductive Handling where
  | skipped
  | replied (reply : Json)
  | subscribed (ack : Json)

/-- The response to a line that could not be read as a command. -/
def errorReply (e : IpcError) : Json := .object [("error", .string e.text), ("id", .null), ("ok", .bool false)]

/-- `line.trim().is_empty()`. -/
def blank (line : String) : Bool := trim line = ""

/-- A line on a connection with dispatcher `d`. -/
def handleLine (serde : SerdeJson) (d : Dispatcher) (r : Reading) (line : String) : Dispatcher × Handling :=
  if blank line then (d, .skipped)
  else
    match parseCommand serde line with
    | .ok (.subscribeTelemetry, id) => (d, .subscribed (ResponseEnvelope.success id).toJson)
    | .ok (cmd, id) => ((d.handleCommand r cmd id).1, .replied (d.handleCommand r cmd id).2.toJson)
    | .error e => (d, .replied (errorReply e))

/-! ## The server -/

/-- Where a handler is: at its loop, in the shutdown of its dispatcher before it answers, or ended. -/
inductive ConnectionPc where
  | reading
  | shuttingDown (resp : Json)
  | closed

/-- A connection. `lines` is the record of the lines that were skipped or answered, `written` of the answers, and
`last` of what was written for the line that ended it. -/
structure Connection where
  dispatcher : Dispatcher
  pc : ConnectionPc
  lines : List String
  written : List Json
  last : Option Json

def Connection.new : Connection := ⟨.new, .reading, [], [], none⟩

/-- An answered line in the record of the server. -/
structure Handled where
  line : String
  reading : Reading
  reply : Json

/-- The server; `log` is the record of the answered lines of all connections in their order. -/
structure IpcServer where
  accepting : Bool
  shutdown : Bool
  connections : List Connection
  log : List Handled

/-- What can happen: a client connects, ctrl-c is pressed, connection `c` reads a line, its dispatcher's tasks or
shutdown take a step, it answers after the shutdown, or its client is gone. -/
inductive ServerEvent where
  | accept
  | ctrlC
  | line (c : Nat) (text : String) (r : Reading)
  | inside (c : Nat) (e : DispatcherEvent)
  | answer (c : Nat)
  | gone (c : Nat)

/-- Connection `c` after a line. -/
def IpcServer.handled (s : IpcServer) (serde : SerdeJson) (c : Nat) (conn : Connection) (text : String) (r : Reading) :
    IpcServer :=
  let (dispatcher, handling) := handleLine serde conn.dispatcher r text
  match handling with
  | .skipped => { s with connections := s.connections.set c { conn with dispatcher, lines := conn.lines ++ [text] } }
  | .replied reply => { s with
      connections := s.connections.set c
        { conn with dispatcher, lines := conn.lines ++ [text], written := conn.written ++ [reply] }
      log := s.log ++ [⟨text, r, reply⟩] }
  | .subscribed ack => { s with
      connections := s.connections.set c { conn with dispatcher, pc := .closed, last := some ack } }

/-- Connection `c` reads a line, at its loop. -/
def IpcServer.read (s : IpcServer) (serde : SerdeJson) (c : Nat) (conn : Connection) (text : String) (r : Reading) :
    Option IpcServer :=
  if s.shutdown then
    let (told, resp) := conn.dispatcher.handleCommand r .shutdown "shutdown"
    (dispatcherStep told (.call (.withTimeout (some 5000)))).map fun dispatcher =>
      { s with connections := s.connections.set c { conn with dispatcher, pc := .shuttingDown resp.toJson } }
  else some (s.handled serde c conn text r)

/-- The steps of a dispatcher's own. -/
def DispatcherEvent.isOwn : DispatcherEvent → Bool
  | .task _ _ | .caller | .pass _ => true
  | .command _ _ _ | .call _ => false

def serverStep (serde : SerdeJson) (s : IpcServer) : ServerEvent → Option IpcServer
  | .accept =>
    if s.accepting then some { s with accepting := !s.shutdown, connections := s.connections ++ [.new] } else none
  | .ctrlC => some { s with shutdown := true }
  | .line c text r => s.connections[c]?.bind fun conn =>
    match conn.pc with
    | .reading => s.read serde c conn text r
    | _ => none
  | .inside c e => s.connections[c]?.bind fun conn =>
    match conn.pc with
    | .closed => none
    | _ =>
      if e.isOwn then
        (dispatcherStep conn.dispatcher e).map fun dispatcher =>
          { s with connections := s.connections.set c { conn with dispatcher } }
      else none
  | .answer c => s.connections[c]?.bind fun conn =>
    match conn.pc with
    | .shuttingDown resp =>
      if conn.dispatcher.call = none then
        some { s with connections := s.connections.set c { conn with pc := .closed, last := some resp } }
      else none
    | _ => none
  | .gone c => s.connections[c]?.map fun conn =>
    { s with connections := s.connections.set c { conn with pc := .closed } }

def serverSystem (serde : SerdeJson) : EventSystem IpcServer ServerEvent where
  init s := s = ⟨true, false, [], []⟩
  step := serverStep serde

/-! ## What one step does -/

theorem Dispatcher.state_of_own {d d' : Dispatcher} {e : DispatcherEvent} (own : e.isOwn = true)
    (step : dispatcherStep d e = some d') : d'.state = d.state := by
  cases moves_of_step step with
  | task | caller | finished | passed => rfl
  | _ => cases own

/-- The steps of a server, with what they leave. A connection that neither skips nor answers a line keeps its record
and its recording state; if it reads one, that is a subscription, or the first after the flag was set. -/
inductive IpcServer.Moves (serde : SerdeJson) (s : IpcServer) : ServerEvent → IpcServer → Prop where
  | accepted : s.Moves serde .accept { s with accepting := !s.shutdown, connections := s.connections ++ [.new] }
  | pressed : s.Moves serde .ctrlC { s with shutdown := true }
  | skipped {c : Nat} {conn : Connection} {text : String} {r : Reading} (there : s.connections[c]? = some conn)
      (empty : blank text = true) : s.Moves serde (.line c text r)
      { s with connections := s.connections.set c { conn with lines := conn.lines ++ [text] } }
  | replied {c : Nat} {conn : Connection} {text : String} {r : Reading} {dispatcher : Dispatcher} {reply : Json}
      (there : s.connections[c]? = some conn) (some_text : blank text = false) (unset : s.shutdown = false)
      (handles : handleLine serde conn.dispatcher r text = (dispatcher, .replied reply)) :
      s.Moves serde (.line c text r) { s with
        connections := s.connections.set c
          { conn with dispatcher, lines := conn.lines ++ [text], written := conn.written ++ [reply] }
        log := s.log ++ [⟨text, r, reply⟩] }
  | aside {e : ServerEvent} {c : Nat} {conn conn' : Connection} (there : s.connections[c]? = some conn)
      (lines : conn'.lines = conn.lines) (written : conn'.written = conn.written)
      (state : conn'.dispatcher.state = conn.dispatcher.state)
      (ends : ∀ c text r, e = .line c text r →
        s.shutdown = true ∨ ∃ id, parseCommand serde text = .ok (.subscribeTelemetry, id)) :
      s.Moves serde e { s with connections := s.connections.set c conn' }

/-- What a line does to its connection, in the words of `Moves`. -/
theorem IpcServer.moves_handled {serde : SerdeJson} {s : IpcServer} {c : Nat} {conn : Connection}
    (there : s.connections[c]? = some conn) (unset : s.shutdown = false) (text : String) (r : Reading) :
    s.Moves serde (.line c text r) (s.handled serde c conn text r) := by
  unfold IpcServer.handled
  cases handles : handleLine serde conn.dispatcher r text with
  | mk dispatcher handling =>
    have handled := handles
    unfold handleLine at handled
    split at handled
    · rename_i empty
      cases handled
      exact .skipped there empty
    rename_i some_text
    split at handled
    · rename_i id found
      cases handled
      refine .aside there rfl rfl rfl fun _ _ _ same => ?_
      cases same
      exact .inr ⟨id, found⟩
    all_goals
      cases handled
      exact .replied there (Bool.not_eq_true _ ▸ some_text) unset handles

theorem IpcServer.moves_of_step {serde : SerdeJson} {s t : IpcServer} {e : ServerEvent}
    (step : serverStep serde s e = some t) : s.Moves serde e t := by
  cases e with
  | accept =>
    obtain ⟨-, step⟩ := Option.ite_none_right_eq_some.1 step
    cases step
    exact .accepted
  | ctrlC =>
    cases step
    exact .pressed
  | line c text r =>
    obtain ⟨conn, there, step⟩ := Option.bind_eq_some_iff.1 step
    split at step
    · unfold IpcServer.read at step
      split at step
      · rename_i set
        obtain ⟨dispatcher, told, same⟩ := Option.map_eq_some_iff.1 step
        obtain ⟨-, told⟩ := Option.ite_none_right_eq_some.1 told
        cases told
        cases same
        exact .aside there rfl rfl rfl fun _ _ _ _ => .inl set
      · rename_i unset
        cases step
        exact moves_handled there (Bool.not_eq_true _ ▸ unset) text r
    · cases step
  | inside c e =>
    obtain ⟨conn, there, step⟩ := Option.bind_eq_some_iff.1 step
    split at step
    · cases step
    · obtain ⟨own, step⟩ := Option.ite_none_right_eq_some.1 step
      obtain ⟨dispatcher, moved, same⟩ := Option.map_eq_some_iff.1 step
      cases same
      exact .aside there rfl rfl (Dispatcher.state_of_own own moved) nofun
  | answer c =>
    obtain ⟨conn, there, step⟩ := Option.bind_eq_some_iff.1 step
    split at step
    · obtain ⟨-, step⟩ := Option.ite_none_right_eq_some.1 step
      cases step
      exact .aside there rfl rfl rfl nofun
    · cases step
  | gone c =>
    obtain ⟨conn, there, same⟩ := Option.map_eq_some_iff.1 step
    cases same
    exact .aside there rfl rfl rfl nofun

/-! ## Short runs -/

/-- The line of a command with id 1 and no payload. -/
def request (cmd : String) : String := "\x7b\"cmd\":\"" ++ cmd ++ "\",\"id\":\"1\"\x7d"

/-- A reader of such lines. -/
def requestReader (cmds : List String) : SerdeJson where
  read text :=
    match cmds.find? fun cmd => request cmd = text with
    | some cmd => .ok (.object [("cmd", .string cmd), ("id", .string "1")])
    | none => .error "expected value at line 1 column 1"
  located _ msg := msg ++ " at line 1 column 2"

/-- Connection `c` reads a command. -/
def ServerEvent.send (c : Nat) (cmd : String) : ServerEvent := .line c (request cmd) ⟨0, 0, "0.0", "0.0", "0.0"⟩

end StereoMix.Ipc
