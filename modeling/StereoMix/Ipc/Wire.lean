import StereoMix.Ipc.Correlation
import StereoMix.Lib.Lines

/-!
# The bytes of a connection

The server of `Server.lean` on its sockets. A client's bytes come in any chunks, and `next_line` makes lines of them: a
handler waits for a newline, takes what there is when the client has closed its side, and ends where a line is no UTF-8.
What a handler says is written with a newline behind it, and a write may fail halfway. How `serde_json` prints a reply
is a parameter; the stream of a telemetry subscription, which another task writes behind the ack, is not here.
-/

namespace StereoMix.Ipc

open EventSystem

/-! ## Lines -/

/-- A line of `next_line` without its end; a carriage return in front of the newline goes with it. -/
def chomp (line : String) : String :=
  match line.toList.reverse with
  | '\n' :: '\r' :: rest => String.ofList rest.reverse
  | '\n' :: rest => String.ofList rest.reverse
  | _ => line

/-- The text of a line, if its bytes are UTF-8. -/
def lineText (piece : List UInt8) : Option String := (Lines.text? piece).map chomp

/-- A socket. `arrived` is the record of what its client sent, `unread` what of it the handler has not taken, and `sent`
what the handler wrote. -/
structure Wire where
  arrived : List UInt8
  unread : List UInt8
  hungUp : Bool
  sent : List UInt8

def Wire.new : Wire := ⟨[], [], false, []⟩

/-- What `next_line` comes to: it waits, it has a line, it fails, or there is none. -/
inductive NextLine where
  | pending
  | line (text : String) (unread : List UInt8)
  | invalid (unread : List UInt8)
  | none

def Wire.nextLine (w : Wire) : NextLine :=
  match Lines.readPiece Lines.newline w.hungUp w.unread with
  | some (piece, unread) =>
    match lineText piece with
    | some text => .line text unread
    | none => .invalid unread
  | none => if w.hungUp then .none else .pending

theorem Wire.nextLine_line {w : Wire} {text : String} {unread : List UInt8} (found : w.nextLine = .line text unread) :
    ∃ piece, Lines.readPiece Lines.newline w.hungUp w.unread = some (piece, unread) ∧ lineText piece = some text := by
  unfold Wire.nextLine at found
  split at found
  · rename_i piece unread got
    split at found
    · rename_i text valid
      cases found
      exact ⟨piece, got, valid⟩
    · cases found
  · split at found <;> cases found

theorem Wire.nextLine_invalid {w : Wire} {unread : List UInt8} (found : w.nextLine = .invalid unread) :
    ∃ piece, Lines.readPiece Lines.newline w.hungUp w.unread = some (piece, unread) := by
  unfold Wire.nextLine at found
  split at found
  · rename_i piece unread got
    split at found
    · cases found
    · cases found
      exact ⟨piece, got⟩
  · split at found <;> cases found

theorem Wire.nextLine_pending {w : Wire} (found : w.nextLine = .pending) :
    Lines.readPiece Lines.newline w.hungUp w.unread = none := by
  unfold Wire.nextLine at found
  split at found
  · split at found <;> cases found
  · assumption

/-- The texts of all lines that a client sent. -/
def Wire.texts (w : Wire) : List (Option String) := (Lines.pieces Lines.newline w.hungUp w.arrived).map lineText

/-! ## The server -/

/-- All that a connection's handler has said: its answers, and its last words. -/
def Connection.said (conn : Connection) : List Json := conn.written ++ conn.last.toList

/-- Replies as they are written, each with a newline behind it. -/
def printed (print : Json → String) (replies : List Json) : List UInt8 :=
  Lines.ended Lines.newline (replies.map fun reply => Lines.utf8 (print reply))

theorem printed_append (print : Json → String) (replies replies' : List Json) :
    printed print (replies ++ replies') = printed print replies ++ printed print replies' := by
  rw [printed, List.map_append, Lines.ended_append]
  rfl

/-- The server and the sockets of its connections. -/
structure WireServer where
  server : IpcServer
  wires : List Wire

/-- What can happen: a client connects, ctrl-c is pressed, bytes of a client come, it closes its side, a handler takes
its next line, its dispatcher's tasks or shutdown take a step, it answers after the shutdown, or its socket cannot be
read. Where a handler writes, `cut` bytes are written before the write fails. -/
inductive WireEvent where
  | accept
  | ctrlC
  | arrive (c : Nat) (bytes : List UInt8)
  | hangUp (c : Nat)
  | nextLine (c : Nat) (r : Reading) (cut : Option Nat)
  | inside (c : Nat) (e : DispatcherEvent)
  | answer (c : Nat) (cut : Option Nat)
  | fails (c : Nat)

section

variable (serde : SerdeJson) (print : Json → String)

/-- The handler of connection `c` takes a step, and writes what it says in it. -/
def WireServer.writes (s : WireServer) (c : Nat) (conn : Connection) (w : Wire) (e : ServerEvent) (cut : Option Nat) :
    Option WireServer :=
  (serverStep serde s.server e).bind fun server =>
    server.connections[c]?.bind fun conn' =>
      let bytes := printed print (conn'.said.drop conn.said.length)
      match cut with
      | none => some ⟨server, s.wires.set c { w with sent := w.sent ++ bytes }⟩
      | some n =>
        if n < bytes.length then
          (serverStep serde server (.gone c)).map fun server =>
            ⟨server, s.wires.set c { w with sent := w.sent ++ bytes.take n }⟩
        else none

def wireStep (s : WireServer) : WireEvent → Option WireServer
  | .accept => (serverStep serde s.server .accept).map fun server => ⟨server, s.wires ++ [.new]⟩
  | .ctrlC => (serverStep serde s.server .ctrlC).map fun server => { s with server }
  | .arrive c bytes => s.wires[c]?.bind fun w =>
    if w.hungUp then none
    else some { s with
      wires := s.wires.set c { w with arrived := w.arrived ++ bytes, unread := w.unread ++ bytes } }
  | .hangUp c => s.wires[c]?.map fun w => { s with wires := s.wires.set c { w with hungUp := true } }
  | .nextLine c r cut => s.wires[c]?.bind fun w => s.server.connections[c]?.bind fun conn =>
    match conn.pc with
    | .reading =>
      match w.nextLine with
      | .pending => none
      | .line text unread => s.writes serde print c conn { w with unread } (.line c text r) cut
      | .invalid unread => (serverStep serde s.server (.gone c)).map fun server =>
        ⟨server, s.wires.set c { w with unread }⟩
      | .none => (serverStep serde s.server (.gone c)).map fun server => { s with server }
    | _ => none
  | .inside c e => (serverStep serde s.server (.inside c e)).map fun server => { s with server }
  | .answer c cut => s.wires[c]?.bind fun w => s.server.connections[c]?.bind fun conn =>
    s.writes serde print c conn w (.answer c) cut
  | .fails c => s.server.connections[c]?.bind fun conn =>
    match conn.pc with
    | .reading => (serverStep serde s.server (.gone c)).map fun server => { s with server }
    | _ => none

def wireSystem : EventSystem WireServer WireEvent where
  init s := s = ⟨⟨true, false, [], []⟩, []⟩
  step := wireStep serde print

end

/-! ## What a step does to its connection -/

/-- A step in which a handler says something, if anything: only its last words close it. -/
structure Connection.Speaks (serde : SerdeJson) (conn conn' : Connection) : Prop where
  said : conn.said <+: conn'.said
  unfinished : conn'.pc ≠ .closed → conn'.last = none
  answers : conn.AnswersEach (Answers serde) → conn'.AnswersEach (Answers serde)

/-- What a line does to its connection: it goes on record, or it ends the reading. -/
structure Connection.Hears (serde : SerdeJson) (conn conn' : Connection) (text : String) : Prop
    extends conn.Speaks serde conn' where
  lines : conn'.lines = conn.lines ++ [text] ∧ conn'.pc = .reading ∨ conn'.lines = conn.lines ∧ conn'.pc ≠ .reading

variable {serde : SerdeJson} {print : Json → String}

/-- A line where the flag is not set. -/
theorem Connection.hears_handled (serde : SerdeJson) (s : IpcServer) (c : Nat) {conn : Connection}
    (at_reading : conn.pc = .reading) (unfinished : conn.last = none) (text : String) (r : Reading) : ∃ conn' log,
      s.handled serde c conn text r = { s with connections := s.connections.set c conn', log } ∧
        conn.Hears serde conn' text := by
  have said : conn.said = conn.written := by rw [Connection.said, unfinished, Option.toList_none, List.append_nil]
  unfold IpcServer.handled
  cases handles : handleLine serde conn.dispatcher r text with
  | mk dispatcher handling =>
    have nothing_else := handles
    unfold handleLine at nothing_else
    cases handling with
    | skipped =>
      have empty : blank text = true := by
        split at nothing_else
        · assumption
        · split at nothing_else <;> cases nothing_else
      exact ⟨_, _, rfl, ⟨⟨List.prefix_rfl, fun _ => unfinished, fun each => each.skip empty⟩, .inl ⟨rfl, at_reading⟩⟩⟩
    | replied reply =>
      have some_text : blank text = false := by
        split at nothing_else
        · cases nothing_else
        · rename_i some_text
          exact Bool.not_eq_true _ ▸ some_text
      refine ⟨_, _, rfl, ⟨⟨?_, fun _ => unfinished, fun each => ?_⟩, .inl ⟨rfl, at_reading⟩⟩⟩
      · rw [said, Connection.said]
        exact ⟨[reply] ++ conn.last.toList, (List.append_assoc ..).symm⟩
      · exact each.reply some_text (answers_of_handleLine handles) dispatcher
    | subscribed ack =>
      refine ⟨_, _, rfl, ⟨⟨?_, fun alive => absurd rfl alive, id⟩, .inr ⟨rfl, nofun⟩⟩⟩
      rw [said]
      exact List.prefix_append _ _

theorem Connection.hears {s t : IpcServer} {c : Nat} {conn : Connection} {text : String} {r : Reading}
    (there : s.connections[c]? = some conn) (at_reading : conn.pc = .reading) (unfinished : conn.last = none)
    (step : serverStep serde s (.line c text r) = some t) : ∃ conn',
      t.connections = s.connections.set c conn' ∧ conn.Hears serde conn' text := by
  simp only [serverStep, there, Option.bind_some, at_reading] at step
  unfold IpcServer.read at step
  split at step
  · obtain ⟨dispatcher, -, same⟩ := Option.map_eq_some_iff.1 step
    cases same
    exact ⟨_, rfl, ⟨⟨List.prefix_rfl, fun _ => unfinished, id⟩, .inr ⟨rfl, nofun⟩⟩⟩
  · cases step
    obtain ⟨conn', log, same, hears⟩ := hears_handled serde s c at_reading unfinished text r
    exact ⟨conn', by rw [same], hears⟩

theorem Connection.speaks_answer {s t : IpcServer} {c : Nat} {conn : Connection}
    (there : s.connections[c]? = some conn) (step : serverStep serde s (.answer c) = some t) : conn.pc ≠ .closed ∧
      ∃ conn', t.connections = s.connections.set c conn' ∧ conn'.lines = conn.lines ∧ conn'.pc = .closed ∧
        (conn.last = none → conn.Speaks serde conn') := by
  simp only [serverStep, there, Option.bind_some] at step
  split at step
  · rename_i resp at_answer
    obtain ⟨-, step⟩ := Option.ite_none_right_eq_some.1 step
    cases step
    refine ⟨by rw [at_answer]; nofun, _, rfl, rfl, rfl, fun unfinished => ⟨?_, fun alive => absurd rfl alive, id⟩⟩
    rw [Connection.said, unfinished, Option.toList_none, List.append_nil]
    exact List.prefix_append _ _
  · cases step

theorem Connection.inside {s t : IpcServer} {c : Nat} {e : DispatcherEvent}
    (step : serverStep serde s (.inside c e) = some t) : ∃ conn dispatcher, s.connections[c]? = some conn ∧
      t.connections = s.connections.set c { conn with dispatcher } := by
  obtain ⟨conn, there, step⟩ := Option.bind_eq_some_iff.1 step
  split at step
  · cases step
  · obtain ⟨-, step⟩ := Option.ite_none_right_eq_some.1 step
    obtain ⟨dispatcher, -, same⟩ := Option.map_eq_some_iff.1 step
    cases same
    exact ⟨conn, dispatcher, there, rfl⟩

theorem Connection.gone {s t : IpcServer} {c : Nat} (step : serverStep serde s (.gone c) = some t) :
    ∃ conn, s.connections[c]? = some conn ∧ t.connections = s.connections.set c { conn with pc := .closed } := by
  obtain ⟨conn, there, same⟩ := Option.map_eq_some_iff.1 step
  cases same
  exact ⟨conn, there, rfl⟩

/-! ## A connection and its socket -/

variable (serde print) in
/-- What a handler has taken of its socket and written to it: lines on record from the first on, all of them while it
reads, and what it said from the first byte on, all of it while it is not closed. -/
structure Connection.Carries (conn : Connection) (w : Wire) : Prop where
  reads : ∃ read, Lines.Reads Lines.newline w.hungUp w.arrived read w.unread ∧
    conn.lines.map some <+: read.map lineText ∧ (conn.pc = .reading → conn.lines.map some = read.map lineText)
  sent : w.sent <+: printed print conn.said
  open_end : conn.pc ≠ .closed → w.sent = printed print conn.said ∧ conn.last = none
  answers : conn.AnswersEach (Answers serde)

namespace Connection.Carries

variable {conn conn' : Connection} {w : Wire}

theorem new : Connection.new.Carries serde print .new :=
  ⟨⟨[], .start _ _, List.prefix_rfl, fun _ => rfl⟩, List.prefix_rfl, fun _ => ⟨rfl, rfl⟩, .nil⟩

theorem arrive (carries : conn.Carries serde print w) (opened : w.hungUp = false) (bytes : List UInt8) :
    conn.Carries serde print { w with arrived := w.arrived ++ bytes, unread := w.unread ++ bytes } := by
  obtain ⟨⟨read, reads, lines⟩, sent, open_end, answers⟩ := carries
  rw [opened] at reads
  exact ⟨⟨read, opened ▸ reads.arrive bytes, lines⟩, sent, open_end, answers⟩

theorem hangUp (carries : conn.Carries serde print w) : conn.Carries serde print { w with hungUp := true } := by
  obtain ⟨⟨read, reads, lines⟩, sent, open_end, answers⟩ := carries
  exact ⟨⟨read, reads.close, lines⟩, sent, open_end, answers⟩

theorem inside (carries : conn.Carries serde print w) (dispatcher : Dispatcher) :
    { conn with dispatcher }.Carries serde print w :=
  ⟨carries.reads, carries.sent, carries.open_end, carries.answers⟩

/-- A handler that ends may have taken a line that is not on record. -/
theorem close (carries : conn.Carries serde print w) : { conn with pc := .closed }.Carries serde print w := by
  obtain ⟨⟨read, reads, front, -⟩, sent, -, answers⟩ := carries
  exact ⟨⟨read, reads, front, nofun⟩, sent, fun alive => absurd rfl alive, answers⟩

theorem invalid (carries : conn.Carries serde print w) {piece unread : List UInt8}
    (got : Lines.readPiece Lines.newline w.hungUp w.unread = some (piece, unread)) :
    { conn with pc := .closed }.Carries serde print { w with unread } := by
  obtain ⟨⟨read, reads, front, -⟩, sent, -, answers⟩ := carries
  refine ⟨⟨_, reads.next got, ?_, nofun⟩, sent, fun alive => absurd rfl alive, answers⟩
  rw [List.map_append]
  exact front.trans (List.prefix_append _ _)

/-- What is written of what a handler says. -/
theorem speaks (carries : conn.Carries serde print w) (alive : conn.pc ≠ .closed) (speaks : conn.Speaks serde conn')
    {read : List (List UInt8)} {unread : List UInt8} (reads : Lines.Reads Lines.newline w.hungUp w.arrived read unread)
    (front : conn'.lines.map some <+: read.map lineText)
    (whole : conn'.pc = .reading → conn'.lines.map some = read.map lineText) : conn'.Carries serde print { w with
      unread, sent := w.sent ++ printed print (conn'.said.drop conn.said.length) } := by
  obtain ⟨all, -⟩ := carries.open_end alive
  obtain ⟨new, said⟩ := speaks.said
  have sent : w.sent ++ printed print (conn'.said.drop conn.said.length) =
      printed print conn'.said := by
    rw [all, ← said, List.drop_left, printed_append]
  exact ⟨⟨read, reads, front, whole⟩, sent ▸ List.prefix_rfl, fun open_end => ⟨sent, speaks.unfinished open_end⟩,
    speaks.answers carries.answers⟩

/-- A write that fails ends the handler. -/
theorem cut {bytes : List UInt8} (carries : conn.Carries serde print { w with sent := w.sent ++ bytes }) (n : Nat) :
    { conn with pc := .closed }.Carries serde print { w with sent := w.sent ++ bytes.take n } := by
  obtain ⟨⟨read, reads, front, -⟩, sent, -, answers⟩ := carries
  refine ⟨⟨read, reads, front, nofun⟩, List.IsPrefix.trans ?_ sent, fun alive => absurd rfl alive, answers⟩
  exact (List.prefix_append_right_inj _).2 (List.take_prefix n bytes)

end Connection.Carries

/-! ## The server and its sockets -/

section

variable {α β : Type} {R : α → β → Prop} {as : List α} {bs : List β}

theorem forall₂_set (all : List.Forall₂ R as bs) {a : α} {b : β} (here : R a b) (n : Nat) :
    List.Forall₂ R (as.set n a) (bs.set n b) := by
  induction all generalizing n with
  | nil => exact .nil
  | cons first rest ih =>
    cases n with
    | zero => exact .cons here rest
    | succ n => exact .cons first (ih n)

theorem exists_forall₂ (all : List.Forall₂ R as bs) {n : Nat} {b : β} (there : bs[n]? = some b) :
    ∃ a, as[n]? = some a := by
  obtain ⟨inside, -⟩ := List.getElem?_eq_some_iff.1 there
  exact ⟨_, List.getElem?_eq_getElem (all.length_eq ▸ inside)⟩

theorem forall₂_getElem? (all : List.Forall₂ R as bs) {n : Nat} {a : α} {b : β} (left : as[n]? = some a)
    (right : bs[n]? = some b) : R a b := by
  obtain ⟨inside, rfl⟩ := List.getElem?_eq_some_iff.1 left
  obtain ⟨inside', rfl⟩ := List.getElem?_eq_some_iff.1 right
  exact all.get inside inside'

theorem set_of_getElem? {n : Nat} {a : α} (there : as[n]? = some a) : as.set n a = as := by
  obtain ⟨inside, rfl⟩ := List.getElem?_eq_some_iff.1 there
  exact List.set_getElem_self inside

end

variable (serde print) in
/-- Every connection has its socket. -/
def WireServer.Carries (s : WireServer) : Prop :=
  List.Forall₂ (Connection.Carries serde print) s.server.connections s.wires

namespace WireServer.Carries

variable {s t : WireServer} {c : Nat} {conn : Connection} {w : Wire}

/-- What a handler says in a step of its own, written whole or in part. -/
theorem writes (before : s.Carries serde print) (there : s.server.connections[c]? = some conn)
    {e : ServerEvent} {cut : Option Nat} (after : ∀ server, serverStep serde s.server e = some server → ∃ conn',
      server.connections = s.server.connections.set c conn' ∧ conn'.Carries serde print { w with
        sent := w.sent ++ printed print (conn'.said.drop conn.said.length) })
    (step : s.writes serde print c conn w e cut = some t) : t.Carries serde print := by
  obtain ⟨server, step, rest⟩ := Option.bind_eq_some_iff.1 step
  obtain ⟨found, there', rest⟩ := Option.bind_eq_some_iff.1 rest
  obtain ⟨conn', same, carries⟩ := after server step
  obtain ⟨inside, -⟩ := List.getElem?_eq_some_iff.1 there
  rw [same, List.getElem?_set_self inside] at there'
  cases there'
  cases cut with
  | none =>
    cases rest
    change List.Forall₂ _ server.connections _
    rw [same]
    exact forall₂_set before carries c
  | some n =>
    obtain ⟨-, rest⟩ := Option.ite_none_right_eq_some.1 rest
    obtain ⟨closed, gone, same'⟩ := Option.map_eq_some_iff.1 rest
    cases same'
    obtain ⟨found, there', same'⟩ := Connection.gone gone
    rw [same, List.getElem?_set_self inside] at there'
    cases there'
    change List.Forall₂ _ closed.connections _
    rw [same', same, List.set_set]
    exact forall₂_set before (carries.cut n) c

/-- A handler that goes away, and what is made of its socket. -/
theorem gone (before : s.Carries serde print) {server : IpcServer} {w' : Wire}
    (after : ∀ conn : Connection, conn.Carries serde print w →
      { conn with pc := .closed }.Carries serde print w')
    (wire : s.wires[c]? = some w) (step : serverStep serde s.server (.gone c) = some server) :
    WireServer.Carries serde print ⟨server, s.wires.set c w'⟩ := by
  obtain ⟨conn, there, same⟩ := Connection.gone step
  change List.Forall₂ _ server.connections _
  rw [same]
  exact forall₂_set before (after conn (forall₂_getElem? before there wire)) c

/-- What a step of the server does to a connection and not to its socket. -/
theorem aside (before : s.Carries serde print) {server : IpcServer} {conn' : Connection}
    (there : s.server.connections[c]? = some conn) (same : server.connections = s.server.connections.set c conn')
    (after : ∀ w, conn.Carries serde print w → conn'.Carries serde print w) :
    WireServer.Carries serde print { s with server } := by
  obtain ⟨w, wire⟩ := exists_forall₂ before.flip there
  have set := forall₂_set before (after w (forall₂_getElem? before there wire)) c
  rw [set_of_getElem? wire, ← same] at set
  exact set

theorem goes (before : s.Carries serde print) {server : IpcServer}
    (step : serverStep serde s.server (.gone c) = some server) : WireServer.Carries serde print { s with server } := by
  obtain ⟨conn, there, same⟩ := Connection.gone step
  exact before.aside there same fun w carries => carries.close

/-- What a client does to its socket. -/
theorem socket (before : s.Carries serde print) {w' : Wire}
    (after : ∀ conn : Connection, conn.Carries serde print w → conn.Carries serde print w')
    (wire : s.wires[c]? = some w) :
    WireServer.Carries serde print { s with wires := s.wires.set c w' } := by
  obtain ⟨conn, there⟩ := exists_forall₂ before wire
  have set := forall₂_set before (after conn (forall₂_getElem? before there wire)) c
  rwa [set_of_getElem? there] at set

/-- A line of a handler that reads, if it is one. -/
theorem nextLine {r : Reading} {cut : Option Nat} (before : s.Carries serde print)
    (step : wireStep serde print s (.nextLine c r cut) = some t) : t.Carries serde print := by
  obtain ⟨w, wire, step⟩ := Option.bind_eq_some_iff.1 step
  obtain ⟨conn, there, step⟩ := Option.bind_eq_some_iff.1 step
  have carries := forall₂_getElem? before there wire
  split at step
  · rename_i at_reading
    have alive : conn.pc ≠ .closed := by rw [at_reading]; nofun
    split at step
    · cases step
    · rename_i text unread found
      obtain ⟨piece, got, valid⟩ := Wire.nextLine_line found
      obtain ⟨-, unfinished⟩ := carries.open_end alive
      refine before.writes there ?_ step
      intro server step
      obtain ⟨conn', same, hears⟩ := Connection.hears there at_reading unfinished step
      obtain ⟨read, reads, -, whole⟩ := carries.reads
      have on_record : conn'.lines.map some <+: (read ++ [piece]).map lineText ∧
          (conn'.pc = .reading → conn'.lines.map some = (read ++ [piece]).map lineText) := by
        rw [List.map_append, ← whole at_reading, List.map_singleton, valid]
        rcases hears.lines with ⟨lines, -⟩ | ⟨lines, ended⟩
        · rw [lines, List.map_append]
          exact ⟨List.prefix_rfl, fun _ => rfl⟩
        · rw [lines]
          exact ⟨List.prefix_append _ _, fun again => absurd again ended⟩
      exact ⟨conn', same, carries.speaks alive hears.toSpeaks (reads.next got) on_record.1 on_record.2⟩
    · rename_i unread found
      obtain ⟨piece, got⟩ := Wire.nextLine_invalid found
      obtain ⟨server, gone, same⟩ := Option.map_eq_some_iff.1 step
      cases same
      exact before.gone (fun conn carries => carries.invalid got) wire gone
    · obtain ⟨server, gone, same⟩ := Option.map_eq_some_iff.1 step
      cases same
      exact before.goes gone
  · cases step

/-- The farewell of a handler. -/
theorem answer {cut : Option Nat} (before : s.Carries serde print)
    (step : wireStep serde print s (.answer c cut) = some t) : t.Carries serde print := by
  obtain ⟨w, wire, step⟩ := Option.bind_eq_some_iff.1 step
  obtain ⟨conn, there, step⟩ := Option.bind_eq_some_iff.1 step
  have carries := forall₂_getElem? before there wire
  refine before.writes there ?_ step
  intro server step
  obtain ⟨alive, conn', same, lines, closed, speaks⟩ := Connection.speaks_answer there step
  obtain ⟨-, unfinished⟩ := carries.open_end alive
  obtain ⟨read, reads, front, -⟩ := carries.reads
  refine ⟨conn', same, carries.speaks alive (speaks unfinished) reads (lines ▸ front) fun again => ?_⟩
  rw [closed] at again
  cases again

end WireServer.Carries

/-- Every connection has taken and written what it should, at every moment. -/
theorem wire_carries {s : WireServer} (reached : (wireSystem serde print).Reachable s) : s.Carries serde print := by
  apply invariant (S := wireSystem serde print) (I := fun s => s.Carries serde print) _ _ reached
  · rintro s rfl
    exact .nil
  · intro s e t before step
    cases e with
    | accept =>
      obtain ⟨server, accepts, same⟩ := Option.map_eq_some_iff.1 step
      cases same
      obtain ⟨-, accepts⟩ := Option.ite_none_right_eq_some.1 accepts
      cases accepts
      exact List.rel_append before (.cons .new .nil)
    | ctrlC =>
      cases step
      exact before
    | arrive c bytes =>
      obtain ⟨w, wire, step⟩ := Option.bind_eq_some_iff.1 step
      obtain ⟨opened, step⟩ := Option.ite_none_left_eq_some.1 step
      cases step
      exact before.socket (fun conn carries => carries.arrive (Bool.not_eq_true _ ▸ opened) bytes) wire
    | hangUp c =>
      obtain ⟨w, wire, same⟩ := Option.map_eq_some_iff.1 step
      cases same
      exact before.socket (fun conn carries => carries.hangUp) wire
    | nextLine c r cut => exact before.nextLine step
    | inside c e =>
      obtain ⟨server, inside, same⟩ := Option.map_eq_some_iff.1 step
      cases same
      obtain ⟨conn, dispatcher, there, same⟩ := Connection.inside inside
      exact before.aside there same fun w carries => carries.inside dispatcher
    | answer c cut => exact before.answer step
    | fails c =>
      obtain ⟨conn, there, step⟩ := Option.bind_eq_some_iff.1 step
      split at step
      · obtain ⟨server, gone, same⟩ := Option.map_eq_some_iff.1 step
        cases same
        exact before.goes gone
      · cases step

/-- The server under its sockets runs as it does under lines. -/
theorem wire_runs_server {s : WireServer} (reached : (wireSystem serde print).Reachable s) :
    (serverSystem serde).Reachable s.server := by
  apply invariant (S := wireSystem serde print) (I := fun s => (serverSystem serde).Reachable s.server) _ _ reached
  · rintro s rfl
    exact ⟨_, [], rfl, rfl⟩
  · intro s e t before step
    have onwards {server server' : IpcServer} {e : ServerEvent} (before : (serverSystem serde).Reachable server)
        (step : serverStep serde server e = some server') : (serverSystem serde).Reachable server' := before.step step
    have writes {c : Nat} {conn : Connection} {w : Wire} {e : ServerEvent} {cut : Option Nat}
        (step : s.writes serde print c conn w e cut = some t) : (serverSystem serde).Reachable t.server := by
      obtain ⟨server, speaks, rest⟩ := Option.bind_eq_some_iff.1 step
      obtain ⟨conn', -, rest⟩ := Option.bind_eq_some_iff.1 rest
      have spoken : (serverSystem serde).Reachable server := onwards before speaks
      cases cut with
      | none =>
        cases rest
        exact spoken
      | some n =>
        obtain ⟨-, rest⟩ := Option.ite_none_right_eq_some.1 rest
        obtain ⟨closed, gone, same⟩ := Option.map_eq_some_iff.1 rest
        cases same
        exact onwards spoken gone
    cases e with
    | accept | inside =>
      obtain ⟨server, moves, same⟩ := Option.map_eq_some_iff.1 step
      cases same
      exact onwards before moves
    | ctrlC =>
      cases step
      exact onwards (e := .ctrlC) before rfl
    | arrive c bytes =>
      obtain ⟨w, wire, step⟩ := Option.bind_eq_some_iff.1 step
      obtain ⟨-, step⟩ := Option.ite_none_left_eq_some.1 step
      cases step
      exact before
    | hangUp c =>
      obtain ⟨w, wire, same⟩ := Option.map_eq_some_iff.1 step
      cases same
      exact before
    | nextLine c r cut =>
      obtain ⟨w, wire, step⟩ := Option.bind_eq_some_iff.1 step
      obtain ⟨conn, there, step⟩ := Option.bind_eq_some_iff.1 step
      split at step
      · split at step
        · cases step
        · exact writes step
        all_goals
          obtain ⟨server, gone, same⟩ := Option.map_eq_some_iff.1 step
          cases same
          exact onwards before gone
      · cases step
    | answer c cut =>
      obtain ⟨w, wire, step⟩ := Option.bind_eq_some_iff.1 step
      obtain ⟨conn, there, step⟩ := Option.bind_eq_some_iff.1 step
      exact writes step
    | fails c =>
      obtain ⟨conn, there, step⟩ := Option.bind_eq_some_iff.1 step
      split at step
      · obtain ⟨server, gone, same⟩ := Option.map_eq_some_iff.1 step
        cases same
        exact onwards before gone
      · cases step

/-! ## What a client reads back -/

/-- The texts of the complete lines that a client gets. -/
def Wire.replies (w : Wire) : List (Option String) := (Lines.cut Lines.newline w.sent).1.map Lines.text?

theorem clean_printed (clean : ∀ reply, '\n' ∉ (print reply).toList) (replies : List Json) :
    ∀ line ∈ replies.map fun reply => Lines.utf8 (print reply), Lines.newline ∉ line :=
  List.forall_mem_map.2 fun reply _ => Lines.newline_not_mem_utf8 (clean reply)

theorem text?_printed (print : Json → String) (replies : List Json) :
    (replies.map fun reply => Lines.utf8 (print reply)).map Lines.text? =
      replies.map fun reply => some (print reply) := by
  rw [List.map_map]
  exact List.map_congr_left fun reply _ => Lines.text?_utf8 _

/-- **A client is answered line by line**: whatever bytes it sends, in whatever chunks, and whatever the other clients,
the recordings and ctrl-c do, the lines on record are the first of its bytes, those that are not blank have one answer
each, and the lines it gets are the first of what was said. A handler that waits for a line has answered all there
are. -/
theorem wire_answered (clean : ∀ reply, '\n' ∉ (print reply).toList) {s : WireServer}
    (reached : (wireSystem serde print).Reachable s) {c : Nat} {conn : Connection} {w : Wire}
    (there : s.server.connections[c]? = some conn) (wire : s.wires[c]? = some w) :
    conn.lines.map some <+: w.texts ∧ conn.AnswersEach (Answers serde) ∧
      (w.replies <+: conn.said.map fun reply => some (print reply)) ∧
      (conn.pc = .reading → w.nextLine = .pending →
        conn.lines.map some = w.texts ∧ w.replies = conn.written.map fun reply => some (print reply)) := by
  obtain ⟨⟨read, reads, front, whole⟩, sent, open_end, answers⟩ := forall₂_getElem? (wire_carries reached) there wire
  have texts : w.texts = read.map lineText ++ (Lines.pieces Lines.newline w.hungUp w.unread).map lineText := by
    rw [Wire.texts, reads.all, List.map_append]
  refine ⟨?_, answers, ?_, ?_⟩
  · rw [texts]
    exact front.trans (List.prefix_append _ _)
  · rw [Wire.replies, ← text?_printed print]
    exact (Lines.cut_of_prefix (clean_printed clean _) sent).map _
  · intro at_reading pending
    obtain ⟨all, unfinished⟩ := open_end (by rw [at_reading]; nofun)
    rw [texts, Lines.pieces_of_read_none (Wire.nextLine_pending pending), List.map_nil, List.append_nil]
    refine ⟨whole at_reading, ?_⟩
    rw [Wire.replies, all, printed, Lines.cut_of_ended (clean_printed clean _), text?_printed print, Connection.said,
      unfinished, Option.toList_none, List.append_nil]

/-- A printer of one refusal. -/
def refusalPrinter : Json → String
  | .object [("id", .string "1"), ("ok", .bool false), ("error", .string "not_recording")] =>
    "\x7b\"id\":\"1\",\"ok\":false,\"error\":\"not_recording\"\x7d"
  | _ => ""

theorem newline_not_mem_refusalPrinter (reply : Json) : '\n' ∉ (refusalPrinter reply).toList := by
  unfold refusalPrinter
  split
  · decide
  · nofun

/-- Two clients; the command of the first comes in two chunks, and its answer is written in part. -/
def chunkedCommand : List WireEvent :=
  [.accept, .accept, .arrive 0 (Lines.utf8 "\n\x7b\"cmd\":\"pause_recor"),
    .nextLine 0 ⟨0, 0, "0.0", "0.0", "0.0"⟩ none, .arrive 1 (Lines.utf8 (request "pause_recording")),
    .arrive 0 (Lines.utf8 "ding\",\"id\":\"1\"\x7d\r\n"), .hangUp 1,
    .nextLine 1 ⟨0, 0, "0.0", "0.0", "0.0"⟩ none, .nextLine 0 ⟨0, 0, "0.0", "0.0", "0.0"⟩ (some 7)]

theorem wire_answered_chunks : ∃ s conn w,
    (wireSystem (requestReader COMMANDS) refusalPrinter).run ⟨⟨true, false, [], []⟩, []⟩ chunkedCommand = some s ∧
      s.server.connections[1]? = some conn ∧ s.wires[1]? = some w ∧ w.replies.length = 1 ∧
      conn.lines.map some <+: w.texts ∧ conn.AnswersEach (Answers (requestReader COMMANDS)) ∧
      (w.replies <+: conn.said.map fun reply => some (refusalPrinter reply)) ∧
      (conn.pc = .reading → w.nextLine = .pending →
        conn.lines.map some = w.texts ∧ w.replies = conn.written.map fun reply => some (refusalPrinter reply)) := by
  have evaluated : (((wireSystem (requestReader COMMANDS) refusalPrinter).run ⟨⟨true, false, [], []⟩, []⟩
      chunkedCommand).bind fun s => s.server.connections[1]?.bind fun conn => s.wires[1]?.map fun w =>
        w.replies.length) = some 1 := by decide +kernel
  obtain ⟨s, run, found⟩ := Option.bind_eq_some_iff.1 evaluated
  obtain ⟨conn, there, found⟩ := Option.bind_eq_some_iff.1 found
  obtain ⟨w, wire, one⟩ := Option.map_eq_some_iff.1 found
  exact ⟨s, conn, w, run, there, wire, one,
    wire_answered newline_not_mem_refusalPrinter ⟨_, chunkedCommand, rfl, run⟩ there wire⟩

end StereoMix.Ipc
