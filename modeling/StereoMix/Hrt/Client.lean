import StereoMix.Hrt.Actions
import StereoMix.Lib.Broadcast
import StereoMix.Lib.EventSystem

/-!
# The HRT client

`hrt_connection_loop` with its sessions, the tasks that a session spawns, and a bridge on the client's inbound channel.
The answers of `connect_to_hrt`, of the connection's reads and writes and of the timers are the environment's. The loop
and the bridge each have a receiver of the shutdown channel, whose sender the app's state keeps; it is polled at the
loop's head, in the session and in the wait before reconnecting.
-/

namespace StereoMix.Hrt

open EventSystem Broadcast
open Ipc (SerdeJson)

/-! ## The state -/

/-- Recording session state machine. -/
inductive RecordingState where
  | idle
  | recording
  | paused
  | stopping
  | error
  deriving DecidableEq, Repr

def RecordingState.text : RecordingState → String
  | .idle => "idle"
  | .recording => "recording"
  | .paused => "paused"
  | .stopping => "stopping"
  | .error => "error"

def HRT_AGENT_ID : String := "bsm"
def BSM_VERSION : String := "0.1.3"

def registerMsg : Json := .object [
  ("msg", .string "register"),
  ("agent_id", .string HRT_AGENT_ID),
  ("version", .string BSM_VERSION),
  ("capabilities", .array [.string "audio_record", .string "audio_encode"])]

def heartbeatMsg (state : RecordingState) (uptimeMs tsMs : Nat) : Json := .object [
  ("msg", .string "heartbeat"),
  ("agent_id", .string HRT_AGENT_ID),
  ("state", .string state.text),
  ("uptime_ms", .number (.posInt uptimeMs)),
  ("ts_ms", .number (.posInt tsMs))]

/-- Where the connection loop is: at its head, connecting, registering, in a session, waiting to reconnect, or left. -/
inductive LoopPc where
  | head
  | connecting
  | registering
  | session
  | waiting
  | left
  deriving DecidableEq, Repr

abbrev ShutdownReceiver : Type := Receiver Unit 8

/-- A bridge that runs. -/
structure Bridge where
  inboundRx : Receiver HrtInboundMsg 64
  shutdownRx : ShutdownReceiver

/-- By what a message reached `handle_inbound_message`. -/
inductive Route where
  | task
  | bridge
  deriving DecidableEq, Repr

/-- The client. `shutdowns` counts the signals that were sent, `attempts` the calls of `connect_to_hrt`, and `consumed`
is how many of these there were when the loop first received a signal. `outbound` is the record of what was written,
`lines` of the lines that were read, `handled` of the calls of `handle_inbound_message`. `tasks` are spawned and have
not run. -/
structure HrtClient where
  pc : LoopPc
  shutdownRx : ShutdownReceiver
  shutdowns : Nat
  attempts : Nat
  consumed : Option Nat
  outbound : List Json
  lines : List String
  tasks : List HrtInboundMsg
  bridge : Option Bridge
  handled : List (Route × HrtInboundMsg)
  telemetry : List HrtTelemetry

/-- A client that was just started, with its bridge. -/
def HrtClient.started : HrtClient where
  pc := .head
  shutdownRx := .subscribe
  shutdowns := 0
  attempts := 0
  consumed := none
  outbound := []
  lines := []
  tasks := []
  bridge := some ⟨.subscribe, .subscribe⟩
  handled := []
  telemetry := []

/-! ## Steps -/

namespace HrtClient

/-- `initiate_shutdown`: every receiver is sent the signal. -/
def initiateShutdown (s : HrtClient) : HrtClient :=
  { s with
    shutdownRx := s.shutdownRx.sent ()
    shutdowns := s.shutdowns + 1
    bridge := s.bridge.map fun b => { b with shutdownRx := b.shutdownRx.sent () } }

def perform (s : HrtClient) : HrtEffect → HrtClient
  | .emit event => { s with telemetry := s.telemetry ++ [event] }
  | .initiateShutdown => s.initiateShutdown

/-- `handle_inbound_message` is run. -/
def handle (s : HrtClient) (route : Route) (m : HrtInboundMsg) : HrtClient :=
  (handleInboundMessage m).foldl perform { s with handled := s.handled ++ [(route, m)] }

/-- The loop has received a signal. -/
def consume (s : HrtClient) (shutdownRx : ShutdownReceiver) : HrtClient :=
  { s with shutdownRx, consumed := s.consumed.or (some s.attempts) }

/-- A line of a session: a message is sent to the bridge, and a task is spawned for it. -/
def inbound (s : HrtClient) (serde : SerdeJson) (text : String) : HrtClient :=
  let read := { s with lines := s.lines ++ [text] }
  match HrtInboundMsg.parse serde text with
  | .ok m => { read with
      tasks := s.tasks ++ [m]
      bridge := s.bridge.map fun b => { b with inboundRx := b.inboundRx.sent m } }
  | .error _ => read

end HrtClient

/-- What can happen: someone initiates a shutdown; the loop's steps, where `told` is a receive of the shutdown signal in
the session or the wait; a spawned task runs; the bridge's steps. -/
inductive HrtEvent where
  | shutdown
  | tryRecv
  | connected (ok : Bool)
  | registered
  | told
  | tick (state : RecordingState) (uptimeMs tsMs : Nat) (written : Bool)
  | line (text : String)
  | hungUp
  | slept
  | task (i : Nat)
  | bridgeRecv
  | bridgeTold
  | bridgeClosed

/-- The steps of the connection loop. -/
def HrtEvent.isLoop : HrtEvent → Bool
  | .tryRecv | .connected _ | .registered | .told | .tick _ _ _ _ | .line _ | .hungUp | .slept => true
  | .shutdown | .task _ | .bridgeRecv | .bridgeTold | .bridgeClosed => false

def hrtStep (serde : SerdeJson) (s : HrtClient) : HrtEvent → Option HrtClient
  | .shutdown => some s.initiateShutdown
  | .tryRecv =>
    if s.pc = .head then
      match s.shutdownRx.recv with
      | some (.ok (), rx) => some { s.consume rx with pc := .left }
      | some (.error _, rx) => some { s with shutdownRx := rx, pc := .connecting, attempts := s.attempts + 1 }
      | none => some { s with pc := .connecting, attempts := s.attempts + 1 }
    else none
  | .connected ok =>
    if s.pc = .connecting then some { s with pc := if ok then .registering else .waiting } else none
  | .registered =>
    -- An error of the write is ignored.
    if s.pc = .registering then some { s with pc := .session, outbound := s.outbound ++ [registerMsg] } else none
  | .told =>
    match s.pc, s.shutdownRx.recv with
    | .session, some (.ok (), rx) => some { s.consume rx with pc := .waiting }
    | .session, some (.error _, rx) => some { s with shutdownRx := rx, pc := .waiting }
    | .waiting, some (.ok (), rx) => some { s.consume rx with pc := .left }
    | .waiting, some (.error _, rx) => some { s with shutdownRx := rx, pc := .left }
    | _, _ => none
  | .tick state uptimeMs tsMs written =>
    if s.pc = .session then
      some { s with
        pc := if written then .session else .waiting
        outbound := if written then s.outbound ++ [heartbeatMsg state uptimeMs tsMs] else s.outbound }
    else none
  | .line text => if s.pc = .session then some (s.inbound serde text) else none
  | .hungUp => if s.pc = .session then some { s with pc := .waiting } else none
  | .slept => if s.pc = .waiting then some { s with pc := .head } else none
  | .task i => s.tasks[i]?.map fun m => { s with tasks := s.tasks.eraseIdx i }.handle .task m
  | .bridgeRecv => s.bridge.bind fun b =>
    match b.inboundRx.recv with
    | some (.ok m, rx) => some ({ s with bridge := some { b with inboundRx := rx } }.handle .bridge m)
    | some (.error _, rx) => some { s with bridge := some { b with inboundRx := rx } }
    | none => none
  | .bridgeTold => s.bridge.bind fun b => b.shutdownRx.recv.map fun _ => { s with bridge := none }
  | .bridgeClosed => s.bridge.bind fun b =>
    if s.pc = .left ∧ b.inboundRx.outstanding = [] then some { s with bridge := none } else none

def hrtSystem (serde : SerdeJson) : EventSystem HrtClient HrtEvent where
  init s := s = .started
  step := hrtStep serde

/-! ## What an action changes -/

namespace HrtClient

/-- The action of a message changes the telemetry and sends signals. -/
structure Acts (s t : HrtClient) : Prop where
  pc : t.pc = s.pc
  attempts : t.attempts = s.attempts
  consumed : t.consumed = s.consumed
  lines : t.lines = s.lines
  passed : t.shutdownRx.passed = s.shutdownRx.passed
  shutdowns : s.shutdowns ≤ t.shutdowns
  counted : s.shutdownRx.since.length = s.shutdowns → t.shutdownRx.since.length = t.shutdowns

variable {s t u : HrtClient}

/-- A line leaves the loop and its signals alone. -/
theorem inbound_eq (s : HrtClient) (serde : SerdeJson) (text : String) :
    ∃ lines tasks bridge, s.inbound serde text = { s with lines, tasks, bridge } := by
  unfold inbound
  dsimp only
  split
  · exact ⟨_, _, _, rfl⟩
  · exact ⟨_, _, s.bridge, rfl⟩

theorem acts_initiateShutdown : s.Acts s.initiateShutdown where
  pc := rfl
  attempts := rfl
  consumed := rfl
  lines := rfl
  passed := rfl
  shutdowns := Nat.le_add_right _ 1
  counted counted := List.length_append.trans (congrArg (· + 1) counted)

theorem Acts.trans (first : s.Acts t) (second : t.Acts u) : s.Acts u where
  pc := second.pc.trans first.pc
  attempts := second.attempts.trans first.attempts
  consumed := second.consumed.trans first.consumed
  lines := second.lines.trans first.lines
  passed := second.passed.trans first.passed
  shutdowns := first.shutdowns.trans second.shutdowns
  counted := second.counted ∘ first.counted

theorem acts_foldl (effects : List HrtEffect) : s.Acts (effects.foldl perform s) ∧
    (effects.foldl perform s).tasks = s.tasks ∧ (effects.foldl perform s).handled = s.handled := by
  induction effects generalizing s with
  | nil => exact ⟨⟨rfl, rfl, rfl, rfl, rfl, Nat.le_refl _, id⟩, rfl, rfl⟩
  | cons effect rest ih =>
    obtain ⟨later, tasks, handled⟩ := ih (s := s.perform effect)
    cases effect with
    | emit event => exact ⟨⟨later.pc, later.attempts, later.consumed, later.lines, later.passed, later.shutdowns,
        later.counted⟩, tasks, handled⟩
    | initiateShutdown => exact ⟨acts_initiateShutdown.trans later, tasks, handled⟩

/-- A run of `handle_inbound_message`, with what it leaves; its caller may have changed the tasks and the bridge. -/
structure Handles (s : HrtClient) (route : Route) (m : HrtInboundMsg) (tasks : List HrtInboundMsg) (t : HrtClient) :
    Prop where
  acts : s.Acts t
  tasks : t.tasks = tasks
  handled : t.handled = s.handled ++ [(route, m)]

theorem handles (route : Route) (m : HrtInboundMsg) (tasks : List HrtInboundMsg) (bridge : Option Bridge) :
    s.Handles route m tasks ({ s with tasks, bridge }.handle route m) := by
  obtain ⟨acts, same, handled⟩ := acts_foldl
    (s := { s with tasks, bridge, handled := s.handled ++ [(route, m)] }) (handleInboundMessage m)
  exact ⟨⟨acts.pc, acts.attempts, acts.consumed, acts.lines, acts.passed, acts.shutdowns, acts.counted⟩, same, handled⟩

end HrtClient

/-! ## What one step does -/

/-- The message that the bridge is about to receive. -/
def HrtClient.bridgeReceives (s : HrtClient) : Option HrtInboundMsg :=
  (s.bridge.bind fun b => b.inboundRx.recv).bind fun received => received.1.toOption

/-- The receives of the shutdown signal: the event, and where the loop is before and after. -/
inductive Polls : HrtEvent → LoopPc → LoopPc → Prop where
  | head : Polls .tryRecv .head .left
  | session : Polls .told .session .waiting
  | waiting : Polls .told .waiting .left

theorem Polls.isLoop {e : HrtEvent} {pc pc' : LoopPc} (polls : Polls e pc pc') : e.isLoop = true := by
  cases polls <;> rfl

/-- The steps of a client, with what they need and what they leave. -/
inductive HrtClient.Moves (serde : SerdeJson) (s : HrtClient) : HrtEvent → HrtClient → Prop where
  | shutdown : s.Moves serde .shutdown s.initiateShutdown
  | received {e : HrtEvent} {pc : LoopPc} {rx : ShutdownReceiver} (polls : Polls e s.pc pc)
      (recv : s.shutdownRx.recv = some (.ok (), rx)) : s.Moves serde e { s.consume rx with pc }
  | lagged {e : HrtEvent} {pc : LoopPc} {rx : ShutdownReceiver} {missed attempts : Nat} (loop : e.isLoop = true)
      (recv : s.shutdownRx.recv = some (.error missed, rx)) :
      s.Moves serde e { s with shutdownRx := rx, pc, attempts }
  | connects (at_head : s.pc = .head) (recv : s.shutdownRx.recv = none) :
      s.Moves serde .tryRecv { s with pc := .connecting, attempts := s.attempts + 1 }
  | goes {e : HrtEvent} {pc : LoopPc} {outbound : List Json} (loop : e.isLoop = true) (other : e ≠ .told)
      (before : s.pc ≠ .left) (after : pc ≠ .left) : s.Moves serde e { s with pc, outbound }
  | line {text : String} (at_session : s.pc = .session) : s.Moves serde (.line text) (s.inbound serde text)
  | task {i : Nat} {m : HrtInboundMsg} {t : HrtClient} (there : s.tasks[i]? = some m)
      (handles : s.Handles .task m (s.tasks.eraseIdx i) t) : s.Moves serde (.task i) t
  | bridged {m : HrtInboundMsg} {t : HrtClient} (receives : s.bridgeReceives = some m)
      (handles : s.Handles .bridge m s.tasks t) : s.Moves serde .bridgeRecv t
  | bridge {e : HrtEvent} {bridge : Option Bridge} (loop : e.isLoop = false)
      (none_received : e = .bridgeRecv → s.bridgeReceives = none) : s.Moves serde e { s with bridge }

theorem HrtClient.moves_of_step {serde : SerdeJson} {s t : HrtClient} {e : HrtEvent}
    (step : hrtStep serde s e = some t) : s.Moves serde e t := by
  cases e with
  | shutdown =>
    cases step
    exact .shutdown
  | tryRecv =>
    obtain ⟨at_head, step⟩ := Option.ite_none_right_eq_some.1 step
    split at step
    · rename_i rx recv
      cases step
      exact .received (at_head ▸ .head) recv
    · rename_i missed rx recv
      cases step
      exact .lagged rfl recv
    · rename_i recv
      cases step
      exact .connects at_head recv
  | connected ok =>
    obtain ⟨at_connecting, step⟩ := Option.ite_none_right_eq_some.1 step
    cases step
    exact .goes rfl nofun (by simp [at_connecting]) (by cases ok <;> simp)
  | registered =>
    obtain ⟨at_registering, step⟩ := Option.ite_none_right_eq_some.1 step
    cases step
    exact .goes rfl nofun (by simp [at_registering]) nofun
  | told =>
    unfold hrtStep at step
    dsimp only at step
    split at step
    · rename_i rx at_session recv
      cases step
      exact .received (at_session ▸ .session) recv
    · rename_i missed rx at_session recv
      cases step
      exact .lagged rfl recv
    · rename_i rx at_waiting recv
      cases step
      exact .received (at_waiting ▸ .waiting) recv
    · rename_i missed rx at_waiting recv
      cases step
      exact .lagged rfl recv
    · cases step
  | tick state uptimeMs tsMs written =>
    obtain ⟨at_session, step⟩ := Option.ite_none_right_eq_some.1 step
    cases step
    exact .goes rfl nofun (by simp [at_session]) (by cases written <;> simp)
  | line text =>
    obtain ⟨at_session, step⟩ := Option.ite_none_right_eq_some.1 step
    cases step
    exact .line at_session
  | hungUp =>
    obtain ⟨at_session, step⟩ := Option.ite_none_right_eq_some.1 step
    cases step
    exact .goes rfl nofun (by simp [at_session]) nofun
  | slept =>
    obtain ⟨at_waiting, step⟩ := Option.ite_none_right_eq_some.1 step
    cases step
    exact .goes rfl nofun (by simp [at_waiting]) nofun
  | task i =>
    obtain ⟨m, there, same⟩ := Option.map_eq_some_iff.1 step
    cases same
    exact .task there (HrtClient.handles .task m _ s.bridge)
  | bridgeRecv =>
    obtain ⟨b, has, step⟩ := Option.bind_eq_some_iff.1 step
    have receives : s.bridgeReceives = b.inboundRx.recv.bind fun received => received.1.toOption := by
      unfold bridgeReceives
      rw [has, Option.bind_some]
    split at step
    · rename_i m rx recv
      cases step
      exact .bridged (receives.trans (by rw [recv]; rfl)) (HrtClient.handles .bridge m s.tasks _)
    · rename_i missed rx recv
      cases step
      exact .bridge rfl fun _ => receives.trans (by rw [recv]; rfl)
    · cases step
  | bridgeTold =>
    obtain ⟨b, -, step⟩ := Option.bind_eq_some_iff.1 step
    obtain ⟨-, -, same⟩ := Option.map_eq_some_iff.1 step
    cases same
    exact .bridge rfl nofun
  | bridgeClosed =>
    obtain ⟨b, -, step⟩ := Option.bind_eq_some_iff.1 step
    obtain ⟨-, step⟩ := Option.ite_none_right_eq_some.1 step
    cases step
    exact .bridge rfl nofun

/-! ## Short runs -/

/-- The line of a message without data. -/
def message (msg : String) : String := "\x7b\"msg\":\"" ++ msg ++ "\"\x7d"

/-- A reader of such lines. -/
def messageReader (msgs : List String) : SerdeJson where
  read text :=
    match msgs.find? fun msg => message msg = text with
    | some msg => .ok (.object [("msg", .string msg)])
    | none => .error "expected value at line 1 column 1"
  located _ msg := msg ++ " at line 1 column 2"

/-- The loop connects and registers. -/
def sessionStarts : List HrtEvent := [.tryRecv, .connected true, .registered]

end StereoMix.Hrt
