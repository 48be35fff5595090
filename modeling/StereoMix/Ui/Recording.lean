import StereoMix.Lib.Channel
import StereoMix.Encode.Muxer

/-!
# One recording of the window

What `start_recording` sets up: a muxer opened with a format, a stop flag, a channel of 128 packets, a capture loop
that sends into it and a mux loop that writes what it receives. `captured`, `written` and `sentAtStop` are the
record of the run: what the capture loop took, what was given to `write_packet`, and how much had been sent when
the flag was set.
-/

namespace StereoMix.Ui

open Encode

/-- A path, as its components. -/
abbrev PathBuf := List String

/-- Places in a recording's packet channel. -/
def PACKET_QUEUE : Nat := 128

/-- A frame taken by a capture loop, and whether the window was recording and paused then. -/
structure Taken where
  frame : PcmFrame
  paused : Bool
  deriving DecidableEq, Repr

/-- The packet that the capture loop sends. -/
def Taken.packet (taken : Taken) : AudioPacket := .ofFrame taken.frame

/-- Where the capture loop is: before its look at the flag, in `next_frame`, in a send, or gone. -/
inductive CapturePc where
  | check
  | read
  | send (taken : Taken)
  | exited
  deriving DecidableEq, Repr

/-- Where the mux loop is: not started, in `recv`, before its look at the flag with a packet in hand, before the
write, before `finalize`, gone; or never run. -/
inductive MuxPc where
  | spawned
  | recv
  | check (taken : Taken)
  | write (taken : Taken)
  | finalize
  | finished
  | cancelled
  deriving DecidableEq, Repr

structure Recording where
  path : PathBuf
  container : ContainerFormat
  codecName : String
  bitrateKbps : BitVec 32
  /-- The format given to `mux.open`. -/
  header : PcmFormat
  stopFlag : Bool
  /-- Whether the window still has its sender. -/
  recordTx : Bool
  channel : Channel Taken PACKET_QUEUE
  capture : CapturePc
  mux : MuxPc
  captured : List Taken
  written : List Taken
  sentAtStop : Option Nat
  deriving DecidableEq, Repr

/-- What its two loops can do on their own. -/
inductive LoopStep where
  | captureCheck
  | captureFails
  | captureSend
  | muxStart
  | muxRecv
  | muxCheck
  | muxWrite
  | muxFinalize
  deriving DecidableEq, Repr

/-- What can happen to a recording: a step of its loops, the answer of `next_frame`, and the steps of
`stop_recording`. -/
inductive RecordingEvent where
  | loop (e : LoopStep)
  | took (answer : Option Taken)
  | signal
  | dropSender
  | abort
  deriving DecidableEq, Repr

/-- The receiver is gone. -/
def Recording.muxGone (r : Recording) : Bool := r.mux = .finished ∨ r.mux = .cancelled

def Recording.loopStep (r : Recording) : LoopStep → Option Recording
  | .captureCheck =>
    if r.capture = .check then some { r with capture := if r.stopFlag then .exited else .read } else none
  | .captureFails => if r.capture = .read then some { r with capture := .exited } else none
  | .captureSend =>
    match r.capture with
    | .send taken =>
      if r.muxGone then some { r with capture := .exited }
      else (r.channel.send taken).map fun channel => { r with channel, capture := .check }
    | _ => none
  | .muxStart => if r.mux = .spawned then some { r with mux := .recv } else none
  | .muxRecv =>
    if r.mux = .recv then
      match r.channel.recv with
      | some (taken, channel) => some { r with channel, mux := .check taken }
      | none => if !r.recordTx && r.capture = .exited then some { r with mux := .finalize } else none
    else none
  | .muxCheck =>
    match r.mux with
    | .check taken => some { r with mux := if r.stopFlag then .finalize else .write taken }
    | _ => none
  | .muxWrite =>
    match r.mux with
    | .write taken => some { r with mux := .recv, written := r.written ++ [taken] }
    | _ => none
  | .muxFinalize => if r.mux = .finalize then some { r with mux := .finished } else none

def Recording.step (r : Recording) : RecordingEvent → Option Recording
  | .loop e => r.loopStep e
  | .took answer =>
    if r.capture = .read then
      match answer with
      | none => some { r with capture := .check }
      | some taken => some { r with capture := .send taken, captured := r.captured ++ [taken] }
    else none
  | .signal => some { r with stopFlag := true, sentAtStop := some r.channel.sent.length }
  | .dropSender => some { r with recordTx := false }
  | .abort => if r.mux = .spawned then some { r with mux := .cancelled } else none

/-! ## What one step does -/

/-- The steps of a recording, with what they need and what they leave. -/
inductive Recording.Moves (r : Recording) : RecordingEvent → Recording → Prop where
  | looked (at_check : r.capture = .check) :
      r.Moves (.loop .captureCheck) { r with capture := if r.stopFlag then .exited else .read }
  | failed (at_read : r.capture = .read) : r.Moves (.loop .captureFails) { r with capture := .exited }
  | refused {taken : Taken} (at_send : r.capture = .send taken) :
      r.Moves (.loop .captureSend) { r with capture := .exited }
  | sent {taken : Taken} {channel : Channel Taken PACKET_QUEUE} (at_send : r.capture = .send taken)
      (sends : r.channel.Sends taken channel) :
      r.Moves (.loop .captureSend) { r with channel, capture := .check }
  | started (at_spawned : r.mux = .spawned) : r.Moves (.loop .muxStart) { r with mux := .recv }
  | received {taken : Taken} {channel : Channel Taken PACKET_QUEUE} (at_recv : r.mux = .recv)
      (receives : r.channel.Receives taken channel) :
      r.Moves (.loop .muxRecv) { r with channel, mux := .check taken }
  | closed (at_recv : r.mux = .recv) (recordTx : r.recordTx = false) :
      r.Moves (.loop .muxRecv) { r with mux := .finalize }
  | discarded {taken : Taken} (at_check : r.mux = .check taken) (flag : r.stopFlag = true) :
      r.Moves (.loop .muxCheck) { r with mux := .finalize }
  | passed {taken : Taken} (at_check : r.mux = .check taken) (flag : r.stopFlag = false) :
      r.Moves (.loop .muxCheck) { r with mux := .write taken }
  | wrote {taken : Taken} (at_write : r.mux = .write taken) :
      r.Moves (.loop .muxWrite) { r with mux := .recv, written := r.written ++ [taken] }
  | finalized (at_finalize : r.mux = .finalize) : r.Moves (.loop .muxFinalize) { r with mux := .finished }
  | idled (at_read : r.capture = .read) : r.Moves (.took none) { r with capture := .check }
  | took {taken : Taken} (at_read : r.capture = .read) : r.Moves (.took (some taken))
      { r with capture := .send taken, captured := r.captured ++ [taken] }
  | signalled : r.Moves .signal { r with stopFlag := true, sentAtStop := some r.channel.sent.length }
  | dropped : r.Moves .dropSender { r with recordTx := false }
  | aborted (at_spawned : r.mux = .spawned) : r.Moves .abort { r with mux := .cancelled }

theorem Recording.moves_of_loopStep {r r' : Recording} {e : LoopStep} (step : r.loopStep e = some r') :
    r.Moves (.loop e) r' := by
  cases e with
  | captureCheck =>
    obtain ⟨at_check, same⟩ := Option.ite_none_right_eq_some.1 step
    cases same
    exact .looked at_check
  | captureFails =>
    obtain ⟨at_read, same⟩ := Option.ite_none_right_eq_some.1 step
    cases same
    exact .failed at_read
  | captureSend =>
    unfold Recording.loopStep at step
    dsimp only at step
    split at step
    · rename_i taken at_send
      split at step
      · cases step
        exact .refused at_send
      · obtain ⟨channel, send, rfl⟩ := Option.map_eq_some_iff.1 step
        exact .sent at_send (Channel.sends send)
    · cases step
  | muxStart =>
    obtain ⟨at_spawned, same⟩ := Option.ite_none_right_eq_some.1 step
    cases same
    exact .started at_spawned
  | muxRecv =>
    obtain ⟨at_recv, step⟩ := Option.ite_none_right_eq_some.1 step
    split at step
    · rename_i taken channel recv
      cases step
      exact .received at_recv (Channel.receives recv)
    · obtain ⟨alone, same⟩ := Option.ite_none_right_eq_some.1 step
      cases same
      simp only [Bool.and_eq_true, Bool.not_eq_true', decide_eq_true_eq] at alone
      exact .closed at_recv alone.1
  | muxCheck =>
    unfold Recording.loopStep at step
    dsimp only at step
    split at step
    · rename_i taken at_check
      cases step
      by_cases flag : r.stopFlag = true
      · rw [if_pos flag]
        exact .discarded at_check flag
      · rw [if_neg flag]
        exact .passed at_check (Bool.not_eq_true _ ▸ flag)
    · cases step
  | muxWrite =>
    unfold Recording.loopStep at step
    dsimp only at step
    split at step
    · rename_i taken at_write
      cases step
      exact .wrote at_write
    · cases step
  | muxFinalize =>
    obtain ⟨at_finalize, same⟩ := Option.ite_none_right_eq_some.1 step
    cases same
    exact .finalized at_finalize

theorem Recording.moves_of_step {r r' : Recording} {e : RecordingEvent} (step : r.step e = some r') :
    r.Moves e r' := by
  cases e with
  | loop e => exact moves_of_loopStep step
  | took answer =>
    obtain ⟨at_read, step⟩ := Option.ite_none_right_eq_some.1 step
    cases answer with
    | none =>
      cases step
      exact .idled at_read
    | some taken =>
      cases step
      exact .took at_read
  | signal =>
    cases step
    exact .signalled
  | dropSender =>
    cases step
    exact .dropped
  | abort =>
    obtain ⟨at_spawned, same⟩ := Option.ite_none_right_eq_some.1 step
    cases same
    exact .aborted at_spawned

/-- A step of the loops or of `next_frame` leaves the flag and the window's sender. -/
theorem Recording.Moves.flags {r r' : Recording} {e : RecordingEvent} (moves : r.Moves e r')
    (no_signal : e ≠ .signal) (no_drop : e ≠ .dropSender) : r'.stopFlag = r.stopFlag ∧ r'.recordTx = r.recordTx := by
  cases moves with
  | signalled => exact absurd rfl no_signal
  | dropped => exact absurd rfl no_drop
  | _ => exact ⟨rfl, rfl⟩

theorem Recording.Moves.header {r r' : Recording} {e : RecordingEvent} (moves : r.Moves e r') :
    r'.header = r.header := by
  cases moves <;> rfl

theorem Recording.Moves.stopFlag {r r' : Recording} {e : RecordingEvent} (moves : r.Moves e r')
    (running : r'.stopFlag = false) : r.stopFlag = false := by
  cases moves with
  | signalled => cases running
  | _ => exact running

/-! ## What flows through -/

/-- The frame that the capture loop has and has not sent. -/
def CapturePc.inHand : CapturePc → List Taken
  | .send taken => [taken]
  | _ => []

/-- The packet that the mux loop has received and not written. -/
def MuxPc.inHand : MuxPc → List Taken
  | .check taken => [taken]
  | .write taken => [taken]
  | _ => []

/-- The packet that the mux loop is about to write. -/
def MuxPc.passed : MuxPc → List Taken
  | .write taken => [taken]
  | _ => []

/-- The mux loop has gone on to `finalize`. -/
def MuxPc.left : MuxPc → Bool
  | .finalize => true
  | .finished => true
  | _ => false

/-- From the backend to the muxer nothing changes its place: only what the mux loop has in hand when it leaves, and
what the capture loop has in hand when it exits, is lost. -/
structure Recording.Flows (r : Recording) : Prop where
  taken : ∃ lost, r.captured = r.channel.sent ++ r.capture.inHand ++ lost ∧ (r.capture ≠ .exited → lost = [])
  written : ∃ lost, r.channel.received = r.written ++ r.mux.inHand ++ lost ∧ (r.mux.left = false → lost = [])
  left : r.mux.left = true → r.stopFlag = true ∨ r.recordTx = false

theorem Recording.Flows.sent_first {r : Recording} (flows : r.Flows) : r.channel.sent <+: r.captured := by
  obtain ⟨lost, same, -⟩ := flows.taken
  exact ⟨r.capture.inHand ++ lost, by rw [same, List.append_assoc]⟩

theorem Recording.Flows.written_first {r : Recording} (flows : r.Flows) : r.written <+: r.channel.sent := by
  obtain ⟨lost, same, -⟩ := flows.written
  refine List.IsPrefix.trans ⟨r.mux.inHand ++ lost, ?_⟩ r.channel.received_first
  rw [same, List.append_assoc]

theorem Recording.Flows.inHand_mem {r : Recording} (flows : r.Flows) {taken : Taken} (inHand : taken ∈ r.mux.inHand) :
    taken ∈ r.captured := by
  obtain ⟨lost, same, -⟩ := flows.written
  have received : taken ∈ r.channel.received := by
    rw [same]
    exact List.mem_append_left lost (List.mem_append_right r.written inHand)
  exact flows.sent_first.subset (r.channel.received_first.subset received)

theorem Recording.Flows.step {r r' : Recording} {e : RecordingEvent} (before : r.Flows) (moves : r.Moves e r') :
    r'.Flows := by
  obtain ⟨⟨late, taken, lateNone⟩, ⟨lost, written, lostNone⟩, left⟩ := before
  cases moves with
  | looked at_check =>
    rw [at_check] at taken lateNone
    cases lateNone CapturePc.noConfusion
    refine ⟨⟨[], ?_, fun _ => rfl⟩, ⟨lost, written, lostNone⟩, left⟩
    dsimp only
    split <;> exact taken
  | failed at_read =>
    rw [at_read] at taken
    exact ⟨⟨late, taken, fun inside => absurd rfl inside⟩, ⟨lost, written, lostNone⟩, left⟩
  | @refused taken' at_send =>
    rw [at_send] at taken
    exact ⟨⟨taken' :: late, by simpa [CapturePc.inHand] using taken, fun inside => absurd rfl inside⟩,
      ⟨lost, written, lostNone⟩, left⟩
  | sent at_send sends =>
    rw [at_send] at taken lateNone
    cases lateNone CapturePc.noConfusion
    refine ⟨⟨[], ?_, fun _ => rfl⟩, ⟨lost, ?_, lostNone⟩, left⟩
    · simpa [CapturePc.inHand, sends.sent] using taken
    · exact sends.received.trans written
  | started at_spawned =>
    rw [at_spawned] at written lostNone
    exact ⟨⟨late, taken, lateNone⟩, ⟨lost, written, fun _ => lostNone rfl⟩, nofun⟩
  | received at_recv receives =>
    rw [at_recv] at written lostNone
    cases lostNone rfl
    refine ⟨⟨late, ?_, lateNone⟩, ⟨[], ?_, fun _ => rfl⟩, nofun⟩
    · rw [receives.sent]
      exact taken
    · simpa [MuxPc.inHand, receives.received] using written
  | closed at_recv recordTx =>
    rw [at_recv] at written
    exact ⟨⟨late, taken, lateNone⟩, ⟨lost, written, nofun⟩, fun _ => .inr recordTx⟩
  | @discarded taken' at_check flag =>
    rw [at_check] at written
    refine ⟨⟨late, taken, lateNone⟩, ⟨taken' :: lost, ?_, nofun⟩, fun _ => .inl flag⟩
    simpa [MuxPc.inHand] using written
  | passed at_check flag =>
    rw [at_check] at written lostNone
    exact ⟨⟨late, taken, lateNone⟩, ⟨lost, written, fun _ => lostNone rfl⟩, nofun⟩
  | wrote at_write =>
    rw [at_write] at written lostNone
    refine ⟨⟨late, taken, lateNone⟩, ⟨lost, ?_, fun _ => lostNone rfl⟩, nofun⟩
    simpa [MuxPc.inHand] using written
  | finalized at_finalize =>
    rw [at_finalize] at written left
    exact ⟨⟨late, taken, lateNone⟩, ⟨lost, written, nofun⟩, fun _ => left rfl⟩
  | idled at_read =>
    rw [at_read] at taken lateNone
    exact ⟨⟨late, taken, fun _ => lateNone CapturePc.noConfusion⟩, ⟨lost, written, lostNone⟩, left⟩
  | took at_read =>
    rw [at_read] at taken lateNone
    cases lateNone CapturePc.noConfusion
    refine ⟨⟨[], ?_, fun _ => rfl⟩, ⟨lost, written, lostNone⟩, left⟩
    simpa [CapturePc.inHand] using taken
  | signalled => exact ⟨⟨late, taken, lateNone⟩, ⟨lost, written, lostNone⟩, fun _ => .inl rfl⟩
  | dropped => exact ⟨⟨late, taken, lateNone⟩, ⟨lost, written, lostNone⟩, fun _ => .inr rfl⟩
  | aborted at_spawned =>
    rw [at_spawned] at written lostNone
    exact ⟨⟨late, taken, lateNone⟩, ⟨lost, written, fun _ => lostNone rfl⟩, nofun⟩

/-- Everything written, or about to be, satisfies `P`, and as long as the flag is not set so does everything taken. -/
structure Recording.Only (P : Taken → Prop) (r : Recording) : Prop where
  written : ∀ taken ∈ r.written ++ r.mux.passed, P taken
  captured : r.stopFlag = false → ∀ taken ∈ r.captured, P taken

/-- What is taken before the flag decides what is written. -/
theorem Recording.Only.step {P : Taken → Prop} {r r' : Recording} {e : RecordingEvent} (before : r.Only P)
    (flows : r.Flows) (moves : r.Moves e r')
    (takes : ∀ taken, e = .took (some taken) → r.stopFlag = false → P taken) : r'.Only P := by
  obtain ⟨written, captured⟩ := before
  have earlier : ∀ taken ∈ r.written, P taken := fun taken member => written taken (List.mem_append_left _ member)
  cases moves with
  | passed at_check flag =>
    refine ⟨?_, captured⟩
    intro taken member
    rcases List.mem_append.1 member with old | new
    · exact earlier taken old
    · exact captured flag taken (flows.inHand_mem (at_check ▸ new))
  | wrote at_write =>
    rw [at_write] at written
    exact ⟨by simpa [MuxPc.passed] using written, captured⟩
  | took at_read =>
    refine ⟨written, ?_⟩
    intro running taken member
    rcases List.mem_append.1 member with old | new
    · exact captured running taken old
    · exact takes taken (by rw [List.mem_singleton.1 new]) running
  | signalled => exact ⟨written, nofun⟩
  | started => exact ⟨by simpa [MuxPc.passed] using earlier, captured⟩
  | received => exact ⟨by simpa [MuxPc.passed] using earlier, captured⟩
  | closed => exact ⟨by simpa [MuxPc.passed] using earlier, captured⟩
  | discarded => exact ⟨by simpa [MuxPc.passed] using earlier, captured⟩
  | finalized => exact ⟨by simpa [MuxPc.passed] using earlier, captured⟩
  | aborted => exact ⟨by simpa [MuxPc.passed] using earlier, captured⟩
  | _ => exact ⟨written, captured⟩

end StereoMix.Ui
