import StereoMix.Lib.EventSystem
import StereoMix.Lib.Channel
import StereoMix.Encode.Muxer

/-!
# A recording session

`RecordingSession::start` and `SessionHandle::stop`, after a successful start: an encoder task that repackages what
it receives, a mux task that writes it, a broadcast that shuts both down and a forwarder that passes on the external
shutdown. A `select!` is two steps, the look at the shutdown that is polled first and the receive, since the
shutdown can be sent between them.
-/

namespace StereoMix.Encode

open EventSystem

/-- Places in a session's packet channel. -/
def SESSION_PACKETS : Nat := 256

/-- Where the encoder task is: at either poll of its `select!`, in a send, or gone. -/
inductive EncoderPc where
  | look
  | recv
  | send (pkt : AudioPacket)
  | exited
  deriving DecidableEq, Repr

/-- The mux task's summary. -/
structure MuxResult where
  framesWritten : Nat
  framesDropped : Nat
  bytesWritten : Nat
  deriving DecidableEq, Repr

/-- Where the mux task is: at either poll of its `select!`, left with the shutdown branch alone, before a write,
before `finalize`, or done. -/
inductive MuxTaskPc where
  | look
  | recv
  | shutdownOnly
  | write (pkt : AudioPacket)
  | finalize
  | finished (answer : Except EncodeError MuxResult)
  deriving DecidableEq, Repr

/-- What `stop` returns, but for the times. -/
structure SessionInfo where
  sessionId : String
  outputFile : String
  framesCaptured : Nat
  framesDropped : Nat
  bytesWritten : Nat
  codec : String
  sampleRate : BitVec 32
  channels : BitVec 16
  bitrateKbps : BitVec 32
  deriving DecidableEq, Repr

/-- Where the call of `stop` is. -/
inductive StopPc where
  | uncalled
  | encoder
  | mux
  | returned (answer : Except EncodeError SessionInfo)
  deriving DecidableEq, Repr

/-- A started session. `written` and `acceptedAtStop` are the record of the run: the packets that `write_packet`
accepted, and how many frames the pcm channel had accepted when `stop` was called. -/
structure Session (capacity : Nat) where
  outputFile : String
  codec : String
  sampleRate : BitVec 32
  channels : BitVec 16
  pcm : Channel PcmFrame capacity
  pcmClosed : Bool
  packets : Channel AudioPacket SESSION_PACKETS
  signalled : Bool
  encoder : EncoderPc
  mux : MuxTaskPc
  framesWritten : Nat
  framesDropped : Nat
  bytesWritten : Nat
  stop : StopPc
  written : List AudioPacket
  acceptedAtStop : Option Nat
  deriving DecidableEq, Repr

/-- `start` on the session's fields, once its checks passed and the muxer is open. -/
def Session.started {capacity : Nat} (outputFile codec : String) (inputFormat : PcmFormat) : Session capacity where
  outputFile
  codec
  sampleRate := inputFormat.sampleRate
  channels := inputFormat.channels
  pcm := .empty
  pcmClosed := false
  packets := .empty
  signalled := false
  encoder := .look
  mux := .look
  framesWritten := 0
  framesDropped := 0
  bytesWritten := 0
  stop := .uncalled
  written := []
  acceptedAtStop := none

/-- What can happen: a frame is accepted, the sender is dropped, the forwarder or another holder of the shutdown
sender sends, a task or the call of `stop` takes a step. The muxer's answers are in the events. -/
inductive SessionEvent where
  | accept (frame : PcmFrame)
  | closePcm
  | forward
  | encoderLook
  | encoderRecv
  | encoderSend
  | muxLook
  | muxRecv
  | muxWrite (answer : Except EncodeError Unit)
  | muxFinalize (answer : Except EncodeError Unit)
  | stop
  | stopEncoder
  | stopMux
  deriving DecidableEq, Repr

variable {capacity : Nat}

/-- The packet receiver is gone. -/
def MuxTaskPc.gone : MuxTaskPc → Bool
  | .finished _ => true
  | _ => false

/-- The summary of a session. -/
def Session.info (s : Session capacity) (result : MuxResult) : SessionInfo where
  sessionId := "session"
  outputFile := s.outputFile
  framesCaptured := result.framesWritten
  framesDropped := result.framesDropped
  bytesWritten := result.bytesWritten
  codec := s.codec
  sampleRate := s.sampleRate
  channels := s.channels
  bitrateKbps := 0#32

def sessionStep (s : Session capacity) : SessionEvent → Option (Session capacity)
  | .accept frame =>
    if s.pcmClosed || s.encoder = .exited then none else (s.pcm.send frame).map fun pcm => { s with pcm }
  | .closePcm => some { s with pcmClosed := true }
  | .forward => some { s with signalled := true }
  | .encoderLook =>
    if s.encoder = .look then some { s with encoder := if s.signalled then .exited else .recv } else none
  | .encoderRecv =>
    if s.encoder = .recv then
      match s.pcm.recv with
      | some (frame, pcm) => some { s with pcm, encoder := .send (.ofFrame frame) }
      | none => some { s with encoder := if s.pcmClosed then .exited else .look }
    else none
  | .encoderSend =>
    match s.encoder with
    | .send pkt =>
      if s.mux.gone then some { s with encoder := .exited }
      else (s.packets.send pkt).map fun packets => { s with packets, encoder := .look }
    | _ => none
  | .muxLook =>
    if s.mux = .look then some { s with mux := if s.signalled then .finalize else .recv }
    else if s.mux = .shutdownOnly && s.signalled then some { s with mux := .finalize }
    else none
  | .muxRecv =>
    if s.mux = .recv then
      match s.packets.recv with
      | some (pkt, packets) => some { s with packets, mux := .write pkt }
      | none => some { s with mux := if s.encoder = .exited then .shutdownOnly else .look }
    else none
  | .muxWrite answer =>
    match s.mux with
    | .write pkt =>
      match answer with
      | .ok _ => some { s with
          mux := .look
          framesWritten := s.framesWritten + 1
          bytesWritten := s.bytesWritten + pkt.data.length
          written := s.written ++ [pkt] }
      | .error _ => some { s with mux := .finalize, framesDropped := s.framesDropped + 1 }
    | _ => none
  | .muxFinalize answer =>
    if s.mux = .finalize then
      some { s with mux := .finished (answer.map fun _ => ⟨s.framesWritten, s.framesDropped, s.bytesWritten⟩) }
    else none
  | .stop =>
    if s.stop = .uncalled then
      some { s with signalled := true, stop := .encoder, acceptedAtStop := some s.pcm.sent.length }
    else none
  | .stopEncoder => if s.stop = .encoder && s.encoder = .exited then some { s with stop := .mux } else none
  | .stopMux =>
    match s.stop, s.mux with
    | .mux, .finished answer => some { s with stop := .returned (answer.map s.info) }
    | _, _ => none

/-- A session, from its start with any names and format. -/
def sessionSystem (capacity : Nat) : EventSystem (Session capacity) SessionEvent where
  init s := ∃ outputFile codec inputFormat, s = .started outputFile codec inputFormat
  step := sessionStep

/-! ## What one step does -/

/-- The steps of a session, with what they need and what they leave. -/
inductive Session.Moves (s : Session capacity) : SessionEvent → Session capacity → Prop where
  | accepted {frame : PcmFrame} {pcm : Channel PcmFrame capacity} (sends : s.pcm.Sends frame pcm)
      (alive : s.encoder ≠ .exited) : s.Moves (.accept frame) { s with pcm }
  | closed : s.Moves .closePcm { s with pcmClosed := true }
  | forwarded : s.Moves .forward { s with signalled := true }
  | encoderStops (at_look : s.encoder = .look) (signalled : s.signalled = true) :
      s.Moves .encoderLook { s with encoder := .exited }
  | encoderLooks (at_look : s.encoder = .look) : s.Moves .encoderLook { s with encoder := .recv }
  | encoderTakes {frame : PcmFrame} {pcm : Channel PcmFrame capacity} (at_recv : s.encoder = .recv)
      (receives : s.pcm.Receives frame pcm) : s.Moves .encoderRecv { s with pcm, encoder := .send (.ofFrame frame) }
  | encoderWaits (at_recv : s.encoder = .recv) (empty : s.pcm.queue = []) :
      s.Moves .encoderRecv { s with encoder := if s.pcmClosed then .exited else .look }
  | encoderRefused {pkt : AudioPacket} (at_send : s.encoder = .send pkt) (gone : s.mux.gone = true) :
      s.Moves .encoderSend { s with encoder := .exited }
  | encoderSends {pkt : AudioPacket} {packets : Channel AudioPacket SESSION_PACKETS} (at_send : s.encoder = .send pkt)
      (sends : s.packets.Sends pkt packets) : s.Moves .encoderSend { s with packets, encoder := .look }
  | muxStops (waiting : s.mux = .look ∨ s.mux = .shutdownOnly) (signalled : s.signalled = true) :
      s.Moves .muxLook { s with mux := .finalize }
  | muxLooks (at_look : s.mux = .look) : s.Moves .muxLook { s with mux := .recv }
  | muxTakes {pkt : AudioPacket} {packets : Channel AudioPacket SESSION_PACKETS} (at_recv : s.mux = .recv)
      (receives : s.packets.Receives pkt packets) : s.Moves .muxRecv { s with packets, mux := .write pkt }
  | muxWaits (at_recv : s.mux = .recv) (empty : s.packets.queue = []) :
      s.Moves .muxRecv { s with mux := if s.encoder = .exited then .shutdownOnly else .look }
  | muxWrites {pkt : AudioPacket} (at_write : s.mux = .write pkt) : s.Moves (.muxWrite (.ok ())) { s with
      mux := .look
      framesWritten := s.framesWritten + 1
      bytesWritten := s.bytesWritten + pkt.data.length
      written := s.written ++ [pkt] }
  | muxDrops {pkt : AudioPacket} {e : EncodeError} (at_write : s.mux = .write pkt) :
      s.Moves (.muxWrite (.error e)) { s with mux := .finalize, framesDropped := s.framesDropped + 1 }
  | muxFinalizes (answer : Except EncodeError Unit) (at_finalize : s.mux = .finalize) : s.Moves (.muxFinalize answer)
      { s with mux := .finished (answer.map fun _ => ⟨s.framesWritten, s.framesDropped, s.bytesWritten⟩) }
  | stops (uncalled : s.stop = .uncalled) : s.Moves .stop
      { s with signalled := true, stop := .encoder, acceptedAtStop := some s.pcm.sent.length }
  | joins (waiting : s.stop = .encoder) (exited : s.encoder = .exited) : s.Moves .stopEncoder { s with stop := .mux }
  | returns {answer : Except EncodeError MuxResult} (waiting : s.stop = .mux) (finished : s.mux = .finished answer) :
      s.Moves .stopMux { s with stop := .returned (answer.map s.info) }

theorem Session.moves_of_step {s t : Session capacity} {e : SessionEvent} (step : sessionStep s e = some t) :
    s.Moves e t := by
  cases e with
  | accept frame =>
    obtain ⟨alive, step⟩ := Option.ite_none_left_eq_some.1 step
    obtain ⟨pcm, send, rfl⟩ := Option.map_eq_some_iff.1 step
    simp only [Bool.or_eq_true, decide_eq_true_eq, not_or] at alive
    exact .accepted (Channel.sends send) alive.2
  | closePcm =>
    cases step
    exact .closed
  | forward =>
    cases step
    exact .forwarded
  | encoderLook =>
    obtain ⟨at_look, step⟩ := Option.ite_none_right_eq_some.1 step
    cases step
    by_cases signalled : s.signalled = true
    · rw [if_pos signalled]
      exact .encoderStops at_look signalled
    · rw [if_neg signalled]
      exact .encoderLooks at_look
  | encoderRecv =>
    obtain ⟨at_recv, step⟩ := Option.ite_none_right_eq_some.1 step
    split at step
    · rename_i frame pcm recv
      cases step
      exact .encoderTakes at_recv (Channel.receives recv)
    · rename_i empty
      cases step
      exact .encoderWaits at_recv (Channel.recv_eq_none.1 empty)
  | encoderSend =>
    unfold sessionStep at step
    dsimp only at step
    split at step
    · rename_i pkt at_send
      split at step
      · rename_i gone
        cases step
        exact .encoderRefused at_send gone
      · obtain ⟨packets, send, rfl⟩ := Option.map_eq_some_iff.1 step
        exact .encoderSends at_send (Channel.sends send)
    · cases step
  | muxLook =>
    unfold sessionStep at step
    dsimp only at step
    split at step
    · rename_i at_look
      cases step
      by_cases signalled : s.signalled = true
      · rw [if_pos signalled]
        exact .muxStops (.inl at_look) signalled
      · rw [if_neg signalled]
        exact .muxLooks at_look
    · obtain ⟨waiting, step⟩ := Option.ite_none_right_eq_some.1 step
      cases step
      simp only [Bool.and_eq_true, decide_eq_true_eq] at waiting
      exact .muxStops (.inr waiting.1) waiting.2
  | muxRecv =>
    obtain ⟨at_recv, step⟩ := Option.ite_none_right_eq_some.1 step
    split at step
    · rename_i pkt packets recv
      cases step
      exact .muxTakes at_recv (Channel.receives recv)
    · rename_i empty
      cases step
      exact .muxWaits at_recv (Channel.recv_eq_none.1 empty)
  | muxWrite answer =>
    unfold sessionStep at step
    dsimp only at step
    split at step
    · rename_i pkt at_write
      cases answer with
      | ok _ =>
        cases step
        exact .muxWrites at_write
      | error e =>
        cases step
        exact .muxDrops at_write
    · cases step
  | muxFinalize answer =>
    obtain ⟨at_finalize, step⟩ := Option.ite_none_right_eq_some.1 step
    cases step
    exact .muxFinalizes answer at_finalize
  | stop =>
    obtain ⟨uncalled, step⟩ := Option.ite_none_right_eq_some.1 step
    cases step
    exact .stops uncalled
  | stopEncoder =>
    obtain ⟨waiting, step⟩ := Option.ite_none_right_eq_some.1 step
    cases step
    simp only [Bool.and_eq_true, decide_eq_true_eq] at waiting
    exact .joins waiting.1 waiting.2
  | stopMux =>
    unfold sessionStep at step
    dsimp only at step
    split at step
    · rename_i answer waiting finished
      cases step
      exact .returns waiting finished
    · cases step

/-! ## What flows through -/

/-- The packet that the encoder task has and has not sent. -/
def EncoderPc.inHand : EncoderPc → List AudioPacket
  | .send pkt => [pkt]
  | _ => []

/-- The packet that the mux task has received and not written. -/
def MuxTaskPc.inHand : MuxTaskPc → List AudioPacket
  | .write pkt => [pkt]
  | _ => []

/-- The mux task has left its loop. -/
def MuxTaskPc.left : MuxTaskPc → Bool
  | .finalize => true
  | .finished _ => true
  | _ => false

/-- From the pcm channel to the muxer nothing changes its place: only a packet that is refused to the encoder task,
and one whose write fails, is not written. -/
structure Session.Flows (s : Session capacity) : Prop where
  taken : ∃ lost, s.pcm.received.map .ofFrame = s.packets.sent ++ s.encoder.inHand ++ lost ∧
    (s.encoder ≠ .exited → lost = [])
  written : ∃ failed, s.packets.received = s.written ++ s.mux.inHand ++ failed ∧ failed.length = s.framesDropped ∧
    (s.mux.left = false → failed = [])

theorem flows_started (outputFile codec : String) (inputFormat : PcmFormat) :
    (Session.started outputFile codec inputFormat : Session capacity).Flows :=
  ⟨⟨[], rfl, fun _ => rfl⟩, ⟨[], rfl, rfl, fun _ => rfl⟩⟩

theorem Session.Flows.written_first {s : Session capacity} (flows : s.Flows) :
    s.written <+: s.pcm.sent.map .ofFrame := by
  obtain ⟨failed, written, -⟩ := flows.written
  obtain ⟨lost, taken, -⟩ := flows.taken
  have to_received : s.written <+: s.packets.received := ⟨s.mux.inHand ++ failed, by rw [written, List.append_assoc]⟩
  have to_taken : s.packets.sent <+: s.pcm.received.map .ofFrame :=
    ⟨s.encoder.inHand ++ lost, by rw [taken, List.append_assoc]⟩
  apply to_received.trans
  apply s.packets.received_first.trans
  apply to_taken.trans
  exact s.pcm.received_first.map _

theorem Session.Flows.step {s t : Session capacity} {e : SessionEvent} (before : s.Flows) (moves : s.Moves e t) :
    t.Flows := by
  obtain ⟨taken, written⟩ := before
  cases moves with
  | accepted sends alive =>
    rw [← sends.received] at taken
    exact ⟨taken, written⟩
  | encoderStops at_look =>
    obtain ⟨lost, taken, lostNone⟩ := taken
    rw [at_look] at taken
    exact ⟨⟨lost, taken, fun inside => absurd rfl inside⟩, written⟩
  | encoderLooks at_look =>
    obtain ⟨lost, taken, lostNone⟩ := taken
    rw [at_look] at taken lostNone
    exact ⟨⟨lost, taken, fun _ => lostNone nofun⟩, written⟩
  | encoderTakes at_recv receives =>
    obtain ⟨lost, taken, lostNone⟩ := taken
    rw [at_recv] at taken lostNone
    cases lostNone nofun
    refine ⟨⟨[], ?_, fun _ => rfl⟩, written⟩
    simp [EncoderPc.inHand, receives.received, taken]
  | encoderWaits at_recv empty =>
    obtain ⟨lost, taken, lostNone⟩ := taken
    rw [at_recv] at taken lostNone
    cases lostNone nofun
    refine ⟨⟨[], ?_, fun _ => rfl⟩, written⟩
    dsimp only
    split <;> exact taken
  | @encoderRefused pkt at_send gone =>
    obtain ⟨lost, taken, lostNone⟩ := taken
    rw [at_send] at taken
    refine ⟨⟨pkt :: lost, ?_, fun inside => absurd rfl inside⟩, written⟩
    simpa [EncoderPc.inHand] using taken
  | encoderSends at_send sends =>
    obtain ⟨lost, taken, lostNone⟩ := taken
    rw [at_send] at taken lostNone
    cases lostNone nofun
    refine ⟨⟨[], ?_, fun _ => rfl⟩, by rwa [sends.received]⟩
    simpa [EncoderPc.inHand, sends.sent] using taken
  | muxStops waiting signalled =>
    obtain ⟨failed, written, dropped, failedNone⟩ := written
    refine ⟨taken, failed, ?_, dropped, nofun⟩
    rcases waiting with at_look | at_shutdown
    · rwa [at_look] at written
    · rwa [at_shutdown] at written
  | muxLooks at_look =>
    obtain ⟨failed, written, dropped, failedNone⟩ := written
    rw [at_look] at written failedNone
    exact ⟨taken, failed, written, dropped, fun _ => failedNone rfl⟩
  | muxTakes at_recv receives =>
    obtain ⟨failed, written, dropped, failedNone⟩ := written
    rw [at_recv] at written failedNone
    cases failedNone rfl
    refine ⟨by rwa [receives.sent], [], ?_, dropped, fun _ => rfl⟩
    simp [MuxTaskPc.inHand, receives.received, written]
  | muxWaits at_recv empty =>
    obtain ⟨failed, written, dropped, failedNone⟩ := written
    rw [at_recv] at written failedNone
    cases failedNone rfl
    refine ⟨taken, [], ?_, dropped, fun _ => rfl⟩
    dsimp only
    split <;> exact written
  | muxWrites at_write =>
    obtain ⟨failed, written, dropped, failedNone⟩ := written
    rw [at_write] at written failedNone
    cases failedNone rfl
    refine ⟨taken, [], ?_, dropped, fun _ => rfl⟩
    simpa [MuxTaskPc.inHand] using written
  | @muxDrops pkt e at_write =>
    obtain ⟨failed, written, dropped, failedNone⟩ := written
    rw [at_write] at written failedNone
    cases failedNone rfl
    refine ⟨taken, [pkt], ?_, ?_, nofun⟩
    · simpa [MuxTaskPc.inHand] using written
    · exact congrArg (· + 1) dropped
  | muxFinalizes answer at_finalize =>
    obtain ⟨failed, written, dropped, failedNone⟩ := written
    rw [at_finalize] at written
    exact ⟨taken, failed, written, dropped, nofun⟩
  | _ => exact ⟨taken, written⟩

/-- The counts of the mux task. -/
def Session.result (s : Session capacity) : MuxResult := ⟨s.framesWritten, s.framesDropped, s.bytesWritten⟩

/-- The counts are those of the record, and the summary is made of them once the mux task is done. -/
structure Session.Counts (s : Session capacity) : Prop where
  frames : s.framesWritten = s.written.length
  bytes : s.bytesWritten = (packetBytes s.written).length
  finished : ∀ result, s.mux = .finished (.ok result) → result = s.result
  returned : ∀ info, s.stop = .returned (.ok info) → info = s.info s.result ∧ s.mux.gone = true
  called : s.stop = .uncalled ∨ s.acceptedAtStop.isSome

theorem counts_started (outputFile codec : String) (inputFormat : PcmFormat) :
    (Session.started outputFile codec inputFormat : Session capacity).Counts :=
  ⟨rfl, rfl, nofun, nofun, .inl rfl⟩

theorem Session.Counts.step {s t : Session capacity} {e : SessionEvent} (before : s.Counts) (moves : s.Moves e t) :
    t.Counts := by
  obtain ⟨frames, bytes, finished, returned, called⟩ := before
  -- While the mux task is not done, `stop` has not returned.
  have not_yet (runs : s.mux.gone = false) : ∀ info, s.stop ≠ .returned (.ok info) := by
    intro info stopped
    rw [(returned info stopped).2] at runs
    cases runs
  cases moves with
  | muxStops waiting signalled =>
    have runs : s.mux.gone = false := by rcases waiting with at_ | at_ <;> rw [at_] <;> rfl
    exact ⟨frames, bytes, nofun, fun info stopped => absurd stopped (not_yet runs info), called⟩
  | muxLooks at_ | muxTakes at_ =>
    have runs : s.mux.gone = false := by rw [at_]; rfl
    exact ⟨frames, bytes, nofun, fun info stopped => absurd stopped (not_yet runs info), called⟩
  | muxWaits at_recv empty =>
    have runs : s.mux.gone = false := by rw [at_recv]; rfl
    refine ⟨frames, bytes, ?_, fun info stopped => absurd stopped (not_yet runs info), called⟩
    intro result done
    dsimp only at done
    split at done <;> cases done
  | @muxWrites pkt at_write =>
    have runs : s.mux.gone = false := by rw [at_write]; rfl
    refine ⟨?_, ?_, nofun, fun info stopped => absurd stopped (not_yet runs info), called⟩
    · simp [frames]
    · simp [bytes, packetBytes]
  | muxDrops at_write =>
    have runs : s.mux.gone = false := by rw [at_write]; rfl
    exact ⟨frames, bytes, nofun, fun info stopped => absurd stopped (not_yet runs info), called⟩
  | muxFinalizes answer at_finalize =>
    have runs : s.mux.gone = false := by rw [at_finalize]; rfl
    refine ⟨frames, bytes, ?_, fun info stopped => absurd stopped (not_yet runs info), called⟩
    intro result done
    cases answer with
    | ok _ =>
      cases done
      rfl
    | error e => cases done
  | stops uncalled => exact ⟨frames, bytes, finished, nofun, .inr rfl⟩
  | joins waiting exited =>
    refine ⟨frames, bytes, finished, nofun, .inr ?_⟩
    apply called.resolve_left
    rw [waiting]
    nofun
  | @returns answer waiting done =>
    refine ⟨frames, bytes, finished, ?_, .inr ?_⟩
    · intro info stopped
      cases answer with
      | ok result =>
        cases stopped
        rw [finished result done, done]
        exact ⟨rfl, rfl⟩
      | error e => cases stopped
    · apply called.resolve_left
      rw [waiting]
      nofun
  | _ => exact ⟨frames, bytes, finished, returned, called⟩

/-! ## Losing nothing -/

/-- Nothing that was accepted is still on its way to the mux task. -/
def Session.Drained (s : Session capacity) : Prop := s.pcm.queue = [] ∧ s.encoder.inHand = [] ∧ s.packets.queue = []

/-- The shutdown is signalled, `stop` called and a write failed only when nothing is on its way; after the signal the
encoder task takes nothing more, and between the end of the mux loop and the call of `stop` nothing is accepted. -/
def LosesNothing (s : Session capacity) : SessionEvent → Prop
  | .forward => s.signalled = false → s.Drained
  | .stop => s.Drained
  | .muxWrite (.error _) => s.Drained
  | .encoderRecv => s.signalled = true → s.pcm.queue = []
  | .accept _ => s.mux.left = true → s.acceptedAtStop.isSome
  | _ => True

instance (s : Session capacity) : Decidable s.Drained := by unfold Session.Drained; infer_instance

instance (s : Session capacity) (e : SessionEvent) : Decidable (LosesNothing s e) := by
  unfold LosesNothing
  split <;> infer_instance

/-- When `stop` has returned a summary, what was written is the first of what was accepted, in order and with the same
audio, and the frames captured and dropped add up to those accepted before the call. -/
def LosesNoneSilently (s : Session capacity) : Prop :=
  ∀ info, s.stop = .returned (.ok info) →
    s.written <+: s.pcm.sent.map .ofFrame ∧ s.written.map AudioPacket.data <+: s.pcm.sent.map PcmFrame.data ∧
      info.framesCaptured = s.written.length ∧
      s.acceptedAtStop = some (info.framesCaptured + info.framesDropped)

/-- In a run that loses nothing, no packet is refused to the encoder task, and once the shutdown is signalled or the
mux task has left its loop nothing more reaches it. -/
structure Session.Settled (s : Session capacity) : Prop where
  taken : s.pcm.received.map .ofFrame = s.packets.sent ++ s.encoder.inHand
  quiet : s.signalled = true ∨ s.mux.left = true → s.encoder.inHand = [] ∧ s.packets.queue = []
  drained : s.mux.left = true → s.signalled = false → s.pcm.queue = []
  atStop : ∀ n, s.acceptedAtStop = some n → s.signalled = true ∧ n = s.packets.received.length

theorem settled_started (outputFile codec : String) (inputFormat : PcmFormat) :
    (Session.started outputFile codec inputFormat : Session capacity).Settled where
  taken := rfl
  quiet _ := ⟨rfl, rfl⟩
  drained _ _ := rfl
  atStop := nofun

theorem Session.Settled.step {s t : Session capacity} {e : SessionEvent} (before : s.Settled)
    (condition : LosesNothing s e) (moves : s.Moves e t) : t.Settled := by
  obtain ⟨taken, quiet, drained, atStop⟩ := before
  cases moves with
  | accepted sends alive =>
    refine ⟨by rwa [sends.received], quiet, ?_, atStop⟩
    intro left silent
    obtain ⟨n, called⟩ := Option.isSome_iff_exists.1 (condition left)
    rw [(atStop n called).1] at silent
    cases silent
  | closed => exact ⟨taken, quiet, drained, atStop⟩
  | forwarded =>
    refine ⟨taken, fun _ => ?_, nofun, fun n called => ⟨rfl, (atStop n called).2⟩⟩
    cases signalled : s.signalled with
    | true => exact quiet (.inl signalled)
    | false => exact (condition signalled).2
  | encoderStops at_ | encoderLooks at_ =>
    rw [at_] at taken quiet
    exact ⟨taken, quiet, drained, atStop⟩
  | encoderTakes at_recv receives =>
    rw [at_recv] at taken
    have some_queued : s.pcm.queue ≠ [] := by rw [receives.queue]; nofun
    have silent : s.signalled = false := by
      by_contra signalled
      exact some_queued (condition (Bool.not_eq_false _ ▸ signalled))
    have runs : s.mux.left = false := by
      by_contra left
      exact some_queued (drained (Bool.not_eq_false _ ▸ left) silent)
    refine ⟨?_, ?_, ?_, atStop⟩
    · simp [EncoderPc.inHand, receives.received, taken]
    · rintro (signalled | left)
      · rw [silent] at signalled
        cases signalled
      · rw [runs] at left
        cases left
    · intro left
      rw [runs] at left
      cases left
  | encoderWaits at_recv empty =>
    rw [at_recv] at taken quiet
    have nothing : (if s.pcmClosed then EncoderPc.exited else EncoderPc.look).inHand = [] := by split <;> rfl
    refine ⟨?_, fun left => ⟨nothing, (quiet left).2⟩, drained, atStop⟩
    rw [nothing]
    exact taken
  | encoderRefused at_send gone =>
    have left : s.mux.left = true := by
      cases at_ : s.mux with
      | finished answer => rfl
      | _ =>
        rw [at_] at gone
        cases gone
    have nothing := (quiet (.inr left)).1
    rw [at_send] at nothing
    cases nothing
  | encoderSends at_send sends =>
    have going : ¬ (s.signalled = true ∨ s.mux.left = true) := by
      intro left
      have nothing := (quiet left).1
      rw [at_send] at nothing
      cases nothing
    rw [at_send] at taken
    refine ⟨?_, fun left => absurd left going, drained, ?_⟩
    · simpa [EncoderPc.inHand, sends.sent] using taken
    · rw [sends.received]
      exact atStop
  | muxStops waiting signalled =>
    refine ⟨taken, fun _ => quiet (.inl signalled), ?_, atStop⟩
    intro left silent
    rw [signalled] at silent
    cases silent
  | muxLooks at_ =>
    rw [at_] at quiet
    exact ⟨taken, quiet, nofun, atStop⟩
  | muxTakes at_recv receives =>
    have silent : s.signalled = false := by
      by_contra signalled
      have nothing := (quiet (.inl (Bool.not_eq_false _ ▸ signalled))).2
      rw [receives.queue] at nothing
      cases nothing
    refine ⟨by rwa [receives.sent], ?_, nofun, ?_⟩
    · rintro (signalled | left)
      · rw [silent] at signalled
        cases signalled
      · cases left
    · intro n called
      rw [(atStop n called).1] at silent
      cases silent
  | muxWaits at_recv empty =>
    have runs : (if s.encoder = .exited then MuxTaskPc.shutdownOnly else MuxTaskPc.look).left = false := by
      split <;> rfl
    refine ⟨taken, ?_, ?_, atStop⟩
    · rintro (signalled | left)
      · exact quiet (.inl signalled)
      · rw [runs] at left
        cases left
    · intro left
      rw [runs] at left
      cases left
  | muxWrites at_write =>
    rw [at_write] at quiet
    exact ⟨taken, quiet, nofun, atStop⟩
  | muxDrops at_write => exact ⟨taken, fun _ => condition.2, fun _ _ => condition.1, atStop⟩
  | muxFinalizes answer at_finalize =>
    rw [at_finalize] at quiet drained
    exact ⟨taken, quiet, drained, atStop⟩
  | stops uncalled =>
    obtain ⟨pcm, encoder, packets⟩ := condition
    refine ⟨taken, fun _ => ⟨encoder, packets⟩, nofun, ?_⟩
    intro n called
    cases called
    refine ⟨rfl, ?_⟩
    rw [Channel.received_eq_sent packets, ← Channel.received_eq_sent pcm]
    rw [encoder, List.append_nil] at taken
    rw [← taken, List.length_map]
  | joins | returns => exact ⟨taken, quiet, drained, atStop⟩

/-- **A session loses no audio silently in the runs that lose nothing.** -/
theorem session_loses_none {s : Session capacity} (reached : (sessionSystem capacity).ReachableWhere LosesNothing s) :
    LosesNoneSilently s := by
  have holds : s.Flows ∧ s.Counts ∧ s.Settled := by
    apply invariant_where (S := sessionSystem capacity) (C := LosesNothing)
      (I := fun s => s.Flows ∧ s.Counts ∧ s.Settled)
    · rintro s ⟨outputFile, codec, inputFormat, rfl⟩
      exact ⟨flows_started .., counts_started .., settled_started ..⟩
    · rintro s e t ⟨flows, counts, settled⟩ condition step
      have moves := Session.moves_of_step step
      exact ⟨flows.step moves, counts.step moves, settled.step condition moves⟩
    · exact reached
  obtain ⟨flows, counts, settled⟩ := holds
  intro info stopped
  obtain ⟨rfl, gone⟩ := counts.returned info stopped
  refine ⟨flows.written_first, map_data_ofFrame s.pcm.sent ▸ flows.written_first.map _, counts.frames, ?_⟩
  obtain ⟨n, called⟩ : ∃ n, s.acceptedAtStop = some n := by
    apply Option.isSome_iff_exists.1
    apply counts.called.resolve_left
    rw [stopped]
    nofun
  obtain ⟨failed, received, dropped, -⟩ := flows.written
  have nothing : s.mux.inHand = [] := by
    cases at_ : s.mux with
    | write pkt =>
      rw [at_] at gone
      cases gone
    | _ => rfl
  rw [called, (settled.atStop n called).2, received, nothing, List.append_nil, List.length_append, dropped,
    ← counts.frames]
  rfl

/-- One silent stereo frame. -/
def silentFrame : PcmFrame := ⟨[0, 0, 0, 0], ⟨48000#32, 2#16, 16#16⟩, 0#64, 0#64, 1#32⟩

/-- `stop` is called, both tasks see the shutdown, and it returns. -/
def stopCalled : List SessionEvent :=
  [.stop, .encoderLook, .stopEncoder, .muxLook, .muxFinalize (.ok ()), .stopMux]

/-- A frame is accepted and written. -/
def frameWritten : List SessionEvent :=
  [.accept silentFrame, .encoderLook, .encoderRecv, .encoderSend, .muxLook, .muxRecv, .muxWrite (.ok ())]

theorem session_loses_none_written : ∃ s, (sessionSystem 8).run (.started "rec_test.wav" "libopus" silentFrame.format)
    (frameWritten ++ stopCalled) = some s ∧ LosesNoneSilently s :=
  ⟨_, rfl, session_loses_none
    ⟨_, frameWritten ++ stopCalled, ⟨"rec_test.wav", "libopus", silentFrame.format, rfl⟩, by decide, rfl⟩⟩

/-- A frame is accepted and `stop` called at once: the summary counts no frame. -/
theorem session_loses_queued : ∃ s, (sessionSystem 8).run (.started "rec_test.wav" "libopus" silentFrame.format)
    (.accept silentFrame :: stopCalled) = some s ∧ ¬ LosesNoneSilently s := by
  refine ⟨_, rfl, ?_⟩
  intro none_lost
  have counted := (none_lost _ rfl).2.2.2
  exact absurd counted (by decide)

end StereoMix.Encode
