import StereoMix.Encode.SessionStop
import StereoMix.Encode.MuxerCalls

/-!
# A session as a take by one thread

What a recording session does to its muxer and to the files, one thread does that writes packets until a write fails and
finalizes. The tasks, the channels and the shutdown only decide how many frames are written; what `stop` returns is the
thread's result. Conversely every such take is that of some session.
-/

namespace StereoMix.Encode

open EventSystem FileSystem

variable {M : Type} [AudioMuxer M] {capacity : Nat}

/-! ## The take -/

/-- The packets are written one after another until a write fails: the counts, and what is left. -/
def writeUntil : List AudioPacket → MuxResult → M × World → MuxResult × (M × World)
  | [], result, s => (result, s)
  | pkt :: packets, result, s =>
    match AudioMuxer.writePacket pkt s with
    | .ok _ s => writeUntil packets { result with
        framesWritten := result.framesWritten + 1
        bytesWritten := result.bytesWritten + pkt.data.length } s
    | .error _ s => ({ result with framesDropped := result.framesDropped + 1 }, s)

/-- The end of a take. -/
def finish (result : MuxResult) (s : M × World) : Except EncodeError MuxResult × (M × World) :=
  match AudioMuxer.finalize s with
  | .ok _ s => (.ok result, s)
  | .error e s => (.error e, s)

/-- A take that goes on from some counts. -/
def takeFrom (result : MuxResult) (packets : List AudioPacket) (s : M × World) :
    Except EncodeError MuxResult × (M × World) :=
  finish (writeUntil packets result s).1 (writeUntil packets result s).2

/-- A take by one thread, on a muxer that was opened. -/
def takeAlone (packets : List AudioPacket) (s : M × World) : Except EncodeError MuxResult × (M × World) :=
  takeFrom ⟨0, 0, 0⟩ packets s

theorem finish_eq_ok {result result' : MuxResult} {s t : M × World} :
    finish result s = (.ok result', t) ↔ AudioMuxer.finalize s = .ok () t ∧ result = result' := by
  unfold finish
  cases AudioMuxer.finalize s with
  | ok _ u => simp [and_comm]
  | error e u => simp

theorem writeUntil_ok {pkt : AudioPacket} {s t : M × World} (done : AudioMuxer.writePacket pkt s = .ok () t)
    (packets : List AudioPacket) (result : MuxResult) : writeUntil (pkt :: packets) result s = writeUntil packets
      { result with
        framesWritten := result.framesWritten + 1
        bytesWritten := result.bytesWritten + pkt.data.length } t := by
  rw [writeUntil, done]

theorem writeUntil_error {pkt : AudioPacket} {e : EncodeError} {s t : M × World}
    (failed : AudioMuxer.writePacket pkt s = .error e t) (packets : List AudioPacket) (result : MuxResult) :
    writeUntil (pkt :: packets) result s = ({ result with framesDropped := result.framesDropped + 1 }, t) := by
  rw [writeUntil, failed]

/-- Packets go on where no write has failed. -/
theorem writeUntil_append {packets : List AudioPacket} {result result' : MuxResult} {s t : M × World}
    (written : writeUntil packets result s = (result', t)) (clean : result'.framesDropped = result.framesDropped)
    (more : List AudioPacket) : writeUntil (packets ++ more) result s = writeUntil more result' t := by
  induction packets generalizing result s with
  | nil =>
    cases written
    rfl
  | cons pkt packets ih =>
    rw [List.cons_append]
    cases answered : AudioMuxer.writePacket pkt s with
    | ok _ u =>
      rw [writeUntil_ok answered] at written ⊢
      exact ih written clean
    | error e u =>
      rw [writeUntil_error answered] at written
      cases written
      exact absurd clean (Nat.succ_ne_self _)

/-- All packets are written, or those before one whose write fails. -/
theorem writeUntil_cases (packets : List AudioPacket) (result : MuxResult) (s : M × World) :
    (∃ t, packets.forM AudioMuxer.writePacket s = .ok () t ∧ writeUntil packets result s =
      (⟨result.framesWritten + packets.length, result.framesDropped, result.bytesWritten + (packetBytes packets).length⟩,
        t)) ∨
    ∃ written pkt rest u e t, packets = written ++ pkt :: rest ∧ written.forM AudioMuxer.writePacket s = .ok () u ∧
      AudioMuxer.writePacket pkt u = .error e t ∧ writeUntil packets result s =
        (⟨result.framesWritten + written.length, result.framesDropped + 1,
          result.bytesWritten + (packetBytes written).length⟩, t) := by
  induction packets generalizing result s with
  | nil => exact .inl ⟨s, rfl, rfl⟩
  | cons pkt packets ih =>
    have more (written : List AudioPacket) :
        (packetBytes (pkt :: written)).length = pkt.data.length + (packetBytes written).length := by
      rw [packetBytes, List.flatMap_cons, List.length_append, packetBytes]
    cases answered : AudioMuxer.writePacket pkt s with
    | ok _ u =>
      have next {written : List AudioPacket} {t : M × World} (wrote : written.forM AudioMuxer.writePacket u = .ok () t) :
          (pkt :: written).forM AudioMuxer.writePacket s = .ok () t := bind_eq_ok.2 ⟨(), u, answered, wrote⟩
      rw [writeUntil_ok answered]
      rcases ih _ u with ⟨t, wrote, same⟩ | ⟨written, pkt', rest, v, e, t, rfl, wrote, failed, same⟩
      · refine .inl ⟨t, next wrote, same.trans ?_⟩
        simp only [more, List.length_cons, Prod.mk.injEq, MuxResult.mk.injEq, and_true, true_and]
        omega
      · refine .inr ⟨pkt :: written, pkt', rest, v, e, t, rfl, next wrote, failed, same.trans ?_⟩
        simp only [more, List.length_cons, Prod.mk.injEq, MuxResult.mk.injEq, and_true, true_and]
        omega
    | error e t => exact .inr ⟨[], pkt, packets, s, e, t, rfl, rfl, answered, writeUntil_error answered packets result⟩

/-! ## One step of a session -/

/-- How far a session has gone through the take of the packets `asked`, on the muxer and the files it started with. -/
structure Recorder.Alone (s₀ : M × World) (asked : List AudioPacket) (r : Recorder M capacity) : Prop where
  received : r.session.packets.received = asked ++ r.session.mux.inHand
  length : asked.length = r.session.framesWritten + r.session.framesDropped
  clean : r.session.mux.left = false → r.session.framesDropped = 0
  writing : r.session.mux.gone = false → writeUntil asked ⟨0, 0, 0⟩ s₀ = (r.session.result, (r.muxer, r.world))
  finished : ∀ answer, r.session.mux = .finished answer → takeAlone asked s₀ = (answer, (r.muxer, r.world))

/-- Without the muxer's calls a session asks for no write. -/
theorem Session.Moves.received {s t : Session capacity} {e : SessionEvent} (moves : s.Moves e t)
    (alone : e.asksMuxer = false) {asked : List AudioPacket} (received : s.packets.received = asked ++ s.mux.inHand) :
    t.packets.received = asked ++ t.mux.inHand ∧ t.result = s.result := by
  cases moves with
  | encoderSends at_send sends => exact ⟨sends.received.trans received, rfl⟩
  | muxStops waiting =>
    refine ⟨?_, rfl⟩
    rcases waiting with at_ | at_ <;> rwa [at_] at received
  | muxLooks at_ =>
    rw [at_] at received
    exact ⟨received, rfl⟩
  | @muxTakes pkt packets at_ receives =>
    rw [at_] at received
    have before : s.packets.received = asked := received.trans (List.append_nil asked)
    refine ⟨?_, rfl⟩
    rw [receives.received, before]
    rfl
  | muxWaits at_ =>
    rw [at_] at received
    refine ⟨?_, rfl⟩
    dsimp only
    split <;> exact received
  | muxWrites | muxDrops | muxFinalizes => cases alone
  | _ => exact ⟨received, rfl⟩

/-- A packet is written, or its write fails. -/
theorem Recorder.Alone.write {s₀ : M × World} {asked : List AudioPacket} {r t : Recorder M capacity} {pkt : AudioPacket}
    (before : r.Alone s₀ asked) (at_write : r.session.mux = .write pkt)
    (called : r.call (AudioMuxer.writePacket pkt) .muxWrite = some t) : t.Alone s₀ (asked ++ [pkt]) := by
  obtain ⟨received, length, clean, writing, -⟩ := before
  rw [at_write] at received clean writing
  have next := writeUntil_append (writing rfl) (clean rfl) [pkt]
  have received' : r.session.packets.received = (asked ++ [pkt]) ++ [] := received.trans (List.append_nil _).symm
  have length' : (asked ++ [pkt]).length = r.session.framesWritten + r.session.framesDropped + 1 := by
    rw [List.length_append, length, List.length_singleton]
  obtain ⟨session, muxer, world⟩ := t
  rcases Recorder.of_call called with ⟨done, moved⟩ | ⟨e, failed, moved⟩
  · rw [writeUntil_ok done] at next
    cases Session.moves_of_step moved with
    | @muxWrites pkt' at_write' =>
      cases at_write.symm.trans at_write'
      exact ⟨received', length'.trans (Nat.add_right_comm ..), fun _ => clean rfl, fun _ => next, nofun⟩
  · rw [writeUntil_error failed] at next
    cases Session.moves_of_step moved with
    | muxDrops => exact ⟨received', length', nofun, fun _ => next, nofun⟩

/-- The muxer is finalized, or that fails. -/
theorem Recorder.Alone.finalize {s₀ : M × World} {asked : List AudioPacket} {r t : Recorder M capacity}
    (before : r.Alone s₀ asked) (called : r.call AudioMuxer.finalize .muxFinalize = some t) : t.Alone s₀ asked := by
  obtain ⟨received, length, -, writing, -⟩ := before
  obtain ⟨session, muxer, world⟩ := t
  have ended {answer : Except EncodeError Unit} (at_finalize : r.session.mux = .finalize)
      (outcome : finish r.session.result (r.muxer, r.world) = (answer.map fun _ => r.session.result, (muxer, world))) :
      takeAlone asked s₀ = (answer.map fun _ => r.session.result, (muxer, world)) := by
    rw [takeAlone, takeFrom, writing (by rw [at_finalize]; rfl)]
    exact outcome
  rcases Recorder.of_call called with ⟨done, moved⟩ | ⟨e, failed, moved⟩ <;>
    cases Session.moves_of_step moved with
    | muxFinalizes answer at_finalize =>
      rw [at_finalize] at received
      refine ⟨received, length, nofun, nofun, ?_⟩
      rintro answer ⟨⟩
      refine ended at_finalize ?_
      first
      | rw [finish, done]
        rfl
      | rw [finish, failed]
        rfl

theorem Recorder.Alone.step {s₀ : M × World} {asked : List AudioPacket} {r t : Recorder M capacity} {e : RecorderEvent}
    (before : r.Alone s₀ asked) (step : recorderStep r e = some t) : ∃ asked, t.Alone s₀ asked := by
  cases e with
  | session e =>
    obtain ⟨received, length, clean, writing, finished⟩ := before
    obtain ⟨alone, step⟩ := Option.ite_none_left_eq_some.1 step
    obtain ⟨session, moved, rfl⟩ := Option.map_eq_some_iff.1 step
    have moves := Session.moves_of_step moved
    have alone : e.asksMuxer = false := Bool.not_eq_true _ ▸ alone
    obtain ⟨-, -, left, gone, finished'⟩ := moves.alone alone
    obtain ⟨received', same⟩ := moves.received alone received
    have dropped : session.framesDropped = r.session.framesDropped := congrArg MuxResult.framesDropped same
    have written : session.framesWritten = r.session.framesWritten := congrArg MuxResult.framesWritten same
    refine ⟨asked, received', ?_, ?_, ?_, ?_⟩
    · rw [length, written, dropped]
    · exact fun inside => dropped.trans (clean (left inside))
    · intro inside
      rw [same]
      exact writing (gone ▸ inside)
    · exact fun answer done => finished answer (finished' answer done)
  | write =>
    unfold recorderStep at step
    dsimp only at step
    split at step
    · rename_i pkt at_write
      exact ⟨_, before.write at_write step⟩
    · cases step
  | finalize => exact ⟨asked, before.finalize step⟩

/-! ## Runs -/

/-- What `stop` returns is the mux task's answer. -/
def Session.Answers (s : Session capacity) : Prop :=
  ∀ answer, s.stop = .returned answer → ∃ result, s.mux = .finished result ∧ answer = result.map s.info

theorem Session.Answers.step {s t : Session capacity} {e : SessionEvent} (before : s.Answers)
    (moves : s.Moves e t) : t.Answers := by
  intro answer stopped
  cases moves with
  | returns waiting finished =>
    cases stopped
    exact ⟨_, finished, rfl⟩
  | stops | joins => cases stopped
  | muxStops waiting =>
    obtain ⟨result, done, -⟩ := before answer stopped
    rcases waiting with at_ | at_ <;> cases at_.symm.trans done
  | muxLooks at_ | muxTakes at_ | muxWaits at_ | muxWrites at_ | muxDrops at_ | muxFinalizes _ at_ =>
    obtain ⟨result, done, -⟩ := before answer stopped
    cases at_.symm.trans done
  | _ => exact before answer stopped

/-- The packets of the frames that were written or dropped. -/
def Recorder.attempts (r : Recorder M capacity) : List AudioPacket :=
  (r.session.pcm.sent.take (r.session.framesWritten + r.session.framesDropped)).map .ofFrame

theorem Session.Flows.received_sent {s : Session capacity} (flows : s.Flows) :
    s.packets.received <+: s.pcm.sent.map .ofFrame := by
  obtain ⟨lost, taken, -⟩ := flows.taken
  have to_taken : s.packets.sent <+: s.pcm.received.map .ofFrame :=
    ⟨s.encoder.inHand ++ lost, by rw [taken, List.append_assoc]⟩
  exact s.packets.received_first.trans (to_taken.trans (s.pcm.received_first.map _))

theorem Recorder.Alone.attempts {s₀ : M × World} {asked : List AudioPacket} {r : Recorder M capacity}
    (alone : r.Alone s₀ asked) (flows : r.session.Flows) :
    r.session.framesWritten + r.session.framesDropped ≤ r.session.pcm.sent.length ∧ asked = r.attempts := by
  have first : asked <+: r.session.pcm.sent.map .ofFrame :=
    List.IsPrefix.trans ⟨r.session.mux.inHand, alone.received.symm⟩ flows.received_sent
  constructor
  · rw [← alone.length, ← List.length_map (f := AudioPacket.ofFrame)]
    exact first.length_le
  · rw [Recorder.attempts, List.map_take, ← alone.length]
    exact List.prefix_iff_eq_take.1 first

/-- **A session is a take by one thread.** Whatever the container, the interleaving and the failures, muxer and files
are at every moment as one thread leaves them that writes the first frames in order, and `stop` returns its result. -/
theorem session_takes_alone {new : M} {r₀ r : Recorder M capacity} {es : List RecorderEvent}
    (started : (recorderSystem new capacity).init r₀) (run : (recorderSystem new capacity).run r₀ es = some r) :
    r.session.framesWritten + r.session.framesDropped ≤ r.session.pcm.sent.length ∧
    (r.session.mux.gone = false →
      writeUntil r.attempts ⟨0, 0, 0⟩ (r₀.muxer, r₀.world) = (r.session.result, (r.muxer, r.world))) ∧
    (∀ answer, r.session.mux = .finished answer →
      takeAlone r.attempts (r₀.muxer, r₀.world) = (answer, (r.muxer, r.world))) ∧
    ∀ answer, r.session.stop = .returned answer → ∃ result,
      takeAlone r.attempts (r₀.muxer, r₀.world) = (result, (r.muxer, r.world)) ∧ answer = result.map r.session.info := by
  have through : (∃ asked, r.Alone (r₀.muxer, r₀.world) asked) ∧ r.session.Answers := by
    refine run_induction (C := fun _ _ => True)
      (I := fun r : Recorder M capacity => (∃ asked, r.Alone (r₀.muxer, r₀.world) asked) ∧ r.session.Answers)
      ?_ ?_ (meets_true r₀ es) run
    · rintro r e t ⟨⟨asked, alone⟩, answers⟩ - step
      obtain ⟨_, -, moved⟩ := Recorder.session_step step
      exact ⟨alone.step step, answers.step (Session.moves_of_step moved)⟩
    · obtain ⟨path, inputFormat, codec, bitrateKbps, world, -, at_start⟩ := started
      rw [at_start]
      exact ⟨⟨[], by rw [at_start]; rfl, by rw [at_start]; rfl, fun _ => by rw [at_start]; rfl,
        fun _ => by rw [at_start]; rfl, by rw [at_start]; nofun⟩, nofun⟩
  obtain ⟨⟨asked, alone⟩, answers⟩ := through
  obtain ⟨flows, -⟩ := Recorder.known ⟨r₀, es, started, run⟩
  obtain ⟨most, rfl⟩ := alone.attempts flows
  refine ⟨most, alone.writing, alone.finished, ?_⟩
  intro answer stopped
  obtain ⟨result, finished, rfl⟩ := answers answer stopped
  exact ⟨result, alone.finished result finished, rfl⟩

/-- The frames that a summary counts as captured, as the muxer got them. -/
def Session.capturedPackets (s : Session capacity) (info : SessionInfo) : List AudioPacket :=
  (s.pcm.sent.take info.framesCaptured).map .ofFrame

/-- The muxer's calls behind a summary: every captured frame was written, the next one failed if any was dropped, and
the muxer was finalized. -/
theorem calls_of_summary {new : M} {r₀ r : Recorder M capacity} {es : List RecorderEvent} {info : SessionInfo}
    (started : (recorderSystem new capacity).init r₀) (run : (recorderSystem new capacity).run r₀ es = some r)
    (stopped : r.session.stop = .returned (.ok info)) :
    ∃ s u, (r.session.capturedPackets info).forM AudioMuxer.writePacket (r₀.muxer, r₀.world) = .ok () s ∧
      AudioMuxer.finalize u = .ok () (r.muxer, r.world) ∧
        (info.framesDropped = 0 ∧ u = s ∨ ∃ frame e, info.framesDropped = 1 ∧
          r.session.pcm.sent[info.framesCaptured]? = some frame ∧
            AudioMuxer.writePacket (.ofFrame frame) s = .error e u) := by
  obtain ⟨-, counts, -⟩ := Recorder.known ⟨r₀, es, started, run⟩
  obtain ⟨rfl, -⟩ := counts.returned info stopped
  obtain ⟨most, -, -, returned⟩ := session_takes_alone started run
  obtain ⟨result, took, answered⟩ := returned _ stopped
  have length : r.attempts.length = r.session.framesWritten + r.session.framesDropped := by
    rw [Recorder.attempts, List.length_map, List.length_take, Nat.min_eq_left most]
  cases result with
  | error e => cases answered
  | ok result =>
    have same := Except.ok.inj answered
    have written : r.session.framesWritten = result.framesWritten := congrArg SessionInfo.framesCaptured same
    have dropped : r.session.framesDropped = result.framesDropped := congrArg SessionInfo.framesDropped same
    obtain ⟨finalized, tallied⟩ := finish_eq_ok.1 took
    show ∃ s u, ((r.session.pcm.sent.take r.session.framesWritten).map AudioPacket.ofFrame).forM AudioMuxer.writePacket
      (r₀.muxer, r₀.world) = .ok () s ∧ AudioMuxer.finalize u = .ok () (r.muxer, r.world) ∧
        (r.session.framesDropped = 0 ∧ u = s ∨ ∃ frame e, r.session.framesDropped = 1 ∧
          r.session.pcm.sent[r.session.framesWritten]? = some frame ∧
            AudioMuxer.writePacket (.ofFrame frame) s = .error e u)
    rcases writeUntil_cases r.attempts ⟨0, 0, 0⟩ (r₀.muxer, r₀.world) with
      ⟨s, wrote, outcome⟩ | ⟨packets, pkt, rest, s, e, u, asked, wrote, failed, outcome⟩
    · rw [outcome] at finalized tallied
      have none_dropped : r.session.framesDropped = 0 := by rw [dropped, ← tallied]
      rw [Recorder.attempts, none_dropped, Nat.add_zero] at wrote
      exact ⟨s, s, wrote, finalized, .inl ⟨none_dropped, rfl⟩⟩
    · rw [outcome] at finalized tallied
      have one_dropped : r.session.framesDropped = 1 := by rw [dropped, ← tallied]
      have as_many : packets.length = r.session.framesWritten := by rw [written, ← tallied, Nat.zero_add]
      rw [Recorder.attempts, one_dropped] at asked
      have front : (r.session.pcm.sent.take r.session.framesWritten).map AudioPacket.ofFrame = packets := by
        have upTo : (packets ++ pkt :: rest).take packets.length = packets := List.take_left
        rw [← asked, as_many, ← List.map_take, List.take_take, Nat.min_eq_left (Nat.le_succ _)] at upTo
        exact upTo
      have next : (r.session.pcm.sent[r.session.framesWritten]?).map AudioPacket.ofFrame = some pkt := by
        rw [← List.getElem?_take_of_lt (Nat.lt_succ_self _), ← List.getElem?_map, asked, ← as_many,
          List.getElem?_append_right (Nat.le_refl _), Nat.sub_self]
        rfl
      obtain ⟨frame, sent, rfl⟩ := Option.map_eq_some_iff.1 next
      exact ⟨s, u, front ▸ wrote, finalized, .inr ⟨frame, e, one_dropped, sent, failed⟩⟩

/-- A WAV session, its muxer opened. -/
def wavStart : Recorder WavMuxer 8 :=
  let opened := left (WavMuxer.open "take.wav" silentFrame.format "pcm" 128#32 (.new, emptyWorld))
  ⟨.started "take.wav" "pcm" silentFrame.format, opened.1, opened.2⟩

theorem wavStart_init : (recorderSystem WavMuxer.new 8).init wavStart :=
  ⟨"take.wav", silentFrame.format, "pcm", 128#32, emptyWorld, rfl, rfl⟩

/-- Of two frames one is written when `stop` is called. -/
def firstOfTwo : List RecorderEvent :=
  [.session (.accept silentFrame), .session (.accept silentFrame), .session .encoderLook, .session .encoderRecv,
    .session .encoderSend, .session .muxLook, .session .muxRecv, .write, .session .stop, .session .encoderLook,
    .session .stopEncoder, .session .muxLook, .finalize, .session .stopMux]

theorem session_takes_alone_first : ∃ r : Recorder WavMuxer 8,
    (recorderSystem WavMuxer.new 8).run wavStart firstOfTwo = some r ∧
      r.session.pcm.sent = [silentFrame, silentFrame] ∧
        takeAlone [.ofFrame silentFrame] (wavStart.muxer, wavStart.world) = (.ok ⟨1, 0, 4⟩, (r.muxer, r.world)) := by
  obtain ⟨r, run, sent, finished, attempts⟩ : ∃ r : Recorder WavMuxer 8,
      (recorderSystem WavMuxer.new 8).run wavStart firstOfTwo = some r ∧
        r.session.pcm.sent = [silentFrame, silentFrame] ∧ r.session.mux = .finished (.ok ⟨1, 0, 4⟩) ∧
          r.attempts = [.ofFrame silentFrame] := ⟨_, rfl, rfl, rfl, rfl⟩
  obtain ⟨-, -, took, -⟩ := session_takes_alone wavStart_init run
  exact ⟨r, run, sent, attempts ▸ took _ finished⟩

/-! ## Every take is some session's -/

/-- A session whose tasks wait for a frame. -/
structure Session.Idle (s : Session capacity) : Prop where
  encoder : s.encoder = .look
  mux : s.mux = .look
  pcmClosed : s.pcmClosed = false
  pcm : s.pcm.queue = []
  packets : s.packets.queue = []
  signalled : s.signalled = false
  uncalled : s.stop = .uncalled

/-- Some steps without the muxer's calls. -/
def Session.Passes (s t : Session capacity) : Prop := (sessionSystem capacity).Leads (·.asksMuxer = false) s t

/-- A frame passes through both channels, up to its write. -/
theorem Session.Idle.pass {s : Session capacity} (idle : s.Idle) (room : 0 < capacity) (frame : PcmFrame) :
    ∃ pcm packets, pcm.sent = s.pcm.sent ++ [frame] ∧ pcm.queue = [] ∧ packets.queue = [] ∧
      s.Passes { s with pcm, packets, mux := .write (.ofFrame frame) } := by
  obtain ⟨encoder, mux, pcmClosed, noFrame, noPacket, signalled, -⟩ := idle
  obtain ⟨pcm, send⟩ := Channel.exists_send (c := s.pcm) (by rw [noFrame]; exact room) frame
  have sends := Channel.sends send
  obtain ⟨pcm', recv⟩ := Channel.exists_recv (c := pcm) (by rw [sends.queue, noFrame]; rfl)
  have receives := Channel.receives recv
  obtain ⟨packets, send'⟩ := Channel.exists_send (c := s.packets) (by rw [noPacket]; decide) (.ofFrame frame)
  have sends' := Channel.sends send'
  obtain ⟨packets', recv'⟩ := Channel.exists_recv (c := packets) (by rw [sends'.queue, noPacket]; rfl)
  have receives' := Channel.receives recv'
  refine ⟨pcm', packets', ?_, ?_, ?_,
    [.accept frame, .encoderLook, .encoderRecv, .encoderSend, .muxLook, .muxRecv], ?_, ?_⟩
  · rw [receives.sent, sends.sent]
  · have queued := receives.queue
    rw [sends.queue, noFrame] at queued
    exact (List.cons.inj queued).2.symm
  · have queued := receives'.queue
    rw [sends'.queue, noPacket] at queued
    exact (List.cons.inj queued).2.symm
  · simp [SessionEvent.asksMuxer]
  · simp [run_cons, sessionSystem, sessionStep, encoder, mux, pcmClosed, signalled, send, recv, send', recv',
      MuxTaskPc.gone]

/-- Where the session goes without its muxer, the recorder goes. -/
theorem Session.Passes.leads {s t : Session capacity} (passes : s.Passes t) (new muxer : M) (world : World) :
    (recorderSystem new capacity).Leads (fun _ => True) ⟨s, muxer, world⟩ ⟨t, muxer, world⟩ := by
  obtain ⟨es, alone, run⟩ := passes
  refine ⟨es.map .session, fun _ _ => trivial, ?_⟩
  induction es generalizing s with
  | nil =>
    cases run
    rfl
  | cons e es ih =>
    obtain ⟨u, step, rest⟩ := run_cons_eq_some.1 run
    have first : e.asksMuxer = false := alone e List.mem_cons_self
    refine run_cons_eq_some.2 ⟨⟨u, muxer, world⟩, ?_, ih (fun e' here => alone e' (.tail e here)) rest⟩
    show recorderStep (M := M) ⟨s, muxer, world⟩ (.session e) = some ⟨u, muxer, world⟩
    rw [recorderStep, first, if_neg Bool.false_ne_true]
    exact Option.map_eq_some_iff.2 ⟨u, step, rfl⟩

theorem Session.finalizes {s : Session capacity} (mux : s.mux = .finalize) (muxer : M) (world : World) :
    recorderStep ⟨s, muxer, world⟩ .finalize = some ⟨{ s with mux := .finished (finish s.result (muxer, world)).1 },
      (finish s.result (muxer, world)).2.1, (finish s.result (muxer, world)).2.2⟩ := by
  cases answered : AudioMuxer.finalize (muxer, world) <;>
    simp [recorderStep, Recorder.call, finish, answered, sessionStep, mux, Except.map, Session.result]

/-- Before its `finalize` the mux task ends once `stop` is called, with the end of a take. -/
theorem Session.ends {s : Session capacity} (encoder : s.encoder = .look) (mux : s.mux = .finalize)
    (uncalled : s.stop = .uncalled) (new muxer : M) (world : World) : ∃ t : Recorder M capacity,
      (recorderSystem new capacity).Leads (fun _ => True) ⟨s, muxer, world⟩ t ∧ t.session.pcm = s.pcm ∧
        t.session.info = s.info ∧ finish s.result (muxer, world) =
          ((finish s.result (muxer, world)).1, (t.muxer, t.world)) ∧
            t.session.stop = .returned ((finish s.result (muxer, world)).1.map s.info) := by
  have stopped : s.Passes { s with
      signalled := true, encoder := .exited, stop := .mux, acceptedAtStop := some s.pcm.sent.length } := by
    refine ⟨[.stop, .encoderLook, .stopEncoder], by simp [SessionEvent.asksMuxer], ?_⟩
    simp [run_cons, sessionSystem, sessionStep, encoder, uncalled]
  have finalized := Leads.single (S := recorderSystem new capacity) (P := fun _ => True) (e := .finalize) trivial
    (Session.finalizes (s := { s with
      signalled := true, encoder := .exited, stop := .mux, acceptedAtStop := some s.pcm.sent.length }) mux muxer world)
  refine ⟨_, (stopped.leads new muxer world).trans (finalized.trans (.single (e := .session .stopMux) trivial rfl)),
    rfl, rfl, rfl, rfl⟩

/-- An idle session can take any frames as one thread does. -/
theorem Session.Idle.takes {s : Session capacity} (idle : s.Idle) (room : 0 < capacity) (frames : List PcmFrame)
    (new muxer : M) (world : World) : ∃ t : Recorder M capacity,
      (recorderSystem new capacity).Leads (fun _ => True) ⟨s, muxer, world⟩ t ∧
        (∃ first, first <+: frames ∧ t.session.pcm.sent = s.pcm.sent ++ first) ∧ t.session.info = s.info ∧
          ∃ result, takeFrom s.result (frames.map .ofFrame) (muxer, world) = (result, (t.muxer, t.world)) ∧
            t.session.stop = .returned (result.map s.info) := by
  induction frames generalizing s muxer world with
  | nil =>
    have signalled : s.Passes { s with signalled := true, mux := .finalize } := by
      refine ⟨[.forward, .muxLook], by simp [SessionEvent.asksMuxer], ?_⟩
      simp [run_cons, sessionSystem, sessionStep, idle.mux]
    obtain ⟨t, leads, pcm, info, ended, stopped⟩ := Session.ends
      (s := { s with signalled := true, mux := .finalize }) idle.encoder rfl idle.uncalled new muxer world
    refine ⟨t, (signalled.leads new muxer world).trans leads, ⟨[], List.prefix_rfl, ?_⟩, info, _, ended, stopped⟩
    rw [pcm, List.append_nil]
  | cons frame frames ih =>
    obtain ⟨pcm, packets, sent, noFrame, noPacket, passes⟩ := idle.pass room frame
    have arrived := passes.leads new muxer world
    cases answered : AudioMuxer.writePacket (.ofFrame frame) (muxer, world) with
    | ok _ after =>
      obtain ⟨muxer', world'⟩ := after
      have wrote : recorderStep (M := M) ⟨{ s with pcm, packets, mux := .write (.ofFrame frame) }, muxer, world⟩ .write =
          some ⟨{ s with
            pcm, packets
            mux := .look
            framesWritten := s.framesWritten + 1
            bytesWritten := s.bytesWritten + frame.data.length
            written := s.written ++ [.ofFrame frame] }, muxer', world'⟩ := by
        have length : (AudioPacket.ofFrame frame).data.length = frame.data.length := rfl
        simp [recorderStep, Recorder.call, answered, sessionStep, length]
      obtain ⟨t, leads, ⟨first, inside, accepted⟩, info, result, took, stopped⟩ := ih (s := { s with
          pcm, packets
          mux := .look
          framesWritten := s.framesWritten + 1
          bytesWritten := s.bytesWritten + frame.data.length
          written := s.written ++ [.ofFrame frame] })
        ⟨idle.encoder, rfl, idle.pcmClosed, noFrame, noPacket, idle.signalled, idle.uncalled⟩ muxer' world'
      refine ⟨t, arrived.trans ((Leads.single (e := .write) trivial wrote).trans leads),
        ⟨frame :: first, List.cons_prefix_cons.2 ⟨rfl, inside⟩, ?_⟩, info, result, ?_, stopped⟩
      · rw [accepted, sent, List.append_assoc, List.singleton_append]
      · rw [List.map_cons, takeFrom, writeUntil_ok answered]
        exact took
    | error e after =>
      obtain ⟨muxer', world'⟩ := after
      have failed : recorderStep (M := M) ⟨{ s with pcm, packets, mux := .write (.ofFrame frame) }, muxer, world⟩ .write =
          some ⟨{ s with pcm, packets, mux := .finalize, framesDropped := s.framesDropped + 1 }, muxer', world'⟩ := by
        simp [recorderStep, Recorder.call, answered, sessionStep]
      obtain ⟨t, leads, pcm', info, ended, stopped⟩ := Session.ends
        (s := { s with pcm, packets, mux := .finalize, framesDropped := s.framesDropped + 1 })
        idle.encoder rfl idle.uncalled new muxer' world'
      refine ⟨t, arrived.trans ((Leads.single (e := .write) trivial failed).trans leads),
        ⟨[frame], ⟨frames, rfl⟩, ?_⟩, info, _, ?_, stopped⟩
      · rw [pcm', sent]
      · rw [List.map_cons, takeFrom, writeUntil_error answered]
        exact ended

/-- **Every take is some session's.** Where the channel has a place, a session can take any frames in their order and
return what one thread would. -/
theorem take_is_session {new : M} {r₀ : Recorder M capacity} (room : 0 < capacity)
    (started : (recorderSystem new capacity).init r₀) (frames : List PcmFrame) :
    ∃ es r result, (recorderSystem new capacity).run r₀ es = some r ∧ r.session.pcm.sent <+: frames ∧
      takeAlone (frames.map .ofFrame) (r₀.muxer, r₀.world) = (result, (r.muxer, r.world)) ∧
        r.session.stop = .returned (result.map r.session.info) := by
  obtain ⟨session, muxer, world⟩ := r₀
  obtain ⟨path, inputFormat, codec, bitrateKbps, before, -, rfl⟩ := started
  have idle : (Session.started path codec inputFormat : Session capacity).Idle := ⟨rfl, rfl, rfl, rfl, rfl, rfl, rfl⟩
  obtain ⟨t, ⟨es, -, run⟩, ⟨first, inside, accepted⟩, info, result, took, stopped⟩ :=
    idle.takes room frames new muxer world
  refine ⟨es, t, result, run, ?_, took, ?_⟩
  · rw [accepted]
    exact inside
  · rw [info]
    exact stopped

theorem take_is_session_two : ∃ (es : List RecorderEvent) (r : Recorder WavMuxer 8) (info : SessionInfo),
    (recorderSystem WavMuxer.new 8).run wavStart es = some r ∧ r.session.stop = .returned (.ok info) ∧
      info.framesCaptured = 2 ∧ info.bytesWritten = 8 := by
  obtain ⟨es, r, result, run, -, took, stopped⟩ :=
    take_is_session (by decide) wavStart_init [silentFrame, silentFrame]
  have counts : (takeAlone ([silentFrame, silentFrame].map .ofFrame) (wavStart.muxer, wavStart.world)).1 =
      .ok ⟨2, 0, 8⟩ := rfl
  rw [took] at counts
  cases counts
  exact ⟨es, r, _, run, stopped, rfl, rfl⟩

end StereoMix.Encode
