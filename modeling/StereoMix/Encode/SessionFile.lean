import StereoMix.Encode.Session
import StereoMix.Encode.WavFile

/-!
# What a session's summary and file hold

A recording session on a muxer and the world of files: the muxer's answers are those of its calls. What `stop` returns
counts what the muxer accepted, which is what was sent first; a WAV file declares just these bytes as its data, whatever
a failed write may have left behind them.
-/

namespace StereoMix.Encode

open EventSystem ByteFile FileSystem WavFormat

/-! ## A session on a muxer -/

/-- A session with its muxer, and the world of files. -/
structure Recorder (M : Type) (capacity : Nat) where
  session : Session capacity
  muxer : M
  world : World

/-- What can happen: a step of the session without its muxer, or one of the mux task's two calls. -/
inductive RecorderEvent where
  | session (e : SessionEvent)
  | write
  | finalize

/-- The steps of a session whose answer is the muxer's. -/
def SessionEvent.asksMuxer : SessionEvent → Bool
  | .muxWrite _ | .muxFinalize _ => true
  | _ => false

variable {M : Type} {capacity : Nat}

/-- The mux task makes a call, and goes on with its answer. -/
def Recorder.call (r : Recorder M capacity) (call : EStateM EncodeError (M × World) Unit)
    (answered : Except EncodeError Unit → SessionEvent) : Option (Recorder M capacity) :=
  match call (r.muxer, r.world) with
  | .ok _ (muxer, world) =>
    (sessionStep r.session (answered (.ok ()))).map fun session => { session, muxer, world }
  | .error e (muxer, world) =>
    (sessionStep r.session (answered (.error e))).map fun session => { session, muxer, world }

def recorderStep [AudioMuxer M] (r : Recorder M capacity) : RecorderEvent → Option (Recorder M capacity)
  | .session e => if e.asksMuxer then none else (sessionStep r.session e).map fun session => { r with session }
  | .write =>
    match r.session.mux with
    | .write pkt => r.call (AudioMuxer.writePacket pkt) .muxWrite
    | _ => none
  | .finalize => r.call AudioMuxer.finalize .muxFinalize

/-- `start` with a new muxer, in any world of files, once its checks passed and the muxer was opened. -/
def recorderSystem [AudioMuxer M] (new : M) (capacity : Nat) : EventSystem (Recorder M capacity) RecorderEvent where
  init r := ∃ path inputFormat codec bitrateKbps world,
    AudioMuxer.open path inputFormat codec bitrateKbps (new, world) = .ok () (r.muxer, r.world) ∧
      r.session = .started path codec inputFormat
  step := recorderStep

/-- The steps of a recorder: what its session does, and the muxer's call with it. -/
inductive Recorder.Moves [AudioMuxer M] (r : Recorder M capacity) : Recorder M capacity → Prop where
  | session {e : SessionEvent} {session : Session capacity} (alone : e.asksMuxer = false)
      (moved : sessionStep r.session e = some session) : r.Moves { r with session }
  | wrote {pkt : AudioPacket} {session : Session capacity} {muxer : M} {world : World}
      (at_write : r.session.mux = .write pkt)
      (done : AudioMuxer.writePacket pkt (r.muxer, r.world) = .ok () (muxer, world))
      (moved : sessionStep r.session (.muxWrite (.ok ())) = some session) : r.Moves { session, muxer, world }
  | dropped {pkt : AudioPacket} {e : EncodeError} {session : Session capacity} {muxer : M} {world : World}
      (at_write : r.session.mux = .write pkt)
      (failed : AudioMuxer.writePacket pkt (r.muxer, r.world) = .error e (muxer, world))
      (moved : sessionStep r.session (.muxWrite (.error e)) = some session) : r.Moves { session, muxer, world }
  | finalized {session : Session capacity} {muxer : M} {world : World}
      (done : AudioMuxer.finalize (r.muxer, r.world) = .ok () (muxer, world))
      (moved : sessionStep r.session (.muxFinalize (.ok ())) = some session) : r.Moves { session, muxer, world }
  | failed {e : EncodeError} {session : Session capacity} {muxer : M} {world : World}
      (moved : sessionStep r.session (.muxFinalize (.error e)) = some session) : r.Moves { session, muxer, world }

theorem Recorder.moves_of_step [AudioMuxer M] {r t : Recorder M capacity} {e : RecorderEvent}
    (step : recorderStep r e = some t) : r.Moves t := by
  cases e with
  | session e =>
    obtain ⟨alone, step⟩ := Option.ite_none_left_eq_some.1 step
    obtain ⟨session, moved, same⟩ := Option.map_eq_some_iff.1 step
    cases same
    exact .session (Bool.not_eq_true _ ▸ alone) moved
  | write =>
    unfold recorderStep at step
    dsimp only at step
    split at step
    · rename_i pkt at_write
      unfold Recorder.call at step
      split at step
      · rename_i muxer world done
        obtain ⟨session, moved, same⟩ := Option.map_eq_some_iff.1 step
        cases same
        exact .wrote at_write done moved
      · rename_i e muxer world failed
        obtain ⟨session, moved, same⟩ := Option.map_eq_some_iff.1 step
        cases same
        exact .dropped at_write failed moved
    · cases step
  | finalize =>
    unfold recorderStep Recorder.call at step
    dsimp only at step
    split at step
    · rename_i muxer world done
      obtain ⟨session, moved, same⟩ := Option.map_eq_some_iff.1 step
      cases same
      exact .finalized done moved
    · obtain ⟨session, moved, same⟩ := Option.map_eq_some_iff.1 step
      cases same
      exact .failed moved

/-! ## The summary -/

/-- Once `stop` has returned a summary, what the muxer accepted are the first frames that were sent, with their data, as
many as it counts, and it adds up their lengths. -/
def Session.ExactPrefix (s : Session capacity) : Prop :=
  ∀ info, s.stop = .returned (.ok info) →
    s.written = (s.pcm.sent.take info.framesCaptured).map .ofFrame ∧
      s.written.map AudioPacket.data = (s.pcm.sent.take info.framesCaptured).map PcmFrame.data ∧
      s.written.length = info.framesCaptured ∧ info.bytesWritten = (s.written.map fun pkt => pkt.data.length).sum

theorem Session.exactPrefix {s : Session capacity} (flows : s.Flows) (counts : s.Counts) : s.ExactPrefix := by
  intro info stopped
  obtain ⟨rfl, -⟩ := counts.returned info stopped
  have frames : (s.info s.result).framesCaptured = s.written.length := counts.frames
  have first : s.written = (s.pcm.sent.take s.written.length).map .ofFrame := by
    rw [List.map_take]
    exact List.prefix_iff_eq_take.1 flows.written_first
  rw [frames]
  refine ⟨first, ?_, rfl, ?_⟩
  · rw [← map_data_ofFrame, ← first]
  · have bytes : (s.info s.result).bytesWritten = (packetBytes s.written).length := counts.bytes
    rw [bytes, packetBytes, List.length_flatMap]

/-- Once `stop` has returned a summary, the mux task ended well. -/
def Session.EndedWell (s : Session capacity) : Prop :=
  ∀ info, s.stop = .returned (.ok info) → ∃ result, s.mux = .finished (.ok result)

theorem Session.EndedWell.step {s t : Session capacity} {e : SessionEvent} (before : s.EndedWell)
    (moves : s.Moves e t) : t.EndedWell := by
  intro info stopped
  cases moves with
  | returns waiting finished =>
    rename_i answer
    cases answer with
    | ok result => exact ⟨result, finished⟩
    | error e => cases stopped
  | stops | joins => cases stopped
  | muxStops waiting =>
    obtain ⟨result, done⟩ := before info stopped
    rcases waiting with at_ | at_ <;> cases at_.symm.trans done
  | muxLooks at_ | muxTakes at_ | muxWaits at_ | muxWrites at_ | muxDrops at_ | muxFinalizes _ at_ =>
    obtain ⟨result, done⟩ := before info stopped
    cases at_.symm.trans done
  | _ => exact before info stopped

/-- A recorder's session runs as a session does. -/
theorem Recorder.known [AudioMuxer M] {new : M} {r : Recorder M capacity}
    (reached : (recorderSystem new capacity).Reachable r) :
    r.session.Flows ∧ r.session.Counts ∧ r.session.EndedWell := by
  apply invariant (S := recorderSystem new capacity)
    (I := fun r => r.session.Flows ∧ r.session.Counts ∧ r.session.EndedWell) _ _ reached
  · rintro r ⟨path, inputFormat, codec, bitrateKbps, world, -, started⟩
    rw [started]
    exact ⟨flows_started .., counts_started .., nofun⟩
  · rintro r e t ⟨flows, counts, ended⟩ step
    have of_step {e : SessionEvent} {session : Session capacity} (moved : sessionStep r.session e = some session) :
        session.Flows ∧ session.Counts ∧ session.EndedWell :=
      have moves := Session.moves_of_step moved
      ⟨flows.step moves, counts.step moves, ended.step moves⟩
    cases Recorder.moves_of_step step with
    | session _ moved | wrote _ _ moved | dropped _ _ moved | finalized _ moved | failed moved => exact of_step moved

/-! ## The WAV file -/

/-- Without the muxer's calls a session keeps its record, and whether its mux task goes on. -/
theorem Session.Moves.alone {s t : Session capacity} {e : SessionEvent} (moves : s.Moves e t)
    (alone : e.asksMuxer = false) :
    t.outputFile = s.outputFile ∧ t.written = s.written ∧ (t.mux.left = false → s.mux.left = false) ∧
      t.mux.gone = s.mux.gone ∧ ∀ result, t.mux = .finished result → s.mux = .finished result := by
  cases moves with
  | muxStops waiting signalled =>
    rcases waiting with at_ | at_ <;> rw [at_] <;> exact ⟨rfl, rfl, nofun, rfl, nofun⟩
  | muxLooks at_ | muxTakes at_ =>
    rw [at_]
    exact ⟨rfl, rfl, fun _ => rfl, rfl, nofun⟩
  | muxWaits at_ =>
    rw [at_]
    refine ⟨rfl, rfl, fun _ => rfl, ?_, ?_⟩ <;> dsimp only <;> split <;> first | rfl | nofun
  | muxWrites | muxDrops | muxFinalizes => cases alone
  | _ => exact ⟨rfl, rfl, id, rfl, fun _ => id⟩

/-- The file of a WAV recording whose header is the placeholder, or that of the counts. -/
def wavFile (inputFormat : PcmFormat) (riffSize dataSize : Nat) (audio torn : Bytes) : Bytes :=
  (wavHeader inputFormat.channels inputFormat.sampleRate inputFormat.bitDepth riffSize dataSize).bytes ++ (audio ++ torn)

/-- What is in the file of a WAV session: the accepted packets, and behind them what a failed write has left. -/
structure WavTracks (path : String) (inputFormat : PcmFormat) (r : Recorder WavMuxer capacity) : Prop where
  outputFile : r.session.outputFile = path
  opened : r.session.mux.gone = false → ∃ w torn, r.muxer.writer = some w ∧
    Buffered w r.world path (wavFile inputFormat 0 0 (packetBytes r.session.written) torn) ∧
      r.muxer.bytesWritten = BitVec.ofNat 32 (packetBytes r.session.written).length ∧
        (r.session.mux.left = false → torn = [])
  closed : ∀ result, r.session.mux = .finished (.ok result) → ∃ (n : BitVec 32) (torn : Bytes),
    n = BitVec.ofNat 32 (packetBytes r.session.written).length ∧ r.world.files path =
      some (wavFile inputFormat (36#32 + n).toNat n.toNat (packetBytes r.session.written) torn)

/-- The file of a session whose mux task has not finished. -/
theorem WavTracks.of_running {path : String} {inputFormat : PcmFormat} {r : Recorder WavMuxer capacity}
    (outputFile : r.session.outputFile = path) (running : r.session.mux.gone = false)
    (opened : ∃ w torn, r.muxer.writer = some w ∧
      Buffered w r.world path (wavFile inputFormat 0 0 (packetBytes r.session.written) torn) ∧
        r.muxer.bytesWritten = BitVec.ofNat 32 (packetBytes r.session.written).length ∧
          (r.session.mux.left = false → torn = [])) : WavTracks path inputFormat r := by
  refine ⟨outputFile, fun _ => opened, ?_⟩
  intro result finished
  rw [finished] at running
  cases running

theorem WavTracks.started {path codec : String} {inputFormat : PcmFormat} {bitrateKbps : BitVec 32} {world world' : World}
    {muxer : WavMuxer} (done : WavMuxer.open path inputFormat codec bitrateKbps (.new, world) = .ok () (muxer, world')) :
    WavTracks path inputFormat (⟨.started path codec inputFormat, muxer, world'⟩ : Recorder WavMuxer capacity) := by
  obtain ⟨⟨w, writer, buffered⟩, bytesWritten⟩ := WavMuxer.open_ok rfl done
  exact .of_running rfl rfl ⟨w, [], writer, buffered, bytesWritten, fun _ => rfl⟩

/-- The file of a session whose mux task is about to write. -/
theorem WavTracks.writing {path : String} {inputFormat : PcmFormat} {r : Recorder WavMuxer capacity}
    (before : WavTracks path inputFormat r) {pkt : AudioPacket} (at_write : r.session.mux = .write pkt) :
    r.muxer.Recording r.world path inputFormat 0#32 (packetBytes r.session.written) := by
  obtain ⟨w, torn, writer, buffered, bytesWritten, whole⟩ := before.opened (by rw [at_write]; rfl)
  cases whole (by rw [at_write]; rfl)
  rw [wavFile, List.append_nil] at buffered
  exact ⟨⟨w, writer, buffered⟩, by rw [bytesWritten, BitVec.zero_add]⟩

theorem WavTracks.step {path : String} {inputFormat : PcmFormat} {r t : Recorder WavMuxer capacity}
    (before : WavTracks path inputFormat r) (moves : r.Moves t) : WavTracks path inputFormat t := by
  cases moves with
  | session alone moved =>
    obtain ⟨outputFile, written, left, gone, finished⟩ := (Session.moves_of_step moved).alone alone
    refine ⟨outputFile.trans before.outputFile, ?_, ?_⟩
    · intro inside
      dsimp only
      rw [written]
      obtain ⟨w, torn, writer, buffered, bytesWritten, whole⟩ := before.opened (gone ▸ inside)
      exact ⟨w, torn, writer, buffered, bytesWritten, whole ∘ left⟩
    · intro result done
      dsimp only
      rw [written]
      exact before.closed result (finished _ done)
  | @wrote pkt session muxer world at_write done moved =>
    have recording := WavMuxer.writePacket_ok (before.writing at_write) done
    cases Session.moves_of_step moved with
    | @muxWrites pkt' at_write' =>
      cases at_write.symm.trans at_write'
      obtain ⟨⟨w, writer, buffered⟩, bytesWritten⟩ := recording
      have more : packetBytes (r.session.written ++ [pkt]) = packetBytes r.session.written ++ pkt.data := by
        simp [packetBytes]
      refine .of_running before.outputFile rfl ⟨w, [], writer, ?_, ?_, fun _ => rfl⟩
      · rw [wavFile, List.append_nil]
        exact more ▸ buffered
      · rw [BitVec.zero_add] at bytesWritten
        exact more ▸ bytesWritten
  | @dropped pkt e session muxer world at_write failed moved =>
    obtain ⟨⟨w, writer, buffered⟩, bytesWritten⟩ := before.writing at_write
    obtain ⟨w', part, writer', buffered', same⟩ := WavMuxer.writePacket_error writer buffered failed
    cases Session.moves_of_step moved with
    | muxDrops =>
      refine .of_running before.outputFile rfl ⟨w', part, writer', ?_, ?_, by rintro ⟨⟩⟩
      · rw [wavFile, ← List.append_assoc]
        exact buffered'
      · rw [same, bytesWritten, BitVec.zero_add]
  | finalized done moved =>
    cases Session.moves_of_step moved with
    | muxFinalizes answer at_finalize =>
      obtain ⟨w, torn, writer, buffered, bytesWritten, -⟩ := before.opened (by rw [at_finalize]; rfl)
      obtain ⟨-, file⟩ := WavMuxer.finalize_file ⟨w, writer, buffered⟩ done
      exact ⟨before.outputFile, by rintro ⟨⟩, fun _ _ => ⟨_, torn, bytesWritten, file⟩⟩
  | failed moved =>
    cases Session.moves_of_step moved with
    | muxFinalizes => exact ⟨before.outputFile, by rintro ⟨⟩, by rintro result ⟨⟩⟩

theorem Recorder.wavTracks {r : Recorder WavMuxer capacity}
    (reached : (recorderSystem WavMuxer.new capacity).Reachable r) : ∃ path inputFormat, WavTracks path inputFormat r := by
  apply invariant (S := recorderSystem WavMuxer.new capacity)
    (I := fun r => ∃ path inputFormat, WavTracks path inputFormat r) _ _ reached
  · rintro ⟨session, muxer, world'⟩ ⟨path, inputFormat, codec, bitrateKbps, world, done, rfl⟩
    exact ⟨path, inputFormat, .started done⟩
  · rintro r e t ⟨path, inputFormat, tracks⟩ step
    exact ⟨path, inputFormat, tracks.step (Recorder.moves_of_step step)⟩

/-- The data chunk that the header of `file` declares is `audio`. -/
def DeclaresData (file audio : Bytes) : Prop :=
  ∃ header rest, parse file = some (header, rest) ∧ header.dataSize = audio.length ∧ rest.take header.dataSize = audio

theorem declaresData_wavFile {inputFormat : PcmFormat} {n : BitVec 32} {audio : Bytes} (torn : Bytes)
    (counted : n = BitVec.ofNat 32 audio.length) (small : audio.length < 2 ^ 32) :
    DeclaresData (wavFile inputFormat (36#32 + n).toNat n.toNat audio torn) audio := by
  have size : n.toNat = audio.length := by
    rw [counted, BitVec.toNat_ofNat, Nat.mod_eq_of_lt small]
  have parsed := parse_bytes (wavHeader_fits inputFormat.channels inputFormat.sampleRate inputFormat.bitDepth
    (36#32 + n).isLt n.isLt) (audio ++ torn)
  refine ⟨_, _, parsed, size, ?_⟩
  change (audio ++ torn).take n.toNat = audio
  rw [size, List.take_left]

/-- **The summary of a session counts an exact prefix of what was sent, for every container, and the file of a WAV
session below 4 GiB declares just these bytes.** -/
theorem session_summary_exact :
    (∀ {M : Type} [AudioMuxer M] {new : M} {capacity : Nat} {r : Recorder M capacity},
      (recorderSystem new capacity).Reachable r → r.session.ExactPrefix) ∧
    ∀ {capacity : Nat} {r : Recorder WavMuxer capacity} {info : SessionInfo},
      (recorderSystem WavMuxer.new capacity).Reachable r → r.session.stop = .returned (.ok info) →
        info.bytesWritten < 2 ^ 32 → ∃ file, r.world.files info.outputFile = some file ∧
          DeclaresData file (packetBytes r.session.written) := by
  constructor
  · intro M _ new capacity r reached
    obtain ⟨flows, counts, -⟩ := Recorder.known reached
    exact Session.exactPrefix flows counts
  · intro capacity r info reached stopped small
    obtain ⟨-, counts, ended⟩ := Recorder.known reached
    obtain ⟨path, inputFormat, tracks⟩ := Recorder.wavTracks reached
    obtain ⟨result, done⟩ := ended info stopped
    obtain ⟨n, torn, counted, stored⟩ := tracks.closed result done
    obtain ⟨rfl, -⟩ := counts.returned info stopped
    have bytes : (r.session.info r.session.result).bytesWritten = (packetBytes r.session.written).length := counts.bytes
    rw [← tracks.outputFile] at stored
    exact ⟨_, stored, declaresData_wavFile torn counted (bytes ▸ small)⟩

/-- A frame is accepted and written, `stop` is called, and the tasks end. -/
def takeStopped : List RecorderEvent :=
  [.session (.accept silentFrame), .session .encoderLook, .session .encoderRecv, .session .encoderSend,
    .session .muxLook, .session .muxRecv, .write, .session .stop, .session .encoderLook, .session .stopEncoder,
    .session .muxLook, .finalize, .session .stopMux]

theorem session_summary_exact_take : ∃ (r : Recorder WavMuxer 8) (info : SessionInfo) (file : Bytes),
    r.session.stop = .returned (.ok info) ∧ info.framesCaptured = 1 ∧ r.session.ExactPrefix ∧
      r.world.files info.outputFile = some file ∧ DeclaresData file [0#8, 0#8, 0#8, 0#8] := by
  obtain ⟨r, reached, stopped, written⟩ : ∃ r : Recorder WavMuxer 8, (recorderSystem WavMuxer.new 8).Reachable r ∧
      r.session.stop = .returned (.ok ⟨"session", "take.wav", 1, 0, 4, "libopus", 48000#32, 2#16, 0#32⟩) ∧
        packetBytes r.session.written = [0#8, 0#8, 0#8, 0#8] := by
    refine ⟨?last, ⟨⟨_, _, _⟩, takeStopped, ⟨"take.wav", silentFrame.format, "libopus", 128#32, ⟨fun _ => none, []⟩, rfl,
      rfl⟩, ?run⟩, ?stopped⟩
    case run => rfl
    case stopped => exact ⟨rfl, rfl⟩
  obtain ⟨file, stored, declares⟩ := session_summary_exact.2 reached stopped (by decide)
  exact ⟨r, _, file, stopped, rfl, session_summary_exact.1 reached, stored, written ▸ declares⟩

end StereoMix.Encode
