import StereoMix.Encode.SessionFile
import StereoMix.Encode.FlacFile
import StereoMix.Encode.MuxerCalls

/-!
# The FLAC file of a session

A recording session on a FLAC muxer, whatever its tasks' interleaving and the failures of the operating system: when
`stop` returns a summary without dropped frames, the format's decoder reads from the file the samples of the frames that
the summary counts, which are the first that were sent.
-/

namespace StereoMix.Encode

open EventSystem ByteFile FileSystem FlacFormat Interleaved

variable {capacity : Nat}

/-- Without the muxer's calls a session drops nothing. -/
theorem Session.Moves.framesDropped {s t : Session capacity} {e : SessionEvent} (moves : s.Moves e t)
    (alone : e.asksMuxer = false) : t.framesDropped = s.framesDropped := by
  cases moves with
  | muxDrops => cases alone
  | _ => rfl

/-- What is in the file of a FLAC session that has dropped nothing. -/
structure FlacTracks (path : String) (f : PcmFormat) (r : Recorder FlacMuxer capacity) : Prop where
  outputFile : r.session.outputFile = path
  opened : r.session.mux.gone = false → r.session.framesDropped = 0 →
    r.muxer.Progress r.world path f (packetSamples r.session.written)
      ((packetSamples r.session.written).length / blockSize f)
  closed : ∀ result, r.session.mux = .finished (.ok result) → r.session.framesDropped = 0 →
    r.world.files path = some (flacFile f (packetSamples r.session.written))

/-- The file of a session whose mux task has not finished. -/
theorem FlacTracks.of_running {path : String} {f : PcmFormat} {r : Recorder FlacMuxer capacity}
    (outputFile : r.session.outputFile = path) (running : r.session.mux.gone = false)
    (opened : r.session.framesDropped = 0 → r.muxer.Progress r.world path f (packetSamples r.session.written)
      ((packetSamples r.session.written).length / blockSize f)) : FlacTracks path f r := by
  refine ⟨outputFile, fun _ => opened, ?_⟩
  intro result finished
  rw [finished] at running
  cases running

theorem FlacTracks.started {path codec : String} {f : PcmFormat} {bitrateKbps : BitVec 32} {world world' : World}
    {muxer : FlacMuxer} (done : FlacMuxer.open path f codec bitrateKbps (.new, world) = .ok () (muxer, world')) :
    FlacTracks path f (⟨.started path codec f, muxer, world'⟩ : Recorder FlacMuxer capacity) := by
  refine .of_running rfl rfl fun _ => ?_
  have opened := FlacMuxer.open_ok rfl done
  rwa [← Nat.zero_div (blockSize f)] at opened

theorem FlacTracks.step {path : String} {f : PcmFormat} {r t : Recorder FlacMuxer capacity}
    (chans : 1 ≤ f.channels.toNat) (before : FlacTracks path f r) (moves : r.Moves t) : FlacTracks path f t := by
  cases moves with
  | session alone moved =>
    have moves := Session.moves_of_step moved
    obtain ⟨outputFile, written, -, gone, finished⟩ := moves.alone alone
    have dropped := moves.framesDropped alone
    refine ⟨outputFile.trans before.outputFile, ?_, ?_⟩
    · intro inside none_dropped
      dsimp only
      rw [written]
      exact before.opened (gone ▸ inside) (dropped ▸ none_dropped)
    · intro result done none_dropped
      dsimp only
      rw [written]
      exact before.closed result (finished _ done) (dropped ▸ none_dropped)
  | @wrote pkt session muxer world at_write done moved =>
    cases Session.moves_of_step moved with
    | @muxWrites pkt' at_write' =>
      cases at_write.symm.trans at_write'
      refine .of_running before.outputFile rfl fun none_dropped => ?_
      have progress := before.opened (by rw [at_write]; rfl) none_dropped
      have more : packetSamples (r.session.written ++ [pkt]) = packetSamples r.session.written ++ i16Samples pkt.data := by
        simp [packetSamples]
      dsimp only
      rw [more]
      exact FlacMuxer.writePacket_ok chans progress done
  | dropped at_write failed moved =>
    cases Session.moves_of_step moved with
    | muxDrops => exact .of_running before.outputFile rfl fun none_dropped => absurd none_dropped (Nat.succ_ne_zero _)
  | finalized done moved =>
    cases Session.moves_of_step moved with
    | muxFinalizes answer at_finalize =>
      refine ⟨before.outputFile, by rintro ⟨⟩, fun _ _ none_dropped => ?_⟩
      have progress := before.opened (by rw [at_finalize]; rfl) none_dropped
      obtain ⟨muxer, world, finished⟩ := FlacMuxer.finishBlocks_of_finalize done
      obtain ⟨total, w, writer, buffered⟩ := FlacMuxer.finishBlocks_ok chans progress finished
      have file := (FlacMuxer.finalize_file finished writer buffered done).2
      rwa [total] at file
  | failed moved =>
    cases Session.moves_of_step moved with
    | muxFinalizes => exact ⟨before.outputFile, by rintro ⟨⟩, by rintro result ⟨⟩⟩

theorem FlacTracks.of_run {f : PcmFormat} {path codec : String} {bitrateKbps : BitVec 32} {world : World}
    {r₀ r : Recorder FlacMuxer capacity} {es : List RecorderEvent} (chans : 1 ≤ f.channels.toNat)
    (opened : FlacMuxer.open path f codec bitrateKbps (.new, world) = .ok () (r₀.muxer, r₀.world))
    (started : r₀.session = .started path codec f)
    (run : (recorderSystem FlacMuxer.new capacity).run r₀ es = some r) : FlacTracks path f r := by
  refine run_induction (C := fun _ _ => True) (I := FlacTracks path f) ?_ ?_ (meets_true r₀ es) run
  · exact fun s e t before _ step => before.step chans (Recorder.moves_of_step step)
  · obtain ⟨session, muxer, world'⟩ := r₀
    cases started
    exact .started opened

/-- The frames that a summary counts. -/
def Session.captured (s : Session capacity) (info : SessionInfo) : List PcmFrame := s.pcm.sent.take info.framesCaptured

/-- The samples of frames, in order. -/
def frameSamples (frames : List PcmFrame) : List (BitVec 16) := i16Samples (frames.flatMap fun frame => frame.data)

theorem packetSamples_ofFrame {frames : List PcmFrame} (even : ∀ frame ∈ frames, frame.data.length % 2 = 0) :
    packetSamples (frames.map .ofFrame) = frameSamples frames := by
  have bytes : packetBytes (frames.map .ofFrame) = frames.flatMap fun frame => frame.data := by
    simp [packetBytes, AudioPacket.ofFrame, List.flatMap_map]
  rw [packetSamples_eq, bytes, frameSamples]
  intro pkt member
  obtain ⟨frame, sent, rfl⟩ := List.mem_map.1 member
  exact even frame sent

/-- **A session that drops no frame is lossless.** Whatever the interleaving and the failures, when `stop` returns a
summary without dropped frames the decoder reads the samples of the counted frames from the file. -/
theorem session_flac_lossless {f : PcmFormat} {path codec : String} {bitrateKbps : BitVec 32} {world : World}
    {r₀ r : Recorder FlacMuxer capacity} {es : List RecorderEvent} {info : SessionInfo}
    (chans : 1 ≤ f.channels.toNat ∧ f.channels.toNat ≤ 8) (depth : f.bitDepth = 16#16)
    (rate : f.sampleRate.toNat < 2 ^ 20)
    (opened : FlacMuxer.open path f codec bitrateKbps (.new, world) = .ok () (r₀.muxer, r₀.world))
    (started : r₀.session = .started path codec f)
    (run : (recorderSystem FlacMuxer.new capacity).run r₀ es = some r)
    (even : ∀ frame ∈ r.session.pcm.sent, frame.data.length % 2 = 0)
    (stopped : r.session.stop = .returned (.ok info)) (kept : info.framesDropped = 0)
    (total : (frameSamples (r.session.captured info)).length / f.channels.toNat < 2 ^ 36) :
    (r.session.captured info).length = info.framesCaptured ∧
    ∃ file d, r.world.files path = some file ∧ decode file = some d ∧ d.info.sampleRate = f.sampleRate.toNat ∧
      d.info.channels = f.channels.toNat ∧
      d.info.totalSamples = (frameSamples (r.session.captured info)).length / f.channels.toNat ∧
      ∀ k, k < f.channels.toNat →
        d.channel k = (channel f.channels.toNat k (frameSamples (r.session.captured info))).map BitVec.toInt := by
  have reached : (recorderSystem FlacMuxer.new capacity).Reachable r :=
    ⟨r₀, es, ⟨path, f, codec, bitrateKbps, world, opened, started⟩, run⟩
  have tracks : FlacTracks path f r := .of_run chans.1 opened started run
  obtain ⟨flows, counts, ended⟩ := Recorder.known reached
  obtain ⟨result, finished⟩ := ended info stopped
  obtain ⟨written, -, length, -⟩ := Session.exactPrefix flows counts info stopped
  have dropped : r.session.framesDropped = 0 := by
    obtain ⟨rfl, -⟩ := counts.returned info stopped
    exact kept
  have samples : packetSamples r.session.written = frameSamples (r.session.captured info) := by
    rw [written]
    exact packetSamples_ofFrame fun frame member => even frame (List.mem_of_mem_take member)
  have stored := tracks.closed result finished dropped
  rw [samples] at stored
  obtain ⟨d, decoded, described, -, -, channels⟩ := decode_flacFile chans depth rate total
  refine ⟨?_, _, d, stored, decoded, ?_, ?_, ?_, channels⟩
  · rw [written, List.length_map] at length
    exact length
  · rw [described]
    rfl
  · rw [described]
    rfl
  · rw [described]
    rfl

/-- One stereo frame that is not silent. -/
def loudFrame : PcmFrame := ⟨[1#8, 0#8, 255#8, 255#8], ⟨48000#32, 2#16, 16#16⟩, 0#64, 0#64, 1#32⟩

/-- A session of such frames, its muxer opened. -/
def loudStart : Recorder FlacMuxer 8 :=
  let opened := left (FlacMuxer.open "take.flac" loudFrame.format "flac" 128#32 (.new, ⟨fun _ => none, []⟩))
  ⟨.started "take.flac" "flac" loudFrame.format, opened.1, opened.2⟩

/-- A frame is accepted and written, `stop` is called, and the tasks end. -/
def loudTake : List RecorderEvent :=
  [.session (.accept loudFrame), .session .encoderLook, .session .encoderRecv, .session .encoderSend,
    .session .muxLook, .session .muxRecv, .write, .session .stop, .session .encoderLook, .session .stopEncoder,
    .session .muxLook, .finalize, .session .stopMux]

theorem session_flac_lossless_stereo : ∃ (r : Recorder FlacMuxer 8) (file : Bytes) (d : Stream),
    (recorderSystem FlacMuxer.new 8).run loudStart loudTake = some r ∧ r.world.files "take.flac" = some file ∧
      decode file = some d ∧ d.channel 0 = [1] ∧ d.channel 1 = [-1] := by
  have ran : ((recorderSystem FlacMuxer.new 8).run loudStart loudTake).map
      (fun r => (r.session.stop, r.session.pcm.sent)) =
        some (.returned (.ok ⟨"session", "take.flac", 1, 0, 4, "flac", 48000#32, 2#16, 0#32⟩), [loudFrame]) := by
    decide +kernel
  obtain ⟨r, run, same⟩ := Option.map_eq_some_iff.1 ran
  obtain ⟨stopped, sent⟩ := Prod.mk.inj same
  have opened : FlacMuxer.open "take.flac" loudFrame.format "flac" 128#32 (.new, ⟨fun _ => none, []⟩) =
      .ok () (loudStart.muxer, loudStart.world) := rfl
  have even : ∀ frame ∈ r.session.pcm.sent, frame.data.length % 2 = 0 := by
    rw [sent]
    decide
  obtain ⟨-, file, d, stored, decoded, -, -, -, samples⟩ := session_flac_lossless (by decide) rfl (by decide) opened rfl
    run even stopped rfl (by rw [Session.captured, sent]; decide)
  rw [Session.captured, sent] at samples
  exact ⟨r, file, d, run, stored, decoded, samples 0 (by decide), samples 1 (by decide)⟩

end StereoMix.Encode
