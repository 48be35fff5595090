import StereoMix.Encode.Mp3Muxer
import StereoMix.Encode.SequentialTake

/-!
# The MP3 file of a session

What a session leaves in an MP3 file is what LAME gave: for the samples of the captured frames in order, one call for
each frame, and for its flush at the end. A call that failed leaves a part of what LAME gave for the dropped frame,
nothing where LAME failed.
-/

namespace StereoMix.Encode

open EventSystem ByteFile FileSystem

variable {Encoder : Type} {lame : Lame Encoder} {capacity : Nat}

/-- What LAME gives for packets, with one call for each, and the encoder that is left; an error gives nothing. -/
def Lame.stream (lame : Lame Encoder) : List AudioPacket → Encoder → Bytes × Encoder
  | [], encoder => ([], encoder)
  | pkt :: packets, encoder =>
    let (given, encoder) := lame.encode (i16Samples pkt.data) encoder
    let (rest, encoder) := Lame.stream lame packets encoder
    (given.toOption.getD [] ++ rest, encoder)

/-- What LAME gives for the end of a stream. -/
def Lame.flushed (lame : Lame Encoder) (encoder : Encoder) : Bytes := (lame.flush encoder).1.toOption.getD []

theorem Lame.stream_append (xs ys : List AudioPacket) (encoder : Encoder) :
    lame.stream (xs ++ ys) encoder = ((lame.stream xs encoder).1 ++ (lame.stream ys (lame.stream xs encoder).2).1,
      (lame.stream ys (lame.stream xs encoder).2).2) := by
  induction xs generalizing encoder with
  | nil => rfl
  | cons pkt xs ih => simp only [List.cons_append, Lame.stream, ih, List.append_assoc]

theorem Lame.stream_singleton {pkt : AudioPacket} {encoder encoder' : Encoder} {given : Except String Bytes}
    (encoded : lame.encode (i16Samples pkt.data) encoder = (given, encoder')) :
    lame.stream [pkt] encoder = (given.toOption.getD [], encoder') := by
  simp [Lame.stream, encoded]

namespace Mp3Muxer

/-! ## One call -/

theorem writes_putBuf (buf : Bytes) : Writes (putBuf buf) buf := by
  unfold putBuf
  split
  · rename_i empty
    intro w w' world world' path c start done
    cases done
    rwa [List.isEmpty_iff.1 empty, List.append_nil]
  · exact writes_put buf

/-- A failed write has appended a part of what LAME gave. -/
theorem putBuf_error {buf c : Bytes} {w w' : BufWriter} {world world' : World} {path : String} {e : EncodeError}
    (start : Buffered w world path c) (failed : putBuf buf (w, world) = .error e (w', world')) :
    ∃ part, part <+: buf ∧ Buffered w' world' path (c ++ part) := by
  unfold putBuf at failed
  split at failed
  · cases failed
  · obtain ⟨text, refused, -⟩ := adaptExcept_eq_error.1 failed
    exact BufWriter.writeAll_error start refused

/-- A muxer between `open` and `finalize`: what its writer will leave, and LAME's state. -/
structure Encoding (m : Mp3Muxer lame) (world : World) (path : String) (c : Bytes) (encoder : Encoder) : Prop where
  writer : ∃ w, m.writer = some w ∧ Buffered w world path c
  encoder : m.encoder = some encoder

variable {m m' : Mp3Muxer lame} {world world' : World} {path : String} {c : Bytes} {encoder : Encoder}

theorem onWriter_ok {call : EStateM EncodeError (BufWriter × World) Unit} {w : BufWriter}
    (done : onWriter m call w world = .ok () (m', world')) :
    ∃ w', call (w, world) = .ok () (w', world') ∧ m' = { m with writer := some w' } := by
  unfold onWriter at done
  split at done
  · cases done
  · rename_i w' world₁ called
    cases done
    exact ⟨w', called, rfl⟩

theorem onWriter_error {call : EStateM EncodeError (BufWriter × World) Unit} {w : BufWriter} {e : EncodeError}
    (failed : onWriter m call w world = .error e (m', world')) :
    ∃ w', call (w, world) = .error e (w', world') ∧ m' = { m with writer := some w' } := by
  unfold onWriter at failed
  split at failed
  · rename_i e' w' world₁ called
    cases failed
    exact ⟨w', called, rfl⟩
  · cases failed

theorem open_ok {pcmFormat : PcmFormat} {codecName : String} {bitrateKbps : BitVec 32} (closed : m.writer = none)
    (done : Mp3Muxer.open path pcmFormat codecName bitrateKbps (m, world) = .ok () (m', world')) :
    ∃ encoder, lame.builtFor pcmFormat bitrateKbps = .ok encoder ∧ m'.Encoding world' path [] encoder := by
  unfold Mp3Muxer.open at done
  dsimp only at done
  split at done
  · cases done
  · rename_i file world₁ created
    split at done
    · cases done
    · rename_i encoder built
      cases done
      refine ⟨encoder, built, ⟨.new file, rfl, ?_⟩, rfl⟩
      rw [closed]
      exact create_ok created

theorem writePacket_ok {pkt : AudioPacket} (before : m.Encoding world path c encoder)
    (done : writePacket pkt (m, world) = .ok () (m', world')) :
    m'.Encoding world' path (c ++ (lame.stream [pkt] encoder).1) (lame.stream [pkt] encoder).2 := by
  obtain ⟨⟨w, writer, buffered⟩, built⟩ := before
  unfold writePacket at done
  dsimp only at done
  rw [built, writer] at done
  dsimp only at done
  split at done
  · cases done
  · rename_i mp3Buf encoder' encoded
    obtain ⟨w', put, rfl⟩ := onWriter_ok done
    rw [Lame.stream_singleton encoded]
    exact ⟨⟨w', rfl, writes_putBuf _ buffered put⟩, rfl⟩

theorem writePacket_error {pkt : AudioPacket} {e : EncodeError} (before : m.Encoding world path c encoder)
    (failed : writePacket pkt (m, world) = .error e (m', world')) : ∃ part, part <+: (lame.stream [pkt] encoder).1 ∧
      m'.Encoding world' path (c ++ part) (lame.stream [pkt] encoder).2 := by
  obtain ⟨⟨w, writer, buffered⟩, built⟩ := before
  unfold writePacket at failed
  dsimp only at failed
  rw [built, writer] at failed
  dsimp only at failed
  split at failed
  · rename_i text encoder' encoded
    cases failed
    rw [Lame.stream_singleton encoded]
    refine ⟨[], List.nil_prefix, ⟨w, rfl, ?_⟩, rfl⟩
    rwa [List.append_nil]
  · rename_i mp3Buf encoder' encoded
    obtain ⟨w', refused, rfl⟩ := onWriter_error failed
    obtain ⟨part, first, buffered'⟩ := putBuf_error buffered refused
    rw [Lame.stream_singleton encoded]
    exact ⟨part, first, ⟨w', rfl, buffered'⟩, rfl⟩

theorem finalize_file (before : m.Encoding world path c encoder)
    (done : finalize (m, world) = .ok () (m', world')) : world'.files path = some (c ++ lame.flushed encoder) := by
  obtain ⟨⟨w, writer, buffered⟩, built⟩ := before
  unfold finalize at done
  dsimp only at done
  rw [built] at done
  dsimp only at done
  split at done
  · cases done
  · rename_i mp3Buf encoder' flushed
    rw [writer] at done
    obtain ⟨w', put, -⟩ := onWriter_ok done
    obtain ⟨⟨⟩, ⟨w₁, world₁⟩, put, emptied⟩ := bind_eq_ok.1 put
    have buffered' := writes_putBuf _ buffered put
    rw [Lame.flushed, flushed]
    exact (BufWriter.flushBuf_ok buffered' (adaptExcept_eq_ok.1 emptied)).1.stored

/-- Packets that are all written. -/
theorem writePackets_ok {packets : List AudioPacket} (before : m.Encoding world path [] encoder)
    (done : packets.forM writePacket (m, world) = .ok () (m', world')) :
    m'.Encoding world' path (lame.stream packets encoder).1 (lame.stream packets encoder).2 := by
  refine forM_induction (I := fun packets s => s.1.Encoding s.2 path (lame.stream packets encoder).1
    (lame.stream packets encoder).2) ?_ before done
  rintro written pkt ⟨m, world⟩ ⟨m', world'⟩ before done
  rw [Lame.stream_append]
  exact writePacket_ok before done

end Mp3Muxer

/-! ## Sessions -/

/-- **An MP3 session leaves what LAME gave for the captured frames.** -/
theorem session_mp3_file {f : PcmFormat} {path codec : String} {bitrateKbps : BitVec 32} {world : World}
    {r₀ r : Recorder (Mp3Muxer lame) capacity} {es : List RecorderEvent} {info : SessionInfo}
    (opened : Mp3Muxer.open path f codec bitrateKbps (.new, world) = .ok () (r₀.muxer, r₀.world))
    (started : r₀.session = .started path codec f)
    (run : (recorderSystem (M := Mp3Muxer lame) .new capacity).run r₀ es = some r)
    (stopped : r.session.stop = .returned (.ok info)) :
    ∃ encoder, lame.builtFor f bitrateKbps = .ok encoder ∧
      let made := lame.stream (r.session.capturedPackets info) encoder
      info.framesDropped = 0 ∧ r.world.files path = some (made.1 ++ lame.flushed made.2) ∨
        ∃ frame part, info.framesDropped = 1 ∧ r.session.pcm.sent[info.framesCaptured]? = some frame ∧
          part <+: (lame.stream [.ofFrame frame] made.2).1 ∧
            r.world.files path = some (made.1 ++ part ++ lame.flushed (lame.stream [.ofFrame frame] made.2).2) := by
  have init : (recorderSystem (M := Mp3Muxer lame) .new capacity).init r₀ :=
    ⟨path, f, codec, bitrateKbps, world, opened, started⟩
  obtain ⟨⟨m, world₁⟩, ⟨m', world₂⟩, wrote, finalized, ended⟩ := calls_of_summary init run stopped
  obtain ⟨encoder, built, start⟩ := Mp3Muxer.open_ok rfl opened
  have encoding := Mp3Muxer.writePackets_ok start wrote
  refine ⟨encoder, built, ?_⟩
  intro made
  rcases ended with ⟨none_dropped, same⟩ | ⟨frame, e, dropped, sent, failed⟩
  · cases same
    exact .inl ⟨none_dropped, Mp3Muxer.finalize_file encoding finalized⟩
  · obtain ⟨part, first, encoding'⟩ := Mp3Muxer.writePacket_error encoding failed
    exact .inr ⟨frame, part, dropped, sent, first, Mp3Muxer.finalize_file encoding' finalized⟩

/-- As LAME with fewer samples than an MP3 frame has: nothing is given before the flush, which gives the frame. -/
def shortLame : Lame (List (BitVec 16)) :=
  .succeeding [] (fun samples held => ([], held ++ samples)) fun held =>
    (if held.isEmpty then [] else [0xFF#8, 0xFB#8, 0x94#8, 0x64#8], [])

/-- An MP3 session, its muxer opened. -/
def mp3Start : Recorder (Mp3Muxer shortLame) 8 :=
  let opened := left (Mp3Muxer.open "take.mp3" silentFrame.format "mp3" 128#32 (.new, emptyWorld))
  ⟨.started "take.mp3" "mp3" silentFrame.format, opened.1, opened.2⟩

theorem session_mp3_file_first : ∃ r : Recorder (Mp3Muxer shortLame) 8,
    (recorderSystem (M := Mp3Muxer shortLame) .new 8).run mp3Start firstOfTwo = some r ∧
      r.world.files "take.mp3" = some [0xFF#8, 0xFB#8, 0x94#8, 0x64#8] := by
  obtain ⟨r, run, stopped, sent⟩ : ∃ r : Recorder (Mp3Muxer shortLame) 8,
      (recorderSystem (M := Mp3Muxer shortLame) .new 8).run mp3Start firstOfTwo = some r ∧
        r.session.stop = .returned (.ok ⟨"session", "take.mp3", 1, 0, 4, "mp3", 48000#32, 2#16, 0#32⟩) ∧
          r.session.pcm.sent = [silentFrame, silentFrame] := ⟨_, rfl, rfl, rfl⟩
  have opened : Mp3Muxer.open "take.mp3" silentFrame.format "mp3" 128#32 (.new, emptyWorld) =
      .ok () (mp3Start.muxer, mp3Start.world) := rfl
  refine ⟨r, run, ?_⟩
  obtain ⟨encoder, built, files⟩ := session_mp3_file opened rfl run stopped
  cases built
  rcases files with ⟨-, stored⟩ | ⟨frame, part, dropped, -⟩
  · rw [Session.capturedPackets, sent] at stored
    exact stored
  · cases dropped

end StereoMix.Encode
