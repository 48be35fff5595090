import StereoMix.Encode.Muxer
import StereoMix.Lib.WavFormat

/-!
# The file a WAV recording leaves

A finished recording is a 44-byte header and the bytes of its packets. The header's two size fields come from a
`u32` that counts the packet bytes and wraps, so they are exact as long as the whole file is below 4 GiB.
-/

namespace StereoMix.Encode

open ByteFile FileSystem WavFormat

/-- The header fields of a PCM format, with the two size fields. -/
def wavHeader (channels : BitVec 16) (sampleRate : BitVec 32) (bits : BitVec 16) (riffSize dataSize : Nat) : Header where
  riffSize := riffSize
  fmtSize := 16
  audioFormat := 1
  channels := channels.toNat
  sampleRate := sampleRate.toNat
  byteRate := (sampleRate * (channels * (bits / 8#16)).setWidth 32).toNat
  blockAlign := (channels * (bits / 8#16)).toNat
  bitsPerSample := bits.toNat
  dataSize := dataSize

theorem wavHeader_fits (channels : BitVec 16) (sampleRate : BitVec 32) (bits : BitVec 16) {riffSize dataSize : Nat}
    (riff : riffSize < 256 ^ 4) (data : dataSize < 256 ^ 4) :
    (wavHeader channels sampleRate bits riffSize dataSize).Fits where
  riffSize := riff
  fmtSize := show 16 < 256 ^ 4 by decide
  audioFormat := show 1 < 256 ^ 2 by decide
  channels := channels.isLt
  sampleRate := sampleRate.isLt
  byteRate := BitVec.isLt _
  blockAlign := BitVec.isLt _
  bitsPerSample := bits.isLt
  dataSize := data

/-! ## One call -/

namespace WavMuxer

theorem writes_writeRiffHeader (channels : BitVec 16) (sampleRate : BitVec 32) (bits : BitVec 16) :
    Writes (writeRiffHeader channels sampleRate bits) (wavHeader channels sampleRate bits 0 0).bytes :=
  (writes_put _).bind ((writes_put _).bind ((writes_put _).bind ((writes_put _).bind ((writes_put _).bind
    ((writes_put _).bind ((writes_put _).bind ((writes_put _).bind ((writes_put _).bind ((writes_put _).bind
    ((writes_put _).bind ((writes_put _).bind (writes_put _))))))))))))

theorem total_writeRiffHeader (channels : BitVec 16) (sampleRate : BitVec 32) (bits : BitVec 16) :
    Total (writeRiffHeader channels sampleRate bits) :=
  (total_put _).bind fun _ => (total_put _).bind fun _ => (total_put _).bind fun _ => (total_put _).bind fun _ =>
  (total_put _).bind fun _ => (total_put _).bind fun _ => (total_put _).bind fun _ => (total_put _).bind fun _ =>
  (total_put _).bind fun _ => (total_put _).bind fun _ => (total_put _).bind fun _ => (total_put _).bind fun _ => total_put _

/-- The state of a muxer between `open` and `finalize`: its writer will leave the placeholder header and the
audio so far, and the counter has wrapped around it. -/
structure Recording (m : WavMuxer) (world : World) (path : String) (pcmFormat : PcmFormat) (start : BitVec 32)
    (audio : Bytes) : Prop where
  writer : ∃ w, m.writer = some w ∧ Buffered w world path
    ((wavHeader pcmFormat.channels pcmFormat.sampleRate pcmFormat.bitDepth 0 0).bytes ++ audio)
  bytesWritten : m.bytesWritten = start + BitVec.ofNat 32 audio.length

/-- A muxer without a file starts a recording; its counter goes on from where it was. -/
theorem open_ok {m m' : WavMuxer} {world world' : World} {path : String} {pcmFormat : PcmFormat} {codecName : String}
    {bitrateKbps : BitVec 32} (closed : m.writer = none)
    (done : WavMuxer.open path pcmFormat codecName bitrateKbps (m, world) = .ok () (m', world')) :
    Recording m' world' path pcmFormat m.bytesWritten [] := by
  unfold WavMuxer.open at done
  dsimp only at done
  split at done
  · cases done
  · rename_i file world₁ created
    split at done
    · cases done
    · rename_i w world₂ written
      cases done
      have started := writes_writeRiffHeader _ _ _ (create_ok created) written
      rw [List.nil_append] at started
      refine ⟨⟨w, rfl, ?_⟩, by simp⟩
      rw [closed, List.append_nil]
      exact started

theorem writePacket_ok {m m' : WavMuxer} {world world' : World} {path : String} {pcmFormat : PcmFormat}
    {start : BitVec 32} {audio : Bytes} {pkt : AudioPacket} (before : Recording m world path pcmFormat start audio)
    (done : writePacket pkt (m, world) = .ok () (m', world')) :
    Recording m' world' path pcmFormat start (audio ++ pkt.data) := by
  obtain ⟨w, writer, buffered⟩ := before.writer
  unfold writePacket at done
  dsimp only at done
  rw [writer] at done
  dsimp only at done
  split at done
  · cases done
  · rename_i w' world₁ written
    cases done
    refine ⟨⟨w', rfl, ?_⟩, ?_⟩
    · rw [← List.append_assoc]
      exact writes_put _ buffered written
    · rw [before.bytesWritten, List.length_append, BitVec.ofNat_add, BitVec.add_assoc]

/-- A failed write leaves a part of the packet, uncounted. -/
theorem writePacket_error {m m' : WavMuxer} {world world' : World} {path : String} {c : Bytes} {pkt : AudioPacket}
    {w : BufWriter} {e : EncodeError} (writer : m.writer = some w) (buffered : Buffered w world path c)
    (failed : writePacket pkt (m, world) = .error e (m', world')) :
    ∃ w' part, m'.writer = some w' ∧ Buffered w' world' path (c ++ part) ∧ m'.bytesWritten = m.bytesWritten := by
  unfold writePacket at failed
  dsimp only at failed
  rw [writer] at failed
  dsimp only at failed
  split at failed
  · rename_i e' w' world₁ refused
    cases failed
    obtain ⟨text, refused, -⟩ := adaptExcept_eq_error.1 refused
    obtain ⟨part, -, buffered'⟩ := BufWriter.writeAll_error buffered refused
    exact ⟨w', part, rfl, buffered', rfl⟩
  · cases failed

/-- The packets of a recording append their bytes. -/
theorem writePackets_ok {m m' : WavMuxer} {world world' : World} {path : String} {pcmFormat : PcmFormat}
    {start : BitVec 32} {packets : List AudioPacket} (before : Recording m world path pcmFormat start [])
    (done : packets.forM writePacket (m, world) = .ok () (m', world')) :
    Recording m' world' path pcmFormat start (packetBytes packets) := by
  refine forM_induction (I := fun written s => Recording s.1 s.2 path pcmFormat start (packetBytes written))
    (fun written pkt s t state run => ?_) before done
  have after := writePacket_ok state run
  simpa [packetBytes] using after

/-- What a finished recording leaves: the header with the sizes of the counter, and what was behind it. -/
theorem finalize_file {m m' : WavMuxer} {world world' : World} {path : String} {pcmFormat : PcmFormat} {audio : Bytes}
    (opened : ∃ w, m.writer = some w ∧ Buffered w world path
      ((wavHeader pcmFormat.channels pcmFormat.sampleRate pcmFormat.bitDepth 0 0).bytes ++ audio))
    (done : finalize (m, world) = .ok () (m', world')) :
    m'.writer = none ∧ world'.files path = some
      ((wavHeader pcmFormat.channels pcmFormat.sampleRate pcmFormat.bitDepth (36#32 + m.bytesWritten).toNat
        m.bytesWritten.toNat).bytes ++ audio) := by
  obtain ⟨w, writer, buffered⟩ := opened
  unfold finalize at done
  dsimp only at done
  rw [writer] at done
  dsimp only at done
  split at done
  · cases done
  · rename_i w' world₁ patched
    cases done
    unfold patchHeader at patched
    obtain ⟨⟨⟩, ⟨w₁, v₁⟩, flushed, patched⟩ := bind_eq_ok.1 patched
    obtain ⟨⟨⟩, ⟨w₂, v₂⟩, seek4, patched⟩ := bind_eq_ok.1 patched
    obtain ⟨⟨⟩, ⟨w₃, v₃⟩, riff, patched⟩ := bind_eq_ok.1 patched
    obtain ⟨⟨⟩, ⟨w₄, v₄⟩, seek40, data⟩ := bind_eq_ok.1 patched
    have whole := flushAndUnwrap_ok buffered flushed
    -- the RIFF size lies behind the first tag, the data size behind the middle of the header
    rw [Header.bytes_eq, List.append_assoc] at whole
    have first := overwrite_ok whole rfl (by rw [length_leBytes]; rfl) (by simp [leBytes]) seek4 riff
    rw [List.append_assoc _ _ audio, ← List.append_assoc _ _ (leBytes 4 _ ++ audio), ← List.append_assoc _ _ audio]
      at first
    have second := overwrite_ok first (by simp [Header.length_middle, riffTag]) (by simp) (by simp [leBytes])
      seek40 data
    refine ⟨rfl, ?_⟩
    rw [BufWriter.files_drop second, second.stored, Header.bytes_eq]
    simp [wavHeader, Header.middle]

/-- The header and the audio a finished recording leaves. -/
theorem finalize_ok {m m' : WavMuxer} {world world' : World} {path : String} {pcmFormat : PcmFormat}
    {start : BitVec 32} {audio : Bytes} (before : Recording m world path pcmFormat start audio)
    (done : finalize (m, world) = .ok () (m', world')) :
    m'.writer = none ∧ world'.files path = some
      ((wavHeader pcmFormat.channels pcmFormat.sampleRate pcmFormat.bitDepth (36#32 + m.bytesWritten).toNat
        m.bytesWritten.toNat).bytes ++ audio) := finalize_file before.writer done

/-! ## A recording without a failing call -/

theorem open_quiet {world : World} (m : WavMuxer) (path : String) (pcmFormat : PcmFormat) (codecName : String)
    (bitrateKbps : BitVec 32) (quiet : world.Quiet) :
    ∃ m' world', WavMuxer.open path pcmFormat codecName bitrateKbps (m, world) = .ok () (m', world') ∧
      m'.writer.isSome ∧ world'.Quiet := by
  obtain ⟨file, world₁, created, quiet₁⟩ := create_quiet path quiet
  obtain ⟨⟨⟩, w, world₂, written, quiet₂⟩ := total_writeRiffHeader pcmFormat.channels pcmFormat.sampleRate
    pcmFormat.bitDepth (.new file) world₁ quiet₁
  unfold WavMuxer.open
  dsimp only
  rw [created]
  dsimp only
  rw [written]
  exact ⟨_, _, rfl, rfl, dropWriter_quiet _ quiet₂⟩

theorem writePackets_quiet {world : World} {m : WavMuxer} (packets : List AudioPacket) (opened : m.writer.isSome)
    (quiet : world.Quiet) :
    ∃ m' world', packets.forM writePacket (m, world) = .ok () (m', world') ∧ m'.writer.isSome ∧ world'.Quiet := by
  induction packets generalizing m world with
  | nil => exact ⟨m, world, rfl, opened, quiet⟩
  | cons pkt packets ih =>
    obtain ⟨w, writer⟩ := Option.isSome_iff_exists.1 opened
    obtain ⟨⟨⟩, w', world₁, written, quiet₁⟩ := total_put pkt.data w world quiet
    have first : ∃ m₁, writePacket pkt (m, world) = .ok () (m₁, world₁) ∧ m₁.writer.isSome := by
      unfold writePacket
      dsimp only
      rw [writer]
      dsimp only
      rw [written]
      exact ⟨_, rfl, rfl⟩
    obtain ⟨m₁, run, opened₁⟩ := first
    obtain ⟨m', world', rest, last⟩ := ih opened₁ quiet₁
    exact ⟨m', world', bind_eq_ok.2 ⟨(), _, run, rest⟩, last⟩

theorem total_patchHeader (bytesWritten : BitVec 32) : Total (patchHeader bytesWritten) :=
  total_flushAndUnwrap.bind fun _ => (total_onOutputFile (.seek _)).bind fun _ =>
    (total_onOutputFile (.writeAll _)).bind fun _ => (total_onOutputFile (.seek _)).bind fun _ =>
    total_onOutputFile (.writeAll _)

theorem total_finalize : Total finalize := by
  intro m world quiet
  unfold finalize
  dsimp only
  split
  · exact ⟨(), _, _, rfl, quiet⟩
  · rename_i w writer
    obtain ⟨⟨⟩, w', world', patched, quiet'⟩ := total_patchHeader m.bytesWritten w world quiet
    rw [patched]
    exact ⟨(), _, _, rfl, w'.drop_quiet quiet'⟩

/-- A recording succeeds when the operating system fails no call, and fails none later. -/
theorem recording_stays_quiet (world : World) (m : WavMuxer) (path : String) (pcmFormat : PcmFormat) (codecName : String)
    (bitrateKbps : BitVec 32) (packets : List AudioPacket) (quiet : world.Quiet) : ∃ m' world',
      recording WavMuxer path pcmFormat codecName bitrateKbps packets (m, world) = .ok () (m', world') ∧ world'.Quiet := by
  obtain ⟨m₁, world₁, opened, writer, quiet₁⟩ := open_quiet m path pcmFormat codecName bitrateKbps quiet
  obtain ⟨m₂, world₂, written, -, quiet₂⟩ := writePackets_quiet packets writer quiet₁
  obtain ⟨⟨⟩, m₃, world₃, finished, quiet₃⟩ := total_finalize m₂ world₂ quiet₂
  exact ⟨m₃, world₃, bind_eq_ok.2 ⟨(), _, opened, bind_eq_ok.2 ⟨(), _, written, finished⟩⟩, quiet₃⟩

theorem recording_quiet (world : World) (m : WavMuxer) (path : String) (pcmFormat : PcmFormat) (codecName : String)
    (bitrateKbps : BitVec 32) (packets : List AudioPacket) (quiet : world.Quiet) :
    ∃ m' world', recording WavMuxer path pcmFormat codecName bitrateKbps packets (m, world) = .ok () (m', world') := by
  obtain ⟨m', world', done, -⟩ := recording_stays_quiet world m path pcmFormat codecName bitrateKbps packets quiet
  exact ⟨m', world', done⟩

/-! ## The finished file -/

/-- **What a recording leaves.** The header has the format's fields and the sizes of the wrapped counter, and the
packet bytes follow. -/
theorem recording_file {m m' : WavMuxer} {world world' : World} {path : String} {pcmFormat : PcmFormat}
    {codecName : String} {bitrateKbps : BitVec 32} {packets : List AudioPacket} (closed : m.writer = none)
    (done : recording WavMuxer path pcmFormat codecName bitrateKbps packets (m, world) = .ok () (m', world')) :
    world'.files path = some
      ((wavHeader pcmFormat.channels pcmFormat.sampleRate pcmFormat.bitDepth
        (36#32 + (m.bytesWritten + BitVec.ofNat 32 (packetBytes packets).length)).toNat
        (m.bytesWritten + BitVec.ofNat 32 (packetBytes packets).length).toNat).bytes ++ packetBytes packets) := by
  obtain ⟨⟨⟩, ⟨m₁, world₁⟩, opened, done⟩ := bind_eq_ok.1 done
  obtain ⟨⟨⟩, ⟨m₂, world₂⟩, written, finished⟩ := bind_eq_ok.1 done
  have state := writePackets_ok (open_ok closed opened) written
  have file := (finalize_ok state finished).2
  rwa [state.bytesWritten] at file

/-- A new muxer counts from zero. -/
theorem recording_new_file {m : WavMuxer} {world world' : World} {path : String} {pcmFormat : PcmFormat}
    {codecName : String} {bitrateKbps : BitVec 32} {packets : List AudioPacket}
    (done : recording WavMuxer path pcmFormat codecName bitrateKbps packets (.new, world) = .ok () (m, world')) :
    world'.files path = some
      ((wavHeader pcmFormat.channels pcmFormat.sampleRate pcmFormat.bitDepth
        ((36 + (packetBytes packets).length) % 2 ^ 32) ((packetBytes packets).length % 2 ^ 32)).bytes ++
        packetBytes packets) := by
  have stored := recording_file rfl done
  have data : (WavMuxer.new.bytesWritten + BitVec.ofNat 32 (packetBytes packets).length).toNat =
      (packetBytes packets).length % 2 ^ 32 := by
    rw [show WavMuxer.new.bytesWritten = 0#32 from rfl, BitVec.zero_add, BitVec.toNat_ofNat]
  have riff : (36#32 + (WavMuxer.new.bytesWritten + BitVec.ofNat 32 (packetBytes packets).length)).toNat =
      (36 + (packetBytes packets).length) % 2 ^ 32 := by
    rw [BitVec.toNat_add, data, BitVec.toNat_ofNat, Nat.add_mod_mod]
  rwa [riff, data] at stored

end WavMuxer

/-- The header of `file` is exact for `audio`: 44 bytes with the tags of a WAV file, both sizes those of the file,
and the fields of the format. -/
def HeaderExact (file : Bytes) (pcmFormat : PcmFormat) (audio : Bytes) : Prop :=
  ∃ h, parse file = some (h, audio) ∧ file.length = 44 + audio.length ∧
    h.dataSize = audio.length ∧ h.riffSize = file.length - 8 ∧ h.fmtSize = 16 ∧ h.audioFormat = 1 ∧
    h.channels = pcmFormat.channels.toNat ∧ h.sampleRate = pcmFormat.sampleRate.toNat ∧
    h.bitsPerSample = pcmFormat.bitDepth.toNat ∧
    h.blockAlign = pcmFormat.channels.toNat * (pcmFormat.bitDepth.toNat / 8) ∧
    h.byteRate = pcmFormat.sampleRate.toNat * (pcmFormat.channels.toNat * (pcmFormat.bitDepth.toNat / 8))

/-- A file with the sizes of a wrapped count is exact just when the count did not wrap. -/
theorem headerExact_iff {pcmFormat : PcmFormat} (audio : Bytes)
    (align : pcmFormat.channels.toNat * (pcmFormat.bitDepth.toNat / 8) < 2 ^ 16)
    (rate : pcmFormat.sampleRate.toNat * (pcmFormat.channels.toNat * (pcmFormat.bitDepth.toNat / 8)) < 2 ^ 32) :
    HeaderExact ((wavHeader pcmFormat.channels pcmFormat.sampleRate pcmFormat.bitDepth
        ((36 + audio.length) % 2 ^ 32) (audio.length % 2 ^ 32)).bytes ++ audio) pcmFormat audio ↔
      36 + audio.length < 2 ^ 32 := by
  have below : ∀ n, n % 2 ^ 32 < 256 ^ 4 := fun n => Nat.mod_lt n (by decide)
  have parsed := parse_bytes (wavHeader_fits pcmFormat.channels pcmFormat.sampleRate pcmFormat.bitDepth
    (below (36 + audio.length)) (below audio.length)) audio
  have size : ∀ h : Header, (h.bytes ++ audio).length = 44 + audio.length := by
    intro h
    rw [List.length_append, h.length_bytes]
  constructor
  · rintro ⟨h, parse, -, -, riff, -⟩
    rw [parsed] at parse
    obtain ⟨rfl, -⟩ := Prod.mk.inj (Option.some.inj parse)
    have wrapped : (36 + audio.length) % 2 ^ 32 = 36 + audio.length := by
      rw [size, show 44 + audio.length - 8 = 36 + audio.length by omega] at riff
      exact riff
    omega
  · intro small
    have blockAlign : (pcmFormat.channels * (pcmFormat.bitDepth / 8#16)).toNat =
        pcmFormat.channels.toNat * (pcmFormat.bitDepth.toNat / 8) := by
      rw [BitVec.toNat_mul, BitVec.toNat_udiv]
      exact Nat.mod_eq_of_lt align
    have byteRate : (pcmFormat.sampleRate * (pcmFormat.channels * (pcmFormat.bitDepth / 8#16)).setWidth 32).toNat =
        pcmFormat.sampleRate.toNat * (pcmFormat.channels.toNat * (pcmFormat.bitDepth.toNat / 8)) := by
      rw [BitVec.toNat_mul, BitVec.toNat_setWidth, blockAlign, Nat.mod_eq_of_lt (lt_trans align (by decide))]
      exact Nat.mod_eq_of_lt rate
    refine ⟨_, parsed, size _, ?_, ?_, rfl, rfl, rfl, rfl, rfl, blockAlign, byteRate⟩
    · exact Nat.mod_eq_of_lt (by omega)
    · rw [size]
      exact (Nat.mod_eq_of_lt small).trans (by omega)

/-- **The header of a finalized WAV file is exact just when the file, without its first 8 bytes, is below 4 GiB.** -/
theorem wav_header_exact_iff {m : WavMuxer} {world world' : World} {path : String} {pcmFormat : PcmFormat}
    {codecName : String} {bitrateKbps : BitVec 32} {packets : List AudioPacket}
    (align : pcmFormat.channels.toNat * (pcmFormat.bitDepth.toNat / 8) < 2 ^ 16)
    (rate : pcmFormat.sampleRate.toNat * (pcmFormat.channels.toNat * (pcmFormat.bitDepth.toNat / 8)) < 2 ^ 32)
    (done : recording WavMuxer path pcmFormat codecName bitrateKbps packets (.new, world) = .ok () (m, world')) :
    ∃ file, world'.files path = some file ∧
      (HeaderExact file pcmFormat (packetBytes packets) ↔ 36 + (packetBytes packets).length < 2 ^ 32) :=
  ⟨_, WavMuxer.recording_new_file done, headerExact_iff _ align rate⟩

theorem wav_header_exact_short : ∃ m world', recording WavMuxer "take.wav" ⟨48000#32, 2#16, 16#16⟩ "pcm" 0#32
      [⟨[1#8, 2#8, 3#8, 4#8], 0#64, 1#64, true⟩] (.new, ⟨fun _ => none, []⟩) = .ok () (m, world') ∧
    ∃ file, world'.files "take.wav" = some file ∧
      (HeaderExact file ⟨48000#32, 2#16, 16#16⟩ (packetBytes [⟨[1#8, 2#8, 3#8, 4#8], 0#64, 1#64, true⟩]) ↔
        36 + (packetBytes [⟨[1#8, 2#8, 3#8, 4#8], 0#64, 1#64, true⟩]).length < 2 ^ 32) := by
  obtain ⟨m, world', done⟩ := WavMuxer.recording_quiet ⟨fun _ => none, []⟩ .new "take.wav"
    ⟨48000#32, 2#16, 16#16⟩ "pcm" 0#32 [⟨[1#8, 2#8, 3#8, 4#8], 0#64, 1#64, true⟩] rfl
  exact ⟨m, world', done, wav_header_exact_iff (by decide) (by decide) done⟩

/-- A take of `n` packets of `size` zero bytes. -/
def silentTake (n size : Nat) : List AudioPacket :=
  List.replicate n ⟨List.replicate size 0#8, 0#64, BitVec.ofNat 64 (size / 4), true⟩

theorem length_silentTake (n size : Nat) : (packetBytes (silentTake n size)).length = n * size := by
  simp [packetBytes, silentTake]

/-- A finished take of 4 GiB whose header is not exact. -/
theorem wav_header_wraps : ∃ m world' file, recording WavMuxer "take.wav" ⟨48000#32, 2#16, 16#16⟩ "pcm" 0#32
      (silentTake 65536 65536) (.new, ⟨fun _ => none, []⟩) = .ok () (m, world') ∧
    world'.files "take.wav" = some file ∧
    ¬ HeaderExact file ⟨48000#32, 2#16, 16#16⟩ (packetBytes (silentTake 65536 65536)) := by
  have long := length_silentTake 65536 65536
  generalize silentTake 65536 65536 = packets at long
  obtain ⟨m, world', done⟩ := WavMuxer.recording_quiet ⟨fun _ => none, []⟩ .new "take.wav"
    ⟨48000#32, 2#16, 16#16⟩ "pcm" 0#32 packets rfl
  refine ⟨m, world', _, done, WavMuxer.recording_new_file done, ?_⟩
  rw [headerExact_iff _ (by decide) (by decide), long]
  decide

end StereoMix.Encode
