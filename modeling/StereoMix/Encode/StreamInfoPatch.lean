import StereoMix.Encode.FlacFile

/-!
# The patched STREAMINFO

`open` writes STREAMINFO with a total of zero and `finalize` patches five bytes of it in place, keeping the
nibble they share with the sample size. What is then in the file is STREAMINFO built with the total, and no byte
after it has changed since the writer was flushed for the patch.
-/

namespace StereoMix.Encode

open ByteFile FileSystem FlacFormat BitString BitReader

/-- The bytes in the file when `finalize` has written the last block and flushed, before it patches the total. -/
def BeforePatch (m : FlacMuxer) (world : World) (path : String) (pcmFormat : PcmFormat) (codecName : String)
    (bitrateKbps : BitVec 32) (packets : List AudioPacket) (before : Bytes) : Prop :=
  ∃ m₁ world₁ w w₁ world₂,
    (do FlacMuxer.open path pcmFormat codecName bitrateKbps
        packets.forM FlacMuxer.writePacket
        FlacMuxer.finishBlocks) (m, world) = .ok () (m₁, world₁) ∧
    m₁.writer = some w ∧ flushAndUnwrap (w, world₁) = .ok () (w₁, world₂) ∧ world₂.files path = some before

theorem take_streamHeader (f : PcmFormat) (ts : BitVec 64) (frames : Bytes) :
    (streamHeader f ts ++ frames).take 42 = streamHeader f ts :=
  List.take_left' (FlacMuxer.length_streamHeader f ts)

theorem drop_streamHeader (f : PcmFormat) (ts : BitVec 64) (frames : Bytes) :
    (streamHeader f ts ++ frames).drop 42 = frames :=
  List.drop_left' (FlacMuxer.length_streamHeader f ts)

/-- The file before the patch holds the frames behind STREAMINFO with a total of zero, the file after it the same
frames behind STREAMINFO with the total. -/
theorem patched_file {m m' : FlacMuxer} {world world' : World} {path : String} {f : PcmFormat} {codecName : String}
    {bitrateKbps : BitVec 32} {packets : List AudioPacket} (closed : m.writer = none) (chans : 1 ≤ f.channels.toNat)
    (done : recording FlacMuxer path f codecName bitrateKbps packets (m, world) = .ok () (m', world')) :
    ∃ frames, BeforePatch m world path f codecName bitrateKbps packets (streamHeader f 0#64 ++ frames) ∧
      world'.files path = some
        (streamHeader f (BitVec.ofNat 64 ((packetSamples packets).length / f.channels.toNat)) ++ frames) := by
  obtain ⟨⟨⟩, ⟨m₁, world₁⟩, opened, done⟩ := bind_eq_ok.1 done
  obtain ⟨⟨⟩, ⟨m₂, world₂⟩, written, finalized⟩ := bind_eq_ok.1 done
  obtain ⟨m₃, world₃, finished⟩ := FlacMuxer.finishBlocks_of_finalize finalized
  obtain ⟨total, w, writer, buffered⟩ :=
    FlacMuxer.finishBlocks_packets (fun _ => chans) (FlacMuxer.open_ok closed opened) written finished
  refine ⟨flacFrames f (blocksOf f (packetSamples packets)), ?_, ?_⟩
  · obtain ⟨w', world₄, patched, -, -⟩ := FlacMuxer.patchTotal_of_finalize finished writer finalized
    obtain ⟨⟨⟩, ⟨w₁, world₅⟩, flushed, -⟩ := bind_eq_ok.1 patched
    refine ⟨m₃, world₃, w, w₁, world₅, ?_, writer, flushed, (flushAndUnwrap_ok buffered flushed).stored⟩
    exact bind_eq_ok.2 ⟨(), _, opened, bind_eq_ok.2 ⟨(), _, written, finished⟩⟩
  · rw [← total]
    exact (FlacMuxer.finalize_file finished writer buffered finalized).2

/-- **Patching STREAMINFO is building it.** The first 42 bytes of a finished file are the marker, the block header
and STREAMINFO built with the recording's total, its fields read back as the four values, and every later byte is
as it was before the patch. -/
theorem patched_streaminfo_is_built {m m' : FlacMuxer} {world world' : World} {path : String} {pcmFormat : PcmFormat}
    {codecName : String} {bitrateKbps : BitVec 32} {packets : List AudioPacket} {ts : Nat} (closed : m.writer = none)
    (rate : pcmFormat.sampleRate.toNat < 2 ^ 20) (chans : 1 ≤ pcmFormat.channels.toNat ∧ pcmFormat.channels.toNat ≤ 8)
    (depth : 1 ≤ pcmFormat.bitDepth.toNat ∧ pcmFormat.bitDepth.toNat ≤ 32)
    (samples : ts = (packetSamples packets).length / pcmFormat.channels.toNat) (total : ts < 2 ^ 36)
    (done : recording FlacMuxer path pcmFormat codecName bitrateKbps packets (m, world) = .ok () (m', world')) :
    ∃ before after, BeforePatch m world path pcmFormat codecName bitrateKbps packets before ∧
      world'.files path = some after ∧
      after.take 42 = [0x66#8, 0x4C#8, 0x61#8, 0x43#8] ++ ([0x80#8, 0x00#8, 0x00#8, 0x22#8] ++
        buildStreaminfo 4096#16 4096#16 pcmFormat.sampleRate pcmFormat.channels pcmFormat.bitDepth
          (BitVec.ofNat 64 ts)) ∧
      streamInfo.run (ofBytes ((after.take 42).drop 8)) = some (⟨4096, 4096, 0, 0, pcmFormat.sampleRate.toNat,
        pcmFormat.channels.toNat, pcmFormat.bitDepth.toNat, ts, 0⟩, []) ∧
      after.drop 42 = before.drop 42 := by
  obtain ⟨frames, before, after⟩ := patched_file closed chans.1 done
  rw [← samples] at after
  have value : (BitVec.ofNat 64 ts).toNat % 2 ^ 36 = ts := by
    rw [BitVec.toNat_ofNat]
    omega
  have fields : streamInfo.run (ofBytes (buildStreaminfo 4096#16 4096#16 pcmFormat.sampleRate pcmFormat.channels
      pcmFormat.bitDepth (BitVec.ofNat 64 ts)) ++ []) = _ := reads_buildStreaminfo rate chans depth []
  rw [List.append_nil, value] at fields
  refine ⟨_, _, before, after, take_streamHeader _ _ _, ?_, ?_⟩
  · rw [take_streamHeader]
    exact fields
  · rw [drop_streamHeader, drop_streamHeader]

theorem patched_streaminfo_is_built_stereo : ∃ m' world', recording FlacMuxer "take.flac" ⟨44100#32, 2#16, 24#16⟩ "flac"
      0#32 [⟨[1#8, 0#8, 255#8, 255#8], 0#64, 1#64, true⟩] (.new, ⟨fun _ => none, []⟩) = .ok () (m', world') ∧
    ∃ after, world'.files "take.flac" = some after ∧
      streamInfo.run (ofBytes ((after.take 42).drop 8)) = some (⟨4096, 4096, 0, 0, 44100, 2, 24, 1, 0⟩, []) := by
  obtain ⟨m', world', done⟩ := FlacMuxer.recording_quiet ⟨fun _ => none, []⟩ .new "take.flac" ⟨44100#32, 2#16, 24#16⟩
    "flac" 0#32 [⟨[1#8, 0#8, 255#8, 255#8], 0#64, 1#64, true⟩] rfl (fun _ => by decide) rfl
  obtain ⟨before, after, -, stored, -, fields, -⟩ :=
    patched_streaminfo_is_built rfl (by decide) (by decide) (by decide) rfl (by decide) done
  exact ⟨m', world', done, after, stored, fields⟩

end StereoMix.Encode
