import Mathlib.Data.List.Infix
import StereoMix.Lib.CutStream
import StereoMix.Encode.SessionFlac

/-!
# A FLAC recording that is cut off

The process dies while a session records: on disk is what the buffered writer had passed on, a prefix of the stream.
From any prefix a player gets the samples of the complete blocks in it, bit for bit, and no others.
-/

namespace StereoMix.Encode

open EventSystem ByteFile FileSystem FlacFormat BitString BitReader Interleaved

variable {f : PcmFormat} {xs : List (BitVec 16)}

/-- What the muxer has written after `n` complete blocks of the samples `xs`. -/
def streamUpTo (f : PcmFormat) (xs : List (BitVec 16)) (n : Nat) : Bytes :=
  streamHeader f 0#64 ++ flacFrames f (firstBlocks (blockSize f) n xs)

theorem take_firstBlocks {size n N : Nat} (below : n ≤ N) (xs : List (BitVec 16)) :
    (firstBlocks size N xs).take n = firstBlocks size n xs := by
  rw [firstBlocks, ← List.map_take, List.take_range, Nat.min_eq_left below, firstBlocks]

theorem take_zipIdx {α : Type} (xs : List α) (n : Nat) : xs.zipIdx.take n = (xs.take n).zipIdx := by
  apply List.ext_getElem?
  intro i
  simp only [List.getElem?_take, List.getElem?_zipIdx]
  split <;> rfl

/-- The stream only grows. -/
theorem streamUpTo_first {n N : Nat} (below : n ≤ N) : streamUpTo f xs n <+: streamUpTo f xs N := by
  refine (List.prefix_append_right_inj _).2 ?_
  rw [← take_firstBlocks below]
  unfold flacFrames framesFrom
  rw [← take_zipIdx]
  exact List.IsPrefix.flatMap (List.take_prefix n _) _

theorem length_streamUpTo (f : PcmFormat) (xs : List (BitVec 16)) (n : Nat) :
    (streamUpTo f xs n).length = 42 + (flacFrames f (firstBlocks (blockSize f) n xs)).length := by
  rw [streamUpTo, List.length_append, FlacMuxer.length_streamHeader]

theorem length_of_mem_firstBlocks {n : Nat} (inside : n * blockSize f ≤ xs.length) {b : List (BitVec 16)}
    (member : b ∈ firstBlocks (blockSize f) n xs) : b.length = blockSize f := by
  obtain ⟨i, below, rfl⟩ := List.mem_map.1 member
  exact length_blockAt inside (List.mem_range.1 below)

theorem wholeBlock_of_firstBlocks {n : Nat} (chans : 1 ≤ f.channels.toNat) (inside : n * blockSize f ≤ xs.length)
    {b : List (BitVec 16)} (member : b ∈ firstBlocks (blockSize f) n xs) : WholeBlock f.channels.toNat b := by
  have size := length_of_mem_firstBlocks inside member
  have frames : b.length / f.channels.toNat = FLAC_BLOCK_SIZE := by
    rw [size, blockSize, Nat.mul_div_cancel _ (by omega)]
  exact ⟨by rw [frames]; decide, frames.le, by rw [frames, size]⟩

/-- The first samples of a channel are those of the first frames. -/
theorem take_channel {c k : Nat} (n : Nat) (inside : k < c) (enough : n * c ≤ xs.length) :
    (channel c k xs).take n = channel c k (xs.take (n * c)) := by
  have front : (xs.take (n * c)).length = n * c := by rw [List.length_take, Nat.min_eq_left enough]
  have size : (channel c k (xs.take (n * c))).length = n := by
    rw [length_channel, front, Nat.mul_div_cancel _ (by omega)]
  conv_lhs => rw [← List.take_append_drop (n * c) xs, channel_append inside front]
  exact List.take_left' size

/-- The STREAMINFO of a recording that was not finished: no total. -/
def openInfo (f : PcmFormat) : StreamInfo := ⟨4096, 4096, 0, 0, f.sampleRate.toNat, f.channels.toNat, 16, 0, 0⟩

theorem reads_openHeader (chans : 1 ≤ f.channels.toNat ∧ f.channels.toNat ≤ 8) (depth : f.bitDepth = 16#16)
    (rate : f.sampleRate.toNat < 2 ^ 20) : Reads preamble (ofBytes (streamHeader f 0#64)) (openInfo f) :=
  reads_streamHeader chans depth rate (show 0 < 2 ^ 36 by decide)

/-- A coded block of a recording is read back. -/
theorem reads_block {n : Nat} (chans : 1 ≤ f.channels.toNat ∧ f.channels.toNat ≤ 8)
    (inside : n * blockSize f ≤ xs.length) (few : n ≤ 2 ^ 26) {p : List (BitVec 16) × Nat}
    (member : p ∈ (firstBlocks (blockSize f) n xs).zipIdx) :
    ∃ rate, Reads (frame (openInfo f)) (ofBytes (encodeFrame p.1 f.channels f.sampleRate 16#16 (BitVec.ofNat 32 p.2)))
      ⟨⟨p.2, FLAC_BLOCK_SIZE, rate, f.channels.toNat, 16⟩,
        (List.range f.channels.toNat).map fun k => (channel f.channels.toNat k p.1).map BitVec.toInt⟩ := by
  obtain ⟨block, index⟩ := p
  have size := length_of_mem_firstBlocks inside (List.fst_mem_of_mem_zipIdx member)
  have below := List.snd_lt_of_mem_zipIdx member
  rw [length_firstBlocks] at below
  have number : (BitVec.ofNat 32 index).toNat = index := by
    rw [BitVec.toNat_ofNat]
    omega
  have coded := reads_encodeFrame f.sampleRate (BitVec.ofNat 32 index) (by decide) size chans
    (by rw [number]; omega) (by decide) (show Admits (openInfo f) f.channels FLAC_BLOCK_SIZE from ⟨rfl, rfl, le_rfl⟩)
  rwa [number] at coded

/-- **A stream cut after its header** gives the complete blocks that lie before the cut. -/
theorem salvage_cut (chans : 1 ≤ f.channels.toNat ∧ f.channels.toNat ≤ 8) (depth : f.bitDepth = 16#16)
    (rate : f.sampleRate.toNat < 2 ^ 20) {N : Nat} (inside : N * blockSize f ≤ xs.length) (few : N ≤ 2 ^ 26) {cut : Bytes}
    (start : cut <+: streamUpTo f xs N) (head : 42 ≤ cut.length) :
    ∃ n d, n ≤ N ∧ streamUpTo f xs n <+: cut ∧ (n < N → cut.length < (streamUpTo f xs (n + 1)).length) ∧
      salvage cut = some d ∧ d.info = openInfo f ∧ d.frames.map (fun fr => fr.header.number) = List.range n ∧
      ∀ k, k < f.channels.toNat →
        d.channel k = ((channel f.channels.toNat k xs).take (n * FLAC_BLOCK_SIZE)).map BitVec.toInt := by
  obtain ⟨body, rfl⟩ : streamHeader f 0#64 <+: cut :=
    List.prefix_of_prefix_length_le (List.prefix_append _ _) start (by rwa [FlacMuxer.length_streamHeader])
  have inBody : body <+: flacFrames f (firstBlocks (blockSize f) N xs) := (List.prefix_append_right_inj _).1 start
  choose! rates reads using fun p (member : p ∈ (firstBlocks (blockSize f) N xs).zipIdx) =>
    reads_block chans inside few member
  let write (p : List (BitVec 16) × Nat) : List Bool :=
    ofBytes (encodeFrame p.1 f.channels f.sampleRate 16#16 (BitVec.ofNat 32 p.2))
  have count : (firstBlocks (blockSize f) N xs).zipIdx.length = N := by rw [List.length_zipIdx, length_firstBlocks]
  have written {n : Nat} (below : n ≤ N) : ((firstBlocks (blockSize f) N xs).zipIdx.take n).flatMap write =
      ofBytes (flacFrames f (firstBlocks (blockSize f) n xs)) := by
    rw [take_zipIdx, take_firstBlocks below, flacFrames, framesFrom, depth]
    simp only [write, ofBytes, List.flatMap_assoc]
  have cutBits : ofBytes body <+: (firstBlocks (blockSize f) N xs).zipIdx.flatMap write := by
    have all := written le_rfl
    rw [List.take_of_length_le count.le] at all
    obtain ⟨rest, whole⟩ := inBody
    rw [all, ← whole, ofBytes_append]
    exact List.prefix_append _ _
  obtain ⟨n, range, pieces, before, last⟩ := complete_cut (extends_frame (openInfo f)) (frame_nil _) _ reads cutBits
    (Nat.le_refl (ofBytes body).length)
  rw [count] at range last
  rw [written range] at before
  have fits := before.length_le
  rw [length_ofBytes, length_ofBytes] at fits
  have preambled : preamble.run (ofBytes (streamHeader f 0#64 ++ body)) = some (openInfo f, ofBytes body) := by
    rw [ofBytes_append]
    exact reads_openHeader chans depth rate (ofBytes body)
  refine ⟨n, _, range, ?_, fun below => ?_, by rw [salvage, preambled, Option.map_some], rfl, ?_, fun k inChannels => ?_⟩
  · refine List.prefix_of_prefix_length_le (streamUpTo_first range) start ?_
    rw [length_streamUpTo, List.length_append, FlacMuxer.length_streamHeader]
    omega
  · have shorter := last below
    rw [written (n := n + 1) below, length_ofBytes, length_ofBytes] at shorter
    rw [length_streamUpTo, List.length_append, FlacMuxer.length_streamHeader]
    omega
  · rw [pieces, List.map_map, take_zipIdx, take_firstBlocks range]
    calc _ = (firstBlocks (blockSize f) n xs).zipIdx.map Prod.snd := rfl
      _ = List.range n := by rw [List.zipIdx_map_snd, length_firstBlocks, List.range_eq_range']
  · have inside' : n * blockSize f ≤ xs.length := (Nat.mul_le_mul_right _ range).trans inside
    have whole : ∀ b ∈ firstBlocks (blockSize f) n xs, WholeBlock f.channels.toNat b := fun b member =>
      wholeBlock_of_firstBlocks chans.1 inside' member
    have samples : (complete (frame (openInfo f)) (ofBytes body).length (ofBytes body)).map
        (fun fr => fr.samples.getD k []) = (firstBlocks (blockSize f) n xs).map
          fun b => (channel f.channels.toNat k b).map BitVec.toInt := by
      rw [pieces, take_zipIdx, take_firstBlocks range, List.map_map]
      calc _ = (firstBlocks (blockSize f) n xs).zipIdx.map fun p => (channel f.channels.toNat k p.1).map BitVec.toInt :=
            List.map_congr_left fun p _ => by simp [inChannels]
        _ = _ := by
            conv_rhs => rw [← List.zipIdx_map_fst 0 (firstBlocks (blockSize f) n xs), List.map_map]
            rfl
    have front : n * FLAC_BLOCK_SIZE * f.channels.toNat = n * blockSize f := Nat.mul_assoc ..
    rw [Stream.channel, List.flatMap_def, samples, take_channel _ inChannels (front ▸ inside'), front,
      ← flatten_firstBlocks inside', ← flatMap_channel inChannels whole, List.map_flatMap, List.flatMap_def]

/-- Without its whole header nothing is read. -/
theorem salvage_short (chans : 1 ≤ f.channels.toNat ∧ f.channels.toNat ≤ 8) (depth : f.bitDepth = 16#16)
    (rate : f.sampleRate.toNat < 2 ^ 20) {N : Nat} {cut : Bytes} (start : cut <+: streamUpTo f xs N)
    (short : cut.length < 42) : salvage cut = none := by
  have inside : cut <+: streamHeader f 0#64 :=
    List.prefix_of_prefix_length_le start (List.prefix_append _ _) (by rw [FlacMuxer.length_streamHeader]; omega)
  have reads := reads_openHeader chans depth rate
  have bits : ofBytes cut <+: ofBytes (streamHeader f 0#64) := List.IsPrefix.flatMap inside _
  have rejected := extends_preamble.run_eq_none reads bits (by
    rw [length_ofBytes, length_ofBytes, FlacMuxer.length_streamHeader]
    omega)
  rw [salvage, rejected, Option.map_none]

variable {capacity : Nat}

/-- While a session records and has dropped nothing, on disk is a prefix of the stream of what was sent. -/
theorem FlacTracks.stored {path : String} {r : Recorder FlacMuxer capacity} (tracks : FlacTracks path f r)
    (flows : r.session.Flows) (even : ∀ frame ∈ r.session.pcm.sent, frame.data.length % 2 = 0)
    (recording : r.session.mux.gone = false) (kept : r.session.framesDropped = 0) :
    ∃ file, r.world.files path = some file ∧ file <+:
      streamUpTo f (frameSamples r.session.pcm.sent) ((frameSamples r.session.pcm.sent).length / blockSize f) := by
  obtain ⟨⟨w, writer, buffered⟩, -, -, -, inside, -⟩ := tracks.opened recording kept
  obtain ⟨-, file, stored, -, stream⟩ := buffered
  obtain ⟨later, sent⟩ := flows.written_first
  have samples : frameSamples r.session.pcm.sent = packetSamples r.session.written ++ packetSamples later := by
    rw [← packetSamples_ofFrame even, ← sent, packetSamples, List.flatMap_append, packetSamples, packetSamples]
  have more : (packetSamples r.session.written).length / blockSize f ≤
      (frameSamples r.session.pcm.sent).length / blockSize f := by
    apply Nat.div_le_div_right
    rw [samples, List.length_append]
    omega
  refine ⟨file, stored, .trans ⟨w.buf, ?_⟩ (streamUpTo_first more)⟩
  rw [streamUpTo, samples, firstBlocks_append _ inside, ← stream]

/-- **A FLAC session that is cut off keeps its complete blocks.** Whatever the interleaving, if the process dies before
the mux task has finished and no packet was dropped, then from every prefix of what is on disk that has the header a
player gets exactly the samples of the complete blocks in it, and they are the first that were sent. -/
theorem interrupted_session_salvaged {path codec : String} {bitrateKbps : BitVec 32} {world : World}
    {r₀ r : Recorder FlacMuxer capacity} {es : List RecorderEvent}
    (chans : 1 ≤ f.channels.toNat ∧ f.channels.toNat ≤ 8) (depth : f.bitDepth = 16#16)
    (rate : f.sampleRate.toNat < 2 ^ 20)
    (opened : FlacMuxer.open path f codec bitrateKbps (.new, world) = .ok () (r₀.muxer, r₀.world))
    (started : r₀.session = .started path codec f)
    (run : (recorderSystem FlacMuxer.new capacity).run r₀ es = some r)
    (even : ∀ frame ∈ r.session.pcm.sent, frame.data.length % 2 = 0)
    (few : (frameSamples r.session.pcm.sent).length / blockSize f ≤ 2 ^ 26)
    (recording : r.session.mux.gone = false) (kept : r.session.framesDropped = 0) :
    ∃ file, r.world.files path = some file ∧ ∀ cut, cut <+: file →
      (cut.length < 42 → salvage cut = none) ∧
      (42 ≤ cut.length → ∃ n d, salvage cut = some d ∧
        streamUpTo f (frameSamples r.session.pcm.sent) n <+: cut ∧
        (n < (frameSamples r.session.pcm.sent).length / blockSize f →
          cut.length < (streamUpTo f (frameSamples r.session.pcm.sent) (n + 1)).length) ∧
        d.info.sampleRate = f.sampleRate.toNat ∧ d.info.channels = f.channels.toNat ∧ d.info.totalSamples = 0 ∧
        d.frames.map (fun fr => fr.header.number) = List.range n ∧
        ∀ k, k < f.channels.toNat → d.channel k =
          ((channel f.channels.toNat k (frameSamples r.session.pcm.sent)).take (n * FLAC_BLOCK_SIZE)).map
            BitVec.toInt) := by
  have reached : (recorderSystem FlacMuxer.new capacity).Reachable r :=
    ⟨r₀, es, ⟨path, f, codec, bitrateKbps, world, opened, started⟩, run⟩
  have tracks : FlacTracks path f r := FlacTracks.of_run chans.1 opened started run
  obtain ⟨flows, -, -⟩ := Recorder.known reached
  obtain ⟨file, stored, stream⟩ := tracks.stored flows even recording kept
  refine ⟨file, stored, fun cut front => ⟨fun short => ?_, fun head => ?_⟩⟩
  · exact salvage_short chans depth rate (front.trans stream) short
  · obtain ⟨n, d, -, before, last, salvaged, info, numbers, channels⟩ :=
      salvage_cut chans depth rate (Nat.div_mul_le_self _ _) few (front.trans stream) head
    refine ⟨n, d, salvaged, before, last, ?_, ?_, ?_, numbers, channels⟩ <;> rw [info] <;> rfl

theorem interrupted_session_salvaged_take : ∃ (r : Recorder FlacMuxer 8) (file : Bytes),
    (recorderSystem FlacMuxer.new 8).run loudStart (loudTake.take 7) = some r ∧
      r.world.files "take.flac" = some file ∧ ∀ cut, cut <+: file → cut.length < 42 → salvage cut = none := by
  have ran : ((recorderSystem FlacMuxer.new 8).run loudStart (loudTake.take 7)).map
      (fun r => (r.session.mux.gone, r.session.framesDropped, r.session.pcm.sent)) = some (false, 0, [loudFrame]) := by
    decide +kernel
  obtain ⟨r, run, same⟩ := Option.map_eq_some_iff.1 ran
  obtain ⟨recording, rest⟩ := Prod.mk.inj same
  obtain ⟨kept, sent⟩ := Prod.mk.inj rest
  have opened : FlacMuxer.open "take.flac" loudFrame.format "flac" 128#32 (.new, ⟨fun _ => none, []⟩) =
      .ok () (loudStart.muxer, loudStart.world) := rfl
  obtain ⟨file, stored, cuts⟩ := interrupted_session_salvaged (by decide) rfl (by decide) opened rfl run
    (by rw [sent]; decide) (by rw [sent]; decide) recording kept
  exact ⟨r, file, run, stored, fun cut front => (cuts cut front).1⟩

end StereoMix.Encode
