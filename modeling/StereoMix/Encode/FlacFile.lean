import StereoMix.Encode.Muxer
import StereoMix.Encode.FlacFrame

/-!
# The file a FLAC recording leaves

The samples of all packets are cut into blocks of 4096 frames and a shorter last one; the muxer's state after any
packets is that of the samples so far (`FlacMuxer.Progress`), however they were cut into packets. The finished
file is STREAMINFO with the total and one coded frame a block, and the format's decoder reads it back whole.
-/

namespace StereoMix.Encode

open ByteFile FileSystem FlacFormat BitString BitReader Interleaved

/-! ## Blocks -/

/-- Block `i` of `size` samples. -/
def blockAt (size : Nat) (xs : List (BitVec 16)) (i : Nat) : List (BitVec 16) := (xs.drop (i * size)).take size

/-- The first `n` blocks. -/
def firstBlocks (size n : Nat) (xs : List (BitVec 16)) : List (List (BitVec 16)) := (List.range n).map (blockAt size xs)

/-- What is left after the complete blocks, cut to whole frames of `c` samples. -/
def lastBlock (size c : Nat) (xs : List (BitVec 16)) : List (List (BitVec 16)) :=
  let remaining := xs.drop (xs.length / size * size)
  if remaining.length / c > 0 then [remaining.take (remaining.length / c * c)] else []

/-- The coded frames of blocks numbered from `start`, end to end. -/
def framesFrom (f : PcmFormat) (start : Nat) (blocks : List (List (BitVec 16))) : Bytes :=
  (blocks.zipIdx start).flatMap fun p => encodeFrame p.1 f.channels f.sampleRate f.bitDepth (BitVec.ofNat 32 p.2)

/-- The coded frames of all blocks. -/
abbrev flacFrames (f : PcmFormat) (blocks : List (List (BitVec 16))) : Bytes := framesFrom f 0 blocks

/-- The 42 bytes before the frames. -/
def streamHeader (f : PcmFormat) (totalSamples : BitVec 64) : Bytes :=
  [0x66#8, 0x4C#8, 0x61#8, 0x43#8] ++ ([0x80#8, 0x00#8, 0x00#8, 0x22#8] ++
    buildStreaminfo (BitVec.ofNat 16 FLAC_BLOCK_SIZE) (BitVec.ofNat 16 FLAC_BLOCK_SIZE) f.sampleRate f.channels
      f.bitDepth totalSamples)

/-- The samples of a block of every channel. -/
abbrev blockSize (f : PcmFormat) : Nat := FLAC_BLOCK_SIZE * f.channels.toNat

theorem blockSize_pos {f : PcmFormat} (chans : 1 ≤ f.channels.toNat) : 0 < blockSize f :=
  Nat.mul_pos (by decide) chans

/-- The blocks of a recording with the samples `xs`. -/
def blocksOf (f : PcmFormat) (xs : List (BitVec 16)) : List (List (BitVec 16)) :=
  firstBlocks (blockSize f) (xs.length / blockSize f) xs ++ lastBlock (blockSize f) f.channels.toNat xs

/-- The whole file for the samples `xs`. -/
def flacFile (f : PcmFormat) (xs : List (BitVec 16)) : Bytes :=
  streamHeader f (BitVec.ofNat 64 (xs.length / f.channels.toNat)) ++ flacFrames f (blocksOf f xs)

theorem flacFrames_append_one (f : PcmFormat) (blocks : List (List (BitVec 16))) (b : List (BitVec 16)) :
    flacFrames f (blocks ++ [b]) = flacFrames f blocks ++
      encodeFrame b f.channels f.sampleRate f.bitDepth (BitVec.ofNat 32 blocks.length) := by
  simp [framesFrom, List.zipIdx_append]

theorem length_firstBlocks (size n : Nat) (xs : List (BitVec 16)) : (firstBlocks size n xs).length = n := by
  simp [firstBlocks]

theorem firstBlocks_succ (size n : Nat) (xs : List (BitVec 16)) :
    firstBlocks size (n + 1) xs = firstBlocks size n xs ++ [blockAt size xs n] := by
  simp [firstBlocks, List.range_succ]

/-- Later samples do not change a complete block. -/
theorem firstBlocks_append {size n : Nat} {xs : List (BitVec 16)} (ys : List (BitVec 16)) (inside : n * size ≤ xs.length) :
    firstBlocks size n (xs ++ ys) = firstBlocks size n xs := by
  apply List.map_congr_left
  intro i member
  have below : i + 1 ≤ n := List.mem_range.1 member
  have reach := Nat.mul_le_mul_right size below
  rw [Nat.succ_mul] at reach
  rw [blockAt, blockAt, List.drop_append_of_le_length (by omega), List.take_append_of_le_length]
  rw [List.length_drop]
  omega

/-- The complete blocks, end to end, are the samples up to the last of them. -/
theorem flatten_firstBlocks {size n : Nat} {xs : List (BitVec 16)} (inside : n * size ≤ xs.length) :
    (firstBlocks size n xs).flatten = xs.take (n * size) := by
  induction n with
  | zero => simp [firstBlocks]
  | succ n ih =>
    have inside' := inside
    rw [Nat.succ_mul] at inside'
    rw [firstBlocks_succ, List.flatten_append, ih (by omega), Nat.succ_mul, List.take_add]
    simp [blockAt]

/-- The whole frames of a recording are those of its complete blocks and those of the rest. -/
theorem wholeFrames_eq {f : PcmFormat} (chans : 1 ≤ f.channels.toNat) (xs : List (BitVec 16)) :
    xs.length / blockSize f * FLAC_BLOCK_SIZE + (xs.drop (xs.length / blockSize f * blockSize f)).length /
      f.channels.toNat = xs.length / f.channels.toNat := by
  have whole : xs.length = (xs.drop (xs.length / blockSize f * blockSize f)).length +
      xs.length / blockSize f * FLAC_BLOCK_SIZE * f.channels.toNat := by
    rw [List.length_drop, Nat.mul_assoc]
    exact (Nat.sub_add_cancel (Nat.div_mul_le_self _ _)).symm
  conv_rhs => rw [whole, Nat.add_mul_div_right _ _ (by omega)]
  exact Nat.add_comm _ _

/-- The samples of packets, in order. -/
def packetSamples (packets : List AudioPacket) : List (BitVec 16) := packets.flatMap fun pkt => i16Samples pkt.data

/-! ## The muxer's state -/

namespace FlacMuxer

/-- The state of a muxer that has taken the samples `xs` and written `n` blocks of them. -/
structure Progress (m : FlacMuxer) (world : World) (path : String) (f : PcmFormat) (xs : List (BitVec 16)) (n : Nat) :
    Prop where
  writer : ∃ w, m.writer = some w ∧
    Buffered w world path (streamHeader f 0#64 ++ flacFrames f (firstBlocks (blockSize f) n xs))
  channels : m.channels = f.channels
  sampleRate : m.sampleRate = f.sampleRate
  bitsPerSample : m.bitsPerSample = f.bitDepth
  inside : n * blockSize f ≤ xs.length
  pcmBuffer : m.pcmBuffer = xs.drop (n * blockSize f)
  frameNumber : m.frameNumber = BitVec.ofNat 32 n
  totalSamples : m.totalSamples = BitVec.ofNat 64 (n * FLAC_BLOCK_SIZE)

variable {m m' : FlacMuxer} {world world' : World} {path : String} {f : PcmFormat} {xs : List (BitVec 16)} {n : Nat}

theorem writes_writeStreamHeader (f : PcmFormat) :
    Writes (writeStreamHeader f.sampleRate f.channels f.bitDepth) (streamHeader f 0#64) :=
  (writes_put _).bind ((writes_put _).bind (writes_put _))

theorem open_ok {codecName : String} {bitrateKbps : BitVec 32} (closed : m.writer = none)
    (done : FlacMuxer.open path f codecName bitrateKbps (m, world) = .ok () (m', world')) :
    Progress m' world' path f [] 0 := by
  unfold FlacMuxer.open at done
  dsimp only at done
  split at done
  · cases done
  · rename_i file world₁ created
    split at done
    · cases done
    · rename_i w world₂ written
      cases done
      have started := writes_writeStreamHeader f (create_ok created) written
      refine ⟨⟨w, rfl, ?_⟩, rfl, rfl, rfl, by simp, by simp, rfl, rfl⟩
      rw [closed]
      simpa [firstBlocks, framesFrom, dropWriter] using started

/-- Samples join the buffer. -/
theorem Progress.extend (h : Progress m world path f xs n) (ys : List (BitVec 16)) :
    Progress { m with pcmBuffer := m.pcmBuffer ++ ys } world path f (xs ++ ys) n := by
  obtain ⟨writer, channels, sampleRate, bitsPerSample, inside, pcmBuffer, frameNumber, totalSamples⟩ := h
  refine ⟨?_, channels, sampleRate, bitsPerSample, ?_, ?_, frameNumber, totalSamples⟩
  · rw [firstBlocks_append ys inside]
    exact writer
  · rw [List.length_append]
    omega
  · rw [pcmBuffer, List.drop_append_of_le_length inside]

/-- The loop writes every complete block. -/
theorem flushLoop_ok {fuel : Nat} (chans : 1 ≤ f.channels.toNat) (h : Progress m world path f xs n)
    (enough : m.pcmBuffer.length < fuel) (done : flushLoop fuel (m, world) = .ok () (m', world')) :
    Progress m' world' path f xs (xs.length / blockSize f) := by
  have positive := blockSize_pos chans
  induction fuel generalizing m world n with
  | zero => omega
  | succ fuel ih =>
    obtain ⟨⟨w, writer, buffered⟩, channels, sampleRate, bitsPerSample, inside, pcmBuffer, frameNumber, totalSamples⟩ := h
    have left : m.pcmBuffer.length = xs.length - n * blockSize f := by rw [pcmBuffer, List.length_drop]
    unfold flushLoop at done
    dsimp only at done
    rw [channels, ← blockSize] at done
    split at done
    · rename_i full
      rw [writer] at done
      dsimp only at done
      split at done
      · cases done
      · rename_i w' world₁ written
        have reach : (n + 1) * blockSize f ≤ xs.length := by
          rw [Nat.succ_mul]
          omega
        have next : Progress ⟨some w', m.pcmBuffer.drop (blockSize f), f.channels, m.sampleRate, m.bitsPerSample,
            m.frameNumber + 1#32, m.totalSamples + BitVec.ofNat 64 FLAC_BLOCK_SIZE⟩ world₁ path f xs (n + 1) := by
          refine ⟨⟨w', rfl, ?_⟩, rfl, sampleRate, bitsPerSample, reach, ?_, ?_, ?_⟩
          · have appended := writes_put _ buffered written
            rw [sampleRate, bitsPerSample, frameNumber, pcmBuffer, List.append_assoc] at appended
            rw [firstBlocks_succ, flacFrames_append_one, length_firstBlocks]
            exact appended
          · rw [pcmBuffer, List.drop_drop, Nat.succ_mul]
          · rw [frameNumber, BitVec.ofNat_add]
          · rw [totalSamples, Nat.succ_mul, BitVec.ofNat_add]
        refine ih next ?_ done
        rw [List.length_drop]
        omega
    · rename_i short
      cases done
      have count : xs.length / blockSize f = n := by
        rw [Nat.div_eq_iff (by omega)]
        constructor <;> omega
      rw [count]
      exact ⟨⟨w, writer, buffered⟩, channels, sampleRate, bitsPerSample, inside, pcmBuffer, frameNumber, totalSamples⟩

theorem writePacket_ok {pkt : AudioPacket} (chans : 1 ≤ f.channels.toNat)
    (before : Progress m world path f xs (xs.length / blockSize f))
    (done : writePacket pkt (m, world) = .ok () (m', world')) :
    Progress m' world' path f (xs ++ i16Samples pkt.data) ((xs ++ i16Samples pkt.data).length / blockSize f) :=
  flushLoop_ok chans (before.extend (i16Samples pkt.data)) (Nat.lt_succ_self _) done

/-- **After any packets** the muxer is in the state of their samples, however they were cut. -/
theorem writePackets_ok {packets : List AudioPacket} (chans : 1 ≤ f.channels.toNat)
    (before : Progress m world path f [] 0) (done : packets.forM writePacket (m, world) = .ok () (m', world')) :
    Progress m' world' path f (packetSamples packets) ((packetSamples packets).length / blockSize f) := by
  refine forM_induction (I := fun written s => Progress s.1 s.2 path f (packetSamples written)
    ((packetSamples written).length / blockSize f)) (fun written pkt s t state run => ?_) ?_ done
  · have after := writePacket_ok chans state run
    simpa [packetSamples] using after
  · simpa [packetSamples] using before

/-- The state after the last block: every sample of a whole frame is in a block, and the total counts them. -/
theorem finishBlocks_ok (chans : 1 ≤ f.channels.toNat) (before : Progress m world path f xs (xs.length / blockSize f))
    (done : finishBlocks (m, world) = .ok () (m', world')) :
    m'.totalSamples = BitVec.ofNat 64 (xs.length / f.channels.toNat) ∧
      ∃ w, m'.writer = some w ∧ Buffered w world' path (streamHeader f 0#64 ++ flacFrames f (blocksOf f xs)) := by
  rw [blocksOf]
  obtain ⟨⟨w, writer, buffered⟩, channels, sampleRate, bitsPerSample, inside, pcmBuffer, frameNumber, totalSamples⟩ := before
  have total := wholeFrames_eq chans xs
  rw [← pcmBuffer] at total
  have last : lastBlock (blockSize f) f.channels.toNat xs = if m.pcmBuffer.length / f.channels.toNat > 0 then
      [m.pcmBuffer.take (m.pcmBuffer.length / f.channels.toNat * f.channels.toNat)] else [] := by
    rw [pcmBuffer]
    rfl
  unfold finishBlocks at done
  dsimp only at done
  split at done
  · rename_i empty
    cases done
    have nothing : m.pcmBuffer.length = 0 := by
      rw [List.isEmpty_iff.1 empty]
      rfl
    rw [nothing, Nat.zero_div, Nat.add_zero] at total
    rw [nothing, Nat.zero_div, if_neg (by omega)] at last
    rw [last, List.append_nil, ← total]
    exact ⟨totalSamples, w, writer, buffered⟩
  · rw [channels, writer] at done
    split at done
    · rename_i more
      dsimp only at done
      split at done
      · cases done
      · rename_i w' world₁ written
        cases done
        have appended := writes_put _ buffered written
        rw [sampleRate, bitsPerSample, frameNumber, List.append_assoc] at appended
        rw [if_pos more] at last
        rw [last, flacFrames_append_one, length_firstBlocks, ← total, BitVec.ofNat_add]
        exact ⟨congrArg (· + _) totalSamples, w', rfl, appended⟩
    · rename_i short
      cases done
      rw [Nat.eq_zero_of_not_pos short, Nat.add_zero] at total
      rw [if_neg short] at last
      rw [last, List.append_nil, ← total]
      exact ⟨totalSamples, w, rfl, buffered⟩

/-! ## The patched total -/

/-- The header up to the byte that holds the first bits of the total. -/
def headerFront (f : PcmFormat) : Bytes := (streamHeader f 0#64).take 21

/-- The five bytes with the low bits of the sample size and the total. -/
def totalField (f : PcmFormat) (ts : BitVec 64) : Bytes :=
  [((((f.bitDepth - 1#16).setWidth 32 &&& 0xF#32) <<< 4).setWidth 8 ||| ((ts >>> 32) &&& 0xF#64).setWidth 8),
   (ts >>> 24).setWidth 8, (ts >>> 16).setWidth 8, (ts >>> 8).setWidth 8, ts.setWidth 8]

theorem streamHeader_eq (f : PcmFormat) (ts : BitVec 64) :
    streamHeader f ts = headerFront f ++ totalField f ts ++ List.replicate 16 0#8 := rfl

theorem length_streamHeader (f : PcmFormat) (ts : BitVec 64) : (streamHeader f ts).length = 42 := rfl

theorem length_headerFront (f : PcmFormat) : (headerFront f).length = 21 := rfl

/-- Patching the placeholder gives the bytes of the total. -/
theorem patchBytes_totalField (f : PcmFormat) (ts : BitVec 64) : patchBytes (totalField f 0#64) ts = totalField f ts := by
  have nibble : ∀ b : BitVec 32, (((b &&& 0xF#32) <<< 4).setWidth 8 ||| ((0#64 >>> 32) &&& 0xF#64).setWidth 8 : BitVec 8) &&&
      0xF0#8 = ((b &&& 0xF#32) <<< 4).setWidth 8 := by
    intro b
    ext i hi
    interval_cases i <;> simp
  rw [patchBytes, totalField, List.headD_cons, nibble]
  rfl

/-- `finalize`'s patch turns the placeholder into the total and keeps every other byte. -/
theorem patchTotal_ok {w w' : BufWriter} {ts : BitVec 64} {frames : Bytes}
    (start : Buffered w world path (streamHeader f 0#64 ++ frames))
    (done : patchTotal ts (w, world) = .ok () (w', world')) :
    Flushed w' world' path (streamHeader f ts ++ frames) := by
  unfold patchTotal at done
  obtain ⟨⟨⟩, ⟨w₁, v₁⟩, flushed, done⟩ := bind_eq_ok.1 done
  obtain ⟨⟨⟩, ⟨w₂, v₂⟩, sought, done⟩ := bind_eq_ok.1 done
  obtain ⟨patch, ⟨w₃, v₃⟩, read, done⟩ := bind_eq_ok.1 done
  obtain ⟨⟨⟩, ⟨w₄, v₄⟩, back, written⟩ := bind_eq_ok.1 done
  have whole := flushAndUnwrap_ok start flushed
  rw [streamHeader_eq, List.append_assoc _ _ frames] at whole
  obtain ⟨there, here⟩ := BufWriter.seek_ok whole (adaptExcept_eq_ok.1 sought)
  obtain ⟨kept, bytes⟩ := BufWriter.readExact_ok there (adaptExcept_eq_ok.1 read)
  rw [here, readExact_middle (length_headerFront f).symm (show 5 = (totalField f 0#64).length from rfl),
    Option.some.injEq] at bytes
  rw [← bytes, patchBytes_totalField] at written
  have size : (totalField f ts).length = (totalField f 0#64).length := rfl
  have nonempty : totalField f ts ≠ [] := List.cons_ne_nil _ _
  have patched := overwrite_ok kept (length_headerFront f).symm size nonempty back written
  rwa [streamHeader_eq, List.append_assoc _ _ frames]

/-- After the last block a successful `finalize` patches the total and drops the writer. -/
theorem patchTotal_of_finalize {m₁ : FlacMuxer} {world₁ : World} {w : BufWriter}
    (finished : finishBlocks (m, world) = .ok () (m₁, world₁)) (writer : m₁.writer = some w)
    (done : finalize (m, world) = .ok () (m', world')) :
    ∃ w' world₂, patchTotal m₁.totalSamples (w, world₁) = .ok () (w', world₂) ∧ m'.writer = none ∧
      world' = w'.drop world₂ := by
  unfold finalize at done
  obtain ⟨⟨⟩, s, finished', done⟩ := bind_eq_ok.1 done
  cases finished.symm.trans finished'
  dsimp only at done
  rw [writer] at done
  dsimp only at done
  split at done
  · cases done
  · rename_i w' world₂ patched
    cases done
    exact ⟨w', world₂, patched, rfl, rfl⟩

/-- The finished file: the total of the muxer, and the frames. -/
theorem finalize_file {m₁ : FlacMuxer} {world₁ : World} {w : BufWriter} {frames : Bytes}
    (finished : finishBlocks (m, world) = .ok () (m₁, world₁)) (writer : m₁.writer = some w)
    (buffered : Buffered w world₁ path (streamHeader f 0#64 ++ frames))
    (done : finalize (m, world) = .ok () (m', world')) :
    m'.writer = none ∧ world'.files path = some (streamHeader f m₁.totalSamples ++ frames) := by
  obtain ⟨w', world₂, patched, closed, rfl⟩ := patchTotal_of_finalize finished writer done
  have file := patchTotal_ok buffered patched
  exact ⟨closed, by rw [BufWriter.files_drop file, file.stored]⟩

/-- What a successful `finalize` begins with. -/
theorem finishBlocks_of_finalize (done : finalize (m, world) = .ok () (m', world')) :
    ∃ m₁ world₁, finishBlocks (m, world) = .ok () (m₁, world₁) := by
  obtain ⟨⟨⟩, ⟨m₁, world₁⟩, finished, -⟩ := bind_eq_ok.1 done
  exact ⟨m₁, world₁, finished⟩

/-- The last block after any packets: every sample of a whole frame is in a block, and the total counts them. -/
theorem finishBlocks_packets {m₁ m₂ : FlacMuxer} {world₁ world₂ : World} {packets : List AudioPacket}
    (chans : packets ≠ [] → 1 ≤ f.channels.toNat) (opened : Progress m world path f [] 0)
    (written : packets.forM writePacket (m, world) = .ok () (m₁, world₁))
    (finished : finishBlocks (m₁, world₁) = .ok () (m₂, world₂)) :
    m₂.totalSamples = BitVec.ofNat 64 ((packetSamples packets).length / f.channels.toNat) ∧
      ∃ w, m₂.writer = some w ∧
        Buffered w world₂ path (streamHeader f 0#64 ++ flacFrames f (blocksOf f (packetSamples packets))) := by
  cases packets with
  | nil =>
    cases written
    have empty : m.pcmBuffer = [] := by rw [opened.pcmBuffer, List.drop_nil]
    cases (finishBlocks_empty empty world).symm.trans finished
    have blocks : blocksOf f (packetSamples []) = firstBlocks (blockSize f) 0 [] := by
      simp [packetSamples, blocksOf, lastBlock, firstBlocks]
    rw [blocks, opened.totalSamples]
    exact ⟨by simp [packetSamples], opened.writer⟩
  | cons pkt packets =>
    have some_channel := chans (List.cons_ne_nil pkt packets)
    exact finishBlocks_ok some_channel (writePackets_ok some_channel opened written) finished

/-- Packets into an opened muxer and `finalize`. -/
theorem packets_file {packets : List AudioPacket} (chans : packets ≠ [] → 1 ≤ f.channels.toNat)
    (opened : Progress m world path f [] 0)
    (done : (packets.forM writePacket >>= fun _ => finalize) (m, world) = .ok () (m', world')) :
    world'.files path = some (flacFile f (packetSamples packets)) := by
  obtain ⟨⟨⟩, ⟨m₁, world₁⟩, written, finalized⟩ := bind_eq_ok.1 done
  obtain ⟨m₂, world₂, finished⟩ := finishBlocks_of_finalize finalized
  obtain ⟨total, w, writer, buffered⟩ := finishBlocks_packets chans opened written finished
  have file := (finalize_file finished writer buffered finalized).2
  rwa [total] at file

/-- **What a recording leaves** depends on the samples of its packets only. -/
theorem recording_file {codecName : String} {bitrateKbps : BitVec 32} {packets : List AudioPacket}
    (closed : m.writer = none) (chans : packets ≠ [] → 1 ≤ f.channels.toNat)
    (done : recording FlacMuxer path f codecName bitrateKbps packets (m, world) = .ok () (m', world')) :
    world'.files path = some (flacFile f (packetSamples packets)) := by
  obtain ⟨⟨⟩, ⟨m₁, world₁⟩, opened, done⟩ := bind_eq_ok.1 done
  exact packets_file chans (open_ok closed opened) done

/-! ## A recording without a failing call -/

theorem open_quiet (m : FlacMuxer) (path : String) (f : PcmFormat) (codecName : String) (bitrateKbps : BitVec 32)
    (quiet : world.Quiet) : ∃ m' world', FlacMuxer.open path f codecName bitrateKbps (m, world) = .ok () (m', world') ∧
      m'.writer.isSome ∧ world'.Quiet := by
  obtain ⟨file, world₁, created, quiet₁⟩ := create_quiet path quiet
  have total : Total (writeStreamHeader f.sampleRate f.channels f.bitDepth) :=
    (total_put _).bind fun _ => (total_put _).bind fun _ => total_put _
  obtain ⟨⟨⟩, w, world₂, written, quiet₂⟩ := total (.new file) world₁ quiet₁
  unfold FlacMuxer.open
  dsimp only
  rw [created]
  dsimp only
  rw [written]
  exact ⟨_, _, rfl, rfl, dropWriter_quiet _ quiet₂⟩

theorem flushLoop_quiet (fuel : Nat) (opened : m.writer.isSome) (quiet : world.Quiet) :
    ∃ m' world', flushLoop fuel (m, world) = .ok () (m', world') ∧ m'.writer.isSome ∧ world'.Quiet := by
  induction fuel generalizing m world with
  | zero => exact ⟨m, world, rfl, opened, quiet⟩
  | succ fuel ih =>
    obtain ⟨w, writer⟩ := Option.isSome_iff_exists.1 opened
    unfold flushLoop
    dsimp only
    split
    · obtain ⟨⟨⟩, w', world₁, written, quiet₁⟩ := total_put (encodeFrame (m.pcmBuffer.take
        (FLAC_BLOCK_SIZE * m.channels.toNat)) m.channels m.sampleRate m.bitsPerSample m.frameNumber) w world quiet
      rw [writer]
      dsimp only
      rw [written]
      exact ih rfl quiet₁
    · exact ⟨m, world, rfl, opened, quiet⟩

theorem writePackets_quiet (packets : List AudioPacket) (opened : m.writer.isSome) (quiet : world.Quiet) :
    ∃ m' world', packets.forM writePacket (m, world) = .ok () (m', world') ∧ m'.writer.isSome ∧ world'.Quiet := by
  induction packets generalizing m world with
  | nil => exact ⟨m, world, rfl, opened, quiet⟩
  | cons pkt packets ih =>
    obtain ⟨m₁, world₁, run, opened₁, quiet₁⟩ : ∃ m₁ world₁, writePacket pkt (m, world) = .ok () (m₁, world₁) ∧
        m₁.writer.isSome ∧ world₁.Quiet := flushLoop_quiet _ opened quiet
    obtain ⟨m', world', rest, last⟩ := ih opened₁ quiet₁
    exact ⟨m', world', bind_eq_ok.2 ⟨(), _, run, rest⟩, last⟩

theorem finishBlocks_quiet (opened : m.writer.isSome) (quiet : world.Quiet) :
    ∃ m' world', finishBlocks (m, world) = .ok () (m', world') ∧ world'.Quiet := by
  obtain ⟨w, writer⟩ := Option.isSome_iff_exists.1 opened
  unfold finishBlocks
  dsimp only
  split
  · exact ⟨m, world, rfl, quiet⟩
  · split
    · obtain ⟨⟨⟩, w', world₁, written, quiet₁⟩ := total_put (encodeFrame (m.pcmBuffer.take
        (m.pcmBuffer.length / m.channels.toNat * m.channels.toNat)) m.channels m.sampleRate m.bitsPerSample
        m.frameNumber) w world quiet
      rw [writer]
      dsimp only
      rw [written]
      exact ⟨_, _, rfl, quiet₁⟩
    · exact ⟨_, _, rfl, quiet⟩

/-- The bytes that `finalize` reads back are there. -/
theorem patchTotal_quiet {w : BufWriter} {frames : Bytes} (ts : BitVec 64)
    (start : Buffered w world path (streamHeader f 0#64 ++ frames)) (quiet : world.Quiet) :
    ∃ w' world', patchTotal ts (w, world) = .ok () (w', world') := by
  obtain ⟨⟨⟩, w₁, v₁, flushed, quiet₁⟩ := total_flushAndUnwrap w world quiet
  obtain ⟨⟨⟩, w₂, v₂, sought, quiet₂⟩ := total_onOutputFile (.seek 21) w₁ v₁ quiet₁
  have whole := flushAndUnwrap_ok start flushed
  rw [streamHeader_eq, List.append_assoc _ _ frames] at whole
  obtain ⟨there, here⟩ := BufWriter.seek_ok whole (adaptExcept_eq_ok.1 sought)
  have stored := there.stored
  rw [← there.file] at stored
  have bytes : ByteFile.readExact (v₂.contents w₂.file.path) w₂.file.pos 5 = some (totalField f 0#64) := by
    rw [World.contents, stored, here]
    exact readExact_middle (length_headerFront f).symm rfl
  obtain ⟨w₃, v₃, read, quiet₃⟩ : ∃ w₃ v₃, onOutputFile (File.readExact 5) (w₂, v₂) = .ok (totalField f 0#64) (w₃, v₃) ∧
      v₃.Quiet := by
    refine ⟨{ w₂ with file := { w₂.file with pos := w₂.file.pos + 5 } }, v₂, ?_, quiet₂⟩
    apply adaptExcept_eq_ok.2
    unfold BufWriter.onFile File.readExact
    dsimp only
    rw [quiet₂.answer]
    dsimp only
    rw [bytes]
  obtain ⟨⟨⟩, w₄, v₄, back, quiet₄⟩ := total_onOutputFile (.seek 21) w₃ v₃ quiet₃
  obtain ⟨⟨⟩, w₅, v₅, written, -⟩ := total_onOutputFile (.writeAll (patchBytes (totalField f 0#64) ts)) w₄ v₄ quiet₄
  exact ⟨w₅, v₅, bind_eq_ok.2 ⟨(), _, flushed, bind_eq_ok.2 ⟨(), _, sought, bind_eq_ok.2 ⟨_, _, read,
    bind_eq_ok.2 ⟨(), _, back, written⟩⟩⟩⟩⟩

/-- A `finalize` whose last block was written succeeds. -/
theorem finalize_quiet {m₁ : FlacMuxer} {world₁ : World} {w : BufWriter} {frames : Bytes}
    (finished : finishBlocks (m, world) = .ok () (m₁, world₁)) (writer : m₁.writer = some w)
    (buffered : Buffered w world₁ path (streamHeader f 0#64 ++ frames)) (quiet : world₁.Quiet) :
    ∃ m' world', finalize (m, world) = .ok () (m', world') := by
  obtain ⟨w', world₂, patched⟩ := patchTotal_quiet m₁.totalSamples buffered quiet
  refine ⟨{ m₁ with writer := none }, w'.drop world₂, bind_eq_ok.2 ⟨(), _, finished, ?_⟩⟩
  dsimp only
  rw [writer]
  dsimp only
  rw [patched]

/-- A recording succeeds when the operating system fails no call. -/
theorem recording_quiet (world : World) (m : FlacMuxer) (path : String) (f : PcmFormat) (codecName : String)
    (bitrateKbps : BitVec 32) (packets : List AudioPacket) (closed : m.writer = none)
    (chans : packets ≠ [] → 1 ≤ f.channels.toNat) (quiet : world.Quiet) :
    ∃ m' world', recording FlacMuxer path f codecName bitrateKbps packets (m, world) = .ok () (m', world') := by
  obtain ⟨m₁, world₁, opened, writer, quiet₁⟩ := open_quiet m path f codecName bitrateKbps quiet
  obtain ⟨m₂, world₂, written, writer₂, quiet₂⟩ := writePackets_quiet packets writer quiet₁
  obtain ⟨m₃, world₃, finished, quiet₃⟩ := finishBlocks_quiet writer₂ quiet₂
  obtain ⟨-, w, writer₃, buffered⟩ := finishBlocks_packets chans (open_ok closed opened) written finished
  obtain ⟨m', world', last⟩ := finalize_quiet finished writer₃ buffered quiet₃
  exact ⟨m', world', bind_eq_ok.2 ⟨(), _, opened, bind_eq_ok.2 ⟨(), _, written, last⟩⟩⟩

end FlacMuxer

/-! ## Decoding -/

/-- Packets of whole samples: their samples are those of the audio. -/
theorem packetSamples_eq {packets : List AudioPacket} (even : ∀ pkt ∈ packets, pkt.data.length % 2 = 0) :
    packetSamples packets = i16Samples (packetBytes packets) := by
  induction packets with
  | nil => rfl
  | cons pkt packets ih =>
    have first := even pkt (by simp)
    have rest := ih fun p member => even p (by simp [member])
    rw [packetBytes, List.flatMap_cons, i16Samples_append first, ← packetBytes, ← rest]
    rfl

/-- A block the muxer codes: at least one and at most 4096 whole frames. -/
structure WholeBlock (c : Nat) (b : List (BitVec 16)) : Prop where
  some_frames : 1 ≤ b.length / c
  few : b.length / c ≤ FLAC_BLOCK_SIZE
  whole : b.length = b.length / c * c

/-- The frames of whole blocks are read back to the end of the input, in order, with their samples. -/
theorem frames_framesFrom {info : StreamInfo} {f : PcmFormat} (chans : 1 ≤ f.channels.toNat ∧ f.channels.toNat ≤ 8)
    (depth : f.bitDepth = 16#16) (admits : Admits info f.channels FLAC_BLOCK_SIZE) (blocks : List (List (BitVec 16)))
    (each : ∀ b ∈ blocks, WholeBlock f.channels.toNat b) (start fuel : Nat) (range : start + blocks.length ≤ 2 ^ 26)
    (enough : (framesFrom f start blocks).length ≤ fuel) :
    ∃ fs, (frames info fuel).run (ofBytes (framesFrom f start blocks)) = some (fs, []) ∧
      fs.map (fun fr => fr.header.number) = List.range' start blocks.length ∧
      fs.map (fun fr => fr.header.blockSize) = blocks.map (fun b => b.length / f.channels.toNat) ∧
      fs.map (fun fr => fr.samples) = blocks.map fun b =>
        (List.range f.channels.toNat).map fun k => (channel f.channels.toNat k b).map BitVec.toInt := by
  induction blocks generalizing start fuel with
  | nil => exact ⟨[], frames_nil info fuel, rfl, rfl, rfl⟩
  | cons b blocks ih =>
    rw [List.length_cons] at range
    obtain ⟨some_frames, few, whole⟩ := each b (by simp)
    have number : (BitVec.ofNat 32 start).toNat = start := by
      rw [BitVec.toNat_ofNat]
      omega
    obtain ⟨rate, reads⟩ := reads_encodeFrame f.sampleRate (BitVec.ofNat 32 start) some_frames whole chans
      (by rw [number]; omega) (le_trans few (by decide)) ⟨admits.channels, admits.depth, le_trans few admits.size⟩
    rw [number] at reads
    have split : framesFrom f start (b :: blocks) =
        encodeFrame b f.channels f.sampleRate 16#16 (BitVec.ofNat 32 start) ++ framesFrom f (start + 1) blocks := by
      rw [framesFrom, List.zipIdx_cons, List.flatMap_cons, depth]
      rw [framesFrom, depth]
    have some_bytes : 1 ≤ (encodeFrame b f.channels f.sampleRate 16#16 (BitVec.ofNat 32 start)).length :=
      List.length_pos_iff.2 (encodeFrame_ne_nil _ _ _ _ _)
    rw [split, List.length_append] at enough
    obtain ⟨rest, rfl⟩ : ∃ k, fuel = k + 1 := ⟨fuel - 1, by omega⟩
    obtain ⟨fs, others, numbers, sizes, samples⟩ := ih (fun b member => each b (by simp [member]))
      (start + 1) rest (by omega) (by omega)
    have run := frames_cons reads others
    rw [← ofBytes_append, ← split] at run
    refine ⟨_, run, ?_, ?_, ?_⟩
    · rw [List.map_cons, numbers, List.length_cons, List.range'_succ]
    · rw [List.map_cons, List.map_cons, sizes]
    · rw [List.map_cons, List.map_cons, samples]

/-! ## The blocks of a recording -/

variable {f : PcmFormat} {xs : List (BitVec 16)}

theorem length_blockAt {size n i : Nat} (inside : n * size ≤ xs.length) (below : i < n) :
    (blockAt size xs i).length = size := by
  have reach := Nat.mul_le_mul_right size (show i + 1 ≤ n from below)
  rw [Nat.succ_mul] at reach
  rw [blockAt, List.length_take, List.length_drop]
  omega

/-- Every block of a recording has at least one whole frame and at most 4096. -/
theorem wholeBlock_of_mem (chans : 1 ≤ f.channels.toNat) {b : List (BitVec 16)} (member : b ∈ blocksOf f xs) :
    WholeBlock f.channels.toNat b := by
  have inside := Nat.div_mul_le_self xs.length (blockSize f)
  rcases List.mem_append.1 member with complete | last
  · obtain ⟨i, below, rfl⟩ := List.mem_map.1 complete
    have size := length_blockAt inside (List.mem_range.1 below)
    have frames : (blockAt (blockSize f) xs i).length / f.channels.toNat = FLAC_BLOCK_SIZE := by
      rw [size, blockSize, Nat.mul_div_cancel _ (by omega)]
    exact ⟨by rw [frames]; decide, frames.le, by rw [frames, size]⟩
  · unfold lastBlock at last
    extract_lets remaining at last
    split at last
    · rename_i more
      rw [List.mem_singleton] at last
      have size : b.length = remaining.length / f.channels.toNat * f.channels.toNat := by
        rw [last, length_take_whole]
      have frames : b.length / f.channels.toNat = remaining.length / f.channels.toNat := by
        rw [size, Nat.mul_div_cancel _ (by omega)]
      refine ⟨by rw [frames]; exact more, ?_, by rw [frames, size]⟩
      have short : remaining.length < blockSize f := length_drop_whole (blockSize_pos chans) xs
      rw [frames]
      exact (Nat.div_le_of_le_mul (by rw [Nat.mul_comm]; exact short.le))
    · cases last

/-- The blocks, end to end, are the samples of whole frames. -/
theorem flatten_blocksOf (chans : 1 ≤ f.channels.toNat) (xs : List (BitVec 16)) :
    (blocksOf f xs).flatten = xs.take (xs.length / f.channels.toNat * f.channels.toNat) := by
  have last : (lastBlock (blockSize f) f.channels.toNat xs).flatten =
      (xs.drop (xs.length / blockSize f * blockSize f)).take
        ((xs.drop (xs.length / blockSize f * blockSize f)).length / f.channels.toNat * f.channels.toNat) := by
    unfold lastBlock
    extract_lets remaining
    split
    · exact List.flatten_singleton
    · rename_i short
      rw [Nat.eq_zero_of_not_pos short, Nat.zero_mul]
      rfl
  rw [blocksOf, List.flatten_append, flatten_firstBlocks (Nat.div_mul_le_self _ _), last, ← List.take_add]
  congr 1
  rw [← wholeFrames_eq chans xs, Nat.add_mul, Nat.mul_assoc]

/-- What the blocks of whole frames add up to, their frames are those of all samples. -/
theorem sum_frames {c : Nat} (chans : 1 ≤ c) {blocks : List (List (BitVec 16))} (each : ∀ b ∈ blocks, WholeBlock c b) :
    (blocks.map fun b => b.length / c).sum = blocks.flatten.length / c := by
  induction blocks with
  | nil => simp
  | cons b blocks ih =>
    have whole := (each b (by simp)).whole
    rw [List.map_cons, List.sum_cons, ih fun b member => each b (by simp [member]), List.flatten_cons,
      List.length_append, Nat.add_comm b.length]
    conv_rhs => rw [whole, Nat.add_mul_div_right _ _ (by omega)]
    exact Nat.add_comm _ _

/-- The channel of whole blocks, end to end. -/
theorem flatMap_channel {c k : Nat} (inside : k < c) {blocks : List (List (BitVec 16))}
    (each : ∀ b ∈ blocks, WholeBlock c b) : blocks.flatMap (channel c k) = channel c k blocks.flatten := by
  induction blocks with
  | nil => simp [channel]
  | cons b blocks ih =>
    rw [List.flatMap_cons, ih fun b member => each b (by simp [member]), List.flatten_cons,
      channel_append inside (each b (by simp)).whole]

/-- A recording has at most a block for 4096 whole frames, and one. -/
theorem length_blocksOf (f : PcmFormat) (xs : List (BitVec 16)) :
    (blocksOf f xs).length ≤ xs.length / f.channels.toNat / FLAC_BLOCK_SIZE + 1 := by
  have last : (lastBlock (blockSize f) f.channels.toNat xs).length ≤ 1 := by
    unfold lastBlock
    extract_lets remaining
    split
    · simp
    · simp
  rw [blocksOf, List.length_append, length_firstBlocks, Nat.div_div_eq_div_mul, Nat.mul_comm f.channels.toNat]
  exact Nat.add_le_add_left last _

/-- The 42 bytes of the header read back as STREAMINFO. -/
theorem reads_streamHeader {total : Nat} (chans : 1 ≤ f.channels.toNat ∧ f.channels.toNat ≤ 8)
    (depth : f.bitDepth = 16#16) (rate : f.sampleRate.toNat < 2 ^ 20) (small : total < 2 ^ 36) :
    Reads preamble (ofBytes (streamHeader f (BitVec.ofNat 64 total)))
      ⟨4096, 4096, 0, 0, f.sampleRate.toNat, f.channels.toNat, 16, total, 0⟩ := by
  have value : (BitVec.ofNat 64 total).toNat = total := by
    rw [BitVec.toNat_ofNat]
    omega
  have info : Reads streamInfo (ofBytes (buildStreaminfo (BitVec.ofNat 16 FLAC_BLOCK_SIZE)
      (BitVec.ofNat 16 FLAC_BLOCK_SIZE) f.sampleRate f.channels 16#16 (BitVec.ofNat 64 total)))
      ⟨4096, 4096, 0, 0, f.sampleRate.toNat, f.channels.toNat, 16, (BitVec.ofNat 64 total).toNat % 2 ^ 36, 0⟩ :=
    reads_buildStreaminfo rate chans (by decide)
  rw [value, Nat.mod_eq_of_lt small] at info
  rw [streamHeader, depth, ofBytes_append, ofBytes_append, preamble]
  have marker : ofBytes [0x66#8, 0x4C#8, 0x61#8, 0x43#8] = ofNat 32 0x664C6143 := by decide
  have block : ofBytes [0x80#8, 0x00#8, 0x00#8, 0x22#8] = ofNat 1 1 ++ (ofNat 7 0 ++ ofNat 24 34) := by decide
  rw [marker, block, List.append_assoc, List.append_assoc]
  exact (reads_nat (by decide)).bind (.check rfl ((reads_nat (by decide)).bind (.check rfl ((reads_nat (by decide)).bind
    (.check rfl ((reads_nat (by decide)).bind (.check rfl info)))))))

/-- The STREAMINFO of a recording. -/
def infoOf (f : PcmFormat) (xs : List (BitVec 16)) : StreamInfo :=
  ⟨4096, 4096, 0, 0, f.sampleRate.toNat, f.channels.toNat, 16, xs.length / f.channels.toNat, 0⟩

/-- The decoder reads the file of a recording back whole. -/
theorem decode_flacFile (chans : 1 ≤ f.channels.toNat ∧ f.channels.toNat ≤ 8) (depth : f.bitDepth = 16#16)
    (rate : f.sampleRate.toNat < 2 ^ 20) (small : xs.length / f.channels.toNat < 2 ^ 36) :
    ∃ d, decode (flacFile f xs) = some d ∧ d.info = infoOf f xs ∧
      d.frames.map (fun fr => fr.header.number) = List.range d.frames.length ∧
      (∀ fr ∈ d.frames, fr.samples.length = f.channels.toNat) ∧
      ∀ k, k < f.channels.toNat → d.channel k = (channel f.channels.toNat k xs).map BitVec.toInt := by
  have each : ∀ b ∈ blocksOf f xs, WholeBlock f.channels.toNat b := fun b member => wholeBlock_of_mem chans.1 member
  have count := length_blocksOf f xs
  have fewBlocks : 0 + (blocksOf f xs).length ≤ 2 ^ 26 := by
    unfold FLAC_BLOCK_SIZE at count
    omega
  have admits : Admits (infoOf f xs) f.channels FLAC_BLOCK_SIZE := ⟨rfl, rfl, le_rfl⟩
  obtain ⟨fs, run, numbers, sizes, samples⟩ := frames_framesFrom chans depth admits (blocksOf f xs) each 0
    (flacFile f xs).length fewBlocks (by rw [flacFile, List.length_append]; exact Nat.le_add_left _ _)
  have flat := flatten_blocksOf chans.1 xs
  have total : (infoOf f xs).totalSamples = (fs.map fun fr => fr.header.blockSize).sum := by
    rw [sizes, sum_frames chans.1 each, flat, length_take_whole, Nat.mul_div_cancel _ (by omega)]
    rfl
  refine ⟨⟨infoOf f xs, fs⟩, decode_eq_some (reads_streamHeader chans depth rate small) run (.inr total), rfl, ?_, ?_, ?_⟩
  · have same : fs.length = (blocksOf f xs).length := by
      have := congrArg List.length numbers
      simpa using this
    rw [numbers, same, List.range_eq_range']
  · intro fr member
    have listed : fr.samples ∈ fs.map fun fr => fr.samples := List.mem_map.2 ⟨fr, member, rfl⟩
    rw [samples] at listed
    obtain ⟨b, -, cut⟩ := List.mem_map.1 listed
    rw [← cut, List.length_map, List.length_range]
  · intro k inside
    have frames : fs.map (fun fr => fr.samples.getD k []) =
        (blocksOf f xs).map fun b => (channel f.channels.toNat k b).map BitVec.toInt := by
      have at_k := congrArg (List.map fun s => s.getD k []) samples
      rw [List.map_map, List.map_map] at at_k
      refine at_k.trans (List.map_congr_left fun b _ => ?_)
      simp [inside]
    rw [Stream.channel, List.flatMap_def, frames, ← channel_take_whole inside xs, ← flat, ← flatMap_channel inside each,
      List.map_flatMap, List.flatMap_def]

/-- **FLAC recording is lossless.** When every call of a recording succeeds, the format's decoder accepts the whole
file and returns the samples of the packets, cut to whole frames. -/
theorem flac_lossless {m : FlacMuxer} {world world' : World} {path : String} {pcmFormat : PcmFormat}
    {codecName : String} {bitrateKbps : BitVec 32} {packets : List AudioPacket}
    (chans : 1 ≤ pcmFormat.channels.toNat ∧ pcmFormat.channels.toNat ≤ 8) (depth : pcmFormat.bitDepth = 16#16)
    (rate : pcmFormat.sampleRate.toNat < 2 ^ 20) (even : ∀ pkt ∈ packets, pkt.data.length % 2 = 0)
    (total : (i16Samples (packetBytes packets)).length / pcmFormat.channels.toNat < 2 ^ 36)
    (done : recording FlacMuxer path pcmFormat codecName bitrateKbps packets (.new, world) = .ok () (m, world')) :
    ∃ file d, world'.files path = some file ∧ decode file = some d ∧
      d.info.sampleRate = pcmFormat.sampleRate.toNat ∧ d.info.channels = pcmFormat.channels.toNat ∧
      d.info.bitsPerSample = 16 ∧
      d.info.totalSamples = (i16Samples (packetBytes packets)).length / pcmFormat.channels.toNat ∧
      d.frames.map (fun fr => fr.header.number) = List.range d.frames.length ∧
      (∀ fr ∈ d.frames, fr.samples.length = pcmFormat.channels.toNat) ∧
      ∀ k, k < pcmFormat.channels.toNat →
        d.channel k = (channel pcmFormat.channels.toNat k (i16Samples (packetBytes packets))).map BitVec.toInt := by
  have stored := FlacMuxer.recording_file rfl (fun _ => chans.1) done
  rw [packetSamples_eq even] at stored
  obtain ⟨d, decoded, info, rest⟩ := decode_flacFile chans depth rate total
  refine ⟨_, d, stored, decoded, ?_, ?_, ?_, ?_, rest⟩ <;> rw [info] <;> rfl

theorem flac_lossless_stereo : ∃ m world', recording FlacMuxer "take.flac" ⟨44100#32, 2#16, 16#16⟩ "flac" 0#32
      [⟨[1#8, 0#8, 255#8, 255#8, 7#8, 128#8], 0#64, 1#64, true⟩] (.new, ⟨fun _ => none, []⟩) = .ok () (m, world') ∧
    ∃ file d, world'.files "take.flac" = some file ∧ decode file = some d ∧ d.channel 0 = [1] ∧ d.channel 1 = [-1] := by
  obtain ⟨m, world', done⟩ := FlacMuxer.recording_quiet ⟨fun _ => none, []⟩ .new "take.flac" ⟨44100#32, 2#16, 16#16⟩
    "flac" 0#32 [⟨[1#8, 0#8, 255#8, 255#8, 7#8, 128#8], 0#64, 1#64, true⟩] rfl (fun _ => by decide) rfl
  obtain ⟨file, d, stored, decoded, -, -, -, -, -, -, samples⟩ :=
    flac_lossless (by decide) rfl (by decide) (by decide) (by decide) done
  refine ⟨m, world', done, file, d, stored, decoded, ?_, ?_⟩
  · exact samples 0 (by decide)
  · exact samples 1 (by decide)

end StereoMix.Encode
