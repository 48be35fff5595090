import StereoMix.Encode.MuxerReuse

/-!
# FLAC frames that are not written

`flush_blocks` takes a block out of the buffer, and counts its frame and its samples, before it writes the frame. The mux
loop ignores the error, so a write that fails leaves a gap in the frame numbers and samples in the total that no frame
has. `frameWrites` lists the writes of the loop; the muxer's counters are those of the list (`Accounts`), the file has the
frames of the successful ones.
-/

namespace StereoMix.Encode

open ByteFile FileSystem Interleaved

/-! ## The frame writes of a take -/

/-- A frame write: the block, whether the write succeeded, and the bytes that a failed one took. -/
structure FrameWrite where
  block : List (BitVec 16)
  written : Bool
  taken : Nat
  deriving DecidableEq, Repr

namespace FlacMuxer

/-- The frame writes of the loop of `flush_blocks`; the first that fails is the last. -/
def frameWrites : Nat → FlacMuxer × World → List FrameWrite
  | 0, _ => []
  | fuel + 1, (self, world) =>
    let samplesPerBlock := FLAC_BLOCK_SIZE * self.channels.toNat
    if self.pcmBuffer.length ≥ samplesPerBlock then
      let block := self.pcmBuffer.take samplesPerBlock
      let frame := encodeFrame block self.channels self.sampleRate self.bitsPerSample self.frameNumber
      let self := { self with
        pcmBuffer := self.pcmBuffer.drop samplesPerBlock
        frameNumber := self.frameNumber + 1#32
        totalSamples := self.totalSamples + BitVec.ofNat 64 FLAC_BLOCK_SIZE }
      match self.writer with
      | none => []
      | some w =>
        match put frame (w, world) with
        | .error _ (w', _) => [⟨block, false, w'.taken - w.taken⟩]
        | .ok _ (w', world) => ⟨block, true, 0⟩ :: frameWrites fuel ({ self with writer := some w' }, world)
    else []

/-- The frame writes of `write_packet`. -/
def packetWrites (pkt : AudioPacket) (s : FlacMuxer × World) : List FrameWrite :=
  let pcmBuffer := s.1.pcmBuffer ++ i16Samples pkt.data
  frameWrites (pcmBuffer.length + 1) ({ s.1 with pcmBuffer }, s.2)

/-- The mux loop: every packet is written, the errors are ignored. -/
def muxLoop (packets : List AudioPacket) (s : FlacMuxer × World) : FlacMuxer × World :=
  afterCalls (packets.map .writePacket) s

/-- The frame writes of the mux loop. -/
def loopWrites : List AudioPacket → FlacMuxer × World → List FrameWrite
  | [], _ => []
  | pkt :: packets, s => packetWrites pkt s ++ loopWrites packets (afterCall s (.writePacket pkt))

/-- The frame write of a `finalize` that succeeds, if there are samples for one. -/
def lastWrite (m : FlacMuxer) : List FrameWrite :=
  let blockSamples := m.pcmBuffer.length / m.channels.toNat
  if blockSamples > 0 then [⟨m.pcmBuffer.take (blockSamples * m.channels.toNat), true, 0⟩] else []

/-- The frame writes of a take whose `finalize` succeeds. -/
def takeWrites (packets : List AudioPacket) (s : FlacMuxer × World) : List FrameWrite :=
  loopWrites packets s ++ lastWrite (muxLoop packets s).1

end FlacMuxer

/-! ## What they come to -/

/-- The frames in the file: the blocks written, with the number that the counter had. -/
def numbered (log : List FrameWrite) : List (Nat × List (BitVec 16)) :=
  log.zipIdx.filterMap fun a => if a.1.written then some (a.2 % 2 ^ 32, a.1.block) else none

/-- Their bytes. -/
def codedFrames (f : PcmFormat) (frames : List (Nat × List (BitVec 16))) : Bytes :=
  frames.flatMap fun fr => encodeFrame fr.2 f.channels f.sampleRate f.bitDepth (BitVec.ofNat 32 fr.1)

/-- The samples of a channel. -/
def samplesIn (channels : Nat) (log : List FrameWrite) : Nat := (log.map fun a => a.block.length / channels).sum

/-- The writes that failed. -/
def failures (log : List FrameWrite) : List FrameWrite := log.filter fun a => !a.written

/-- The writes that succeeded. -/
def successes (log : List FrameWrite) : List FrameWrite := log.filter fun a => a.written

/-- The 36 bits of STREAMINFO that `finalize` patches. -/
def storedTotal (file : Bytes) : Nat :=
  (file.getD 21 0#8 &&& 0x0F#8).toNat * 2 ^ 32 + (file.getD 22 0#8).toNat * 2 ^ 24 + (file.getD 23 0#8).toNat * 2 ^ 16 +
    (file.getD 24 0#8).toNat * 2 ^ 8 + (file.getD 25 0#8).toNat

/-- The total in the header is the number of samples a channel in the frames, and these are numbered from zero. -/
def Bookkept (file : Bytes) (channels : Nat) (frames : List (Nat × List (BitVec 16))) : Prop :=
  storedTotal file = (frames.map fun fr => fr.2.length / channels).sum ∧ frames.map Prod.fst = List.range frames.length

/-- The failed writes cancel out of the counters: they have a multiple of 2^36 samples, there is a multiple of 2^32 of them
before each frame that is written, and the samples written are fewer than 2^36. -/
structure Cancels (channels : Nat) (log : List FrameWrite) : Prop where
  few : samplesIn channels (successes log) < 2 ^ 36
  samples : 2 ^ 36 ∣ samplesIn channels (failures log)
  numbers : ∀ (i : Nat) (a : FrameWrite), log[i]? = some a → a.written = true → 2 ^ 32 ∣ (failures (log.take i)).length

/-! ## Numbers and sums -/

section

variable (log log' : List FrameWrite) (a : FrameWrite) (c : Nat)

theorem numbered_append_one :
    numbered (log ++ [a]) = numbered log ++ if a.written then [(log.length % 2 ^ 32, a.block)] else [] := by
  cases written : a.written <;> simp [numbered, List.zipIdx_append, written]

theorem samplesIn_append : samplesIn c (log ++ log') = samplesIn c log + samplesIn c log' := by
  simp [samplesIn]

theorem failures_append : failures (log ++ log') = failures log ++ failures log' := List.filter_append ..

theorem successes_append : successes (log ++ log') = successes log ++ successes log' := List.filter_append ..

theorem failures_of_written {log : List FrameWrite} (all : ∀ a ∈ log, a.written = true) : failures log = [] := by
  rw [failures, List.filter_eq_nil_iff]
  intro a member
  simp [all a member]

theorem samplesIn_full {log : List FrameWrite} {c : Nat} (full : ∀ a ∈ log, a.block.length / c = FLAC_BLOCK_SIZE) :
    samplesIn c log = log.length * FLAC_BLOCK_SIZE := by
  rw [samplesIn, List.map_congr_left full]
  simp

/-- Every sample is in a write that succeeded or in one that failed. -/
theorem samplesIn_eq : samplesIn c log = samplesIn c (successes log) + samplesIn c (failures log) := by
  induction log with
  | nil => rfl
  | cons a log ih =>
    cases written : a.written <;> simp [samplesIn, successes, failures, written] at ih ⊢ <;> omega

theorem length_eq : log.length = (successes log).length + (failures log).length := by
  induction log with
  | nil => rfl
  | cons a log ih =>
    cases written : a.written <;> simp [successes, failures, written] at ih ⊢ <;> omega

theorem map_block_numbered : (numbered log).map Prod.snd = (successes log).map FrameWrite.block := by
  induction log using List.reverseRecOn with
  | nil => rfl
  | append_singleton log a ih =>
    cases written : a.written <;> simp [numbered_append_one, successes, written] at ih ⊢ <;> exact ih

theorem length_numbered : (numbered log).length = (successes log).length := by
  have same := congrArg List.length (map_block_numbered log)
  simpa using same

/-- The samples of the frames are those of the successful writes. -/
theorem sum_numbered : ((numbered log).map fun fr => fr.2.length / c).sum = samplesIn c (successes log) := by
  have same := congrArg (List.map fun b => b.length / c) (map_block_numbered log)
  rw [List.map_map, List.map_map] at same
  exact congrArg List.sum same

end

/-- What is so of each element with those before it, in a list with one more. -/
theorem forall_before_append_one {α : Type} {l : List α} {a : α} {P : List α → α → Prop} :
    (∀ (i : Nat) (b : α), (l ++ [a])[i]? = some b → P ((l ++ [a]).take i) b) ↔
      (∀ (i : Nat) (b : α), l[i]? = some b → P (l.take i) b) ∧ P l a := by
  constructor
  · intro all
    refine ⟨fun i b there => ?_, ?_⟩
    · have inside := (List.getElem?_eq_some_iff.1 there).1
      have before := all i b (by rw [List.getElem?_append_left inside, there])
      rwa [List.take_append_of_le_length inside.le] at before
    · have last := all l.length a List.getElem?_concat_length
      rwa [List.take_left] at last
  · rintro ⟨all, last⟩ i b there
    by_cases inside : i < l.length
    · rw [List.getElem?_append_left inside] at there
      rw [List.take_append_of_le_length inside.le]
      exact all i b there
    · have bound := (List.getElem?_eq_some_iff.1 there).1
      have here : i = l.length := by simp at bound; omega
      subst here
      rw [List.getElem?_concat_length, Option.some.injEq] at there
      subst there
      rwa [List.take_left]

/-- The frames are numbered from zero exactly if the failures before each are a multiple of 2^32. -/
theorem numbers_iff {log : List FrameWrite} (few : (successes log).length ≤ 2 ^ 32) :
    (numbered log).map Prod.fst = List.range (numbered log).length ↔
      ∀ (i : Nat) (a : FrameWrite), log[i]? = some a → a.written = true → 2 ^ 32 ∣ (failures (log.take i)).length := by
  induction log using List.reverseRecOn with
  | nil => simp [numbered]
  | append_singleton log a ih =>
    rw [@forall_before_append_one _ log a fun before b => b.written = true → 2 ^ 32 ∣ (failures before).length,
      numbered_append_one]
    cases written : a.written with
    | false =>
      have same : successes (log ++ [a]) = successes log := by simp [successes, written]
      rw [same] at few
      simpa using ih few
    | true =>
      have more : (successes (log ++ [a])).length = (successes log).length + 1 := by simp [successes, written]
      have count := length_eq log
      have size := length_numbered log
      have step : log.length % 2 ^ 32 = (numbered log).length ↔ 2 ^ 32 ∣ (failures log).length := by omega
      rw [if_pos rfl, List.map_append, List.length_append, List.map_singleton, List.length_singleton, List.range_succ,
        ← ih (by omega)]
      constructor
      · intro same
        obtain ⟨numbers, last⟩ := List.append_inj' same rfl
        exact ⟨numbers, fun _ => step.1 (List.singleton_inj.1 last)⟩
      · rintro ⟨numbers, last⟩
        rw [numbers, step.2 (last rfl)]

/-! ## One turn of the loop -/

namespace FlacMuxer

/-- The block that `flush_blocks` takes out of the buffer. -/
def nextBlock (m : FlacMuxer) : List (BitVec 16) := m.pcmBuffer.take (FLAC_BLOCK_SIZE * m.channels.toNat)

/-- Its frame. -/
def nextFrame (m : FlacMuxer) : Bytes := encodeFrame m.nextBlock m.channels m.sampleRate m.bitsPerSample m.frameNumber

/-- The muxer after the block's write, with the writer that this left. -/
def drained (m : FlacMuxer) (w : BufWriter) : FlacMuxer :=
  { m with
    writer := some w
    pcmBuffer := m.pcmBuffer.drop (FLAC_BLOCK_SIZE * m.channels.toNat)
    frameNumber := m.frameNumber + 1#32
    totalSamples := m.totalSamples + BitVec.ofNat 64 FLAC_BLOCK_SIZE }

section

variable {m : FlacMuxer} {world world' : World} {w w' : BufWriter} {e : EncodeError}

theorem flushLoop_short (short : ¬ m.pcmBuffer.length ≥ FLAC_BLOCK_SIZE * m.channels.toNat) (fuel : Nat) (world : World) :
    flushLoop fuel (m, world) = .ok () (m, world) ∧ frameWrites fuel (m, world) = [] := by
  cases fuel with
  | zero => exact ⟨rfl, rfl⟩
  | succ fuel => exact ⟨if_neg short, if_neg short⟩

theorem flushLoop_written (enough : m.pcmBuffer.length ≥ FLAC_BLOCK_SIZE * m.channels.toNat) (writer : m.writer = some w)
    (written : put m.nextFrame (w, world) = .ok () (w', world')) (fuel : Nat) :
    flushLoop (fuel + 1) (m, world) = flushLoop fuel (m.drained w', world') ∧
      frameWrites (fuel + 1) (m, world) = ⟨m.nextBlock, true, 0⟩ :: frameWrites fuel (m.drained w', world') := by
  unfold nextFrame nextBlock at written
  constructor
  · conv_lhs => unfold flushLoop
    dsimp only
    rw [if_pos enough, writer]
    dsimp only
    rw [written]
    rfl
  · conv_lhs => unfold frameWrites
    dsimp only
    rw [if_pos enough, writer]
    dsimp only
    rw [written]
    rfl

theorem flushLoop_failed (enough : m.pcmBuffer.length ≥ FLAC_BLOCK_SIZE * m.channels.toNat) (writer : m.writer = some w)
    (failed : put m.nextFrame (w, world) = .error e (w', world')) (fuel : Nat) :
    flushLoop (fuel + 1) (m, world) = .error e (m.drained w', world') ∧
      frameWrites (fuel + 1) (m, world) = [⟨m.nextBlock, false, w'.taken - w.taken⟩] := by
  unfold nextFrame nextBlock at failed
  constructor
  · unfold flushLoop
    dsimp only
    rw [if_pos enough, writer]
    dsimp only
    rw [failed]
    rfl
  · unfold frameWrites
    dsimp only
    rw [if_pos enough, writer]
    dsimp only
    rw [failed]
    rfl

end

/-! ## The counters -/

/-- The state of a muxer after some frame writes: the counters are those of all of them, the file has the frames of those
that succeeded. -/
structure Accounts (m : FlacMuxer) (world : World) (path : String) (f : PcmFormat) (log : List FrameWrite) : Prop where
  writer : ∃ w, m.writer = some w ∧ Buffered w world path (streamHeader f 0#64 ++ codedFrames f (numbered log))
  channels : m.channels = f.channels
  sampleRate : m.sampleRate = f.sampleRate
  bitsPerSample : m.bitsPerSample = f.bitDepth
  frameNumber : m.frameNumber = BitVec.ofNat 32 log.length
  totalSamples : m.totalSamples = BitVec.ofNat 64 (samplesIn f.channels.toNat log)
  full : ∀ a ∈ log, a.block.length / f.channels.toNat = FLAC_BLOCK_SIZE

variable {m m' : FlacMuxer} {world world' : World} {path : String} {f : PcmFormat} {log : List FrameWrite}

theorem codedFrames_append_one (f : PcmFormat) (log : List FrameWrite) (block : List (BitVec 16)) (taken : Nat) :
    codedFrames f (numbered (log ++ [⟨block, true, taken⟩])) = codedFrames f (numbered log) ++
      encodeFrame block f.channels f.sampleRate f.bitDepth (BitVec.ofNat 32 log.length) := by
  have number : BitVec.ofNat 32 (log.length % 2 ^ 32) = BitVec.ofNat 32 log.length := by
    apply BitVec.eq_of_toNat_eq
    rw [BitVec.toNat_ofNat, BitVec.toNat_ofNat, Nat.mod_mod]
  rw [numbered_append_one, if_pos rfl, codedFrames, List.flatMap_append, List.flatMap_singleton, number]
  rfl

/-- A failed write that took no byte leaves what the file will have. -/
theorem put_error_whole {w w' : BufWriter} {c b : Bytes} {e : EncodeError} (start : Buffered w world path c)
    (failed : put b (w, world) = .error e (w', world')) (whole : w'.taken - w.taken = 0) : Buffered w' world' path c := by
  obtain ⟨text, refused, -⟩ := adaptExcept_eq_error.1 failed
  obtain ⟨part, -, kept⟩ := BufWriter.writeAll_error start refused
  have size := kept.taken
  rw [List.length_append, start.taken.symm] at size
  have nothing : part = [] := List.eq_nil_of_length_eq_zero (by omega)
  rwa [nothing, List.append_nil] at kept

/-- A turn counts its block, whatever comes of the write. -/
theorem Accounts.drained (h : Accounts m world path f log) (chans : 1 ≤ f.channels.toNat)
    (enough : m.pcmBuffer.length ≥ FLAC_BLOCK_SIZE * m.channels.toNat) {w : BufWriter} {written : Bool} {taken : Nat}
    (buffered : Buffered w world' path (streamHeader f 0#64 ++
      codedFrames f (numbered (log ++ [⟨m.nextBlock, written, taken⟩])))) :
    Accounts (m.drained w) world' path f (log ++ [⟨m.nextBlock, written, taken⟩]) := by
  have frames : m.nextBlock.length / f.channels.toNat = FLAC_BLOCK_SIZE := by
    rw [nextBlock, List.length_take, Nat.min_eq_left enough, h.channels, Nat.mul_div_cancel _ (by omega)]
  refine ⟨⟨w, rfl, buffered⟩, h.channels, h.sampleRate, h.bitsPerSample, ?_, ?_, ?_⟩
  · rw [List.length_append, List.length_singleton, BitVec.ofNat_add, ← h.frameNumber]
    rfl
  · rw [samplesIn_append, BitVec.ofNat_add, ← h.totalSamples, samplesIn, List.map_singleton, List.sum_singleton, frames]
    rfl
  · intro a member
    rcases List.mem_append.1 member with before | last
    · exact h.full a before
    · rw [List.mem_singleton.1 last]
      exact frames

/-- The loop of `flush_blocks`, whether it comes to its end or not. -/
theorem flushLoop_accounts {fuel : Nat} (chans : 1 ≤ f.channels.toNat) (h : Accounts m world path f log)
    (whole : ∀ a ∈ frameWrites fuel (m, world), a.written = false → a.taken = 0) :
    Accounts (left (flushLoop fuel (m, world))).1 (left (flushLoop fuel (m, world))).2 path f
      (log ++ frameWrites fuel (m, world)) := by
  induction fuel generalizing m world log with
  | zero =>
    rw [frameWrites, List.append_nil]
    exact h
  | succ fuel ih =>
    by_cases enough : m.pcmBuffer.length ≥ FLAC_BLOCK_SIZE * m.channels.toNat
    · obtain ⟨w, writer, buffered⟩ := h.writer
      cases run : put m.nextFrame (w, world) with
      | error e s =>
        obtain ⟨flushed, writes⟩ := flushLoop_failed enough writer run fuel
        rw [writes] at whole ⊢
        rw [flushed]
        have kept := put_error_whole buffered run (whole _ (List.mem_singleton_self _) rfl)
        refine h.drained chans enough ?_
        rwa [numbered_append_one, if_neg (by simp), List.append_nil]
      | ok u s =>
        obtain ⟨flushed, writes⟩ := flushLoop_written enough writer run fuel
        rw [writes] at whole ⊢
        rw [flushed, List.append_cons]
        have appended := writes_put _ buffered run
        refine ih (h.drained chans enough ?_) fun a member => whole a (List.mem_cons_of_mem _ member)
        rw [codedFrames_append_one, ← List.append_assoc, ← h.channels, ← h.sampleRate, ← h.bitsPerSample, ← h.frameNumber]
        exact appended
    · obtain ⟨flushed, writes⟩ := flushLoop_short enough (fuel + 1) world
      rw [flushed, writes, List.append_nil]
      exact h

theorem writePacket_accounts {s : FlacMuxer × World} {pkt : AudioPacket} (chans : 1 ≤ f.channels.toNat)
    (h : Accounts s.1 s.2 path f log) (whole : ∀ a ∈ packetWrites pkt s, a.written = false → a.taken = 0) :
    Accounts (afterCall s (.writePacket pkt)).1 (afterCall s (.writePacket pkt)).2 path f (log ++ packetWrites pkt s) := by
  have taken : Accounts { s.1 with pcmBuffer := s.1.pcmBuffer ++ i16Samples pkt.data } s.2 path f log :=
    ⟨h.writer, h.channels, h.sampleRate, h.bitsPerSample, h.frameNumber, h.totalSamples, h.full⟩
  exact flushLoop_accounts chans taken whole

theorem muxLoop_accounts {s : FlacMuxer × World} {packets : List AudioPacket} (chans : packets ≠ [] → 1 ≤ f.channels.toNat)
    (h : Accounts s.1 s.2 path f log) (whole : ∀ a ∈ loopWrites packets s, a.written = false → a.taken = 0) :
    Accounts (muxLoop packets s).1 (muxLoop packets s).2 path f (log ++ loopWrites packets s) := by
  induction packets generalizing s log with
  | nil =>
    rw [loopWrites, List.append_nil]
    exact h
  | cons pkt packets ih =>
    have some_channel := chans (List.cons_ne_nil pkt packets)
    have first := writePacket_accounts some_channel h fun a member => whole a (List.mem_append_left _ member)
    have rest := ih (fun _ => some_channel) first fun a member => whole a (List.mem_append_right _ member)
    rwa [List.append_assoc] at rest

/-- The last block, which `finalize` writes. -/
theorem finishBlocks_accounts (h : Accounts m world path f log)
    (finished : finishBlocks (m, world) = .ok () (m', world')) :
    m'.totalSamples = BitVec.ofNat 64 (samplesIn f.channels.toNat (log ++ lastWrite m)) ∧ ∃ w, m'.writer = some w ∧
      Buffered w world' path (streamHeader f 0#64 ++ codedFrames f (numbered (log ++ lastWrite m))) := by
  obtain ⟨⟨w, writer, buffered⟩, channels, sampleRate, bitsPerSample, frameNumber, totalSamples, full⟩ := h
  unfold finishBlocks at finished
  unfold lastWrite
  dsimp only at finished ⊢
  split at finished
  · rename_i empty
    cases finished
    rw [List.isEmpty_iff.1 empty, List.length_nil, Nat.zero_div, if_neg (by omega), List.append_nil]
    exact ⟨totalSamples, w, writer, buffered⟩
  · split at finished
    · rename_i more
      rw [if_pos more]
      rw [writer] at finished
      dsimp only at finished
      split at finished
      · cases finished
      · rename_i w' world₁ written
        cases finished
        have appended := writes_put _ buffered written
        rw [List.append_assoc, channels, sampleRate, bitsPerSample, frameNumber] at appended
        refine ⟨?_, w', rfl, ?_⟩
        · have some_channel : 0 < m.channels.toNat := Nat.pos_of_ne_zero fun none => by simp [none] at more
          rw [samplesIn_append, BitVec.ofNat_add, ← totalSamples, samplesIn, List.map_singleton, List.sum_singleton,
            length_take_whole, ← channels, Nat.mul_div_cancel _ some_channel]
        · rw [codedFrames_append_one, channels]
          exact appended
    · rename_i short
      cases finished
      rw [if_neg short, List.append_nil]
      exact ⟨totalSamples, w, writer, buffered⟩

end FlacMuxer

/-! ## The stored total -/

theorem storedTotal_streamHeader (f : PcmFormat) (ts : BitVec 64) (frames : Bytes) :
    storedTotal (streamHeader f ts ++ frames) = ts.toNat % 2 ^ 36 := by
  have nibble : ∀ b : BitVec 32, (((b &&& 0xF#32) <<< 4).setWidth 8 ||| ((ts >>> 32) &&& 0xF#64).setWidth 8 : BitVec 8) &&&
      0x0F#8 = ((ts >>> 32) &&& 0xF#64).setWidth 8 := by
    intro b
    ext i hi
    interval_cases i <;> simp
  have top : ((streamHeader f ts ++ frames).getD 21 0#8 &&& 0x0F#8) = ((ts >>> 32) &&& 0xF#64).setWidth 8 :=
    nibble ((f.bitDepth - 1#16).setWidth 32)
  have next : (streamHeader f ts ++ frames).getD 22 0#8 = (ts >>> 24).setWidth 8 ∧
      (streamHeader f ts ++ frames).getD 23 0#8 = (ts >>> 16).setWidth 8 ∧
      (streamHeader f ts ++ frames).getD 24 0#8 = (ts >>> 8).setWidth 8 ∧
      (streamHeader f ts ++ frames).getD 25 0#8 = ts.setWidth 8 := ⟨rfl, rfl, rfl, rfl⟩
  have mask : ∀ n : Nat, n &&& 15 = n % 16 := fun n => Nat.and_two_pow_sub_one_eq_mod n 4
  rw [storedTotal, top, next.1, next.2.1, next.2.2.1, next.2.2.2]
  simp only [BitVec.toNat_setWidth, BitVec.toNat_and, BitVec.toNat_ushiftRight, BitVec.toNat_ofNat,
    Nat.shiftRight_eq_div_pow, Nat.reducePow, Nat.reduceMod, mask]
  omega

/-! ## When the bookkeeping survives -/

/-- Where the counters are those of all writes and the file has the successful ones, they agree exactly if the failed
writes cancel out. -/
theorem bookkept_iff {f : PcmFormat} {log last : List FrameWrite} {ts : BitVec 64} {frames : Bytes}
    (full : ∀ a ∈ log, a.block.length / f.channels.toNat = FLAC_BLOCK_SIZE) (short : last.length ≤ 1)
    (total : ts = BitVec.ofNat 64 (samplesIn f.channels.toNat (log ++ last))) :
    Bookkept (streamHeader f ts ++ frames) f.channels.toNat (numbered (log ++ last)) ↔
      Cancels f.channels.toNat (log ++ last) := by
  have stored : storedTotal (streamHeader f ts ++ frames) = samplesIn f.channels.toNat (log ++ last) % 2 ^ 36 := by
    rw [storedTotal_streamHeader, total, BitVec.toNat_ofNat]
    omega
  have split := samplesIn_eq (log ++ last) f.channels.toNat
  have counted : samplesIn f.channels.toNat (log ++ last) % 2 ^ 36 = samplesIn f.channels.toNat (successes (log ++ last)) ↔
      samplesIn f.channels.toNat (successes (log ++ last)) < 2 ^ 36 ∧
        2 ^ 36 ∣ samplesIn f.channels.toNat (failures (log ++ last)) := by omega
  -- samples below 2^36 are in few enough frames for their numbers
  have few : samplesIn f.channels.toNat (successes (log ++ last)) < 2 ^ 36 → (successes (log ++ last)).length ≤ 2 ^ 32 := by
    intro small
    have full' : samplesIn f.channels.toNat (successes log) = (successes log).length * FLAC_BLOCK_SIZE :=
      samplesIn_full fun a member => full a (List.mem_filter.1 member).1
    have one : (successes last).length ≤ 1 := le_trans (List.length_filter_le _ _) short
    rw [successes_append, samplesIn_append, full', FLAC_BLOCK_SIZE] at small
    rw [successes_append, List.length_append]
    omega
  rw [Bookkept, stored, sum_numbered, counted]
  constructor
  · rintro ⟨⟨small, samples⟩, numbers⟩
    exact ⟨small, samples, (numbers_iff (few small)).1 numbers⟩
  · rintro ⟨small, samples, numbers⟩
    exact ⟨⟨small, samples⟩, (numbers_iff (few small)).2 numbers⟩

/-- Without a failed write nothing is to cancel. -/
theorem cancels_of_written {channels : Nat} {log : List FrameWrite} (all : ∀ a ∈ log, a.written = true)
    (few : samplesIn channels log < 2 ^ 36) : Cancels channels log := by
  have split := samplesIn_eq log channels
  refine ⟨by omega, ?_, fun i a _ _ => ?_⟩
  · rw [failures_of_written all]
    exact Nat.dvd_zero _
  · rw [failures_of_written fun b member => all b (List.mem_of_mem_take member)]
    exact Nat.dvd_zero _

/-- A single failed write of a block does not cancel. -/
theorem not_cancels_of_one {channels : Nat} {log : List FrameWrite} {a : FrameWrite} (one : failures log = [a])
    (full : a.block.length / channels = FLAC_BLOCK_SIZE) : ¬ Cancels channels log := by
  intro cancels
  have samples := cancels.samples
  rw [one, samplesIn, List.map_singleton, List.sum_singleton, full] at samples
  exact absurd samples (by decide)

namespace FlacMuxer

theorem lastWrite_short (m : FlacMuxer) : (lastWrite m).length ≤ 1 := by
  unfold lastWrite
  extract_lets
  split <;> simp

theorem lastWrite_written (m : FlacMuxer) : ∀ a ∈ lastWrite m, a.written = true := by
  unfold lastWrite
  extract_lets
  split <;> simp

/-- A muxer just opened has written nothing. -/
theorem Progress.accounts {m : FlacMuxer} {world : World} {path : String} {f : PcmFormat}
    (h : Progress m world path f [] 0) : Accounts m world path f [] := by
  obtain ⟨writer, channels, sampleRate, bitsPerSample, -, -, frameNumber, totalSamples⟩ := h
  refine ⟨?_, channels, sampleRate, bitsPerSample, frameNumber, ?_, List.forall_mem_nil _⟩
  · simpa [firstBlocks, framesFrom, codedFrames, numbered] using writer
  · simpa [samplesIn] using totalSamples

/-- The file that a take leaves: the total of all its frame writes, and the frames of those that succeeded. -/
theorem take_file {s : FlacMuxer × World} {m' : FlacMuxer} {world' : World} {path : String} {f : PcmFormat}
    {packets : List AudioPacket} (chans : packets ≠ [] → 1 ≤ f.channels.toNat) (opened : Accounts s.1 s.2 path f [])
    (whole : ∀ a ∈ loopWrites packets s, a.written = false → a.taken = 0)
    (finalized : finalize (muxLoop packets s) = .ok () (m', world')) :
    world'.files path = some (streamHeader f (BitVec.ofNat 64 (samplesIn f.channels.toNat (takeWrites packets s))) ++
      codedFrames f (numbered (takeWrites packets s))) := by
  have accounts := muxLoop_accounts chans opened whole
  rw [List.nil_append] at accounts
  obtain ⟨m₁, world₁, finished⟩ := finishBlocks_of_finalize finalized
  obtain ⟨total, w, writer, buffered⟩ := finishBlocks_accounts accounts finished
  have file := (finalize_file finished writer buffered finalized).2
  rwa [total] at file

end FlacMuxer

/-! ## Without failures -/

namespace FlacMuxer

variable {m : FlacMuxer} {world : World} {path : String} {f : PcmFormat} {log : List FrameWrite}

/-- The loop writes every block when the operating system fails no call. -/
theorem frameWrites_quiet (fuel : Nat) (opened : m.writer.isSome) (quiet : world.Quiet) :
    (∀ a ∈ frameWrites fuel (m, world), a.written = true) ∧ (left (flushLoop fuel (m, world))).1.writer.isSome ∧
      (left (flushLoop fuel (m, world))).2.Quiet := by
  induction fuel generalizing m world with
  | zero => exact ⟨List.forall_mem_nil _, opened, quiet⟩
  | succ fuel ih =>
    by_cases enough : m.pcmBuffer.length ≥ FLAC_BLOCK_SIZE * m.channels.toNat
    · obtain ⟨w, writer⟩ := Option.isSome_iff_exists.1 opened
      obtain ⟨⟨⟩, w', world', run, quiet'⟩ := total_put m.nextFrame w world quiet
      obtain ⟨flushed, writes⟩ := flushLoop_written enough writer run fuel
      rw [flushed, writes, List.forall_mem_cons]
      have rest := ih (m := m.drained w') rfl quiet'
      exact ⟨⟨rfl, rest.1⟩, rest.2⟩
    · obtain ⟨flushed, writes⟩ := flushLoop_short enough (fuel + 1) world
      rw [flushed, writes]
      exact ⟨List.forall_mem_nil _, opened, quiet⟩

theorem loopWrites_quiet (packets : List AudioPacket) {s : FlacMuxer × World} (opened : s.1.writer.isSome)
    (quiet : s.2.Quiet) : (∀ a ∈ loopWrites packets s, a.written = true) ∧ (muxLoop packets s).1.writer.isSome ∧
      (muxLoop packets s).2.Quiet := by
  induction packets generalizing s with
  | nil => exact ⟨List.forall_mem_nil _, opened, quiet⟩
  | cons pkt packets ih =>
    have first := frameWrites_quiet (m := { s.1 with pcmBuffer := s.1.pcmBuffer ++ i16Samples pkt.data })
      ((s.1.pcmBuffer ++ i16Samples pkt.data).length + 1) opened quiet
    have rest := ih (s := afterCall s (.writePacket pkt)) first.2.1 first.2.2
    refine ⟨fun a member => ?_, rest.2⟩
    exact (List.mem_append.1 member).elim (first.1 a) (rest.1 a)

theorem Accounts.finalize_quiet {s : FlacMuxer × World} (h : Accounts s.1 s.2 path f log) (quiet : s.2.Quiet) :
    ∃ m' world', finalize s = .ok () (m', world') := by
  obtain ⟨w, writer, -⟩ := h.writer
  obtain ⟨m₁, world₁, finished, quiet₁⟩ := finishBlocks_quiet (by rw [writer]; rfl) quiet
  obtain ⟨-, w₁, writer₁, buffered⟩ := finishBlocks_accounts h finished
  exact FlacMuxer.finalize_quiet finished writer₁ buffered quiet₁

end FlacMuxer

/-! ## A disk that fails once -/

/-- A write into a buffer that has bytes, where the next flush fails with none of them written: it fits, or it fails. -/
theorem put_pending {w : BufWriter} {world : World} {text : String} (b : Bytes) (pending : w.buf ≠ [])
    (fits : w.buf.length ≤ BufWriter.capacity) (stuck : world.answers = [.failure text 0]) :
    (put b (w, world) = .ok () ({ w with buf := w.buf ++ b }, world) ∧ (w.buf ++ b).length ≤ BufWriter.capacity) ∨
      ∃ e w' world', put b (w, world) = .error e (w', world') ∧ world'.Quiet ∧ w'.taken - w.taken = 0 := by
  have some_bytes := List.length_pos_iff.2 pending
  have stored : BufWriter.store b (w, world) = .ok () ({ w with buf := w.buf ++ b }, world) := rfl
  rw [List.length_append]
  by_cases room : b.length < BufWriter.capacity - w.buf.length
  · refine .inl ⟨adaptExcept_eq_ok.2 (bind_eq_ok.2 ⟨_, _, rfl, ?_⟩), by omega⟩
    dsimp only
    rw [if_pos room, stored]
  · by_cases full : b.length > BufWriter.capacity - w.buf.length
    · obtain ⟨w', world', flushed, quiet, kept⟩ : ∃ w' world', BufWriter.flushBuf (w, world) = .error text (w', world') ∧
          world'.Quiet ∧ w'.taken - w.taken = 0 := by
        unfold BufWriter.flushBuf File.writeAll World.answer
        dsimp only
        rw [if_neg (by simpa using pending), stuck]
        exact ⟨_, _, rfl, rfl, by simp [BufWriter.taken]⟩
      refine .inr ⟨.muxFailed text, w', world', adaptExcept_eq_error.2 ⟨text, bind_eq_error.2 (.inr ⟨_, _, rfl, ?_⟩), rfl⟩,
        quiet, kept⟩
      dsimp only
      rw [if_neg room, if_pos full]
      exact bind_eq_error.2 (.inl flushed)
    · have small : ¬ b.length ≥ BufWriter.capacity := by unfold BufWriter.capacity at *; omega
      refine .inl ⟨adaptExcept_eq_ok.2 (bind_eq_ok.2 ⟨_, _, rfl, ?_⟩), by unfold BufWriter.capacity at *; omega⟩
      dsimp only
      rw [if_neg room, if_neg full, if_neg small, stored]

namespace FlacMuxer

/-- A block of silence in one channel. -/
def silentBlock : AudioPacket := ⟨List.replicate 8192 0#8, 0#64, 4096#64, true⟩

theorem length_silentBlock : (i16Samples silentBlock.data).length = FLAC_BLOCK_SIZE := by
  rw [length_i16Samples, silentBlock, List.length_replicate]
  rfl

variable {s : FlacMuxer × World} {w w' : BufWriter} {world' : World} {e : EncodeError}

/-- The muxer with the samples of a silent block. -/
def withSilence (m : FlacMuxer) : FlacMuxer := { m with pcmBuffer := m.pcmBuffer ++ i16Samples silentBlock.data }

/-- An empty muxer of one channel takes a silent block into its buffer and out again. -/
theorem silence_fits (empty : s.1.pcmBuffer = []) (mono : s.1.channels = 1#16) :
    s.1.withSilence.pcmBuffer.length ≥ FLAC_BLOCK_SIZE * s.1.withSilence.channels.toNat ∧
      (s.1.withSilence.drained w).pcmBuffer = [] := by
  have whole : s.1.withSilence.pcmBuffer.length = FLAC_BLOCK_SIZE * s.1.withSilence.channels.toNat := by
    rw [withSilence, empty, mono, List.nil_append, length_silentBlock]
    rfl
  refine ⟨whole.ge, ?_⟩
  rw [drained, ← whole]
  exact List.drop_length

theorem silence_written (empty : s.1.pcmBuffer = []) (mono : s.1.channels = 1#16) (writer : s.1.writer = some w)
    (written : put s.1.withSilence.nextFrame (w, s.2) = .ok () (w', world')) :
    afterCall s (.writePacket silentBlock) = (s.1.withSilence.drained w', world') ∧
      packetWrites silentBlock s = [⟨s.1.withSilence.nextBlock, true, 0⟩] := by
  obtain ⟨enough, drained⟩ := silence_fits (w := w') empty mono
  have short : ¬ (s.1.withSilence.drained w').pcmBuffer.length ≥
      FLAC_BLOCK_SIZE * (s.1.withSilence.drained w').channels.toNat := by
    have channels : (s.1.withSilence.drained w').channels = 1#16 := mono
    rw [drained, channels]
    decide
  obtain ⟨flushed, writes⟩ := flushLoop_written enough writer written (s.1.withSilence.pcmBuffer.length)
  obtain ⟨done, nothing⟩ := flushLoop_short short (s.1.withSilence.pcmBuffer.length) world'
  rw [done] at flushed
  rw [nothing] at writes
  exact ⟨congrArg left flushed, writes⟩

theorem silence_failed (empty : s.1.pcmBuffer = []) (mono : s.1.channels = 1#16) (writer : s.1.writer = some w)
    (failed : put s.1.withSilence.nextFrame (w, s.2) = .error e (w', world')) :
    afterCall s (.writePacket silentBlock) = (s.1.withSilence.drained w', world') ∧
      packetWrites silentBlock s = [⟨s.1.withSilence.nextBlock, false, w'.taken - w.taken⟩] := by
  obtain ⟨flushed, writes⟩ := flushLoop_failed (silence_fits (w := w') empty mono).1 writer failed
    (s.1.withSilence.pcmBuffer.length)
  exact ⟨congrArg left flushed, writes⟩

/-- Enough silent blocks fill the buffer, and the write that flushes it fails, the only one that does. -/
theorem silence_fails {n : Nat} {text : String} (empty : s.1.pcmBuffer = []) (mono : s.1.channels = 1#16)
    (writer : s.1.writer = some w) (pending : w.buf ≠ []) (fits : w.buf.length ≤ BufWriter.capacity)
    (stuck : s.2.answers = [.failure text 0]) (many : BufWriter.capacity < w.buf.length + n) :
    (∃ a, failures (loopWrites (List.replicate n silentBlock) s) = [a] ∧ a.taken = 0) ∧
      (muxLoop (List.replicate n silentBlock) s).2.Quiet := by
  induction n generalizing s w with
  | zero => omega
  | succ n ih =>
    rw [List.replicate_succ]
    change (∃ a, failures (packetWrites silentBlock s ++
        loopWrites (List.replicate n silentBlock) (afterCall s (.writePacket silentBlock))) = [a] ∧ a.taken = 0) ∧
      (muxLoop (List.replicate n silentBlock) (afterCall s (.writePacket silentBlock))).2.Quiet
    rcases put_pending s.1.withSilence.nextFrame pending fits stuck with
      ⟨written, room⟩ | ⟨e, w', world', failed, quiet, whole⟩
    · obtain ⟨after, writes⟩ := silence_written empty mono writer written
      have some_bytes : 0 < s.1.withSilence.nextFrame.length := List.length_pos_iff.2 (encodeFrame_ne_nil _ _ _ _ _)
      have size : (w.buf ++ s.1.withSilence.nextFrame).length = w.buf.length + s.1.withSilence.nextFrame.length :=
        List.length_append
      have more : w.buf ++ s.1.withSilence.nextFrame ≠ [] := fun none => pending (List.append_eq_nil_iff.1 none).1
      have rest := ih (s := (s.1.withSilence.drained { w with buf := w.buf ++ s.1.withSilence.nextFrame }, s.2))
        (silence_fits empty mono).2 mono rfl more room stuck (by rw [size]; omega)
      rw [after, writes]
      simpa [failures] using rest
    · obtain ⟨after, writes⟩ := silence_failed empty mono writer failed
      have rest := loopWrites_quiet (List.replicate n silentBlock) (s := (s.1.withSilence.drained w', world')) rfl quiet
      rw [after, writes]
      refine ⟨⟨⟨s.1.withSilence.nextBlock, false, w'.taken - w.taken⟩, ?_, whole⟩, rest.2.2⟩
      rw [failures_append, failures_of_written rest.1, List.append_nil]
      rfl

end FlacMuxer

/-- **If every failed frame write of a take fails whole and `finalize` succeeds, the file has the frames of the successful
writes, and its total and their numbers are right exactly if the failed ones cancel out of the counters:** none below
2^24 of them. A format without a channel cannot take a packet. -/
theorem failed_writes_keep_books {m m' : FlacMuxer} {world world' : World} {s : FlacMuxer × World} {path : String}
    {f : PcmFormat} {codecName : String} {bitrateKbps : BitVec 32} {packets : List AudioPacket} (closed : m.writer = none)
    (opened : FlacMuxer.open path f codecName bitrateKbps (m, world) = .ok () s)
    (chans : packets ≠ [] → 1 ≤ f.channels.toNat)
    (whole : ∀ a ∈ FlacMuxer.loopWrites packets s, a.written = false → a.taken = 0)
    (finalized : FlacMuxer.finalize (FlacMuxer.muxLoop packets s) = .ok () (m', world')) :
    ∃ file, world'.files path = some file ∧ file.drop 42 = codedFrames f (numbered (FlacMuxer.takeWrites packets s)) ∧
      (Bookkept file f.channels.toNat (numbered (FlacMuxer.takeWrites packets s)) ↔
        Cancels f.channels.toNat (FlacMuxer.takeWrites packets s)) := by
  have accounts := (FlacMuxer.open_ok closed opened).accounts
  have looped := FlacMuxer.muxLoop_accounts chans accounts whole
  rw [List.nil_append] at looped
  exact ⟨_, FlacMuxer.take_file chans accounts whole finalized, rfl,
    bookkept_iff looped.full (FlacMuxer.lastWrite_short _) rfl⟩

/-- A take of one silent block, written. -/
theorem failed_writes_keep_books_block : ∃ s m' world' file,
    FlacMuxer.open "take.flac" ⟨48000#32, 1#16, 16#16⟩ "flac" 0#32 (.new, emptyWorld) = .ok () s ∧
    FlacMuxer.finalize (FlacMuxer.muxLoop [FlacMuxer.silentBlock] s) = .ok () (m', world') ∧
    (FlacMuxer.loopWrites [FlacMuxer.silentBlock] s).length = 1 ∧ world'.files "take.flac" = some file ∧
    Bookkept file 1 (numbered (FlacMuxer.takeWrites [FlacMuxer.silentBlock] s)) := by
  obtain ⟨s, w, opened, empty, mono, writer, quiet⟩ : ∃ s w,
      FlacMuxer.open "take.flac" ⟨48000#32, 1#16, 16#16⟩ "flac" 0#32 (.new, emptyWorld) = .ok () s ∧
        s.1.pcmBuffer = [] ∧ s.1.channels = 1#16 ∧ s.1.writer = some w ∧ s.2.Quiet :=
    ⟨_, _, FlacMuxer.open_created _ _ rfl, rfl, rfl, rfl, rfl⟩
  obtain ⟨⟨⟩, w', world₁, put, still⟩ := total_put s.1.withSilence.nextFrame w s.2 quiet
  obtain ⟨after, written⟩ := FlacMuxer.silence_written empty mono writer put
  have looped : FlacMuxer.muxLoop [FlacMuxer.silentBlock] s = (s.1.withSilence.drained w', world₁) := after
  have writes : FlacMuxer.loopWrites [FlacMuxer.silentBlock] s = [⟨s.1.withSilence.nextBlock, true, 0⟩] :=
    (List.append_nil _).trans written
  have whole : ∀ a ∈ FlacMuxer.loopWrites [FlacMuxer.silentBlock] s, a.written = false → a.taken = 0 := by
    rw [writes]
    simp
  have accounts := FlacMuxer.muxLoop_accounts (fun _ => by decide) (FlacMuxer.open_ok rfl opened).accounts whole
  obtain ⟨m', world', finalized⟩ := accounts.finalize_quiet (looped ▸ still)
  obtain ⟨file, stored, -, books⟩ := failed_writes_keep_books rfl opened (fun _ => by decide) whole finalized
  have all : FlacMuxer.takeWrites [FlacMuxer.silentBlock] s = [⟨s.1.withSilence.nextBlock, true, 0⟩] := by
    rw [FlacMuxer.takeWrites, writes, looped, FlacMuxer.lastWrite, (FlacMuxer.silence_fits empty mono).2]
    simp
  refine ⟨s, m', world', file, opened, finalized, by rw [writes]; rfl, stored, books.2 (cancels_of_written ?_ ?_)⟩
  · rw [all]
    simp
  · have few : s.1.withSilence.nextBlock.length ≤ FLAC_BLOCK_SIZE := by
      rw [FlacMuxer.nextBlock, FlacMuxer.withSilence, empty, List.nil_append, ← FlacMuxer.length_silentBlock]
      exact List.length_take_le' _ _
    rw [all, samplesIn, List.map_singleton, List.sum_singleton]
    exact (Nat.div_le_self _ _).trans_lt (few.trans_lt (by decide))

/-- A disk that takes no byte at the first flush. -/
def fullDisk : World := ⟨fun _ => none, [.success, .failure "No space left on device" 0]⟩

/-- Silence until the first flush, which fails, and on. -/
theorem failed_write_breaks_books : ∃ s m' world' file,
    FlacMuxer.open "take.flac" ⟨48000#32, 1#16, 16#16⟩ "flac" 0#32 (.new, fullDisk) = .ok () s ∧
    (∀ a ∈ FlacMuxer.loopWrites (List.replicate 8192 FlacMuxer.silentBlock) s, a.written = false → a.taken = 0) ∧
    FlacMuxer.finalize (FlacMuxer.muxLoop (List.replicate 8192 FlacMuxer.silentBlock) s) = .ok () (m', world') ∧
    world'.files "take.flac" = some file ∧
    ¬ Bookkept file 1 (numbered (FlacMuxer.takeWrites (List.replicate 8192 FlacMuxer.silentBlock) s)) := by
  obtain ⟨s, w, opened, empty, mono, writer, buf, stuck⟩ : ∃ s w,
      FlacMuxer.open "take.flac" ⟨48000#32, 1#16, 16#16⟩ "flac" 0#32 (.new, fullDisk) = .ok () s ∧
        s.1.pcmBuffer = [] ∧ s.1.channels = 1#16 ∧ s.1.writer = some w ∧
        w.buf = streamHeader ⟨48000#32, 1#16, 16#16⟩ 0#64 ∧ s.2.answers = [.failure "No space left on device" 0] :=
    ⟨_, _, FlacMuxer.open_created _ _ rfl, rfl, rfl, rfl, rfl, rfl⟩
  have size : w.buf.length = 42 := by rw [buf, FlacMuxer.length_streamHeader]
  obtain ⟨⟨a, one, taken⟩, quiet⟩ := FlacMuxer.silence_fails (n := 8192) empty mono writer
    (List.ne_nil_of_length_pos (by omega)) (by unfold BufWriter.capacity; omega) stuck (by unfold BufWriter.capacity; omega)
  have whole : ∀ b ∈ FlacMuxer.loopWrites (List.replicate 8192 FlacMuxer.silentBlock) s,
      b.written = false → b.taken = 0 := by
    intro b member failed
    have listed : b ∈ failures (FlacMuxer.loopWrites (List.replicate 8192 FlacMuxer.silentBlock) s) :=
      List.mem_filter.2 ⟨member, by simp [failed]⟩
    rw [one, List.mem_singleton] at listed
    rw [listed, taken]
  have accounts := (FlacMuxer.open_ok rfl opened).accounts
  have looped := FlacMuxer.muxLoop_accounts (fun _ => by decide) accounts whole
  rw [List.nil_append] at looped
  obtain ⟨m', world', finalized⟩ := looped.finalize_quiet quiet
  have file := FlacMuxer.take_file (fun _ => by decide) accounts whole finalized
  refine ⟨s, m', world', _, opened, whole, finalized, file, fun books => ?_⟩
  have cancels := (bookkept_iff looped.full (FlacMuxer.lastWrite_short _) rfl).1 books
  have member : a ∈ FlacMuxer.loopWrites (List.replicate 8192 FlacMuxer.silentBlock) s := by
    have listed : a ∈ failures (FlacMuxer.loopWrites (List.replicate 8192 FlacMuxer.silentBlock) s) := by
      rw [one]
      exact List.mem_singleton_self a
    exact (List.mem_filter.1 listed).1
  refine not_cancels_of_one ?_ (looped.full a member) cancels
  rw [failures_append, one, failures_of_written (FlacMuxer.lastWrite_written _), List.append_nil]

end StereoMix.Encode
