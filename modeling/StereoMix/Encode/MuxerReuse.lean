import StereoMix.Lib.LongerFile
import StereoMix.Encode.ClosedMuxer
import StereoMix.Encode.WavFile
import StereoMix.Encode.FlacFile

/-!
# Muxers used again

`open` sets every field of a FLAC muxer that is read later, but not the byte counter of a WAV muxer, so the sizes in the
second header count the first recording too. A writer that was not finalized is dropped by the next `open`, after the new
file was created: on the same path, what it still held goes into the new file.
-/

namespace StereoMix.Encode

open ByteFile FileSystem WavFormat

/-! ## What an earlier writer leaves -/

/-- The bytes in a file just created of the writer that `open` replaces, when its last flush is answered so. -/
def leftBehind (writer : Option BufWriter) (path : String) (answer : Answer) : Bytes :=
  match writer with
  | none => []
  | some w =>
    if w.file.path = path then
      match answer with
      | .success => writeAt [] w.file.pos w.buf
      | .failure _ written => writeAt [] w.file.pos (w.buf.take (min written (w.buf.length - 1)))
    else []

theorem files_dropWriter (writer : Option BufWriter) {path : String} {world : World} (created : world.files path = some []) :
    (dropWriter writer world).files path = some (leftBehind writer path world.answer.1) := by
  cases writer with
  | none => exact created
  | some w =>
    have same := World.files_answer world
    unfold dropWriter leftBehind BufWriter.drop BufWriter.flushBuf File.writeAll
    dsimp only
    by_cases empty : w.buf.isEmpty = true
    · rw [if_pos empty, List.isEmpty_iff.1 empty]
      dsimp only
      rw [created]
      cases world.answer.1 <;> simp [writeAt]
    · rw [if_neg empty]
      generalize world.answer = answered at same
      obtain ⟨answer, after⟩ := answered
      dsimp only at same
      by_cases here : w.file.path = path
      · have nothing : after.contents path = [] := by rw [World.contents, same, created, Option.getD_some]
        rw [if_pos here, here]
        cases answer with
        | success =>
          dsimp only
          rw [World.files_store, nothing]
        | failure =>
          dsimp only
          rw [World.files_store, nothing]
      · have elsewhere : ∀ b, (after.store w.file.path b).files path = some [] := by
          intro b
          unfold World.store
          dsimp only
          rw [if_neg (Ne.symm here), same, created]
        rw [if_neg here]
        cases answer with
        | success => exact elsewhere _
        | failure => exact elsewhere _

/-- The muxer's writer of `path` is inside its file, which with the buffer has `n` bytes. -/
def Writing (path : String) (n : Nat) (writer : Option BufWriter) (world : World) : Prop :=
  ∃ w, writer = some w ∧ Inside path n (w, world)

section

variable {path : String} {n : Nat} (junk : Bytes)

theorem lifts_put (b : Bytes) : Lifts (behind path junk) (Inside path n) (Inside path n) (put b) :=
  (Lifts.writeAll junk b).adaptExcept

theorem lifts_flushAndUnwrap : Lifts (behind path junk) (Inside path n) (InsideFlushed path n) flushAndUnwrap :=
  Lifts.bind (Lifts.flushBuf junk).adaptExcept fun _ =>
    ((Lifts.flushBuf junk).weaken (fun _ => InsideFlushed.inside) fun _ => id).adaptExcept

theorem lifts_seek {pos : Nat} (reach : pos ≤ n) : Lifts (behind path junk) (InsideFlushed path n)
    (fun s => InsideFlushed path n s ∧ s.1.file.pos = pos) (onOutputFile (File.seek pos)) :=
  (Lifts.seek junk reach).adaptExcept

theorem lifts_overwrite (b : Bytes) : Lifts (behind path junk) (InsideFlushed path n) (InsideFlushed path n)
    (onOutputFile (File.writeAll b)) :=
  (Lifts.fileWriteAll junk b).adaptExcept

end

theorem holds_put (b : Bytes) : Holds (put b) b := (Holds.writeAll b).adaptExcept

/-- A new muxer leaves this file. -/
def AsNew (M : Type) [AudioMuxer M] (new : M) (path : String) (pcmFormat : PcmFormat) (codecName : String)
    (bitrateKbps : BitVec 32) (packets : List AudioPacket) (file : Option Bytes) : Prop :=
  ∀ ⦃world n world'⦄, recording M path pcmFormat codecName bitrateKbps packets (new, world) = .ok () (n, world') →
    world'.files path = file

/-- Where a new muxer can leave only one file, `AsNew` says that this is the one. -/
theorem asNew_iff_eq {M : Type} [AudioMuxer M] {new : M} {path : String} {pcmFormat : PcmFormat} {codecName : String}
    {bitrateKbps : BitVec 32} {packets : List AudioPacket} {file : Bytes} {stored : Option Bytes}
    (only : ∀ world n world', recording M path pcmFormat codecName bitrateKbps packets (new, world) = .ok () (n, world') →
      world'.files path = some file)
    (runs : ∃ world n world', recording M path pcmFormat codecName bitrateKbps packets (new, world) = .ok () (n, world')) :
    AsNew M new path pcmFormat codecName bitrateKbps packets stored ↔ stored = some file := by
  constructor
  · intro asNew
    obtain ⟨world, n, world', fresh⟩ := runs
    exact (asNew fresh).symm.trans (only world n world' fresh)
  · rintro rfl world n world' fresh
    exact only world n world' fresh

/-! ## WAV -/

namespace WavMuxer

variable {m m' : WavMuxer} {world world' : World} {path : String} {f : PcmFormat} {codecName : String}
  {bitrateKbps : BitVec 32} {packets : List AudioPacket} {n : Nat}

theorem holds_writeRiffHeader (channels : BitVec 16) (sampleRate : BitVec 32) (bits : BitVec 16) :
    Holds (writeRiffHeader channels sampleRate bits) (wavHeader channels sampleRate bits 0 0).bytes :=
  (holds_put _).bind ((holds_put _).bind ((holds_put _).bind ((holds_put _).bind ((holds_put _).bind
    ((holds_put _).bind ((holds_put _).bind ((holds_put _).bind ((holds_put _).bind ((holds_put _).bind
    ((holds_put _).bind ((holds_put _).bind (holds_put _))))))))))))

/-- When the file can be created, the header goes into the new writer's buffer, and the earlier writer is dropped. -/
theorem open_created (codecName : String) (bitrateKbps : BitVec 32) (created : world.answer.1 = .success) :
    WavMuxer.open path f codecName bitrateKbps (m, world) =
      .ok () (⟨some ⟨⟨path, 0⟩, (wavHeader f.channels f.sampleRate f.bitDepth 0 0).bytes⟩, m.bytesWritten, f.channels,
        f.sampleRate, f.bitDepth⟩, dropWriter m.writer (world.answer.2.store path [])) := by
  have header := holds_writeRiffHeader f.channels f.sampleRate f.bitDepth (.new ⟨path, 0⟩) (world.answer.2.store path [])
    (by simp [BufWriter.new, BufWriter.capacity])
  unfold WavMuxer.open
  dsimp only
  rw [create_success created]
  dsimp only
  rw [header]
  rfl

theorem open_eq (done : WavMuxer.open path f codecName bitrateKbps (m, world) = .ok () (m', world')) :
    m' = ⟨some ⟨⟨path, 0⟩, (wavHeader f.channels f.sampleRate f.bitDepth 0 0).bytes⟩, m.bytesWritten, f.channels,
      f.sampleRate, f.bitDepth⟩ ∧ world' = dropWriter m.writer (world.answer.2.store path []) := by
  cases granted : world.answer.1 with
  | success =>
    rw [open_created codecName bitrateKbps granted] at done
    cases done
    exact ⟨rfl, rfl⟩
  | failure text written =>
    unfold WavMuxer.open at done
    dsimp only at done
    rw [create_failure granted] at done
    cases done

/-- The muxer after `open` is one over an empty file, with what the earlier writer left behind it. -/
theorem open_overlay (done : WavMuxer.open path f codecName bitrateKbps (m, world) = .ok () (m', world')) :
    ∃ bare, world' = bare.overlay path (leftBehind m.writer path world.answer.2.answer.1) ∧
      Recording m' bare path f m.bytesWritten [] ∧ Writing path 44 m'.writer bare := by
  obtain ⟨rfl, rfl⟩ := open_eq done
  have left := files_dropWriter m.writer (World.files_store world.answer.2 path [])
  rw [World.answer_store] at left
  have started := buffered_front (dropWriter m.writer (world.answer.2.store path [])) path
    (wavHeader f.channels f.sampleRate f.bitDepth 0 0).bytes
  refine ⟨_, World.overlay_of_stored left, ⟨⟨_, rfl, ?_⟩, by simp⟩, _, rfl, ?_⟩
  · rwa [List.append_nil]
  · simpa using started.inside

variable (junk : Bytes)

theorem lifts_writePacket (pkt : AudioPacket) : Lifts (behind path junk) (fun s => Writing path n s.1.writer s.2)
    (fun s => Writing path n s.1.writer s.2) (writePacket pkt) := by
  rintro ⟨m, world⟩ ⟨⟩ t' ⟨w, writer, inside⟩ done
  unfold writePacket behind at *
  dsimp only at *
  rw [writer] at done ⊢
  dsimp only at done ⊢
  split at done
  · cases done
  · rename_i w' world' written
    cases done
    obtain ⟨⟨w₁, bare⟩, run, same, next⟩ := lifts_put junk pkt.data inside written
    cases same
    rw [run]
    exact ⟨_, rfl, rfl, _, rfl, next⟩

theorem lifts_patchHeader (bytesWritten : BitVec 32) (long : 44 ≤ n) :
    Lifts (behind path junk) (Inside path n) (InsideFlushed path n) (patchHeader bytesWritten) :=
  (lifts_flushAndUnwrap junk).bind fun _ =>
    ((lifts_seek junk (by omega)).weaken (fun _ => id) fun _ => And.left).bind fun _ =>
    (lifts_overwrite junk _).bind fun _ =>
    ((lifts_seek junk (by omega)).weaken (fun _ => id) fun _ => And.left).bind fun _ => lifts_overwrite junk _

theorem lifts_finalize (long : 44 ≤ n) : Lifts (behind path junk) (fun s => Writing path n s.1.writer s.2)
    (fun _ => True) finalize := by
  rintro ⟨m, world⟩ ⟨⟩ t' ⟨w, writer, inside⟩ done
  unfold finalize behind at *
  dsimp only at *
  rw [writer] at done ⊢
  dsimp only at done ⊢
  split at done
  · cases done
  · rename_i w' world' patched
    cases done
    obtain ⟨⟨w₁, bare⟩, run, same, last⟩ := lifts_patchHeader junk m.bytesWritten long inside patched
    cases same
    rw [run]
    dsimp only
    rw [BufWriter.drop_of_empty last.empty, BufWriter.drop_of_empty last.empty]
    exact ⟨_, rfl, rfl, trivial⟩

theorem lifts_packets (packets : List AudioPacket) (long : 44 ≤ n) :
    Lifts (behind path junk) (fun s => Writing path n s.1.writer s.2) (fun _ => True)
      (packets.forM writePacket >>= fun _ => finalize) :=
  Lifts.bind (Lifts.forM (lifts_writePacket junk) packets) fun _ => lifts_finalize junk long

/-- The file of a take whose audio the counter has as `counted`. -/
def takeFile (f : PcmFormat) (counted : BitVec 32) (audio : Bytes) : Bytes :=
  (wavHeader f.channels f.sampleRate f.bitDepth (36#32 + counted).toNat counted.toNat).bytes ++ audio

theorem length_takeFile (f : PcmFormat) (counted : BitVec 32) (audio : Bytes) :
    (takeFile f counted audio).length = 44 + audio.length := by
  simp [takeFile]

theorem takeFile_inj {f : PcmFormat} {counted counted' : BitVec 32} {audio : Bytes}
    (same : takeFile f counted audio = takeFile f counted' audio) : counted = counted' := by
  have parsed : ∀ c : BitVec 32, parse (takeFile f c audio) = some (wavHeader f.channels f.sampleRate f.bitDepth
      (36#32 + c).toNat c.toNat, audio) :=
    fun c => parse_bytes (wavHeader_fits _ _ _ (36#32 + c).isLt c.isLt) audio
  have headers := (parsed counted).symm.trans ((congrArg parse same).trans (parsed counted'))
  rw [Option.some.injEq, Prod.mk.injEq] at headers
  exact BitVec.eq_of_toNat_eq (congrArg Header.dataSize headers.1)

/-- The file of a recording with a muxer in any state. -/
theorem reused_file (done : recording WavMuxer path f codecName bitrateKbps packets (m, world) = .ok () (m', world')) :
    world'.files path = some (overlay
      (takeFile f (m.bytesWritten + BitVec.ofNat 32 (packetBytes packets).length) (packetBytes packets))
      (leftBehind m.writer path world.answer.2.answer.1)) := by
  obtain ⟨⟨⟩, ⟨m₁, world₁⟩, opened, rest⟩ := bind_eq_ok.1 done
  obtain ⟨bare, rfl, started, writing⟩ := open_overlay opened
  have lifts := @lifts_packets path 44 (leftBehind m.writer path world.answer.2.answer.1) packets (Nat.le_refl 44)
  obtain ⟨⟨m₂, bare₂⟩, run, same, -⟩ := @lifts (m₁, bare) () (m', world') writing rest
  cases same
  obtain ⟨⟨⟩, ⟨m₃, bare₃⟩, written, finished⟩ := bind_eq_ok.1 run
  have state := writePackets_ok started written
  have file := (finalize_ok state finished).2
  rw [state.bytesWritten] at file
  exact World.files_overlay file _

/-- A WAV muxer leaves the file of a new one exactly if it has counted nothing and the writer it replaces reaches no
further. -/
theorem asNew_iff (done : recording WavMuxer path f codecName bitrateKbps packets (m, world) = .ok () (m', world')) :
    AsNew WavMuxer .new path f codecName bitrateKbps packets (world'.files path) ↔ m.bytesWritten = 0#32 ∧
      (leftBehind m.writer path world.answer.2.answer.1).length ≤ 44 + (packetBytes packets).length := by
  have only : ∀ world n world',
      recording WavMuxer path f codecName bitrateKbps packets (.new, world) = .ok () (n, world') → world'.files path =
        some (takeFile f (WavMuxer.new.bytesWritten + BitVec.ofNat 32 (packetBytes packets).length) (packetBytes packets)) :=
    fun world n world' fresh => recording_file rfl fresh
  have runs := recording_quiet ⟨fun _ => none, []⟩ .new path f codecName bitrateKbps packets rfl
  rw [asNew_iff_eq only ⟨_, runs⟩, reused_file done, Option.some.injEq,
    overlay_eq_iff _ (by rw [length_takeFile, length_takeFile]), length_takeFile]
  refine and_congr_left fun _ => ⟨fun files => ?_, fun zero => by rw [zero]; rfl⟩
  exact (BitVec.add_left_inj _).1 (takeFile_inj files)

/-- A recording ends with its file closed. -/
theorem writer_recording (done : recording WavMuxer path f codecName bitrateKbps packets (m, world) = .ok () (m', world')) :
    m'.writer = none := by
  obtain ⟨⟨⟩, s, -, done⟩ := bind_eq_ok.1 done
  obtain ⟨⟨⟩, ⟨m₂, world₂⟩, -, finalized⟩ := bind_eq_ok.1 done
  have closed := writer_finalize m₂ world₂
  rwa [show finalize (m₂, world₂) = _ from finalized] at closed

/-- A successful call counts the bytes of its packet. -/
theorem bytesWritten_call {call : MuxerCall} {s t : WavMuxer × World} (run : call.run s = .ok () t) :
    t.1.bytesWritten = s.1.bytesWritten + BitVec.ofNat 32 call.bytes := by
  obtain ⟨m, world⟩ := s
  obtain ⟨m', world'⟩ := t
  cases call with
  | «open» path f codecName bitrateKbps =>
    obtain ⟨rfl, -⟩ := @open_eq _ _ _ _ _ _ codecName bitrateKbps run
    exact (BitVec.add_zero _).symm
  | writePacket pkt =>
    change writePacket pkt (m, world) = _ at run
    unfold writePacket at run
    dsimp only at run
    split at run
    · cases run
    · split at run
      · cases run
      · cases run
        rfl
  | finalize =>
    change finalize (m, world) = _ at run
    unfold finalize at run
    dsimp only at run
    split at run
    · cases run
      exact (BitVec.add_zero _).symm
    · split at run
      · cases run
      · cases run
        exact (BitVec.add_zero _).symm

/-- Successful calls count the bytes of their packets. -/
theorem bytesWritten_calls {calls : List MuxerCall} {start : World}
    (reached : calls.forM MuxerCall.run (WavMuxer.new, start) = .ok () (m, world)) :
    m.bytesWritten = BitVec.ofNat 32 (calls.map MuxerCall.bytes).sum := by
  refine forM_induction (I := fun called s => s.1.bytesWritten = BitVec.ofNat 32 (called.map MuxerCall.bytes).sum)
    (fun called call s t before run => ?_) rfl reached
  rw [List.map_append, List.sum_append, BitVec.ofNat_add, ← before, bytesWritten_call run]
  simp

end WavMuxer

/-! ## FLAC -/

namespace FlacMuxer

variable {m m' : FlacMuxer} {world world' : World} {path : String} {f : PcmFormat} {codecName : String}
  {bitrateKbps : BitVec 32} {packets : List AudioPacket} {n : Nat}

theorem holds_writeStreamHeader (f : PcmFormat) :
    Holds (writeStreamHeader f.sampleRate f.channels f.bitDepth) (streamHeader f 0#64) :=
  (holds_put _).bind ((holds_put _).bind (holds_put _))

/-- When the file can be created, every field is new, the header goes into the new writer's buffer, and the earlier writer
is dropped. -/
theorem open_created (codecName : String) (bitrateKbps : BitVec 32) (created : world.answer.1 = .success) :
    FlacMuxer.open path f codecName bitrateKbps (m, world) =
      .ok () (⟨some ⟨⟨path, 0⟩, streamHeader f 0#64⟩, [], f.channels, f.sampleRate, f.bitDepth, 0#32, 0#64⟩,
        dropWriter m.writer (world.answer.2.store path [])) := by
  have header := holds_writeStreamHeader f (.new ⟨path, 0⟩) (world.answer.2.store path [])
    (by simp [BufWriter.new, BufWriter.capacity, length_streamHeader])
  unfold FlacMuxer.open
  dsimp only
  rw [create_success created]
  dsimp only
  rw [header]
  rfl

theorem open_eq (done : FlacMuxer.open path f codecName bitrateKbps (m, world) = .ok () (m', world')) :
    m' = ⟨some ⟨⟨path, 0⟩, streamHeader f 0#64⟩, [], f.channels, f.sampleRate, f.bitDepth, 0#32, 0#64⟩ ∧
      world' = dropWriter m.writer (world.answer.2.store path []) := by
  cases granted : world.answer.1 with
  | success =>
    rw [open_created codecName bitrateKbps granted] at done
    cases done
    exact ⟨rfl, rfl⟩
  | failure text written =>
    unfold FlacMuxer.open at done
    dsimp only at done
    rw [create_failure granted] at done
    cases done

/-- The muxer after `open` is one over an empty file, with what the earlier writer left behind it. -/
theorem open_overlay (done : FlacMuxer.open path f codecName bitrateKbps (m, world) = .ok () (m', world')) :
    ∃ bare, world' = bare.overlay path (leftBehind m.writer path world.answer.2.answer.1) ∧
      Progress m' bare path f [] 0 ∧ Writing path 42 m'.writer bare := by
  obtain ⟨rfl, rfl⟩ := open_eq done
  have left := files_dropWriter m.writer (World.files_store world.answer.2 path [])
  rw [World.answer_store] at left
  have started := buffered_front (dropWriter m.writer (world.answer.2.store path [])) path (streamHeader f 0#64)
  refine ⟨_, World.overlay_of_stored left, ⟨⟨_, rfl, ?_⟩, rfl, rfl, rfl, by simp, by simp, rfl, rfl⟩, _, rfl, started.inside⟩
  simpa [firstBlocks, framesFrom] using started

variable (junk : Bytes)

theorem lifts_flushLoop (fuel : Nat) : Lifts (behind path junk) (fun s => Writing path n s.1.writer s.2)
    (fun s => Writing path n s.1.writer s.2) (flushLoop fuel) := by
  induction fuel with
  | zero => exact Lifts.pure ()
  | succ fuel ih =>
    rintro ⟨m, world⟩ ⟨⟩ t' ⟨w, writer, inside⟩ done
    unfold flushLoop behind at done
    unfold flushLoop
    dsimp only at done writer inside ⊢
    split at done
    · rename_i full
      rw [if_pos full]
      rw [writer] at done ⊢
      dsimp only at done ⊢
      split at done
      · cases done
      · rename_i w' world' written
        obtain ⟨⟨w₁, bare⟩, run, same, next⟩ := lifts_put junk _ inside written
        cases same
        rw [run]
        have start : Writing path n (some w₁) bare := ⟨w₁, rfl, next⟩
        exact ih (s := (⟨some w₁, _, _, _, _, _, _⟩, bare)) start done
    · rename_i short
      rw [if_neg short]
      cases done
      exact ⟨_, rfl, rfl, w, writer, inside⟩

theorem lifts_writePacket (pkt : AudioPacket) : Lifts (behind path junk) (fun s => Writing path n s.1.writer s.2)
    (fun s => Writing path n s.1.writer s.2) (writePacket pkt) := by
  rintro ⟨m, world⟩ ⟨⟩ t' writing done
  exact @lifts_flushLoop path n junk _ (_, world) () t' writing done

theorem lifts_finishBlocks : Lifts (behind path junk) (fun s => Writing path n s.1.writer s.2)
    (fun s => Writing path n s.1.writer s.2) finishBlocks := by
  rintro ⟨m, world⟩ ⟨⟩ t' ⟨w, writer, inside⟩ done
  unfold finishBlocks behind at *
  dsimp only at *
  split at done
  · rename_i empty
    rw [if_pos empty]
    cases done
    exact ⟨_, rfl, rfl, w, writer, inside⟩
  · rename_i some_left
    rw [if_neg some_left]
    split at done
    · rename_i more
      rw [if_pos more]
      rw [writer] at done ⊢
      dsimp only at done ⊢
      split at done
      · cases done
      · rename_i w' world' written
        cases done
        obtain ⟨⟨w₁, bare⟩, run, same, next⟩ := lifts_put junk _ inside written
        cases same
        rw [run]
        exact ⟨_, rfl, rfl, _, rfl, next⟩
    · rename_i short
      rw [if_neg short]
      cases done
      exact ⟨_, rfl, rfl, w, writer, inside⟩

theorem lifts_patchTotal (ts : BitVec 64) (long : 42 ≤ n) :
    Lifts (behind path junk) (Inside path n) (InsideFlushed path n) (patchTotal ts) :=
  (lifts_flushAndUnwrap junk).bind fun _ => (lifts_seek junk (by omega)).bind fun _ =>
    (Lifts.readExact junk (show 21 + 5 ≤ n by omega)).adaptExcept.bind fun _ =>
    ((lifts_seek junk (by omega)).weaken (fun _ => id) fun _ => And.left).bind fun _ => lifts_overwrite junk _

theorem lifts_finalize (long : 42 ≤ n) : Lifts (behind path junk) (fun s => Writing path n s.1.writer s.2)
    (fun _ => True) finalize := by
  refine Lifts.bind (lifts_finishBlocks junk) fun _ => ?_
  rintro ⟨m, world⟩ ⟨⟩ t' ⟨w, writer, inside⟩ done
  unfold behind at *
  dsimp only at *
  rw [writer] at done ⊢
  dsimp only at done ⊢
  split at done
  · cases done
  · rename_i w' world' patched
    cases done
    obtain ⟨⟨w₁, bare⟩, run, same, last⟩ := lifts_patchTotal junk m.totalSamples long inside patched
    cases same
    rw [run]
    dsimp only
    rw [BufWriter.drop_of_empty last.empty, BufWriter.drop_of_empty last.empty]
    exact ⟨_, rfl, rfl, trivial⟩

theorem lifts_packets (packets : List AudioPacket) (long : 42 ≤ n) :
    Lifts (behind path junk) (fun s => Writing path n s.1.writer s.2) (fun _ => True)
      (packets.forM writePacket >>= fun _ => finalize) :=
  Lifts.bind (Lifts.forM (lifts_writePacket junk) packets) fun _ => lifts_finalize junk long

/-- The file of a recording with a muxer in any state. -/
theorem reused_file (chans : packets ≠ [] → 1 ≤ f.channels.toNat)
    (done : recording FlacMuxer path f codecName bitrateKbps packets (m, world) = .ok () (m', world')) :
    world'.files path = some (overlay (flacFile f (packetSamples packets))
      (leftBehind m.writer path world.answer.2.answer.1)) := by
  obtain ⟨⟨⟩, ⟨m₁, world₁⟩, opened, rest⟩ := bind_eq_ok.1 done
  obtain ⟨bare, rfl, started, writing⟩ := open_overlay opened
  have lifts := @lifts_packets path 42 (leftBehind m.writer path world.answer.2.answer.1) packets (Nat.le_refl 42)
  obtain ⟨⟨m₂, bare₂⟩, run, same, -⟩ := @lifts (m₁, bare) () (m', world') writing rest
  cases same
  exact World.files_overlay (packets_file chans started run) _

/-- A FLAC muxer leaves the file of a new one exactly if the writer it replaces reaches no further. -/
theorem asNew_iff (chans : packets ≠ [] → 1 ≤ f.channels.toNat)
    (done : recording FlacMuxer path f codecName bitrateKbps packets (m, world) = .ok () (m', world')) :
    AsNew FlacMuxer .new path f codecName bitrateKbps packets (world'.files path) ↔
      (leftBehind m.writer path world.answer.2.answer.1).length ≤ (flacFile f (packetSamples packets)).length := by
  have only : ∀ world n world',
      recording FlacMuxer path f codecName bitrateKbps packets (.new, world) = .ok () (n, world') →
        world'.files path = some (flacFile f (packetSamples packets)) :=
    fun world n world' fresh => recording_file rfl chans fresh
  have runs := recording_quiet ⟨fun _ => none, []⟩ .new path f codecName bitrateKbps packets rfl chans rfl
  rw [asNew_iff_eq only ⟨_, runs⟩, reused_file chans done, Option.some.injEq, overlay_eq_iff _ rfl, and_iff_right rfl]

end FlacMuxer

/-! ## Both -/

/-- **A muxer used again leaves the file of a new one exactly if** the earlier packets of a WAV muxer come to a multiple
of 2^32 bytes, **and** the writer that a WAV or FLAC muxer may still have on the path holds nothing that ends behind the
new file. A FLAC format without a channel cannot take a packet. -/
theorem reused_muxer_leaves_no_trace {path : String} {pcmFormat : PcmFormat} {codecName : String} {bitrateKbps : BitVec 32}
    {packets : List AudioPacket} {calls : List MuxerCall} {start wavWorld wavWorld' flacWorld flacWorld' : World}
    {wav wav' : WavMuxer} {flac flac' : FlacMuxer} (chans : packets ≠ [] → 1 ≤ pcmFormat.channels.toNat)
    (reached : calls.forM MuxerCall.run (WavMuxer.new, start) = .ok () (wav, wavWorld))
    (wavTake : recording WavMuxer path pcmFormat codecName bitrateKbps packets (wav, wavWorld) = .ok () (wav', wavWorld'))
    (flacTake : recording FlacMuxer path pcmFormat codecName bitrateKbps packets (flac, flacWorld) =
      .ok () (flac', flacWorld')) :
    (AsNew WavMuxer .new path pcmFormat codecName bitrateKbps packets (wavWorld'.files path) ↔
      (calls.map MuxerCall.bytes).sum % 2 ^ 32 = 0 ∧
        (leftBehind wav.writer path wavWorld.answer.2.answer.1).length ≤ 44 + (packetBytes packets).length) ∧
    (AsNew FlacMuxer .new path pcmFormat codecName bitrateKbps packets (flacWorld'.files path) ↔
      (leftBehind flac.writer path flacWorld.answer.2.answer.1).length ≤
        (flacFile pcmFormat (packetSamples packets)).length) := by
  refine ⟨?_, FlacMuxer.asNew_iff chans flacTake⟩
  rw [WavMuxer.asNew_iff wavTake, WavMuxer.bytesWritten_calls reached, ← BitVec.toNat_inj, BitVec.toNat_ofNat]
  rfl

/-- A finalized take without a packet. -/
def emptyCalls (path : String) : List MuxerCall := takeCalls path ⟨48000#32, 2#16, 16#16⟩ "pcm" 128#32 []

/-- A FLAC muxer with samples, frames and a total of an earlier take. -/
def usedFlac : FlacMuxer := ⟨none, [7#16], 1#16, 44100#32, 16#16, 3#32, 12288#64⟩

theorem reused_muxer_leaves_no_trace_empty : ∃ wav wavWorld wav' wavWorld' flac' flacWorld',
    (emptyCalls "first.wav").forM MuxerCall.run (WavMuxer.new, emptyWorld) = .ok () (wav, wavWorld) ∧
    recording WavMuxer "second" ⟨48000#32, 2#16, 16#16⟩ "pcm" 128#32 [⟨[1#8, 2#8, 3#8, 4#8], 0#64, 1#64, true⟩]
      (wav, wavWorld) = .ok () (wav', wavWorld') ∧
    recording FlacMuxer "second" ⟨48000#32, 2#16, 16#16⟩ "pcm" 128#32 [⟨[1#8, 2#8, 3#8, 4#8], 0#64, 1#64, true⟩]
      (usedFlac, emptyWorld) = .ok () (flac', flacWorld') ∧
    AsNew WavMuxer .new "second" ⟨48000#32, 2#16, 16#16⟩ "pcm" 128#32 [⟨[1#8, 2#8, 3#8, 4#8], 0#64, 1#64, true⟩]
      (wavWorld'.files "second") ∧
    AsNew FlacMuxer .new "second" ⟨48000#32, 2#16, 16#16⟩ "pcm" 128#32 [⟨[1#8, 2#8, 3#8, 4#8], 0#64, 1#64, true⟩]
      (flacWorld'.files "second") := by
  obtain ⟨wav, wavWorld, first, quiet⟩ := WavMuxer.recording_stays_quiet emptyWorld .new "first.wav"
    ⟨48000#32, 2#16, 16#16⟩ "pcm" 128#32 [] rfl
  have closed := WavMuxer.writer_recording first
  obtain ⟨wav', wavWorld', wavTake⟩ := WavMuxer.recording_quiet wavWorld wav "second" ⟨48000#32, 2#16, 16#16⟩ "pcm" 128#32
    [⟨[1#8, 2#8, 3#8, 4#8], 0#64, 1#64, true⟩] quiet
  obtain ⟨flac', flacWorld', flacTake⟩ := FlacMuxer.recording_quiet emptyWorld usedFlac "second"
    ⟨48000#32, 2#16, 16#16⟩ "pcm" 128#32 [⟨[1#8, 2#8, 3#8, 4#8], 0#64, 1#64, true⟩] rfl (fun _ => by decide) rfl
  have same := reused_muxer_leaves_no_trace (fun _ => by decide) (takeCalls_run first) wavTake flacTake
  rw [closed, show usedFlac.writer = none from rfl] at same
  exact ⟨wav, wavWorld, wav', wavWorld', flac', flacWorld', takeCalls_run first, wavTake, flacTake,
    same.1.2 ⟨rfl, Nat.zero_le _⟩, same.2.2 (Nat.zero_le _)⟩

/-- The second take of a WAV muxer, after a finalized one of four bytes. -/
theorem reused_muxer_leaves_trace : ∃ wav wavWorld wav' wavWorld',
    (shortCalls "first.wav").forM MuxerCall.run (WavMuxer.new, emptyWorld) = .ok () (wav, wavWorld) ∧
    recording WavMuxer "second.wav" ⟨48000#32, 2#16, 16#16⟩ "pcm" 128#32 [⟨[1#8, 2#8, 3#8, 4#8], 0#64, 1#64, true⟩]
      (wav, wavWorld) = .ok () (wav', wavWorld') ∧
    ¬ AsNew WavMuxer .new "second.wav" ⟨48000#32, 2#16, 16#16⟩ "pcm" 128#32 [⟨[1#8, 2#8, 3#8, 4#8], 0#64, 1#64, true⟩]
      (wavWorld'.files "second.wav") := by
  obtain ⟨wav, wavWorld, first, quiet⟩ := WavMuxer.recording_stays_quiet emptyWorld .new "first.wav"
    ⟨48000#32, 2#16, 16#16⟩ "pcm" 128#32 [⟨[1#8, 2#8, 3#8, 4#8], 0#64, 1#64, true⟩] rfl
  obtain ⟨wav', wavWorld', take⟩ := WavMuxer.recording_quiet wavWorld wav "second.wav" ⟨48000#32, 2#16, 16#16⟩ "pcm" 128#32
    [⟨[1#8, 2#8, 3#8, 4#8], 0#64, 1#64, true⟩] quiet
  refine ⟨wav, wavWorld, wav', wavWorld', takeCalls_run first, take, fun same => ?_⟩
  have counted := ((WavMuxer.asNew_iff take).1 same).1
  rw [WavMuxer.bytesWritten_calls (takeCalls_run first)] at counted
  exact absurd counted (by decide)

end StereoMix.Encode
