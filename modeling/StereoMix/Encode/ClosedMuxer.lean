import StereoMix.Encode.MuxerCalls
import StereoMix.Encode.Mp3Muxer

/-!
# Muxers without an open file

After `finalize`, or before any `open`: a WAV muxer has no writer and refuses every packet. A FLAC muxer takes samples
into its buffer, and looks for its writer only when it has a whole block of them. An MP3 muxer keeps its encoder and its
writer, and goes on writing.
-/

namespace StereoMix.Encode

open FileSystem

/-- The muxer refuses the packet and leaves every file as it is, and a `finalize` changes nothing, whatever the
operating system would answer. -/
def Refuses {M : Type} [AudioMuxer M] (pkt : AudioPacket) (s : M × World) : Prop :=
  ∀ answers,
    (∃ e s', AudioMuxer.writePacket pkt (s.1, { s.2 with answers }) = .error e s' ∧ s'.2.files = s.2.files) ∧
      AudioMuxer.finalize (s.1, { s.2 with answers }) = .ok () (s.1, { s.2 with answers })

/-! ## WAV -/

namespace WavMuxer

theorem refuses {m : WavMuxer} (closed : m.writer = none) (pkt : AudioPacket) (world : World) :
    Refuses pkt (m, world) := by
  intro answers
  constructor
  · refine ⟨.outputFile "not open", (m, { world with answers }), ?_, rfl⟩
    change WavMuxer.writePacket pkt _ = _
    unfold WavMuxer.writePacket
    dsimp only
    rw [closed]
  · change WavMuxer.finalize _ = _
    unfold WavMuxer.finalize
    dsimp only
    rw [closed]

theorem writer_finalize (m : WavMuxer) (world : World) : (left (WavMuxer.finalize (m, world))).1.writer = none := by
  unfold WavMuxer.finalize
  dsimp only
  split
  · rename_i closed
    exact closed
  · split <;> rfl

theorem writer_writePacket {m : WavMuxer} (closed : m.writer = none) (world : World) (pkt : AudioPacket) :
    (left (WavMuxer.writePacket pkt (m, world))).1.writer = none := by
  unfold WavMuxer.writePacket
  dsimp only
  rw [closed]
  exact closed

end WavMuxer

/-! ## FLAC -/

namespace FlacMuxer

/-- The samples of a whole block. -/
def samplesPerBlock (m : FlacMuxer) : Nat := FLAC_BLOCK_SIZE * m.channels.toNat

/-- A packet that completes no block is taken into the buffer. -/
theorem writePacket_short {s : FlacMuxer × World} {pkt : AudioPacket}
    (short : ¬ s.1.samplesPerBlock ≤ (s.1.pcmBuffer ++ i16Samples pkt.data).length) :
    writePacket pkt s = .ok () ({ s.1 with pcmBuffer := s.1.pcmBuffer ++ i16Samples pkt.data }, s.2) := by
  unfold writePacket flushBlocks flushLoop
  exact if_neg short

/-- Without a writer, a packet is refused exactly if with it a block is whole. -/
theorem writePacket_closed {m : FlacMuxer} (closed : m.writer = none) (pkt : AudioPacket) (world : World) :
    (∃ e s', writePacket pkt (m, world) = .error e s' ∧ s'.2.files = world.files) ↔
      m.samplesPerBlock ≤ (m.pcmBuffer ++ i16Samples pkt.data).length := by
  by_cases whole : m.samplesPerBlock ≤ (m.pcmBuffer ++ i16Samples pkt.data).length
  · refine iff_of_true ?_ whole
    unfold samplesPerBlock at whole
    unfold writePacket flushBlocks flushLoop
    dsimp only
    rw [closed, if_pos whole]
    exact ⟨_, _, rfl, rfl⟩
  · refine iff_of_false ?_ whole
    rintro ⟨e, s', done, -⟩
    rw [@writePacket_short (m, world) pkt whole] at done
    cases done

/-- A `finalize` leaves a muxer as it is exactly if it has neither a writer nor samples. -/
theorem finalize_same {m : FlacMuxer} {world : World} :
    finalize (m, world) = .ok () (m, world) ↔ m.writer = none ∧ m.pcmBuffer = [] := by
  constructor
  · intro same
    obtain ⟨⟨⟩, ⟨m₁, world₁⟩, finished, closed⟩ := bind_eq_ok.1 same
    have no_writer : m.writer = none := by
      dsimp only at closed
      split at closed
      · rename_i none_there
        cases closed
        exact none_there
      · split at closed
        · cases closed
        · cases closed
          rfl
    refine ⟨no_writer, ?_⟩
    by_contra some_left
    unfold finishBlocks at finished
    dsimp only at finished
    rw [if_neg (by simpa using some_left), no_writer] at finished
    have emptied : m₁.pcmBuffer = [] := by
      split at finished <;> cases finished <;> rfl
    have kept : m.pcmBuffer = m₁.pcmBuffer := by
      dsimp only at closed
      split at closed
      · cases closed
        rfl
      · split at closed
        · cases closed
        · cases closed
          rfl
    exact some_left (kept.trans emptied)
  · rintro ⟨no_writer, empty⟩
    refine bind_eq_ok.2 ⟨(), (m, world), finishBlocks_empty empty world, ?_⟩
    dsimp only
    rw [no_writer]

/-- A FLAC muxer refuses a packet exactly if it has no writer, nothing in its buffer, and the packet makes a block. -/
theorem refuses_iff {m : FlacMuxer} {world : World} {pkt : AudioPacket} : Refuses pkt (m, world) ↔
    m.writer = none ∧ m.pcmBuffer = [] ∧ m.samplesPerBlock ≤ (i16Samples pkt.data).length := by
  constructor
  · intro refuses
    obtain ⟨wrote, finalized⟩ := refuses []
    obtain ⟨closed, empty⟩ := finalize_same.1 finalized
    have whole := (writePacket_closed closed pkt _).1 wrote
    rw [empty, List.nil_append] at whole
    exact ⟨closed, empty, whole⟩
  · rintro ⟨closed, empty, whole⟩ answers
    rw [← List.nil_append (i16Samples pkt.data), ← empty] at whole
    exact ⟨(writePacket_closed closed pkt _).2 whole, finalize_same.2 ⟨closed, empty⟩⟩

end FlacMuxer

/-! ## MP3 -/

/-- LAME fails on the samples of the packet in no state of an encoder. -/
def Lame.Encodes {Encoder : Type} (lame : Lame Encoder) (pkt : AudioPacket) : Prop :=
  ∀ encoder, (lame.encode (i16Samples pkt.data) encoder).1.isOk = true

namespace Mp3Muxer

variable {Encoder : Type} {lame : Lame Encoder}

/-- A muxer that has an encoder has a writer. -/
def Paired (m : Mp3Muxer lame) : Prop := m.encoder.isSome = true → m.writer.isSome = true

theorem paired_onWriter (m : Mp3Muxer lame) (call : EStateM EncodeError (BufWriter × World) Unit) (w : BufWriter)
    (world : World) : (left (onWriter m call w world)).1.Paired := by
  unfold onWriter
  split <;> exact fun _ => rfl

theorem paired_call (s : Mp3Muxer lame × World) (call : MuxerCall) (before : s.1.Paired) :
    (afterCall s call).1.Paired := by
  obtain ⟨m, world⟩ := s
  cases call with
  | «open» path pcmFormat codecName bitrateKbps =>
    change (left (Mp3Muxer.open path pcmFormat codecName bitrateKbps (m, world))).1.Paired
    unfold Mp3Muxer.open
    dsimp only
    split
    · exact before
    · split <;> exact fun _ => rfl
  | writePacket pkt =>
    change (left (Mp3Muxer.writePacket pkt (m, world))).1.Paired
    unfold Mp3Muxer.writePacket
    dsimp only
    split
    · exact before
    · exact before
    · rename_i encoder w built writer
      split
      · exact fun _ => Option.isSome_of_eq_some writer
      · exact paired_onWriter _ _ _ _
  | finalize =>
    change (left (Mp3Muxer.finalize (m, world))).1.Paired
    unfold Mp3Muxer.finalize
    dsimp only
    split
    · exact before
    · rename_i encoder built
      have writer := before (by rw [built]; rfl)
      split
      · exact fun _ => writer
      · split
        · exact fun _ => writer
        · exact paired_onWriter _ _ _ _

/-- An MP3 muxer refuses a packet that LAME can encode exactly if no encoder was ever built. -/
theorem refuses_iff {m : Mp3Muxer lame} {world : World} {pkt : AudioPacket} (paired : m.Paired)
    (encodes : lame.Encodes pkt) : Refuses pkt (m, world) ↔ m.encoder = none := by
  constructor
  · intro refuses
    cases built : m.encoder with
    | none => rfl
    | some encoder =>
      obtain ⟨w, writer⟩ := Option.isSome_iff_exists.1 (paired (by rw [built]; rfl))
      obtain ⟨⟨e, s', refused, -⟩, -⟩ := refuses []
      obtain ⟨m', world', accepted⟩ := writePacket_quiet built writer (encodes encoder)
        (show World.Quiet { world with answers := [] } from rfl)
      cases accepted.symm.trans refused
  · intro unbuilt answers
    constructor
    · refine ⟨.encodeFailed "MP3 encoder not initialised", (m, { world with answers }), ?_, rfl⟩
      change Mp3Muxer.writePacket pkt _ = _
      unfold Mp3Muxer.writePacket
      dsimp only
      rw [unbuilt]
    · change Mp3Muxer.finalize _ = _
      unfold Mp3Muxer.finalize
      dsimp only
      rw [unbuilt]

end Mp3Muxer

/-! ## All three -/

/-- A muxer just made, after some calls. -/
def wavAfter (calls : List MuxerCall) (world : World) : WavMuxer × World := afterCalls calls (.new, world)
def flacAfter (calls : List MuxerCall) (world : World) : FlacMuxer × World := afterCalls calls (.new, world)
def mp3After {Encoder : Type} (lame : Lame Encoder) (calls : List MuxerCall) (world : World) : Mp3Muxer lame × World :=
  afterCalls calls (.new, world)

/-- **With no `open` since the last `finalize`, a WAV muxer refuses every packet; a FLAC muxer, which panics without a
channel, exactly those that make a whole block of an empty buffer; and an MP3 muxer those that LAME can encode only if
no encoder was ever built.** -/
theorem closed_muxer_refuses {calls : List MuxerCall} (closed : openedLast calls = false) (world : World)
    (pkt : AudioPacket) :
    Refuses pkt (wavAfter calls world) ∧
    (0 < (flacAfter calls world).1.channels.toNat ∧ Refuses pkt (flacAfter calls world) ↔
      0 < (flacAfter calls world).1.channels.toNat ∧ (flacAfter calls world).1.writer = none ∧
        (flacAfter calls world).1.pcmBuffer = [] ∧
          (flacAfter calls world).1.samplesPerBlock ≤ (i16Samples pkt.data).length) ∧
    ∀ {Encoder : Type} (lame : Lame Encoder), lame.Encodes pkt →
      (Refuses pkt (mp3After lame calls world) ↔ (mp3After lame calls world).1.encoder = none) := by
  refine ⟨?_, and_congr_right fun _ => FlacMuxer.refuses_iff, ?_⟩
  · refine WavMuxer.refuses ?_ pkt _
    exact afterCalls_closed (I := fun s : WavMuxer × World => s.1.writer = none) rfl
      (fun s => WavMuxer.writer_finalize s.1 s.2) (fun s pkt closed => WavMuxer.writer_writePacket closed s.2 pkt) closed
  · intro Encoder lame encodes
    refine Mp3Muxer.refuses_iff ?_ encodes
    exact afterCalls_induction (I := fun s : Mp3Muxer lame × World => s.1.Paired) nofun Mp3Muxer.paired_call

/-- An encoder that passes the low bytes of the samples on. -/
def plainLame : Lame Unit :=
  .succeeding () (fun samples encoder => (samples.map (·.setWidth 8), encoder)) fun encoder => ([], encoder)

theorem closed_muxer_refuses_short :
    Refuses ⟨[1#8, 2#8, 3#8, 4#8], 0#64, 1#64, true⟩ (wavAfter (shortCalls "take.wav") emptyWorld) ∧
      ¬ Refuses ⟨[1#8, 2#8, 3#8, 4#8], 0#64, 1#64, true⟩ (mp3After plainLame (shortCalls "take.mp3") emptyWorld) := by
  obtain ⟨wav, -, -⟩ := @closed_muxer_refuses (shortCalls "take.wav") rfl emptyWorld
    ⟨[1#8, 2#8, 3#8, 4#8], 0#64, 1#64, true⟩
  obtain ⟨-, -, mp3⟩ := @closed_muxer_refuses (shortCalls "take.mp3") rfl emptyWorld
    ⟨[1#8, 2#8, 3#8, 4#8], 0#64, 1#64, true⟩
  exact ⟨wav, fun refuses => nomatch (mp3 plainLame fun _ => rfl).1 refuses⟩

/-- After `finalize`, FLAC and MP3 muxers accept a packet, and the bytes of an MP3 file change with the next
`finalize`. -/
theorem closed_muxer_accepts :
    openedLast (shortCalls "take.flac") = false ∧
    (∃ s', FlacMuxer.writePacket ⟨[1#8, 2#8, 3#8, 4#8], 0#64, 1#64, true⟩
      (flacAfter (shortCalls "take.flac") emptyWorld) = .ok () s') ∧
    (∃ s', Mp3Muxer.writePacket ⟨[1#8, 2#8, 3#8, 4#8], 0#64, 1#64, true⟩
      (mp3After plainLame (shortCalls "take.mp3") emptyWorld) = .ok () s') ∧
    (mp3After plainLame (shortCalls "take.mp3") emptyWorld).2.files "take.mp3" = some [1#8, 3#8] ∧
    (mp3After plainLame (shortCalls "take.mp3" ++ [.writePacket ⟨[1#8, 2#8, 3#8, 4#8], 0#64, 1#64, true⟩, .finalize])
      emptyWorld).2.files "take.mp3" = some [1#8, 3#8, 1#8, 3#8] := by
  refine ⟨rfl, ⟨_, FlacMuxer.writePacket_short (by decide +kernel)⟩, ⟨_, rfl⟩, by decide +kernel, by decide +kernel⟩

end StereoMix.Encode
