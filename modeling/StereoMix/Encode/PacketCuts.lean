import StereoMix.Encode.FlacFile

/-!
# Packets and blocks

`write_packet` queues samples and drains whole blocks, so what a packet's end cuts through is put together again: the
file of a recording is one of its samples, and less than a block waits after every packet.
-/

namespace StereoMix.Encode

open ByteFile FileSystem

namespace FlacMuxer

variable {m m' : FlacMuxer} {world world' : World} {f : PcmFormat}

/-- Every recording of the packets that succeeds leaves the same file, and where no call of the system fails it does. -/
structure Leaves (f : PcmFormat) (packets : List AudioPacket) (file : Bytes) : Prop where
  leaves : ∀ {m m' world world' path codecName bitrateKbps}, m.writer = none →
    recording FlacMuxer path f codecName bitrateKbps packets (m, world) = .ok () (m', world') →
    world'.files path = some file
  succeeds : ∀ {m world} path codecName bitrateKbps, m.writer = none → world.Quiet →
    ∃ m' world', recording FlacMuxer path f codecName bitrateKbps packets (m, world) = .ok () (m', world')

theorem leaves_flacFile (chans : 1 ≤ f.channels.toNat) {packets : List AudioPacket}
    (even : ∀ pkt ∈ packets, pkt.data.length % 2 = 0) :
    Leaves f packets (flacFile f (i16Samples (packetBytes packets))) := by
  constructor
  · intro m m' world world' path codecName bitrateKbps closed done
    rw [← packetSamples_eq even]
    exact recording_file closed (fun _ => chans) done
  · intro m world path codecName bitrateKbps closed quiet
    exact recording_quiet world m path f codecName bitrateKbps packets closed (fun _ => chans) quiet

/-- The loop ends with less than a block in the buffer. -/
theorem flushLoop_buffer {fuel : Nat} (chans : 1 ≤ m.channels.toNat) (enough : m.pcmBuffer.length < fuel)
    (done : flushLoop fuel (m, world) = .ok () (m', world')) :
    m'.channels = m.channels ∧ m'.pcmBuffer.length < FLAC_BLOCK_SIZE * m.channels.toNat := by
  induction fuel generalizing m world with
  | zero => omega
  | succ fuel ih =>
    have positive : 0 < FLAC_BLOCK_SIZE * m.channels.toNat := Nat.mul_pos (by decide) chans
    unfold flushLoop at done
    dsimp only at done
    split at done
    · cases writer : m.writer with
      | none =>
        rw [writer] at done
        cases done
      | some w =>
        rw [writer] at done
        dsimp only at done
        split at done
        · cases done
        · rename_i w' world₁ written
          have shorter : (m.pcmBuffer.drop (FLAC_BLOCK_SIZE * m.channels.toNat)).length < fuel := by
            rw [List.length_drop]
            omega
          exact ih (m := ⟨some w', _, m.channels, _, _, _, _⟩) chans shorter done
    · rename_i short
      cases done
      exact ⟨rfl, Nat.lt_of_not_ge short⟩

theorem writePacket_buffer {pkt : AudioPacket} (chans : 1 ≤ m.channels.toNat)
    (done : writePacket pkt (m, world) = .ok () (m', world')) :
    m'.channels = m.channels ∧ m'.pcmBuffer.length < FLAC_BLOCK_SIZE * m.channels.toNat :=
  flushLoop_buffer (m := { m with pcmBuffer := m.pcmBuffer ++ i16Samples pkt.data }) chans (Nat.lt_succ_self _) done

theorem open_channels {path codecName : String} {bitrateKbps : BitVec 32}
    (done : FlacMuxer.open path f codecName bitrateKbps (m, world) = .ok () (m', world')) :
    m'.channels = f.channels := by
  unfold FlacMuxer.open at done
  dsimp only at done
  split at done
  · cases done
  · split at done
    · cases done
    · cases done
      rfl

/-- A muxer opened with a format has its channel count, and after every packet that is written, whatever came before it,
less than a block in its buffer. -/
structure BelowBlock (f : PcmFormat) : Prop where
  opened : ∀ {m m' world world' path codecName bitrateKbps},
    FlacMuxer.open path f codecName bitrateKbps (m, world) = .ok () (m', world') → m'.channels = f.channels
  written : ∀ {m m' world world' pkt}, m.channels = f.channels → writePacket pkt (m, world) = .ok () (m', world') →
    m'.channels = f.channels ∧ m'.pcmBuffer.length < 4096 * f.channels.toNat

/-- **The file does not depend on how the audio was cut**: packets of whole samples with the same bytes leave the same
file, and after every packet less than a block waits. -/
theorem cuts_leave_the_same_file (chans : 1 ≤ f.channels.toNat) {ps qs : List AudioPacket}
    (even_ps : ∀ pkt ∈ ps, pkt.data.length % 2 = 0) (even_qs : ∀ pkt ∈ qs, pkt.data.length % 2 = 0)
    (same : packetBytes ps = packetBytes qs) : (∃ file, Leaves f ps file ∧ Leaves f qs file) ∧ BelowBlock f := by
  refine ⟨⟨_, leaves_flacFile chans even_ps, same ▸ leaves_flacFile chans even_qs⟩, open_channels, ?_⟩
  intro m m' world world' pkt opened done
  rw [← opened] at chans ⊢
  exact writePacket_buffer chans done

/-- Three samples of a stereo recording, cut inside a frame or not at all. -/
theorem cuts_leave_the_same_file_stereo :
    (∃ file, Leaves ⟨48000#32, 2#16, 16#16⟩
        [⟨[1#8, 0#8], 0#64, 0#64, true⟩, ⟨[], 0#64, 0#64, true⟩, ⟨[2#8, 0#8, 3#8, 0#8], 0#64, 0#64, true⟩] file ∧
      Leaves ⟨48000#32, 2#16, 16#16⟩ [⟨[1#8, 0#8, 2#8, 0#8, 3#8, 0#8], 0#64, 0#64, true⟩] file) ∧
      BelowBlock ⟨48000#32, 2#16, 16#16⟩ :=
  cuts_leave_the_same_file (by decide) (by decide) (by decide) rfl

end FlacMuxer

end StereoMix.Encode
