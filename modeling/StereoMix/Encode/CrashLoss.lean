import StereoMix.Encode.SequentialTake
import StereoMix.Encode.Mp3File
import StereoMix.Encode.InterruptedFlac

/-!
# What a crash costs

If the process dies while a session records, what is on disk is a front of what the container makes of the first frames,
but for the few bytes that the writer holds back; and these are all frames that were sent but the few that are under way
in the channels and the tasks. So a crash costs the same small amount however long the recording is.
-/

namespace StereoMix.Encode

open EventSystem ByteFile FileSystem

/-! ## The writers -/

/-- A muxer's writer holds back no more than fits. -/
def Held (writer : Option BufWriter) : Prop := ∀ w, writer = some w → w.Within

section

variable {Encoder : Type} {lame : Lame Encoder}

end

/-! ## The session -/

variable {M : Type} {capacity : Nat}

/-- While the mux task lives no packet is refused to the encoder task. -/
def Session.Unrefused (s : Session capacity) : Prop :=
  s.mux.gone = false → s.pcm.received.map .ofFrame = s.packets.sent ++ s.encoder.inHand

theorem Session.Unrefused.step {s t : Session capacity} {e : SessionEvent} (before : s.Unrefused)
    (moves : s.Moves e t) : t.Unrefused := by
  intro lives
  cases moves with
  | accepted sends =>
    rw [sends.received]
    exact before lives
  | encoderStops at_ | encoderLooks at_ =>
    have same := before lives
    rw [at_] at same
    exact same
  | encoderTakes at_ receives =>
    have same := before lives
    rw [at_] at same
    rw [receives.received, List.map_append, same]
    simp [EncoderPc.inHand]
  | encoderWaits at_ =>
    have same := before lives
    rw [at_] at same
    dsimp only
    split <;> exact same
  | encoderRefused at_ gone =>
    dsimp only at lives
    rw [gone] at lives
    cases lives
  | encoderSends at_ sends =>
    have same := before lives
    rw [at_] at same
    rw [sends.sent, same]
    simp [EncoderPc.inHand]
  | muxStops waiting =>
    refine before ?_
    rcases waiting with at_ | at_ <;> rw [at_] <;> rfl
  | muxTakes at_ receives =>
    rw [receives.sent]
    exact before (by rw [at_]; rfl)
  | muxLooks at_ | muxWaits at_ | muxWrites at_ | muxDrops at_ => exact before (by rw [at_]; rfl)
  | muxFinalizes => cases lives
  | _ => exact before lives

variable [AudioMuxer M] {new : M}

end StereoMix.Encode
