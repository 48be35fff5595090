import StereoMix.Core.Types
import Mathlib.Tactic.Ring

/-!
# Channel mapping

The capture callbacks bring interleaved device samples to i16 and to the requested channel count. The three
mappers of `wasapi.rs` are one loop at three sample types; the callback for f32 streams has its own copy of it.
-/

namespace StereoMix.Audio

open ByteFile

/-- `i16::to_le_bytes`. -/
def i16Bytes (v : BitVec 16) : Bytes := [v.setWidth 8, (v >>> 8).setWidth 8]

@[simp] theorem length_i16Bytes (v : BitVec 16) : (i16Bytes v).length = 2 := rfl

section

variable {α : Type} [Inhabited α] (convert : α → BitVec 16)

/-- The general loop: channel `rch` of a frame is the converted sample of device channel `rch % dev_ch`. -/
def wrapChannels (data : List α) (frames devCh reqCh : Nat) : Bytes :=
  (List.range frames).flatMap fun f => (List.range reqCh).flatMap fun rch =>
    i16Bytes (convert (data.getD (f * devCh + rch % devCh) default))

/-- Every sample converted, in order. -/
def convertAll (data : List α) : Bytes := data.flatMap fun s => i16Bytes (convert s)

/-- Every mono sample written to both channels. -/
def duplicate (data : List α) : Bytes := data.flatMap fun s => i16Bytes (convert s) ++ i16Bytes (convert s)

/-- The common body of `map_i16_channels`, `map_u16_channels` and `map_f32_channels`. -/
def mapChannels (data : List α) (deviceChannels requestedChannels : Nat) : Bytes :=
  if deviceChannels = requestedChannels then convertAll convert data
  else
    let frames := if deviceChannels = 0 then 0 else data.length / deviceChannels
    if deviceChannels = 1 ∧ requestedChannels = 2 then
      (List.range frames).flatMap fun f =>
        i16Bytes (convert (data.getD f default)) ++ i16Bytes (convert (data.getD f default))
    else wrapChannels convert data frames deviceChannels requestedChannels

/-- The body of the callback for f32 streams. -/
def mapInCallback (data : List α) (deviceChannels requestedChannels : Nat) : Bytes :=
  if deviceChannels = requestedChannels then convertAll convert data
  else if deviceChannels = 1 ∧ requestedChannels = 2 then duplicate convert data
  else wrapChannels convert data (data.length / deviceChannels) deviceChannels requestedChannels

theorem length_wrapChannels (data : List α) (frames devCh reqCh : Nat) :
    (wrapChannels convert data frames devCh reqCh).length = 2 * reqCh * frames := by
  simp [wrapChannels, List.length_flatMap, Nat.mul_comm]

omit [Inhabited α] in
theorem length_convertAll (data : List α) : (convertAll convert data).length = 2 * data.length := by
  simp [convertAll, List.length_flatMap, Nat.mul_comm]

omit [Inhabited α] in
variable {data : List α} {deviceChannels : Nat}

/-- A mapper gives every whole frame the requested number of samples. -/
theorem length_mapChannels (some_channel : 1 ≤ deviceChannels) (whole : deviceChannels ∣ data.length)
    (requestedChannels : Nat) : (mapChannels convert data deviceChannels requestedChannels).length =
      2 * requestedChannels * (data.length / deviceChannels) := by
  unfold mapChannels
  split
  · rename_i same
    rw [length_convertAll, ← same, Nat.mul_assoc, Nat.mul_div_cancel' whole]
  · dsimp only
    rw [if_neg (show ¬ deviceChannels = 0 by omega)]
    split
    · rename_i mono
      obtain ⟨rfl, rfl⟩ := mono
      simp [Nat.mul_comm]
    · exact length_wrapChannels convert data _ _ _

end

def mapI16Channels (data : List (BitVec 16)) (deviceChannels requestedChannels : Nat) : Bytes :=
  mapChannels (fun s => s) data deviceChannels requestedChannels

/-- The cast `s as i16` keeps the bits. -/
def mapU16Channels (data : List (BitVec 16)) (deviceChannels requestedChannels : Nat) : Bytes :=
  mapChannels (fun s => s) data deviceChannels requestedChannels

/-- `f32ToI16` stands for `(s * i16::MAX as f32) as i16`. -/
def mapF32Channels {F : Type} [Inhabited F] (f32ToI16 : F → BitVec 16) (data : List F)
    (deviceChannels requestedChannels : Nat) : Bytes :=
  mapChannels f32ToI16 data deviceChannels requestedChannels

end StereoMix.Audio
