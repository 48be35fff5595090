import StereoMix.Audio.Loopback
import StereoMix.Audio.Capture
import StereoMix.Lib.Interleaved

/-!
# One channel mapping, written five times

Over whole frames each mapper is the general loop: a fast path for equal counts or for mono to stereo writes what the
loop would, and no index is out of range. So channel `c` of frame `f` is the converted sample `c mod d` of that frame,
and the bytes are as many as the frame count and format say. The u16 mapper converts by keeping the bits, which is the
conversion of offset binary on no sample.
-/

namespace StereoMix.Audio

open ByteFile

/-! ## The mappers with checked indexing -/

section

variable {α : Type} (convert : α → BitVec 16)

def checkedWrapChannels (data : List α) (frames devCh reqCh : Nat) : Option Bytes :=
  collect (fun f => collect (fun rch => data[f * devCh + rch % devCh]?.map fun s => i16Bytes (convert s))
    (List.range reqCh)) (List.range frames)

/-- `mapChannels`, with every index checked. -/
def checkedMapChannels (data : List α) (deviceChannels requestedChannels : Nat) : Option Bytes :=
  if deviceChannels = requestedChannels then some (convertAll convert data)
  else
    let frames := if deviceChannels = 0 then 0 else data.length / deviceChannels
    if deviceChannels = 1 ∧ requestedChannels = 2 then
      collect (fun f => data[f]?.map fun s => i16Bytes (convert s) ++ i16Bytes (convert s)) (List.range frames)
    else checkedWrapChannels convert data frames deviceChannels requestedChannels

/-- `mapInCallback`, with every index checked and no division by 0. -/
def checkedMapInCallback (data : List α) (deviceChannels requestedChannels : Nat) : Option Bytes :=
  if deviceChannels = requestedChannels then some (convertAll convert data)
  else if deviceChannels = 1 ∧ requestedChannels = 2 then some (duplicate convert data)
  else if deviceChannels = 0 then none
  else checkedWrapChannels convert data (data.length / deviceChannels) deviceChannels requestedChannels

end

/-- Channel `c` of frame `f` is the converted sample `c mod d` of the frame, and nothing else is written. -/
structure Emits {α : Type} (convert : α → BitVec 16) (data : List α) (d r : Nat) (out : Bytes) : Prop where
  length : out.length = 2 * r * (data.length / d)
  sample : ∀ f c, f < data.length / d → c < r →
    ∃ s, data[f * d + c % d]? = some s ∧ (out.drop (2 * (f * r + c))).take 2 = i16Bytes (convert s)

/-! ## The general loop -/

section

variable {α : Type} {data : List α} {d : Nat}

theorem index_inside {f c : Nat} (some_channel : 1 ≤ d) (frame : f < data.length / d) : f * d + c % d < data.length := by
  have inside := Nat.mod_lt c (show d > 0 by omega)
  have frames : (f + 1) * d ≤ data.length := Nat.le_trans (Nat.mul_le_mul_right d frame) (Nat.div_mul_le_self _ _)
  rw [Nat.succ_mul] at frames
  omega

variable [Inhabited α] (convert : α → BitVec 16)

theorem wrapChannels_eq (frames r : Nat) : wrapChannels convert data frames d r =
    (List.range (frames * r)).flatMap fun i => i16Bytes (convert (data.getD (i / r * d + i % r % d) default)) := by
  rw [Interleaved.range_frames, List.flatMap_assoc, wrapChannels]
  apply List.flatMap_congr
  intro f _
  rw [List.flatMap_map]
  apply List.flatMap_congr
  intro c member
  have inside : c < r := List.mem_range.1 member
  rw [Nat.mul_comm f r, Nat.mul_add_div (by omega), Nat.div_eq_of_lt inside, Nat.mul_add_mod, Nat.mod_eq_of_lt inside,
    Nat.add_zero]

theorem emits_wrapChannels (some_channel : 1 ≤ d) (r : Nat) :
    Emits convert data d r (wrapChannels convert data (data.length / d) d r) := by
  refine ⟨length_wrapChannels convert data _ _ _, fun f c frame inside => ?_⟩
  have index := index_inside (c := c) some_channel frame
  refine ⟨_, List.getElem?_eq_getElem index, ?_⟩
  have place : f * r + c < data.length / d * r := by
    have frames : (f + 1) * r ≤ data.length / d * r := Nat.mul_le_mul_right r frame
    rw [Nat.succ_mul] at frames
    omega
  rw [wrapChannels_eq, Interleaved.take_drop_flatMap (a := f * r + c) (fun _ => length_i16Bytes _)
    (by rw [List.getElem?_range place])]
  rw [Nat.mul_comm f r, Nat.mul_add_div (by omega), Nat.div_eq_of_lt inside, Nat.mul_add_mod, Nat.mod_eq_of_lt inside,
    Nat.add_zero, List.getD_eq_getElem _ _ index]

/-- The fast path for equal counts writes what the general loop would. -/
theorem convertAll_eq_wrapChannels (whole : d ∣ data.length) :
    convertAll convert data = wrapChannels convert data (data.length / d) d d := by
  rw [wrapChannels_eq, Nat.div_mul_cancel whole, convertAll]
  have own (i : Nat) : i / d * d + i % d % d = i := by
    rw [Nat.mod_mod, Nat.div_add_mod']
  have all : data = (List.range data.length).map fun i => data.getD i default := by
    apply List.ext_getElem (by simp)
    intro i inside _
    simp [inside]
  conv_lhs => rw [all, List.flatMap_map]
  simp only [own]

/-- So does the one for mono to stereo. -/
theorem duplicate_eq_wrapChannels : duplicate convert data = wrapChannels convert data (data.length / 1) 1 2 := by
  have all : data = (List.range data.length).map fun i => data.getD i default := by
    apply List.ext_getElem (by simp)
    intro i inside _
    simp [inside]
  rw [Nat.div_one, wrapChannels, duplicate]
  conv_lhs => rw [all, List.flatMap_map]
  simp [List.range_succ, Nat.mod_one]

theorem mapChannels_eq_wrapChannels (some_channel : 1 ≤ d) (whole : d ∣ data.length) (r : Nat) :
    mapChannels convert data d r = wrapChannels convert data (data.length / d) d r := by
  unfold mapChannels
  split
  · rename_i same
    subst same
    exact convertAll_eq_wrapChannels convert whole
  · dsimp only
    rw [if_neg (show ¬ d = 0 by omega)]
    split
    · rename_i mono
      obtain ⟨rfl, rfl⟩ := mono
      simp [wrapChannels, List.range_succ, Nat.mod_one]
    · rfl

theorem mapInCallback_eq_wrapChannels (whole : d ∣ data.length) (r : Nat) :
    mapInCallback convert data d r = wrapChannels convert data (data.length / d) d r := by
  unfold mapInCallback
  split
  · rename_i same
    subst same
    exact convertAll_eq_wrapChannels convert whole
  · split
    · rename_i mono
      obtain ⟨rfl, rfl⟩ := mono
      exact duplicate_eq_wrapChannels convert
    · rfl

/-! ## No index is out of range -/

theorem checkedWrapChannels_eq (some_channel : 1 ≤ d) (r : Nat) :
    checkedWrapChannels convert data (data.length / d) d r =
      some (wrapChannels convert data (data.length / d) d r) := by
  refine collect_eq fun f frame => collect_eq fun c _ => ?_
  have index := index_inside (c := c) some_channel (List.mem_range.1 frame)
  rw [List.getElem?_eq_getElem index, List.getD_eq_getElem _ _ index, Option.map_some]

/-- A mapper indexes in range, whatever the counts are. -/
theorem checkedMapChannels_eq (data : List α) (d r : Nat) :
    checkedMapChannels convert data d r = some (mapChannels convert data d r) := by
  unfold checkedMapChannels mapChannels
  split
  · rfl
  · dsimp only
    by_cases none : d = 0
    · subst none
      rfl
    · rw [if_neg none]
      split
      · rename_i mono
        obtain ⟨rfl, rfl⟩ := mono
        refine collect_eq fun f frame => ?_
        have index : f < data.length := by simpa using frame
        rw [List.getElem?_eq_getElem index, List.getD_eq_getElem _ _ index, Option.map_some]
      · exact checkedWrapChannels_eq convert (by omega) r

theorem checkedMapInCallback_eq (some_channel : 1 ≤ d) (r : Nat) :
    checkedMapInCallback convert data d r = some (mapInCallback convert data d r) := by
  unfold checkedMapInCallback mapInCallback
  split
  · rfl
  · split
    · rfl
    · rw [if_neg (show ¬ d = 0 by omega)]
      exact checkedWrapChannels_eq convert some_channel r

end

/-! ## The render mix -/

section

variable {α : Type} [Inhabited α] (convert : α → BitVec 16) (floatToI16 : BitVec 32 → BitVec 16)

/-- The mix is mapped by the general loop, whatever its samples are read as. -/
theorem mixToI16_eq_wrapChannels {data : List α} {bytes : Bytes} {info : MixInfo} {dst : BitVec 16} {n : Nat}
    (bits : max (info.bits / 8#16).toNat 1 = n) (size : bytes.length = n * data.length)
    (some_channel : 1 ≤ info.channels.toNat) (some_dst : 1 ≤ dst.toNat)
    (reads : ∀ ch f s, data[f * info.channels.toNat + ch]? = some s →
      info.sampleI16 floatToI16 bytes info.channels.toNat n ch f = some (convert s)) :
    mixToI16 floatToI16 bytes info dst = some (wrapChannels convert data (data.length / info.channels.toNat)
      info.channels.toNat dst.toNat) := by
  have some_byte : 1 ≤ n := bits ▸ Nat.le_max_right _ _
  unfold mixToI16
  dsimp only
  rw [bits, Nat.max_eq_left some_channel, Nat.max_eq_left some_dst, size]
  have frames : n * data.length / (info.channels.toNat * n) = data.length / info.channels.toNat := by
    rw [Nat.mul_comm n, Nat.mul_div_mul_right _ _ some_byte]
  rw [frames]
  split
  · rename_i short
    have none : data.length / info.channels.toNat = 0 := by
      rw [← frames]
      apply Nat.div_eq_of_lt
      obtain empty | short := short
      · have := Nat.mul_pos some_channel some_byte
        omega
      · exact short
    rw [none]
    rfl
  · refine collect_eq fun f frame => collect_eq fun c member => ?_
    have inside : c < dst.toNat := List.mem_range.1 member
    have index := index_inside (c := c) some_channel (List.mem_range.1 frame)
    have source : (if info.channels.toNat = dst.toNat then c
        else if dst.toNat > info.channels.toNat then c % info.channels.toNat else c) = c % info.channels.toNat := by
      split
      · rw [Nat.mod_eq_of_lt (by omega)]
      · split
        · rfl
        · rw [Nat.mod_eq_of_lt (by omega)]
    rw [source, reads _ _ _ (List.getElem?_eq_getElem index), List.getD_eq_getElem _ _ index, Option.map_some]

omit [Inhabited α] in
theorem length_flatMap_block {block : α → Bytes} {n : Nat} (size : ∀ a, (block a).length = n) (data : List α) :
    (data.flatMap block).length = n * data.length := by
  rw [List.length_flatMap, List.map_congr_left fun a _ => size a]
  simp [Nat.mul_comm]

omit [Inhabited α] in
/-- A sample lies within the bytes. -/
theorem sample_inside {data : List α} {i n : Nat} {s : α} (here : data[i]? = some s) :
    ¬ i * n + n > n * data.length := by
  have inside := (List.getElem?_eq_some_iff.1 here).1
  have := Nat.mul_le_mul_right n inside
  rw [Nat.succ_mul, Nat.mul_comm data.length] at this
  omega

end

section

variable (floatToI16 : BitVec 32 → BitVec 16)

theorem sampleI16_16 {info : MixInfo} {data : List (BitVec 16)} {srcCh ch f : Nat} {s : BitVec 16}
    (bits : info.bits = 16#16) (here : data[f * srcCh + ch]? = some s) :
    info.sampleI16 floatToI16 (data.flatMap i16Bytes) srcCh 2 ch f = some s := by
  unfold MixInfo.sampleI16
  dsimp only
  rw [length_flatMap_block length_i16Bytes, if_neg (sample_inside here), if_neg (by simp [bits]), if_pos bits]
  apply readI16_of_drop
  rw [Nat.mul_comm]
  exact Interleaved.take_drop_flatMap length_i16Bytes here

/-- What a 32-bit mix sample becomes: by the float conversion, or its top 16 bits. -/
def MixInfo.convert32 (info : MixInfo) (v : BitVec 32) : BitVec 16 :=
  if info.isFloat then floatToI16 v else (v.sshiftRight 16).setWidth 16

theorem sampleI16_32 {info : MixInfo} {data : List (BitVec 32)} {srcCh ch f : Nat} {s : BitVec 32}
    (bits : info.bits = 32#16) (here : data[f * srcCh + ch]? = some s) :
    info.sampleI16 floatToI16 (data.flatMap i32Bytes) srcCh 4 ch f = some (info.convert32 floatToI16 s) := by
  have read : readI32 (data.flatMap i32Bytes) ((f * srcCh + ch) * 4) = some s := by
    apply readI32_of_drop
    rw [Nat.mul_comm]
    exact Interleaved.take_drop_flatMap length_i32Bytes here
  unfold MixInfo.sampleI16 MixInfo.convert32
  dsimp only
  rw [length_flatMap_block length_i32Bytes, if_neg (sample_inside here), read]
  cases info.isFloat with
  | true => simp [bits]
  | false => simp [bits]

end

/-! ## All mappers -/

def checkedMapI16Channels (data : List (BitVec 16)) (deviceChannels requestedChannels : Nat) : Option Bytes :=
  checkedMapChannels (fun s => s) data deviceChannels requestedChannels

def checkedMapU16Channels (data : List (BitVec 16)) (deviceChannels requestedChannels : Nat) : Option Bytes :=
  checkedMapChannels (fun s => s) data deviceChannels requestedChannels

def checkedMapF32Channels {F : Type} (f32ToI16 : F → BitVec 16) (data : List F)
    (deviceChannels requestedChannels : Nat) : Option Bytes :=
  checkedMapChannels f32ToI16 data deviceChannels requestedChannels

/-- The bytes of a frame are as many as its frame count and format say. -/
def Whole (frame : PcmFrame) : Prop := frame.data.length = frame.frameCount.toNat * frame.format.bytesPerFrame.toNat

/-- Over whole frames no index of a mapper is out of range, it emits the converted samples channel by channel, and the
frame that a callback makes of them is whole. -/
def MapsFrames {α : Type} (checked : List α → Nat → Nat → Option Bytes) (mapper : List α → Nat → Nat → Bytes)
    (convert : α → BitVec 16) : Prop :=
  ∀ data d r, 1 ≤ d → 1 ≤ r → d ∣ data.length → data.length < 2 ^ 32 →
    checked data d r = some (mapper data d r) ∧ Emits convert data d r (mapper data d r) ∧
      ∀ dev req rate now seq, dev.toNat = d → req.toNat = r →
        Whole (streamFrame (mapper data d r) data.length dev req rate now seq)

/-- The same of the render mix at a sample width, whose samples are written as bytes. -/
def MixMapsFrames (floatToI16 : BitVec 32 → BitVec 16) {w : Nat} (block : BitVec w → Bytes)
    (convert : MixInfo → BitVec w → BitVec 16) : Prop :=
  ∀ (data : List (BitVec w)) (info : MixInfo) (dst : BitVec 16), info.bits.toNat = w → 1 ≤ info.channels.toNat →
    1 ≤ dst.toNat → info.channels.toNat ∣ data.length → data.length < 2 ^ 32 →
    ∃ out, mixToI16 floatToI16 (data.flatMap block) info dst = some out ∧
      Emits (convert info) data info.channels.toNat dst.toNat out ∧
      ∀ numFrames now seq, data.length = numFrames.toNat * info.channels.toNat →
        ∃ frame, loopbackFrame floatToI16 info dst numFrames (some (data.flatMap block)) now seq = some frame ∧ Whole frame

theorem whole_streamFrame {α : Type} {convert : α → BitVec 16} {data : List α} {out : Bytes} {dev req : BitVec 16}
    (some_channel : 1 ≤ dev.toNat) (small : data.length < 2 ^ 32) (emits : Emits convert data dev.toNat req.toNat out)
    (rate : BitVec 32) (now seq : BitVec 64) : Whole (streamFrame out data.length dev req rate now seq) :=
  have exactly : Captured.Exact _ (Capture.stream .i16 dev req rate).reported :=
    streamFrame_exact rate now seq (by decide) some_channel small emits.length
  exactly.length

theorem mapsFrames_mapChannels {α : Type} [Inhabited α] (convert : α → BitVec 16) :
    MapsFrames (checkedMapChannels convert) (mapChannels convert) convert := by
  intro data d r some_channel _ whole small
  have emits : Emits convert data d r (mapChannels convert data d r) := by
    rw [mapChannels_eq_wrapChannels convert some_channel whole]
    exact emits_wrapChannels convert some_channel r
  refine ⟨checkedMapChannels_eq convert data d r, emits, ?_⟩
  rintro dev req rate now seq rfl rfl
  exact whole_streamFrame some_channel small emits rate now seq

theorem mapsFrames_mapInCallback {α : Type} [Inhabited α] (convert : α → BitVec 16) :
    MapsFrames (checkedMapInCallback convert) (mapInCallback convert) convert := by
  intro data d r some_channel _ whole small
  have emits : Emits convert data d r (mapInCallback convert data d r) := by
    rw [mapInCallback_eq_wrapChannels convert whole]
    exact emits_wrapChannels convert some_channel r
  refine ⟨checkedMapInCallback_eq convert some_channel r, emits, ?_⟩
  rintro dev req rate now seq rfl rfl
  exact whole_streamFrame some_channel small emits rate now seq

theorem whole_loopbackFrame {α : Type} {convert : α → BitVec 16} {data : List α} {out : Bytes} {info : MixInfo}
    {dst : BitVec 16} {numFrames : BitVec 32} (some_channel : 1 ≤ info.channels.toNat)
    (emits : Emits convert data info.channels.toNat dst.toNat out)
    (count : data.length = numFrames.toNat * info.channels.toNat) (now seq : BitVec 64) :
    Whole ⟨out, info.toPcmFormat dst, now, seq, numFrames⟩ := by
  have frames : data.length / info.channels.toNat = numFrames.toNat := by
    rw [count, Nat.mul_div_cancel _ some_channel]
  rw [Whole, MixInfo.toPcmFormat, bytesPerFrame_16, emits.length, frames, Nat.mul_comm]

theorem mixMapsFrames {floatToI16 : BitVec 32 → BitVec 16} {w n : Nat} {block : BitVec w → Bytes}
    {convert : MixInfo → BitVec w → BitVec 16} (bytes : max (w / 8) 1 = n) (size : ∀ v, (block v).length = n)
    (reads : ∀ (info : MixInfo) (data : List (BitVec w)) ch f s, info.bits.toNat = w →
      data[f * info.channels.toNat + ch]? = some s →
      info.sampleI16 floatToI16 (data.flatMap block) info.channels.toNat n ch f = some (convert info s)) :
    MixMapsFrames floatToI16 block convert := by
  intro data info dst bits some_channel some_dst _ _
  have width : max (info.bits / 8#16).toNat 1 = n := by
    rw [BitVec.toNat_udiv, bits, ← bytes]
    rfl
  have mix : mixToI16 floatToI16 (data.flatMap block) info dst = some (wrapChannels (convert info) data
      (data.length / info.channels.toNat) info.channels.toNat dst.toNat) :=
    mixToI16_eq_wrapChannels (convert info) floatToI16 width (length_flatMap_block size data) some_channel some_dst
      fun ch f s => reads info data ch f s bits
  have emits : Emits (convert info) data info.channels.toNat dst.toNat _ :=
    emits_wrapChannels (convert info) some_channel dst.toNat
  refine ⟨_, mix, emits, fun numFrames now seq count => ⟨_, ?_, whole_loopbackFrame some_channel emits count now seq⟩⟩
  rw [loopbackFrame, mix, Option.map_some]

/-- **All mappers do the same thing**: the three helpers, the callback for f32 streams and the render mix at 16 and at
32 bits. -/
theorem mappers_map_frames {F : Type} [Inhabited F] (f32ToI16 : F → BitVec 16) (floatToI16 : BitVec 32 → BitVec 16) :
    MapsFrames checkedMapI16Channels mapI16Channels (fun s => s) ∧
      MapsFrames checkedMapU16Channels mapU16Channels (fun s => s) ∧
      MapsFrames (checkedMapF32Channels f32ToI16) (mapF32Channels f32ToI16) f32ToI16 ∧
      MapsFrames (checkedMapInCallback f32ToI16) (mapInCallback f32ToI16) f32ToI16 ∧
      MixMapsFrames floatToI16 i16Bytes (fun _ s => s) ∧
      MixMapsFrames floatToI16 i32Bytes (MixInfo.convert32 floatToI16) := by
  refine ⟨mapsFrames_mapChannels _, mapsFrames_mapChannels _, mapsFrames_mapChannels _, mapsFrames_mapInCallback _,
    mixMapsFrames (by decide) length_i16Bytes ?_, mixMapsFrames (by decide) length_i32Bytes ?_⟩
  · intro info data ch f s bits here
    exact sampleI16_16 floatToI16 (BitVec.eq_of_toNat_eq bits) here
  · intro info data ch f s bits here
    exact sampleI16_32 floatToI16 (BitVec.eq_of_toNat_eq bits) here

/-- Mono samples for stereo in a stream's buffers, and stereo for mono in those of the mix. -/
theorem mappers_map_frames_buffers :
    (checkedMapI16Channels [1#16, 2#16] 1 2 = some (i16Bytes 1#16 ++ i16Bytes 1#16 ++ i16Bytes 2#16 ++ i16Bytes 2#16) ∧
      Whole (streamFrame (mapI16Channels [1#16, 2#16] 1 2) 2 1#16 2#16 48000#32 0#64 0#64)) ∧
    Emits (fun s => s) [1#16, 2#16] 1 2 (mapU16Channels [1#16, 2#16] 1 2) ∧
    Emits (fun _ => 0#16) [0#32, 0#32] 1 2 (mapF32Channels (fun _ => 0#16) [0#32, 0#32] 1 2) ∧
    Emits (fun _ => 0#16) [0#32, 0#32] 1 2 (mapInCallback (fun _ => 0#16) [0#32, 0#32] 1 2) ∧
    (∃ frame, loopbackFrame (fun _ => 0#16) ⟨48000#32, 2#16, 16#16, false⟩ 1#16 1#32
      (some ([1#16, 2#16].flatMap i16Bytes)) 0#64 0#64 = some frame ∧ Whole frame) ∧
    ∃ frame, loopbackFrame (fun _ => 0#16) ⟨48000#32, 2#16, 32#16, false⟩ 1#16 1#32
      (some ([65536#32, 0#32].flatMap i32Bytes)) 0#64 0#64 = some frame ∧ Whole frame := by
  obtain ⟨i16, u16, f32, callback, mix16, mix32⟩ :=
    mappers_map_frames (fun _ : BitVec 32 => 0#16) fun _ : BitVec 32 => 0#16
  obtain ⟨checked, -, frame⟩ := i16 [1#16, 2#16] 1 2 (by decide) (by decide) (by decide) (by decide)
  refine ⟨⟨checked, frame 1#16 2#16 48000#32 0#64 0#64 rfl rfl⟩, ?_, ?_, ?_, ?_, ?_⟩
  · exact (u16 [1#16, 2#16] 1 2 (by decide) (by decide) (by decide) (by decide)).2.1
  · exact (f32 [0#32, 0#32] 1 2 (by decide) (by decide) (by decide) (by decide)).2.1
  · exact (callback [0#32, 0#32] 1 2 (by decide) (by decide) (by decide) (by decide)).2.1
  · obtain ⟨-, -, -, frame⟩ := mix16 [1#16, 2#16] ⟨48000#32, 2#16, 16#16, false⟩ 1#16 rfl (by decide) (by decide)
      (by decide) (by decide)
    exact frame 1#32 0#64 0#64 rfl
  · obtain ⟨-, -, -, frame⟩ := mix32 [65536#32, 0#32] ⟨48000#32, 2#16, 32#16, false⟩ 1#16 rfl (by decide) (by decide)
      (by decide) (by decide)
    exact frame 1#32 0#64 0#64 rfl

/-! ## Unsigned samples -/

/-- An offset binary sample brought to signed: `s - 32768`. -/
def recentre (s : BitVec 16) : BitVec 16 := s - 32768#16

theorem toInt_recentre (s : BitVec 16) : (recentre s).toInt = s.toNat - 32768 := by
  have := s.isLt
  rw [recentre, BitVec.toInt_eq_toNat_cond, BitVec.toNat_sub, BitVec.toNat_ofNat]
  split <;> omega

/-- No sample has the bits of its recentred value. -/
theorem recentre_ne (s : BitVec 16) : recentre s ≠ s := by
  intro same
  have value := toInt_recentre s
  have range := s.isLt
  rw [same, BitVec.toInt_eq_toNat_cond] at value
  split at value <;> omega

/-- No sample is written: there is no sample to pass through, or no whole frame, or no channel asked for. -/
def Silent (data : List (BitVec 16)) (deviceChannels requestedChannels : Nat) : Prop :=
  if deviceChannels = requestedChannels then data = []
  else deviceChannels = 0 ∨ data.length < deviceChannels ∨ requestedChannels = 0

section

variable (convert : BitVec 16 → BitVec 16)

theorem mapChannels_silent {data : List (BitVec 16)} {d r : Nat} (silent : Silent data d r) :
    mapChannels convert data d r = [] := by
  unfold Silent at silent
  unfold mapChannels
  split
  · rename_i same
    rw [if_pos same] at silent
    rw [silent]
    rfl
  · rename_i other
    rw [if_neg other] at silent
    have nothing : (if d = 0 then 0 else data.length / d) = 0 ∨ r = 0 := by
      obtain none | short | none := silent
      · exact .inl (if_pos none)
      · rw [Nat.div_eq_of_lt short]
        exact .inl (ite_self 0)
      · exact .inr none
    dsimp only
    split
    · rename_i mono
      rw [nothing.resolve_right (by omega)]
      rfl
    · obtain none | none := nothing
      · rw [none]
        rfl
      · rw [none, wrapChannels]
        simp

/-- Otherwise the first sample written is the first of the buffer. -/
theorem take_mapChannels {s : BitVec 16} {data : List (BitVec 16)} {d r : Nat} (sounds : ¬ Silent (s :: data) d r) :
    (mapChannels convert (s :: data) d r).take 2 = i16Bytes (convert s) := by
  unfold Silent at sounds
  unfold mapChannels
  split
  · rfl
  · rename_i other
    rw [if_neg other] at sounds
    have some_frame : 1 ≤ (s :: data).length / d := (Nat.one_le_div_iff (by omega)).2 (by omega)
    dsimp only
    rw [if_neg (show ¬ d = 0 by omega)]
    obtain ⟨frames, count⟩ := Nat.exists_eq_add_of_le' some_frame
    obtain ⟨channels, count'⟩ := Nat.exists_eq_add_of_le' (show 1 ≤ r by omega)
    rw [count, List.range_succ_eq_map, List.flatMap_cons]
    split
    · rfl
    · rw [wrapChannels, List.range_succ_eq_map, List.flatMap_cons, count', List.range_succ_eq_map, List.flatMap_cons]
      simp [i16Bytes]

end

/-- **Unsigned capture sounds like signed capture only in silence**: keeping the bits of a sample is its recentred
value on no sample, so the two mappers agree exactly on the buffers of which neither writes a sample. -/
theorem mapU16Channels_recentre_iff (data : List (BitVec 16)) (deviceChannels requestedChannels : Nat) :
    mapU16Channels data deviceChannels requestedChannels =
        mapI16Channels (data.map recentre) deviceChannels requestedChannels ↔
      Silent data deviceChannels requestedChannels := by
  have same_silence : Silent (data.map recentre) deviceChannels requestedChannels ↔
      Silent data deviceChannels requestedChannels := by simp [Silent]
  constructor
  · intro same
    by_contra sounds
    cases data with
    | nil =>
      refine sounds ?_
      unfold Silent
      split
      · rfl
      · rename_i other
        rw [List.length_nil]
        omega
    | cons s data =>
      have first := take_mapChannels (fun s => s) sounds
      have second := take_mapChannels (fun s => s) fun silent => sounds (same_silence.1 silent)
      have bytes : i16Bytes s = i16Bytes (recentre s) := first.symm.trans ((congrArg (List.take 2) same).trans second)
      have own : readI16 (i16Bytes s) 0 = some s := readI16_of_drop rfl
      have other : readI16 (i16Bytes s) 0 = some (recentre s) := readI16_of_drop bytes
      exact recentre_ne s (Option.some.inj (other.symm.trans own))
  · intro silent
    rw [mapU16Channels, mapI16Channels, mapChannels_silent _ silent, mapChannels_silent _ (same_silence.2 silent)]

/-- The middle of the range is silence and becomes the lowest sample, below what the sample before it becomes. -/
theorem mapU16Channels_silence : mapU16Channels [32768#16] 1 1 ≠ mapI16Channels ([32768#16].map recentre) 1 1 ∧
    i16Samples (mapU16Channels [32767#16, 32768#16] 1 1) = [32767#16, 32768#16] ∧
    (32768#16).toInt = -32768 ∧ (32767#16).toInt = 32767 := by decide

end StereoMix.Audio
