import StereoMix.Encode.BitWriter
import StereoMix.Lib.Crc

/-!
# `flac_enc.rs`: the FLAC encoder

FIXED prediction of order 1 with Rice coding, translated function by function. Machine integers are bit
vectors of the source's widths and wrap; `usize` values are natural numbers.
-/

namespace StereoMix.Encode

/-! ## CRC helpers -/

/-- One turn of `crc8`'s inner loop. -/
def crc8Step (crc : BitVec 8) : BitVec 8 :=
  if crc &&& 0x80#8 ≠ 0#8 then (crc <<< 1) ^^^ 0x07#8 else crc <<< 1

/-- CRC-8: polynomial 0x07 (x^8 + x^2 + x + 1), init 0. -/
def crc8 (data : List (BitVec 8)) : BitVec 8 :=
  data.foldl (fun crc b => crc8Step^[8] (crc ^^^ b)) 0#8

/-- One turn of `crc16`'s inner loop. -/
def crc16Step (crc : BitVec 16) : BitVec 16 :=
  if crc &&& 0x8000#16 ≠ 0#16 then (crc <<< 1) ^^^ 0x8005#16 else crc <<< 1

/-- CRC-16: polynomial 0x8005 (x^16 + x^15 + x^2 + 1), init 0. -/
def crc16 (data : List (BitVec 8)) : BitVec 16 :=
  data.foldl (fun crc b => crc16Step^[8] (crc ^^^ ((b.setWidth 16 : BitVec 16) <<< (8 : Nat)))) 0#16

/-! ## STREAMINFO -/

/-- The 34 bytes of STREAMINFO. -/
def buildStreaminfo (minBlock maxBlock : BitVec 16) (sampleRate : BitVec 32) (channels bitsPerSample : BitVec 16)
    (totalSamples : BitVec 64) : List (BitVec 8) :=
  let sr := sampleRate
  let ch := (channels - 1#16).setWidth 32
  let bps := (bitsPerSample - 1#16).setWidth 32
  let ts := totalSamples
  -- 20-bit sample rate | 3-bit (channels-1) | 5-bit (bps-1) | 36-bit total samples from byte 10 on
  [(minBlock >>> 8).setWidth 8, minBlock.setWidth 8, (maxBlock >>> 8).setWidth 8, maxBlock.setWidth 8,
   0#8, 0#8, 0#8, 0#8, 0#8, 0#8,
   (sr >>> 12).setWidth 8,
   (sr >>> 4).setWidth 8,
   ((sr &&& 0xF#32) <<< 4).setWidth 8 ||| ((ch &&& 0x7#32) <<< 1).setWidth 8 ||| ((bps >>> 4) &&& 0x1#32).setWidth 8,
   ((bps &&& 0xF#32) <<< 4).setWidth 8 ||| ((ts >>> 32) &&& 0xF#64).setWidth 8,
   (ts >>> 24).setWidth 8, (ts >>> 16).setWidth 8, (ts >>> 8).setWidth 8, ts.setWidth 8] ++
  List.replicate 16 0#8

/-! ## Codes of the frame header -/

/-- 4-bit block-size code for the frame header. -/
def blockSizeCode (bs : Nat) : BitVec 8 :=
  match bs with
  | 192 => 1#8
  | 576 => 2#8
  | 1152 => 3#8
  | 2304 => 4#8
  | 4608 => 5#8
  | 256 => 8#8
  | 512 => 9#8
  | 1024 => 10#8
  | 2048 => 11#8
  | 4096 => 12#8
  | 8192 => 13#8
  | 16384 => 14#8
  | 32768 => 15#8
  | _ => if bs ≤ 256 then 6#8 else 7#8

/-- 4-bit sample-rate code for the frame header. -/
def sampleRateCode (sr : BitVec 32) : BitVec 8 :=
  match sr.toNat with
  | 88200 => 1#8
  | 176400 => 2#8
  | 192000 => 3#8
  | 8000 => 4#8
  | 16000 => 5#8
  | 22050 => 6#8
  | 24000 => 7#8
  | 32000 => 8#8
  | 44100 => 9#8
  | 48000 => 10#8
  | 96000 => 11#8
  | _ =>
    if sr % 1000#32 = 0#32 ∧ sr / 1000#32 ≤ 255#32 then 12#8
    else if sr ≤ 65535#32 then 13#8
    else 14#8

/-- 3-bit sample-size code for the frame header. -/
def sampleSizeCode (bps : BitVec 16) : BitVec 8 :=
  match bps.toNat with
  | 8 => 1#8
  | 12 => 2#8
  | 16 => 4#8
  | 20 => 5#8
  | 24 => 6#8
  | 32 => 7#8
  | _ => 0#8

/-- UTF-8-like coding of the frame number. -/
def writeUtf8Coded (w : BitWriter) (val : BitVec 32) : BitWriter :=
  let byte (w : BitWriter) (b : BitVec 32) : BitWriter := w.writeBits (b.setWidth 64) 8
  if val < 0x80#32 then
    byte w val
  else if val < 0x800#32 then
    let w := byte w (0xC0#32 ||| (val >>> 6))
    byte w (0x80#32 ||| (val &&& 0x3F#32))
  else if val < 0x10000#32 then
    let w := byte w (0xE0#32 ||| (val >>> 12))
    let w := byte w (0x80#32 ||| ((val >>> 6) &&& 0x3F#32))
    byte w (0x80#32 ||| (val &&& 0x3F#32))
  else if val < 0x200000#32 then
    let w := byte w (0xF0#32 ||| (val >>> 18))
    let w := byte w (0x80#32 ||| ((val >>> 12) &&& 0x3F#32))
    let w := byte w (0x80#32 ||| ((val >>> 6) &&& 0x3F#32))
    byte w (0x80#32 ||| (val &&& 0x3F#32))
  else
    let w := byte w (0xF8#32 ||| (val >>> 24))
    let w := byte w (0x80#32 ||| ((val >>> 18) &&& 0x3F#32))
    let w := byte w (0x80#32 ||| ((val >>> 12) &&& 0x3F#32))
    let w := byte w (0x80#32 ||| ((val >>> 6) &&& 0x3F#32))
    byte w (0x80#32 ||| (val &&& 0x3F#32))

/-! ## Residual coding -/

/-- The folded residual in `choose_rice_param`, a `u64`. -/
def foldResidual64 (r : BitVec 32) : BitVec 64 :=
  if 0 ≤ r.toInt then 2#64 * r.signExtend 64 else -2#64 * r.signExtend 64 - 1#64

/-- The folded residual in `encode_residuals`, a `u32`. -/
def foldResidual (r : BitVec 32) : BitVec 32 :=
  if 0 ≤ r.toInt then 2#32 * r else (-2#64 * r.signExtend 64 - 1#64).setWidth 32

/-- Rice parameter for a partition of residuals (capped at 14). -/
def chooseRiceParam (residuals : List (BitVec 32)) : Nat :=
  if residuals.isEmpty then 0
  else
    let sum := (residuals.map foldResidual64).foldl (· + ·) 0#64
    let mean := sum / BitVec.ofNat 64 residuals.length
    if mean = 0#64 then 0
    else
      let k := (64 - mean.clz.toNat) - 1
      min k 14

def encodeResiduals (w : BitWriter) (residuals : List (BitVec 32)) : BitWriter :=
  -- coding method 00 (4-bit parameter), partition order 0
  let w := w.writeBits 0b00#64 2
  let w := w.writeBits 0#64 4
  let k := chooseRiceParam residuals
  let maxQ := ((residuals.map fun r => (foldResidual r >>> k).toNat).max?).getD 0
  if maxQ > 128 then
    -- escape code, then the raw width
    let w := w.writeBits 0b1111#64 4
    let rawBps := 17
    let w := w.writeBits (BitVec.ofNat 64 rawBps) 5
    let rmask := (1#64 <<< rawBps) - 1#64
    residuals.foldl (fun w r => w.writeBits (r.signExtend 64 &&& rmask) rawBps) w
  else
    let w := w.writeBits (BitVec.ofNat 64 k) 4
    residuals.foldl (fun w r =>
      let folded := foldResidual r
      let quotient := folded >>> k
      let remainder := folded &&& ((1#32 <<< k) - 1#32)
      let w := w.writeUnary quotient.toNat
      if k > 0 then w.writeBits (remainder.setWidth 64) k else w) w

/-! ## Subframes -/

def encodeSubframeFixed1 (w : BitWriter) (samples : List (BitVec 16)) (bps : BitVec 16) : BitWriter :=
  let w := w.writeBits 0#64 1
  let w := w.writeBits 0b001001#64 6
  let w := w.writeBits 0#64 1
  -- warm-up sample
  let mask := (1#64 <<< bps.toNat) - 1#64
  let w := w.writeBits ((samples.headD 0#16).signExtend 64 &&& mask) bps.toNat
  let residuals := List.zipWith (fun next prev => next.signExtend 32 - prev.signExtend 32) samples.tail samples
  encodeResiduals w residuals

def encodeSubframe (w : BitWriter) (samples : List (BitVec 16)) (bps : BitVec 16) : BitWriter :=
  match samples with
  | [] => w
  | first :: rest =>
    let mask := (1#64 <<< bps.toNat) - 1#64
    if samples.all (· == first) then
      -- CONSTANT
      let w := w.writeBits 0#64 1
      let w := w.writeBits 0b000000#64 6
      let w := w.writeBits 0#64 1
      w.writeBits (first.signExtend 64 &&& mask) bps.toNat
    else if samples.length ≤ 1 then
      -- VERBATIM
      let w := w.writeBits 0#64 1
      let w := w.writeBits 0b000001#64 6
      let w := w.writeBits 0#64 1
      (first :: rest).foldl (fun w s => w.writeBits (s.signExtend 64 &&& mask) bps.toNat) w
    else encodeSubframeFixed1 w samples bps

/-! ## Frames -/

/-- The per-channel buffers: sample `i` goes to channel `i % channels`. -/
def deinterleave (channels : Nat) (interleaved : List (BitVec 16)) : List (List (BitVec 16)) :=
  interleaved.zipIdx.foldl (fun chData p => chData.modify (p.2 % channels) (· ++ [p.1])) (List.replicate channels [])

/-- The frame header up to its CRC-8, the first part of `encode_frame`. -/
def writeFrameHeader (w : BitWriter) (blockSize : Nat) (channels : BitVec 16) (sampleRate : BitVec 32)
    (bitsPerSample : BitVec 16) (frameNumber : BitVec 32) : BitWriter :=
  -- 14-bit sync, reserved 0, fixed block size 0
  let w := w.writeBits 0b1111111111111000#64 16
  let bsCode := blockSizeCode blockSize
  let srCode := sampleRateCode sampleRate
  let w := w.writeBits (bsCode.setWidth 64) 4
  let w := w.writeBits (srCode.setWidth 64) 4
  let w := w.writeBits ((channels - 1#16).setWidth 64) 4
  let w := w.writeBits ((sampleSizeCode bitsPerSample).setWidth 64) 3
  let w := w.writeBits 0#64 1
  let w := writeUtf8Coded w frameNumber
  let w :=
    if bsCode = 6#8 then w.writeBits (BitVec.ofNat 64 (blockSize - 1)) 8
    else if bsCode = 7#8 then w.writeBits (BitVec.ofNat 64 (blockSize - 1)) 16
    else w
  if srCode = 12#8 then w.writeBits ((sampleRate / 1000#32).setWidth 64) 8
  else if srCode = 13#8 then w.writeBits (sampleRate.setWidth 64) 16
  else if srCode = 14#8 then w.writeBits ((sampleRate / 10#32).setWidth 64) 16
  else w

/-- Encode one block of interleaved 16-bit PCM into a complete FLAC frame. -/
def encodeFrame (interleaved : List (BitVec 16)) (channels : BitVec 16) (sampleRate : BitVec 32)
    (bitsPerSample : BitVec 16) (frameNumber : BitVec 32) : List (BitVec 8) :=
  let blockSize := interleaved.length / channels.toNat
  let chData := deinterleave channels.toNat interleaved
  let w := writeFrameHeader .new blockSize channels sampleRate bitsPerSample frameNumber
  let hdrCrc := crc8 w.bytes
  let w := w.writeBits (hdrCrc.setWidth 64) 8
  let w := chData.foldl (fun w samples => encodeSubframe w samples bitsPerSample) w
  let w := w.byteAlign
  let frameCrc := crc16 w.bytes
  let w := w.writeBits (frameCrc.setWidth 64) 16
  w.intoBytes

theorem encodeFrame_ne_nil (interleaved : List (BitVec 16)) (channels : BitVec 16) (sampleRate : BitVec 32)
    (bitsPerSample : BitVec 16) (frameNumber : BitVec 32) :
    encodeFrame interleaved channels sampleRate bitsPerSample frameNumber ≠ [] :=
  (BitWriter.started_writeBits _ _ 15).intoBytes_ne_nil

end StereoMix.Encode
