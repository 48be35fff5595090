import StereoMix.Lib.BitString
import StereoMix.Lib.Crc

/-!
# A reference decoder for a subset of the FLAC format

Written from the format: the `fLaC` marker, one STREAMINFO block, then frames up to the end of the file.
A frame has a header whose CRC-8 is checked, one subframe a channel (CONSTANT, VERBATIM or FIXED of
order 1, the residual in Rice partitions or escaped), zero padding to a byte and a checked CRC-16 of the
whole frame. Other subframe kinds, stereo decorrelation, wasted bits, variable block sizes and further
metadata blocks are rejected. The sample rate of a frame header is parsed, the stream's rate is that of
STREAMINFO.
-/

namespace FlacFormat

open BitString BitReader

/-- The fields of the STREAMINFO block. -/
structure StreamInfo where
  minBlock : Nat
  maxBlock : Nat
  minFrame : Nat
  maxFrame : Nat
  sampleRate : Nat
  channels : Nat
  bitsPerSample : Nat
  totalSamples : Nat
  md5 : Nat
  deriving DecidableEq, Repr

/-- The fields of a frame header; `rate` is `none` when the header refers to STREAMINFO. -/
structure Header where
  number : Nat
  blockSize : Nat
  rate : Option Nat
  channels : Nat
  bitsPerSample : Nat
  deriving DecidableEq, Repr

/-- A decoded frame: its header and the samples of each channel. -/
structure Frame where
  header : Header
  samples : List (List Int)
  deriving DecidableEq, Repr

structure Stream where
  info : StreamInfo
  frames : List Frame
  deriving DecidableEq, Repr

def streamInfo : BitReader StreamInfo := do
  let minBlock ← nat 16
  let maxBlock ← nat 16
  let minFrame ← nat 24
  let maxFrame ← nat 24
  let sampleRate ← nat 20
  let channels ← nat 3
  let bitsPerSample ← nat 5
  let totalSamples ← nat 36
  let md5 ← nat 128
  return ⟨minBlock, maxBlock, minFrame, maxFrame, sampleRate, channels + 1, bitsPerSample + 1, totalSamples, md5⟩

/-- `n` continuation bytes `10xxxxxx` after the bits `v` of a coded number. -/
def continuation : Nat → Nat → BitReader Nat
  | 0, v => pure v
  | n + 1, v => do
    let mark ← nat 2
    require (mark = 2)
    let low ← nat 6
    continuation n (v * 64 + low)

/-- A coded number: the lead byte announces the number of continuation bytes. -/
def codedNumber : BitReader Nat := do
  let lead ← nat 8
  if lead < 0x80 then return lead
  else if lead < 0xC0 then failure
  else if lead < 0xE0 then continuation 1 (lead - 0xC0)
  else if lead < 0xF0 then continuation 2 (lead - 0xE0)
  else if lead < 0xF8 then continuation 3 (lead - 0xF0)
  else if lead < 0xFC then continuation 4 (lead - 0xF8)
  else if lead < 0xFE then continuation 5 (lead - 0xFC)
  else if lead = 0xFE then continuation 6 0
  else failure

/-- The block size for a 4-bit code, with the trailing bytes of codes 6 and 7. -/
def blockSizeField (code : Nat) : BitReader Nat :=
  if code = 0 then failure
  else if code = 1 then return 192
  else if code ≤ 5 then return 576 * 2 ^ (code - 2)
  else if code = 6 then do return (← nat 8) + 1
  else if code = 7 then do return (← nat 16) + 1
  else return 256 * 2 ^ (code - 8)

/-- The sample rates of the codes 1 to 11. -/
def rateTable : List Nat := [88200, 176400, 192000, 8000, 16000, 22050, 24000, 32000, 44100, 48000, 96000]

/-- The sample rate for a 4-bit code, with the trailing bytes of codes 12 to 14. -/
def rateField (code : Nat) : BitReader (Option Nat) :=
  if code = 0 then return none
  else if code ≤ 11 then return rateTable[code - 1]?
  else if code = 12 then do return some (1000 * (← nat 8))
  else if code = 13 then do return some (← nat 16)
  else if code = 14 then do return some (10 * (← nat 16))
  else failure

/-- The sample size for a 3-bit code. -/
def sampleSize (info : StreamInfo) (code : Nat) : Option Nat :=
  [some info.bitsPerSample, some 8, some 12, none, some 16, some 20, some 24, some 32][code]?.join

def header (info : StreamInfo) : BitReader Header := do
  let sync ← nat 14
  require (sync = 0x3FFE)
  let reserved ← nat 1
  require (reserved = 0)
  let strategy ← nat 1
  require (strategy = 0)
  let sizeCode ← nat 4
  let rateCode ← nat 4
  let assignment ← nat 4
  require (assignment < 8)
  let depthCode ← nat 3
  let reserved ← nat 1
  require (reserved = 0)
  let number ← codedNumber
  let blockSize ← blockSizeField sizeCode
  let rate ← rateField rateCode
  require ((sampleSize info depthCode).isSome)
  return ⟨number, blockSize, rate, assignment + 1, (sampleSize info depthCode).getD 0⟩

/-- A header and its CRC-8, which is checked. -/
def checkedHeader (info : StreamInfo) : BitReader Header := do
  let (h, bits) ← consuming (header info)
  let crc ← nat 8
  require (crc = (Crc.crc 0x07#8 bits).toNat)
  return h

/-- The signed number a folded (zigzag) one stands for. -/
def unfold (u : Nat) : Int := if u % 2 = 0 then (u / 2 : Nat) else -(u / 2 : Nat) - 1

def rice (k : Nat) : BitReader Int := do
  let quotient ← unary
  let remainder ← nat k
  return unfold (quotient * 2 ^ k + remainder)

/-- One partition of `n` residuals: Rice codes, or raw fields after the escape parameter. -/
def partition (paramBits n : Nat) : BitReader (List Int) := do
  let k ← nat paramBits
  if k = 2 ^ paramBits - 1 then
    let width ← nat 5
    times (int width) n
  else times (rice k) n

/-- The residual of a block predicted with the given order. -/
def residual (blockSize order : Nat) : BitReader (List Int) := do
  let method ← nat 2
  require (method < 2)
  let partitionOrder ← nat 4
  let size := blockSize / 2 ^ partitionOrder
  require (size * 2 ^ partitionOrder = blockSize ∧ order ≤ size)
  let first ← partition (4 + method) (size - order)
  let others ← times (partition (4 + method) size) (2 ^ partitionOrder - 1)
  return first ++ others.flatten

def subframe (bitsPerSample blockSize : Nat) : BitReader (List Int) := do
  let pad ← nat 1
  require (pad = 0)
  let kind ← nat 6
  let wasted ← nat 1
  require (wasted = 0)
  if kind = 0 then return List.replicate blockSize (← int bitsPerSample)
  else if kind = 1 then times (int bitsPerSample) blockSize
  else if kind = 9 then
    let first ← int bitsPerSample
    let res ← residual blockSize 1
    return res.scanl (· + ·) first
  else failure

/-- A frame up to its last subframe. -/
def frameBody (info : StreamInfo) : BitReader Frame := do
  let (h, bits) ← consuming (header info)
  let crc ← nat 8
  require (crc = (Crc.crc 0x07#8 bits).toNat)
  require (h.channels = info.channels ∧ h.bitsPerSample = info.bitsPerSample ∧ h.blockSize ≤ info.maxBlock)
  let samples ← times (subframe h.bitsPerSample h.blockSize) h.channels
  return ⟨h, samples⟩

/-- `r`, then zeros up to the next byte boundary. -/
def aligned {α : Type} (r : BitReader α) : BitReader α := do
  let (a, bits) ← consuming r
  let pad ← nat ((8 - bits.length % 8) % 8)
  require (pad = 0)
  return a

def frame (info : StreamInfo) : BitReader Frame := do
  let (f, bits) ← consuming (aligned (frameBody info))
  let crc ← nat 16
  require (crc = (Crc.crc 0x8005#16 bits).toNat)
  return f

/-- Frames up to the end of the input, at most `fuel` of them. -/
def frames (info : StreamInfo) : Nat → BitReader (List Frame)
  | 0 => do
    require ((← get).isEmpty)
    return []
  | fuel + 1 => do
    if (← get).isEmpty then return []
    else
      let f ← frame info
      return f :: (← frames info fuel)

/-- The marker and the only metadata block, STREAMINFO. -/
def preamble : BitReader StreamInfo := do
  let marker ← nat 32
  require (marker = 0x664C6143)
  let last ← nat 1
  require (last = 1)
  let kind ← nat 7
  require (kind = 0)
  let size ← nat 24
  require (size = 34)
  streamInfo

def stream (fuel : Nat) : BitReader Stream := do
  let info ← preamble
  let fs ← frames info fuel
  require (info.totalSamples = 0 ∨ info.totalSamples = (fs.map fun f => f.header.blockSize).sum)
  return ⟨info, fs⟩

/-- Decode a whole file, with no bit left over. -/
def decode (file : List (BitVec 8)) : Option Stream := do
  let (s, rest) ← (stream file.length).run (ofBytes file)
  if rest.isEmpty then return s else none

/-- The samples of channel `k`, over all frames. -/
def Stream.channel (s : Stream) (k : Nat) : List Int := s.frames.flatMap fun f => f.samples.getD k []

/-! ## Reading a whole file -/

theorem frame_nil (info : StreamInfo) : (frame info).run [] = none := rfl

/-- A frame takes at least one bit. -/
theorem ne_nil_of_reads_frame {info : StreamInfo} {b : List Bool} {f : Frame} (reads : Reads (frame info) b f) :
    b ≠ [] := by
  rintro rfl
  have read := reads []
  rw [List.nil_append, frame_nil] at read
  cases read

theorem frames_nil (info : StreamInfo) (fuel : Nat) : (frames info fuel).run [] = some ([], []) := by
  cases fuel <;> rfl

/-- A frame at the front of the input is read before the others. -/
theorem frames_cons {info : StreamInfo} {fuel : Nat} {b rest : List Bool} {f : Frame} {fs : List Frame}
    (first : Reads (frame info) b f) (others : (frames info fuel).run rest = some (fs, [])) :
    (frames info (fuel + 1)).run (b ++ rest) = some (f :: fs, []) := by
  have nonempty : (b ++ rest).isEmpty = false := by
    simp [ne_nil_of_reads_frame first]
  rw [frames, StateT.run_bind, StateT.run_get]
  simp only [Option.pure_def, Option.bind_eq_bind, Option.bind_some, nonempty]
  rw [if_neg (by simp)]
  rw [StateT.run_bind, first rest]
  simp only [Option.bind_eq_bind, Option.bind_some]
  rw [StateT.run_bind, others]
  rfl

/-- A file is decoded when its preamble is read, its frames reach to its end and the total agrees. -/
theorem decode_eq_some {front back : List (BitVec 8)} {info : StreamInfo} {fs : List Frame}
    (head : Reads preamble (ofBytes front) info)
    (body : (frames info (front ++ back).length).run (ofBytes back) = some (fs, []))
    (total : info.totalSamples = 0 ∨ info.totalSamples = (fs.map fun f => f.header.blockSize).sum) :
    decode (front ++ back) = some ⟨info, fs⟩ := by
  have run : (stream (front ++ back).length).run (ofBytes (front ++ back)) = some (⟨info, fs⟩, []) := by
    rw [stream, ofBytes_append, StateT.run_bind, head]
    simp only [Option.bind_eq_bind, Option.bind_some]
    rw [StateT.run_bind, body]
    simp only [Option.bind_eq_bind, Option.bind_some]
    exact (Reads.check (f := fun _ => pure (⟨info, fs⟩ : Stream)) total (.pure _)) []
  rw [decode, run]
  rfl

end FlacFormat
