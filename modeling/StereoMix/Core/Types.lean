import StereoMix.Lib.ByteFile

/-!
# PCM types and errors shared by the crates

`bsm-core`'s `types.rs` and `error.rs`. Machine integers are bit vectors of the source's widths.
-/

namespace StereoMix

open ByteFile

/-- PCM audio format descriptor. -/
structure PcmFormat where
  sampleRate : BitVec 32
  channels : BitVec 16
  bitDepth : BitVec 16
  deriving DecidableEq, Repr

def PcmFormat.bytesPerSample (f : PcmFormat) : BitVec 16 := f.bitDepth / 8#16

def PcmFormat.bytesPerFrame (f : PcmFormat) : BitVec 32 :=
  f.bytesPerSample.setWidth 32 * f.channels.setWidth 32

/-- A single PCM audio buffer from the capture pipeline. -/
structure PcmFrame where
  data : Bytes
  format : PcmFormat
  timestampUs : BitVec 64
  sequence : BitVec 64
  frameCount : BitVec 32
  deriving DecidableEq, Repr

/-- Encoder-layer errors, with their texts. -/
inductive EncodeError where
  | notFound (msg : String)
  | openFailed (msg : String)
  | encodeFailed (msg : String)
  | muxFailed (msg : String)
  | outputFile (msg : String)
  | unsupportedCodec (msg : String)
  deriving DecidableEq, Repr

/-- An encoder-layer error as it is displayed. -/
def EncodeError.text : EncodeError → String
  | .notFound msg => s!"encoder not found: {msg}"
  | .openFailed msg => s!"encoder open failed: {msg}"
  | .encodeFailed msg => s!"encode failed: {msg}"
  | .muxFailed msg => s!"mux failed: {msg}"
  | .outputFile msg => s!"output file error: {msg}"
  | .unsupportedCodec msg => s!"codec not supported: {msg}"

/-- Audio-layer errors, with their texts. -/
inductive AudioError where
  | deviceNotFound (msg : String)
  | deviceOpenFailed (msg : String)
  | bufferOverrun
  | deviceDisconnected
  | unsupportedFormat (msg : String)
  | wasapi (code : BitVec 32) (msg : String)
  | notActive
  deriving DecidableEq, Repr

/-- The i16 samples of little-endian bytes; an odd last byte is dropped (`chunks_exact(2)`). -/
def i16Samples : Bytes → List (BitVec 16)
  | lo :: hi :: rest => (hi ++ lo) :: i16Samples rest
  | _ => []

theorem length_i16Samples (b : Bytes) : (i16Samples b).length = b.length / 2 := by
  fun_induction i16Samples b with
  | case1 lo hi rest ih =>
    simp only [List.length_cons, ih]
    omega
  | case2 b short =>
    match b, short with
    | [], _ => rfl
    | [_], _ => simp
    | lo :: hi :: rest, short => exact absurd rfl (short lo hi rest)

/-- Samples of whole 16-bit pairs do not depend on how the bytes were cut. -/
theorem i16Samples_append {a b : Bytes} (even : a.length % 2 = 0) :
    i16Samples (a ++ b) = i16Samples a ++ i16Samples b := by
  fun_induction i16Samples a with
  | case1 lo hi rest ih =>
    simp only [List.length_cons] at even
    simp [i16Samples, ih (by omega)]
  | case2 a short =>
    match a, short, even with
    | [], _, _ => rfl
    | [_], _, even => simp at even
    | lo :: hi :: rest, short, _ => exact absurd rfl (short lo hi rest)

end StereoMix
