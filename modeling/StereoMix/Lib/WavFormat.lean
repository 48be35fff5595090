import StereoMix.Lib.ByteFile

/-!
# The canonical WAV header

A RIFF/WAVE file with one `fmt ` chunk of 16 bytes and one `data` chunk: 44 bytes of header, then the audio.
`parse` reads the fields back and returns the bytes after the header.
-/

namespace WavFormat

open ByteFile

structure Header where
  riffSize : Nat
  fmtSize : Nat
  audioFormat : Nat
  channels : Nat
  sampleRate : Nat
  byteRate : Nat
  blockAlign : Nat
  bitsPerSample : Nat
  dataSize : Nat
  deriving DecidableEq, Repr

/-- The four tags of the header: `RIFF`, `WAVE`, `fmt ` and `data`. -/
def riffTag : Bytes := [0x52#8, 0x49#8, 0x46#8, 0x46#8]
def waveTag : Bytes := [0x57#8, 0x41#8, 0x56#8, 0x45#8]
def fmtTag : Bytes := [0x66#8, 0x6D#8, 0x74#8, 0x20#8]
def dataTag : Bytes := [0x64#8, 0x61#8, 0x74#8, 0x61#8]

/-- The bytes of a header. -/
def Header.bytes (h : Header) : Bytes :=
  riffTag ++ (leBytes 4 h.riffSize ++ (waveTag ++ (fmtTag ++ (leBytes 4 h.fmtSize ++ (leBytes 2 h.audioFormat ++
    (leBytes 2 h.channels ++ (leBytes 4 h.sampleRate ++ (leBytes 4 h.byteRate ++ (leBytes 2 h.blockAlign ++
      (leBytes 2 h.bitsPerSample ++ (dataTag ++ leBytes 4 h.dataSize)))))))))))

/-- The field of `n` bytes at offset `pos`. -/
def field (file : Bytes) (pos n : Nat) : Nat := leValue ((file.drop pos).take n)

/-- The header's fields and the bytes after it, when the file has a whole header with its tags in place. -/
def parse (file : Bytes) : Option (Header × Bytes) :=
  if 44 ≤ file.length ∧ file.take 4 = riffTag ∧ (file.drop 8).take 4 = waveTag ∧ (file.drop 12).take 4 = fmtTag ∧
      (file.drop 36).take 4 = dataTag then
    some (⟨field file 4 4, field file 16 4, field file 20 2, field file 22 2, field file 24 4, field file 28 4,
      field file 32 2, field file 34 2, field file 40 4⟩, file.drop 44)
  else none

/-- The header between its two size fields. -/
def Header.middle (h : Header) : Bytes :=
  waveTag ++ (fmtTag ++ (leBytes 4 h.fmtSize ++ (leBytes 2 h.audioFormat ++ (leBytes 2 h.channels ++
    (leBytes 4 h.sampleRate ++ (leBytes 4 h.byteRate ++ (leBytes 2 h.blockAlign ++
      (leBytes 2 h.bitsPerSample ++ dataTag))))))))

theorem Header.bytes_eq (h : Header) :
    h.bytes = riffTag ++ leBytes 4 h.riffSize ++ (h.middle ++ leBytes 4 h.dataSize) := by
  simp [bytes, middle]

/-- The fields of a header fit their widths. -/
structure Header.Fits (h : Header) : Prop where
  riffSize : h.riffSize < 256 ^ 4
  fmtSize : h.fmtSize < 256 ^ 4
  audioFormat : h.audioFormat < 256 ^ 2
  channels : h.channels < 256 ^ 2
  sampleRate : h.sampleRate < 256 ^ 4
  byteRate : h.byteRate < 256 ^ 4
  blockAlign : h.blockAlign < 256 ^ 2
  bitsPerSample : h.bitsPerSample < 256 ^ 2
  dataSize : h.dataSize < 256 ^ 4

@[simp] theorem Header.length_bytes (h : Header) : h.bytes.length = 44 := by
  simp [bytes, riffTag, waveTag, fmtTag, dataTag]

theorem Header.length_middle (h : Header) : h.middle.length = 32 := by
  simp [middle, waveTag, fmtTag, dataTag]

theorem field_eq {file : Bytes} {pos n v : Nat} (there : (file.drop pos).take n = leBytes n v) (fits : v < 256 ^ n) :
    field file pos n = v := by
  rw [field, there, leValue_leBytes_of_lt fits]

/-- **The header round trip.** -/
theorem parse_bytes {h : Header} (fits : h.Fits) (body : Bytes) : parse (h.bytes ++ body) = some (h, body) := by
  have tags : 44 ≤ (h.bytes ++ body).length ∧ (h.bytes ++ body).take 4 = riffTag ∧
      ((h.bytes ++ body).drop 8).take 4 = waveTag ∧ ((h.bytes ++ body).drop 12).take 4 = fmtTag ∧
      ((h.bytes ++ body).drop 36).take 4 = dataTag := by
    refine ⟨by simp, ?_, ?_, ?_, ?_⟩ <;>
      simp [Header.bytes, riffTag, waveTag, fmtTag, dataTag, leBytes]
  have fields : field (h.bytes ++ body) 4 4 = h.riffSize ∧ field (h.bytes ++ body) 16 4 = h.fmtSize ∧
      field (h.bytes ++ body) 20 2 = h.audioFormat ∧ field (h.bytes ++ body) 22 2 = h.channels ∧
      field (h.bytes ++ body) 24 4 = h.sampleRate ∧ field (h.bytes ++ body) 28 4 = h.byteRate ∧
      field (h.bytes ++ body) 32 2 = h.blockAlign ∧ field (h.bytes ++ body) 34 2 = h.bitsPerSample ∧
      field (h.bytes ++ body) 40 4 = h.dataSize := by
    refine ⟨field_eq ?_ fits.riffSize, field_eq ?_ fits.fmtSize, field_eq ?_ fits.audioFormat,
      field_eq ?_ fits.channels, field_eq ?_ fits.sampleRate, field_eq ?_ fits.byteRate,
      field_eq ?_ fits.blockAlign, field_eq ?_ fits.bitsPerSample, field_eq ?_ fits.dataSize⟩ <;>
      simp [Header.bytes, riffTag, waveTag, fmtTag, dataTag, leBytes]
  obtain ⟨f₁, f₂, f₃, f₄, f₅, f₆, f₇, f₈, f₉⟩ := fields
  rw [parse, if_pos tags, List.drop_left' h.length_bytes, f₁, f₂, f₃, f₄, f₅, f₆, f₇, f₈, f₉]

end WavFormat
