import StereoMix.Encode.BitWriter

/-!
# A bit writer takes any sequence of calls

The calls `flac_enc.rs` makes on its writer are fields, unary codes and alignments. Each has the bit string
it stands for, which for an alignment depends on where the call falls, and a reader that knows the shapes of
the calls, not their values, finds its way back through the string.
-/

namespace StereoMix.Encode.BitWriter

open BitString BitReader

/-- What a reader must know of a call to read it back. -/
inductive Shape where
  | bits (count : Nat)
  | unary
  | align

/-- A call on the writer; a field is at most as wide as the word that holds it. -/
inductive Call where
  | writeBits (val : BitVec 64) (count : Nat) (fits : count ≤ 64)
  | writeUnary (count : Nat)
  | byteAlign

/-- The bits from `pos` to the next byte boundary. -/
def padding (pos : Nat) : Nat := (8 - pos % 8) % 8

namespace Call

def run (w : BitWriter) : Call → BitWriter
  | .writeBits val count _ => w.writeBits val count
  | .writeUnary count => w.writeUnary count
  | .byteAlign => w.byteAlign

/-- The bit string of a call made after `pos` bits. -/
def string (pos : Nat) : Call → List Bool
  | .writeBits val count _ => ofNat count val.toNat
  | .writeUnary count => List.replicate count false ++ [true]
  | .byteAlign => List.replicate (padding pos) false

def shape : Call → Shape
  | .writeBits _ count _ => .bits count
  | .writeUnary _ => .unary
  | .byteAlign => .align

/-- The number a call puts into the stream. -/
def value : Call → Nat
  | .writeBits val count _ => val.toNat % 2 ^ count
  | .writeUnary count => count
  | .byteAlign => 0

end Call

/-- The calls one after the other. -/
def calls (w : BitWriter) (cs : List Call) : BitWriter := cs.foldl Call.run w

/-- The concatenation of the calls' bit strings, the first made after `pos` bits. -/
def strings (pos : Nat) : List Call → List Bool
  | [] => []
  | c :: cs => c.string pos ++ strings (pos + (c.string pos).length) cs

/-- Read a call back at `pos`: its number and the position after it. -/
def Shape.reader (pos : Nat) : Shape → BitReader (Nat × Nat)
  | .bits count => do return (← nat count, pos + count)
  | .unary => do
    let count ← BitReader.unary
    return (count, pos + (count + 1))
  | .align => do return (← nat (padding pos), pos + padding pos)

/-- Read the calls of the given shapes back, one after the other. -/
def readBack (pos : Nat) : List Shape → BitReader (List Nat)
  | [] => pure []
  | s :: ss => do
    let (v, next) ← s.reader pos
    return v :: (← readBack next ss)

theorem appends_call (w : BitWriter) (c : Call) : Appends w (c.run w) (c.string w.bits.length) := by
  cases c with
  | writeBits val count fits => exact appends_writeBits w val count
  | writeUnary count => exact appends_writeUnary w count
  | byteAlign => exact appends_byteAlign w

theorem appends_calls (w : BitWriter) (cs : List Call) : Appends w (w.calls cs) (strings w.bits.length cs) := by
  intro ok
  induction cs generalizing w with
  | nil => exact Appends.refl w ok
  | cons c cs ih =>
    obtain ⟨okNext, bits⟩ := appends_call w c ok
    have rest := ih (c.run w) okNext
    rw [bits, List.length_append] at rest
    rw [strings, ← List.append_assoc]
    exact rest

/-- The used bits of the partial byte are its first ones. -/
theorem Ok.bits_eq_take {w : BitWriter} (ok : w.Ok) :
    w.bits = ofBytes w.bytes ++ (ofNat 8 w.current.toNat).take w.bitPos := by
  have partialByte := ok.partialByte
  have halves := ofNat_add w.bitPos (8 - w.bitPos) w.current.toNat
  rw [show w.bitPos + (8 - w.bitPos) = 8 by omega] at halves
  rw [halves, List.take_left' (length_ofNat _ _), bits, bytes]

/-- All bytes of a well-formed writer are its bits, zero-padded to whole bytes. -/
theorem Ok.ofBytes_intoBytes {w : BitWriter} (ok : w.Ok) :
    ofBytes w.intoBytes = w.bits ++ List.replicate (padding w.bits.length) false := by
  obtain ⟨okAligned, bits⟩ := appends_byteAlign w ok
  have whole : w.byteAlign.bits.length % 8 = 0 := by
    rw [bits, List.length_append, List.length_replicate]
    omega
  rw [intoBytes, ← (okAligned.bits_of_aligned whole).2, bits, padding]

theorem reads_call (pos : Nat) (c : Call) :
    Reads (c.shape.reader pos) (c.string pos) (c.value, pos + (c.string pos).length) := by
  cases c with
  | writeBits val count fits =>
    have field := reads_nat (Nat.mod_lt val.toNat (Nat.two_pow_pos count))
    rw [ofNat_mod] at field
    rw [Call.string, length_ofNat]
    exact field.map fun v => (v, pos + count)
  | writeUnary count =>
    rw [Call.string, List.length_append, List.length_replicate, List.length_singleton]
    exact (reads_unary count).map fun q => (q, pos + (q + 1))
  | byteAlign =>
    have zeros := reads_nat (Nat.two_pow_pos (padding pos))
    rw [ofNat_zero_right] at zeros
    rw [Call.string, List.length_replicate]
    exact zeros.map fun v => (v, pos + padding pos)

theorem reads_calls (pos : Nat) (cs : List Call) :
    Reads (readBack pos (cs.map Call.shape)) (strings pos cs) (cs.map Call.value) := by
  induction cs generalizing pos with
  | nil => exact .pure []
  | cons c cs ih => exact (reads_call pos c).bind ((ih _).map (c.value :: ·))

/-- **The writer concatenates bit strings.** After any calls on a new writer the partial byte is not full, its
unused bits are zero, and the completed bytes with the used bits are the calls' strings in order; `into_bytes`
pads that string with zeros to whole bytes, and a reader takes every number back from it. -/
theorem calls_concatenate (cs : List Call) :
    (new.calls cs).bitPos < 8 ∧
    (∀ i, i < 8 - (new.calls cs).bitPos → (new.calls cs).current.getLsbD i = false) ∧
    ofBytes (new.calls cs).bytes ++ (ofNat 8 (new.calls cs).current.toNat).take (new.calls cs).bitPos =
      strings 0 cs ∧
    ofBytes (new.calls cs).intoBytes =
      strings 0 cs ++ List.replicate (padding (strings 0 cs).length) false ∧
    (readBack 0 (cs.map Call.shape)).run (ofBytes (new.calls cs).intoBytes) =
      some (cs.map Call.value, List.replicate (padding (strings 0 cs).length) false) := by
  obtain ⟨ok, written⟩ := appends_calls new cs new_ok
  simp only [bits_new, List.length_nil, List.nil_append] at written
  have padded := ok.ofBytes_intoBytes
  rw [written] at padded
  refine ⟨ok.partialByte, ok.unused, by rw [← ok.bits_eq_take, written], padded, ?_⟩
  rw [padded]
  exact reads_calls 0 cs _

end StereoMix.Encode.BitWriter
