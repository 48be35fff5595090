import Mathlib.Data.List.Basic
import Mathlib.Tactic.Ring

/-!
# Byte files and little-endian fields

A file is the list of its bytes. `writeAt f pos b` is the file after `b` is written at offset `pos`: a
write at the end appends, one inside replaces, one past the end fills the gap with zeros, and one of no bytes does
nothing. `overlay c junk` is `c` with the bytes of `junk` that it does not reach; a write inside `c` is one inside
`overlay c junk`. `leBytes n v` are the `n` little-endian bytes of `v`, `leValue` reads them back.
-/

namespace ByteFile

abbrev Bytes := List (BitVec 8)

/-- The file after the bytes `b` are written at offset `pos`. -/
def writeAt (f : Bytes) (pos : Nat) (b : Bytes) : Bytes :=
  if b.isEmpty then f else (f.rightpad pos 0).take pos ++ b ++ f.drop (pos + b.length)

/-- The `n` bytes from offset `pos` on, when the file has them. -/
def readExact (f : Bytes) (pos n : Nat) : Option Bytes :=
  if pos + n ≤ f.length then some ((f.drop pos).take n) else none

/-- A write that starts inside the file. -/
theorem writeAt_inside {f : Bytes} {pos : Nat} (inside : pos ≤ f.length) (b : Bytes) :
    writeAt f pos b = f.take pos ++ b ++ f.drop (pos + b.length) := by
  unfold writeAt
  split
  · rename_i empty
    rw [List.isEmpty_iff.1 empty, List.append_nil]
    exact (List.take_append_drop pos f).symm
  · rw [List.rightpad, List.take_append_of_le_length inside]

/-- A write at the end appends. -/
theorem writeAt_end (f b : Bytes) : writeAt f f.length b = f ++ b := by
  simp [writeAt_inside]

/-- A write of as many bytes as it replaces. -/
theorem writeAt_middle {pos : Nat} {front old new back : Bytes} (start : pos = front.length)
    (same : new.length = old.length) :
    writeAt (front ++ old ++ back) pos new = front ++ new ++ back := by
  subst start
  rw [writeAt_inside (by simp)]
  simp [same, List.drop_append]

theorem length_writeAt {f : Bytes} {pos : Nat} (inside : pos ≤ f.length) (b : Bytes) :
    (writeAt f pos b).length = max f.length (pos + b.length) := by
  rw [writeAt_inside inside]
  simp only [List.length_append, List.length_take, List.length_drop]
  omega

theorem readExact_middle {pos n : Nat} {front mid back : Bytes} (start : pos = front.length)
    (size : n = mid.length) : readExact (front ++ mid ++ back) pos n = some mid := by
  subst start size
  simp [readExact]

/-! ## Bytes behind -/

/-- `c`, and what of `junk` it does not reach. -/
def overlay (c junk : Bytes) : Bytes := c ++ junk.drop c.length

theorem length_overlay (c junk : Bytes) : (overlay c junk).length = max c.length junk.length := by
  rw [overlay, List.length_append, List.length_drop]
  omega

/-- A write inside leaves what lies behind. -/
theorem writeAt_overlay {c : Bytes} {pos : Nat} (junk : Bytes) (inside : pos ≤ c.length) (b : Bytes) :
    writeAt (overlay c junk) pos b = overlay (writeAt c pos b) junk := by
  have inside' : pos ≤ (overlay c junk).length := by
    rw [length_overlay]
    omega
  rw [writeAt_inside inside', overlay, overlay, length_writeAt inside, writeAt_inside inside,
    List.take_append_of_le_length inside, List.drop_append, List.drop_drop, ← List.append_assoc]
  congr 2
  omega

theorem readExact_overlay {c : Bytes} {pos n : Nat} (junk : Bytes) (inside : pos + n ≤ c.length) :
    readExact (overlay c junk) pos n = readExact c pos n := by
  have inside' : pos + n ≤ (overlay c junk).length := by
    rw [length_overlay]
    omega
  rw [readExact, readExact, if_pos inside, if_pos inside', overlay, List.drop_append_of_le_length (by omega),
    List.take_append_of_le_length]
  rw [List.length_drop]
  omega

/-- Two files of one size, the first with bytes behind, are the same if the files are and nothing shows behind. -/
theorem overlay_eq_iff {c c' : Bytes} (junk : Bytes) (size : c.length = c'.length) :
    overlay c junk = c' ↔ c = c' ∧ junk.length ≤ c.length := by
  constructor
  · intro same
    have long := congrArg List.length same
    rw [length_overlay] at long
    refine ⟨?_, by omega⟩
    have front := congrArg (List.take c.length) same
    rwa [overlay, List.take_left, size, List.take_length] at front
  · rintro ⟨rfl, short⟩
    rw [overlay, List.drop_eq_nil_of_le short, List.append_nil]

/-- The `n` low bytes of `v`, least significant first. -/
def leBytes : Nat → Nat → Bytes
  | 0, _ => []
  | n + 1, v => BitVec.ofNat 8 v :: leBytes n (v / 256)

/-- The number that little-endian bytes denote. -/
def leValue : Bytes → Nat
  | [] => 0
  | b :: bs => b.toNat + 256 * leValue bs

@[simp] theorem length_leBytes (n v : Nat) : (leBytes n v).length = n := by
  induction n generalizing v with
  | zero => rfl
  | succ n ih => simp [leBytes, ih]

/-- Little-endian bytes are read back, up to what the width drops. -/
theorem leValue_leBytes (n v : Nat) : leValue (leBytes n v) = v % 256 ^ n := by
  induction n generalizing v with
  | zero => simp [leBytes, leValue, Nat.mod_one]
  | succ n ih =>
    rw [leBytes, leValue, ih, pow_succ', Nat.mod_mul, BitVec.toNat_ofNat]

theorem leValue_leBytes_of_lt {n v : Nat} (bound : v < 256 ^ n) : leValue (leBytes n v) = v := by
  rw [leValue_leBytes, Nat.mod_eq_of_lt bound]

end ByteFile
