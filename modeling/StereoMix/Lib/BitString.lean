import Mathlib.Data.List.Basic
import Mathlib.Tactic.Ring
import Mathlib.Tactic.Linarith

/-!
# Bit strings and readers over them

A bit string is a `List Bool`, most significant bit first. `BitString.ofNat n v` is the field of the
`n` low bits of `v`, and `ofBytes` lays bytes end to end. A `BitReader` consumes a prefix of a bit
string. `Reads r b a` says that `r` takes exactly `b`, whatever follows it, and returns `a`; a reader
built by `bind` reads the concatenation of what its parts read (`Reads.bind`), so a round trip is
proved field by field, along the structure of the reader.
-/

namespace BitString

/-- The `n` low bits of `v`, most significant first. -/
def ofNat : Nat → Nat → List Bool
  | 0, _ => []
  | n + 1, v => v.testBit n :: ofNat n v

/-- The number a bit string denotes. -/
def value (bs : List Bool) : Nat := bs.foldl (fun v b => 2 * v + b.toNat) 0

/-- The bits of bytes laid end to end. -/
def ofBytes (bytes : List (BitVec 8)) : List Bool := bytes.flatMap fun b => ofNat 8 b.toNat

@[simp] theorem ofNat_zero_left (v : Nat) : ofNat 0 v = [] := rfl

@[simp] theorem length_ofNat (n v : Nat) : (ofNat n v).length = n := by
  induction n with
  | zero => rfl
  | succ n ih => simp [ofNat, ih]

@[simp] theorem ofBytes_nil : ofBytes [] = [] := rfl

@[simp] theorem ofBytes_cons (b : BitVec 8) (bytes : List (BitVec 8)) :
    ofBytes (b :: bytes) = ofNat 8 b.toNat ++ ofBytes bytes := rfl

@[simp] theorem ofBytes_append (xs ys : List (BitVec 8)) :
    ofBytes (xs ++ ys) = ofBytes xs ++ ofBytes ys := by
  simp [ofBytes]

@[simp] theorem length_ofBytes (bytes : List (BitVec 8)) : (ofBytes bytes).length = 8 * bytes.length := by
  induction bytes with
  | nil => rfl
  | cons b bytes ih => simp [ih]; omega

/-- Only the `n` low bits of the number matter to a field of `n` bits. -/
theorem ofNat_congr {n v w : Nat} (same : ∀ i < n, v.testBit i = w.testBit i) : ofNat n v = ofNat n w := by
  induction n with
  | zero => rfl
  | succ n ih => rw [ofNat, ofNat, same n (by omega), ih fun i hi => same i (by omega)]

theorem ofNat_mod (n v : Nat) : ofNat n (v % 2 ^ n) = ofNat n v :=
  ofNat_congr fun i hi => by simp [Nat.testBit_mod_two_pow, hi]

/-- A field of `m + n` bits is the field of the high `m` bits and that of the low `n`. -/
theorem ofNat_add (m n v : Nat) : ofNat (m + n) v = ofNat m (v >>> n) ++ ofNat n v := by
  induction m with
  | zero => simp [ofNat]
  | succ m ih => rw [show m + 1 + n = m + n + 1 by omega, ofNat, ofNat, ih]; simp [Nat.add_comm]

@[simp] theorem ofNat_zero_right (n : Nat) : ofNat n 0 = List.replicate n false := by
  induction n with
  | zero => rfl
  | succ n ih => simp [ofNat, ih, List.replicate_succ]

theorem getElem?_ofNat (n v i : Nat) : (ofNat n v)[i]? = if i < n then some (v.testBit (n - 1 - i)) else none := by
  induction n generalizing i with
  | zero => simp
  | succ n ih =>
    rcases i with _ | i
    · simp [ofNat]
    · simp only [ofNat, List.getElem?_cons_succ, ih]
      rw [show n + 1 - 1 - (i + 1) = n - 1 - i by omega]
      simp

theorem foldl_value (bs : List Bool) (v : Nat) :
    bs.foldl (fun v b => 2 * v + b.toNat) v = v * 2 ^ bs.length + value bs := by
  induction bs generalizing v with
  | nil => simp [value]
  | cons b bs ih =>
    rw [value, List.foldl_cons, List.foldl_cons, ih, ih (2 * 0 + b.toNat)]
    simp only [List.length_cons, pow_succ]
    ring

@[simp] theorem value_nil : value [] = 0 := rfl

theorem value_cons (b : Bool) (bs : List Bool) : value (b :: bs) = b.toNat * 2 ^ bs.length + value bs := by
  rw [value, List.foldl_cons, foldl_value]; simp

/-- A field denotes its number, up to the bits it drops. -/
theorem value_ofNat (n v : Nat) : value (ofNat n v) = v % 2 ^ n := by
  induction n with
  | zero => simp [ofNat, Nat.mod_one]
  | succ n ih =>
    rw [ofNat, value_cons, ih, length_ofNat, Nat.mod_pow_succ, Nat.toNat_testBit]
    ring

theorem value_ofNat_of_lt {n v : Nat} (bound : v < 2 ^ n) : value (ofNat n v) = v := by
  rw [value_ofNat, Nat.mod_eq_of_lt bound]

/-- The bits of bytes determine the bytes. -/
theorem ofBytes_injective : Function.Injective ofBytes := by
  intro xs
  induction xs with
  | nil =>
    intro ys same
    have empty := congrArg List.length same
    rw [length_ofBytes, length_ofBytes] at empty
    exact (List.length_eq_zero_iff.mp (by simpa using empty.symm)).symm
  | cons x xs ih =>
    intro ys same
    rcases ys with _ | ⟨y, ys⟩
    · simpa using congrArg List.length same
    · obtain ⟨first, rest⟩ := List.append_inj same (by simp)
      have values := congrArg value first
      rw [value_ofNat_of_lt x.isLt, value_ofNat_of_lt y.isLt] at values
      rw [BitVec.eq_of_toNat_eq values, ih rest]

/-- The two's complement reading of an `n`-bit number. -/
def signed (n v : Nat) : Int := if 2 * v < 2 ^ n then v else (v : Int) - 2 ^ n

end BitString

/-- A reader of bit strings: what it read and the bits left, or `none` when it rejects. -/
abbrev BitReader := StateT (List Bool) Option

namespace BitReader

open BitString

/-- `r` reads exactly the bits `b`, whatever follows them, and returns `a`. -/
def Reads {α : Type} (r : BitReader α) (b : List Bool) (a : α) : Prop :=
  ∀ rest, r.run (b ++ rest) = some (a, rest)

/-- The next `n` bits. -/
def take (n : Nat) : BitReader (List Bool) := fun s =>
  if n ≤ s.length then some (s.take n, s.drop n) else none

/-- An unsigned field of `n` bits. -/
def nat (n : Nat) : BitReader Nat := do
  return value (← take n)

/-- A two's complement field of `n` bits. -/
def int (n : Nat) : BitReader Int := do
  return signed n (← nat n)

/-- The zeros before the next one, which is consumed too. -/
def unaryGo : List Bool → Option (Nat × List Bool)
  | [] => none
  | true :: bs => some (0, bs)
  | false :: bs => (unaryGo bs).map fun p => (p.1 + 1, p.2)

/-- A unary code: as many zeros as the number, then a one. -/
def unary : BitReader Nat := unaryGo

/-- `n` readings in a row. -/
def times {α : Type} (r : BitReader α) : Nat → BitReader (List α)
  | 0 => pure []
  | n + 1 => do
    let a ← r
    return a :: (← times r n)

/-- The reading of `r` together with the bits it consumed. -/
def consuming {α : Type} (r : BitReader α) : BitReader (α × List Bool) := fun s =>
  (r.run s).map fun p => ((p.1, s.take (s.length - p.2.length)), p.2)

/-- Accept only if `p` holds. -/
def require (p : Prop) [Decidable p] : BitReader Unit := if p then pure () else failure

section

variable {α β : Type}

theorem Reads.pure (a : α) : Reads (Pure.pure a) [] a := fun _ => rfl

theorem Reads.bind {r : BitReader α} {f : α → BitReader β} {b c : List Bool} {a : α} {d : β}
    (first : Reads r b a) (next : Reads (f a) c d) : Reads (r >>= f) (b ++ c) d := by
  intro rest
  rw [StateT.run_bind, List.append_assoc, first]
  exact next rest

/-- A reading followed by one that consumes nothing. -/
theorem Reads.last {r : BitReader α} {f : α → BitReader β} {b : List Bool} {a : α} {d : β}
    (first : Reads r b a) (next : Reads (f a) [] d) : Reads (r >>= f) b d := by
  simpa using first.bind next

theorem Reads.map {r : BitReader α} {b : List Bool} {a : α} (h : Reads r b a) (f : α → β) :
    Reads (do return f (← r)) b (f a) :=
  h.last (.pure (f a))

theorem Reads.require {p : Prop} [Decidable p] (holds : p) : Reads (require p) [] () := by
  simpa [BitReader.require, holds] using Reads.pure ()

/-- A check in the middle of a reader. -/
theorem Reads.check {p : Prop} [Decidable p] {f : Unit → BitReader β} {b : List Bool} {d : β}
    (holds : p) (next : Reads (f ()) b d) : Reads (BitReader.require p >>= f) b d :=
  (Reads.require holds).bind next

theorem reads_take (b : List Bool) : Reads (take b.length) b b := by
  intro rest
  simp [take, StateT.run]

theorem reads_nat {n v : Nat} (bound : v < 2 ^ n) : Reads (nat n) (ofNat n v) v := by
  have field := (reads_take (ofNat n v)).map value
  rwa [value_ofNat_of_lt bound, length_ofNat] at field

theorem reads_int {n v : Nat} (bound : v < 2 ^ n) : Reads (int n) (ofNat n v) (signed n v) :=
  (reads_nat bound).map (signed n)

theorem reads_unary (q : Nat) : Reads unary (List.replicate q false ++ [true]) q := by
  intro rest
  induction q with
  | zero => rfl
  | succ q ih =>
    simp only [StateT.run, unary] at ih ⊢
    rw [List.replicate_succ, List.cons_append, List.cons_append, unaryGo, ih]
    rfl

/-- A list written element by element is read back by as many readings. -/
theorem reads_times {γ : Type} {r : BitReader α} {write : γ → List Bool} {f : γ → α} (xs : List γ)
    (each : ∀ x ∈ xs, Reads r (write x) (f x)) :
    Reads (times r xs.length) (xs.flatMap write) (xs.map f) := by
  induction xs with
  | nil => exact .pure []
  | cons x xs ih =>
    rw [List.flatMap_cons, List.map_cons, List.length_cons, times]
    exact (each x (by simp)).bind ((ih fun y hy => each y (by simp [hy])).map (f x :: ·))

theorem Reads.consuming {r : BitReader α} {b : List Bool} {a : α} (h : Reads r b a) :
    Reads (consuming r) b (a, b) := by
  intro rest
  have run := h rest
  simp only [StateT.run] at run
  simp [BitReader.consuming, StateT.run, run]

end

end BitReader
