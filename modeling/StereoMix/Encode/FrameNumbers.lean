import StereoMix.Encode.FlacHeader
import Mathlib.Data.Set.Basic

/-!
# Coded frame numbers

`write_utf8_coded` has five of the lengths of extended UTF-8, and its last branch takes every number that the others
leave. Five bytes have room for 26 bits. A larger number spills into the marker of its lead byte, which then announces
more bytes than follow or loses the spilled bits, so that two numbers can have one code.
-/

namespace StereoMix.Encode

open BitString BitReader FlacFormat BitWriter ExtendedUtf8

/-- The bytes that `write_utf8_coded` emits for a number. -/
def utf8Coded (val : BitVec 32) : List (BitVec 8) := (writeUtf8Coded .new val).bytes

theorem utf8Coded_eq (val : BitVec 32) : utf8Coded val = form (continuationBytes val) val.toNat := by
  apply ofBytes_injective
  have whole := ((appends_form .new val).bytes new_ok rfl (by rw [length_ofBytes]; omega)).2
  exact whole

/-- Frame numbers are coded reversibly: each as a well-formed sequence that the format's decoder reads back as the
number, and none so that another one's code begins with it. -/
structure ReversiblyCoded (numbers : Set (BitVec 32)) : Prop where
  wellFormed : ∀ n ∈ numbers, ∃ lead rest, utf8Coded n = lead :: rest ∧ WellFormed lead rest
  decodes : ∀ n ∈ numbers, codedNumber.run (ofBytes (utf8Coded n)) = some (n.toNat, [])
  prefixFree : ∀ n ∈ numbers, ∀ m ∈ numbers, utf8Coded n <+: utf8Coded m → n = m

variable {n m : BitVec 32}

/-! ## One number -/

theorem wellFormed_utf8Coded (range : n.toNat < 2 ^ 26) :
    ∃ lead rest, utf8Coded n = lead :: rest ∧ WellFormed lead rest :=
  ⟨_, _, utf8Coded_eq n, wellFormed_coded range⟩

theorem decodes_utf8Coded (range : n.toNat < 2 ^ 26) :
    codedNumber.run (ofBytes (utf8Coded n)) = some (n.toNat, []) := by
  have reads := reads_coded range []
  rwa [List.append_nil, ← utf8Coded_eq] at reads

/-- At most four continuation bytes hold 26 bits, so what reads back as its number is below 2^26. -/
theorem lt_of_reads_back {lead : BitVec 8} {rest : List (BitVec 8)} (code : utf8Coded n = lead :: rest)
    (coded : WellFormed lead rest) (decodes : codedNumber.run (ofBytes (utf8Coded n)) = some (n.toNat, [])) :
    n.toNat < 2 ^ 26 := by
  have reads := reads_codedNumber coded.announces coded.continues []
  rw [List.append_nil, ← code, decodes] at reads
  have number : n.toNat = value lead rest := (Prod.mk.inj (Option.some.inj reads)).1
  have length := congrArg List.length ((utf8Coded_eq n).symm.trans code)
  rw [form, List.length_cons, List.length_cons, length_continuations] at length
  have short : rest.length ≤ 4 := by
    have := continuationBytes_le n
    omega
  have room : least (rest.length + 1) ≤ 2 ^ 26 := by
    generalize rest.length = k at short
    interval_cases k <;> decide
  rw [number]
  exact (value_lt coded.announces).trans_le room

/-! ## Two numbers -/

theorem continuationBytes_lt_four_iff : continuationBytes n < 4 ↔ n.toNat < 2 ^ 21 := by
  unfold continuationBytes
  split_ifs <;> simp [BitVec.lt_def] at * <;> omega

/-- Codes of different lengths begin with different bytes. -/
theorem not_prefix_of_shorter (less : continuationBytes n < continuationBytes m) :
    ¬ utf8Coded n <+: utf8Coded m ∧ ¬ utf8Coded m <+: utf8Coded n := by
  have short := continuationBytes_le m
  have small := continuationBytes_lt_four_iff.1 (less.trans_le short)
  have leads : lead (continuationBytes n) n.toNat ≠ lead (continuationBytes m) m.toNat :=
    lead_ne_of_lt less (by omega) (lt_least_continuationBytes (by omega))
  rw [utf8Coded_eq, utf8Coded_eq]
  constructor
  · exact fun here => leads (List.cons_prefix_cons.1 here).1
  · exact fun here => leads (List.cons_prefix_cons.1 here).1.symm

/-- Codes of one length are one exactly if the numbers agree in the bits that the length has room for. -/
theorem prefix_iff_of_same_length (same : continuationBytes n = continuationBytes m) :
    utf8Coded n <+: utf8Coded m ↔
      n.toNat % 2 ^ (5 * continuationBytes n + 7) = m.toNat % 2 ^ (5 * continuationBytes n + 7) := by
  have short : continuationBytes n ≤ 6 := (continuationBytes_le n).trans (by omega)
  rw [utf8Coded_eq, utf8Coded_eq, ← same, ← form_eq_iff short]
  constructor
  · intro here
    exact here.eq_of_length (by simp [form])
  · intro codes
    exact codes ▸ List.prefix_rfl

/-- **One code is a prefix of another number's** exactly if both numbers have the longest codes and agree in 27
bits. -/
theorem utf8Coded_prefix_iff : utf8Coded n <+: utf8Coded m ↔
    n = m ∨ 2 ^ 21 ≤ n.toNat ∧ 2 ^ 21 ≤ m.toNat ∧ n.toNat % 2 ^ 27 = m.toNat % 2 ^ 27 := by
  rcases Nat.lt_trichotomy (continuationBytes n) (continuationBytes m) with less | same | more
  · have small := continuationBytes_lt_four_iff.1 (less.trans_le (continuationBytes_le m))
    refine iff_of_false (not_prefix_of_shorter less).1 ?_
    rintro (rfl | ⟨long, -, -⟩)
    · exact absurd less (Nat.lt_irrefl _)
    · omega
  · rw [prefix_iff_of_same_length same]
    by_cases small : continuationBytes n < 4
    · have small_n := continuationBytes_lt_four_iff.1 small
      have small_m := continuationBytes_lt_four_iff.1 (same ▸ small)
      have room_n : n.toNat < least (continuationBytes n + 1) := lt_least_continuationBytes (by omega)
      have room_m : m.toNat < least (continuationBytes m + 1) := lt_least_continuationBytes (by omega)
      rw [← same] at room_m
      rw [← BitVec.toNat_inj, or_iff_left (by omega)]
      generalize continuationBytes n = k at small room_n room_m
      interval_cases k <;> simp only [least] at room_n room_m <;> omega
    · have longest : continuationBytes n = 4 := by
        have := continuationBytes_le n
        omega
      have long_n : 2 ^ 21 ≤ n.toNat := Nat.le_of_not_lt (mt continuationBytes_lt_four_iff.2 small)
      have long_m : 2 ^ 21 ≤ m.toNat := Nat.le_of_not_lt (mt continuationBytes_lt_four_iff.2 (same ▸ small))
      rw [longest]
      constructor
      · exact fun agree => .inr ⟨long_n, long_m, agree⟩
      · rintro (rfl | ⟨-, -, agree⟩)
        · rfl
        · exact agree
  · have small := continuationBytes_lt_four_iff.1 (more.trans_le (continuationBytes_le n))
    refine iff_of_false (not_prefix_of_shorter more).2 ?_
    rintro (rfl | ⟨-, long, -⟩)
    · exact absurd more (Nat.lt_irrefl _)
    · omega

/-- **Frame numbers are coded reversibly exactly if they are below 2^26.** -/
theorem frame_numbers_reversible_iff (numbers : Set (BitVec 32)) :
    ReversiblyCoded numbers ↔ ∀ n ∈ numbers, n.toNat < 2 ^ 26 := by
  constructor
  · intro coded n member
    obtain ⟨lead, rest, code, wellFormed⟩ := coded.wellFormed n member
    exact lt_of_reads_back code wellFormed (coded.decodes n member)
  · intro range
    refine ⟨fun n member => wellFormed_utf8Coded (range n member), fun n member => decodes_utf8Coded (range n member),
      fun n first m second here => ?_⟩
    have small_n := range n first
    have small_m := range m second
    rcases utf8Coded_prefix_iff.1 here with same | ⟨-, -, agree⟩
    · exact same
    · exact BitVec.eq_of_toNat_eq (by omega)

/-- 2^26 is coded as a lead byte for five continuation bytes with four behind it, and so is 2^26 + 2^27. -/
theorem frame_numbers_collide :
    utf8Coded 0x4000000#32 = [0xFC#8, 0x80#8, 0x80#8, 0x80#8, 0x80#8] ∧ announced 0xFC#8 = some 5 ∧
      utf8Coded 0xC000000#32 = utf8Coded 0x4000000#32 ∧ ¬ ReversiblyCoded {n | n.toNat < 2 ^ 31} := by
  have code : utf8Coded 0x4000000#32 = [0xFC#8, 0x80#8, 0x80#8, 0x80#8, 0x80#8] := by decide +kernel
  have again : utf8Coded 0xC000000#32 = [0xFC#8, 0x80#8, 0x80#8, 0x80#8, 0x80#8] := by decide +kernel
  refine ⟨code, by decide, again.trans code.symm, fun coded => ?_⟩
  obtain ⟨lead, rest, bytes, wellFormed⟩ := coded.wellFormed 0x4000000#32 (by decide)
  rw [code] at bytes
  cases bytes
  exact absurd wellFormed.announces (by decide)

end StereoMix.Encode
