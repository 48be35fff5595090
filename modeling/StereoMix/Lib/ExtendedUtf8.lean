import Mathlib.Tactic.IntervalCases
import Mathlib.Tactic.Ring

/-!
# Extended UTF-8

A number is a lead byte that announces how many continuation bytes follow, and these, with six bits each. `form k n`
has `k` of them; it is the shortest form of the numbers from `least k` up to `least (k + 1)`. A lead byte of a form
that is large enough for its number is below those of all longer forms, so no form is a prefix of a longer one.
-/

namespace ExtendedUtf8

/-- The marker bits of the lead byte before `k` continuation bytes. -/
def mark (k : Nat) : Nat := if k = 0 then 0 else 256 - 2 ^ (7 - k)

/-- The least number that needs `k` continuation bytes. -/
def least : Nat → Nat
  | 0 => 0
  | 1 => 2 ^ 7
  | k + 2 => 2 ^ (5 * k + 11)

/-- How many continuation bytes a lead byte announces. -/
def announced (lead : BitVec 8) : Option Nat :=
  if lead.toNat < 0x80 then some 0
  else if lead.toNat < 0xC0 then none
  else if lead.toNat < 0xE0 then some 1
  else if lead.toNat < 0xF0 then some 2
  else if lead.toNat < 0xF8 then some 3
  else if lead.toNat < 0xFC then some 4
  else if lead.toNat < 0xFE then some 5
  else if lead.toNat = 0xFE then some 6
  else none

/-- The number that a lead byte and continuation bytes denote. -/
def value (lead : BitVec 8) (rest : List (BitVec 8)) : Nat :=
  rest.foldl (fun v b => v * 64 + b.toNat % 64) (lead.toNat - mark rest.length)

/-- A lead byte that announces the continuation bytes `10xxxxxx` behind it, for a number with no shorter form. -/
structure WellFormed (lead : BitVec 8) (rest : List (BitVec 8)) : Prop where
  announces : announced lead = some rest.length
  continues : ∀ b ∈ rest, b.toNat / 64 = 2
  shortest : least rest.length ≤ value lead rest

/-! ## Forms -/

/-- The last `k` groups of six bits as continuation bytes. -/
def continuations : Nat → Nat → List (BitVec 8)
  | 0, _ => []
  | k + 1, n => BitVec.ofNat 8 (0x80 + n / 64 ^ k % 64) :: continuations k n

def lead (k n : Nat) : BitVec 8 := BitVec.ofNat 8 (mark k + n / 64 ^ k % 2 ^ (7 - k))

/-- A number with `k` continuation bytes. -/
def form (k n : Nat) : List (BitVec 8) := lead k n :: continuations k n

@[simp] theorem length_continuations (k n : Nat) : (continuations k n).length = k := by
  induction k with
  | zero => rfl
  | succ k ih => rw [continuations, List.length_cons, ih]

theorem toNat_group (g : Nat) : (BitVec.ofNat 8 (0x80 + g % 64)).toNat = 0x80 + g % 64 := by
  rw [BitVec.toNat_ofNat]
  omega

theorem continues_continuations {k n : Nat} : ∀ b ∈ continuations k n, b.toNat / 64 = 2 := by
  induction k with
  | zero => simp [continuations]
  | succ k ih =>
    intro b member
    rcases List.mem_cons.1 member with rfl | behind
    · rw [toNat_group]
      omega
    · exact ih b behind

/-- Continuation bytes add their groups of six bits. -/
theorem foldl_continuations (k n v : Nat) :
    (continuations k n).foldl (fun v b => v * 64 + b.toNat % 64) v = v * 64 ^ k + n % 64 ^ k := by
  induction k generalizing v with
  | zero => simp [continuations, Nat.mod_one]
  | succ k ih =>
    have group : (0x80 + n / 64 ^ k % 64) % 64 = n / 64 ^ k % 64 := by omega
    rw [continuations, List.foldl_cons, ih, toNat_group, group, Nat.pow_succ, Nat.mod_mul]
    ring

theorem continuations_eq_iff {k n m : Nat} : continuations k n = continuations k m ↔ n % 64 ^ k = m % 64 ^ k := by
  constructor
  · intro same
    have values := foldl_continuations k n 0
    rw [same, foldl_continuations] at values
    omega
  · intro same
    induction k with
    | zero => rfl
    | succ k ih =>
      rw [Nat.pow_succ] at same
      have groups : n / 64 ^ k % 64 = m / 64 ^ k % 64 := by
        rw [← Nat.mod_mul_right_div_self, same, Nat.mod_mul_right_div_self]
      have rest : n % 64 ^ k = m % 64 ^ k := by
        rw [← Nat.mod_mul_right_mod n _ 64, same, Nat.mod_mul_right_mod]
      rw [continuations, continuations, groups, ih rest]

/-- The marker bits leave room for the number's high bits. -/
theorem mark_add_le {k : Nat} (short : k ≤ 6) : mark k + 2 ^ (7 - k) ≤ 256 := by
  interval_cases k <;> decide

theorem toNat_lead {k : Nat} (short : k ≤ 6) (n : Nat) : (lead k n).toNat = mark k + n / 64 ^ k % 2 ^ (7 - k) := by
  have high := Nat.mod_lt (n / 64 ^ k) (Nat.two_pow_pos (7 - k))
  have room := mark_add_le short
  rw [lead, BitVec.toNat_ofNat, Nat.mod_eq_of_lt (by omega)]

/-- A form keeps the bits it has room for. -/
theorem form_eq_iff {k n m : Nat} (short : k ≤ 6) :
    form k n = form k m ↔ n % 2 ^ (5 * k + 7) = m % 2 ^ (5 * k + 7) := by
  have bits : 2 ^ (5 * k + 7) = 64 ^ k * 2 ^ (7 - k) := by
    rw [show 64 = 2 ^ 6 by rfl, ← Nat.pow_mul, ← Nat.pow_add, show 6 * k + (7 - k) = 5 * k + 7 by omega]
  have leads : lead k n = lead k m ↔ n / 64 ^ k % 2 ^ (7 - k) = m / 64 ^ k % 2 ^ (7 - k) := by
    rw [← BitVec.toNat_inj, toNat_lead short, toNat_lead short]
    omega
  rw [form, form, List.cons.injEq, leads, continuations_eq_iff, bits]
  constructor
  · rintro ⟨high, low⟩
    rw [Nat.mod_mul, Nat.mod_mul, high, low]
  · intro same
    constructor
    · rw [← Nat.mod_mul_right_div_self, same, Nat.mod_mul_right_div_self]
    · rw [← Nat.mod_mul_right_mod n _ (2 ^ (7 - k)), same, Nat.mod_mul_right_mod]

/-! ## Shortest forms -/

/-- How many leads announce `k` continuation bytes. -/
def room (k : Nat) : Nat := if k = 0 then 2 ^ 7 else 2 ^ (6 - k)

theorem range_of_announced {lead : BitVec 8} {k : Nat} (announces : announced lead = some k) :
    k ≤ 6 ∧ mark k ≤ lead.toNat ∧ lead.toNat < mark k + room k := by
  unfold announced at announces
  split_ifs at announces <;> cases announces <;> simp [mark, room] <;> omega

theorem announced_of_range {lead : BitVec 8} {k : Nat} (short : k ≤ 6) (low : mark k ≤ lead.toNat)
    (high : lead.toNat < mark k + room k) : announced lead = some k := by
  unfold announced
  interval_cases k <;> simp [mark, room] at low high <;> split_ifs <;> first | rfl | omega

/-- A number below the least one of the next length has room in its form. -/
theorem least_succ {k : Nat} (short : k ≤ 6) : least (k + 1) = room k * 64 ^ k := by
  interval_cases k <;> rfl

theorem foldl_lt (rest : List (BitVec 8)) (v : Nat) :
    rest.foldl (fun v b => v * 64 + b.toNat % 64) v < (v + 1) * 64 ^ rest.length := by
  induction rest generalizing v with
  | nil => simp
  | cons b rest ih =>
    have group : v * 64 + b.toNat % 64 + 1 ≤ (v + 1) * 64 := by omega
    calc rest.foldl (fun v b => v * 64 + b.toNat % 64) (v * 64 + b.toNat % 64)
        < (v * 64 + b.toNat % 64 + 1) * 64 ^ rest.length := ih _
      _ ≤ (v + 1) * 64 * 64 ^ rest.length := Nat.mul_le_mul_right _ group
      _ = (v + 1) * 64 ^ (b :: rest).length := by rw [List.length_cons, Nat.pow_succ]; ring

/-- What is announced with `k` continuation bytes is below the least number of the next length. -/
theorem value_lt {lead : BitVec 8} {rest : List (BitVec 8)} (announces : announced lead = some rest.length) :
    value lead rest < least (rest.length + 1) := by
  obtain ⟨short, low, high⟩ := range_of_announced announces
  rw [least_succ short]
  apply (foldl_lt rest _).trans_le
  apply Nat.mul_le_mul_right
  omega

section

variable {k n : Nat}

theorem div_lt_room (short : k ≤ 6) (high : n < least (k + 1)) : n / 64 ^ k < room k := by
  rw [least_succ short] at high
  exact Nat.div_lt_of_lt_mul (by rwa [Nat.mul_comm])

/-- In a form with room for its number the lead byte has all the high bits. -/
theorem toNat_lead_of_lt (short : k ≤ 6) (high : n < least (k + 1)) : (lead k n).toNat = mark k + n / 64 ^ k := by
  have fits := div_lt_room short high
  have below : room k ≤ 2 ^ (7 - k) := by
    interval_cases k <;> decide
  rw [toNat_lead short, Nat.mod_eq_of_lt (by omega)]

theorem announced_lead (short : k ≤ 6) (high : n < least (k + 1)) : announced (lead k n) = some k := by
  have fits := div_lt_room short high
  apply announced_of_range short
  · rw [toNat_lead_of_lt short high]
    exact Nat.le_add_right _ _
  · rw [toNat_lead_of_lt short high]
    exact Nat.add_lt_add_left fits _

theorem value_form (short : k ≤ 6) (high : n < least (k + 1)) : value (lead k n) (continuations k n) = n := by
  rw [value, length_continuations, toNat_lead_of_lt short high, Nat.add_sub_cancel_left, foldl_continuations,
    Nat.mul_comm, Nat.div_add_mod]

/-- **The shortest form of a number is well formed.** -/
theorem wellFormed_form (short : k ≤ 6) (low : least k ≤ n) (high : n < least (k + 1)) :
    WellFormed (lead k n) (continuations k n) := by
  constructor
  · rw [length_continuations]
    exact announced_lead short high
  · exact continues_continuations
  · rw [length_continuations, value_form short high]
    exact low

/-- A form with room for its number and a longer form begin with different bytes. -/
theorem lead_ne_of_lt {j m : Nat} (less : k < j) (short : j ≤ 6) (high : n < least (k + 1)) : lead k n ≠ lead j m := by
  have marks : mark k + room k ≤ mark j := by
    interval_cases j <;> interval_cases k <;> decide
  have fits := div_lt_room (by omega) high
  intro same
  have leads := congrArg BitVec.toNat same
  rw [toNat_lead_of_lt (by omega) high, toNat_lead short] at leads
  omega

end

end ExtendedUtf8
