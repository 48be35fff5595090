import StereoMix.Core.Instances

/-!
# The duration in a session's summary

`SessionHandle::stop` adds the whole seconds between the mux task's two clock readings and all their nanoseconds,
so it counts whole seconds twice. It is right for as long as there is nothing to count twice: under a second, or
where the nanoseconds do not fit an `i64` and are left out.
-/

namespace StereoMix.Encode

/-- What the code uses of `chrono`: the difference of two clock readings, and its two accessors as documented. -/
structure Chrono (TimeDelta : Type) where
  sub : DateTime → DateTime → TimeDelta
  numSeconds : TimeDelta → Int
  numNanoseconds : TimeDelta → Option Int
  /-- Whole seconds, truncated. -/
  numSeconds_sub : ∀ a b, numSeconds (sub a b) = (a.nanos - b.nanos).tdiv 1000000000
  /-- The total in nanoseconds, `None` beyond an `i64`. -/
  numNanoseconds_sub : ∀ a b, numNanoseconds (sub a b) =
    if -2 ^ 63 ≤ a.nanos - b.nanos ∧ a.nanos - b.nanos < 2 ^ 63 then some (a.nanos - b.nanos) else none

/-- A difference kept as its nanoseconds. -/
def Chrono.ofNanos : Chrono Int where
  sub a b := a.nanos - b.nanos
  numSeconds d := d.tdiv 1000000000
  numNanoseconds d := if -2 ^ 63 ≤ d ∧ d < 2 ^ 63 then some d else none
  numSeconds_sub _ _ := rfl
  numNanoseconds_sub _ _ := rfl

variable {TimeDelta : Type} (chrono : Chrono TimeDelta)

/-- `duration_secs` of the summary, without the rounding of an `f64`. -/
def durationSecs (startedAt stoppedAt : DateTime) : ℚ :=
  chrono.numSeconds (chrono.sub stoppedAt startedAt) +
    ((chrono.numNanoseconds (chrono.sub stoppedAt startedAt)).getD 0 : Int) / 1000000000

/-- The seconds between two clock readings. -/
def wallSecs (startedAt stoppedAt : DateTime) : ℚ := (stoppedAt.nanos - startedAt.nanos : Int) / 1000000000

/-- The duration is the real one: exact where the nanoseconds are known, and then the sum of the durations of two
recordings that follow each other; within a second where they are not; never more than the wall time. -/
structure RealDuration (startedAt stoppedAt : DateTime) : Prop where
  known : chrono.numNanoseconds (chrono.sub stoppedAt startedAt) ≠ none →
    durationSecs chrono startedAt stoppedAt = wallSecs startedAt stoppedAt
  unknown : chrono.numNanoseconds (chrono.sub stoppedAt startedAt) = none →
    |durationSecs chrono startedAt stoppedAt - wallSecs startedAt stoppedAt| < 1
  additive : chrono.numNanoseconds (chrono.sub stoppedAt startedAt) ≠ none →
    ∀ between : DateTime, startedAt.nanos ≤ between.nanos → between.nanos ≤ stoppedAt.nanos →
      durationSecs chrono startedAt between + durationSecs chrono between stoppedAt =
        durationSecs chrono startedAt stoppedAt
  bounded : durationSecs chrono startedAt stoppedAt ≤ wallSecs startedAt stoppedAt

variable {a b : DateTime}

theorem numNanoseconds_of_order (order : a.nanos ≤ b.nanos) : chrono.numNanoseconds (chrono.sub b a) =
    if b.nanos - a.nanos < 2 ^ 63 then some (b.nanos - a.nanos) else none := by
  rw [chrono.numNanoseconds_sub]
  congr 1
  simp
  omega

/-- Where the nanoseconds are known, the whole seconds come on top of the real duration. -/
theorem durationSecs_known (order : a.nanos ≤ b.nanos) (short : b.nanos - a.nanos < 2 ^ 63) :
    durationSecs chrono a b = ((b.nanos - a.nanos) / 1000000000 : Int) + wallSecs a b := by
  rw [durationSecs, chrono.numSeconds_sub, numNanoseconds_of_order chrono order, if_pos short,
    Int.tdiv_eq_ediv_of_nonneg (by omega), Option.getD_some, wallSecs]

/-- Under a second there is nothing to count twice. -/
theorem durationSecs_short (order : a.nanos ≤ b.nanos) (short : b.nanos - a.nanos < 1000000000) :
    durationSecs chrono a b = wallSecs a b := by
  rw [durationSecs_known chrono order (by omega), Int.ediv_eq_zero_of_lt (by omega) short]
  simp

/-- Where the nanoseconds are not known, only the whole seconds count. -/
theorem durationSecs_long (order : a.nanos ≤ b.nanos) (long : ¬ b.nanos - a.nanos < 2 ^ 63) :
    durationSecs chrono a b ≤ wallSecs a b ∧ wallSecs a b < durationSecs chrono a b + 1 := by
  have low := Int.mul_ediv_self_le (x := b.nanos - a.nanos) (k := 1000000000) (by omega)
  have high := Int.lt_mul_ediv_self_add (x := b.nanos - a.nanos) (k := 1000000000) (by omega)
  rw [durationSecs, chrono.numSeconds_sub, numNanoseconds_of_order chrono order, if_neg long,
    Int.tdiv_eq_ediv_of_nonneg (by omega), Option.getD_none, wallSecs]
  generalize b.nanos - a.nanos = d at low high ⊢
  generalize d / 1000000000 = s at low high ⊢
  have low' : (1000000000 : ℚ) * s ≤ d := by exact_mod_cast low
  have high' : (d : ℚ) < 1000000000 * s + 1000000000 := by exact_mod_cast high
  constructor
  · rw [le_div_iff₀ (by norm_num)]
    push_cast
    linarith
  · rw [div_lt_iff₀ (by norm_num)]
    push_cast
    linarith

/-- **The summary reports the real duration exactly when the recording took less than a second**, or 2^63
nanoseconds or more. -/
theorem duration_real_iff (order : a.nanos ≤ b.nanos) :
    RealDuration chrono a b ↔ b.nanos - a.nanos < 1000000000 ∨ 2 ^ 63 ≤ b.nanos - a.nanos := by
  constructor
  · intro real
    by_contra twice
    have known := durationSecs_known chrono order (by omega)
    have some_second : 1 ≤ (b.nanos - a.nanos) / 1000000000 := by omega
    have counted : (1 : ℚ) ≤ ((b.nanos - a.nanos) / 1000000000 : Int) := by exact_mod_cast some_second
    have bounded := real.bounded
    linarith
  · rintro (short | long)
    · have exact_duration := durationSecs_short chrono order short
      refine ⟨fun _ => exact_duration, fun unknown => ?_, fun _ c first second => ?_, exact_duration.le⟩
      · rw [numNanoseconds_of_order chrono order, if_pos (by omega)] at unknown
        cases unknown
      · rw [durationSecs_short chrono first (by omega), durationSecs_short chrono second (by omega), exact_duration]
        simp only [wallSecs]
        push_cast
        ring
    · obtain ⟨low, high⟩ := durationSecs_long chrono order (by omega)
      have unknown : chrono.numNanoseconds (chrono.sub b a) = none := by
        rw [numNanoseconds_of_order chrono order, if_neg (by omega)]
      refine ⟨fun known => absurd unknown known, fun _ => ?_, fun known => absurd unknown known, low⟩
      rw [abs_sub_lt_iff]
      constructor <;> linarith

theorem duration_real_half : RealDuration .ofNanos ⟨100, 0⟩ ⟨100, 500000000⟩ :=
  (duration_real_iff .ofNanos (by decide)).mpr (.inl (by decide))

/-- A recording of two and a half seconds is reported as four and a half. -/
theorem duration_counts_twice : durationSecs .ofNanos ⟨100, 0⟩ ⟨102, 500000000⟩ = 9 / 2 ∧
    ¬ RealDuration .ofNanos ⟨100, 0⟩ ⟨102, 500000000⟩ := by
  have twice : durationSecs .ofNanos ⟨100, 0⟩ ⟨102, 500000000⟩ = 9 / 2 := by
    rw [durationSecs_known .ofNanos (by decide) (by decide)]
    norm_num [wallSecs, DateTime.nanos]
  refine ⟨twice, fun real => ?_⟩
  have bounded := real.bounded
  rw [twice] at bounded
  norm_num [wallSecs, DateTime.nanos] at bounded

end StereoMix.Encode
