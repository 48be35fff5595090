import StereoMix.Core.Types

/-!
# The level meter

The recording loop and the monitor loop of `window.rs` scan every 16-bit frame for its peaks, by the same loop over
the frame's bytes. `i16::abs` has no answer for the full-scale sample -32768: in a build with overflow checks the loop
panics there, in another the sample counts as the least of all. On every other buffer the peaks are right.
-/

namespace StereoMix.Ui

open ByteFile

/-! ## The scan -/

/-- The variables of the scan. -/
structure PeakScan where
  sampleIdx : Nat
  max0 : Int
  max1 : Int
  i : Nat
  deriving DecidableEq, Repr

def PeakScan.start : PeakScan := ⟨0, 0, 0, 0⟩

/-- `i16::abs`; `none` is the panic of a build with overflow checks. -/
def absI16 (checked : Bool) (sample : BitVec 16) : Option (BitVec 16) :=
  if checked ∧ sample = BitVec.intMin 16 then none else some sample.abs

/-- The variables after a sample of absolute value `absv`. -/
def PeakScan.next (s : PeakScan) (channels : Nat) (absv : Int) : PeakScan :=
  let raise (peak : Int) := if absv > peak then absv else peak
  let s :=
    if channels = 1 then { s with max0 := raise s.max0 }
    else if s.sampleIdx % channels = 0 then { s with max0 := raise s.max0 }
    else { s with max1 := raise s.max1 }
  { s with sampleIdx := s.sampleIdx + 1, i := s.i + 2 }

@[simp] theorem PeakScan.i_next (s : PeakScan) (channels : Nat) (absv : Int) : (s.next channels absv).i = s.i + 2 := by
  unfold PeakScan.next
  dsimp only
  split
  · rfl
  · split <;> rfl

/-- The loop over the bytes; with no channels the remainder of the sample index panics. -/
def peakScan (checked : Bool) (bytes : Bytes) (channels : Nat) (s : PeakScan) : Option PeakScan :=
  if inside : s.i + 1 < bytes.length then
    match absI16 checked (bytes[s.i + 1] ++ bytes[s.i]) with
    | none => none
    | some absv => if channels = 0 then none else peakScan checked bytes channels (s.next channels absv.toInt)
  else some s
termination_by bytes.length - s.i
decreasing_by
  rw [PeakScan.i_next]
  omega

/-! ## What the peaks are -/

/-- The largest absolute value among the samples at some places, and 0 where there is none. -/
structure IsPeak (samples : List (BitVec 16)) (among : Nat → Prop) (peak : Int) : Prop where
  above : ∀ k s, samples[k]? = some s → among k → |s.toInt| ≤ peak
  reached : peak = 0 ∨ ∃ k s, samples[k]? = some s ∧ among k ∧ |s.toInt| = peak

/-- The scan of a buffer ends without a panic, with the peak of channel 0 and, of more than one channel, the peak of
the others. -/
def RightPeaks (checked : Bool) (bytes : Bytes) (channels : Nat) : Prop :=
  ∃ s, peakScan checked bytes channels .start = some s ∧
    IsPeak (i16Samples bytes) (fun k => k % channels = 0) s.max0 ∧
    (1 < channels → IsPeak (i16Samples bytes) (fun k => k % channels ≠ 0) s.max1)

section

variable {samples : List (BitVec 16)} {among : Nat → Prop} {peak : Int}

theorem IsPeak.nil (among : Nat → Prop) : IsPeak [] among 0 where
  above k s here := by cases here
  reached := .inl rfl

theorem IsPeak.skip (is_peak : IsPeak samples among peak) (sample : BitVec 16) (elsewhere : ¬ among samples.length) :
    IsPeak (samples ++ [sample]) among peak := by
  obtain ⟨above, reached⟩ := is_peak
  constructor
  · intro k s here in_channel
    rw [List.getElem?_append] at here
    split at here
    · exact above k s here in_channel
    · rename_i beyond
      obtain ⟨inside, -⟩ := List.getElem?_eq_some_iff.1 here
      rw [List.length_singleton] at inside
      have last : k = samples.length := by omega
      exact absurd (last ▸ in_channel) elsewhere
  · obtain zero | ⟨k, s, here, in_channel, attained⟩ := reached
    · exact .inl zero
    · have inside := (List.getElem?_eq_some_iff.1 here).1
      exact .inr ⟨k, s, by rw [List.getElem?_append_left inside, here], in_channel, attained⟩

theorem IsPeak.take (is_peak : IsPeak samples among peak) (sample : BitVec 16) (here : among samples.length) :
    IsPeak (samples ++ [sample]) among (if |sample.toInt| > peak then |sample.toInt| else peak) := by
  have raised : (if |sample.toInt| > peak then |sample.toInt| else peak) = max peak |sample.toInt| := by
    split <;> omega
  have last : (samples ++ [sample])[samples.length]? = some sample := List.getElem?_concat_length
  rw [raised]
  obtain ⟨above, reached⟩ := is_peak
  constructor
  · intro k s found in_channel
    rw [List.getElem?_append] at found
    split at found
    · exact le_max_of_le_left (above k s found in_channel)
    · have new : s = sample := List.mem_singleton.1 (List.mem_of_getElem? found)
      rw [new]
      exact le_max_right _ _
  · by_cases larger : peak < |sample.toInt|
    · rw [max_eq_right larger.le]
      exact .inr ⟨samples.length, sample, last, here, rfl⟩
    · rw [max_eq_left (not_lt.1 larger)]
      obtain zero | ⟨k, s, found, in_channel, attained⟩ := reached
      · exact .inl zero
      · have inside := (List.getElem?_eq_some_iff.1 found).1
        exact .inr ⟨k, s, by rw [List.getElem?_append_left inside, found], in_channel, attained⟩

end

/-! ## The loop over the samples -/

/-- The scan as a loop over the samples. -/
def scanSamples (checked : Bool) (channels : Nat) : List (BitVec 16) → PeakScan → Option PeakScan
  | [], s => some s
  | sample :: samples, s =>
    match absI16 checked sample with
    | none => none
    | some absv => if channels = 0 then none else scanSamples checked channels samples (s.next channels absv.toInt)

theorem drop_i16Samples {bytes : Bytes} {k : Nat} (inside : 2 * k + 1 < bytes.length) :
    (i16Samples bytes).drop k = (bytes[2 * k + 1] ++ bytes[2 * k]) :: (i16Samples bytes).drop (k + 1) := by
  induction k generalizing bytes with
  | zero =>
    match bytes, inside with
    | lo :: hi :: rest, _ => rfl
  | succ k ih =>
    match bytes, inside with
    | lo :: hi :: rest, inside =>
      rw [List.length_cons, List.length_cons] at inside
      exact ih (by omega)

/-- The loop over the bytes scans the samples that are left. -/
theorem peakScan_eq (checked : Bool) (bytes : Bytes) (channels : Nat) (s : PeakScan) {k : Nat} (even : s.i = 2 * k) :
    peakScan checked bytes channels s = scanSamples checked channels ((i16Samples bytes).drop k) s := by
  fun_induction peakScan checked bytes channels s generalizing k with
  | case1 s inside overflow =>
    simp only [even] at inside overflow
    rw [drop_i16Samples inside, scanSamples, overflow]
  | case2 s inside absv abs none =>
    simp only [even] at inside abs
    rw [drop_i16Samples inside, scanSamples, abs]
    exact (if_pos none).symm
  | case3 s inside absv abs some_channel ih =>
    simp only [even] at inside abs
    rw [drop_i16Samples inside, scanSamples, abs, ih (k := k + 1) (by rw [PeakScan.i_next]; omega)]
    exact (if_neg some_channel).symm
  | case4 s done =>
    have short := length_i16Samples bytes
    rw [List.drop_eq_nil_of_le (by omega)]
    rfl

/-- The variables after the samples so far. -/
structure Scanned (channels : Nat) (samples : List (BitVec 16)) (s : PeakScan) : Prop where
  count : s.sampleIdx = samples.length
  first : IsPeak samples (fun k => k % channels = 0) s.max0
  others : IsPeak samples (fun k => k % channels ≠ 0) s.max1

theorem Scanned.next {channels : Nat} {samples : List (BitVec 16)} {s : PeakScan} (scanned : Scanned channels samples s)
    (sample : BitVec 16) : Scanned channels (samples ++ [sample]) (s.next channels |sample.toInt|) := by
  obtain ⟨count, first, others⟩ := scanned
  have one_channel : channels = 1 → samples.length % channels = 0 := by
    rintro rfl
    exact Nat.mod_one _
  have longer : s.sampleIdx + 1 = (samples ++ [sample]).length := by
    rw [count, List.length_append, List.length_singleton]
  unfold PeakScan.next
  dsimp only
  split
  · rename_i one
    exact ⟨longer, first.take sample (one_channel one), others.skip sample (absurd (one_channel one))⟩
  · split
    · rename_i here
      rw [count] at here
      exact ⟨longer, first.take sample here, others.skip sample (absurd here)⟩
    · rename_i other
      rw [count] at other
      exact ⟨longer, first.skip sample other, others.take sample other⟩

/-- A sample short of full scale has an absolute value in every build. -/
theorem absI16_eq (checked : Bool) {sample : BitVec 16} (short : sample ≠ BitVec.intMin 16) :
    ∃ absv, absI16 checked sample = some absv ∧ absv.toInt = |sample.toInt| := by
  refine ⟨sample.abs, if_neg fun full => short full.2, ?_⟩
  rw [BitVec.toInt_abs_eq_natAbs_of_ne_intMin short, Int.natCast_natAbs]

theorem scanned_scanSamples (checked : Bool) {channels : Nat} (some_channel : 1 ≤ channels)
    {samples rest : List (BitVec 16)} {s : PeakScan} (scanned : Scanned channels samples s)
    (short : ∀ sample ∈ rest, sample ≠ BitVec.intMin 16) :
    ∃ t, scanSamples checked channels rest s = some t ∧ Scanned channels (samples ++ rest) t := by
  induction rest generalizing samples s with
  | nil => exact ⟨s, rfl, by rwa [List.append_nil]⟩
  | cons sample rest ih =>
    obtain ⟨absv, abs, value⟩ := absI16_eq checked (short sample List.mem_cons_self)
    obtain ⟨t, run, after⟩ := ih (value ▸ scanned.next sample) fun other member => short other (.tail _ member)
    refine ⟨t, ?_, by rwa [List.append_assoc] at after⟩
    rw [scanSamples, abs]
    exact (if_neg (by omega)).trans run

/-- No peak that a scan finds is beyond what an i16 holds. -/
theorem scanSamples_le {checked : Bool} {channels : Nat} {samples : List (BitVec 16)} {s t : PeakScan}
    (small : s.max0 ≤ 32767 ∧ s.max1 ≤ 32767) (run : scanSamples checked channels samples s = some t) :
    t.max0 ≤ 32767 ∧ t.max1 ≤ 32767 := by
  induction samples generalizing s with
  | nil =>
    cases run
    exact small
  | cons sample samples ih =>
    unfold scanSamples at run
    cases abs : absI16 checked sample with
    | none => simp [abs] at run
    | some absv =>
      simp only [abs] at run
      obtain ⟨-, run⟩ := Option.ite_none_left_eq_some.1 run
      have range : absv.toInt ≤ 32767 := by
        have := BitVec.toInt_lt (x := absv)
        omega
      refine ih ?_ run
      unfold PeakScan.next
      dsimp only
      split
      · exact ⟨by dsimp only; split <;> omega, small.2⟩
      · split
        · exact ⟨by dsimp only; split <;> omega, small.2⟩
        · exact ⟨small.1, by dsimp only; split <;> omega⟩

/-- **The meter is right just below full scale**: in every build, over every buffer and channel count, the scan ends
without overflow and finds the peaks exactly if no sample is -32768. -/
theorem rightPeaks_iff (checked : Bool) (bytes : Bytes) {channels : Nat} (some_channel : 1 ≤ channels) :
    RightPeaks checked bytes channels ↔ ∀ sample ∈ i16Samples bytes, sample ≠ BitVec.intMin 16 := by
  have scan : peakScan checked bytes channels .start = scanSamples checked channels (i16Samples bytes) .start :=
    peakScan_eq (k := 0) checked bytes channels .start rfl
  constructor
  · rintro ⟨t, run, first, others⟩ sample member rfl
    rw [scan] at run
    obtain ⟨small0, small1⟩ := scanSamples_le (by decide) run
    obtain ⟨k, here⟩ := List.getElem?_of_mem member
    have full : |(BitVec.intMin 16).toInt| = 32768 := by decide
    by_cases channel0 : k % channels = 0
    · have above := first.above k _ here channel0
      omega
    · have several : 1 < channels := by
        by_contra single
        have one : channels = 1 := by omega
        exact channel0 (one ▸ Nat.mod_one k)
      have above := (others several).above k _ here channel0
      omega
  · intro short
    have start : Scanned channels [] .start := ⟨rfl, .nil _, .nil _⟩
    obtain ⟨t, run, scanned⟩ := scanned_scanSamples checked some_channel start short
    exact ⟨t, scan.trans run, scanned.first, fun _ => scanned.others⟩

theorem rightPeaks_iff_stereo : RightPeaks true [0x00#8, 0x80#8, 0x01#8, 0x80#8] 2 ↔
    ∀ sample ∈ i16Samples [0x00#8, 0x80#8, 0x01#8, 0x80#8], sample ≠ BitVec.intMin 16 :=
  rightPeaks_iff true [0x00#8, 0x80#8, 0x01#8, 0x80#8] (by decide)

/-- A full-scale negative sample stops the loop of a build with overflow checks, and is not seen by another. -/
theorem full_scale_is_missed : ¬ RightPeaks true [0x00#8, 0x80#8] 1 ∧ ¬ RightPeaks false [0x00#8, 0x80#8] 1 := by
  constructor
  · rintro ⟨t, run, -⟩
    rw [peakScan_eq (k := 0) _ _ _ _ rfl] at run
    cases run
  · rintro ⟨t, run, first, -⟩
    rw [peakScan_eq (k := 0) _ _ _ _ rfl] at run
    cases run
    exact absurd (first.above 0 (BitVec.intMin 16) rfl rfl) (by decide)

end StereoMix.Ui
