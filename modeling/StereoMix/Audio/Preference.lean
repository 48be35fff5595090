import StereoMix.Audio.Wasapi
import Mathlib.Data.List.Sort

/-!
# What the choice of a config prefers

The score of a config is its distance to the requested rate, less 1000 where the sample format has the requested bit
depth. The subtraction stops at 0, so among the configs that contain the rate the bit depth counts for nothing and the
first one listed is chosen; and a config chosen for its bit depth is at most 1000 Hz further from the rate than any
other. `diagnose_negotiation` repeats the two scans and makes the same choice.
-/

namespace StereoMix.Audio

/-! ## The diagnosis -/

structure NegotiationInfo where
  deviceIndex : BitVec 32
  requestedFormat : PcmFormat
  chosenChannels : BitVec 16
  chosenSampleFormat : SampleFormat
  chosenMinSr : BitVec 32
  chosenMaxSr : BitVec 32
  negotiatedSampleRate : BitVec 32
  bitDepth : BitVec 16
  candidateRates : List (BitVec 32)
  score : Nat
  deriving DecidableEq, Repr

/-- The variables of the diagnosing scans. -/
structure Diagnosis where
  bestScore : Nat
  chosenSf : Option SampleFormat
  chosenMinSr : BitVec 32
  chosenMaxSr : BitVec 32
  candidateRates : List (BitVec 32)

def Diagnosis.start : Diagnosis := ⟨2 ^ 64 - 1, none, 0, 0, []⟩

/-- A round of a diagnosing scan: the rates are pushed, and a config with a better score replaces the chosen one. -/
def Diagnosis.consider (format : PcmFormat) (d : Diagnosis) (cfg : SupportedConfig) : Diagnosis :=
  let candidateRates := pushRates d.candidateRates cfg
  let score : Nat :=
    if format.sampleRate ≥ cfg.minSampleRate ∧ format.sampleRate ≤ cfg.maxSampleRate then 0
    else if format.sampleRate < cfg.minSampleRate then (cfg.minSampleRate - format.sampleRate).toNat
    else (format.sampleRate - cfg.maxSampleRate).toNat
  let adj := if format.bitDepth = 32#16 ∧ cfg.sampleFormat = .f32 then score - 1000 else score
  let adj :=
    if format.bitDepth = 16#16 ∧ (cfg.sampleFormat = .i16 ∨ cfg.sampleFormat = .u16) then adj - 1000 else adj
  if adj < d.bestScore then ⟨adj, some cfg.sampleFormat, cfg.minSampleRate, cfg.maxSampleRate, candidateRates⟩
  else { d with candidateRates }

def Diagnosis.exactChannels (format : PcmFormat) (configs : List SupportedConfig) (d : Diagnosis) : Diagnosis :=
  configs.foldl (fun d cfg => if cfg.channels ≠ format.channels then d else d.consider format cfg) d

def Diagnosis.relaxed (format : PcmFormat) (configs : List SupportedConfig) (d : Diagnosis) : Diagnosis :=
  if d.chosenSf.isNone then configs.foldl (Diagnosis.consider format) d else d

/-- `diagnose_negotiation` on the configs of the device. -/
def diagnose (configs : List SupportedConfig) (deviceIndex : BitVec 32) (format : PcmFormat) :
    Except AudioError NegotiationInfo :=
  let channels := format.channels
  let d := (Diagnosis.start.exactChannels format configs).relaxed format configs
  match d.chosenSf with
  | none => .error (.unsupportedFormat s!"no supported config for {channels.toNat} channels")
  | some chosenSf =>
    let chosenChannels :=
      match configs.find? fun c => c.sampleFormat = chosenSf with
      | some cfg => cfg.channels
      | none => channels
    let negotiatedSampleRate :=
      if format.sampleRate ≥ d.chosenMinSr ∧ format.sampleRate ≤ d.chosenMaxSr then format.sampleRate
      else if format.sampleRate < d.chosenMinSr then d.chosenMinSr
      else d.chosenMaxSr
    let bitDepth :=
      match chosenSf with
      | .f32 => 32#16
      | .i16 => 16#16
      | .u16 => 16#16
      | _ => 16#16
    .ok {
      deviceIndex
      requestedFormat := format
      chosenChannels
      chosenSampleFormat := chosenSf
      chosenMinSr := d.chosenMinSr
      chosenMaxSr := d.chosenMaxSr
      negotiatedSampleRate
      bitDepth
      candidateRates := d.candidateRates.mergeSort fun a b => a ≤ b
      score := d.bestScore }

def diagnoseNegotiation (host : Host) (deviceIndex : BitVec 32) (format : PcmFormat) :
    Except AudioError NegotiationInfo :=
  match host.devices with
  | .error e => .error (.wasapi 0#32 s!"device enumerate failed: {e}")
  | .ok devices =>
    match devices[deviceIndex.toNat]? with
    | none => .error (.deviceNotFound s!"index {deviceIndex.toNat}")
    | some dev =>
      match dev.configs with
      | .error e => .error (.wasapi 0#32 s!"supported configs failed: {e}")
      | .ok configs => diagnose configs deviceIndex format

/-- The variables that both scans have. -/
def Diagnosis.scan (d : Diagnosis) : Scan := ⟨d.bestScore, d.chosenSf, d.chosenMinSr, d.chosenMaxSr⟩

/-- The score of the diagnosis is that of the open. -/
theorem Diagnosis.consider_eq (format : PcmFormat) (d : Diagnosis) (cfg : SupportedConfig) : d.consider format cfg =
    if adjustedScore format cfg < d.bestScore then
      ⟨adjustedScore format cfg, some cfg.sampleFormat, cfg.minSampleRate, cfg.maxSampleRate,
        pushRates d.candidateRates cfg⟩
    else { d with candidateRates := pushRates d.candidateRates cfg } := rfl

/-- A round of the diagnosis chooses as one of the open does. -/
theorem scan_consider (format : PcmFormat) (d : Diagnosis) (cfg : SupportedConfig) :
    (d.consider format cfg).scan = d.scan.consider format cfg := by
  rw [Diagnosis.consider_eq, Scan.consider, Diagnosis.scan, Diagnosis.scan]
  dsimp only
  split <;> rfl

theorem candidateRates_consider (format : PcmFormat) (d : Diagnosis) (cfg : SupportedConfig) :
    (d.consider format cfg).candidateRates = pushRates d.candidateRates cfg := by
  rw [Diagnosis.consider_eq]
  split <;> rfl

theorem scan_consider_foldl (format : PcmFormat) (configs : List SupportedConfig) (d : Diagnosis) :
    (configs.foldl (Diagnosis.consider format) d).scan = configs.foldl (Scan.consider format) d.scan := by
  induction configs generalizing d with
  | nil => rfl
  | cons cfg configs ih => rw [List.foldl_cons, List.foldl_cons, ih, scan_consider]

theorem scan_exactChannels (format : PcmFormat) (configs : List SupportedConfig) (d : Diagnosis) :
    (d.exactChannels format configs).scan = d.scan.exactChannels format configs := by
  unfold Diagnosis.exactChannels Scan.exactChannels
  induction configs generalizing d with
  | nil => rfl
  | cons cfg configs ih =>
    rw [List.foldl_cons, List.foldl_cons, ih]
    split
    · rfl
    · rw [scan_consider]

theorem scan_relaxed (format : PcmFormat) (configs : List SupportedConfig) (d : Diagnosis) :
    (d.relaxed format configs).scan = d.scan.relaxed format configs := by
  unfold Diagnosis.relaxed Scan.relaxed
  change (if d.chosenSf.isNone then _ else _ : Diagnosis).scan = if d.chosenSf.isNone then _ else _
  split
  · exact scan_consider_foldl format configs d
  · rfl

/-- What a diagnosis and an open have in common. -/
def NegotiationInfo.negotiated (info : NegotiationInfo) : Negotiated :=
  ⟨info.chosenSampleFormat, info.chosenChannels, info.negotiatedSampleRate,
    ⟨info.negotiatedSampleRate, info.requestedFormat.channels, info.bitDepth⟩⟩

/-- **The diagnosis chooses what the open chooses.** -/
theorem diagnose_negotiated (configs : List SupportedConfig) (deviceIndex : BitVec 32) (format : PcmFormat) :
    (diagnose configs deviceIndex format).map NegotiationInfo.negotiated = negotiate configs format := by
  have same : ((Diagnosis.start.exactChannels format configs).relaxed format configs).scan =
      (Scan.start.exactChannels format configs).relaxed format configs := by
    rw [scan_relaxed, scan_exactChannels]
    rfl
  unfold diagnose negotiate
  dsimp only
  rw [← same]
  generalize (Diagnosis.start.exactChannels format configs).relaxed format configs = d
  dsimp only [Diagnosis.scan]
  cases d.chosenSf with
  | none => rfl
  | some chosenSf => cases chosenSf <;> rfl

/-! ## The bit depth -/

/-- The sample format is one that the score prefers at a requested bit depth. -/
def MatchesDepth (bitDepth : BitVec 16) (sampleFormat : SampleFormat) : Prop :=
  (bitDepth = 32#16 ∧ sampleFormat = .f32) ∨ (bitDepth = 16#16 ∧ (sampleFormat = .i16 ∨ sampleFormat = .u16))

instance (bitDepth : BitVec 16) (sampleFormat : SampleFormat) : Decidable (MatchesDepth bitDepth sampleFormat) :=
  inferInstanceAs (Decidable (_ ∨ _))

def SupportedConfig.Contains (cfg : SupportedConfig) (sampleRate : BitVec 32) : Prop :=
  cfg.minSampleRate ≤ sampleRate ∧ sampleRate ≤ cfg.maxSampleRate

instance (cfg : SupportedConfig) (sampleRate : BitVec 32) : Decidable (cfg.Contains sampleRate) :=
  inferInstanceAs (Decidable (_ ∧ _))

/-- If a config considered contains the rate and matches the bit depth, so does the sample format chosen. -/
def PrefersDepth (configs : List SupportedConfig) (format : PcmFormat) (chosen : Except AudioError SampleFormat) : Prop :=
  (∃ cfg ∈ considered configs format,
    cfg.Contains format.sampleRate ∧ MatchesDepth format.bitDepth cfg.sampleFormat) →
  ∃ sampleFormat, chosen = .ok sampleFormat ∧ MatchesDepth format.bitDepth sampleFormat

/-- If a config considered contains the rate and matches the bit depth, one that matches and is within 1000 Hz of the
rate is listed before every one that contains the rate and does not match. -/
def MatchingFirst (configs : List SupportedConfig) (format : PcmFormat) : Prop :=
  (∃ cfg ∈ considered configs format,
    cfg.Contains format.sampleRate ∧ MatchesDepth format.bitDepth cfg.sampleFormat) →
  ∀ before cfg after, considered configs format = before ++ cfg :: after → cfg.Contains format.sampleRate →
    ¬ MatchesDepth format.bitDepth cfg.sampleFormat →
    ∃ other ∈ before, MatchesDepth format.bitDepth other.sampleFormat ∧ rateScore format.sampleRate other ≤ 1000

/-- The score of a rate as a distance of numbers. -/
theorem rateScore_eq (sampleRate : BitVec 32) (cfg : SupportedConfig) : rateScore sampleRate cfg =
    if cfg.Contains sampleRate then 0
    else if sampleRate < cfg.minSampleRate then cfg.minSampleRate.toNat - sampleRate.toNat
    else sampleRate.toNat - cfg.maxSampleRate.toNat := by
  unfold rateScore
  by_cases contains : cfg.Contains sampleRate
  · rw [if_pos contains]
    exact if_pos contains
  · rw [if_neg contains]
    refine (if_neg contains).trans ?_
    split
    · rename_i below
      rw [BitVec.toNat_sub_of_le (BitVec.le_of_lt below)]
    · rw [BitVec.toNat_sub_of_le]
      simp only [SupportedConfig.Contains, BitVec.le_def, BitVec.lt_def] at *
      omega

theorem rateScore_eq_zero {sampleRate : BitVec 32} {cfg : SupportedConfig} :
    rateScore sampleRate cfg = 0 ↔ cfg.Contains sampleRate := by
  rw [rateScore_eq]
  simp only [SupportedConfig.Contains, BitVec.le_def, BitVec.lt_def]
  split
  · simpa
  · split <;> omega

theorem adjustedScore_eq (format : PcmFormat) (cfg : SupportedConfig) :
    adjustedScore format cfg = rateScore format.sampleRate cfg -
      if MatchesDepth format.bitDepth cfg.sampleFormat then 1000 else 0 := by
  unfold adjustedScore MatchesDepth
  dsimp only
  by_cases depth : format.bitDepth = 32#16
  · simp [depth]
    split <;> rfl
  · simp [depth]
    split <;> rfl

theorem adjustedScore_eq_zero_of_contains {format : PcmFormat} {cfg : SupportedConfig}
    (contains : cfg.Contains format.sampleRate) : adjustedScore format cfg = 0 := by
  rw [adjustedScore_eq, rateScore_eq_zero.2 contains, Nat.zero_sub]

theorem adjustedScore_eq_zero {format : PcmFormat} {cfg : SupportedConfig} : adjustedScore format cfg = 0 ↔
    cfg.Contains format.sampleRate ∨
      MatchesDepth format.bitDepth cfg.sampleFormat ∧ rateScore format.sampleRate cfg ≤ 1000 := by
  rw [adjustedScore_eq, ← rateScore_eq_zero]
  split
  · rename_i here
    simp only [here, true_and]
    omega
  · rename_i mismatch
    simp [mismatch]

/-- The first element of measure 0 is the one of least measure that is found first. -/
theorem argmin_eq_find? {α : Type} {f : α → Nat} {l : List α} (some_zero : ∃ a ∈ l, f a = 0) :
    l.argmin f = l.find? fun a => f a = 0 := by
  induction l using List.reverseRecOn with
  | nil => simp at some_zero
  | append_singleton l a ih =>
    rw [List.argmin_concat, List.find?_append]
    by_cases earlier : ∃ b ∈ l, f b = 0
    · obtain ⟨b, member, zero⟩ := earlier
      have found : (l.find? fun a => f a = 0).isSome := List.find?_isSome.2 ⟨b, member, by simpa using zero⟩
      obtain ⟨c, first⟩ := Option.isSome_iff_exists.1 found
      have measure : f c = 0 := by simpa using List.find?_some first
      rw [ih ⟨b, member, zero⟩, first]
      simp [measure]
    · have last : f a = 0 := by
        obtain ⟨b, member, zero⟩ := some_zero
        obtain old | new := List.mem_append.1 member
        · exact absurd ⟨b, old, zero⟩ earlier
        · rwa [List.mem_singleton.1 new] at zero
      have missing : (l.find? fun a => f a = 0) = none := by
        rw [List.find?_eq_none]
        intro b member zero
        exact earlier ⟨b, member, by simpa using zero⟩
      rw [missing]
      cases best : l.argmin f with
      | none => simp [last]
      | some c =>
        have measure : f c ≠ 0 := fun zero => earlier ⟨c, List.argmin_mem best, zero⟩
        simp [last, Nat.pos_of_ne_zero measure]

/-- The sample format that a nonempty list of configs leads to. -/
theorem negotiate_sampleFormat {configs : List SupportedConfig} {format : PcmFormat} {best first : SupportedConfig}
    (choice : Choice configs format best first) :
    (negotiate configs format).map Negotiated.sampleFormat = .ok best.sampleFormat := by
  rw [negotiate_eq choice]
  rfl

theorem diagnose_sampleFormat (configs : List SupportedConfig) (deviceIndex : BitVec 32) (format : PcmFormat) :
    (diagnose configs deviceIndex format).map NegotiationInfo.chosenSampleFormat =
      (negotiate configs format).map Negotiated.sampleFormat := by
  rw [← diagnose_negotiated configs deviceIndex format]
  cases diagnose configs deviceIndex format <;> rfl

/-- Where a config considered contains the rate, the config chosen is the first of score 0. -/
theorem Choice.first_zero {configs : List SupportedConfig} {format : PcmFormat} {best first offer : SupportedConfig}
    (choice : Choice configs format best first) (there : offer ∈ considered configs format)
    (contains : offer.Contains format.sampleRate) : ∃ before after, considered configs format = before ++ best :: after ∧
      adjustedScore format best = 0 ∧ ∀ cfg ∈ before, adjustedScore format cfg ≠ 0 := by
  have zero := adjustedScore_eq_zero_of_contains contains
  have found := choice.least
  rw [argmin_eq_find? ⟨offer, there, zero⟩, List.find?_eq_some_iff_append] at found
  obtain ⟨least, before, after, split, larger⟩ := found
  refine ⟨before, after, split, of_decide_eq_true least, fun cfg member => ?_⟩
  simpa using larger cfg member

theorem prefersDepth_negotiate_iff (configs : List SupportedConfig) (format : PcmFormat) :
    PrefersDepth configs format ((negotiate configs format).map Negotiated.sampleFormat) ↔
      MatchingFirst configs format := by
  refine forall_congr' fun offered => ?_
  obtain ⟨offer, there, contains, -⟩ := offered
  obtain ⟨best, first, choice⟩ := exists_choice format (List.ne_nil_of_mem (mem_of_mem_considered there))
  obtain ⟨before, after, split, least, larger⟩ := choice.first_zero there contains
  have least := adjustedScore_eq_zero.1 least
  rw [negotiate_sampleFormat choice]
  constructor
  · rintro ⟨_, ⟨⟩, matching⟩ before' cfg after' split' contains mismatch
    refine ⟨best, mem_before (split.symm.trans split') ?_ ?_, matching, ?_⟩
    · rintro rfl
      exact mismatch matching
    · intro earlier
      exact larger cfg earlier (adjustedScore_eq_zero_of_contains contains)
    · obtain contains | ⟨-, near⟩ := least
      · rw [rateScore_eq_zero.2 contains]
        exact Nat.zero_le _
      · exact near
  · intro matching_first
    refine ⟨_, rfl, ?_⟩
    by_contra mismatch
    have contains := least.resolve_right fun matching => mismatch matching.1
    obtain ⟨other, earlier, matching⟩ := matching_first before best after split contains mismatch
    exact larger other earlier (adjustedScore_eq_zero.2 (.inr matching))

/-- **The bit depth is preferred just where the list prefers it**: `open_device` and `diagnose_negotiation` choose a
sample format of the requested bit depth whenever a config considered has it and contains the rate, exactly if such a
format is listed first. -/
theorem prefersDepth_iff (configs : List SupportedConfig) (format : PcmFormat) :
    (PrefersDepth configs format ((negotiate configs format).map Negotiated.sampleFormat) ↔
        MatchingFirst configs format) ∧
      ∀ deviceIndex, PrefersDepth configs format ((diagnose configs deviceIndex format).map
        NegotiationInfo.chosenSampleFormat) ↔ MatchingFirst configs format := by
  have negotiated := prefersDepth_negotiate_iff configs format
  refine ⟨negotiated, fun deviceIndex => ?_⟩
  rw [diagnose_sampleFormat configs deviceIndex format]
  exact negotiated

/-- Of two stereo configs at 48 kHz the f32 one is chosen for a 16-bit request, since it is listed first. -/
theorem negotiate_f32_for_16_bits : ¬ PrefersDepth
    [⟨2#16, 48000#32, 48000#32, .f32⟩, ⟨2#16, 48000#32, 48000#32, .i16⟩] ⟨48000#32, 2#16, 16#16⟩
    ((negotiate [⟨2#16, 48000#32, 48000#32, .f32⟩, ⟨2#16, 48000#32, 48000#32, .i16⟩] ⟨48000#32, 2#16, 16#16⟩).map
      Negotiated.sampleFormat) := by
  intro prefers
  obtain ⟨sampleFormat, chosen, matching⟩ := prefers ⟨⟨2#16, 48000#32, 48000#32, .i16⟩, by decide, by decide⟩
  cases chosen
  exact absurd matching (by decide)

/-! ## The rate -/

/-- How far apart two rates are. -/
def rateDistance (a b : BitVec 32) : Nat := a.toNat - b.toNat + (b.toNat - a.toNat)

/-- A subtraction that stops where it would underflow. -/
def checkedSub (a b : BitVec 32) : Option (BitVec 32) := if b ≤ a then some (a - b) else none

/-- The distance score with checked subtractions. -/
def checkedRateScore (sampleRate : BitVec 32) (cfg : SupportedConfig) : Option Nat :=
  if sampleRate ≥ cfg.minSampleRate ∧ sampleRate ≤ cfg.maxSampleRate then some 0
  else if sampleRate < cfg.minSampleRate then (checkedSub cfg.minSampleRate sampleRate).map BitVec.toNat
  else (checkedSub sampleRate cfg.maxSampleRate).map BitVec.toNat

/-- No score underflows. -/
theorem checkedRateScore_eq (sampleRate : BitVec 32) (cfg : SupportedConfig) :
    checkedRateScore sampleRate cfg = some (rateScore sampleRate cfg) := by
  unfold checkedRateScore rateScore checkedSub
  split
  · rfl
  · rename_i outside
    split
    · rename_i below
      rw [if_pos (BitVec.le_of_lt below), Option.map_some]
    · rename_i above
      rw [if_pos, Option.map_some]
      simp only [ge_iff_le, BitVec.le_def, BitVec.lt_def] at *
      omega

/-- The score of a config is how far the rate is from what it is brought to in the config's range. -/
theorem rateScore_eq_distance (sampleRate : BitVec 32) (cfg : SupportedConfig) : rateScore sampleRate cfg =
    rateDistance (clampRate sampleRate cfg.minSampleRate cfg.maxSampleRate) sampleRate := by
  rw [rateScore_eq]
  unfold rateDistance clampRate SupportedConfig.Contains
  simp only [ge_iff_le, BitVec.le_def, BitVec.lt_def] at *
  split
  · omega
  · split <;> omega

/-- The config `best` is what the scans choose, the negotiated rate is in its range and at most 1000 Hz further from the
requested rate than any config considered could bring it, and no subtraction of a score underflows. -/
structure NearBest (configs : List SupportedConfig) (format : PcmFormat) (n : Negotiated) (best : SupportedConfig) :
    Prop where
  chosen : (Scan.start.exactChannels format configs).relaxed format configs =
    ⟨adjustedScore format best, some best.sampleFormat, best.minSampleRate, best.maxSampleRate⟩
  listed : best ∈ considered configs format
  low : best.minSampleRate ≤ n.sampleRate
  high : n.sampleRate ≤ best.maxSampleRate
  near : ∀ cfg ∈ considered configs format, rateDistance n.sampleRate format.sampleRate ≤
    rateDistance (clampRate format.sampleRate cfg.minSampleRate cfg.maxSampleRate) format.sampleRate + 1000
  exact_scores : ∀ cfg ∈ configs, checkedRateScore format.sampleRate cfg = some (rateScore format.sampleRate cfg)

/-- **The negotiated rate is near-best**, for every list of ranges. -/
theorem negotiated_rate_near_best {configs : List SupportedConfig} {format : PcmFormat} (nonempty : configs ≠ [])
    (ranges : ∀ cfg ∈ configs, cfg.minSampleRate ≤ cfg.maxSampleRate) :
    ∃ n best, negotiate configs format = .ok n ∧ NearBest configs format n best := by
  obtain ⟨best, first, choice⟩ := exists_choice format nonempty
  have range := ranges best (mem_of_mem_considered choice.mem)
  obtain ⟨low, high⟩ := clampRate_mem format.sampleRate range
  refine ⟨_, best, negotiate_eq choice, ?_, choice.mem, low, high, fun cfg member => ?_, fun cfg _ =>
    checkedRateScore_eq _ cfg⟩
  · rw [scans_eq_argmin, choice.least]
    rfl
  · rw [← rateScore_eq_distance, ← rateScore_eq_distance]
    have least : adjustedScore format best ≤ adjustedScore format cfg := List.le_of_mem_argmin member choice.least
    have bonus := adjustedScore_eq format best
    have below := adjustedScore_le format cfg
    split at bonus <;> omega

theorem negotiated_rate_near_best_mono : ∃ n best,
    negotiate [⟨1#16, 8000#32, 16000#32, .f32⟩, ⟨1#16, 8000#32, 15500#32, .i16⟩] ⟨44100#32, 2#16, 16#16⟩ = .ok n ∧
      NearBest [⟨1#16, 8000#32, 16000#32, .f32⟩, ⟨1#16, 8000#32, 15500#32, .i16⟩] ⟨44100#32, 2#16, 16#16⟩ n best :=
  negotiated_rate_near_best (by decide) (by decide)

end StereoMix.Audio
