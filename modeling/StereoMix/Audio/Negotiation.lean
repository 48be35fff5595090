import StereoMix.Core.Types
import Mathlib.Data.List.MinMax
import Mathlib.Tactic.Linarith

/-!
# `open_device`'s choice of a config

A device reports its supported input configs. Two scans look for the best score: over the configs with the
requested channel count, then, when there is none, over all. A scan keeps the first config of the least score
(`scan_eq_argmin`). The stream is opened with the best config's sample format and rate, and with the channel
count of the first config of that sample format.
-/

namespace StereoMix.Audio

/-- cpal's sample formats. -/
inductive SampleFormat where
  | i8 | i16 | i32 | i64 | u8 | u16 | u32 | u64 | f32 | f64
  deriving DecidableEq, Repr

/-- A supported input config, as cpal reports it. -/
structure SupportedConfig where
  channels : BitVec 16
  minSampleRate : BitVec 32
  maxSampleRate : BitVec 32
  sampleFormat : SampleFormat
  deriving DecidableEq, Repr

/-! ## Scoring -/

/-- The distance of the requested rate to the config's range, a `u64`. -/
def rateScore (sampleRate : BitVec 32) (cfg : SupportedConfig) : Nat :=
  if sampleRate ≥ cfg.minSampleRate ∧ sampleRate ≤ cfg.maxSampleRate then 0
  else if sampleRate < cfg.minSampleRate then (cfg.minSampleRate - sampleRate).toNat
  else (sampleRate - cfg.maxSampleRate).toNat

/-- The score after the preference for the requested bit depth. -/
def adjustedScore (format : PcmFormat) (cfg : SupportedConfig) : Nat :=
  let adj := rateScore format.sampleRate cfg
  let adj := if format.bitDepth = 32#16 ∧ cfg.sampleFormat = .f32 then adj - 1000 else adj
  if format.bitDepth = 16#16 ∧ (cfg.sampleFormat = .i16 ∨ cfg.sampleFormat = .u16) then adj - 1000 else adj

/-- The variables of the scan. -/
structure Scan where
  bestScore : Nat
  chosenSf : Option SampleFormat
  chosenMinSr : BitVec 32
  chosenMaxSr : BitVec 32
  deriving DecidableEq, Repr

def Scan.start : Scan := ⟨2 ^ 64 - 1, none, 0, 0⟩

/-- A config with a better score replaces the chosen one. -/
def Scan.consider (format : PcmFormat) (s : Scan) (cfg : SupportedConfig) : Scan :=
  if adjustedScore format cfg < s.bestScore then
    ⟨adjustedScore format cfg, some cfg.sampleFormat, cfg.minSampleRate, cfg.maxSampleRate⟩
  else s

/-- The scan over the configs with the requested channel count. -/
def Scan.exactChannels (format : PcmFormat) (configs : List SupportedConfig) (s : Scan) : Scan :=
  configs.foldl (fun s cfg => if cfg.channels ≠ format.channels then s else s.consider format cfg) s

/-- The scan over all configs, when the first found none. -/
def Scan.relaxed (format : PcmFormat) (configs : List SupportedConfig) (s : Scan) : Scan :=
  if s.chosenSf.isNone then configs.foldl (Scan.consider format) s else s

/-! ## Negotiation -/

/-- The requested rate, brought into a range. -/
def clampRate (sampleRate low high : BitVec 32) : BitVec 32 :=
  if sampleRate ≥ low ∧ sampleRate ≤ high then sampleRate else if sampleRate < low then low else high

/-- What `open_device` goes on with: the chosen sample format, the channel count and rate of the stream, and the
format it reports. -/
structure Negotiated where
  sampleFormat : SampleFormat
  deviceChannels : BitVec 16
  sampleRate : BitVec 32
  actualFormat : PcmFormat
  deriving DecidableEq, Repr

def bitDepthOf : SampleFormat → BitVec 16
  | .f32 => 32#16
  | .i16 => 16#16
  | .u16 => 16#16
  | _ => 16#16

/-- The config selection of `open_device`. -/
def negotiate (configs : List SupportedConfig) (format : PcmFormat) : Except AudioError Negotiated :=
  let channels := format.channels
  let scan := (Scan.start.exactChannels format configs).relaxed format configs
  match scan.chosenSf with
  | none => .error (.unsupportedFormat s!"no supported config for {channels.toNat} channels")
  | some chosenSf =>
    let chosenChannels :=
      match configs.find? fun c => c.sampleFormat = chosenSf with
      | some cfg => cfg.channels
      | none => channels
    let negotiatedSampleRate := clampRate format.sampleRate scan.chosenMinSr scan.chosenMaxSr
    .ok ⟨chosenSf, chosenChannels, negotiatedSampleRate, ⟨negotiatedSampleRate, channels, bitDepthOf chosenSf⟩⟩

/-- The sample type of the stream that is built for a chosen format: its own, or `f32` in the last arm. -/
def streamFormat : SampleFormat → SampleFormat
  | .f32 => .f32
  | .i16 => .i16
  | .u16 => .u16
  | _ => .f32

/-! ## What the scan finds -/

/-- The configs the choice is made among: those with the requested channel count if there are any, else all. -/
def considered (configs : List SupportedConfig) (format : PcmFormat) : List SupportedConfig :=
  let exact_channels := configs.filter fun cfg => cfg.channels = format.channels
  if exact_channels.isEmpty then configs else exact_channels

theorem rateScore_lt (sampleRate : BitVec 32) (cfg : SupportedConfig) : rateScore sampleRate cfg < 2 ^ 32 := by
  unfold rateScore
  split
  · decide
  · split <;> exact BitVec.isLt _

theorem adjustedScore_le (format : PcmFormat) (cfg : SupportedConfig) :
    adjustedScore format cfg ≤ rateScore format.sampleRate cfg := by
  unfold adjustedScore
  dsimp only
  split <;> split <;> omega

theorem adjustedScore_lt (format : PcmFormat) (cfg : SupportedConfig) : adjustedScore format cfg < 2 ^ 64 - 1 := by
  have := adjustedScore_le format cfg
  have := rateScore_lt format.sampleRate cfg
  omega

/-- The scan's variables when `best` is the chosen config. -/
def Scan.of (format : PcmFormat) : Option SupportedConfig → Scan
  | none => .start
  | some best => ⟨adjustedScore format best, some best.sampleFormat, best.minSampleRate, best.maxSampleRate⟩

/-- **A scan keeps the first config of the least score.** -/
theorem scan_eq_argmin (format : PcmFormat) (configs : List SupportedConfig) :
    configs.foldl (Scan.consider format) .start = .of format (configs.argmin (adjustedScore format)) := by
  induction configs using List.reverseRecOn with
  | nil => rfl
  | append_singleton configs cfg ih =>
    rw [List.foldl_append, ih, List.foldl_cons, List.foldl_nil, List.argmin_concat]
    cases configs.argmin (adjustedScore format) with
    | none => exact if_pos (adjustedScore_lt format cfg)
    | some best =>
      show Scan.consider format (.of format (some best)) cfg = _
      dsimp only [Scan.consider, Scan.of]
      split
      · rfl
      · rfl

/-- Skipping configs in a loop is looping over the others. -/
theorem exactChannels_eq (format : PcmFormat) (configs : List SupportedConfig) :
    Scan.start.exactChannels format configs =
      .of format ((configs.filter fun cfg => cfg.channels = format.channels).argmin (adjustedScore format)) := by
  rw [← scan_eq_argmin, Scan.exactChannels]
  generalize Scan.start = s
  induction configs generalizing s with
  | nil => rfl
  | cons cfg configs ih =>
    by_cases same : cfg.channels = format.channels
    · rw [List.foldl_cons, if_neg (by simpa using same), ih, List.filter_cons_of_pos (by simpa using same),
        List.foldl_cons]
    · rw [List.foldl_cons, if_pos same, ih, List.filter_cons_of_neg (by simpa using same)]

/-- **Both scans together** keep the first config of the least score among those considered. -/
theorem scans_eq_argmin (format : PcmFormat) (configs : List SupportedConfig) :
    (Scan.start.exactChannels format configs).relaxed format configs =
      .of format ((considered configs format).argmin (adjustedScore format)) := by
  rw [exactChannels_eq, Scan.relaxed, considered]
  by_cases none_exact : (configs.filter fun cfg => cfg.channels = format.channels) = []
  · rw [none_exact]
    exact scan_eq_argmin format configs
  · obtain ⟨best, found⟩ := Option.ne_none_iff_exists'.1
      (fun h => none_exact ((List.argmin_eq_none (f := adjustedScore format)).1 h))
    rw [found]
    simp [Scan.of, none_exact, found]

theorem considered_ne_nil {configs : List SupportedConfig} (format : PcmFormat) (nonempty : configs ≠ []) :
    considered configs format ≠ [] := by
  unfold considered
  extract_lets exact_channels
  split
  · exact nonempty
  · rename_i some_exact
    simpa using some_exact

theorem mem_of_mem_considered {configs : List SupportedConfig} {format : PcmFormat} {cfg : SupportedConfig}
    (member : cfg ∈ considered configs format) : cfg ∈ configs := by
  unfold considered at member
  extract_lets exact_channels at member
  split at member
  · exact member
  · exact List.mem_of_mem_filter member

/-- When some config has the requested channel count, every config considered has. -/
theorem channels_of_mem_considered {configs : List SupportedConfig} {format : PcmFormat} {cfg offer : SupportedConfig}
    (member : cfg ∈ considered configs format) (offered : offer ∈ configs) (same : offer.channels = format.channels) :
    cfg.channels = format.channels := by
  unfold considered at member
  extract_lets exact_channels at member
  split at member
  · rename_i none_exact
    have there : offer ∈ exact_channels := List.mem_filter.2 ⟨offered, by simpa using same⟩
    rw [List.isEmpty_iff.1 none_exact] at there
    cases there
  · simpa using (List.mem_filter.1 member).2

/-- The config the choice falls on, and the first config listed with its sample format. -/
structure Choice (configs : List SupportedConfig) (format : PcmFormat) (best first : SupportedConfig) : Prop where
  least : (considered configs format).argmin (adjustedScore format) = some best
  listed : configs.find? (fun c => c.sampleFormat = best.sampleFormat) = some first

theorem Choice.mem {configs : List SupportedConfig} {format : PcmFormat} {best first : SupportedConfig}
    (choice : Choice configs format best first) : best ∈ considered configs format := List.argmin_mem choice.least

theorem exists_choice {configs : List SupportedConfig} (format : PcmFormat) (nonempty : configs ≠ []) :
    ∃ best first, Choice configs format best first := by
  obtain ⟨best, found⟩ := Option.ne_none_iff_exists'.1
    (fun h => considered_ne_nil format nonempty ((List.argmin_eq_none (f := adjustedScore format)).1 h))
  have listed : best ∈ configs := mem_of_mem_considered (List.argmin_mem found)
  have some_first : (configs.find? fun c => c.sampleFormat = best.sampleFormat).isSome :=
    List.find?_isSome.2 ⟨best, listed, by simp⟩
  obtain ⟨first, there⟩ := Option.isSome_iff_exists.1 some_first
  exact ⟨best, first, found, there⟩

theorem Choice.unique {configs : List SupportedConfig} {format : PcmFormat} {best first best' first' : SupportedConfig}
    (choice : Choice configs format best first) (choice' : Choice configs format best' first') :
    best = best' ∧ first = first' := by
  have same := choice.least.symm.trans choice'.least
  rw [Option.some.injEq] at same
  subst same
  exact ⟨rfl, Option.some.inj (choice.listed.symm.trans choice'.listed)⟩

/-- **What the negotiation answers**, in terms of the choice. -/
theorem negotiate_eq {configs : List SupportedConfig} {format : PcmFormat} {best first : SupportedConfig}
    (choice : Choice configs format best first) : negotiate configs format =
      .ok ⟨best.sampleFormat, first.channels, clampRate format.sampleRate best.minSampleRate best.maxSampleRate,
        ⟨clampRate format.sampleRate best.minSampleRate best.maxSampleRate, format.channels,
          bitDepthOf best.sampleFormat⟩⟩ := by
  unfold negotiate
  rw [scans_eq_argmin, choice.least]
  dsimp only [Scan.of]
  rw [choice.listed]

/-! ## Asking only for what is offered -/

/-- A config admits a sample type, a channel count and a rate. -/
structure SupportedConfig.Admits (cfg : SupportedConfig) (sampleFormat : SampleFormat) (channels : BitVec 16)
    (sampleRate : BitVec 32) : Prop where
  sampleFormat : cfg.sampleFormat = sampleFormat
  channels : cfg.channels = channels
  low : cfg.minSampleRate ≤ sampleRate
  high : sampleRate ≤ cfg.maxSampleRate

/-- The stream that is built is one that a single config of the list admits, with the requested channel count if
some config has it. -/
def AsksForOffered (configs : List SupportedConfig) (format : PcmFormat) (n : Negotiated) : Prop :=
  (∃ cfg ∈ configs, cfg.Admits (streamFormat n.sampleFormat) n.deviceChannels n.sampleRate) ∧
    ((∃ cfg ∈ configs, cfg.channels = format.channels) → n.deviceChannels = format.channels)

/-- Of the configs considered, the first one of the least score. -/
def Nearest (configs : List SupportedConfig) (format : PcmFormat) (nearest : SupportedConfig) : Prop :=
  ∃ before after, considered configs format = before ++ nearest :: after ∧
    (∀ cfg ∈ before, adjustedScore format nearest < adjustedScore format cfg) ∧
    ∀ cfg ∈ after, adjustedScore format nearest ≤ adjustedScore format cfg

/-- A sample format that has a stream arm of its own. -/
def OwnArm (sampleFormat : SampleFormat) : Prop := streamFormat sampleFormat = sampleFormat

/-- The config nearest to the request has a sample format with its own stream arm, and every config of that format with
another channel count is listed behind one with the channel count of the nearest. -/
def NearestLeads (configs : List SupportedConfig) (format : PcmFormat) : Prop :=
  ∀ nearest, Nearest configs format nearest → OwnArm nearest.sampleFormat ∧
    ∀ before cfg after, configs = before ++ cfg :: after → cfg.sampleFormat = nearest.sampleFormat →
      cfg.channels ≠ nearest.channels →
      ∃ earlier ∈ before, earlier.sampleFormat = nearest.sampleFormat ∧ earlier.channels = nearest.channels

section

variable {α : Type} {f : α → Nat} {a b : α} {before after before' after' : List α}

/-- Of two elements of a list, one comes before the other unless the other comes before it. -/
theorem mem_before (same : before ++ a :: after = before' ++ b :: after') (other : b ≠ a)
    (later : b ∉ before) : a ∈ before' := by
  obtain ⟨between, rfl, rest⟩ | ⟨between, rfl, rest⟩ := List.append_eq_append_iff.1 same
  · cases between with
    | nil => exact absurd (List.cons.inj rest).1.symm other
    | cons c between =>
      rw [(List.cons.inj rest).1]
      exact List.mem_append_right _ List.mem_cons_self
  · cases between with
    | nil => exact absurd (List.cons.inj rest).1 other
    | cons c between =>
      rw [(List.cons.inj rest).1] at later
      exact absurd (List.mem_append_right _ List.mem_cons_self) later

theorem argmin_split (larger : ∀ b ∈ before, f a < f b) (no_less : ∀ b ∈ after, f a ≤ f b) :
    (before ++ a :: after).argmin f = some a := by
  induction after using List.reverseRecOn with
  | nil =>
    rw [List.argmin_concat]
    cases best : before.argmin f with
    | none => rfl
    | some c => exact if_pos (larger c (List.argmin_mem best))
  | append_singleton after b ih =>
    have earlier := ih fun c member => no_less c (List.mem_append_left _ member)
    rw [← List.cons_append, ← List.append_assoc, List.argmin_concat, earlier]
    exact if_neg (Nat.not_lt_of_le (no_less b (List.mem_append_right _ List.mem_cons_self)))

theorem exists_split_of_argmin {l : List α} (least : l.argmin f = some a) : ∃ before after,
    l = before ++ a :: after ∧ (∀ b ∈ before, f a < f b) ∧ ∀ b ∈ after, f a ≤ f b := by
  induction l using List.reverseRecOn with
  | nil => cases least
  | append_singleton l b ih =>
    rw [List.argmin_concat] at least
    cases best : l.argmin f with
    | none =>
      rw [best] at least
      cases least
      rw [List.argmin_eq_none.1 best]
      exact ⟨[], [], rfl, List.forall_mem_nil _, List.forall_mem_nil _⟩
    | some c =>
      rw [best] at least
      dsimp only at least
      split at least
      · rename_i better
        cases least
        refine ⟨l, [], rfl, fun d member => ?_, List.forall_mem_nil _⟩
        exact Nat.lt_of_lt_of_le better (List.le_of_mem_argmin member best)
      · rename_i no_better
        cases least
        obtain ⟨before, after, rfl, larger, no_less⟩ := ih best
        refine ⟨before, after ++ [b], by simp, larger, fun d member => ?_⟩
        rcases List.mem_append.1 member with old | new
        · exact no_less d old
        · rw [List.mem_singleton.1 new]
          exact Nat.le_of_not_lt no_better

end

theorem Choice.nearest {configs : List SupportedConfig} {format : PcmFormat} {best first : SupportedConfig}
    (choice : Choice configs format best first) : Nearest configs format best := exists_split_of_argmin choice.least

theorem Choice.eq_of_nearest {configs : List SupportedConfig} {format : PcmFormat}
    {best first nearest : SupportedConfig} (choice : Choice configs format best first)
    (here : Nearest configs format nearest) : nearest = best := by
  obtain ⟨before, after, split, larger, no_less⟩ := here
  have least := argmin_split larger no_less
  rw [← split, choice.least] at least
  exact (Option.some.inj least).symm

/-- The nearest config leads exactly if the one that is listed first with its format has its channel count. -/
theorem Choice.nearestLeads_iff {configs : List SupportedConfig} {format : PcmFormat} {best first : SupportedConfig}
    (choice : Choice configs format best first) :
    NearestLeads configs format ↔ OwnArm best.sampleFormat ∧ first.channels = best.channels := by
  obtain ⟨same, front, back, split, others⟩ := List.find?_eq_some_iff_append.1 choice.listed
  have same : first.sampleFormat = best.sampleFormat := of_decide_eq_true same
  have others : ∀ cfg ∈ front, cfg.sampleFormat ≠ best.sampleFormat := by simpa using others
  constructor
  · intro leads
    obtain ⟨arm, order⟩ := leads best choice.nearest
    refine ⟨arm, ?_⟩
    by_contra mismatch
    obtain ⟨earlier, member, format_same, -⟩ := order front first back split same mismatch
    exact others earlier member format_same
  · rintro ⟨arm, channels⟩ nearest here
    rw [choice.eq_of_nearest here]
    refine ⟨arm, fun before cfg after split' format_same mismatch => ?_⟩
    refine ⟨first, mem_before (split.symm.trans split') ?_ ?_, same, channels⟩
    · rintro rfl
      exact mismatch channels
    · exact fun member => others cfg member format_same

theorem clampRate_mem (sampleRate : BitVec 32) {low high : BitVec 32} (range : low ≤ high) :
    low ≤ clampRate sampleRate low high ∧ clampRate sampleRate low high ≤ high := by
  unfold clampRate
  split
  · assumption
  · split
    · exact ⟨BitVec.le_refl _, range⟩
    · exact ⟨range, BitVec.le_refl _⟩

/-- **The negotiation asks for what is offered where the nearest config leads**, and only there, if the requested
channel count is offered and no format that has no stream arm finds an `f32` config to stand in for it. -/
theorem negotiate_asks_for_offered {configs : List SupportedConfig} {format : PcmFormat} (nonempty : configs ≠ [])
    (ranges : ∀ cfg ∈ configs, cfg.minSampleRate ≤ cfg.maxSampleRate) :
    ∃ n, negotiate configs format = .ok n ∧ (NearestLeads configs format → AsksForOffered configs format n) ∧
      ((∃ cfg ∈ configs, cfg.channels = format.channels) →
        (∀ cfg ∈ configs, OwnArm cfg.sampleFormat) ∨ (∀ cfg ∈ configs, cfg.sampleFormat ≠ .f32) →
        (AsksForOffered configs format n ↔ NearestLeads configs format)) := by
  obtain ⟨best, first, choice⟩ := exists_choice format nonempty
  have listed := mem_of_mem_considered choice.mem
  have enough (leads : NearestLeads configs format) : AsksForOffered configs format ⟨best.sampleFormat, first.channels,
      clampRate format.sampleRate best.minSampleRate best.maxSampleRate,
      ⟨clampRate format.sampleRate best.minSampleRate best.maxSampleRate, format.channels,
        bitDepthOf best.sampleFormat⟩⟩ := by
    obtain ⟨arm, same⟩ := choice.nearestLeads_iff.1 leads
    have range := clampRate_mem format.sampleRate (ranges best listed)
    refine ⟨⟨best, listed, arm.symm, same.symm, range.1, range.2⟩, ?_⟩
    rintro ⟨cfg, member, exactly⟩
    exact same.trans (channels_of_mem_considered choice.mem member exactly)
  refine ⟨_, negotiate_eq choice, enough, ?_⟩
  rintro ⟨offer, offered, exactly⟩ formats
  refine ⟨?_, enough⟩
  rintro ⟨⟨cfg, member, admits⟩, channels⟩
  refine choice.nearestLeads_iff.2 ⟨?_, ?_⟩
  · rcases formats with all_own | no_f32
    · exact all_own best listed
    · -- The last arm's streams are `f32`, which no config has.
      by_contra foreign
      apply no_f32 cfg member
      rw [admits.sampleFormat]
      cases form : best.sampleFormat <;> rw [OwnArm, form] at foreign <;> first | rfl | exact absurd rfl foreign
  · rw [channels_of_mem_considered choice.mem offered exactly]
    exact channels ⟨offer, offered, exactly⟩

/-- A device with stereo and mono configs, each sample format's stereo one first. -/
def stereoFirst : List SupportedConfig :=
  [⟨2#16, 44100#32, 48000#32, .f32⟩, ⟨1#16, 8000#32, 48000#32, .f32⟩, ⟨2#16, 44100#32, 48000#32, .i16⟩]

theorem negotiate_asks_for_offered_stereo : ∃ n, negotiate stereoFirst ⟨48000#32, 2#16, 16#16⟩ = .ok n ∧
    (AsksForOffered stereoFirst ⟨48000#32, 2#16, 16#16⟩ n ↔ NearestLeads stereoFirst ⟨48000#32, 2#16, 16#16⟩) := by
  have stereo : ∃ cfg ∈ stereoFirst, cfg.channels = 2#16 := ⟨_, List.mem_cons_self, rfl⟩
  have own_arms : ∀ cfg ∈ stereoFirst, streamFormat cfg.sampleFormat = cfg.sampleFormat := by decide
  obtain ⟨n, answer, -, exactly⟩ :=
    @negotiate_asks_for_offered stereoFirst ⟨48000#32, 2#16, 16#16⟩ (by decide) (by decide)
  exact ⟨n, answer, exactly stereo (.inl own_arms)⟩

/-- A device with a mono config at low rates and a stereo one at 48 kHz: a stereo request at 48 kHz is opened in
mono at 48 kHz, which no config admits. -/
theorem negotiate_mono_before_stereo : ∃ n,
    negotiate [⟨1#16, 8000#32, 16000#32, .i16⟩, ⟨2#16, 48000#32, 48000#32, .i16⟩] ⟨48000#32, 2#16, 16#16⟩ = .ok n ∧
      ¬ AsksForOffered [⟨1#16, 8000#32, 16000#32, .i16⟩, ⟨2#16, 48000#32, 48000#32, .i16⟩]
        ⟨48000#32, 2#16, 16#16⟩ n := by
  refine ⟨⟨.i16, 1#16, 48000#32, ⟨48000#32, 2#16, 16#16⟩⟩, by decide, ?_⟩
  rintro ⟨-, channels⟩
  have stereo := channels ⟨⟨2#16, 48000#32, 48000#32, .i16⟩, by simp, rfl⟩
  exact absurd stereo (by decide)

end StereoMix.Audio
