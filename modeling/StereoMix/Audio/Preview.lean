import StereoMix.Audio.Pipeline
import StereoMix.Audio.Preference

/-!
# What the preview shows

The two previews of a device, `diagnose_negotiation` and `enumerate_supported_sample_rates`, against what a recording
does: the diagnosis answers as `open_device` does and names the stream it starts, and both offer the same rates,
in increasing order, the ends of each config with the requested channel count and the common rates between them.
-/

namespace StereoMix.Audio

/-! ## The diagnosis and the recording -/

/-- The stream that a diagnosis announces. -/
def NegotiationInfo.capture (info : NegotiationInfo) (format : PcmFormat) : Capture :=
  .stream info.chosenSampleFormat info.chosenChannels format.channels info.negotiatedSampleRate

theorem diagnose_ok {configs : List SupportedConfig} {deviceIndex : BitVec 32} {format : PcmFormat}
    {info : NegotiationInfo} (ok : diagnose configs deviceIndex format = .ok info) :
    negotiate configs format = .ok ⟨info.chosenSampleFormat, info.chosenChannels, info.negotiatedSampleRate,
      ⟨info.negotiatedSampleRate, format.channels, info.bitDepth⟩⟩ := by
  have requested : info.requestedFormat = format := by
    unfold diagnose at ok
    dsimp only at ok
    split at ok
    · cases ok
    · cases ok
      rfl
  have same := diagnose_negotiated configs deviceIndex format
  rw [ok] at same
  rw [← same, ← requested]
  rfl

theorem diagnose_error {configs : List SupportedConfig} {deviceIndex : BitVec 32} {format : PcmFormat}
    {e : AudioError} (failed : diagnose configs deviceIndex format = .error e) :
    negotiate configs format = .error e := by
  rw [← diagnose_negotiated configs deviceIndex format, failed]
  rfl

/-- Past the sentinels an open answers as the diagnosis does. -/
theorem openDevice_eq (host : Host) {deviceIndex : BitVec 32} (format : PcmFormat) (id : Nat) (self : WasapiBackend)
    (loopback : deviceIndex ≠ LOOPBACK_DEVICE_INDEX) (monitor : deviceIndex ≠ MONITOR_DEVICE_INDEX) :
    (self.openDevice host deviceIndex format id).1 =
        (diagnoseNegotiation host deviceIndex format).map (fun info => info.capture format) ∧
      ∀ info, diagnoseNegotiation host deviceIndex format = .ok info →
        (self.openDevice host deviceIndex format id).2.actualFormat =
          some ⟨info.negotiatedSampleRate, format.channels, info.bitDepth⟩ := by
  unfold WasapiBackend.openDevice diagnoseNegotiation
  rw [if_neg loopback, if_neg monitor]
  cases host.devices with
  | error e => exact ⟨rfl, by simp⟩
  | ok devices =>
    dsimp only
    cases devices[deviceIndex.toNat]? with
    | none => exact ⟨rfl, by simp⟩
    | some dev =>
      dsimp only
      cases dev.configs with
      | error e => exact ⟨rfl, by simp⟩
      | ok configs =>
        dsimp only
        cases diagnosed : diagnose configs deviceIndex format with
        | error e =>
          rw [diagnose_error diagnosed]
          exact ⟨rfl, by simp⟩
        | ok info =>
          rw [diagnose_ok diagnosed]
          refine ⟨rfl, ?_⟩
          rintro _ ⟨⟩
          rfl

/-- **The preview is what recording does.** For every device but the sentinels, the diagnosis fails exactly where the
open does, with its error; where it succeeds, the open starts the announced stream and reports the announced format. -/
theorem preview_is_recording (host : Host) (deviceIndex : BitVec 32) (format : PcmFormat) (id : Nat)
    (self : WasapiBackend) (loopback : deviceIndex ≠ LOOPBACK_DEVICE_INDEX)
    (monitor : deviceIndex ≠ MONITOR_DEVICE_INDEX) :
    (∀ e, diagnoseNegotiation host deviceIndex format = .error e ↔
      (self.openDevice host deviceIndex format id).1 = .error e) ∧
    ((∃ info, diagnoseNegotiation host deviceIndex format = .ok info) ↔
      ∃ capture, (self.openDevice host deviceIndex format id).1 = .ok capture) ∧
    ∀ info, diagnoseNegotiation host deviceIndex format = .ok info →
      (self.openDevice host deviceIndex format id).1 = .ok (.stream info.chosenSampleFormat info.chosenChannels
        format.channels info.negotiatedSampleRate) ∧
      (self.openDevice host deviceIndex format id).2.actualFormat =
        some ⟨info.negotiatedSampleRate, format.channels, info.bitDepth⟩ := by
  obtain ⟨answer, reported⟩ := openDevice_eq host format id self loopback monitor
  rw [answer]
  refine ⟨fun e => ?_, ?_, fun info ok => ⟨by rw [ok]; rfl, reported info ok⟩⟩
  · cases diagnoseNegotiation host deviceIndex format <;> simp [Except.map]
  · cases diagnoseNegotiation host deviceIndex format <;> simp [Except.map]

/-- A device with one stereo config. -/
def oneStereo : Host where
  devices := .ok [⟨some "mic", .ok [⟨2#16, 44100#32, 48000#32, .i16⟩]⟩]
  specIsValid _ _ := true
  openMonitor := .ok ()

theorem preview_is_recording_stereo : (WasapiBackend.new.openDevice oneStereo 0#32 ⟨48000#32, 2#16, 16#16⟩ 0).1 =
    .ok (.stream .i16 2#16 2#16 48000#32) :=
  ((preview_is_recording oneStereo 0#32 ⟨48000#32, 2#16, 16#16⟩ 0 .new (by decide) (by decide)).2.2 _ rfl).1

/-! ## The offered rates -/

/-- A rate that a config offers: an end of its range, or a common rate inside. -/
def SupportedConfig.Offers (cfg : SupportedConfig) (r : BitVec 32) : Prop :=
  r = cfg.minSampleRate ∨ r = cfg.maxSampleRate ∨
    (r ∈ COMMON_RATES ∧ cfg.minSampleRate ≤ r ∧ r ≤ cfg.maxSampleRate)

/-- `xs` holds each of its rates once, and they are those of `p`. -/
structure HoldsOnce (xs : List (BitVec 32)) (p : BitVec 32 → Prop) : Prop where
  nodup : xs.Nodup
  mem : ∀ r, r ∈ xs ↔ p r

/-- A rate is pushed if it is not there. -/
theorem HoldsOnce.push {xs : List (BitVec 32)} {p : BitVec 32 → Prop} (h : HoldsOnce xs p) (new : BitVec 32) :
    HoldsOnce (pushNew xs new) fun r => p r ∨ r = new := by
  unfold pushNew
  by_cases there : new ∈ xs
  · rw [if_pos there]
    refine ⟨h.nodup, fun r => ?_⟩
    rw [h.mem]
    constructor
    · exact .inl
    · rintro (old | rfl)
      · exact old
      · exact (h.mem _).mp there
  · rw [if_neg there]
    refine ⟨?_, fun r => ?_⟩
    · rw [List.nodup_append]
      refine ⟨h.nodup, List.nodup_singleton new, ?_⟩
      rintro r old _ (_ | ⟨_, ⟨⟩⟩) rfl
      exact there old
    · rw [List.mem_append, h.mem, List.mem_singleton]

/-- The common rates of a range are pushed one after the other. -/
theorem HoldsOnce.pushCommon {p : BitVec 32 → Prop} (cfg : SupportedConfig) (common : List (BitVec 32))
    {xs : List (BitVec 32)} (h : HoldsOnce xs p) :
    HoldsOnce (common.foldl (fun out r =>
      if r ≥ cfg.minSampleRate ∧ r ≤ cfg.maxSampleRate then pushNew out r else out) xs)
      fun r => p r ∨ (r ∈ common ∧ cfg.minSampleRate ≤ r ∧ r ≤ cfg.maxSampleRate) := by
  induction common generalizing xs p with
  | nil => simpa using h
  | cons new common ih =>
    rw [List.foldl_cons]
    by_cases range : cfg.minSampleRate ≤ new ∧ new ≤ cfg.maxSampleRate
    · have pushed := ih (h.push new)
      rw [if_pos range]
      refine ⟨pushed.nodup, fun r => (pushed.mem r).trans ?_⟩
      rw [List.mem_cons, or_assoc]
      refine or_congr_right ⟨?_, ?_⟩
      · rintro (rfl | ⟨inside, low⟩)
        · exact ⟨.inl rfl, range⟩
        · exact ⟨.inr inside, low⟩
      · rintro ⟨rfl | inside, low⟩
        · exact .inl rfl
        · exact .inr ⟨inside, low⟩
    · have skipped := ih h
      rw [if_neg range]
      refine ⟨skipped.nodup, fun r => (skipped.mem r).trans ?_⟩
      rw [List.mem_cons]
      refine or_congr_right ⟨fun ⟨inside, low⟩ => ⟨.inr inside, low⟩, ?_⟩
      rintro ⟨rfl | inside, low⟩
      · exact absurd low range
      · exact ⟨inside, low⟩

theorem HoldsOnce.pushRates {xs : List (BitVec 32)} {p : BitVec 32 → Prop} (h : HoldsOnce xs p)
    (cfg : SupportedConfig) : HoldsOnce (pushRates xs cfg) fun r => p r ∨ cfg.Offers r := by
  have pushed := ((h.pushCommon cfg COMMON_RATES).push cfg.minSampleRate).push cfg.maxSampleRate
  refine ⟨pushed.nodup, fun r => (pushed.mem r).trans ?_⟩
  unfold SupportedConfig.Offers
  tauto

/-- The rates pushed for the configs with a channel count. -/
def pushedRates (channels : BitVec 16) (configs : List SupportedConfig) : List (BitVec 32) :=
  configs.foldl (fun out cfg => if cfg.channels ≠ channels then out else pushRates out cfg) []

theorem holds_pushedRates (channels : BitVec 16) (configs : List SupportedConfig) :
    HoldsOnce (pushedRates channels configs) fun r => ∃ cfg ∈ configs, cfg.channels = channels ∧ cfg.Offers r := by
  unfold pushedRates
  suffices from_any : ∀ (xs : List (BitVec 32)) (p : BitVec 32 → Prop), HoldsOnce xs p →
      HoldsOnce (configs.foldl (fun out cfg => if cfg.channels ≠ channels then out else pushRates out cfg) xs)
        fun r => p r ∨ ∃ cfg ∈ configs, cfg.channels = channels ∧ cfg.Offers r by
    simpa using from_any [] (fun _ => False) ⟨List.nodup_nil, by simp⟩
  intro xs p h
  induction configs generalizing xs p with
  | nil => simpa using h
  | cons cfg configs ih =>
    rw [List.foldl_cons]
    by_cases same : cfg.channels = channels
    · rw [if_neg (by simpa using same)]
      have pushed := ih _ _ (h.pushRates cfg)
      refine ⟨pushed.nodup, fun r => (pushed.mem r).trans ?_⟩
      simp [same, or_assoc]
    · rw [if_pos same]
      have skipped := ih _ _ h
      refine ⟨skipped.nodup, fun r => (skipped.mem r).trans ?_⟩
      simp [same]

/-- Rates held once are strictly increasing when they are sorted. -/
theorem HoldsOnce.sorted {xs : List (BitVec 32)} {p : BitVec 32 → Prop} (h : HoldsOnce xs p) :
    (xs.mergeSort fun a b => a ≤ b).Pairwise (· < ·) ∧ ∀ r, r ∈ (xs.mergeSort fun a b => a ≤ b) ↔ p r := by
  have ordered : (xs.mergeSort fun a b => a ≤ b).Pairwise (· ≤ ·) := by
    have sorted : (xs.mergeSort fun a b => a ≤ b).Pairwise fun a b => decide (a ≤ b) = true :=
      List.pairwise_mergeSort (by simpa using fun a b c => BitVec.le_trans)
        (by simpa using fun a b => BitVec.le_total a b) xs
    simpa using sorted
  have once : (xs.mergeSort fun a b => a ≤ b).Nodup := (List.mergeSort_perm xs _).nodup_iff.mpr h.nodup
  refine ⟨?_, fun r => List.mem_mergeSort.trans (h.mem r)⟩
  exact ordered.imp₂ (fun a b le ne => BitVec.lt_of_le_ne le ne) once

theorem enumerate_eq {host : Host} {devices : List Device} {dev : Device} {configs : List SupportedConfig}
    {deviceIndex : BitVec 32} (channels : BitVec 16) (enumerated : host.devices = .ok devices)
    (listed : devices[deviceIndex.toNat]? = some dev) (supported : dev.configs = .ok configs) :
    enumerateSupportedSampleRates host deviceIndex channels =
      .ok ((pushedRates channels configs).mergeSort fun a b => a ≤ b) := by
  simp only [enumerateSupportedSampleRates, enumerated, listed, supported]
  rw [List.mergeSort_eq_insertionSort]
  rfl

/-- The first scan of the diagnosis pushes the same rates. -/
theorem candidateRates_exactChannels (format : PcmFormat) (configs : List SupportedConfig) :
    (Diagnosis.start.exactChannels format configs).candidateRates = pushedRates format.channels configs := by
  unfold Diagnosis.exactChannels pushedRates
  suffices from_any : ∀ d : Diagnosis,
      (configs.foldl (fun d cfg =>
          if cfg.channels ≠ format.channels then d else d.consider format cfg) d).candidateRates =
        configs.foldl (fun out cfg =>
          if cfg.channels ≠ format.channels then out else pushRates out cfg) d.candidateRates
    from from_any .start
  intro d
  induction configs generalizing d with
  | nil => rfl
  | cons cfg configs ih =>
    rw [List.foldl_cons, List.foldl_cons, ih]
    split
    · rfl
    · rw [candidateRates_consider]

/-- With a config of the requested channel count the first scan chooses, so the second does not run. -/
theorem diagnose_candidateRates {configs : List SupportedConfig} (deviceIndex : BitVec 32) {format : PcmFormat}
    (offered : ∃ cfg ∈ configs, cfg.channels = format.channels) :
    ∃ info, diagnose configs deviceIndex format = .ok info ∧
      info.candidateRates = (pushedRates format.channels configs).mergeSort fun a b => a ≤ b := by
  obtain ⟨cfg, member, same⟩ := offered
  have nonempty : configs.filter (fun cfg => cfg.channels = format.channels) ≠ [] :=
    List.ne_nil_of_mem (List.mem_filter.mpr ⟨member, by simpa using same⟩)
  obtain ⟨best, found⟩ := Option.ne_none_iff_exists'.1
    (fun h => nonempty ((List.argmin_eq_none (f := adjustedScore format)).1 h))
  have chosen : (Diagnosis.start.exactChannels format configs).scan = .of format (some best) := by
    rw [scan_exactChannels, ← found]
    exact exactChannels_eq format configs
  have some_chosen : (Diagnosis.start.exactChannels format configs).chosenSf = some best.sampleFormat :=
    congrArg Scan.chosenSf chosen
  have stays : (Diagnosis.start.exactChannels format configs).relaxed format configs =
      Diagnosis.start.exactChannels format configs := by
    rw [Diagnosis.relaxed, some_chosen]
    rfl
  unfold diagnose
  dsimp only
  rw [stays, some_chosen, candidateRates_exactChannels]
  exact ⟨_, rfl, rfl⟩

/-- **The offered rates are exact, and both previews offer the same.** -/
theorem offered_rates_exact {host : Host} {devices : List Device} {dev : Device} {configs : List SupportedConfig}
    {deviceIndex : BitVec 32} (channels : BitVec 16) (enumerated : host.devices = .ok devices)
    (listed : devices[deviceIndex.toNat]? = some dev) (supported : dev.configs = .ok configs) :
    ∃ rates, enumerateSupportedSampleRates host deviceIndex channels = .ok rates ∧ rates.Pairwise (· < ·) ∧
      (∀ r, r ∈ rates ↔ ∃ cfg ∈ configs, cfg.channels = channels ∧ cfg.Offers r) ∧
      ∀ format : PcmFormat, format.channels = channels → (∃ cfg ∈ configs, cfg.channels = channels) →
        ∃ info, diagnoseNegotiation host deviceIndex format = .ok info ∧ info.candidateRates = rates := by
  obtain ⟨increasing, members⟩ := (holds_pushedRates channels configs).sorted
  refine ⟨_, ?_, increasing, members, ?_⟩
  · exact enumerate_eq channels enumerated listed supported
  · rintro format rfl offered
    simp only [diagnoseNegotiation, enumerated, listed, supported]
    exact diagnose_candidateRates deviceIndex offered

theorem offered_rates_exact_stereo : ∃ rates, enumerateSupportedSampleRates oneStereo 0#32 2#16 = .ok rates ∧
    rates.Pairwise (· < ·) := by
  obtain ⟨rates, listed, increasing, -⟩ :
      ∃ rates, enumerateSupportedSampleRates oneStereo 0#32 2#16 = .ok rates ∧ rates.Pairwise (· < ·) ∧ _ :=
    offered_rates_exact 2#16 rfl rfl rfl
  exact ⟨rates, listed, increasing⟩

end StereoMix.Audio
