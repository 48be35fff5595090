import StereoMix.Audio.Wasapi
import StereoMix.Lib.Parts

/-!
# What the backend delivers

The format the backend reports is set by an open and stays with the channel that `next_frame` reads, over any
calls, callbacks and thread ends. Whether it is the format of the frames is decided by what the open started: it is
for every stream but one of f32 samples, and for a monitor stream of at most 255 channels.
-/

namespace StereoMix.Audio

open ByteFile EventSystem

/-- The format that the backend reports for what an open started. -/
def Capture.reported : Capture → PcmFormat
  | .stream sampleFormat _ requestedChannels sampleRate => ⟨sampleRate, requestedChannels, bitDepthOf sampleFormat⟩
  | .monitor _ format => format

/-- A captured frame is what a reported format says: its stamp, the layout of its bytes and their number. -/
structure Captured.Exact (c : Captured) (reported : PcmFormat) : Prop where
  format : c.frame.format = reported
  channels : c.channels = reported.channels.toNat
  bits : c.bits = reported.bitDepth.toNat
  length : c.frame.data.length = c.frame.frameCount.toNat * reported.bytesPerFrame.toNat

/-- What `open_device` builds: a stream of at least one device channel, or a 16-bit monitor stream whose channel
count is the narrowed one of its format. -/
inductive Capture.Built : Capture → Prop where
  | stream {sampleFormat : SampleFormat} {deviceChannels : BitVec 16} (requestedChannels : BitVec 16)
      (sampleRate : BitVec 32) (some_channel : 1 ≤ deviceChannels.toNat) :
      Built (.stream sampleFormat deviceChannels requestedChannels sampleRate)
  | monitor {format : PcmFormat} (some_channel : 1 ≤ format.channels.toNat) (depth : format.bitDepth = 16#16) :
      Built (.monitor (format.channels.setWidth 8) format)

/-- The captures whose frames are as reported. -/
def Capture.Faithful : Capture → Prop
  | .stream sampleFormat _ _ _ => sampleFormat ≠ .f32
  | .monitor _ format => format.channels.toNat < 256

theorem bytesPerFrame_16 (rate : BitVec 32) (channels : BitVec 16) :
    (PcmFormat.mk rate channels 16#16).bytesPerFrame.toNat = 2 * channels.toNat := by
  have := channels.isLt
  simp only [PcmFormat.bytesPerFrame, PcmFormat.bytesPerSample, BitVec.toNat_mul, BitVec.toNat_setWidth,
    BitVec.toNat_udiv, BitVec.toNat_ofNat, Nat.reducePow, Nat.reduceMod, Nat.reduceDiv]
  omega

theorem framesPerChunk_lt (rate : BitVec 32) : framesPerChunk rate < 2 ^ 32 := by
  have := (rate / 50#32).isLt
  unfold framesPerChunk
  omega

section

variable {F : Type} [Inhabited F] (f32ToI16 : F → BitVec 16)

/-- A stream's frame has the bytes of its frame count at 16 bits. -/
theorem streamFrame_exact {buf : Bytes} {samples : Nat} {dev req : BitVec 16} {sampleFormat : SampleFormat}
    (rate : BitVec 32) (now seq : BitVec 64) (integer : sampleFormat ≠ .f32) (some_channel : 1 ≤ dev.toNat)
    (small : samples < 2 ^ 32) (size : buf.length = 2 * req.toNat * (samples / dev.toNat)) :
    Captured.Exact ⟨streamFrame buf samples dev req rate now seq, req.toNat, 16⟩
      ((Capture.stream sampleFormat dev req rate).reported) := by
  have depth : bitDepthOf sampleFormat = 16#16 := by
    cases sampleFormat <;> first | rfl | exact absurd rfl integer
  have count : (streamFrame buf samples dev req rate now seq).frameCount.toNat = samples / dev.toNat := by
    have := dev.isLt
    simp only [streamFrame, BitVec.toNat_udiv, BitVec.toNat_ofNat, BitVec.toNat_setWidth]
    rw [Nat.mod_eq_of_lt small, Nat.mod_eq_of_lt (by omega)]
  rw [Capture.reported, depth]
  refine ⟨rfl, rfl, rfl, ?_⟩
  rw [count, bytesPerFrame_16, Nat.mul_comm]
  exact size

/-- **The frames of a faithful capture are as reported.** -/
theorem Capture.Faithful.exact {c : Capture} (faithful : c.Faithful) (built : c.Built) {input : Input F}
    {now seq : BitVec 64} {captured : Captured} (takes : c.Takes input)
    (run : c.capture f32ToI16 input now seq = some captured) : captured.Exact c.reported := by
  cases built with
  | stream req rate some_channel =>
    cases input with
    | f32 data =>
      obtain ⟨-, whole, small⟩ := takes
      cases run
      apply streamFrame_exact rate now seq faithful some_channel small
      rw [if_neg faithful]
      exact length_mapChannels f32ToI16 some_channel whole _
    | i16 data =>
      obtain ⟨-, whole, small⟩ := takes
      cases run
      exact streamFrame_exact rate now seq faithful some_channel small (length_mapChannels _ some_channel whole _)
    | u16 data =>
      obtain ⟨-, whole, small⟩ := takes
      cases run
      exact streamFrame_exact rate now seq faithful some_channel small (length_mapChannels _ some_channel whole _)
    | chunk data => cases takes
  | @monitor format some_channel depth =>
    cases input with
    | chunk data =>
      obtain ⟨rate, channels, bitDepth⟩ := format
      subst depth
      have size : data.length = framesPerChunk rate * (channels.toNat * 2) := takes
      have narrow : channels.toNat < 256 := faithful
      have count : data.length / (channels.toNat * 2) = framesPerChunk rate := by
        rw [size, Nat.mul_div_cancel _ (by dsimp only at some_channel; omega)]
      cases run
      refine ⟨rfl, ?_, rfl, ?_⟩
      · exact (BitVec.toNat_setWidth 8 channels).trans (Nat.mod_eq_of_lt narrow)
      · rw [Capture.reported, bytesPerFrame_16]
        dsimp only
        rw [count, BitVec.toNat_ofNat, Nat.mod_eq_of_lt (framesPerChunk_lt rate), size, Nat.mul_comm channels.toNat]
    | f32 data => cases takes
    | i16 data => cases takes
    | u16 data => cases takes

end

/-! ## Opening -/

/-- The channel count of a monitor capture. -/
def monitorChannels (format : PcmFormat) : BitVec 16 := if format.channels = 0#16 then 1#16 else format.channels

theorem spawnMonitorCapture_ok {host : Host} {format actual : PcmFormat} {c : Capture}
    (spawned : spawnMonitorCapture host format = .ok (actual, c)) :
    actual.channels = monitorChannels format ∧ actual.bitDepth = 16#16 ∧
      c = .monitor (actual.channels.setWidth 8) actual := by
  unfold spawnMonitorCapture at spawned
  extract_lets channels rate negotiated at spawned
  split at spawned
  · cases spawned
  · split at spawned
    · cases spawned
    · obtain ⟨same, rfl⟩ := Prod.mk.inj (Except.ok.inj spawned)
      rw [← same]
      exact ⟨rfl, rfl, rfl⟩

/-- What `open_device` can come to: a failure that changes at most the device name, a monitor stream, or a stream of
the negotiated config. -/
inductive WasapiBackend.Opens (b : WasapiBackend) (host : Host) (deviceIndex : BitVec 32) (format : PcmFormat) (id : Nat) :
    Except AudioError Capture × WasapiBackend → Prop where
  | failed (e : AudioError) (deviceName : Option String) :
      b.Opens host deviceIndex format id (.error e, { b with deviceName })
  | monitor {actual : PcmFormat} {c : Capture} (index : deviceIndex = MONITOR_DEVICE_INDEX)
      (spawned : spawnMonitorCapture host format = .ok (actual, c)) :
      b.Opens host deviceIndex format id (.ok c, { b with
        deviceName := some MONITOR_DEVICE_NAME, actualFormat := some actual, rx := some id, stopTx := some id })
  | stream {devices : List Device} {dev : Device} {configs : List SupportedConfig} {n : Negotiated}
      (index : deviceIndex ≠ MONITOR_DEVICE_INDEX) (listed : host.devices = .ok devices)
      (there : devices[deviceIndex.toNat]? = some dev) (supported : dev.configs = .ok configs)
      (negotiated : negotiate configs format = .ok n) :
      b.Opens host deviceIndex format id (.ok (.stream n.sampleFormat n.deviceChannels format.channels n.sampleRate),
        { b with deviceName := dev.name, actualFormat := some n.actualFormat, rx := some id, stopTx := some id })

theorem opens_openDevice (host : Host) (deviceIndex : BitVec 32) (format : PcmFormat) (id : Nat) (b : WasapiBackend) :
    b.Opens host deviceIndex format id (b.openDevice host deviceIndex format id) := by
  unfold WasapiBackend.openDevice
  split
  · exact .failed _ _
  · split
    · rename_i index
      dsimp only
      split
      · exact .failed _ _
      · rename_i actual c spawned
        exact .monitor index spawned
    · rename_i index
      split
      · exact .failed _ b.deviceName
      · rename_i devices listed
        split
        · exact .failed _ b.deviceName
        · rename_i dev there
          dsimp only
          split
          · exact .failed _ _
          · rename_i configs supported
            split
            · exact .failed _ _
            · rename_i n negotiated
              exact .stream index listed there supported negotiated

/-- A successful open reports the format of what it started and reads its channel. -/
theorem openDevice_ok {host : Host} {deviceIndex : BitVec 32} {format : PcmFormat} {id : Nat} {b b' : WasapiBackend}
    {c : Capture} (opened : b.openDevice host deviceIndex format id = (.ok c, b')) :
    b'.rx = some id ∧ b'.actualFormat = some c.reported := by
  have opens := opens_openDevice host deviceIndex format id b
  rw [opened] at opens
  cases opens with
  | monitor index spawned =>
    obtain ⟨-, -, rfl⟩ := spawnMonitorCapture_ok spawned
    exact ⟨rfl, rfl⟩
  | stream index listed there supported negotiated =>
    refine ⟨rfl, ?_⟩
    unfold negotiate at negotiated
    dsimp only at negotiated
    split at negotiated
    · cases negotiated
    · cases negotiated
      rfl

/-- A failed open changes at most the device name. -/
theorem openDevice_error {host : Host} {deviceIndex : BitVec 32} {format : PcmFormat} {id : Nat}
    {b b' : WasapiBackend} {e : AudioError} (failed : b.openDevice host deviceIndex format id = (.error e, b')) :
    ∃ deviceName, b' = { b with deviceName } := by
  have opens := opens_openDevice host deviceIndex format id b
  rw [failed] at opens
  cases opens with
  | failed e deviceName => exact ⟨deviceName, rfl⟩

/-! ## One step -/

section

variable {F : Type} [Inhabited F] (f32ToI16 : F → BitVec 16)

/-- The threads run what they ran, with what was in their channels. -/
def SameChannels (threads threads' : List Thread) : Prop :=
  threads'.map (fun t => (t.capture, t.queue)) = threads.map fun t => (t.capture, t.queue)

/-- A step that changes neither the channels nor what the backend reads and reports. -/
structure Aside (s t : CaptureState) : Prop where
  rx : t.backend.rx = s.backend.rx
  actualFormat : t.backend.actualFormat = s.backend.actualFormat
  threads : SameChannels s.threads t.threads
  delivered : t.delivered = s.delivered

/-- A frame made by a capture. -/
def Capture.Made (c : Capture) (captured : Captured) : Prop :=
  ∃ (input : Input F) (now seq : BitVec 64), c.Takes input ∧ c.capture f32ToI16 input now seq = some captured

/-- What a step can do: nothing to the channels, a successful open, a frame delivered, a frame sent. -/
inductive Stepped (s : CaptureState) (e : CaptureEvent F) (t : CaptureState) : Prop where
  | aside (h : Aside s t)
  | opened {host : Host} {deviceIndex : BitVec 32} {format : PcmFormat} {c : Capture}
      (event : e = .openDevice host deviceIndex format)
      (h : s.backend.openDevice host deviceIndex format s.threads.length = (.ok c, t.backend))
      (threads : t.threads = s.threads ++ [⟨c, false, false, 0#64, []⟩]) (delivered : t.delivered = s.delivered)
  | delivered {id : Nat} {th : Thread} {c : Captured} {queue : List Captured} (rx : s.backend.rx = some id)
      (thread : s.threads[id]? = some th) (front : th.queue = c :: queue) (backend : t.backend = s.backend)
      (threads : t.threads = s.threads.set id { th with queue })
      (delivered : t.delivered = s.delivered ++ [⟨id, c, s.backend.actualFormat⟩])
  | sent {id : Nat} {th : Thread} {c : Captured} (received : Bool) (thread : s.threads[id]? = some th)
      (made : th.capture.Made f32ToI16 c) (backend : t.backend = s.backend)
      (threads : t.threads = s.threads.set id (th.send c received)) (delivered : t.delivered = s.delivered)

theorem sameChannels_set {threads : List Thread} {id : Nat} {th th' : Thread} (there : threads[id]? = some th)
    (same : (th'.capture, th'.queue) = (th.capture, th.queue)) : SameChannels threads (threads.set id th') :=
  Parts.map_set there same

theorem aside_tell (s : CaptureState) (stopped : WasapiBackend × Option Nat)
    (rx : stopped.1.rx = s.backend.rx) (actualFormat : stopped.1.actualFormat = s.backend.actualFormat) :
    Aside s (s.tell stopped) := by
  unfold CaptureState.tell
  split
  · exact ⟨rx, actualFormat, rfl, rfl⟩
  · rename_i id told
    refine ⟨rx, actualFormat, ?_, rfl⟩
    apply Parts.map_modify_same
    intro t
    rfl

/-- What `next_frame` can answer: nothing, or the front frame of the channel it reads. -/
inductive NextFrame (s : CaptureState) : Option PcmFrame → CaptureState → Prop where
  | nothing : NextFrame s none s
  | frame {id : Nat} {th : Thread} {c : Captured} {queue : List Captured} (rx : s.backend.rx = some id)
      (thread : s.threads[id]? = some th) (front : th.queue = c :: queue) :
      NextFrame s (some c.frame) { s with
        threads := s.threads.set id { th with queue }
        delivered := s.delivered ++ [⟨id, c, s.backend.actualFormat⟩] }

theorem nextFrame_cases {s t : CaptureState} {frame : Option PcmFrame} (next : s.nextFrame = some (frame, t)) :
    NextFrame s frame t := by
  unfold CaptureState.nextFrame at next
  split at next
  · cases next
    exact .nothing
  · split at next
    · cases next
      exact .nothing
    · rename_i id rx
      split at next
      · cases next
      · rename_i th thread
        split at next
        · split at next
          · cases next
            exact .nothing
          · cases next
        · rename_i c queue front
          cases next
          exact .frame rx thread front

/-- A callback or read runs on a live thread with an input it takes, and sends its frame. -/
theorem captureStep_input {s t : CaptureState} {id : Nat} {data : Input F} {now : BitVec 64}
    (step : captureStep f32ToI16 s (.input id data now) = some t) :
    ∃ th c received, s.threads[id]? = some th ∧ th.capture.Takes data ∧
      th.capture.capture f32ToI16 data now th.seq = some c ∧
      t = { s with threads := s.threads.set id (th.send c received) } := by
  unfold captureStep at step
  dsimp only at step
  split at step
  · cases step
  · rename_i th thread
    split at step
    · cases step
    · split at step
      · rename_i takes
        split at step
        · cases step
        · rename_i c run
          split at step
          · split at step
            · cases step
              exact ⟨th, c, true, thread, takes, run, rfl⟩
            · cases step
          · cases step
            exact ⟨th, c, false, thread, takes, run, rfl⟩
      · cases step

theorem captureStep_ends {s t : CaptureState} {id : Nat} (step : captureStep f32ToI16 s (.ends id) = some t) :
    ∃ th, s.threads[id]? = some th ∧ t = { s with threads := s.threads.set id { th with ended := true } } := by
  unfold captureStep at step
  dsimp only at step
  split at step
  · cases step
  · rename_i th thread
    split at step
    · cases step
    · cases step
      exact ⟨th, thread, rfl⟩

theorem stepped_of_captureStep {s t : CaptureState} {e : CaptureEvent F} (step : captureStep f32ToI16 s e = some t) :
    Stepped f32ToI16 s e t := by
  cases e with
  | openDevice host deviceIndex format =>
    cases step
    unfold CaptureState.openDevice
    split
    · rename_i e backend failed
      obtain ⟨name, rfl⟩ := openDevice_error failed
      exact .aside ⟨rfl, rfl, rfl, rfl⟩
    · rename_i c backend opened
      exact .opened rfl opened rfl rfl
  | start =>
    cases step
    exact .aside ⟨rfl, rfl, rfl, rfl⟩
  | stop =>
    cases step
    exact .aside (aside_tell s _ rfl rfl)
  | close =>
    cases step
    exact .aside (aside_tell s _ rfl rfl)
  | nextFrame =>
    obtain ⟨⟨frame, after⟩, next, rfl⟩ := Option.map_eq_some_iff.1 step
    cases nextFrame_cases next with
    | nothing => exact .aside ⟨rfl, rfl, rfl, rfl⟩
    | frame rx thread front => exact .delivered rx thread front rfl rfl rfl
  | input id data now =>
    obtain ⟨th, c, received, thread, takes, run, rfl⟩ := captureStep_input f32ToI16 step
    exact .sent received thread ⟨data, now, th.seq, takes, run⟩ rfl rfl rfl
  | ends id =>
    obtain ⟨th, thread, rfl⟩ := captureStep_ends f32ToI16 step
    exact .aside ⟨rfl, rfl, sameChannels_set thread rfl, rfl⟩

/-! ## Runs after an open -/

theorem SameChannels.getElem? {threads threads' : List Thread} (same : SameChannels threads threads') {id : Nat}
    {th : Thread} (there : threads[id]? = some th) :
    ∃ th', threads'[id]? = some th' ∧ th'.capture = th.capture ∧ th'.queue = th.queue := by
  have at_id := congrArg (fun l => l[id]?) same
  simp only [List.getElem?_map, there, Option.map_some] at at_id
  obtain ⟨th', there', eq⟩ := Option.map_eq_some_iff.1 at_id
  obtain ⟨capture, queue⟩ := Prod.mk.inj eq
  exact ⟨th', there', capture, queue⟩

theorem SameChannels.length {threads threads' : List Thread} (same : SameChannels threads threads') :
    threads'.length = threads.length := by
  simpa using congrArg List.length same

/-- The thread of open `id` runs `c`, its channel and what was delivered from it were made by `c`, and as long as
its channel is read the backend reports the format of `c`. -/
structure Follows (id : Nat) (c : Capture) (s : CaptureState) : Prop where
  thread : ∃ th, s.threads[id]? = some th ∧ th.capture = c ∧ ∀ x ∈ th.queue, c.Made f32ToI16 x
  reported : s.backend.rx = some id → s.backend.actualFormat = some c.reported
  delivered : ∀ d ∈ s.delivered, d.openId = id → d.reported = some c.reported ∧ c.Made f32ToI16 d.captured

theorem Follows.step {id : Nat} {c : Capture} {s t : CaptureState} {e : CaptureEvent F} (before : Follows f32ToI16 id c s)
    (step : Stepped f32ToI16 s e t) : Follows f32ToI16 id c t := by
  obtain ⟨⟨th, there, runs, made⟩, reported, delivered⟩ := before
  have inside := (List.getElem?_eq_some_iff.1 there).1
  cases step with
  | aside h =>
    obtain ⟨th', there', capture, queue⟩ := h.threads.getElem? there
    refine ⟨⟨th', there', capture.trans runs, by rwa [queue]⟩, ?_, by rwa [h.delivered]⟩
    rw [h.rx, h.actualFormat]
    exact reported
  | opened event h threads same =>
    refine ⟨⟨th, ?_, runs, made⟩, ?_, by rwa [same]⟩
    · rw [threads, List.getElem?_append_left inside]
      exact there
    · intro reads
      rw [(openDevice_ok h).1, Option.some.injEq] at reads
      omega
  | @delivered id' th' x queue rx thread front backend threads added =>
    have here : id' = id → x ∈ th.queue ∧ ∀ y ∈ queue, y ∈ th.queue := by
      rintro rfl
      rw [there, Option.some.injEq] at thread
      rw [thread, front]
      exact ⟨List.mem_cons_self, fun y member => List.mem_cons_of_mem x member⟩
    refine ⟨?_, by rwa [backend], ?_⟩
    · by_cases same : id' = id
      · refine ⟨{ th' with queue }, ?_, ?_, fun y member => made y ((here same).2 y member)⟩
        · rw [threads, same, List.getElem?_set_self inside]
        · rw [same, there, Option.some.injEq] at thread
          rw [← thread]
          exact runs
      · exact ⟨th, by rw [threads, List.getElem?_set_ne same]; exact there, runs, made⟩
    · intro d member same
      rw [added] at member
      rcases List.mem_append.1 member with old | new
      · exact delivered d old same
      · rw [List.mem_singleton] at new
        subst new
        exact ⟨reported (same ▸ rx), made x (here same).1⟩
  | @sent id' th' x received thread made' backend threads same =>
    refine ⟨?_, by rwa [backend], by rwa [same]⟩
    by_cases here : id' = id
    · subst here
      rw [there, Option.some.injEq] at thread
      subst thread
      refine ⟨th.send x received, by rw [threads, List.getElem?_set_self inside], runs, ?_⟩
      intro y member
      unfold Thread.send at member
      dsimp only at member
      split at member
      · rcases List.mem_append.1 member with old | new
        · exact made y old
        · rw [List.mem_singleton.1 new, ← runs]
          exact made'
      · exact made y member
    · exact ⟨th, by rw [threads, List.getElem?_set_ne here]; exact there, runs, made⟩

/-- Deliveries come from opens that have happened. -/
theorem delivered_id_lt {s : CaptureState} (reached : (captureSystem f32ToI16).Reachable s) :
    ∀ d ∈ s.delivered, d.openId < s.threads.length := by
  apply invariant (S := captureSystem f32ToI16) (I := fun s => ∀ d ∈ s.delivered, d.openId < s.threads.length)
  · rintro s rfl d member
    cases member
  · intro s e t before step
    cases stepped_of_captureStep f32ToI16 step with
    | aside h =>
      rw [h.delivered, h.threads.length]
      exact before
    | opened event h threads same =>
      intro d member
      rw [same] at member
      rw [threads, List.length_append]
      exact Nat.lt_add_right _ (before d member)
    | delivered rx thread front backend threads added =>
      intro d member
      rw [threads, List.length_set]
      rw [added] at member
      rcases List.mem_append.1 member with old | new
      · exact before d old
      · rw [List.mem_singleton.1 new]
        exact (List.getElem?_eq_some_iff.1 thread).1
    | sent received thread made backend threads same =>
      rw [same, threads, List.length_set]
      exact before
  · exact reached

/-- After an open, the run follows what it started. -/
theorem Follows.of_open {s t : CaptureState} {host : Host} {deviceIndex : BitVec 32} {format : PcmFormat} {c : Capture}
    (reached : (captureSystem f32ToI16).Reachable s)
    (opened : (s.backend.openDevice host deviceIndex format s.threads.length).1 = .ok c)
    (step : captureStep f32ToI16 s (.openDevice host deviceIndex format) = some t) :
    Follows f32ToI16 s.threads.length c t := by
  cases step
  unfold CaptureState.openDevice
  split
  · rename_i e backend failed
    rw [failed] at opened
    cases opened
  · rename_i c' backend succeeded
    rw [succeeded] at opened
    cases opened
    refine ⟨⟨⟨c, false, false, 0#64, []⟩, List.getElem?_concat_length, rfl, ?_⟩,
      fun _ => (openDevice_ok succeeded).2, ?_⟩
    · intro x member
      cases member
    · intro d member same
      have earlier := delivered_id_lt f32ToI16 reached d member
      omega

/-- The opened thread's first frame can be delivered. -/
theorem delivers {s t : CaptureState} {host : Host} {deviceIndex : BitVec 32} {format : PcmFormat} {c : Capture}
    {data : Input F} {now : BitVec 64} {captured : Captured}
    (opened : (s.backend.openDevice host deviceIndex format s.threads.length).1 = .ok c)
    (step : captureStep f32ToI16 s (.openDevice host deviceIndex format) = some t) (takes : c.Takes data)
    (run : c.capture f32ToI16 data now 0#64 = some captured) :
    ∃ u, (captureSystem f32ToI16).run t [.start, .input s.threads.length data now, .nextFrame] = some u ∧
      ⟨s.threads.length, captured, some c.reported⟩ ∈ u.delivered := by
  cases step
  unfold CaptureState.openDevice
  split
  · rename_i e backend failed
    rw [failed] at opened
    cases opened
  · rename_i c' backend succeeded
    rw [succeeded] at opened
    cases opened
    obtain ⟨rx, reported⟩ := openDevice_ok succeeded
    have replaced (th th' : Thread) : (s.threads ++ [th]).set s.threads.length th' = s.threads ++ [th'] := by
      rw [List.set_append_right _ _ (Nat.le_refl _), Nat.sub_self]
      rfl
    refine ⟨⟨backend.start, s.threads ++ [⟨c, false, false, 0#64 + 1#64, []⟩],
      s.delivered ++ [⟨s.threads.length, captured, some c.reported⟩]⟩, ?_,
      List.mem_append_right s.delivered (List.mem_singleton_self _)⟩
    simp only [run_cons, run_nil, captureSystem, captureStep, CaptureState.nextFrame, Option.map_some, Option.bind_some,
      List.getElem?_concat_length, replaced, takes, run, rx, reported, WasapiBackend.start, Thread.send, FRAME_QUEUE,
      if_pos, Bool.not_true, Bool.false_eq_true, if_false, List.length_nil, List.nil_append, Nat.zero_lt_succ]

end

/-! ## The condition -/

/-- cpal lists configs of at least one channel. -/
def Host.SomeChannel (host : Host) : Prop :=
  ∀ ⦃devices⦄, host.devices = .ok devices → ∀ dev ∈ devices, ∀ ⦃configs⦄, dev.configs = .ok configs →
    ∀ cfg ∈ configs, 1 ≤ cfg.channels.toNat

/-- The requests whose frames come as reported: a monitor stream of at most 255 channels, or a device whose best
config is not of f32 samples. -/
def KeepsFormat (host : Host) (deviceIndex : BitVec 32) (format : PcmFormat) : Prop :=
  if deviceIndex = MONITOR_DEVICE_INDEX then format.channels.toNat < 256
  else ∀ ⦃devices dev configs best first⦄, host.devices = .ok devices → devices[deviceIndex.toNat]? = some dev →
    dev.configs = .ok configs → Choice configs format best first → best.sampleFormat ≠ .f32

theorem monitorChannels_pos (format : PcmFormat) : 1 ≤ (monitorChannels format).toNat := by
  unfold monitorChannels
  split
  · decide
  · rename_i nonzero
    rw [BitVec.toNat_eq] at nonzero
    exact Nat.one_le_iff_ne_zero.2 nonzero

theorem monitorChannels_lt (format : PcmFormat) :
    (monitorChannels format).toNat < 256 ↔ format.channels.toNat < 256 := by
  unfold monitorChannels
  split
  · rename_i zero
    rw [zero]
    decide
  · rfl

/-- What a successful open started: a monitor stream of the request's channels, or a stream of the chosen config. -/
theorem openDevice_started {host : Host} {deviceIndex : BitVec 32} {format : PcmFormat} {id : Nat}
    {b : WasapiBackend} {c : Capture} (opened : (b.openDevice host deviceIndex format id).1 = .ok c) :
    (deviceIndex = MONITOR_DEVICE_INDEX ∧ ∃ actual, spawnMonitorCapture host format = .ok (actual, c)) ∨
      (deviceIndex ≠ MONITOR_DEVICE_INDEX ∧ ∃ devices dev configs best first rate, host.devices = .ok devices ∧
        devices[deviceIndex.toNat]? = some dev ∧ dev.configs = .ok configs ∧ Choice configs format best first ∧
        c = .stream best.sampleFormat first.channels format.channels rate) := by
  have opens := opens_openDevice host deviceIndex format id b
  generalize b.openDevice host deviceIndex format id = answer at opens opened
  cases opens with
  | failed e deviceName => cases opened
  | monitor index spawned =>
    cases opened
    exact .inl ⟨index, _, spawned⟩
  | @stream devices dev configs n index listed there supported negotiated =>
    cases opened
    have nonempty : configs ≠ [] := by
      rintro rfl
      cases negotiated
    obtain ⟨best, first, choice⟩ := exists_choice format nonempty
    rw [negotiate_eq choice] at negotiated
    cases negotiated
    exact .inr ⟨index, devices, dev, configs, best, first, _, listed, there, supported, choice, rfl⟩

theorem built_of_openDevice {host : Host} {deviceIndex : BitVec 32} {format : PcmFormat} {id : Nat}
    {b : WasapiBackend} {c : Capture} (some_channel : host.SomeChannel)
    (opened : (b.openDevice host deviceIndex format id).1 = .ok c) : c.Built := by
  rcases openDevice_started opened with
    ⟨-, actual, spawned⟩ | ⟨-, devices, dev, configs, best, first, rate, listed, there, supported, choice, rfl⟩
  · obtain ⟨channels, depth, rfl⟩ := spawnMonitorCapture_ok spawned
    exact .monitor (channels ▸ monitorChannels_pos format) depth
  · refine .stream format.channels rate ?_
    exact some_channel listed dev (List.mem_of_getElem? there) supported first (List.mem_of_find?_eq_some choice.listed)

theorem faithful_iff_of_openDevice {host : Host} {deviceIndex : BitVec 32} {format : PcmFormat} {id : Nat}
    {b : WasapiBackend} {c : Capture} (opened : (b.openDevice host deviceIndex format id).1 = .ok c) :
    c.Faithful ↔ KeepsFormat host deviceIndex format := by
  unfold KeepsFormat
  rcases openDevice_started opened with
    ⟨monitor, actual, spawned⟩ | ⟨stream, devices, dev, configs, best, first, rate, listed, there, supported, choice, rfl⟩
  · obtain ⟨channels, -, rfl⟩ := spawnMonitorCapture_ok spawned
    rw [if_pos monitor, ← monitorChannels_lt, ← channels]
    rfl
  · rw [if_neg stream]
    constructor
    · intro integer devices' dev' configs' best' first' listed' there' supported' choice'
      rw [listed] at listed'
      cases listed'
      rw [there] at there'
      cases there'
      rw [supported] at supported'
      cases supported'
      rw [(choice'.unique choice).1]
      exact integer
    · intro keeps
      exact keeps listed there supported choice

/-! ## The reported format -/

section

variable {F : Type} [Inhabited F] (f32ToI16 : F → BitVec 16)

/-- Whatever happens after state `t`, the frames delivered from open `id` are as the backend reports. -/
def AsReported (id : Nat) (t : CaptureState) : Prop :=
  ∀ es u, (captureSystem f32ToI16).run t es = some u → ∀ d ∈ u.delivered, d.openId = id →
    ∃ reported, d.reported = some reported ∧ d.captured.Exact reported

/-- A capture that is not faithful makes a frame which is not as reported. -/
theorem exists_unlike {c : Capture} (unfaithful : ¬ c.Faithful) :
    ∃ (data : Input F) (captured : Captured), c.Takes data ∧ c.capture f32ToI16 data 0#64 0#64 = some captured ∧
      ¬ captured.Exact c.reported := by
  cases c with
  | stream sampleFormat dev req rate =>
    have float : sampleFormat = .f32 := not_not.1 unfaithful
    subst float
    refine ⟨.f32 [], _, ⟨rfl, dvd_zero _, Nat.two_pow_pos 32⟩, rfl, ?_⟩
    intro exactly
    have sixteen : 16 = (32#16).toNat := exactly.bits
    exact absurd sixteen (by decide)
  | monitor streamChannels format =>
    refine ⟨.chunk (List.replicate _ 0), _, List.length_replicate, rfl, ?_⟩
    intro exactly
    have narrow := streamChannels.isLt
    have same : streamChannels.toNat = format.channels.toNat := exactly.channels
    have faithful : format.channels.toNat < 256 := same ▸ narrow
    exact unfaithful faithful

/-- **After a successful open the frames delivered from it are as reported, in every run, just when the request
keeps its format.** -/
theorem reported_format_delivered_iff {s t : CaptureState} {host : Host} {deviceIndex : BitVec 32} {format : PcmFormat}
    {c : Capture} (some_channel : host.SomeChannel) (reached : (captureSystem f32ToI16).Reachable s)
    (opened : (s.backend.openDevice host deviceIndex format s.threads.length).1 = .ok c)
    (step : captureStep f32ToI16 s (.openDevice host deviceIndex format) = some t) :
    AsReported f32ToI16 s.threads.length t ↔ KeepsFormat host deviceIndex format := by
  rw [← faithful_iff_of_openDevice opened]
  constructor
  · intro as_reported
    by_contra unfaithful
    obtain ⟨data, captured, takes, made, unlike⟩ := exists_unlike f32ToI16 unfaithful
    obtain ⟨u, run, delivered⟩ := delivers f32ToI16 opened step takes made
    obtain ⟨reported, same, exactly⟩ := as_reported _ u run _ delivered rfl
    cases same
    exact unlike exactly
  · intro faithful es u run d member same
    have follows : Follows f32ToI16 s.threads.length c u := by
      apply run_induction (S := captureSystem f32ToI16) (C := fun _ _ => True) (I := Follows f32ToI16 s.threads.length c)
      · exact fun s e t before _ step => before.step f32ToI16 (stepped_of_captureStep f32ToI16 step)
      · exact .of_open f32ToI16 reached opened step
      · exact meets_true t es
      · exact run
    obtain ⟨reported, input, now, seq, takes, made⟩ := follows.delivered d member same
    exact ⟨c.reported, reported, faithful.exact f32ToI16 (built_of_openDevice some_channel opened) takes made⟩

end

/-- A host with one stereo device of a sample format. -/
def oneDevice (sampleFormat : SampleFormat) : Host where
  devices := .ok [⟨some "hw:0", .ok [⟨2#16, 44100#32, 48000#32, sampleFormat⟩]⟩]
  specIsValid _ _ := true
  openMonitor := .error "no sound server"

/-- The cast of an f32 sample, on silence. -/
def silence (_ : BitVec 32) : BitVec 16 := 0#16

theorem oneDevice_someChannel (sampleFormat : SampleFormat) : (oneDevice sampleFormat).SomeChannel := by
  rintro devices listed dev member configs supported cfg cfg_member
  cases listed
  rw [List.mem_singleton] at member
  subst member
  cases supported
  rw [List.mem_singleton] at cfg_member
  subst cfg_member
  exact Nat.le_succ 1

/-- The state after the first open of a stereo device at 48 kHz. -/
def opened (sampleFormat : SampleFormat) : CaptureState where
  backend := ⟨some 0, some 0, false, some ⟨48000#32, 2#16, bitDepthOf sampleFormat⟩, some "hw:0"⟩
  threads := [⟨.stream sampleFormat 2#16 2#16 48000#32, false, false, 0#64, []⟩]
  delivered := []

theorem reported_format_delivered_i16 :
    AsReported silence 0 (opened .i16) ↔ KeepsFormat (oneDevice .i16) 0#32 ⟨48000#32, 2#16, 16#16⟩ :=
  reported_format_delivered_iff silence (s := ⟨.new, [], []⟩) (c := .stream .i16 2#16 2#16 48000#32)
    (oneDevice_someChannel .i16) ⟨_, [], rfl, rfl⟩ (by decide) (by decide)

/-- A device with f32 samples: 32 bits are reported, and the frame of two zero samples is stamped with 16. -/
theorem reported_format_f32 :
    captureStep silence ⟨.new, [], []⟩ (.openDevice (oneDevice .f32) 0#32 ⟨48000#32, 2#16, 16#16⟩) = some (opened .f32) ∧
      ¬ AsReported silence 0 (opened .f32) := by
  refine ⟨by decide, ?_⟩
  intro as_reported
  obtain ⟨reported, same, exactly⟩ := as_reported [.start, .input 0 (.f32 [0#32, 0#32]) 0#64, .nextFrame] _ rfl
    ⟨0, ⟨⟨[0, 0, 0, 0], ⟨48000#32, 2#16, 16#16⟩, 0#64, 0#64, 1#32⟩, 2, 16⟩, some ⟨48000#32, 2#16, 32#16⟩⟩
    (List.mem_singleton_self _) rfl
  cases same
  exact absurd exactly.format (by decide)

end StereoMix.Audio
