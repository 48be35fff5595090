import StereoMix.Audio.FailedOpen

/-!
# Stop and the open device

`stop` tells the capture thread to end and gives its channel up, as `close` does, and `start` only sets a flag. So a
device that is started after a stop is active over a thread that was told to end, and one that is started before any
open is active over none. A cpal device loses its stream, and with it the frames, without being told. What keeps the
contract is the monitor, started where the open still holds its stop channel.
-/

namespace StereoMix.Audio

open EventSystem

/-- The capture system and whether its device is open: opened, and not closed since. -/
structure DeviceState where
  capture : CaptureState
  isOpen : Bool
  deriving DecidableEq, Repr

/-- A capture of the monitor, not of a cpal device. -/
def Capture.isMonitor : Capture → Bool
  | .monitor .. => true
  | .stream .. => false

section

variable {F : Type} [Inhabited F] (f32ToI16 : F → BitVec 16)

/-- Whether the device is open after a call. -/
def DeviceState.openAfter (s : DeviceState) : CaptureEvent F → Bool
  | .openDevice host deviceIndex format =>
    match (s.capture.openDevice host deviceIndex format).1 with
    | .ok _ => true
    | .error _ => s.isOpen
  | .close => false
  | _ => s.isOpen

def deviceStep (s : DeviceState) (e : CaptureEvent F) : Option DeviceState :=
  (captureStep f32ToI16 s.capture e).map fun capture => ⟨capture, s.openAfter e⟩

/-- The backend with its capture threads and its device. -/
def deviceSystem : EventSystem DeviceState (CaptureEvent F) where
  init s := s = ⟨⟨.new, [], []⟩, false⟩
  step := deviceStep f32ToI16

/-- `next_frame` can still deliver a newly captured frame of open `id`: once the frames in the channel are read, the
thread can capture one, and the next call delivers it. -/
def CaptureState.Delivers (s : CaptureState) (id : Nat) : Prop :=
  ∃ th data now c t, s.threads[id]? = some th ∧ th.capture.capture f32ToI16 data now th.seq = some c ∧
    (captureSystem f32ToI16).run s (List.replicate th.queue.length .nextFrame ++ [.input id data now, .nextFrame]) =
      some t ∧ t.delivered.getLast? = some ⟨id, c, s.backend.actualFormat⟩

/-- An active backend was opened, and while its device is open the thread of the last open was not told to stop, and
`next_frame` can still deliver what it captures. -/
structure StaysOpen (s : DeviceState) : Prop where
  opened : s.capture.backend.active = true → s.capture.threads ≠ []
  untold : s.capture.backend.active = true → s.isOpen = true →
    ∃ thread, s.capture.threads.getLast? = some thread ∧ thread.told = false
  delivers : s.capture.backend.active = true → s.isOpen = true →
    s.capture.Delivers f32ToI16 (s.capture.threads.length - 1)

/-- Only the monitor is active: it is what is opened while the backend is active, and what a start finds open, with its
stop channel still held, or else a device was opened before and closed. And no read of a monitor fails that was not told
to stop and that the backend reads. -/
def KeepsOpen (s : DeviceState) : CaptureEvent F → Prop
  | .openDevice host deviceIndex format => s.capture.backend.active = true →
    (s.capture.openDevice host deviceIndex format).1.isOk = true → deviceIndex = MONITOR_DEVICE_INDEX
  | .start =>
    if s.isOpen = true then
      s.capture.backend.stopTx.isSome = true ∧
        ∃ th, s.capture.threads.getLast? = some th ∧ th.capture.isMonitor = true
    else s.capture.threads ≠ []
  | .ends id => ∀ th, s.capture.threads[id]? = some th → th.capture.isMonitor = true →
    th.told = true ∨ s.capture.backend.rx ≠ some id
  | _ => True

/-! ## One step -/

/-- What of a thread decides whether frames can come from it. -/
structure Mark where
  monitor : Bool
  told : Bool
  ended : Bool

def Thread.mark (th : Thread) : Mark := ⟨th.capture.isMonitor, th.told, th.ended⟩

def CaptureState.marks (s : CaptureState) : List Mark := s.threads.map Thread.mark

/-- What a step does to the calls' state: nothing, a successful open, a start, a stop or a close, the end of a
sender. -/
inductive Called (s : CaptureState) (e : CaptureEvent F) (t : CaptureState) : Prop where
  | quiet (active : t.backend.active = s.backend.active) (rx : t.backend.rx = s.backend.rx)
      (stopTx : t.backend.stopTx = s.backend.stopTx) (marks : t.marks = s.marks)
      (after : ∀ isOpen, DeviceState.openAfter ⟨s, isOpen⟩ e = isOpen)
  | opened {host : Host} {deviceIndex : BitVec 32} {format : PcmFormat} {c : Capture}
      (event : e = .openDevice host deviceIndex format) (ok : (s.openDevice host deviceIndex format).1.isOk = true)
      (monitor : deviceIndex = MONITOR_DEVICE_INDEX → c.isMonitor = true)
      (active : t.backend.active = s.backend.active) (rx : t.backend.rx = some s.marks.length)
      (stopTx : t.backend.stopTx = some s.marks.length) (marks : t.marks = s.marks ++ [⟨c.isMonitor, false, false⟩])
      (after : ∀ isOpen, DeviceState.openAfter ⟨s, isOpen⟩ e = true)
  | started (event : e = .start) (state : t = { s with backend := s.backend.start })
  | stopped (active : t.backend.active = false) (stopTx : t.backend.stopTx = none)
  | ended {id : Nat} {th : Thread} (event : e = .ends id) (backend : t.backend = s.backend)
      (thread : s.threads[id]? = some th) (marks : t.marks = s.marks.set id ⟨th.capture.isMonitor, th.told, true⟩)

theorem marks_set {s : CaptureState} {id : Nat} {th th' : Thread} (there : s.threads[id]? = some th)
    (same : th'.mark = th.mark) : (s.threads.set id th').map Thread.mark = s.marks :=
  Parts.map_set there same

theorem marks_eq_nil {s : CaptureState} : s.marks = [] ↔ s.threads = [] := List.map_eq_nil_iff

theorem length_marks (s : CaptureState) : s.marks.length = s.threads.length := List.length_map ..

/-- A successful open takes the place behind the threads for its channels, and does not start; the monitor's is of the
monitor. -/
theorem openDevice_ok_stopTx {host : Host} {deviceIndex : BitVec 32} {format : PcmFormat} {id : Nat}
    {b b' : WasapiBackend} {c : Capture} (opened : b.openDevice host deviceIndex format id = (.ok c, b')) :
    b'.stopTx = some id ∧ b'.active = b.active ∧ (deviceIndex = MONITOR_DEVICE_INDEX → c.isMonitor = true) := by
  have opens := opens_openDevice host deviceIndex format id b
  rw [opened] at opens
  cases opens with
  | monitor index spawned =>
    obtain ⟨-, -, rfl⟩ := spawnMonitorCapture_ok spawned
    exact ⟨rfl, rfl, fun _ => rfl⟩
  | stream index listed there supported negotiated => exact ⟨rfl, rfl, fun monitor => absurd monitor index⟩

theorem called_of_captureStep {s t : CaptureState} {e : CaptureEvent F} (step : captureStep f32ToI16 s e = some t) :
    Called s e t := by
  cases e with
  | openDevice host deviceIndex format =>
    cases step
    cases answer : s.backend.openDevice host deviceIndex format s.threads.length with
    | mk outcome backend =>
      cases outcome with
      | error e =>
        obtain ⟨name, rfl⟩ := openDevice_error answer
        have same : s.openDevice host deviceIndex format =
            (.error e, { s with backend := { s.backend with deviceName := name } }) := by
          rw [CaptureState.openDevice, answer]
        rw [same]
        refine .quiet rfl rfl rfl rfl fun isOpen => ?_
        rw [DeviceState.openAfter, same]
      | ok c =>
        obtain ⟨stopTx, active, monitor⟩ := openDevice_ok_stopTx answer
        obtain ⟨rx, -⟩ := openDevice_ok answer
        have same : s.openDevice host deviceIndex format =
            (.ok (), { s with backend, threads := s.threads ++ [⟨c, false, false, 0#64, []⟩] }) := by
          rw [CaptureState.openDevice, answer]
        rw [← length_marks] at stopTx rx
        rw [same]
        refine .opened rfl (by rw [same]; rfl) monitor active rx stopTx ?_ fun isOpen => ?_
        · rw [CaptureState.marks, List.map_append]
          rfl
        · rw [DeviceState.openAfter, same]
  | start =>
    cases step
    exact .started rfl rfl
  | stop | close =>
    cases step
    refine .stopped ?_ ?_ <;> unfold CaptureState.tell <;> split <;> rfl
  | nextFrame =>
    obtain ⟨⟨frame, after⟩, next, rfl⟩ := Option.map_eq_some_iff.1 step
    cases nextFrame_cases next with
    | nothing => exact .quiet rfl rfl rfl rfl fun _ => rfl
    | frame rx thread front => exact .quiet rfl rfl rfl (marks_set thread rfl) fun _ => rfl
  | input id data now =>
    obtain ⟨th, c, received, thread, takes, run, rfl⟩ := captureStep_input f32ToI16 step
    exact .quiet rfl rfl rfl (marks_set thread rfl) fun _ => rfl
  | ends id =>
    obtain ⟨th, thread, rfl⟩ := captureStep_ends f32ToI16 step
    exact .ended rfl rfl thread List.map_set

/-- A stop channel that is held is that of the open device's thread, which the backend reads, was not told to stop,
and still has its sender if it is a monitor's; and an active open device holds the stop channel of a monitor. -/
structure Kept (s : DeviceState) : Prop where
  opened : s.capture.backend.active = true → s.capture.marks ≠ []
  held : ∀ id, s.capture.backend.stopTx = some id → s.capture.backend.rx = some id ∧ id + 1 = s.capture.marks.length ∧
    ∃ m, s.capture.marks[id]? = some m ∧ m.told = false ∧ (m.monitor = true → m.ended = false)
  monitor : s.capture.backend.active = true → s.isOpen = true →
    ∃ id m, s.capture.backend.stopTx = some id ∧ s.capture.marks[id]? = some m ∧ m.monitor = true

theorem Kept.step {s t : DeviceState} {e : CaptureEvent F} (before : Kept s) (keeps : KeepsOpen s e)
    (step : deviceStep f32ToI16 s e = some t) : Kept t := by
  obtain ⟨opened, held, monitor⟩ := before
  obtain ⟨capture, called, rfl⟩ := Option.map_eq_some_iff.1 step
  cases called_of_captureStep f32ToI16 called with
  | quiet active rx stopTx marks after =>
    have same : s.openAfter e = s.isOpen := after s.isOpen
    constructor <;> dsimp only
    · rw [active, marks]
      exact opened
    · rw [stopTx, rx, marks]
      exact held
    · rw [active, same, stopTx, marks]
      exact monitor
  | opened event ok of_monitor active rx stopTx marks after =>
    subst event
    refine ⟨fun _ => by simp [marks], fun id holds => ?_, fun now _ => ?_⟩ <;> dsimp only at *
    · rw [stopTx, Option.some.injEq] at holds
      subst holds
      have last : s.capture.marks.length + 1 = capture.marks.length := by
        rw [marks, List.length_append]
        rfl
      exact ⟨rx, last, _, by rw [marks, List.getElem?_concat_length], rfl, fun _ => rfl⟩
    · refine ⟨_, _, stopTx, by rw [marks, List.getElem?_concat_length], of_monitor (keeps (active ▸ now) ok)⟩
  | started event state =>
    subst event state
    refine ⟨fun _ => ?_, held, fun _ is_open => ?_⟩
    · by_cases is_open : s.isOpen = true
      · obtain ⟨id, holds⟩ := Option.isSome_iff_exists.1 ((if_pos is_open).mp keeps).1
        obtain ⟨-, last, -⟩ := held id holds
        exact List.ne_nil_of_length_eq_add_one last.symm
      · exact fun empty => (if_neg is_open).mp keeps (marks_eq_nil.1 empty)
    · have is_open : s.isOpen = true := is_open
      obtain ⟨holds, th, there, of_monitor⟩ := (if_pos is_open).mp keeps
      obtain ⟨id, holds⟩ := Option.isSome_iff_exists.1 holds
      obtain ⟨-, last, -⟩ := held id holds
      rw [length_marks] at last
      rw [List.getLast?_eq_getElem?, ← last, Nat.add_sub_cancel] at there
      refine ⟨id, th.mark, holds, ?_, of_monitor⟩
      rw [CaptureState.marks, List.getElem?_map, there, Option.map_some]
  | stopped active stopTx =>
    refine ⟨fun now => ?_, fun id holds => ?_, fun now => ?_⟩ <;> dsimp only at *
    · rw [active] at now
      cases now
    · rw [stopTx] at holds
      cases holds
    · rw [active] at now
      cases now
  | @ended id th event backend thread marks =>
    subst event
    -- The sender that is gone is not that of a monitor whose stop channel is held.
    have elsewhere (id' : Nat) (m : Mark) (holds : s.capture.backend.stopTx = some id')
        (there : s.capture.marks[id']? = some m) (of_monitor : m.monitor = true) : id ≠ id' := by
      rintro rfl
      obtain ⟨reads, -, m', there', untold, -⟩ := held id holds
      rw [CaptureState.marks, List.getElem?_map, thread] at there there'
      cases there
      cases there'
      obtain told | unread := keeps th thread of_monitor
      · exact Bool.false_ne_true (untold.symm.trans told)
      · exact unread reads
    refine ⟨fun now => ?_, fun id' holds => ?_, fun now is_open => ?_⟩ <;> dsimp only at *
    · rw [marks]
      intro empty
      rw [backend] at now
      exact opened now ((List.set_eq_nil_iff _ _).1 empty)
    · rw [backend] at holds
      obtain ⟨reads, last, m, there, untold, alive⟩ := held id' holds
      refine ⟨backend ▸ reads, by rw [marks, List.length_set]; exact last, ?_⟩
      by_cases here : id = id'
      · subst here
        have own : s.capture.marks[id]? = some th.mark := by
          rw [CaptureState.marks, List.getElem?_map, thread, Option.map_some]
        have inside := (List.getElem?_eq_some_iff.1 own).1
        cases own.symm.trans there
        refine ⟨⟨th.capture.isMonitor, th.told, true⟩, ?_, untold, fun of_monitor => ?_⟩
        · rw [marks, List.getElem?_set_self inside]
        · exact absurd rfl (elsewhere id th.mark holds own of_monitor)
      · exact ⟨m, by rw [marks, List.getElem?_set_ne here]; exact there, untold, alive⟩
    · rw [backend] at now
      obtain ⟨id', m, holds, there, of_monitor⟩ := monitor now is_open
      refine ⟨id', m, backend ▸ holds, ?_, of_monitor⟩
      rw [marks, List.getElem?_set_ne (elsewhere id' m holds there of_monitor)]
      exact there

/-! ## Delivering -/

/-- The call that reads a frame from the channel. -/
theorem captureStep_nextFrame {s : CaptureState} {id : Nat} {th : Thread} {c : Captured} {queue : List Captured}
    (active : s.backend.active = true) (rx : s.backend.rx = some id) (there : s.threads[id]? = some th)
    (front : th.queue = c :: queue) : captureStep f32ToI16 s .nextFrame = some { s with
      threads := s.threads.set id { th with queue }
      delivered := s.delivered ++ [⟨id, c, s.backend.actualFormat⟩] } := by
  simp [captureStep, CaptureState.nextFrame, active, rx, there, front]

/-- The callback or read whose frame goes into the channel that is read. -/
theorem captureStep_sends {s : CaptureState} {id : Nat} {th : Thread} {data : Input F} {now : BitVec 64} {c : Captured}
    (rx : s.backend.rx = some id) (there : s.threads[id]? = some th) (alive : th.ended = false)
    (takes : th.capture.Takes data) (run : th.capture.capture f32ToI16 data now th.seq = some c)
    (room : th.queue.length < FRAME_QUEUE) :
    captureStep f32ToI16 s (.input id data now) = some { s with threads := s.threads.set id (th.send c true) } := by
  simp [captureStep, there, alive, takes, run, rx, room]

/-- As many calls as there are frames in the channel empty it. -/
theorem drained {id : Nat} (queue : List Captured) {s : CaptureState} {th : Thread} (active : s.backend.active = true)
    (rx : s.backend.rx = some id) (there : s.threads[id]? = some th) (front : th.queue = queue) :
    ∃ t, (captureSystem f32ToI16).run s (List.replicate queue.length .nextFrame) = some t ∧ t.backend = s.backend ∧
      t.threads[id]? = some { th with queue := [] } := by
  induction queue generalizing s th with
  | nil => exact ⟨s, rfl, rfl, by rw [there, ← front]⟩
  | cons c queue ih =>
    have inside := (List.getElem?_eq_some_iff.1 there).1
    have step := captureStep_nextFrame f32ToI16 active rx there front
    obtain ⟨t, run, backend, empty⟩ := ih (s := { s with
      threads := s.threads.set id { th with queue }
      delivered := s.delivered ++ [⟨id, c, s.backend.actualFormat⟩] }) active rx (List.getElem?_set_self inside) rfl
    exact ⟨t, run_cons_eq_some.2 ⟨_, step, run⟩, backend, empty⟩

/-- A thread that has its sender delivers what it can capture to an active backend that reads its channel. -/
theorem delivers_of_capture {s : CaptureState} {id : Nat} {th : Thread} {data : Input F} {now : BitVec 64}
    {c : Captured}
    (active : s.backend.active = true) (rx : s.backend.rx = some id) (there : s.threads[id]? = some th)
    (alive : th.ended = false) (takes : th.capture.Takes data)
    (run : th.capture.capture f32ToI16 data now th.seq = some c) : s.Delivers f32ToI16 id := by
  obtain ⟨t, drains, backend, empty⟩ := drained f32ToI16 th.queue active rx there rfl
  have inside := (List.getElem?_eq_some_iff.1 empty).1
  have room : 0 < FRAME_QUEUE := by decide
  have sends := captureStep_sends f32ToI16 (backend ▸ rx) empty alive takes run room
  have front : (({ th with queue := [] } : Thread).send c true).queue = [c] := rfl
  have reads := captureStep_nextFrame f32ToI16
    (s := { t with threads := t.threads.set id (({ th with queue := [] } : Thread).send c true) }) (backend ▸ active)
    (backend ▸ rx) (List.getElem?_set_self inside) front
  have last : ∃ u, (captureSystem f32ToI16).run t [.input id data now, .nextFrame] = some u ∧
      u.delivered.getLast? = some ⟨id, c, s.backend.actualFormat⟩ := by
    refine ⟨_, run_cons_eq_some.2 ⟨_, sends, run_single reads⟩, ?_⟩
    rw [← backend]
    exact List.getLast?_concat
  obtain ⟨u, run_last, newest⟩ := last
  refine ⟨th, data, now, c, u, there, run, ?_, newest⟩
  rw [run_append, drains, Option.bind_some, run_last]

/-- A monitor can always read a chunk of silence. -/
theorem monitor_captures (th : Thread) (monitor : th.capture.isMonitor = true) : ∃ (data : Input F) (c : Captured),
    th.capture.Takes data ∧ th.capture.capture f32ToI16 data 0#64 th.seq = some c := by
  cases form : th.capture with
  | stream =>
    rw [form] at monitor
    cases monitor
  | monitor streamChannels format =>
    exact ⟨.chunk (List.replicate (framesPerChunk format.sampleRate * (format.channels.toNat * 2)) 0), _,
      List.length_replicate, rfl⟩

/-- **The device stays open where only the monitor is active**, and every start of an open device finds its stop
channel: in every state of such a run the thread of an active open device was not told to stop, and `next_frame` can
deliver what it captures. -/
theorem stays_open {s : DeviceState} (reached : (deviceSystem f32ToI16).ReachableWhere KeepsOpen s) :
    StaysOpen f32ToI16 s := by
  have kept : Kept s := by
    apply invariant_where _ _ reached
    · rintro _ rfl
      exact ⟨nofun, nofun, nofun⟩
    · exact fun s e t before keeps step => before.step f32ToI16 keeps step
  -- The thread of an active open device is the last one, a monitor's.
  have reading (active : s.capture.backend.active = true) (is_open : s.isOpen = true) :
      ∃ id th, s.capture.backend.rx = some id ∧ id + 1 = s.capture.threads.length ∧ s.capture.threads[id]? = some th ∧
        th.told = false ∧ th.capture.isMonitor = true ∧ th.ended = false := by
    obtain ⟨id, m, holds, there, monitor⟩ := kept.monitor active is_open
    obtain ⟨rx, last, m', there', untold, alive⟩ := kept.held id holds
    cases there.symm.trans there'
    rw [CaptureState.marks, List.getElem?_map] at there
    obtain ⟨th, at_id, rfl⟩ := Option.map_eq_some_iff.1 there
    rw [length_marks] at last
    exact ⟨id, th, rx, last, at_id, untold, monitor, alive monitor⟩
  refine ⟨fun active empty => kept.opened active (marks_eq_nil.2 empty), fun active is_open => ?_,
    fun active is_open => ?_⟩
  · obtain ⟨id, th, -, last, there, untold, -⟩ := reading active is_open
    refine ⟨th, ?_, untold⟩
    rw [List.getLast?_eq_getElem?, ← last, Nat.add_sub_cancel]
    exact there
  · obtain ⟨id, th, rx, last, there, -, monitor, alive⟩ := reading active is_open
    obtain ⟨data, c, takes, run⟩ := monitor_captures f32ToI16 th monitor
    rw [← last, Nat.add_sub_cancel]
    exact delivers_of_capture f32ToI16 active rx there alive takes run

end

/-- A host with a microphone and a sound server. -/
def monitorHost : Host := { micHost with openMonitor := .ok () }

/-- The monitor is opened, started, stopped, opened again and started, while its first thread ends. -/
def monitorAgain : List (CaptureEvent Unit) :=
  [.openDevice monitorHost MONITOR_DEVICE_INDEX ⟨48000#32, 2#16, 16#16⟩, .start, .stop, .ends 0,
    .openDevice monitorHost MONITOR_DEVICE_INDEX ⟨48000#32, 2#16, 16#16⟩, .start]

theorem stays_open_again : ∃ s, (deviceSystem fun _ : Unit => 0#16).run ⟨⟨.new, [], []⟩, false⟩ monitorAgain = some s ∧
    s.capture.backend.active = true ∧ s.isOpen = true ∧ StaysOpen (fun _ : Unit => 0#16) s := by
  refine ⟨_, rfl, rfl, rfl, stays_open (fun _ : Unit => 0#16) ⟨_, monitorAgain, rfl, ?_, rfl⟩⟩
  refine ⟨nofun, ?_⟩
  rintro _ ⟨⟩
  refine ⟨⟨rfl, _, rfl, rfl⟩, ?_⟩
  rintro _ ⟨⟩
  refine ⟨trivial, ?_⟩
  rintro _ ⟨⟩
  refine ⟨?_, ?_⟩
  · rintro th ⟨⟩ _
    exact .inl rfl
  rintro _ ⟨⟩
  refine ⟨nofun, ?_⟩
  rintro _ ⟨⟩
  refine ⟨⟨rfl, _, rfl, rfl⟩, ?_⟩
  rintro _ ⟨⟩
  trivial

/-- A microphone that is opened, started, stopped and started again. -/
def restarts : List (CaptureEvent Unit) := [.openDevice micHost 0#32 ⟨48000#32, 2#16, 16#16⟩, .start, .stop, .start]

/-- A microphone that is opened, whose stream is dropped, and that is started. -/
def dropped : List (CaptureEvent Unit) := [.openDevice micHost 0#32 ⟨48000#32, 2#16, 16#16⟩, .ends 0, .start]

/-- A device that is started again is active over a thread that was told to stop; a microphone is active over one that
was not, and `next_frame` answers that there is no frame; and a backend is active that was never opened. -/
theorem active_without_frames :
    (∃ s, (deviceSystem fun _ : Unit => 0#16).run ⟨⟨.new, [], []⟩, false⟩ restarts = some s ∧
      s.capture.threads.map Thread.told = [true] ∧ ¬ StaysOpen (fun _ : Unit => 0#16) s) ∧
    (∃ s, (deviceSystem fun _ : Unit => 0#16).run ⟨⟨.new, [], []⟩, false⟩ dropped = some s ∧
      s.capture.threads.map Thread.told = [false] ∧ s.capture.nextFrame = some (none, s.capture) ∧
      ¬ StaysOpen (fun _ : Unit => 0#16) s) ∧
    ∃ s, (deviceSystem fun _ : Unit => 0#16).run ⟨⟨.new, [], []⟩, false⟩ [.start] = some s ∧
      ¬ StaysOpen (fun _ : Unit => 0#16) s := by
  refine ⟨⟨_, rfl, rfl, fun stays => ?_⟩, ⟨_, rfl, rfl, rfl, fun stays => ?_⟩, ⟨_, rfl, fun stays => ?_⟩⟩
  · obtain ⟨thread, here, untold⟩ := stays.untold rfl rfl
    cases here
    cases untold
  · obtain ⟨th, data, now, c, t, there, -, run, -⟩ := stays.delivers rfl rfl
    cases there
    cases run
  · exact stays.opened rfl rfl

end StereoMix.Audio
