import StereoMix.Audio.Capture

/-!
# The numbers of captured frames

Every capture thread numbers its frames from 0, and its channel is read from its open on until the next one. So of every
open `next_frame` delivers the frames 0, 1, 2 and so on: none is missing, repeated or out of order, whatever the calls.
-/

namespace StereoMix.Audio

open EventSystem

/-- The numbers of the frames of open `id` that were delivered, then of those that are queued. -/
def CaptureState.deliveredNumbers (s : CaptureState) (id : Nat) : List (BitVec 64) :=
  (s.delivered.filter fun d => d.openId = id).map fun d => d.captured.frame.sequence

def Thread.queuedNumbers (th : Thread) : List (BitVec 64) := th.queue.map fun c => c.frame.sequence

def CaptureState.numbers (s : CaptureState) (id : Nat) : List (BitVec 64) :=
  s.deliveredNumbers id ++ (s.threads[id]?.map Thread.queuedNumbers).getD []

/-- The numbers 0 to `n - 1`, in their order, as a `u64` counts. -/
def upTo (n : Nat) : List (BitVec 64) := (List.range n).map (BitVec.ofNat 64)

@[simp] theorem length_upTo (n : Nat) : (upTo n).length = n := by simp [upTo]

theorem upTo_succ (n : Nat) : upTo (n + 1) = upTo n ++ [BitVec.ofNat 64 n] := by simp [upTo, List.range_succ]

/-- The front of such numbers is one of them. -/
theorem eq_upTo_of_append {front back : List (BitVec 64)} {n : Nat} (whole : front ++ back = upTo n) :
    front = upTo front.length := by
  have size := congrArg List.length whole
  rw [List.length_append, length_upTo] at size
  have first := congrArg (List.take front.length) whole
  rw [List.take_left] at first
  rw [first, upTo, upTo, ← List.map_take, List.take_range]
  simp

/-- Every open's numbers are consecutive from 0, and the thread whose channel is read goes on with the next. -/
structure CaptureState.Numbered (s : CaptureState) : Prop where
  consecutive : ∀ id, ∃ n, s.numbers id = upTo n
  next : ∀ id th, s.backend.rx = some id → s.threads[id]? = some th →
    th.seq = BitVec.ofNat 64 (s.numbers id).length
  opened : ∀ d ∈ s.delivered, d.openId < s.threads.length
  rx : ∀ id, s.backend.rx = some id → id < s.threads.length

/-- The counter that a thread keeps, and what is in its channel. -/
def Thread.counts (th : Thread) : BitVec 64 × List Captured := (th.seq, th.queue)

/-- A step that changes no channel and no counter. -/
theorem CaptureState.Numbered.aside {s t : CaptureState} (before : s.Numbered) (rx : t.backend.rx = s.backend.rx)
    (threads : t.threads.map Thread.counts = s.threads.map Thread.counts) (delivered : t.delivered = s.delivered) :
    t.Numbered := by
  have counts (id : Nat) : t.threads[id]?.map Thread.counts = s.threads[id]?.map Thread.counts := by
    rw [← List.getElem?_map, threads, List.getElem?_map]
  have size : t.threads.length = s.threads.length := by simpa using congrArg List.length threads
  have numbers (id : Nat) : t.numbers id = s.numbers id := by
    have queued := congrArg (Option.map fun p : BitVec 64 × List Captured => p.2.map fun c => c.frame.sequence) (counts id)
    rw [Option.map_map, Option.map_map] at queued
    rw [CaptureState.numbers, CaptureState.numbers, CaptureState.deliveredNumbers, delivered]
    exact congrArg (s.deliveredNumbers id ++ ·.getD []) queued
  refine ⟨fun id => numbers id ▸ before.consecutive id, ?_, ?_, ?_⟩
  · intro id th reads there
    have same := counts id
    rw [there, Option.map_some, eq_comm, Option.map_eq_some_iff] at same
    obtain ⟨th', there', same⟩ := same
    rw [← (Prod.mk.inj same).1, numbers]
    exact before.next id th' (rx ▸ reads) there'
  · rw [delivered, size]
    exact before.opened
  · rw [rx, size]
    exact before.rx

/-- A new thread starts at 0, and its channel is read. -/
theorem CaptureState.Numbered.added {s : CaptureState} {backend : WasapiBackend} {c : Capture} (before : s.Numbered)
    (rx : backend.rx = some s.threads.length) :
    CaptureState.Numbered { s with backend, threads := s.threads ++ [⟨c, false, false, 0#64, []⟩] } := by
  have numbers (id : Nat) : CaptureState.numbers
      { s with backend, threads := s.threads ++ [⟨c, false, false, 0#64, []⟩] } id = s.numbers id := by
    rw [CaptureState.numbers, CaptureState.numbers]
    refine congrArg (s.deliveredNumbers id ++ ·) ?_
    rcases Nat.lt_trichotomy id s.threads.length with below | rfl | above
    · rw [List.getElem?_append_left below]
    · rw [List.getElem?_concat_length, List.getElem?_eq_none (Nat.le_refl _)]
      rfl
    · rw [List.getElem?_eq_none (by rw [List.length_append, List.length_singleton]; omega), List.getElem?_eq_none above.le]
  have unopened : s.numbers s.threads.length = [] := by
    have none_delivered : s.delivered.filter (fun d => d.openId = s.threads.length) = [] := by
      rw [List.filter_eq_nil_iff]
      intro d member here
      have below := before.opened d member
      rw [decide_eq_true_eq] at here
      omega
    rw [CaptureState.numbers, CaptureState.deliveredNumbers, none_delivered, List.getElem?_eq_none (Nat.le_refl _)]
    rfl
  refine ⟨fun id => numbers id ▸ before.consecutive id, ?_, ?_, ?_⟩
  · intro id th reads there
    cases rx.symm.trans reads
    rw [List.getElem?_concat_length] at there
    cases there
    rw [numbers, unopened]
    rfl
  · intro d member
    rw [List.length_append]
    exact Nat.lt_add_right _ (before.opened d member)
  · intro id reads
    cases rx.symm.trans reads
    simp

variable {s : CaptureState} {id : Nat} {th : Thread}

/-- What is left of the numbers after the thread of one open, or the record of deliveries, is changed. -/
theorem numbers_set {s' : CaptureState} {th' : Thread} {delivered : List Delivery} (there : s.threads[id]? = some th)
    (threads : s'.threads = s.threads.set id th') (record : s'.delivered = s.delivered ++ delivered)
    (own : ∀ d ∈ delivered, d.openId = id) (other : Nat) :
    s'.numbers other = if other = id then
      s.deliveredNumbers id ++ (delivered.map fun d => d.captured.frame.sequence) ++ th'.queuedNumbers
    else s.numbers other := by
  have inside := (List.getElem?_eq_some_iff.1 there).1
  rw [CaptureState.numbers, CaptureState.deliveredNumbers, record, threads, List.filter_append, List.map_append]
  split
  · rename_i same
    subst same
    have all : delivered.filter (fun d => d.openId = other) = delivered := by
      rw [List.filter_eq_self]
      intro d member
      simpa using own d member
    rw [all, List.getElem?_set_self inside]
    rfl
  · rename_i apart
    have nothing : delivered.filter (fun d => d.openId = other) = [] := by
      rw [List.filter_eq_nil_iff]
      intro d member here
      rw [decide_eq_true_eq, own d member] at here
      exact apart here.symm
    rw [nothing, List.getElem?_set_ne (Ne.symm apart), List.map_nil, List.append_nil]
    rfl

theorem numbers_eq (there : s.threads[id]? = some th) : s.numbers id = s.deliveredNumbers id ++ th.queuedNumbers := by
  rw [CaptureState.numbers, there]
  rfl

/-- A delivery moves the front of a channel to the record. -/
theorem CaptureState.Numbered.delivers {s' : CaptureState} {c : Captured} {queue : List Captured}
    (before : s.Numbered) (there : s.threads[id]? = some th) (front : th.queue = c :: queue)
    (backend : s'.backend = s.backend) (threads : s'.threads = s.threads.set id { th with queue })
    (record : s'.delivered = s.delivered ++ [⟨id, c, s.backend.actualFormat⟩]) : s'.Numbered := by
  have inside := (List.getElem?_eq_some_iff.1 there).1
  have numbers (other : Nat) : s'.numbers other = s.numbers other := by
    rw [numbers_set there threads record (by simp)]
    split
    · rename_i same
      rw [same, numbers_eq there, Thread.queuedNumbers, Thread.queuedNumbers, front]
      simp
    · rfl
  refine ⟨fun other => numbers other ▸ before.consecutive other, ?_, ?_, ?_⟩
  · intro other th' reads there'
    rw [backend] at reads
    rw [numbers]
    rw [threads] at there'
    rcases Parts.of_set there there' with ⟨rfl, rfl⟩ | ⟨-, earlier⟩
    · exact before.next other th reads there
    · exact before.next other th' reads earlier
  · rw [threads, List.length_set, record]
    intro d member
    rcases List.mem_append.1 member with old | new
    · exact before.opened d old
    · rw [List.mem_singleton.1 new]
      exact inside
  · rw [threads, List.length_set, backend]
    exact before.rx

/-- A thread sends its next frame; it is queued if its channel is the one that is read. -/
theorem CaptureState.Numbered.sends {s' : CaptureState} {c : Captured} {received : Bool} (before : s.Numbered)
    (there : s.threads[id]? = some th) (number : c.frame.sequence = th.seq)
    (read : received = true ↔ s.backend.rx = some id) (backend : s'.backend = s.backend)
    (threads : s'.threads = s.threads.set id (th.send c received)) (record : s'.delivered = s.delivered) :
    s'.Numbered := by
  have numbers (other : Nat) : s'.numbers other =
      if other = id ∧ received = true then s.numbers id ++ [th.seq] else s.numbers other := by
    rw [numbers_set there threads (show s'.delivered = s.delivered ++ [] by rw [record, List.append_nil]) nofun]
    by_cases same : other = id
    · rw [if_pos same, same, numbers_eq there]
      cases received with
      | true => simp [Thread.queuedNumbers, Thread.send, number]
      | false => simp [Thread.queuedNumbers, Thread.send]
    · rw [if_neg same, if_neg fun both => same both.1]
  refine ⟨?_, ?_, ?_, ?_⟩
  · intro other
    rw [numbers]
    split
    · rename_i here
      obtain ⟨n, upto⟩ := before.consecutive id
      have next := before.next id th (read.1 here.2) there
      rw [upto, length_upTo] at next
      exact ⟨n + 1, by rw [upto, next, upTo_succ]⟩
    · exact before.consecutive other
  · intro other th' reads there'
    rw [backend] at reads
    rw [threads] at there'
    rcases Parts.of_set there there' with ⟨rfl, rfl⟩ | ⟨apart, earlier⟩
    · have next := before.next other th reads there
      rw [numbers, if_pos ⟨rfl, read.2 reads⟩, List.length_append, List.length_singleton, BitVec.ofNat_add, ← next]
      rfl
    · rw [numbers, if_neg fun both => apart both.1]
      exact before.next other th' reads earlier
  · rw [threads, List.length_set, record]
    exact before.opened
  · rw [threads, List.length_set, backend]
    exact before.rx

section

variable {F : Type} [Inhabited F] (f32ToI16 : F → BitVec 16)

/-- A frame carries the counter of its thread. -/
theorem Capture.capture_sequence {c : Capture} {input : Input F} {now seq : BitVec 64} {captured : Captured}
    (run : c.capture f32ToI16 input now seq = some captured) : captured.frame.sequence = seq := by
  unfold Capture.capture at run
  split at run <;> cases run <;> rfl

theorem CaptureState.Numbered.step {s t : CaptureState} {e : CaptureEvent F} (before : s.Numbered)
    (step : captureStep f32ToI16 s e = some t) : t.Numbered := by
  cases e with
  | openDevice host deviceIndex format =>
    cases step
    unfold CaptureState.openDevice
    split
    · rename_i e backend failed
      obtain ⟨name, rfl⟩ := openDevice_error failed
      exact before.aside rfl rfl rfl
    · rename_i c backend opened
      exact before.added (openDevice_ok opened).1
  | start =>
    cases step
    exact before.aside rfl rfl rfl
  | stop | close =>
    cases step
    unfold CaptureState.tell
    split
    · exact before.aside rfl rfl rfl
    · refine before.aside rfl ?_ rfl
      apply Parts.map_modify_same
      intro th
      rfl
  | nextFrame =>
    obtain ⟨⟨frame, after⟩, next, rfl⟩ := Option.map_eq_some_iff.1 step
    cases nextFrame_cases next with
    | nothing => exact before
    | frame rx thread front => exact before.delivers thread front rfl rfl rfl
  | input id data now =>
    unfold captureStep at step
    dsimp only at step
    split at step
    · cases step
    rename_i th thread
    split at step
    · cases step
    split at step
    · split at step
      · cases step
      rename_i c run
      have number := Capture.capture_sequence f32ToI16 run
      split at step
      · rename_i reads
        split at step
        · cases step
          exact before.sends thread number (iff_of_true rfl reads) rfl rfl rfl
        · cases step
      · rename_i elsewhere
        cases step
        have unread : false = true ↔ s.backend.rx = some id := iff_of_false Bool.false_ne_true elsewhere
        exact before.sends thread number unread rfl rfl rfl
    · cases step
  | ends id =>
    obtain ⟨th, thread, rfl⟩ := captureStep_ends f32ToI16 step
    exact before.aside rfl (Parts.map_set thread rfl) rfl

theorem numbered {s : CaptureState} (reached : (captureSystem f32ToI16).Reachable s) : s.Numbered := by
  refine invariant ?_ (fun s e t before step => before.step f32ToI16 step) reached
  rintro s rfl
  exact ⟨fun id => ⟨0, rfl⟩, nofun, nofun, nofun⟩

/-- **No captured frame is missing, repeated or out of order** between a capture thread and `next_frame`: of every open
the frames 0, 1, 2 and so on were delivered, in any run of calls, callbacks and ends of threads. -/
theorem delivered_in_sequence {s : CaptureState} (reached : (captureSystem f32ToI16).Reachable s) (id : Nat) :
    s.deliveredNumbers id = upTo (s.deliveredNumbers id).length := by
  obtain ⟨n, whole⟩ := (numbered f32ToI16 reached).consecutive id
  exact eq_upTo_of_append whole

end

/-- A device is opened and started, makes two frames, and both are read. -/
def twoFrames : List (CaptureEvent (BitVec 32)) :=
  [.openDevice (oneDevice .i16) 0#32 ⟨48000#32, 2#16, 16#16⟩, .start, .input 0 (.i16 [1#16, 2#16]) 0#64,
    .input 0 (.i16 [3#16, 4#16]) 0#64, .nextFrame, .nextFrame]

theorem delivered_in_sequence_two : ∃ s, (captureSystem silence).run ⟨.new, [], []⟩ twoFrames = some s ∧
    s.deliveredNumbers 0 = [0#64, 1#64] :=
  ⟨_, rfl, delivered_in_sequence silence ⟨_, twoFrames, rfl, rfl⟩ 0⟩

end StereoMix.Audio
