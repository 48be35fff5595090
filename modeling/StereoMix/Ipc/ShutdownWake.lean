import StereoMix.Ipc.Dispatcher

/-!
# The wake-up of a shutdown

`shutdown_with_timeout` loads the counter, may look at the clock, and only then makes the `Notified` future that
`notify_waiters` would wake. A notification in between wakes nothing, and none follows. Where none comes there, a call
that waits has a notification ahead of it or behind it, and one that gives up has waited until its deadline.
-/

namespace StereoMix.Ipc

open EventSystem

/-- The call has read a counter above 0, and has not made its future yet, nor is past its deadline. -/
def ShutdownCall.deaf (c : ShutdownCall) (now : Nat) : Bool :=
  match c.pc with
  | .create _ => true
  | .clock => now < c.deadline.getD 0
  | _ => false

/-- No notification comes between a call's load of the counter and the making of its future. -/
def NotifiesHeard (d : Dispatcher) : DispatcherEvent → Prop
  | .task g (.notify _) => d.shutdownNotify = some g → ∀ c ∈ d.call, c.deaf d.now = false
  | _ => True

instance (d : Dispatcher) (e : DispatcherEvent) : Decidable (NotifiesHeard d e) := by
  unfold NotifiesHeard
  split <;> infer_instance

/-- A notification is still to come: a task is to count itself done, or the last one is about to notify. -/
def CaptureGraph.Pending (g : CaptureGraph) : Prop :=
  0 < g.active ∨ g.pipeline = .notifying ∨ g.encoder = .notifying ∨ g.stats = .notifying

/-- The generation whose handles the dispatcher has. -/
def Dispatcher.stored (d : Dispatcher) : Option Generation := d.activeTasks.bind fun g => d.generations[g]?

/-- No call waits for a notification that will not come; one without a timeout returns by its own steps once the tasks
are done; and one that gave up did not have them done before its deadline. -/
structure Dispatcher.ShutdownWakes (d : Dispatcher) : Prop where
  heard : ∀ (c : ShutdownCall) (timer : Option Nat), d.call = some c → c.method.isAsync = true →
    c.pc = .wait timer false → ∃ gen, d.stored = some gen ∧ gen.graph.Pending
  returns : ∀ (c : ShutdownCall) (gen : Generation), d.call = some c → c.method = .withTimeout none →
    d.stored = some gen → gen.graph.AllExited → ∃ t c', dispatcherSystem.Leads (· = .caller) d t ∧
      t.call = some c' ∧ c'.pc = .finish true
  timely : ∀ (c : ShutdownCall) (deadline time : Nat) (gen : Generation), d.call = some c → c.method.isAsync = true →
    c.pc = .finish false → c.deadline = some deadline → d.stored = some gen → gen.exitedAt = some time →
    deadline ≤ time

/-! ## Graphs that are done -/

/-- A task that counts itself done leaves the counter above 0, or is the last one and about to notify. -/
theorem CaptureGraph.counting {g : CaptureGraph} (counts : g.Counts)
    (behind : g.pipeline = .left ∨ g.encoder = .left ∨ g.stats = .left) : g.active = 1 ∨ 0 < g.active - 1 := by
  have active := counts.active
  rcases behind with there | there | there <;>
  · rw [there, CountedPc.uncounted_left] at active
    omega

/-- Only a notification ends that one is to come. -/
theorem CaptureGraph.Moves.pending {g g' : CaptureGraph} {e : TaskEvent} (moves : g.Moves e g') (counts : g.Counts)
    (before : g.Pending) (other : ∀ task, e ≠ .notify task) : g'.Pending := by
  unfold CaptureGraph.Pending at before ⊢
  cases moves with
  | pipelineNotifies | encoderNotifies | statsNotifies => exact absurd rfl (other _)
  | pipelineCounts there =>
    rcases CaptureGraph.counting counts (.inl there) with last | more
    · exact .inr (.inl (if_pos last))
    · exact .inl more
  | encoderCounts there =>
    rcases CaptureGraph.counting counts (.inr (.inl there)) with last | more
    · exact .inr (.inr (.inl (if_pos last)))
    · exact .inl more
  | statsCounts there =>
    rcases CaptureGraph.counting counts (.inr (.inr there)) with last | more
    · exact .inr (.inr (.inr (if_pos last)))
    · exact .inl more
  | packet | innerLooks | innerTakes | innerWakes | innerSends | innerRefused => exact before
  | opened there | started there | frame f there | ended there | failed there | pipelineTold there | stopped there
  | pipelineRefused there | pipelineSends there | encoderStarts there | encoderTold there | statsTold there =>
    rw [there] at before
    simpa using before

theorem CaptureGraph.Moves.allExited {g g' : CaptureGraph} {e : TaskEvent} (moves : g.Moves e g')
    (before : g.AllExited) : g'.AllExited := by
  obtain ⟨pipeline, encoder, stats⟩ := before
  cases moves with
  | packet | innerLooks | innerTakes | innerWakes | innerSends | innerRefused => exact ⟨pipeline, encoder, stats⟩
  | opened there | started there | frame f there | ended there | failed there | pipelineTold there | stopped there
  | pipelineRefused there | pipelineSends there | pipelineCounts there | pipelineNotifies there =>
    rw [pipeline] at there
    cases there
  | encoderStarts there | encoderTold there | encoderCounts there | encoderNotifies there =>
    rw [encoder] at there
    cases there
  | statsTold there | statsCounts there | statsNotifies there =>
    rw [stats] at there
    cases there

theorem CaptureGraph.Pending.not_allExited {g : CaptureGraph} (pending : g.Pending) (counts : g.Counts) :
    ¬ g.AllExited := by
  rintro ⟨pipeline, encoder, stats⟩
  have active := counts.active
  rw [pipeline, encoder, stats] at active
  rcases pending with some_active | last | last | last
  · exact absurd active (Nat.ne_of_gt some_active)
  · rw [pipeline] at last
    cases last
  · rw [encoder] at last
    cases last
  · rw [stats] at last
    cases last

/-- Where the record has a time, the counted tasks are done. -/
theorem allExited_of_exitedAt {d : Dispatcher} (reached : dispatcherSystem.Reachable d) {g : Nat} {gen : Generation}
    (there : d.generations[g]? = some gen) {time : Nat} (recorded : gen.exitedAt = some time) :
    gen.graph.AllExited := by
  have done : gen.exitedAt ≠ none → gen.graph.AllExited := by
    apply generations_invariant (P := fun gen => gen.exitedAt ≠ none → gen.graph.AllExited) _ _ _ _ _ reached there
    · exact fun some_time => absurd rfl some_time
    · exact fun gen here => here
    · exact fun gen here => here
    · exact fun gen here => here
    · intro gen e graph now here moved some_time
      unfold Generation.after at some_time
      dsimp only at some_time
      split at some_time
      · rename_i first
        exact first.2
      · exact (CaptureGraph.moves_of_step moved).allExited (here some_time)
  exact done (by simp [recorded])

/-! ## Calls that are sound -/

/-- A notification to the call is still to come. -/
def Dispatcher.Awaits (d : Dispatcher) : Prop := ∃ gen, d.stored = some gen ∧ gen.graph.Pending

/-- A deadline has passed, before which the tasks were not done. -/
def Dispatcher.Late (d : Dispatcher) (deadline : Nat) : Prop :=
  deadline ≤ d.now ∧ ∀ gen, d.stored = some gen → ∀ time, gen.exitedAt = some time → deadline ≤ time

/-- What is known of an async call where it is. -/
def ShutdownCall.Sound (c : ShutdownCall) (d : Dispatcher) : Prop :=
  match c.pc with
  | .check | .load | .recheck | .finish true => True
  | .deadline => d.activeTasks ≠ none
  | .clock => ∃ deadline, c.deadline = some deadline ∧ (d.Awaits ∨ d.Late deadline)
  | .create remaining => d.Awaits ∧ ∀ r ∈ remaining, ∃ deadline, c.deadline = some deadline ∧ deadline ≤ d.now + r
  | .wait timer notified => (notified = false → d.Awaits) ∧
      ∀ t ∈ timer, ∃ deadline, c.deadline = some deadline ∧ deadline ≤ t
  | .polling | .pollClock => False
  | .finish false => ∃ deadline, c.deadline = some deadline ∧ d.Late deadline

/-- A counter above 0 is that of a generation whose tasks are not done. -/
theorem stored_of_active {d : Dispatcher} (counted : 0 < d.active.getD 0) :
    ∃ gen, d.stored = some gen ∧ 0 < gen.graph.active := by
  have same : d.active = d.stored.map fun gen => gen.graph.active := rfl
  rw [same] at counted
  cases stored : d.stored with
  | none =>
    rw [stored] at counted
    cases counted
  | some gen =>
    rw [stored] at counted
    exact ⟨gen, rfl, counted⟩

theorem awaits_of_active {d : Dispatcher} (counted : 0 < d.active.getD 0) : d.Awaits := by
  obtain ⟨gen, stored, some_active⟩ := stored_of_active counted
  exact ⟨gen, stored, .inl some_active⟩

theorem getElem?_of_stored {d : Dispatcher} {gen : Generation} (stored : d.stored = some gen) :
    ∃ g, d.activeTasks = some g ∧ d.generations[g]? = some gen := Option.bind_eq_some_iff.1 stored

theorem activeTasks_of_active {d : Dispatcher} (counted : 0 < d.active.getD 0) : d.activeTasks ≠ none := by
  obtain ⟨gen, stored, -⟩ := stored_of_active counted
  obtain ⟨g, at_g, -⟩ := getElem?_of_stored stored
  rw [at_g]
  exact Option.some_ne_none g

/-- The loop of an async call awaits the notifier. -/
theorem ShutdownCall.loop_eq_load {c : ShutdownCall} {d : Dispatcher} (handles : d.Handles)
    (async : c.method.isAsync = true) (stored : d.activeTasks ≠ none) : c.loop d = .load := by
  unfold ShutdownCall.loop
  rw [if_pos]
  rw [handles.notify]
  exact ⟨async, Option.isSome_iff_ne_none.2 stored⟩

/-- While a notification is to come, the tasks are not done. -/
theorem exitedAt_of_awaits {d : Dispatcher} (reached : dispatcherSystem.Reachable d) {gen : Generation}
    (stored : d.stored = some gen) (pending : gen.graph.Pending) : gen.exitedAt = none := by
  obtain ⟨g, -, there⟩ := getElem?_of_stored stored
  by_contra some_time
  obtain ⟨time, recorded⟩ := Option.ne_none_iff_exists'.1 some_time
  exact pending.not_allExited (counts (graph_reachable reached there)) (allExited_of_exitedAt reached there recorded)

theorem late_of_awaits {d : Dispatcher} (reached : dispatcherSystem.Reachable d) (awaits : d.Awaits) {deadline : Nat}
    (passed : deadline ≤ d.now) : d.Late deadline := by
  obtain ⟨gen, stored, pending⟩ := awaits
  refine ⟨passed, ?_⟩
  intro gen' stored' time recorded
  rw [stored] at stored'
  cases stored'
  rw [exitedAt_of_awaits reached stored pending] at recorded
  cases recorded

theorem ShutdownCall.Sound.next {c c' : ShutdownCall} {d : Dispatcher} (reached : dispatcherSystem.Reachable d)
    (async : c.method.isAsync = true) (before : c.Sound d) (moves : c.Moves d c') : c'.Sound d := by
  unfold ShutdownCall.Sound at before
  cases moves with
  | done => trivial
  | begins _ counted => exact activeTasks_of_active counted
  | enters at_check counted =>
    have at_load := ShutdownCall.loop_eq_load (handles reached) async (activeTasks_of_active counted)
    unfold ShutdownCall.Sound
    rw [at_load]
    trivial
  | timed at_deadline =>
    rw [at_deadline] at before
    have at_load := ShutdownCall.loop_eq_load (handles reached) async before
    unfold ShutdownCall.Sound
    rw [at_load]
    trivial
  | looks at_load counted timed =>
    obtain ⟨deadline, same⟩ := Option.isSome_iff_exists.1 timed
    exact ⟨deadline, same, .inl (awaits_of_active counted)⟩
  | unbounded at_load counted => exact ⟨awaits_of_active counted, nofun⟩
  | late at_clock passed =>
    rw [at_clock] at before
    obtain ⟨deadline, same, awaits | late⟩ := before
    · rw [same] at passed
      exact ⟨deadline, same, late_of_awaits reached awaits passed⟩
    · exact ⟨deadline, same, late⟩
  | inTime at_clock ahead =>
    rw [at_clock] at before
    obtain ⟨deadline, same, known⟩ := before
    rw [same, Option.getD_some] at ahead
    refine ⟨?_, ?_⟩
    · rcases known with awaits | late
      · exact awaits
      · exact absurd late.1 (Nat.not_le_of_lt ahead)
    · rintro r ⟨⟩
      refine ⟨deadline, same, ?_⟩
      rw [same, Option.getD_some]
      omega
  | @created remaining at_create =>
    rw [at_create] at before
    refine ⟨fun _ => before.1, ?_⟩
    intro t timed
    obtain ⟨r, some_left, rfl⟩ := Option.map_eq_some_iff.1 timed
    exact before.2 r some_left
  | notified at_wait =>
    unfold ShutdownCall.Sound
    cases c.deadline <;> trivial
  | elapsed at_wait passed =>
    rw [at_wait] at before
    obtain ⟨deadline, same, in_time⟩ := before.2 _ rfl
    exact ⟨deadline, same, late_of_awaits reached (before.1 rfl) (in_time.trans passed)⟩
  | again => trivial
  | polls there | pollsLate there | sleeps there =>
    rw [there] at before
    exact before.elim

/-! ## Calls and tasks -/

section

variable {d t : Dispatcher} {g : Nat} {gen new : Generation}

/-- The stored generation after one at a place is changed. -/
theorem stored_set (there : d.generations[g]? = some gen) (tasks : t.activeTasks = d.activeTasks)
    (generations : t.generations = d.generations.set g new) :
    t.stored = if d.activeTasks = some g then some new else d.stored := by
  have inside := (List.getElem?_eq_some_iff.1 there).1
  unfold Dispatcher.stored
  rw [tasks, generations]
  cases stored : d.activeTasks with
  | none => rfl
  | some h =>
    rw [Option.bind_some, Option.bind_some]
    by_cases same : h = g
    · subst same
      rw [if_pos rfl, List.getElem?_set_self inside]
    · rw [if_neg (by simpa using same), List.getElem?_set_ne (Ne.symm same)]

theorem exitedAt_after {gen : Generation} {graph : CaptureGraph} {now time : Nat}
    (recorded : (gen.after graph now).exitedAt = some time) : gen.exitedAt = some time ∨ time = now := by
  unfold Generation.after at recorded
  dsimp only at recorded
  split at recorded
  · cases recorded
    exact .inr rfl
  · exact .inl recorded

/-- What is late remains so when tasks take steps. -/
theorem Dispatcher.Late.task {graph : CaptureGraph} {deadline : Nat} (before : d.Late deadline)
    (there : d.generations[g]? = some gen) (tasks : t.activeTasks = d.activeTasks) (now : t.now = d.now)
    (generations : t.generations = d.generations.set g (gen.after graph d.now)) : t.Late deadline := by
  refine ⟨now ▸ before.1, ?_⟩
  intro x stored time recorded
  rw [stored_set there tasks generations] at stored
  split at stored
  · rename_i here
    cases stored
    rcases exitedAt_after recorded with old | new
    · exact before.2 gen (by rw [Dispatcher.stored, here, Option.bind_some, there]) time old
    · exact new ▸ before.1
  · exact before.2 x stored time recorded

/-- A notification remains to come when tasks take other steps. -/
theorem Dispatcher.Awaits.task {e : TaskEvent} {graph : CaptureGraph} (reached : dispatcherSystem.Reachable d)
    (before : d.Awaits) (there : d.generations[g]? = some gen) (moved : gen.graph.step e = some graph)
    (other : d.activeTasks = some g → ∀ task, e ≠ .notify task) (tasks : t.activeTasks = d.activeTasks)
    (generations : t.generations = d.generations.set g (gen.after graph d.now)) : t.Awaits := by
  obtain ⟨x, stored, pending⟩ := before
  unfold Dispatcher.Awaits
  rw [stored_set there tasks generations]
  split
  · rename_i here
    rw [Dispatcher.stored, here, Option.bind_some, there] at stored
    cases stored
    have graph_counts := counts (graph_reachable reached there)
    exact ⟨_, rfl, (CaptureGraph.moves_of_step moved).pending graph_counts pending (other here)⟩
  · exact ⟨x, stored, pending⟩

/-- The call's place after a task's step that does not notify it. -/
theorem ShutdownCall.Sound.task {c : ShutdownCall} {e : TaskEvent} {graph : CaptureGraph}
    (reached : dispatcherSystem.Reachable d) (before : c.Sound d) (there : d.generations[g]? = some gen)
    (moved : gen.graph.step e = some graph) (other : d.activeTasks = some g → ∀ task, e ≠ .notify task)
    (tasks : t.activeTasks = d.activeTasks) (now : t.now = d.now)
    (generations : t.generations = d.generations.set g (gen.after graph d.now)) : c.Sound t := by
  have awaits (here : d.Awaits) : t.Awaits := here.task reached there moved other tasks generations
  have late {deadline : Nat} (here : d.Late deadline) : t.Late deadline := here.task there tasks now generations
  unfold ShutdownCall.Sound at before ⊢
  split at before
  · trivial
  · trivial
  · trivial
  · trivial
  · rw [tasks]
    exact before
  · obtain ⟨deadline, same, known⟩ := before
    exact ⟨deadline, same, known.imp awaits late⟩
  · rw [now]
    exact ⟨awaits before.1, before.2⟩
  · exact ⟨fun unwoken => awaits (before.1 unwoken), before.2⟩
  · exact before
  · exact before
  · obtain ⟨deadline, same, passed⟩ := before
    exact ⟨deadline, same, late passed⟩

/-- Its place after the notification, which it was to hear. -/
theorem ShutdownCall.Sound.woken {c : ShutdownCall} {graph : CaptureGraph} (reached : dispatcherSystem.Reachable d)
    (before : c.Sound d) (hears : c.deaf d.now = false) (there : d.generations[g]? = some gen)
    (tasks : t.activeTasks = d.activeTasks) (now : t.now = d.now)
    (generations : t.generations = d.generations.set g (gen.after graph d.now)) : c.woken.Sound t := by
  have late {deadline : Nat} (here : d.Late deadline) : t.Late deadline := here.task there tasks now generations
  unfold ShutdownCall.Sound at before
  unfold ShutdownCall.deaf at hears
  unfold ShutdownCall.woken
  split at before
  · simp_all [ShutdownCall.Sound]
  · simp_all [ShutdownCall.Sound]
  · simp_all [ShutdownCall.Sound]
  · simp_all [ShutdownCall.Sound]
  · simp_all [ShutdownCall.Sound]
  · rename_i at_clock
    rw [at_clock] at hears
    obtain ⟨deadline, same, known⟩ := before
    rw [same, Option.getD_some] at hears
    have passed : deadline ≤ d.now := Nat.le_of_not_lt (of_decide_eq_false hears)
    have past : d.Late deadline := known.elim (fun awaits => late_of_awaits reached awaits passed) id
    rw [at_clock]
    unfold ShutdownCall.Sound
    rw [at_clock]
    exact ⟨deadline, same, .inr (late past)⟩
  · rename_i at_create
    rw [at_create] at hears
    cases hears
  · rename_i at_wait
    rw [at_wait]
    exact ⟨nofun, before.2⟩
  · exact before.elim
  · exact before.elim
  · rename_i at_finish
    obtain ⟨deadline, same, passed⟩ := before
    rw [at_finish]
    unfold ShutdownCall.Sound
    rw [at_finish]
    exact ⟨deadline, same, late passed⟩

end

/-! ## The invariant -/

/-- An async call is sound, and has a deadline only if it has a timeout. -/
structure Dispatcher.CallSound (d : Dispatcher) : Prop where
  sound : ∀ c, d.call = some c → c.method.isAsync = true → c.Sound d
  timed : ∀ c, d.call = some c → c.deadline ≠ none → c.method.maxWait ≠ none

theorem ShutdownCall.Moves.timed_kept {c c' : ShutdownCall} {d : Dispatcher} (moves : c.Moves d c') :
    c'.method = c.method ∧ (c'.deadline = c.deadline ∨ c'.deadline = c.method.maxWait.map (d.now + ·)) := by
  cases moves with
  | timed => exact ⟨rfl, .inr rfl⟩
  | _ => exact ⟨rfl, .inl rfl⟩

theorem ShutdownCall.woken_kept (c : ShutdownCall) : c.woken.method = c.method ∧ c.woken.deadline = c.deadline := by
  unfold ShutdownCall.woken
  split <;> exact ⟨rfl, rfl⟩

theorem ShutdownCall.Sound.passed {c : ShutdownCall} {d : Dispatcher} (before : c.Sound d) (time : Nat) :
    c.Sound { d with now := d.now + time } := by
  have late {deadline : Nat} (here : d.Late deadline) : ({ d with now := d.now + time } : Dispatcher).Late deadline :=
    ⟨here.1.trans (Nat.le_add_right _ _), here.2⟩
  unfold ShutdownCall.Sound at before ⊢
  split at before
  · trivial
  · trivial
  · trivial
  · trivial
  · exact before
  · obtain ⟨deadline, same, known⟩ := before
    exact ⟨deadline, same, known.imp id late⟩
  · refine ⟨before.1, ?_⟩
    intro r some_left
    obtain ⟨deadline, same, in_time⟩ := before.2 r some_left
    refine ⟨deadline, same, ?_⟩
    change deadline ≤ d.now + time + r
    omega
  · exact before
  · exact before
  · exact before
  · obtain ⟨deadline, same, passed⟩ := before
    exact ⟨deadline, same, late passed⟩

theorem Dispatcher.CallSound.step {d t : Dispatcher} {e : DispatcherEvent} (reached : dispatcherSystem.Reachable d)
    (before : d.CallSound) (heard : NotifiesHeard d e) (moves : d.Moves e t) : t.CallSound := by
  have uncalled {t : Dispatcher} (free : t.call = none) : t.CallSound := by
    constructor <;>
    · intro c calls
      rw [free] at calls
      cases calls
  cases moves with
  | started free | stopped free | paused free | resumed free | told free | answered free => exact uncalled free
  | finished => exact uncalled rfl
  | called =>
    constructor
    · rintro c ⟨⟩ -
      trivial
    · rintro c ⟨⟩ timed
      exact absurd rfl timed
  | passed => exact ⟨fun c calls async => (before.sound c calls async).passed _, before.timed⟩
  | @caller c c' calls next =>
    have moved := ShutdownCall.moves_of_next next
    obtain ⟨method, deadline⟩ := moved.timed_kept
    constructor
    · rintro c'' ⟨⟩ async
      rw [method] at async
      have sound : c'.Sound d := (before.sound c calls async).next reached async moved
      exact sound
    · rintro c'' ⟨⟩ timed untimed
      rw [method] at untimed
      rcases deadline with same | same
      · exact before.timed c calls (same ▸ timed) untimed
      · rw [untimed] at same
        exact timed same
  | @task g e gen graph there alive moved =>
    by_cases hears : d.shutdownNotify = some g ∧ ∃ task, e = .notify task
    · obtain ⟨mine, task, rfl⟩ := hears
      have woken : d.callAfter g (.notify task) = d.call.map ShutdownCall.woken := if_pos mine
      have deaf := heard mine
      constructor
      · intro c calls async
        obtain ⟨c₀, called, same⟩ := Option.map_eq_some_iff.1 (woken.symm.trans calls)
        cases same
        rw [c₀.woken_kept.1] at async
        exact (before.sound c₀ called async).woken reached (deaf c₀ called) there rfl rfl rfl
      · intro c calls
        obtain ⟨c₀, called, same⟩ := Option.map_eq_some_iff.1 (woken.symm.trans calls)
        cases same
        rw [c₀.woken_kept.1, c₀.woken_kept.2]
        exact before.timed c₀ called
    · have kept : d.callAfter g e = d.call := by
        unfold Dispatcher.callAfter
        split
        · exact if_neg fun mine => hears ⟨mine, _, rfl⟩
        · rfl
      have other (mine : d.activeTasks = some g) (task : CountedTask) : e ≠ .notify task := by
        rintro rfl
        exact hears ⟨(handles reached).notify.trans mine, task, rfl⟩
      constructor
      · intro c calls async
        exact (before.sound c (kept.symm.trans calls) async).task reached there moved other rfl rfl rfl
      · exact fun c calls => before.timed c (kept.symm.trans calls)

/-! ## Returning -/

/-- A step of a call that is not at its end. -/
theorem leads_next {d : Dispatcher} {c c' : ShutdownCall} (calls : d.call = some c) (next : c.next d = some c') :
    dispatcherSystem.Leads (· = .caller) d { d with call := some c' } := by
  have step : dispatcherStep d .caller = some { d with call := some c' } := by
    unfold dispatcherStep Dispatcher.callerStep
    rw [calls]
    dsimp only
    split
    · rename_i completed at_finish
      rw [ShutdownCall.next, at_finish] at next
      cases next
    · rw [next]
      rfl
  have taken : dispatcherSystem.step d .caller = some { d with call := some c' } := step
  exact Leads.single (P := (· = DispatcherEvent.caller)) rfl taken

/-- A load of 0 is followed by the end. -/
theorem returns_of_load {d : Dispatcher} {c : ShutdownCall} (calls : d.call = some c) (zero : d.active.getD 0 = 0)
    (loads : c.pc = .check ∨ c.pc = .load ∨ c.pc = .recheck ∨ c.pc = .polling) :
    ∃ t c', dispatcherSystem.Leads (· = .caller) d t ∧ t.call = some c' ∧ c'.pc = .finish true := by
  have next : c.next d = some { c with pc := .finish true } := by
    rcases loads with at_pc | at_pc | at_pc | at_pc <;> simp [ShutdownCall.next, at_pc, zero]
  exact ⟨_, _, leads_next calls next, rfl, rfl⟩

/-- So is a step to the load of 0. -/
theorem returns_of_next {d : Dispatcher} {c c' : ShutdownCall} (calls : d.call = some c) (next : c.next d = some c')
    (at_load : c'.pc = .load) (zero : d.active.getD 0 = 0) :
    ∃ t c', dispatcherSystem.Leads (· = .caller) d t ∧ t.call = some c' ∧ c'.pc = .finish true := by
  obtain ⟨t, c'', leads, called, at_finish⟩ :=
    returns_of_load (d := { d with call := some c' }) rfl zero (.inr (.inl at_load))
  exact ⟨t, c'', (leads_next calls next).trans leads, called, at_finish⟩

/-- When the tasks are done, the counter is at 0 and no notification is to come. -/
theorem done_of_allExited {d : Dispatcher} {gen : Generation} (reached : dispatcherSystem.Reachable d)
    (stored : d.stored = some gen) (exited : gen.graph.AllExited) : d.active.getD 0 = 0 ∧ ¬ d.Awaits := by
  obtain ⟨g, -, there⟩ := getElem?_of_stored stored
  have graph_counts := counts (graph_reachable reached there)
  constructor
  · have none_left : gen.graph.active = 0 := by
      rw [graph_counts.active, exited.1, exited.2.1, exited.2.2]
      rfl
    have same : d.active = d.stored.map fun gen => gen.graph.active := rfl
    rw [same, stored]
    exact none_left
  · rintro ⟨gen', stored', pending⟩
    cases stored.symm.trans stored'
    exact pending.not_allExited graph_counts exited

/-- A sound call without a timeout returns from any of its places once no notification is to come. -/
theorem ShutdownCall.Sound.returns {d : Dispatcher} {c : ShutdownCall} (sound : c.Sound d)
    (reached : dispatcherSystem.Reachable d) (calls : d.call = some c) (method : c.method = .withTimeout none)
    (untimed : c.deadline = none) (zero : d.active.getD 0 = 0) (not_awaits : ¬ d.Awaits) :
    ∃ t c', dispatcherSystem.Leads (· = .caller) d t ∧ t.call = some c' ∧ c'.pc = .finish true := by
  unfold ShutdownCall.Sound at sound
  cases at_pc : c.pc with
  | check => exact returns_of_load calls zero (.inl at_pc)
  | load => exact returns_of_load calls zero (.inr (.inl at_pc))
  | recheck => exact returns_of_load calls zero (.inr (.inr (.inl at_pc)))
  | polling => exact returns_of_load calls zero (.inr (.inr (.inr at_pc)))
  | deadline =>
    rw [at_pc] at sound
    have async : c.method.isAsync = true := by rw [method]; rfl
    have at_load := ShutdownCall.loop_eq_load (handles reached) async sound
    have next : c.next d = some { c with pc := .load, deadline := none } := by
      simp [ShutdownCall.next, at_pc, at_load, method, ShutdownMethod.maxWait]
    exact returns_of_next calls next rfl zero
  | clock =>
    rw [at_pc] at sound
    obtain ⟨deadline, same, -⟩ := sound
    cases untimed.symm.trans same
  | create remaining =>
    rw [at_pc] at sound
    exact absurd sound.1 not_awaits
  | wait timer notified =>
    rw [at_pc] at sound
    cases notified with
    | false => exact absurd (sound.1 rfl) not_awaits
    | true =>
      have next : c.next d = some { c with pc := .load } := by
        simp [ShutdownCall.next, at_pc, untimed]
      exact returns_of_next calls next rfl zero
  | pollClock =>
    rw [at_pc] at sound
    exact sound.elim
  | finish completed =>
    cases completed with
    | true => exact ⟨d, c, .refl, calls, at_pc⟩
    | false =>
      rw [at_pc] at sound
      obtain ⟨deadline, same, -⟩ := sound
      cases untimed.symm.trans same

/-- **Shutdown never misses its wake-up, in the runs where no notification comes between a call's load and its
future.** -/
theorem shutdown_wakes {d : Dispatcher} (reached : dispatcherSystem.ReachableWhere NotifiesHeard d) :
    d.ShutdownWakes := by
  have call_sound : d.CallSound := by
    apply dispatcher_invariant _ _ reached
    · constructor
      · rintro c ⟨⟩
      · rintro c ⟨⟩
    · exact fun d e t reached before heard moves => before.step reached heard moves
  have reached := reached.reachable
  obtain ⟨sound, timed⟩ := call_sound
  constructor
  · intro c timer calls async at_wait
    have here := sound c calls async
    unfold ShutdownCall.Sound at here
    rw [at_wait] at here
    exact here.1 rfl
  · intro c gen calls method stored exited
    have async : c.method.isAsync = true := by rw [method]; rfl
    have untimed : c.deadline = none := by
      by_contra some_deadline
      exact timed c calls some_deadline (by rw [method]; rfl)
    obtain ⟨zero, not_awaits⟩ := done_of_allExited reached stored exited
    exact (sound c calls async).returns reached calls method untimed zero not_awaits
  · intro c deadline time gen calls async at_finish same stored recorded
    have here := sound c calls async
    unfold ShutdownCall.Sound at here
    rw [at_finish] at here
    obtain ⟨deadline', same', late⟩ := here
    cases same.symm.trans same'
    exact late.2 gen stored time recorded

/-- A call of `shutdown` waits when the tasks end. -/
def waitsThenEnds : List DispatcherEvent :=
  [.send (.startRecording none), .call (.withTimeout none), .caller, .caller, .caller] ++ tasksEnd 0

theorem shutdown_wakes_waiting : ∃ d, dispatcherSystem.run .new waitsThenEnds = some d ∧
    d.call = some ⟨.withTimeout none, .wait none true, none⟩ ∧ d.ShutdownWakes :=
  ⟨_, rfl, rfl, shutdown_wakes ⟨_, waitsThenEnds, rfl, by decide +kernel, rfl⟩⟩

/-- The tasks end after the load and before the future is made: `shutdown` waits for ever, and a call with a timeout
gives up, though they were done at time 0. -/
theorem shutdown_misses_wake :
    (∃ d, dispatcherSystem.run .new ([.send (.startRecording none), .call (.withTimeout none), .caller, .caller] ++
      tasksEnd 0 ++ [.caller]) = some d ∧ d.call = some ⟨.withTimeout none, .wait none false, none⟩ ∧
        ¬ d.ShutdownWakes) ∧
      ∃ d, dispatcherSystem.run .new ([.send (.startRecording none), .call (.withTimeout (some 100)), .caller, .caller,
        .caller, .caller] ++ tasksEnd 0 ++ [.caller, .pass 100, .caller]) = some d ∧
          d.call = some ⟨.withTimeout (some 100), .finish false, some 100⟩ ∧ ¬ d.ShutdownWakes := by
  refine ⟨⟨_, rfl, rfl, ?_⟩, _, rfl, rfl, ?_⟩
  · intro wakes
    obtain ⟨gen, stored, pending⟩ := wakes.heard _ none rfl rfl rfl
    cases stored
    rcases pending with some_active | last | last | last
    · exact absurd some_active (by decide)
    · cases last
    · cases last
    · cases last
  · intro wakes
    exact absurd (wakes.timely _ 100 0 _ rfl rfl rfl rfl rfl rfl) (by decide)

end StereoMix.Ipc
