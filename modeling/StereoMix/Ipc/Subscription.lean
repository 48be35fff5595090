import StereoMix.Ipc.Server
import StereoMix.Lib.Broadcast

/-!
# Serving a telemetry subscription

What `handle_connection_unix` does for a line that came to a subscription, while other connections emit: it writes the
ack line, then subscribes, then receives and writes events until a write or a receive fails. An event that is emitted
between the ack and the subscription is sent to nobody here, so the client misses it, and no later one.
-/

namespace StereoMix.Ipc

open EventSystem Broadcast

/-! ## The handler -/

abbrev TelemetryReceiver : Type := Receiver String 32

/-- Where the handler is. From `recv` on it has its receiver; `message` and `newline` are the two writes of an event. -/
inductive SubscriptionPc where
  | ack (line : Json)
  | ackNewline
  | subscribe
  | recv (rx : TelemetryReceiver)
  | message (rx : TelemetryReceiver) (msg : String)
  | newline (rx : TelemetryReceiver) (msg : String)
  | ended

/-- The handler among the emitters; `emitted` is the record of the events since it began to serve, `acked` of how many
there were when the ack line was written, and `written` of those that were written to the client. -/
structure Subscription where
  pc : SubscriptionPc
  emitted : List String
  acked : Option Nat
  written : List String

/-- A subscription whose ack is to be written. -/
def Subscription.serving (line : Json) : Subscription := ⟨.ack line, [], none, []⟩

/-- What can happen: someone emits an event, the client's socket answers a write, the handler subscribes or receives. -/
inductive SubscriptionEvent where
  | emit (json : String)
  | write (accepted : Bool)
  | subscribe
  | recv

/-- `emit_raw`, as the handler's receiver sees it. -/
def SubscriptionPc.sent (json : String) : SubscriptionPc → SubscriptionPc
  | .recv rx => .recv (rx.sent json)
  | .message rx msg => .message (rx.sent json) msg
  | .newline rx msg => .newline (rx.sent json) msg
  | pc => pc

/-- A write that the socket accepts. -/
def Subscription.wrote (s : Subscription) : Option Subscription :=
  match s.pc with
  | .ack _ => some { s with pc := .ackNewline }
  | .ackNewline => some { s with pc := .subscribe, acked := some s.emitted.length }
  | .message rx msg => some { s with pc := .newline rx msg }
  | .newline rx msg => some { s with pc := .recv rx, written := s.written ++ [msg] }
  | _ => none

def subscriptionStep (s : Subscription) : SubscriptionEvent → Option Subscription
  | .emit json => some { s with pc := s.pc.sent json, emitted := s.emitted ++ [json] }
  | .write accepted => s.wrote.map fun t => if accepted then t else { s with pc := .ended }
  | .subscribe =>
    match s.pc with
    | .subscribe => some { s with pc := .recv .subscribe }
    | _ => none
  | .recv =>
    match s.pc with
    | .recv rx =>
      match rx.recv with
      | none => none
      | some (.ok msg, rx') => some { s with pc := .message rx' msg }
      | some (.error _, _) => some { s with pc := .ended }
    | _ => none

/-- The subscriptions that a line on a connection came to. -/
def subscriptionSystem (serde : SerdeJson) : EventSystem Subscription SubscriptionEvent where
  init s := ∃ d r text d' line, handleLine serde d r text = (d', .subscribed line) ∧ s = .serving line
  step := subscriptionStep

/-! ## What one step does -/

/-- The steps of a subscription, with what they leave. -/
inductive Subscription.Moves (s : Subscription) : SubscriptionEvent → Subscription → Prop where
  | emitted {json : String} : s.Moves (.emit json) { s with pc := s.pc.sent json, emitted := s.emitted ++ [json] }
  | wroteAck {line : Json} (at_ack : s.pc = .ack line) : s.Moves (.write true) { s with pc := .ackNewline }
  | acked (at_newline : s.pc = .ackNewline) :
      s.Moves (.write true) { s with pc := .subscribe, acked := some s.emitted.length }
  | wroteMessage {rx : TelemetryReceiver} {msg : String} (at_message : s.pc = .message rx msg) :
      s.Moves (.write true) { s with pc := .newline rx msg }
  | wrote {rx : TelemetryReceiver} {msg : String} (at_newline : s.pc = .newline rx msg) :
      s.Moves (.write true) { s with pc := .recv rx, written := s.written ++ [msg] }
  | refused : s.Moves (.write false) { s with pc := .ended }
  | subscribed (at_subscribe : s.pc = .subscribe) : s.Moves .subscribe { s with pc := .recv .subscribe }
  | received {rx rx' : TelemetryReceiver} {msg : String} (at_recv : s.pc = .recv rx)
      (recv : rx.recv = some (.ok msg, rx')) : s.Moves .recv { s with pc := .message rx' msg }
  | lagged {rx rx' : TelemetryReceiver} {missed : Nat} (at_recv : s.pc = .recv rx)
      (recv : rx.recv = some (.error missed, rx')) : s.Moves .recv { s with pc := .ended }

theorem Subscription.moves_of_step {s t : Subscription} {e : SubscriptionEvent}
    (step : subscriptionStep s e = some t) : s.Moves e t := by
  cases e with
  | emit json =>
    cases step
    exact .emitted
  | write accepted =>
    obtain ⟨u, wrote, same⟩ := Option.map_eq_some_iff.1 step
    cases accepted with
    | false =>
      cases same
      exact .refused
    | true =>
      cases same
      unfold Subscription.wrote at wrote
      split at wrote
      · rename_i line at_ack
        cases wrote
        exact .wroteAck at_ack
      · rename_i at_newline
        cases wrote
        exact .acked at_newline
      · rename_i rx msg at_message
        cases wrote
        exact .wroteMessage at_message
      · rename_i rx msg at_newline
        cases wrote
        exact .wrote at_newline
      · cases wrote
  | subscribe =>
    unfold subscriptionStep at step
    dsimp only at step
    split at step
    · rename_i at_subscribe
      cases step
      exact .subscribed at_subscribe
    · cases step
  | recv =>
    unfold subscriptionStep at step
    dsimp only at step
    split at step
    · rename_i rx at_recv
      split at step
      · cases step
      · rename_i msg rx' recv
        cases step
        exact .received at_recv recv
      · rename_i missed rx' recv
        cases step
        exact .lagged at_recv recv
    · cases step

/-! ## What the client gets -/

/-- The handler's receiver. -/
def SubscriptionPc.rx : SubscriptionPc → Option TelemetryReceiver
  | .recv rx | .message rx _ | .newline rx _ => some rx
  | _ => none

/-- The events that the receiver was sent, those it has passed, and those it has yet to receive. -/
def SubscriptionPc.since (pc : SubscriptionPc) : List String := (pc.rx.map Receiver.since).getD []

def SubscriptionPc.passed (pc : SubscriptionPc) : List String := (pc.rx.map Receiver.passed).getD []

def SubscriptionPc.outstanding (pc : SubscriptionPc) : List String := (pc.rx.map Receiver.outstanding).getD []

/-- The event that is being written. -/
def SubscriptionPc.inHand : SubscriptionPc → List String
  | .message _ msg | .newline _ msg => [msg]
  | _ => []

/-- The client is served well: its socket accepts the writes, and no more than 32 events are outstanding for it. -/
def Served (s : Subscription) : SubscriptionEvent → Prop
  | .emit _ => s.pc.outstanding.length < 32
  | .write accepted => accepted = true
  | .subscribe | .recv => True

/-- A step of the handler, with its write accepted. -/
def SubscriptionEvent.serves : SubscriptionEvent → Prop
  | .emit _ => False
  | .write accepted => accepted = true
  | .subscribe | .recv => True

/-- What was written is, in order and once, what was emitted since the ack line was written, and the handler goes on to
write all of it. -/
def Subscription.GapFree (serde : SerdeJson) (s : Subscription) : Prop :=
  ∀ n, s.acked = some n → s.written <+: s.emitted.drop n ∧ ∃ t,
    (subscriptionSystem serde).Leads SubscriptionEvent.serves s t ∧ t.emitted = s.emitted ∧
      t.written = s.emitted.drop n

/-- No event is emitted between the ack line and the subscription. -/
def NotBetween (s : Subscription) : SubscriptionEvent → Prop
  | .emit _ => s.pc ≠ .subscribe
  | _ => True

instance (pc : SubscriptionPc) : Decidable (pc ≠ .subscribe) :=
  match pc with
  | .subscribe => .isFalse fun other => other rfl
  | .ack _ | .ackNewline | .recv _ | .message _ _ | .newline _ _ | .ended => .isTrue nofun

instance (s : Subscription) (e : SubscriptionEvent) : Decidable (Served s e) := by
  cases e <;> unfold Served <;> infer_instance

instance (s : Subscription) (e : SubscriptionEvent) : Decidable (NotBetween s e) := by
  cases e <;> unfold NotBetween <;> infer_instance

/-- The handler's receiver was sent all that was emitted since the ack line was written. -/
def Subscription.SeesAll (s : Subscription) : Prop := ∀ n, s.acked = some n → s.pc.since = s.emitted.drop n

/-- What is so of a subscription that is served well. -/
structure Subscription.Tracks (s : Subscription) : Prop where
  acked : s.acked = none ↔ (∃ line, s.pc = .ack line) ∨ s.pc = .ackNewline
  since : ∀ n, s.acked = some n → n ≤ s.emitted.length ∧ s.pc.since <:+ s.emitted.drop n
  passed : s.pc.passed = s.written ++ s.pc.inHand
  within : s.pc.outstanding.length ≤ 32
  alive : s.pc ≠ .ended

namespace SubscriptionPc

variable {pc : SubscriptionPc}

theorem conserved (pc : SubscriptionPc) : pc.passed ++ pc.outstanding = pc.since := by
  unfold passed outstanding since
  cases pc.rx with
  | none => rfl
  | some rx => exact rx.conserved

theorem rx_sent (pc : SubscriptionPc) (json : String) : (pc.sent json).rx = pc.rx.map (·.sent json) := by
  cases pc <;> rfl

theorem inHand_sent (pc : SubscriptionPc) (json : String) : (pc.sent json).inHand = pc.inHand := by
  cases pc <;> rfl

theorem passed_sent (pc : SubscriptionPc) (json : String) : (pc.sent json).passed = pc.passed := by
  unfold passed
  rw [rx_sent]
  cases pc.rx <;> rfl

theorem since_sent {rx : TelemetryReceiver} (has : pc.rx = some rx) (json : String) :
    (pc.sent json).since = pc.since ++ [json] := by
  unfold since
  rw [rx_sent, has]
  rfl

theorem since_sent_none (has_not : pc.rx = none) (json : String) : (pc.sent json).since = [] := by
  unfold since
  rw [rx_sent, has_not]
  rfl

theorem length_outstanding_sent (pc : SubscriptionPc) (json : String) :
    (pc.sent json).outstanding.length ≤ pc.outstanding.length + 1 := by
  unfold outstanding
  rw [rx_sent]
  cases pc.rx with
  | none => exact Nat.zero_le _
  | some rx => exact List.length_append.le

end SubscriptionPc

namespace Subscription

variable {serde : SerdeJson} {s t : Subscription} {e : SubscriptionEvent}

/-- An emission by itself. -/
theorem Tracks.emitted (before : s.Tracks) (json : String) (room : s.pc.outstanding.length < 32) :
    Tracks { s with pc := s.pc.sent json, emitted := s.emitted ++ [json] } where
  acked := by
    refine before.acked.trans ?_
    dsimp only
    cases s.pc <;> simp [SubscriptionPc.sent]
  since n acked := by
    obtain ⟨long, suffix⟩ := before.since n acked
    dsimp only
    rw [List.length_append, List.drop_append_of_le_length long]
    refine ⟨Nat.le_add_right_of_le long, ?_⟩
    cases has : s.pc.rx with
    | none =>
      rw [SubscriptionPc.since_sent_none has]
      exact List.nil_suffix
    | some rx =>
      rw [SubscriptionPc.since_sent has]
      obtain ⟨lost, all⟩ := suffix
      exact ⟨lost, by rw [← all, List.append_assoc]⟩
  passed := by
    dsimp only
    rw [SubscriptionPc.passed_sent, SubscriptionPc.inHand_sent, before.passed]
  within := (SubscriptionPc.length_outstanding_sent s.pc json).trans room
  alive := by
    have alive := before.alive
    dsimp only
    cases pc : s.pc <;> simp [SubscriptionPc.sent]
    exact alive pc

theorem Tracks.step (before : s.Tracks) (served : Served s e) (moves : s.Moves e t) : t.Tracks := by
  cases moves with
  | emitted => exact before.emitted _ served
  | refused => cases served
  | wroteAck at_ack =>
    have none_yet := before.acked.2 (.inl ⟨_, at_ack⟩)
    have passed := before.passed
    rw [at_ack] at passed
    refine ⟨iff_of_true none_yet (.inr rfl), ?_, passed, Nat.zero_le _, nofun⟩
    intro n acked
    cases none_yet.symm.trans acked
  | acked at_newline =>
    have passed := before.passed
    rw [at_newline] at passed
    refine ⟨by simp, ?_, passed, Nat.zero_le _, nofun⟩
    rintro n ⟨⟩
    exact ⟨Nat.le_refl _, List.nil_suffix⟩
  | subscribed at_subscribe =>
    obtain ⟨acked, since, passed, within, -⟩ := before
    rw [at_subscribe] at acked since passed
    exact ⟨acked.trans (by simp), since, passed, Nat.zero_le _, nofun⟩
  | @received rx rx' msg at_recv recv =>
    obtain ⟨acked, since, passed, within, -⟩ := before
    rw [at_recv] at acked since passed within
    have receives := Receiver.receives recv
    refine ⟨acked.trans (by simp), ?_, ?_, ?_, nofun⟩
    · intro n here
      obtain ⟨long, suffix⟩ := since n here
      refine ⟨long, ?_⟩
      change rx'.since <:+ _
      rw [receives.since]
      exact suffix
    · refine receives.passed.trans ?_
      have before : _ = s.written := passed.trans (List.append_nil _)
      exact congrArg (· ++ _) before
    · change rx.outstanding.length ≤ 32 at within
      rw [receives.outstanding] at within
      exact Nat.le_of_succ_le within
  | lagged at_recv recv =>
    obtain ⟨msg, ok, -⟩ := Receiver.ok_of_within (by have within := before.within; rwa [at_recv] at within) recv
    cases ok
  | wroteMessage at_message =>
    obtain ⟨acked, since, passed, within, -⟩ := before
    rw [at_message] at acked since passed within
    exact ⟨acked.trans (by simp), since, passed, within, nofun⟩
  | wrote at_newline =>
    obtain ⟨acked, since, passed, within, -⟩ := before
    rw [at_newline] at acked since passed within
    exact ⟨acked.trans (by simp), since, passed.trans (List.append_nil _).symm, within, nofun⟩

/-- After the ack line the handler is to subscribe, or has its receiver. -/
theorem Tracks.subscribes (tracks : s.Tracks) {n : Nat} (acked : s.acked = some n) :
    s.pc = .subscribe ∨ ∃ rx, s.pc.rx = some rx := by
  have late : ¬ ((∃ line, s.pc = .ack line) ∨ s.pc = .ackNewline) := by
    rw [← tracks.acked, acked]
    exact Option.some_ne_none n
  have alive := tracks.alive
  cases pc : s.pc with
  | ack line => exact absurd (.inl ⟨line, pc⟩) late
  | ackNewline => exact absurd (.inr pc) late
  | subscribe => exact .inl rfl
  | recv rx | message rx | newline rx => exact .inr ⟨rx, rfl⟩
  | ended => exact absurd pc alive

/-- An emission is missed exactly if it comes before there is a receiver. -/
theorem Tracks.seesAll_emitted (tracks : s.Tracks) (json : String) :
    SeesAll { s with pc := s.pc.sent json, emitted := s.emitted ++ [json] } ↔ s.SeesAll ∧ s.pc ≠ .subscribe := by
  have known (n : Nat) (acked : s.acked = some n) : (s.emitted ++ [json]).drop n = s.emitted.drop n ++ [json] :=
    List.drop_append_of_le_length (tracks.since n acked).1
  unfold SeesAll
  dsimp only
  constructor
  · intro sees
    have no_gap : s.pc ≠ .subscribe := by
      intro at_subscribe
      have late : s.acked ≠ none := by
        rw [Ne, tracks.acked, at_subscribe]
        simp
      obtain ⟨n, acked⟩ := Option.ne_none_iff_exists'.1 late
      have missed := (sees n acked).trans (known n acked)
      rw [at_subscribe] at missed
      exact List.append_ne_nil_of_right_ne_nil _ (List.cons_ne_nil _ _) missed.symm
    refine ⟨?_, no_gap⟩
    intro n acked
    obtain ⟨rx, has⟩ := (tracks.subscribes acked).resolve_left no_gap
    have since := (sees n acked).trans (known n acked)
    rw [SubscriptionPc.since_sent has] at since
    exact List.append_cancel_right since
  · rintro ⟨sees, no_gap⟩ n acked
    obtain ⟨rx, has⟩ := (tracks.subscribes acked).resolve_left no_gap
    rw [SubscriptionPc.since_sent has, known n acked, sees n acked]

/-- A step keeps the handler's receiver to all that was emitted since the ack line exactly if it is no emission before
there is a receiver. -/
theorem seesAll_step (tracks : s.Tracks) (served : Served s e) (moves : s.Moves e t) :
    t.SeesAll ↔ s.SeesAll ∧ NotBetween s e := by
  cases moves with
  | emitted => exact tracks.seesAll_emitted _
  | refused => cases served
  | wroteAck at_ack =>
    have none_yet := tracks.acked.2 (.inl ⟨_, at_ack⟩)
    refine iff_of_true ?_ ⟨?_, trivial⟩ <;> intro n acked <;> cases none_yet.symm.trans acked
  | acked at_newline =>
    have none_yet := tracks.acked.2 (.inr at_newline)
    refine iff_of_true ?_ ⟨?_, trivial⟩
    · rintro n ⟨⟩
      exact (List.drop_length ..).symm
    · intro n acked
      cases none_yet.symm.trans acked
  | subscribed place | wroteMessage place | wrote place =>
    have since := congrArg SubscriptionPc.since place
    unfold SeesAll
    dsimp only
    rw [since]
    exact (and_iff_left trivial).symm
  | @received rx rx' msg place recv =>
    have since : s.pc.since = rx'.since := by
      rw [place, (Receiver.receives recv).since]
      rfl
    unfold SeesAll
    dsimp only
    rw [since]
    exact (and_iff_left trivial).symm
  | lagged place recv =>
    obtain ⟨msg, ok, -⟩ := Receiver.ok_of_within (by have within := tracks.within; rwa [place] at within) recv
    cases ok

/-! ## The handler goes on to write all it was sent -/

/-- From its receive, the handler writes what is outstanding. -/
theorem drains {rx : TelemetryReceiver} (at_recv : s.pc = .recv rx) (within : rx.outstanding.length ≤ 32) :
    ∃ t, (subscriptionSystem serde).Leads SubscriptionEvent.serves s t ∧ t.emitted = s.emitted ∧
      t.written = s.written ++ rx.outstanding := by
  generalize outstanding : rx.outstanding = left
  induction left generalizing s rx with
  | nil => exact ⟨s, .refl, rfl, (List.append_nil _).symm⟩
  | cons msg rest ih =>
    have recv := Receiver.recv_of_within outstanding within
    have left : (rx.pass 1).outstanding = rest := List.cons.inj ((Receiver.receives recv).outstanding.symm.trans
      outstanding) |>.2
    have received : subscriptionStep s .recv = some { s with pc := .message (rx.pass 1) msg } := by
      unfold subscriptionStep
      dsimp only
      rw [at_recv]
      dsimp only
      rw [recv]
    obtain ⟨t, leads, emitted, written⟩ := ih
      (s := { s with pc := .recv (rx.pass 1), written := s.written ++ [msg] }) rfl
      (by rw [left]; rw [outstanding] at within; exact Nat.le_of_succ_le within) left
    refine ⟨t, ?_, emitted, written.trans (List.append_assoc ..)⟩
    have first : (subscriptionSystem serde).Leads SubscriptionEvent.serves s _ := .single (e := .recv) trivial received
    have second := first.trans (.single (e := .write true) rfl rfl)
    exact (second.trans (.single (e := .write true) rfl rfl)).trans leads

/-- After the ack line the handler goes on to write all that its receiver was sent. -/
theorem Tracks.writes_all (tracks : s.Tracks) {n : Nat} (acked : s.acked = some n) :
    ∃ t, (subscriptionSystem serde).Leads SubscriptionEvent.serves s t ∧ t.emitted = s.emitted ∧
      t.written = s.pc.since := by
  rw [← s.pc.conserved, tracks.passed]
  have within := tracks.within
  cases pc : s.pc with
  | recv rx =>
    obtain ⟨t, leads, emitted, written⟩ := @drains serde s rx pc (by rwa [pc] at within)
    refine ⟨t, leads, emitted, written.trans ?_⟩
    rw [show SubscriptionPc.inHand (.recv rx) = [] from rfl, List.append_nil]
    rfl
  | message rx msg =>
    rw [pc] at within
    obtain ⟨t, leads, emitted, written⟩ := @drains serde
      { s with pc := .recv rx, written := s.written ++ [msg] } rx rfl within
    have wrote : subscriptionStep s (.write true) = some { s with pc := .newline rx msg } := by
      simp [subscriptionStep, Subscription.wrote, pc]
    have first : (subscriptionSystem serde).Leads SubscriptionEvent.serves s _ := .single (e := .write true) rfl wrote
    exact ⟨t, (first.trans (.single (e := .write true) rfl rfl)).trans leads, emitted, written⟩
  | newline rx msg =>
    rw [pc] at within
    obtain ⟨t, leads, emitted, written⟩ := @drains serde
      { s with pc := .recv rx, written := s.written ++ [msg] } rx rfl within
    have wrote : subscriptionStep s (.write true) = some { s with pc := .recv rx, written := s.written ++ [msg] } := by
      simp [subscriptionStep, Subscription.wrote, pc]
    exact ⟨t, Leads.trans (.single (e := .write true) rfl wrote) leads, emitted, written⟩
  | subscribe => exact ⟨s, .refl, rfl, by simp [SubscriptionPc.inHand, SubscriptionPc.outstanding, SubscriptionPc.rx]⟩
  | ack | ackNewline | ended =>
    have subscribes := tracks.subscribes acked
    rw [pc] at subscribes
    simp [SubscriptionPc.rx] at subscribes

/-- A handler's steps keep the count at the ack line. -/
theorem Tracks.acked_step (tracks : s.Tracks) {n : Nat} (acked : s.acked = some n) (moves : s.Moves e t) :
    t.acked = some n := by
  cases moves with
  | acked at_newline => cases (tracks.acked.2 (.inr at_newline)).symm.trans acked
  | _ => exact acked

/-- The client has no gap exactly if the receiver was sent all that was emitted since the ack line. -/
theorem Tracks.gapFree_iff (tracks : s.Tracks) : s.GapFree serde ↔ s.SeesAll := by
  constructor
  · intro free n acked
    obtain ⟨-, t, leads, emitted, written⟩ := free n acked
    have known : t.Tracks ∧ t.acked = some n ∧ (t.SeesAll ↔ s.SeesAll) := by
      refine leads.induction (I := fun u => u.Tracks ∧ u.acked = some n ∧ (u.SeesAll ↔ s.SeesAll)) ?_
        ⟨tracks, acked, Iff.rfl⟩
      rintro u e v ⟨tracks, acked, same⟩ serves step
      have moves := moves_of_step step
      have served : Served u e ∧ NotBetween u e := by
        cases e with
        | emit => exact serves.elim
        | _ => exact ⟨serves, trivial⟩
      exact ⟨tracks.step served.1 moves, tracks.acked_step acked moves,
        (seesAll_step tracks served.1 moves).trans ((and_iff_left served.2).trans same)⟩
    obtain ⟨tracks', acked', same⟩ := known
    refine same.1 ?_ n acked
    intro m here
    cases acked'.symm.trans here
    have all : t.written = t.emitted.drop n := by rw [written, emitted]
    have long : (t.emitted.drop n).length ≤ t.pc.since.length := by
      rw [← all, ← t.pc.conserved, tracks'.passed, List.length_append, List.length_append, Nat.add_assoc]
      exact Nat.le_add_right ..
    exact (tracks'.since n acked').2.eq_of_length_le long
  · intro sees n acked
    rw [← sees n acked]
    refine ⟨?_, tracks.writes_all acked⟩
    rw [← s.pc.conserved, tracks.passed, List.append_assoc]
    exact List.prefix_append ..

end Subscription

/-! ## Runs -/

theorem Subscription.tracks_serving (line : Json) : (Subscription.serving line).Tracks :=
  ⟨iff_of_true rfl (.inl ⟨line, rfl⟩), nofun, rfl, Nat.zero_le _, nofun⟩

/-- **A client that is served well misses nothing, exactly in the runs where no event is emitted between its ack line
and its subscription.** -/
theorem telemetry_gap_free {serde : SerdeJson} {start s : Subscription} {events : List SubscriptionEvent}
    (first : (subscriptionSystem serde).init start) (run : (subscriptionSystem serde).run start events = some s)
    (served : (subscriptionSystem serde).Meets Served start events) :
    s.GapFree serde ↔ (subscriptionSystem serde).Meets NotBetween start events := by
  obtain ⟨d, r, text, d', line, -, rfl⟩ := first
  have start := Subscription.tracks_serving line
  have sees_all : (Subscription.serving line).SeesAll := nofun
  have tracks : s.Tracks := run_induction (C := Served)
    (fun s e t tracks served step => tracks.step served (Subscription.moves_of_step step)) start served run
  have kept := run_iff_meets_where (C := NotBetween) (H := Served) (I := Subscription.SeesAll)
    (fun s e t tracks served step => Subscription.Tracks.step tracks served (Subscription.moves_of_step step))
    (fun s e t tracks served step => Subscription.seesAll_step tracks served (Subscription.moves_of_step step))
    start served run
  exact tracks.gapFree_iff.trans (kept.trans (and_iff_right sees_all))

/-- The ack of the subscription with id 1. -/
def subscribeAck : Json := (ResponseEnvelope.success "1").toJson

theorem subscribeAck_first :
    (subscriptionSystem (requestReader COMMANDS)).init (.serving subscribeAck) :=
  ⟨.new, ⟨0, 0, "0.0", "0.0", "0.0"⟩, request "subscribe_telemetry", .new, subscribeAck, rfl, rfl⟩

/-- Two events after the subscription, the first of them written. -/
theorem telemetry_gap_free_two : ∃ s, (subscriptionSystem (requestReader COMMANDS)).run (.serving subscribeAck)
    [.write true, .write true, .subscribe, .emit "a", .emit "b", .recv, .write true, .write true] = some s ∧
      s.written = ["a"] ∧ s.GapFree (requestReader COMMANDS) := by
  refine ⟨_, rfl, rfl, ?_⟩
  rw [@telemetry_gap_free _ _ _ [.write true, .write true, .subscribe, .emit "a", .emit "b", .recv, .write true,
    .write true] subscribeAck_first rfl (by decide)]
  decide

/-- An event right after the ack line is never written. -/
theorem telemetry_gap : ∃ s, (subscriptionSystem (requestReader COMMANDS)).run (.serving subscribeAck)
    [.write true, .write true, .emit "audio_started", .subscribe] = some s ∧
      (subscriptionSystem (requestReader COMMANDS)).Meets Served (.serving subscribeAck)
        [.write true, .write true, .emit "audio_started", .subscribe] ∧
      ¬ s.GapFree (requestReader COMMANDS) := by
  refine ⟨_, rfl, by decide, ?_⟩
  have tracks : Subscription.Tracks ⟨.recv .subscribe, ["audio_started"], some 0, []⟩ := by
    have ready := run_induction (S := subscriptionSystem (requestReader COMMANDS)) (C := Served)
      (fun s e t tracks served step => Subscription.Tracks.step tracks served (Subscription.moves_of_step step))
      (Subscription.tracks_serving subscribeAck)
      (show (subscriptionSystem (requestReader COMMANDS)).Meets Served (.serving subscribeAck)
        [.write true, .write true, .emit "audio_started", .subscribe] by decide) rfl
    exact ready
  exact fun free => nomatch (tracks.gapFree_iff.1 free) 0 rfl

end StereoMix.Ipc
