import StereoMix.Hrt.Client

/-!
# Staying down

One signal is one message, and the loop's receiver gets it once: in the session a receive of it only ends the session,
and the loop goes on to wait for another, and to connect again.
-/

namespace StereoMix.Hrt

open EventSystem Broadcast
open Ipc (SerdeJson)

/-- The session does not receive the signal. -/
def NotInSession (s : HrtClient) : HrtEvent → Prop
  | .told => s.pc ≠ .session
  | _ => True

instance (s : HrtClient) (e : HrtEvent) : Decidable (NotInSession s e) := by
  unfold NotInSession
  split <;> infer_instance

theorem notInSession_of_ne {s : HrtClient} {e : HrtEvent} (ne : e ≠ .told) : NotInSession s e := by
  unfold NotInSession
  split
  · exact absurd rfl ne
  · trivial

namespace HrtClient

/-- Once a receive has consumed the signal, there is no further attempt to connect, and the loop leaves. -/
def StaysDown (serde : SerdeJson) (s : HrtClient) : Prop :=
  ∀ n, s.consumed = some n → s.attempts = n ∧
    ∃ t, (hrtSystem serde).Leads (fun e => e.isLoop = true) s t ∧ t.pc = .left

/-- Once a receive has consumed the signal, the loop is left. -/
def Down (s : HrtClient) : Prop := ∀ n, s.consumed = some n → s.attempts = n ∧ s.pc = .left

/-- What is so of a client with one signal at most: the loop's receiver is sent it, and what it passed it consumed. -/
structure Signalled (s : HrtClient) : Prop where
  counted : s.shutdownRx.since.length = s.shutdowns
  consumed : s.shutdownRx.passed = [] ↔ s.consumed = none

variable {serde : SerdeJson} {s t : HrtClient} {e : HrtEvent}

theorem Signalled.length (signalled : s.Signalled) :
    s.shutdownRx.passed.length + s.shutdownRx.outstanding.length = s.shutdowns := by
  rw [← signalled.counted, ← s.shutdownRx.conserved, List.length_append]

/-- With one signal at most, a receive of it is the first, and is not behind. -/
theorem Signalled.receives (signalled : s.Signalled) (one : s.shutdowns ≤ 1) {result : Except Nat Unit}
    {rx : ShutdownReceiver} (recv : s.shutdownRx.recv = some (result, rx)) :
    s.consumed = none ∧ result = .ok () ∧ s.shutdownRx.Receives () rx := by
  have length := signalled.length
  obtain ⟨_, ok, receives⟩ := Receiver.ok_of_within (by omega) recv
  have some_left : 0 < s.shutdownRx.outstanding.length := by
    rw [receives.outstanding]
    exact Nat.zero_lt_succ _
  have none_passed : s.shutdownRx.passed = [] := List.eq_nil_of_length_eq_zero (by omega)
  exact ⟨signalled.consumed.1 none_passed, ok, receives⟩

/-- A step that leaves the signals alone. -/
theorem Signalled.of_acts (signalled : s.Signalled) (acts : s.Acts t) : t.Signalled := by
  refine ⟨acts.counted signalled.counted, ?_⟩
  rw [acts.passed, acts.consumed]
  exact signalled.consumed

theorem shutdowns_step (moves : s.Moves serde e t) : s.shutdowns ≤ t.shutdowns := by
  cases moves with
  | shutdown => exact acts_initiateShutdown.shutdowns
  | task _ handles | bridged _ handles => exact handles.acts.shutdowns
  | @line text =>
    obtain ⟨lines, tasks, bridge, same⟩ := s.inbound_eq serde text
    rw [same]
  | received | lagged | connects | goes | bridge => exact Nat.le_refl _

theorem Signalled.step (signalled : s.Signalled) (moves : s.Moves serde e t) (one : t.shutdowns ≤ 1) :
    t.Signalled := by
  have at_most := (shutdowns_step moves).trans one
  cases moves with
  | shutdown => exact signalled.of_acts acts_initiateShutdown
  | received polls recv =>
    obtain ⟨none_yet, -, receives⟩ := signalled.receives at_most recv
    refine ⟨(congrArg List.length receives.since).trans signalled.counted, ?_⟩
    unfold consume
    dsimp only
    rw [none_yet, receives.passed]
    simp
  | lagged loop recv =>
    obtain ⟨-, ok, -⟩ := signalled.receives at_most recv
    cases ok
  | task _ handles | bridged _ handles => exact signalled.of_acts handles.acts
  | @line text =>
    obtain ⟨lines, tasks, bridge, same⟩ := s.inbound_eq serde text
    rw [same]
    exact ⟨signalled.counted, signalled.consumed⟩
  | connects | goes | bridge => exact ⟨signalled.counted, signalled.consumed⟩

/-! ## The loop -/

/-- What leaves the loop and its count alone leaves it down as it was. -/
theorem down_of_acts (acts : s.Acts t) : t.Down ↔ s.Down := by
  unfold Down
  rw [acts.consumed, acts.attempts, acts.pc]

/-- Where the loop is not left, it is down just if no signal was consumed. -/
theorem down_inside (inside : s.pc ≠ .left) : s.Down ↔ s.consumed = none := by
  constructor
  · intro down
    cases consumed : s.consumed with
    | none => rfl
    | some n => exact absurd (down n consumed).2 inside
  · rintro none_yet n consumed
    cases none_yet.symm.trans consumed

/-- A step keeps the loop down exactly if it is not a receive in the session. -/
theorem down_step (signalled : s.Signalled) (moves : s.Moves serde e t) (one : t.shutdowns ≤ 1) :
    t.Down ↔ s.Down ∧ NotInSession s e := by
  have at_most := (shutdowns_step moves).trans one
  cases moves with
  | shutdown => exact (and_iff_left trivial).symm
  | @received _ _ rx polls recv =>
    obtain ⟨none_yet, -, -⟩ := signalled.receives at_most recv
    have down : s.Down := fun n consumed => nomatch none_yet.symm.trans consumed
    have consumed : (s.consume rx).consumed = some s.attempts := by
      change s.consumed.or (some s.attempts) = _
      rw [none_yet]
      rfl
    generalize before : s.pc = place at polls
    cases polls with
    | head =>
      refine iff_of_true ?_ ⟨down, trivial⟩
      intro n here
      cases consumed.symm.trans here
      exact ⟨rfl, rfl⟩
    | session =>
      refine iff_of_false ?_ fun both => both.2 before
      intro after
      exact nomatch (after _ consumed).2
    | waiting =>
      refine iff_of_true ?_ ⟨down, by rw [NotInSession, before]; nofun⟩
      intro n here
      cases consumed.symm.trans here
      exact ⟨rfl, rfl⟩
  | lagged loop recv =>
    obtain ⟨-, ok, -⟩ := signalled.receives at_most recv
    cases ok
  | connects at_head =>
    refine (down_inside (by nofun)).trans ?_
    rw [down_inside (by rw [at_head]; nofun)]
    exact (and_iff_left trivial).symm
  | goes loop other before after =>
    refine (down_inside after).trans ?_
    rw [down_inside before]
    exact (and_iff_left (notInSession_of_ne other)).symm
  | @line text at_session =>
    obtain ⟨lines, tasks, bridge, same⟩ := s.inbound_eq serde text
    rw [same]
    exact (and_iff_left trivial).symm
  | task _ handles | bridged _ handles => exact (down_of_acts handles.acts).trans (and_iff_left trivial).symm
  | bridge loop =>
    refine (and_iff_left (notInSession_of_ne ?_)).symm
    rintro rfl
    cases loop

/-- A loop whose receiver has nothing left does not leave by its own steps. -/
theorem pc_of_leads (inside : s.pc ≠ .left) (drained : s.shutdownRx.recv = none)
    (leads : (hrtSystem serde).Leads (fun e => e.isLoop = true) s t) : t.pc ≠ .left := by
  have known : t.pc ≠ .left ∧ t.shutdownRx.recv = none := by
    refine leads.induction (I := fun u => u.pc ≠ .left ∧ u.shutdownRx.recv = none) ?_ ⟨inside, drained⟩
    rintro u e v ⟨inside, drained⟩ loop step
    cases moves_of_step step with
    | received _ recv | lagged _ recv => cases drained.symm.trans recv
    | connects => exact ⟨nofun, drained⟩
    | goes _ _ _ after => exact ⟨after, drained⟩
    | @line text =>
      obtain ⟨lines, tasks, bridge, same⟩ := u.inbound_eq serde text
      rw [same]
      exact ⟨inside, drained⟩
    | shutdown | task | bridged => cases loop
    | bridge other => exact absurd loop (Bool.eq_false_iff.1 other)
  exact known.1

/-- A loop that is not left when the signal is consumed never leaves. -/
theorem Signalled.staysDown_iff (signalled : s.Signalled) (one : s.shutdowns ≤ 1) : s.StaysDown serde ↔ s.Down := by
  constructor
  · intro stays n consumed
    obtain ⟨same, t, leads, left⟩ := stays n consumed
    refine ⟨same, ?_⟩
    by_contra inside
    have some_passed : s.shutdownRx.passed ≠ [] := by
      rw [Ne, signalled.consumed, consumed]
      exact Option.some_ne_none n
    have counts := List.length_pos_of_ne_nil some_passed
    have length := signalled.length
    have drained : s.shutdownRx.outstanding = [] := List.eq_nil_of_length_eq_zero (by omega)
    exact pc_of_leads inside (Receiver.recv_eq_none.2 drained) leads left
  · intro down n consumed
    exact ⟨(down n consumed).1, s, .refl, (down n consumed).2⟩

end HrtClient

theorem HrtClient.signalled_started : HrtClient.started.Signalled := ⟨rfl, iff_of_true rfl rfl⟩

/-- **The client stays down after the one signal, exactly in the runs whose sessions do not receive it.** -/
theorem client_stays_down {serde : SerdeJson} {events : List HrtEvent} {s : HrtClient}
    (run : (hrtSystem serde).run .started events = some s) (one : s.shutdowns ≤ 1) :
    s.StaysDown serde ↔ (hrtSystem serde).Meets NotInSession .started events := by
  obtain ⟨-, below⟩ := meets_below (S := hrtSystem serde) (m := HrtClient.shutdowns)
    (fun s e t step => HrtClient.shutdowns_step (HrtClient.moves_of_step step)) run
  have at_most {u : HrtClient} (fewer : u.shutdowns ≤ s.shutdowns) : u.shutdowns ≤ 1 := fewer.trans one
  have pres (u : HrtClient) (e : HrtEvent) (v : HrtClient) (signalled : u.Signalled)
      (below : ∀ w, hrtStep serde u e = some w → w.shutdowns ≤ s.shutdowns) (step : hrtStep serde u e = some v) :
      v.Signalled :=
    signalled.step (HrtClient.moves_of_step step) (at_most (below v step))
  have signalled : s.Signalled := run_induction pres HrtClient.signalled_started below run
  have kept := run_iff_meets_where (C := NotInSession) (I := HrtClient.Down) pres
    (fun u e v signalled below step =>
      HrtClient.down_step signalled (HrtClient.moves_of_step step) (at_most (below v step)))
    HrtClient.signalled_started below run
  have start : HrtClient.started.Down := nofun
  exact (signalled.staysDown_iff one).trans (kept.trans (and_iff_right start))

/-- A signal in the wait after a session. -/
theorem client_stays_down_waiting : ∃ s, (hrtSystem (messageReader [])).run .started
    (sessionStarts ++ [.hungUp, .shutdown, .told]) = some s ∧
      s.consumed = some 1 ∧ s.StaysDown (messageReader []) := by
  refine ⟨_, rfl, rfl, ?_⟩
  rw [@client_stays_down _ (sessionStarts ++ [.hungUp, .shutdown, .told]) _ rfl (by decide)]
  decide

/-- A signal in a session ends that session only: the loop connects again. -/
theorem client_comes_back : ∃ s, (hrtSystem (messageReader [])).run .started
    (sessionStarts ++ [.shutdown, .told, .slept, .tryRecv]) = some s ∧ s.shutdowns = 1 ∧ s.consumed = some 1 ∧
      s.attempts = 2 ∧ ¬ s.StaysDown (messageReader []) :=
  ⟨_, rfl, rfl, rfl, rfl, fun stays => absurd (stays 1 rfl).1 (by decide)⟩

end StereoMix.Hrt
