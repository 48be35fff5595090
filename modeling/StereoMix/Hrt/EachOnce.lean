import StereoMix.Hrt.Client
import Mathlib.Data.List.Perm.Basic

/-!
# Each message once

A line that parses reaches `handle_inbound_message` by the task that the session spawns for it, and once more by the
bridge if that receives it.
-/

namespace StereoMix.Hrt

open EventSystem Broadcast
open Ipc (SerdeJson)

namespace HrtClient

/-- The messages of the lines that parse. -/
def parsed (serde : SerdeJson) (s : HrtClient) : List HrtInboundMsg :=
  s.lines.filterMap fun line => (HrtInboundMsg.parse serde line).toOption

/-- The messages that reached the handler by a route. -/
def handledBy (s : HrtClient) (route : Route) : List HrtInboundMsg :=
  (s.handled.filter fun handled => handled.1 = route).map Prod.snd

/-- `handle_inbound_message` was run once for every line that parses, and for no other. -/
def ExactlyOnce (serde : SerdeJson) (s : HrtClient) : Prop := (s.handled.map Prod.snd).Perm (s.parsed serde)

/-- The spawned tasks have run, and the bridge has nothing left to receive. -/
def Settled (s : HrtClient) : Prop :=
  s.tasks = [] ∧ (s.bridge.map fun b => b.inboundRx.outstanding).getD [] = []

end HrtClient

/-- The bridge receives no message. -/
def NotBridged (s : HrtClient) : HrtEvent → Prop
  | .bridgeRecv => s.bridgeReceives.isNone = true
  | _ => True

instance (s : HrtClient) (e : HrtEvent) : Decidable (NotBridged s e) := by
  unfold NotBridged
  split <;> infer_instance

theorem notBridged_loop {s : HrtClient} {e : HrtEvent} (loop : e.isLoop = true) : NotBridged s e := by
  unfold NotBridged
  split
  · cases loop
  · trivial

namespace HrtClient

variable {serde : SerdeJson} {s t : HrtClient} {e : HrtEvent} {route : Route} {m : HrtInboundMsg}
  {tasks : List HrtInboundMsg}

/-! ## The two routes -/

theorem Handles.handledBy (handles : s.Handles route m tasks t) : t.handledBy route = s.handledBy route ++ [m] := by
  unfold HrtClient.handledBy
  rw [handles.handled, List.filter_append, List.map_append]
  simp

theorem Handles.handledBy_ne (handles : s.Handles route m tasks t) {other : Route} (ne : other ≠ route) :
    t.handledBy other = s.handledBy other := by
  unfold HrtClient.handledBy
  rw [handles.handled, List.filter_append, List.map_append]
  simp [Ne.symm ne]

theorem Handles.parsed (handles : s.Handles route m tasks t) : t.parsed serde = s.parsed serde := by
  unfold HrtClient.parsed
  rw [handles.acts.lines]

/-- All calls, by the two routes. -/
theorem handled_perm (s : HrtClient) :
    (s.handled.map Prod.snd).Perm (s.handledBy .task ++ s.handledBy .bridge) := by
  unfold handledBy
  rw [← List.map_append]
  refine List.Perm.map _ ?_
  have others : (s.handled.filter fun handled => handled.1 = Route.bridge) =
      s.handled.filter fun handled => !decide (handled.1 = Route.task) := by
    refine List.filter_congr fun handled _ => ?_
    cases handled.1 <;> rfl
  rw [others]
  exact (List.filter_append_perm _ _).symm

/-- What the tasks have handled and have yet to handle is what the lines were parsed to. -/
def TasksCover (serde : SerdeJson) (s : HrtClient) : Prop :=
  (s.handledBy .task ++ s.tasks).Perm (s.parsed serde)

theorem tasksCover_inbound (before : s.TasksCover serde) (text : String) :
    (s.inbound serde text).TasksCover serde := by
  have parsed_read : (s.lines ++ [text]).filterMap (fun line => (HrtInboundMsg.parse serde line).toOption) =
      s.parsed serde ++ (HrtInboundMsg.parse serde text).toOption.toList := by
    rw [List.filterMap_append, parsed, List.filterMap_cons, List.filterMap_nil]
    cases HrtInboundMsg.parse serde text <;> rfl
  unfold HrtClient.inbound
  cases parse : HrtInboundMsg.parse serde text with
  | error e =>
    rw [parse] at parsed_read
    refine List.Perm.trans before (.of_eq ?_)
    exact ((List.append_nil _).symm.trans parsed_read.symm)
  | ok m =>
    rw [parse] at parsed_read
    refine (List.Perm.of_eq (List.append_assoc ..).symm).trans ?_
    exact (before.append_right [m]).trans (.of_eq parsed_read.symm)

theorem tasksCover_step (before : s.TasksCover serde) (moves : s.Moves serde e t) : t.TasksCover serde := by
  cases moves with
  | line => exact tasksCover_inbound before _
  | @task i m t there handles =>
    unfold TasksCover at *
    rw [handles.handledBy, handles.tasks, handles.parsed, List.append_assoc]
    refine (List.Perm.append_left _ ?_).trans before
    obtain ⟨inside, here⟩ := List.getElem?_eq_some_iff.1 there
    rw [← here]
    exact List.getElem_cons_eraseIdx_perm inside
  | bridged receives handles =>
    unfold TasksCover at *
    rw [handles.handledBy_ne (by decide), handles.tasks, handles.parsed]
    exact before
  | shutdown | received | lagged | connects | goes | bridge => exact before

/-- A step leaves the bridge's route unused exactly if the bridge receives no message. -/
theorem handledBy_bridge_step (moves : s.Moves serde e t) :
    t.handledBy .bridge = [] ↔ s.handledBy .bridge = [] ∧ NotBridged s e := by
  cases moves with
  | @line text =>
    obtain ⟨lines, tasks, bridge, same⟩ := s.inbound_eq serde text
    rw [same]
    exact (and_iff_left trivial).symm
  | task there handles =>
    rw [handles.handledBy_ne (by decide)]
    exact (and_iff_left trivial).symm
  | bridged receives handles =>
    rw [handles.handledBy]
    refine iff_of_false (by simp) fun both => ?_
    cases receives.symm.trans (Option.isNone_iff_eq_none.1 both.2)
  | bridge loop none_received =>
    refine (and_iff_left ?_).symm
    unfold NotBridged
    split
    · exact Option.isNone_iff_eq_none.2 (none_received rfl)
    · trivial
  | received polls => exact (and_iff_left (notBridged_loop polls.isLoop)).symm
  | lagged loop | goes loop => exact (and_iff_left (notBridged_loop loop)).symm
  | shutdown | connects => exact (and_iff_left trivial).symm

/-- With the tasks run, each message was handled once exactly if the bridge handled none. -/
theorem TasksCover.exactlyOnce_iff (cover : s.TasksCover serde) (settled : s.Settled) :
    s.ExactlyOnce serde ↔ s.handledBy .bridge = [] := by
  unfold TasksCover at cover
  rw [settled.1, List.append_nil] at cover
  constructor
  · intro once
    have lengths := (s.handled_perm.symm.trans once).length_eq
    rw [List.length_append, cover.length_eq] at lengths
    exact List.eq_nil_of_length_eq_zero (by omega)
  · intro unused
    refine s.handled_perm.trans ?_
    rw [unused, List.append_nil]
    exact cover

end HrtClient

/-- **Each message acts once, exactly in the runs whose bridge receives none.** -/
theorem each_message_once {serde : SerdeJson} {events : List HrtEvent} {s : HrtClient}
    (run : (hrtSystem serde).run .started events = some s) (settled : s.Settled) :
    s.ExactlyOnce serde ↔ (hrtSystem serde).Meets NotBridged .started events := by
  have start : HrtClient.started.TasksCover serde := List.Perm.nil
  have cover : s.TasksCover serde := run_induction (S := hrtSystem serde) (C := fun _ _ => True)
    (fun u e v before _ step => HrtClient.tasksCover_step before (HrtClient.moves_of_step step)) start
    (meets_true _ _) run
  have kept := run_iff_meets (S := hrtSystem serde) (C := NotBridged) (I := fun s => s.handledBy .bridge = [])
    (fun u e v step => HrtClient.handledBy_bridge_step (HrtClient.moves_of_step step)) run
  exact (cover.exactlyOnce_iff settled).trans (kept.trans (and_iff_right rfl))

/-- The bridge is stopped by its shutdown signal before it receives the emergency stop, whose task then runs. -/
theorem each_message_once_stopped : ∃ s, (hrtSystem (messageReader ["e-stop"])).run .started
    (sessionStarts ++ [.shutdown, .line (message "e-stop"), .bridgeTold, .task 0]) = some s ∧ s.handled.length = 1 ∧
      s.ExactlyOnce (messageReader ["e-stop"]) := by
  refine ⟨_, rfl, rfl, ?_⟩
  rw [@each_message_once _ (sessionStarts ++ [.shutdown, .line (message "e-stop"), .bridgeTold, .task 0]) _ rfl
    ⟨rfl, rfl⟩]
  decide +kernel

/-- One emergency stop is handled by the task and by the bridge, and sends two signals. -/
theorem each_message_twice : ∃ s, (hrtSystem (messageReader ["e-stop"])).run .started
    (sessionStarts ++ [.line (message "e-stop"), .bridgeRecv, .task 0]) = some s ∧ s.Settled ∧ s.shutdowns = 2 ∧
      ¬ s.ExactlyOnce (messageReader ["e-stop"]) :=
  ⟨_, rfl, ⟨rfl, rfl⟩, rfl, fun once => absurd once.length_eq (by decide +kernel)⟩

end StereoMix.Hrt
