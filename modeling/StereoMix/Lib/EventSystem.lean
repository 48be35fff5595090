/-!
# Event systems

A system of parties is its initial states and a partial step function: `step s e` is the state after
event `e` in state `s`, and `none` when `e` cannot happen there. Every choice (which party moves, what
the environment answers) is in the events, so a run is a list of events and can be evaluated, and a
statement over all event lists is one over all interleavings.

A property of runs is proved from what one step preserves: `invariant` for all runs, `invariant_where`
for the runs whose every step meets a condition on the event and the state before it.
-/

structure EventSystem (σ ε : Type) where
  init : σ → Prop
  step : σ → ε → Option σ

namespace EventSystem

variable {σ ε : Type} (S : EventSystem σ ε)

/-- The state after `es`, if each event can happen in its turn. -/
def run : σ → List ε → Option σ
  | s, [] => some s
  | s, e :: es => (S.step s e).bind fun t => run t es

/-- Some run from an initial state ends in `s`. -/
def Reachable (s : σ) : Prop := ∃ s₀ es, S.init s₀ ∧ S.run s₀ es = some s

/-- Every step of the run `es` from `s` meets the condition `C` on the state before it and its event. -/
def Meets (C : σ → ε → Prop) : σ → List ε → Prop
  | _, [] => True
  | s, e :: es => C s e ∧ ∀ t, S.step s e = some t → Meets C t es

/-- Some run whose steps all meet `C` ends in `s`. -/
def ReachableWhere (C : σ → ε → Prop) (s : σ) : Prop :=
  ∃ s₀ es, S.init s₀ ∧ S.Meets C s₀ es ∧ S.run s₀ es = some s

variable {S}

@[simp] theorem run_nil (s : σ) : S.run s [] = some s := rfl

theorem run_cons (s : σ) (e : ε) (es : List ε) :
    S.run s (e :: es) = (S.step s e).bind fun t => S.run t es := rfl

theorem run_cons_eq_some {s s' : σ} {e : ε} {es : List ε} :
    S.run s (e :: es) = some s' ↔ ∃ t, S.step s e = some t ∧ S.run t es = some s' := by
  simp [run_cons, Option.bind_eq_some_iff]

/-- What the steps that meet `C` preserve holds at the end of a run that meets `C`. -/
theorem run_induction {C : σ → ε → Prop} {I : σ → Prop}
    (pres : ∀ s e t, I s → C s e → S.step s e = some t → I t) {es : List ε} {s s' : σ}
    (start : I s) (meets : S.Meets C s es) (run : S.run s es = some s') : I s' := by
  induction es generalizing s with
  | nil => cases run; exact start
  | cons e es ih =>
    obtain ⟨t, step, rest⟩ := run_cons_eq_some.1 run
    exact ih (pres s e t start meets.1 step) (meets.2 t step) rest

/-- Whether a run's steps all meet a decidable condition can be evaluated. -/
instance decidableMeets (C : σ → ε → Prop) [∀ s e, Decidable (C s e)] :
    (s : σ) → (es : List ε) → Decidable (S.Meets C s es)
  | _, [] => .isTrue trivial
  | s, e :: es =>
    match answer : S.step s e with
    | none => decidable_of_iff (C s e) ⟨fun here => ⟨here, fun _ step => nomatch answer.symm.trans step⟩, And.left⟩
    | some t =>
      have := decidableMeets C t es
      decidable_of_iff (C s e ∧ S.Meets C t es)
        ⟨fun ⟨here, rest⟩ => ⟨here, fun _ step => Option.some.inj (answer.symm.trans step) ▸ rest⟩,
          fun ⟨here, rest⟩ => ⟨here, rest t answer⟩⟩

theorem meets_true (s : σ) (es : List ε) : S.Meets (fun _ _ => True) s es := by
  induction es generalizing s with
  | nil => trivial
  | cons e es ih => exact ⟨trivial, fun t _ => ih t⟩

theorem ReachableWhere.reachable {C : σ → ε → Prop} {s : σ} (reached : S.ReachableWhere C s) : S.Reachable s := by
  obtain ⟨s₀, es, first, -, run⟩ := reached
  exact ⟨s₀, es, first, run⟩

/-- The invariant rule for the runs whose steps all meet `C`. -/
theorem invariant_where {C : σ → ε → Prop} {I : σ → Prop} (start : ∀ s, S.init s → I s)
    (pres : ∀ s e t, I s → C s e → S.step s e = some t → I t) {s : σ}
    (reached : S.ReachableWhere C s) : I s := by
  obtain ⟨s₀, es, first, meets, run⟩ := reached
  exact run_induction pres (start s₀ first) meets run

/-- The invariant rule: what holds at the start and is preserved by every step holds of every
reachable state. -/
theorem invariant {I : σ → Prop} (start : ∀ s, S.init s → I s)
    (pres : ∀ s e t, I s → S.step s e = some t → I t) {s : σ} (reached : S.Reachable s) : I s := by
  obtain ⟨s₀, es, first, run⟩ := reached
  exact run_induction (C := fun _ _ => True) (fun s e t h _ step => pres s e t h step) (start s₀ first)
    (meets_true s₀ es) run

/-- What holds after every step of an event holds after the one it takes. -/
theorem forall_step {P : σ → Prop} {s t : σ} {e : ε} (step : S.step s e = some t) :
    (∀ u, S.step s e = some u → P u) ↔ P t := by
  constructor
  · exact fun all => all t step
  · intro here u other
    cases step.symm.trans other
    exact here

theorem meets_cons {C : σ → ε → Prop} {s t : σ} {e : ε} {es : List ε} (step : S.step s e = some t) :
    S.Meets C s (e :: es) ↔ C s e ∧ S.Meets C t es :=
  and_congr_right fun _ => forall_step step

/-- Conditions that agree wherever `J`, which every step keeps, holds are met by the same runs. -/
theorem meets_congr_of {C D : σ → ε → Prop} {J : σ → Prop} (pres : ∀ s e t, J s → S.step s e = some t → J t)
    (same : ∀ s e, J s → (C s e ↔ D s e)) {s : σ} {es : List ε} (start : J s) : S.Meets C s es ↔ S.Meets D s es := by
  induction es generalizing s with
  | nil => exact Iff.rfl
  | cons e es ih =>
    exact and_congr (same s e start) (forall_congr' fun t => forall_congr' fun step => ih (pres s e t start step))

theorem meets_congr {C D : σ → ε → Prop} (same : ∀ s e, C s e ↔ D s e) {s : σ} {es : List ε} :
    S.Meets C s es ↔ S.Meets D s es :=
  meets_congr_of (J := fun _ => True) (fun _ _ _ _ _ => trivial) (fun s e _ => same s e) trivial

/-- A condition on the events alone is met by a run just if it holds of every event. -/
theorem meets_iff_forall {C : ε → Prop} {es : List ε} {s t : σ} (run : S.run s es = some t) :
    S.Meets (fun _ e => C e) s es ↔ ∀ e ∈ es, C e := by
  induction es generalizing s with
  | nil => exact iff_of_true trivial (List.forall_mem_nil _)
  | cons e es ih =>
    obtain ⟨u, step, rest⟩ := run_cons_eq_some.1 run
    rw [meets_cons step, ih rest, List.forall_mem_cons]

/-- Among the runs that meet `H`, what each step keeps exactly if it meets `C` holds at the end of a run exactly if the
run meets `C`; what `H` keeps may be used of every state. -/
theorem run_iff_meets_where {C H : σ → ε → Prop} {I J : σ → Prop}
    (pres : ∀ s e t, J s → H s e → S.step s e = some t → J t)
    (kept : ∀ s e t, J s → H s e → S.step s e = some t → (I t ↔ I s ∧ C s e)) {es : List ε} {s t : σ}
    (start : J s) (meets : S.Meets H s es) (run : S.run s es = some t) : I t ↔ I s ∧ S.Meets C s es := by
  induction es generalizing s with
  | nil =>
    cases run
    exact (and_iff_left trivial).symm
  | cons e es ih =>
    obtain ⟨u, step, rest⟩ := run_cons_eq_some.1 run
    have next : J u := pres s e u start meets.1 step
    rw [ih next (meets.2 u step) rest, kept s e u start meets.1 step, meets_cons step, and_assoc]

/-- What each step keeps exactly if it meets `C` holds at the end of a run exactly if the run meets `C`. -/
theorem run_iff_meets {C : σ → ε → Prop} {I : σ → Prop} (kept : ∀ s e t, S.step s e = some t → (I t ↔ I s ∧ C s e))
    {es : List ε} {s t : σ} (run : S.run s es = some t) : I t ↔ I s ∧ S.Meets C s es :=
  run_iff_meets_where (J := fun _ => True) (fun _ _ _ _ _ _ => trivial) (fun s e t _ _ => kept s e t) trivial
    (meets_true s es) run

variable (S) in
/-- `I` holds in every state of the run `es` from `s`. -/
def Throughout (I : σ → Prop) : σ → List ε → Prop
  | s, [] => I s
  | s, e :: es => I s ∧ ∀ t, S.step s e = some t → Throughout I t es

theorem throughout_cons {I : σ → Prop} {s t : σ} {e : ε} {es : List ε} (step : S.step s e = some t) :
    S.Throughout I s (e :: es) ↔ I s ∧ S.Throughout I t es :=
  and_congr_right fun _ => forall_step step

/-- What every step from a state that has it keeps exactly if it meets `C`, and no run starts without, a run has in all
its states exactly if it meets `C`. -/
theorem throughout_iff_meets {C : σ → ε → Prop} {I J : σ → Prop} (pres : ∀ s e t, J s → S.step s e = some t → J t)
    (kept : ∀ s e t, J s → I s → S.step s e = some t → (I t ↔ C s e)) {es : List ε} {s t : σ} (known : J s)
    (start : I s) (run : S.run s es = some t) : S.Throughout I s es ↔ S.Meets C s es := by
  induction es generalizing s with
  | nil => exact iff_of_true start trivial
  | cons e es ih =>
    obtain ⟨u, step, rest⟩ := run_cons_eq_some.1 run
    rw [throughout_cons step, meets_cons step, ← kept s e u known start step, and_iff_right start]
    constructor
    · intro all
      have here : I u := by
        cases es with
        | nil => exact all
        | cons f fs => exact all.1
      exact ⟨here, (ih (pres s e u known step) here rest).1 all⟩
    · rintro ⟨here, meets⟩
      exact (ih (pres s e u known step) here rest).2 meets

/-- Along a run, what never falls stays below what it is at the end. -/
theorem meets_below {m : σ → Nat} (grows : ∀ s e t, S.step s e = some t → m s ≤ m t) {es : List ε} {s t : σ}
    (run : S.run s es = some t) : m s ≤ m t ∧ S.Meets (fun s e => ∀ u, S.step s e = some u → m u ≤ m t) s es := by
  induction es generalizing s with
  | nil =>
    cases run
    exact ⟨Nat.le_refl _, trivial⟩
  | cons e es ih =>
    obtain ⟨u, step, rest⟩ := run_cons_eq_some.1 run
    obtain ⟨below, meets⟩ := ih rest
    exact ⟨Nat.le_trans (grows s e u step) below, (meets_cons step).2 ⟨(forall_step step).2 below, meets⟩⟩

/-- What some events lower and the others do not raise bounds how many of them a run has. -/
theorem countP_add_rank_le {own : ε → Bool} {rank : σ → Nat} {I : σ → Prop}
    (pres : ∀ s e t, I s → S.step s e = some t → I t)
    (lowers : ∀ s e t, I s → S.step s e = some t → rank t + (if own e then 1 else 0) ≤ rank s) {es : List ε} {s t : σ}
    (start : I s) (run : S.run s es = some t) : es.countP own + rank t ≤ rank s := by
  induction es generalizing s with
  | nil =>
    cases run
    exact Nat.le_of_eq (Nat.zero_add _)
  | cons e es ih =>
    obtain ⟨u, step, rest⟩ := run_cons_eq_some.1 run
    have after := ih (pres s e u start step) rest
    have here := lowers s e u start step
    rw [List.countP_cons]
    omega

/-! ## Runs of chosen events -/

theorem run_append (s : σ) (es fs : List ε) : S.run s (es ++ fs) = (S.run s es).bind fun t => S.run t fs := by
  induction es generalizing s with
  | nil => rfl
  | cons e es ih =>
    rw [List.cons_append, run_cons, run_cons, Option.bind_assoc]
    congr 1
    funext t
    exact ih t

/-- The invariant rule for what is true of a state and the events that led to it. -/
theorem invariant_since {I : List ε → σ → Prop} {s₀ : σ} (start : I [] s₀)
    (pres : ∀ es s e t, S.run s₀ es = some s → I es s → S.step s e = some t → I (es ++ [e]) t) {es : List ε} {s : σ}
    (run : S.run s₀ es = some s) : I es s := by
  have onwards (gone rest : List ε) (s t : σ) (there : S.run s₀ gone = some s) (here : I gone s)
      (run : S.run s rest = some t) : I (gone ++ rest) t := by
    induction rest generalizing gone s with
    | nil =>
      cases run
      rw [List.append_nil]
      exact here
    | cons e rest ih =>
      obtain ⟨u, step, run⟩ := run_cons_eq_some.1 run
      have next : S.run s₀ (gone ++ [e]) = some u := by
        rw [run_append, there, Option.bind_some, run_cons, step]
        rfl
      rw [← List.singleton_append, ← List.append_assoc]
      exact ih (gone ++ [e]) u next (pres gone s e u there here step) run
  exact onwards [] es s₀ s rfl start run

/-- What the steps of a run do, as `f` tells it of a state and its event, in order. -/
def gather {α : Type} (S : EventSystem σ ε) (f : σ → ε → List α) : σ → List ε → List α
  | _, [] => []
  | s, e :: es => f s e ++ (S.step s e).elim [] fun t => gather S f t es

theorem gather_snoc {α : Type} {f : σ → ε → List α} {s t : σ} {es : List ε} (run : S.run s es = some t) (e : ε) :
    S.gather f s (es ++ [e]) = S.gather f s es ++ f t e := by
  induction es generalizing s with
  | nil =>
    cases run
    rw [List.nil_append, gather, gather, List.nil_append]
    cases S.step t e with
    | none => exact List.append_nil _
    | some u => exact List.append_nil _
  | cons e' es ih =>
    obtain ⟨u, step, rest⟩ := run_cons_eq_some.1 run
    rw [List.cons_append, gather, gather, step, Option.elim_some, Option.elim_some, ih rest, List.append_assoc]

theorem run_single {s t : σ} {e : ε} (step : S.step s e = some t) : S.run s [e] = some t := by
  rw [run_cons, step]
  rfl

/-- The simulation rule: where every step is matched by a run of another system that shows the same, so is every run. -/
theorem run_simulates {τ δ α : Type} {R : EventSystem τ δ} {f : σ → τ} {seen : ε → Option α} {seen' : δ → Option α}
    (matched : ∀ s e t, S.step s e = some t →
      ∃ ds, R.run (f s) ds = some (f t) ∧ ds.filterMap seen' = (seen e).toList)
    {s t : σ} {es : List ε} (run : S.run s es = some t) :
    ∃ ds, R.run (f s) ds = some (f t) ∧ ds.filterMap seen' = es.filterMap seen := by
  induction es generalizing s with
  | nil =>
    cases run
    exact ⟨[], rfl, rfl⟩
  | cons e es ih =>
    obtain ⟨u, step, rest⟩ := run_cons_eq_some.1 run
    obtain ⟨ds, first, same⟩ := matched s e u step
    obtain ⟨ds', next, same'⟩ := ih rest
    refine ⟨ds ++ ds', ?_, ?_⟩
    · rw [run_append, first, Option.bind_some, next]
    · rw [List.filterMap_append, same, same', List.filterMap_cons]
      cases seen e <;> rfl

theorem Reachable.step {s t : σ} {e : ε} (reached : S.Reachable s) (step : S.step s e = some t) : S.Reachable t := by
  obtain ⟨s₀, es, first, run⟩ := reached
  refine ⟨s₀, es ++ [e], first, ?_⟩
  rw [run_append, run, Option.bind_some, run_cons, step]
  rfl

variable (S)

/-- Some run of events in `P` goes from `s` to `t`. -/
def Leads (P : ε → Prop) (s t : σ) : Prop := ∃ es, (∀ e ∈ es, P e) ∧ S.run s es = some t

variable {S} {P : ε → Prop} {s t u : σ}

theorem Leads.refl : S.Leads P s s := ⟨[], List.forall_mem_nil P, rfl⟩

theorem Leads.single {e : ε} (chosen : P e) (step : S.step s e = some t) : S.Leads P s t := by
  refine ⟨[e], ?_, ?_⟩
  · intro e' member
    rw [List.mem_singleton.1 member]
    exact chosen
  · rw [run_cons, step]
    rfl

theorem Leads.trans (first : S.Leads P s t) (second : S.Leads P t u) : S.Leads P s u := by
  obtain ⟨es, chosen, run⟩ := first
  obtain ⟨fs, chosen', run'⟩ := second
  refine ⟨es ++ fs, ?_, ?_⟩
  · intro e member
    exact (List.mem_append.1 member).elim (chosen e) (chosen' e)
  · rw [run_append, run, Option.bind_some, run']

/-- What steps of events in `P` preserve holds wherever they lead. -/
theorem Leads.induction {I : σ → Prop} (pres : ∀ s e t, I s → P e → S.step s e = some t → I t) (start : I s)
    (leads : S.Leads P s t) : I t := by
  obtain ⟨es, chosen, run⟩ := leads
  induction es generalizing s with
  | nil =>
    cases run
    exact start
  | cons e es ih =>
    obtain ⟨u, step, rest⟩ := run_cons_eq_some.1 run
    exact ih (pres s e u start (chosen e List.mem_cons_self) step) (fun e' here => chosen e' (.tail e here)) rest

theorem Leads.reachable (leads : S.Leads P s t) (reached : S.Reachable s) : S.Reachable t := by
  obtain ⟨s₀, es, first, run⟩ := reached
  obtain ⟨fs, -, run'⟩ := leads
  refine ⟨s₀, es ++ fs, first, ?_⟩
  rw [run_append, run, Option.bind_some, run']

/-- A run that goes elsewhere begins with a step. -/
theorem Leads.enabled (leads : S.Leads P s t) (elsewhere : s ≠ t) : ∃ e, P e ∧ (S.step s e).isSome := by
  obtain ⟨es, chosen, run⟩ := leads
  cases es with
  | nil =>
    cases run
    exact absurd rfl elsewhere
  | cons e es =>
    obtain ⟨u, step, -⟩ := run_cons_eq_some.1 run
    exact ⟨e, chosen e List.mem_cons_self, by rw [step]; rfl⟩

end EventSystem
