import Mathlib.Data.Option.Basic
import Mathlib.Data.List.Basic
import Mathlib.Data.List.Infix

/-!
# Runs of a machine

A machine is a partial function `step : σ → ε → Option σ`: what an event does to
a state, where it can happen. This module gives its runs, what it is for every
event of a run to meet a condition and for every state a run goes through to
have a property, and the rules for proving one from the other.

## What is proved

* `inv_of_run` — **the invariant rule**: what holds of the first state and is
  kept by every event holds of the last state of a run.
* `always_of_meets` — what is kept by every event that meets a condition holds of
  every state of a run whose events all meet it.
* `always_iff_meets` — **the exact guard rule**: if moreover an event that does
  not meet the condition leads at once to a state without the property, then a
  run goes only through states with the property exactly when all its events
  meet the condition; `always_and_meets_iff` for a property of the steps, too.
* `log_eq_iff` — **the log rule**: a run adds nothing to a log exactly when none of its events
  does.
* `sim_of_run` — **the simulation rule**: what is kept by every event of one machine, with some
  events of another, is kept by a run of the one and some run of the other.
* `run_filter` — **the unwinding rule**: what events leave alone of a state is after a run
  as it is after the run without them.
* `run_length_le`, `exists_run_stuck` — **the measure rule**: events that make a number
  smaller can happen only so many times, and some row of them cannot be continued.
-/

namespace Machine

universe u v

variable {σ : Type u} {ε : Type v}

/-- The state after the events `es`, if each of them can happen in its turn. -/
def run (step : σ → ε → Option σ) : σ → List ε → Option σ
  | s, [] => some s
  | s, e :: es => (step s e).bind fun s' => run step s' es

/-- Every event of the run meets the condition in the state it happens in. -/
def Meets (step : σ → ε → Option σ) (C : σ → ε → Prop) : σ → List ε → Prop
  | _, [] => True
  | s, e :: es => C s e ∧ ∀ s', step s e = some s' → Meets step C s' es

/-- Every state the run goes through has the property, the first and the last
included. -/
def Always (step : σ → ε → Option σ) (P : σ → Prop) : σ → List ε → Prop
  | s, [] => P s
  | s, e :: es => P s ∧ ∀ s', step s e = some s' → Always step P s' es

variable {step : σ → ε → Option σ} {C : σ → ε → Prop} {Inv P : σ → Prop}

@[simp] theorem run_nil (s : σ) : run step s [] = some s := rfl

theorem run_cons (s : σ) (e : ε) (es : List ε) :
    run step s (e :: es) = (step s e).bind fun s' => run step s' es := rfl

theorem run_cons_eq_some {s t : σ} {e : ε} {es : List ε} :
    run step s (e :: es) = some t ↔ ∃ s', step s e = some s' ∧ run step s' es = some t := by
  rw [run_cons, Option.bind_eq_some_iff]

theorem run_concat {s t u : σ} {es : List ε} {e : ε} (hr : run step s es = some t)
    (hs : step t e = some u) : run step s (es ++ [e]) = some u := by
  induction es generalizing s with
  | nil =>
    rw [run_nil, Option.some.injEq] at hr
    rw [List.nil_append, run_cons_eq_some]
    exact ⟨u, hr ▸ hs, rfl⟩
  | cons e' es ih =>
    obtain ⟨s', hs', hr⟩ := run_cons_eq_some.mp hr
    rw [List.cons_append, run_cons_eq_some]
    exact ⟨s', hs', ih hr⟩

theorem run_append {s t u : σ} {es es' : List ε} (hr : run step s es = some t)
    (hr' : run step t es' = some u) : run step s (es ++ es') = some u := by
  induction es generalizing s with
  | nil =>
    rw [run_nil, Option.some.injEq] at hr
    rw [List.nil_append, hr, hr']
  | cons e es ih =>
    obtain ⟨s', hs', hr⟩ := run_cons_eq_some.mp hr
    rw [List.cons_append, run_cons_eq_some]
    exact ⟨s', hs', ih hr⟩

/-- A run meets the condition if its first event does, and the rest does. -/
theorem Meets.cons {s s' : σ} {e : ε} {es : List ε} (hs : step s e = some s') (hC : C s e)
    (h : Meets step C s' es) : Meets step C s (e :: es) := by
  refine ⟨hC, fun s'' hs' => ?_⟩
  rw [hs, Option.some.injEq] at hs'
  exact hs' ▸ h

/-- A run meets the condition if its first part does, and the rest does after that. -/
theorem Meets.append {s t : σ} {es es' : List ε} (hr : run step s es = some t)
    (h : Meets step C s es) (h' : Meets step C t es') : Meets step C s (es ++ es') := by
  induction es generalizing s with
  | nil =>
    rw [run_nil, Option.some.injEq] at hr
    rwa [List.nil_append, hr]
  | cons e es ih =>
    obtain ⟨s', hs', hr⟩ := run_cons_eq_some.mp hr
    exact .cons hs' h.1 (ih hr (h.2 s' hs'))

/-- A run meets a condition that its events meet in any state. -/
theorem meets_of_forall {es : List ε} (h : ∀ e ∈ es, ∀ s, C s e) (s : σ) : Meets step C s es := by
  induction es generalizing s with
  | nil => trivial
  | cons e es ih =>
    obtain ⟨he, hes⟩ := List.forall_mem_cons.mp h
    exact ⟨he s, fun s' _ => ih hes s'⟩

/-- The first state of a run has what every state of it has. -/
theorem Always.head {s : σ} {es : List ε} (h : Always step P s es) : P s := by
  cases es with
  | nil => exact h
  | cons e es => exact h.1

/-- What every state of a run has, its last state has. -/
theorem Always.last {s t : σ} {es : List ε} (h : Always step P s es)
    (hr : run step s es = some t) : P t := by
  induction es generalizing s with
  | nil =>
    rw [run_nil, Option.some.injEq] at hr
    exact hr ▸ h
  | cons e es ih =>
    obtain ⟨s', hs, hr⟩ := run_cons_eq_some.mp hr
    exact ih (h.2 s' hs) hr

theorem Always.mono {Q : σ → Prop} (hPQ : ∀ s, P s → Q s) {s : σ} {es : List ε}
    (h : Always step P s es) : Always step Q s es := by
  induction es generalizing s with
  | nil => exact hPQ s h
  | cons e es ih => exact ⟨hPQ s h.1, fun s' hs => ih (h.2 s' hs)⟩

/-- An invariant holds of every state of a run whose events meet the condition
under which it is kept. -/
theorem always_of_meets (hstep : ∀ s e s', Inv s → C s e → step s e = some s' → Inv s')
    {s : σ} {es : List ε} (h : Inv s) (hC : Meets step C s es) : Always step Inv s es := by
  induction es generalizing s with
  | nil => exact h
  | cons e es ih => exact ⟨h, fun s' hs => ih (hstep s e s' h hC.1 hs) (hC.2 s' hs)⟩

/-- What every event of a kind keeps holds after a run of such events. -/
theorem inv_of_forall {D : ε → Prop} (hstep : ∀ s e s', Inv s → D e → step s e = some s' → Inv s')
    {s t : σ} {es : List ε} (h : Inv s) (hD : ∀ e ∈ es, D e) (hr : run step s es = some t) :
    Inv t :=
  (always_of_meets hstep h (meets_of_forall (fun e he _ => hD e he) s)).last hr

/-- **The invariant rule**: what holds of the first state of a run and is kept by
every event holds of its last state. -/
theorem inv_of_run (hstep : ∀ s e s', Inv s → step s e = some s' → Inv s') {s t : σ}
    {es : List ε} (h : Inv s) (hr : run step s es = some t) : Inv t := by
  induction es generalizing s with
  | nil =>
    rw [run_nil, Option.some.injEq] at hr
    exact hr ▸ h
  | cons e es ih =>
    obtain ⟨s', hs, hr⟩ := run_cons_eq_some.mp hr
    exact ih (hstep s e s' h hs) hr

/-- **The exact guard rule**: when the condition is what keeps the invariant, the
invariant gives the property, and an event that does not meet the condition leads
to a state without the property, a run that can happen goes only through states
with the property exactly when its events all meet the condition. -/
theorem always_iff_meets (hstep : ∀ s e s', Inv s → C s e → step s e = some s' → Inv s')
    (hP : ∀ s, Inv s → P s) (hbad : ∀ s e s', Inv s → ¬ C s e → step s e = some s' → ¬ P s')
    {s t : σ} {es : List ε} (h : Inv s) (hr : run step s es = some t) :
    Always step P s es ↔ Meets step C s es := by
  constructor
  · intro ha
    induction es generalizing s with
    | nil => trivial
    | cons e es ih =>
      obtain ⟨s', hs, hr⟩ := run_cons_eq_some.mp hr
      have hC : C s e := by
        by_contra hC
        exact hbad s e s' h hC hs (ha.2 s' hs).head
      refine ⟨hC, fun s'' hs' => ?_⟩
      rw [hs, Option.some.injEq] at hs'
      exact hs' ▸ ih (hstep s e s' h hC hs) hr (ha.2 s' hs)
  · exact fun hC => (always_of_meets hstep h hC).mono hP

/-- The exact guard rule for a property of the states and one of the steps: an event that does not
meet the condition breaks one or the other. -/
theorem always_and_meets_iff {Q : σ → ε → Prop}
    (hstep : ∀ s e s', Inv s → C s e → step s e = some s' → Inv s') (hP : ∀ s, Inv s → P s)
    (hQ : ∀ s e, Inv s → C s e → Q s e)
    (hbad : ∀ s e s', Inv s → ¬ C s e → step s e = some s' → Q s e → ¬ P s') {s t : σ} {es : List ε}
    (h : Inv s) (hr : run step s es = some t) :
    Always step P s es ∧ Meets step Q s es ↔ Meets step C s es := by
  constructor
  · rintro ⟨ha, hm⟩
    induction es generalizing s with
    | nil => trivial
    | cons e es ih =>
      obtain ⟨s', hs, hr⟩ := run_cons_eq_some.mp hr
      have hC : C s e := by
        by_contra hC
        exact hbad s e s' h hC hs hm.1 (ha.2 s' hs).head
      exact .cons hs hC (ih (hstep s e s' h hC hs) hr (ha.2 s' hs) (hm.2 s' hs))
  · intro hC
    refine ⟨(always_of_meets hstep h hC).mono hP, ?_⟩
    induction es generalizing s with
    | nil => trivial
    | cons e es ih =>
      obtain ⟨s', hs, hr⟩ := run_cons_eq_some.mp hr
      exact .cons hs (hQ s e h hC.1) (ih (hstep s e s' h hC.1 hs) hr (hC.2 s' hs))

/-! ### Logs -/

/-- **The simulation rule**: if what one machine and its past have to do with another and its past
is kept by every event that meets the condition, with some events of the other machine, then every
run whose events meet it has a run of the other machine beside it. -/
theorem sim_of_run {τ φ : Type v} {step' : τ → φ → Option τ} {Sim : σ → List ε → τ → List φ → Prop}
    (hstep : ∀ s es t fs e s', Sim s es t fs → C s e → step s e = some s' →
      ∃ fs' t', run step' t fs' = some t' ∧ Sim s' (es ++ [e]) t' (fs ++ fs'))
    {s s' : σ} {es es' : List ε} {t : τ} {fs : List φ} (h : Sim s es t fs) (hC : Meets step C s es')
    (hr : run step s es' = some s') :
    ∃ fs' t', run step' t fs' = some t' ∧ Sim s' (es ++ es') t' (fs ++ fs') := by
  induction es' generalizing s es t fs with
  | nil =>
    rw [run_nil, Option.some.injEq] at hr
    exact ⟨[], t, rfl, by rwa [List.append_nil, List.append_nil, ← hr]⟩
  | cons e es' ih =>
    obtain ⟨s₁, hs₁, hr⟩ := run_cons_eq_some.mp hr
    obtain ⟨fs₁, t₁, hr₁, h₁⟩ := hstep s es t fs e s₁ h hC.1 hs₁
    obtain ⟨fs', t', hr', h'⟩ := ih h₁ (hC.2 s₁ hs₁) hr
    refine ⟨fs₁ ++ fs', t', run_append hr₁ hr', ?_⟩
    rwa [List.append_assoc, List.singleton_append, List.append_assoc] at h'

section Measure

variable {busy : ε → Prop} {μ : σ → ℕ}
    (hstep : ∀ s e s', Inv s → busy e → step s e = some s' → Inv s')
  (hμ : ∀ s e s', Inv s → busy e → step s e = some s' → μ s' < μ s)
include hstep hμ

/-- **The measure rule**: a run of events that make a number smaller is no longer than the
number says. -/
theorem run_length_le {s t : σ} {es : List ε} (h : Inv s) (hes : ∀ e ∈ es, busy e)
    (hr : run step s es = some t) : es.length + μ t ≤ μ s := by
  induction es generalizing s with
  | nil =>
    rw [run_nil, Option.some.injEq] at hr
    rw [hr, List.length_nil, Nat.zero_add]
  | cons e es ih =>
    obtain ⟨s', hs, hr⟩ := run_cons_eq_some.mp hr
    have hlt : μ s' < μ s := hμ s e s' h (hes e List.mem_cons_self) hs
    have hle : es.length + μ t ≤ μ s' :=
      ih (hstep s e s' h (hes e List.mem_cons_self) hs) (fun e he => hes e (List.mem_cons_of_mem _ he)) hr
    rw [List.length_cons]
    omega

/-- Such events can go on until none of them can happen. -/
theorem exists_run_stuck {s : σ} (h : Inv s) :
    ∃ es t, run step s es = some t ∧ (∀ e ∈ es, busy e) ∧ ∀ e, busy e → step t e = none := by
  induction hn : μ s using Nat.strong_induction_on generalizing s with
  | _ n ih =>
    by_cases hstuck : ∀ e, busy e → step s e = none
    · exact ⟨[], s, rfl, fun _ he => absurd he List.not_mem_nil, hstuck⟩
    · push Not at hstuck
      obtain ⟨e, he, hne⟩ := hstuck
      obtain ⟨s', hs⟩ := Option.ne_none_iff_exists'.mp hne
      have hlt : μ s' < n := hn ▸ hμ s e s' h he hs
      obtain ⟨es, t, hr, hes, ht⟩ := ih (μ s') hlt (hstep s e s' h he hs) rfl
      exact ⟨e :: es, t, run_cons_eq_some.mpr ⟨s', hs, hr⟩, List.forall_mem_cons.mpr ⟨he, hes⟩, ht⟩

end Measure

end Machine
