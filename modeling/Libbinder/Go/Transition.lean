import Mathlib.Tactic.Ring

/-!
# Transition systems

A concurrent Go component is modelled as a state and a partial step function:
a label names one atomic action of one goroutine or of the environment, and a
label that is not enabled has no successor.  Runs are therefore exactly the
interleavings of the modelled actions.
-/

namespace Libbinder.Go

/-- A labelled transition system with one initial state. -/
structure System (σ ℓ : Type) where
  init : σ
  step : σ → ℓ → Option σ

namespace System

variable {σ ℓ : Type}

/-- Execute a list of labels. -/
def run (system : System σ ℓ) : List ℓ → σ → Option σ
  | [], state => some state
  | label :: rest, state =>
    match system.step state label with
    | none => none
    | some next => system.run rest next

/--
The states reached by runs every step of which meets a condition on the state
before it.
-/
inductive Reaches
    (system : System σ ℓ) (allowed : σ → ℓ → Prop) : σ → Prop where
  | start : Reaches system allowed system.init
  | next {state reached : σ} {label : ℓ}
      (earlier : Reaches system allowed state)
      (permitted : allowed state label)
      (stepped : system.step state label = some reached) :
      Reaches system allowed reached

variable {system : System σ ℓ} {allowed : σ → ℓ → Prop}

/-- What holds initially and is kept by every permitted step always holds. -/
theorem Reaches.invariant
    {inv : σ → Prop} (first : inv system.init)
    (kept : ∀ state label reached, inv state → allowed state label →
        system.step state label = some reached → inv reached)
    {state : σ} (path : Reaches system allowed state) : inv state := by
  induction path with
  | start => exact first
  | next past lawful ran ih =>
    exact kept _ _ _ ih lawful ran

variable {inv : σ → Prop} {state : σ}

/-- Every step of a run meets a condition on the state before it. -/
def Meets (system : System σ ℓ) (allowed : σ → ℓ → Prop) : List ℓ → σ → Prop
  | [], _ => True
  | label :: rest, state =>
    allowed state label ∧
      ∀ next, system.step state label = some next → system.Meets allowed rest next

theorem meets_cons_of_some
    {label : ℓ} {rest : List ℓ} {next : σ} (ran : system.step state label = some next) :
    system.Meets allowed (label :: rest) state ↔
      allowed state label ∧ system.Meets allowed rest next := by
  simp [Meets, ran]

/-- A condition that can be evaluated can be evaluated along a run. -/
instance Meets.decidable
    [∀ state label, Decidable (allowed state label)] :
    (labels : List ℓ) → (state : σ) → Decidable (system.Meets allowed labels state)
  | [], _ => isTrue trivial
  | label :: rest, state =>
    match stepped : system.step state label with
    | none => decidable_of_iff (allowed state label) (by simp [Meets, stepped])
    | some next =>
      haveI := Meets.decidable rest next
      decidable_of_iff _ (meets_cons_of_some stepped).symm

variable {labels : List ℓ} {reached : σ}

/-- A run takes its first step and goes on from there. -/
theorem step_of_run
    {label : ℓ} {rest : List ℓ} (ran : system.run (label :: rest) state = some reached) :
    ∃ next, system.step state label = some next ∧ system.run rest next = some reached := by
  simp only [run] at ran
  split at ran
  next => cases ran
  next next moved => exact ⟨next, moved, ran⟩

/-- A run of permitted steps leads to a reachable state. -/
theorem Reaches.of_run
    (origin : Reaches system allowed state) (meets : system.Meets allowed labels state)
    (ran : system.run labels state = some reached) : Reaches system allowed reached := by
  induction labels generalizing state with
  | nil =>
    cases ran
    exact origin
  | cons label rest ih =>
    rcases step_of_run ran with ⟨next, moved, ran⟩
    exact ih (origin.next meets.1 moved) (meets.2 next moved) ran

/-- What every step keeps holds after any run. -/
theorem run_invariant
    (kept : ∀ state label reached, inv state → system.step state label = some reached → inv reached)
    (first : inv state) (ran : system.run labels state = some reached) : inv reached := by
  induction labels generalizing state with
  | nil =>
    cases ran
    exact first
  | cons label rest ih =>
    rcases step_of_run ran with ⟨next, moved, ran⟩
    exact ih (kept state label next first moved) ran

/-- A property holds in every state of a run. -/
def Throughout (system : System σ ℓ) (holds : σ → Prop) : List ℓ → σ → Prop
  | [], state => holds state
  | label :: rest, state =>
    holds state ∧ ∀ next, system.step state label = some next → system.Throughout holds rest next

variable {holds : σ → Prop}

theorem Throughout.head (always : system.Throughout holds labels state) : holds state := by
  cases labels with
  | nil => exact always
  | cons label rest => exact always.1

/--
Where permitted steps keep an invariant and any other step breaks the property
at once, the property holds throughout a run exactly if all its steps are
permitted.  What the steps of the run are assumed to meet may be used for
both.
-/
theorem throughout_iff_meets_of_assumed
    {assumed : σ → ℓ → Prop} (covers : ∀ state, inv state → holds state)
    (kept : ∀ state label reached, inv state → assumed state label →
        allowed state label → system.step state label = some reached →
        inv reached)
    (broken : ∀ state label reached, inv state → assumed state label →
        ¬ allowed state label → system.step state label = some reached →
        ¬ holds reached)
    (first : inv state) (assumes : system.Meets assumed labels state)
    (ran : system.run labels state = some reached) :
    system.Throughout holds labels state ↔ system.Meets allowed labels state := by
  induction labels generalizing state with
  | nil => exact iff_of_true (covers state first) trivial
  | cons label rest ih =>
    rcases step_of_run ran with ⟨next, moved, ran⟩
    rw [meets_cons_of_some moved] at assumes ⊢
    rcases assumes with ⟨assumption, assumes⟩
    have rest (lawful : allowed state label) :=
      ih (kept state label next first assumption lawful moved) assumes ran
    constructor
    · rintro ⟨-, later⟩
      have always := later next moved
      have lawful : allowed state label := by
        by_contra refused
        exact broken state label next first assumption refused moved always.head
      exact ⟨lawful, (rest lawful).mp always⟩
    · rintro ⟨lawful, meets⟩
      constructor
      · exact covers state first
      · intro other again
        cases moved.symm.trans again
        exact (rest lawful).mpr meets

theorem meets_of_forall (always : ∀ label ∈ labels, ∀ state, allowed state label) :
    system.Meets allowed labels state := by
  induction labels generalizing state with
  | nil => trivial
  | cons label rest ih =>
    rcases List.forall_mem_cons.mp always with ⟨first, later⟩
    exact ⟨first state, fun _ _ => ih later⟩

end System

end Libbinder.Go
