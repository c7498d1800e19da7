import Mathlib

/-!
# Transition systems

A system is a set of initial states, what an input does to a state, and which
inputs the surroundings may offer in a state.  A run is a list of inputs, oldest
first, each of them allowed when its turn came.

## Main results

* `Machine.Run.invariant` — what holds initially and survives every allowed
  input holds after every run.
* `Machine.Run.simulate` — a run of one machine is carried to a run of another
  along a map that commutes with the steps.
* `Machine.Run.erase`, `Machine.Run.exists_record` — a machine that also keeps a
  history has the runs of the machine it was made from, no fewer and no more.
-/

/-- A transition system. -/
structure Machine (σ ι : Type*) where
  /-- The states a run may begin in. -/
  Init : σ → Prop
  /-- What an input does. -/
  step : σ → ι → σ
  /-- The inputs the surroundings may offer in a state. -/
  Allowed : σ → ι → Prop

namespace Machine

variable {σ τ ι : Type*} {M : Machine σ ι} {N : Machine τ ι}

/-- `M.Run log s`: the inputs `log`, oldest first, lead from an initial state
to `s`. -/
inductive Run (M : Machine σ ι) : List ι → σ → Prop
  /-- The empty run. -/
  | init {s : σ} (h : M.Init s) : Run M [] s
  /-- One more input at the end of a run. -/
  | snoc {log : List ι} {s : σ} {i : ι} (h : Run M log s) (hi : M.Allowed s i) :
      Run M (log ++ [i]) (M.step s i)

/-- Whether inputs are allowed, each in its turn. -/
def AllowedAll (M : Machine σ ι) : σ → List ι → Prop
  | _, [] => True
  | s, i :: inputs => M.Allowed s i ∧ AllowedAll M (M.step s i) inputs

/-- More inputs at the end of a run. -/
theorem Run.append (inputs : List ι) :
    ∀ {log : List ι} {s : σ}, M.Run log s → M.AllowedAll s inputs →
      M.Run (log ++ inputs) (inputs.foldl M.step s) := by
  induction inputs with
  | nil => intro log s h _; rwa [List.append_nil]
  | cons i inputs ih =>
    intro log s h hall
    have hrest := ih (h.snoc hall.1) hall.2
    rwa [List.append_assoc] at hrest

/-- **The invariant rule.**  The property may speak of the inputs so far as well
as of the state. -/
theorem Run.invariant {P : List ι → σ → Prop} (hinit : ∀ s, M.Init s → P [] s)
    (hstep : ∀ log s i, M.Run log s → P log s → M.Allowed s i → P (log ++ [i]) (M.step s i))
    {log : List ι} {s : σ} (h : M.Run log s) : P log s := by
  induction h with
  | init h => exact hinit _ h
  | snoc h hi ih => exact hstep _ _ _ h ih hi

/-- A map of states that respects initial states, allowed inputs and steps
carries runs to runs. -/
theorem Run.simulate (f : σ → τ) (hinit : ∀ s, M.Init s → N.Init (f s))
    (hallowed : ∀ s i, M.Allowed s i → N.Allowed (f s) i)
    (hstep : ∀ s i, f (M.step s i) = N.step (f s) i)
    {log : List ι} {s : σ} (h : M.Run log s) : N.Run log (f s) := by
  induction h with
  | init h => exact .init (hinit _ h)
  | snoc h hi ih =>
    rw [hstep]
    exact .snoc ih (hallowed _ _ hi)

/-! ### Histories -/

variable {κ ε : Type*} {events : σ → ι → κ → List ε}

/-- The machine that also keeps, for every key, the events its steps meant for
that key, oldest first. -/
def record (M : Machine σ ι) (events : σ → ι → κ → List ε) : Machine (σ × (κ → List ε)) ι where
  Init := fun s => M.Init s.1 ∧ s.2 = fun _ => []
  step := fun s i => (M.step s.1 i, fun k => s.2 k ++ events s.1 i k)
  Allowed := fun s i => M.Allowed s.1 i

/-- Forgetting the history leaves a run. -/
theorem Run.erase {log : List ι} {s : σ × (κ → List ε)} (h : (M.record events).Run log s) :
    M.Run log s.1 :=
  h.simulate (M := M.record events) (N := M) Prod.fst (fun _ hs => hs.1) (fun _ _ hi => hi)
    fun _ _ => rfl

/-- Every run has its history. -/
theorem Run.exists_record (events : σ → ι → κ → List ε) {log : List ι} {s : σ}
    (h : M.Run log s) : ∃ history, (M.record events).Run log (s, history) := by
  induction h with
  | init h => exact ⟨_, .init ⟨h, rfl⟩⟩
  | snoc _ hi ih =>
    obtain ⟨history, h⟩ := ih
    exact ⟨_, h.snoc hi⟩

end Machine
