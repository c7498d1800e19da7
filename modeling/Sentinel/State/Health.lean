import Sentinel.Observation

/-!
# Health, components and entity state

Health is tracked per component of an entity and rolled up into one overall
verdict: the worst component that applies.

## Main definitions

* `Health`, `Health.severityRank` — the verdicts, and how alarming each is.
* `StateComponent` — the health facets of an entity.
* `ComponentState`, `EntityState`, `StateTransition` — what is recorded.
* `EntityState.setComponent`, `EntityState.rollup` — recording a component and
  the overall verdict.

## Main results

* `Health.severityRank_injective` — a rank names one health.
* `EntityState.isWorst_rollup` — the rollup is the worst applicable component.
-/

namespace Sentinel

/-! ### Health -/

/-- Health of one component, or of an entity overall. -/
inductive Health
  /-- Working as expected. -/
  | healthy
  /-- Working, but not correctly or not fully. -/
  | degraded
  /-- Not usable. -/
  | unavailable
  /-- Under an operator-declared maintenance window. -/
  | maintenance
  /-- Not enough information to say. -/
  | unknown
  /-- This component does not exist for this entity. -/
  | notApplicable
  deriving DecidableEq, Repr

namespace Health

/-- How alarming a health is; `notApplicable` ranks lowest. -/
def severityRank : Health → ℕ
  | notApplicable => 0
  | healthy => 1
  | maintenance => 2
  | unknown => 3
  | degraded => 4
  | unavailable => 5

/-- A rank names one health. -/
theorem severityRank_injective : Function.Injective severityRank := by
  intro a b h
  cases a <;> cases b <;> first | rfl | exact absurd h (by decide)

end Health

/-! ### Components -/

/-- The health facets tracked per entity. -/
inductive StateComponent
  | availability
  | network
  | host
  | agent
  | ssh
  | service
  | scheduler
  | storage
  | accelerator
  | clock
  deriving DecidableEq, Repr

/-- The position of a component in the stable order of all of them. -/
def StateComponent.index : StateComponent → ℕ
  | availability => 0
  | network => 1
  | host => 2
  | agent => 3
  | ssh => 4
  | service => 5
  | scheduler => 6
  | storage => 7
  | accelerator => 8
  | clock => 9

theorem StateComponent.index_injective : Function.Injective StateComponent.index := by
  intro a b h
  cases a <;> cases b <;> first | rfl | exact absurd h (by decide)

instance : LinearOrder StateComponent :=
  LinearOrder.lift' StateComponent.index StateComponent.index_injective

/-! ### Recorded state -/

/-- Health of one component, with the observations that justify it. -/
structure ComponentState where
  /-- Current health. -/
  health : Health
  /-- Observations supporting this verdict. -/
  evidence : List ObservationId
  /-- When this component last changed health. -/
  since : Timestamp
  /-- Consecutive bad observations counted by the debouncer. -/
  consecutiveFailures : UInt32
  /-- Consecutive good observations counted by the debouncer. -/
  consecutiveSuccesses : UInt32
  deriving DecidableEq, Repr

/-- A component state with the given health and no evidence. -/
def ComponentState.new (now : Timestamp) (health : Health) : ComponentState where
  health := health
  evidence := []
  since := now
  consecutiveFailures := 0
  consecutiveSuccesses := 0

/-- The current state of one entity. -/
structure EntityState where
  /-- The entity this state describes. -/
  entity : EntityId
  /-- Per-component health. -/
  components : Std.ExtTreeMap StateComponent ComponentState
  /-- Rolled-up health. -/
  overall : Health
  /-- Machine-readable refinements of `overall`. -/
  classifications : List String
  /-- When this state was last recomputed. -/
  updatedAt : Timestamp

namespace EntityState

/-- An entity with no observations yet: everything unknown. -/
def unknown (now : Timestamp) (entity : EntityId) : EntityState where
  entity := entity
  components := ∅
  overall := .unknown
  classifications := []
  updatedAt := now

/-- Health of one component, `notApplicable` if never recorded. -/
def component (state : EntityState) (c : StateComponent) : Health :=
  (state.components[c]?.map ComponentState.health).getD .notApplicable

/-- Worst component health, ignoring components that do not apply. -/
def rollup (state : EntityState) : Health :=
  (((state.components.vals.map ComponentState.health).filter (· ≠ .notApplicable)).maxByKey
    Health.severityRank).getD .unknown

/-- Record a component's health. -/
def setComponent (now : Timestamp) (state : EntityState) (c : StateComponent)
    (value : ComponentState) : EntityState :=
  let state := { state with components := state.components.insert c value }
  { state with overall := state.rollup, updatedAt := now }

/-- The healths an entity's recorded components show, less those that do not
apply. -/
def applicable (state : EntityState) : Set Health :=
  { h | h ≠ .notApplicable ∧
    ∃ (c : StateComponent) (r : ComponentState), state.components[c]? = some r ∧ r.health = h }

/-- **The rollup is the worst applicable component**, unknown when none is. -/
theorem isWorst_rollup (state : EntityState) :
    IsWorst Health.severityRank .unknown state.applicable state.rollup := by
  have hmem : ∀ h, h ∈ (state.components.vals.map ComponentState.health).filter
      (· ≠ .notApplicable) ↔ h ∈ state.applicable := by
    intro h
    simp only [List.mem_filter, List.mem_map, Std.ExtTreeMap.mem_vals, decide_eq_true_eq,
      applicable, Set.mem_ofPred_eq]
    constructor
    · rintro ⟨⟨r, ⟨c, hc⟩, hr⟩, hne⟩; exact ⟨hne, c, r, hc, hr⟩
    · rintro ⟨hne, c, r, hc, hr⟩; exact ⟨⟨r, ⟨c, hc⟩, hr⟩, hne⟩
  unfold rollup
  cases hmax : ((state.components.vals.map ComponentState.health).filter
      (· ≠ .notApplicable)).maxByKey Health.severityRank with
  | none =>
    rw [List.maxByKey_eq_none_iff] at hmax
    refine Or.inr ⟨?_, rfl⟩
    ext h
    rw [← hmem h, hmax]
    simp
  | some w =>
    refine Or.inl ⟨(hmem w).mp (List.maxByKey_mem hmax), fun h hh => ?_⟩
    exact Nat.isLE_compare.mp (List.isLE_maxByKey hmax ((hmem h).mpr hh))

@[simp] theorem setComponent_components (now : Timestamp) (state : EntityState)
    (c : StateComponent) (value : ComponentState) :
    (state.setComponent now c value).components = state.components.insert c value := rfl

@[simp] theorem setComponent_entity (now : Timestamp) (state : EntityState)
    (c : StateComponent) (value : ComponentState) :
    (state.setComponent now c value).entity = state.entity := rfl

/-- Recording a component leaves the rollup up to date. -/
theorem setComponent_overall (now : Timestamp) (state : EntityState) (c : StateComponent)
    (value : ComponentState) :
    (state.setComponent now c value).overall = (state.setComponent now c value).rollup := rfl

/-- Recording a component changes that component's health and no other. -/
theorem component_setComponent (now : Timestamp) (state : EntityState) (c a : StateComponent)
    (value : ComponentState) :
    (state.setComponent now c value).component a =
      if c = a then value.health else state.component a := by
  unfold component
  rw [setComponent_components, Std.ExtTreeMap.getElem?_insert_eq]
  split <;> rfl

@[simp] theorem component_unknown (now : Timestamp) (entity : EntityId) (c : StateComponent) :
    (unknown now entity).component c = .notApplicable := by
  simp [component, unknown]

end EntityState

/-- A recorded change of an entity's component health. -/
structure StateTransition where
  /-- Entity whose state changed. -/
  entity : EntityId
  /-- Component that changed. -/
  component : Option StateComponent
  /-- Health before. -/
  fromHealth : Health
  /-- Health after. -/
  toHealth : Health
  /-- When the change happened. -/
  at_ : Timestamp
  /-- Observations that triggered the change. -/
  evidence : List ObservationId
  deriving DecidableEq, Repr

end Sentinel
