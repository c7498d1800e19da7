import Sentinel.Dependency
import Sentinel.Inventory

/-!
# Peer assignment

One observer failing to reach a host cannot distinguish a dead machine from a broken path
to it.  So each host is watched from several places, and the assignment prefers observers
that are unlike each other: one that shares the dependencies of the target, one that
depends on different things, and one that depends on nothing.

## Main definitions

* `observerCandidates` — the hosts that may observe.
* `assign` — the assignment plan.
* `AssignmentPlan.targetsFor` — what one observer has been asked to watch.

## Main results

* `assigned_spec` — observers are candidates other than the target, and there is one
  unless there is no such candidate or none is asked for.
-/

namespace Sentinel

/-- Why an observer was chosen. -/
inductive ObserverRole
  /-- Shares the target's dependency domain; sees what the target sees. -/
  | sameDomain
  /-- Depends on different things; fails independently. -/
  | differentDomain
  /-- Shares no dependency with the target at all. -/
  | independent
  /-- Chosen only to reach the requested degree. -/
  | filler
  deriving DecidableEq, Repr

/-- One observer watching one target. -/
structure Observer where
  /-- The observing entity. -/
  entity : EntityId
  /-- Why it was chosen. -/
  role : ObserverRole
  deriving DecidableEq, Repr

/-- Who watches one target. -/
structure PeerAssignment where
  /-- The entity being watched. -/
  target : EntityId
  /-- Who watches it, in preference order. -/
  observers : List Observer
  deriving DecidableEq, Repr

/-- Whether an entity observes this target. -/
def PeerAssignment.isObservedBy (assignment : PeerAssignment) (entity : EntityId) : Bool :=
  assignment.observers.any fun o => o.entity = entity

/-- How many genuinely independent viewpoints this assignment provides: observers of one
role are counted once. -/
def PeerAssignment.independentViewpoints (assignment : PeerAssignment) : ℕ :=
  (assignment.observers.map Observer.role).toFinset.card

/-- A complete assignment. -/
structure AssignmentPlan where
  /-- Changes whenever the plan does. -/
  revision : UInt64
  /-- One entry per target. -/
  assignments : List PeerAssignment
  deriving DecidableEq

/-- What one observer has been asked to watch. -/
def AssignmentPlan.targetsFor (plan : AssignmentPlan) (observer : EntityId) : List EntityId :=
  (plan.assignments.filter fun assignment => assignment.isObservedBy observer).map PeerAssignment.target

/-- The hosts in service. -/
def activeHosts (entities : List ManagedEntity) : List ManagedEntity :=
  entities.filter fun e => e.entityType = .host ∧ e.lifecycleState = .active

/-- The entities that may act as observers, in order. -/
def observerCandidates (entities : List ManagedEntity) : List EntityId :=
  (((activeHosts entities).filter fun e => e.capabilities.contains ⟨"observer.peer"⟩).map
    ManagedEntity.id).insertionSort (· ≤ ·)

namespace Peers

/-- The dependency domain of an entity: everything it transitively needs. -/
def domainOf (graph : DependencyGraph) (entity : EntityId) : Std.ExtTreeSet EntityId :=
  DependencyGraph.reached (graph.upstream entity none)

/-- How independent of the target a candidate is. -/
def roleOf (candidate target : Std.ExtTreeSet EntityId) : ObserverRole :=
  if candidate.isEmpty && target.isEmpty then .independent
  else if candidate.all fun e => !target.contains e then
    if candidate.isEmpty then .independent else .differentDomain
  else .sameDomain

/-- The candidates of one role, rotated by the target's position, so that the same few do
not end up observing everything. -/
def bucket (graph : DependencyGraph) (candidates : List EntityId) (target : EntityId) (index : ℕ)
    (role : ObserverRole) : List EntityId :=
  -- an entity cannot vouch for itself
  (candidates.filter fun c => c ≠ target ∧
    roleOf (domainOf graph c) (domainOf graph target) = role).rotate index

/-- Whether an entity is among the observers already. -/
def chosen (observers : List Observer) (entity : EntityId) : Bool := observers.any fun o => o.entity = entity

/-- Take one candidate of a role, unless there are enough observers. -/
def pick (degree : ℕ) (observers : List Observer) (kind : List EntityId × ObserverRole) : List Observer :=
  if degree ≤ observers.length then observers
  else
    match kind.1.find? fun c => !chosen observers c with
    | some candidate => observers ++ [⟨candidate, kind.2⟩]
    | none => observers

/-- Take a candidate that is left, unless there are enough observers. -/
def fill (degree : ℕ) (observers : List Observer) (candidate : EntityId) : List Observer :=
  if degree ≤ observers.length then observers
  else if chosen observers candidate then observers
  else observers ++ [⟨candidate, .filler⟩]

/-- The observers of one target: one of each kind first, then whatever is left. -/
def assigned (graph : DependencyGraph) (candidates : List EntityId) (degree : ℕ) (target : EntityId)
    (index : ℕ) : PeerAssignment :=
  let bucket := bucket graph candidates target index
  let observers := [(bucket .sameDomain, .sameDomain), (bucket .differentDomain, .differentDomain),
    (bucket .independent, .independent)].foldl (pick degree) []
  let observers := (bucket .sameDomain ++ bucket .differentDomain ++ bucket .independent).foldl
    (fill degree) observers
  ⟨target, observers⟩

end Peers

/-- Build an assignment plan. -/
def assign (targets candidates : List EntityId) (graph : DependencyGraph) (degree : UInt32)
    (revision : UInt64) : AssignmentPlan :=
  ⟨revision, targets.zipIdx.map fun target =>
    Peers.assigned graph candidates degree.toNat target.1 target.2⟩

/-- The plan of an inventory. -/
def assignmentPlan (inventory : Inventory) (degree : UInt32) (revision : UInt64) : AssignmentPlan :=
  assign ((activeHosts inventory.all).map ManagedEntity.id) (observerCandidates inventory.all)
    inventory.graph degree revision

/-! ### Who is chosen -/

namespace Peers

variable {graph : DependencyGraph} {candidates : List EntityId} {degree index : ℕ} {target : EntityId}

/-- The candidates of all roles are the candidates other than the target. -/
theorem mem_buckets (graph : DependencyGraph) (index : ℕ) {c : EntityId} :
    c ∈ bucket graph candidates target index .sameDomain ++
      bucket graph candidates target index .differentDomain ++
      bucket graph candidates target index .independent ↔ c ∈ candidates ∧ c ≠ target := by
  have hrole : roleOf (domainOf graph c) (domainOf graph target) = .sameDomain ∨
      roleOf (domainOf graph c) (domainOf graph target) = .differentDomain ∨
      roleOf (domainOf graph c) (domainOf graph target) = .independent := by
    unfold roleOf
    split_ifs <;> simp
  simp only [bucket, List.mem_append, List.mem_rotate, List.mem_filter, decide_eq_true_iff]
  tauto

section Steps

variable {observers : List Observer}

theorem prefix_fill (candidate : EntityId) : observers <+: fill degree observers candidate := by
  unfold fill
  split_ifs
  · exact List.prefix_rfl
  · exact List.prefix_rfl
  · exact List.prefix_append _ _

theorem mem_pick {kind : List EntityId × ObserverRole} {o : Observer} (h : o ∈ pick degree observers kind) :
    o ∈ observers ∨ o.entity ∈ kind.1 := by
  unfold pick at h
  split at h
  · exact .inl h
  · split at h
    · next candidate hfind =>
      rcases List.mem_append.mp h with h | h
      · exact .inl h
      · rw [List.mem_singleton.mp h]
        exact .inr (List.mem_of_find?_eq_some hfind)
    · exact .inl h

theorem mem_fill {candidate : EntityId} {o : Observer} (h : o ∈ fill degree observers candidate) :
    o ∈ observers ∨ o.entity = candidate := by
  unfold fill at h
  split_ifs at h
  · exact .inl h
  · exact .inl h
  · rcases List.mem_append.mp h with h | h
    · exact .inl h
    · rw [List.mem_singleton.mp h]
      exact .inr rfl

theorem mem_foldl_pick {o : Observer} (kinds : List (List EntityId × ObserverRole)) :
    ∀ observers : List Observer, o ∈ kinds.foldl (pick degree) observers →
      o ∈ observers ∨ ∃ kind ∈ kinds, o.entity ∈ kind.1 := by
  induction kinds with
  | nil =>
    intro observers h
    exact .inl h
  | cons kind kinds ih =>
    intro observers h
    rcases ih _ h with h | ⟨kind', hkind', h⟩
    · rcases mem_pick h with h | h
      · exact .inl h
      · exact .inr ⟨kind, List.mem_cons_self, h⟩
    · exact .inr ⟨kind', List.mem_cons_of_mem _ hkind', h⟩

theorem mem_foldl_fill {o : Observer} (rest : List EntityId) :
    ∀ observers : List Observer, o ∈ rest.foldl (fill degree) observers →
      o ∈ observers ∨ o.entity ∈ rest := by
  induction rest with
  | nil =>
    intro observers h
    exact .inl h
  | cons candidate rest ih =>
    intro observers h
    rcases ih _ h with h | h
    · rcases mem_fill h with h | h
      · exact .inl h
      · rw [h]
        exact .inr List.mem_cons_self
    · exact .inr (List.mem_cons_of_mem _ h)

/-- Observers are only added. -/
theorem prefix_foldl_fill (rest : List EntityId) :
    ∀ observers : List Observer, observers <+: rest.foldl (fill degree) observers := by
  induction rest with
  | nil =>
    intro observers
    exact List.prefix_rfl
  | cons candidate rest ih =>
    intro observers
    exact (prefix_fill candidate).trans (ih _)

/-- Someone is chosen as long as there is someone to choose. -/
theorem foldl_fill_ne_nil (hdegree : degree ≠ 0) {rest : List EntityId} (hrest : rest ≠ []) :
    rest.foldl (fill degree) observers ≠ [] := by
  obtain ⟨candidate, rest, rfl⟩ := List.exists_cons_of_ne_nil hrest
  have hfirst : fill degree observers candidate ≠ [] := by
    cases observers with
    | nil =>
      have hnone : ¬ degree ≤ ([] : List Observer).length := by simpa using hdegree
      rw [fill, if_neg hnone]
      simp [chosen]
    | cons o observers => exact fun h => List.cons_ne_nil o observers (List.prefix_nil.mp (h ▸ prefix_fill candidate))
  intro hnil
  have hprefix : fill degree observers candidate <+: rest.foldl (fill degree) (fill degree observers candidate) :=
    prefix_foldl_fill rest _
  rw [List.foldl_cons] at hnil
  rw [hnil] at hprefix
  exact hfirst (List.prefix_nil.mp hprefix)

end Steps

/-- **Who watches a target**: candidates other than the target, and someone unless there
is no such candidate or no observer is asked for. -/
theorem assigned_spec :
    (∀ o ∈ (assigned graph candidates degree target index).observers, o.entity ∈ candidates ∧ o.entity ≠ target) ∧
    ((assigned graph candidates degree target index).observers = [] ↔
      degree = 0 ∨ ∀ c ∈ candidates, c = target) := by
  have hfrom : ∀ o ∈ (assigned graph candidates degree target index).observers,
      o.entity ∈ candidates ∧ o.entity ≠ target := by
    intro o ho
    apply (mem_buckets graph index).mp
    rcases mem_foldl_fill _ _ ho with h | h
    · rcases mem_foldl_pick _ _ h with h | ⟨kind, hkind, h⟩
      · cases h
      · simp only [List.mem_cons, List.not_mem_nil, or_false] at hkind
        rcases hkind with rfl | rfl | rfl <;> simp [h]
    · exact h
  refine ⟨hfrom, ?_, ?_⟩
  · intro hnil
    by_contra hsome
    push Not at hsome
    obtain ⟨hdegree, c, hc, hne⟩ := hsome
    have hmem := (mem_buckets graph index).mpr ⟨hc, hne⟩
    exact foldl_fill_ne_nil hdegree (List.ne_nil_of_mem hmem) hnil
  · rintro (rfl | hnone)
    · have hfill : ∀ (rest : List EntityId) (observers : List Observer),
          rest.foldl (fill 0) observers = observers := by
        intro rest
        induction rest with
        | nil => intro observers; rfl
        | cons candidate rest ih => intro observers; exact ih observers
      exact hfill _ _
    · apply List.eq_nil_iff_forall_not_mem.mpr
      intro o ho
      obtain ⟨hmem, hne⟩ := hfrom o ho
      exact hne (hnone o.entity hmem)

end Peers

/-- A host that is in service and may be watched has its place in the plan. -/
theorem mem_assignments {targets candidates : List EntityId} {graph : DependencyGraph} {degree : UInt32}
    {revision : UInt64} {target : EntityId} (h : target ∈ targets) :
    ∃ index, Peers.assigned graph candidates degree.toNat target index ∈
      (assign targets candidates graph degree revision).assignments := by
  obtain ⟨index, hindex, rfl⟩ := List.mem_iff_getElem.mp h
  refine ⟨index, List.mem_map.mpr ⟨(targets[index], index), ?_, rfl⟩⟩
  exact List.mem_zipIdx_iff_getElem?.mpr (List.getElem?_eq_getElem hindex)

theorem mem_activeHosts {entities : List ManagedEntity} {host : ManagedEntity} :
    host ∈ activeHosts entities ↔
      host ∈ entities ∧ host.entityType = .host ∧ host.lifecycleState = .active := by
  simp only [activeHosts, List.mem_filter, decide_eq_true_iff]

end Sentinel
