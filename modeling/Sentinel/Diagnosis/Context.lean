import Sentinel.Diagnosis.Basic
import Sentinel.Inventory
import Sentinel.State.Health

/-!
# What a diagnosis rule is allowed to look at

Rules see derived state, the dependency graph, and the observations behind them,
and nothing else, so a diagnosis is reproducible from stored data alone.

The index of observations keeps the newest one for each entity, probe *and
observer*: several observers report the same probe against the same target, and
their disagreement is what separates a dead host from a broken path.

## Main definitions

* `ObservationIndex`, `ObservationIndex.insert`, `ObservationIndex.latest`,
  `ObservationIndex.all`, `ObservationIndex.forEntity` — the newest observations.
* `DiagnosisContext` and what rules read of it.

## Main results

* `ObservationIndex.held_insertAll` — what an index holds was added.
* `ObservationIndex.nodup_all` — no observer has two newest observations.
-/

namespace Sentinel

/-- The most recent observation per entity, probe and observer. -/
structure ObservationIndex where
  /-- The observations, by stream. -/
  held : Std.ExtTreeMap StreamKey Observation

namespace ObservationIndex

/-- An empty index. -/
def new : ObservationIndex := ⟨∅⟩

/-- Add an observation, keeping the newest per stream; of two that finished
together, the one added later. -/
def insert (index : ObservationIndex) (o : Observation) : ObservationIndex :=
  if index.held[o.streamKey]?.any (fun existing => o.finishedAt < existing.finishedAt) then index
  else ⟨index.held.insert o.streamKey o⟩

/-- Add observations in order. -/
def insertAll (index : ObservationIndex) (observations : List Observation) : ObservationIndex :=
  observations.foldl insert index

/-- Every observer's newest observation of one probe against one entity, by
observer. -/
def all (index : ObservationIndex) (entity : EntityId) (probe : ProbeId) : List Observation :=
  (index.held.toList.filter fun entry => entry.1.1 = entity && entry.1.2.1 = probe).map Prod.snd

/-- The newest observation of one probe against one entity, from any observer. -/
def latest (index : ObservationIndex) (entity : EntityId) (probe : ProbeId) : Option Observation :=
  (index.all entity probe).maxByKey fun o => (o.finishedAt, o.observerEntity, o.id)

/-- Every observation held for one entity. -/
def forEntity (index : ObservationIndex) (entity : EntityId) : List Observation :=
  (index.held.toList.filter fun entry => entry.1.1 = entity).map Prod.snd

variable {index : ObservationIndex}

/-- Whether every observation is held under its own stream. -/
def Keyed (index : ObservationIndex) : Prop :=
  ∀ (k : StreamKey) (o : Observation), index.held[k]? = some o → o.streamKey = k

theorem keyed_new : new.Keyed := by
  intro k o h
  simp [new] at h

theorem insert_held (o : Observation) (k : StreamKey) :
    (index.insert o).held[k]? = index.held[k]? ∨
      (o.streamKey = k ∧ (index.insert o).held[k]? = some o) := by
  unfold insert
  split
  · exact Or.inl rfl
  · rw [Std.ExtTreeMap.getElem?_insert_eq]
    split
    · next hk => exact Or.inr ⟨hk, rfl⟩
    · exact Or.inl rfl

theorem Keyed.insert (h : index.Keyed) (o : Observation) : (index.insert o).Keyed := by
  intro k a ha
  rcases index.insert_held o k with heq | ⟨hk, heq⟩
  · exact h k a (heq ▸ ha)
  · rw [heq, Option.some.injEq] at ha
    rw [← ha, hk]

theorem Keyed.insertAll (observations : List Observation) :
    ∀ {index : ObservationIndex}, index.Keyed → (index.insertAll observations).Keyed := by
  induction observations with
  | nil => intro index h; exact h
  | cons o rest ih => intro index h; exact ih (h.insert o)

/-- What an index holds after more was added, it held before or was added. -/
theorem held_insertAll (observations : List Observation) :
    ∀ {index : ObservationIndex} {k : StreamKey} {a : Observation},
      (index.insertAll observations).held[k]? = some a →
      index.held[k]? = some a ∨ a ∈ observations := by
  induction observations with
  | nil => intro index k a h; exact Or.inl h
  | cons o rest ih =>
    intro index k a h
    rcases ih h with h | h
    · rcases index.insert_held o k with heq | ⟨-, heq⟩
      · exact Or.inl (heq ▸ h)
      · rw [heq, Option.some.injEq] at h
        exact Or.inr (h ▸ List.mem_cons_self)
    · exact Or.inr (List.mem_cons_of_mem _ h)

theorem mem_all (h : index.Keyed) {e : EntityId} {p : ProbeId} {o : Observation} :
    o ∈ index.all e p ↔
      index.held[o.streamKey]? = some o ∧ o.targetEntity = e ∧ o.probeId = p := by
  rw [all, List.mem_map]
  constructor
  · rintro ⟨⟨k, a⟩, hmem, rfl⟩
    obtain ⟨hmem, hk⟩ := List.mem_filter.mp hmem
    have hheld := Std.ExtTreeMap.mem_toList_iff_getElem?_eq_some.mp hmem
    have hkey := h k a hheld
    subst hkey
    simp only [Bool.and_eq_true, decide_eq_true_eq] at hk
    exact ⟨hheld, hk⟩
  · rintro ⟨hheld, rfl, rfl⟩
    refine ⟨(o.streamKey, o), List.mem_filter.mpr ⟨?_, by simp [Observation.streamKey]⟩, rfl⟩
    exact Std.ExtTreeMap.mem_toList_iff_getElem?_eq_some.mpr hheld

/-- No observer has two newest observations. -/
theorem nodup_all (h : index.Keyed) (e : EntityId) (p : ProbeId) :
    ((index.all e p).map Observation.observerEntity).Nodup := by
  have hkeys := Std.ExtTreeMap.nodup_keys_toList index.held
  rw [all, List.map_map]
  rw [List.Nodup, List.pairwise_map] at hkeys ⊢
  refine (hkeys.filter _).imp_of_mem ?_
  rintro ⟨k, a⟩ ⟨k', a'⟩ ha ha' hne hobserver
  obtain ⟨ha, hk⟩ := List.mem_filter.mp ha
  obtain ⟨ha', hk'⟩ := List.mem_filter.mp ha'
  have hkey := h k a (Std.ExtTreeMap.mem_toList_iff_getElem?_eq_some.mp ha)
  have hkey' := h k' a' (Std.ExtTreeMap.mem_toList_iff_getElem?_eq_some.mp ha')
  simp only [Bool.and_eq_true, decide_eq_true_eq] at hk hk'
  refine hne (Prod.ext (hk.1.trans hk'.1.symm) (Prod.ext (hk.2.trans hk'.2.symm) ?_))
  simpa [← hkey, ← hkey', Observation.streamKey] using hobserver

end ObservationIndex

/-! ### The context -/

/-- Everything a rule may consult. -/
structure DiagnosisContext where
  /-- The environment being diagnosed. -/
  environment : String
  /-- Entities and their dependency graph. -/
  inventory : Inventory
  /-- Derived state, by entity. -/
  states : Std.ExtTreeMap EntityId EntityState
  /-- The observations behind that state. -/
  observations : ObservationIndex

namespace DiagnosisContext

variable (context : DiagnosisContext)

/-- An entity by identifier. -/
def entity (id : EntityId) : Option ManagedEntity := context.inventory.get id

/-- One component's health, unknown if the entity has no state at all. -/
def component (id : EntityId) (c : StateComponent) : Health :=
  (context.states[id]?.map fun s => s.component c).getD .unknown

/-- Whether a component is positively known to be healthy. -/
def isHealthy (id : EntityId) (c : StateComponent) : Bool := context.component id c = .healthy

/-- Active entities of one type, in a stable order. -/
def entitiesOfType (entityType : EntityType) : List ManagedEntity :=
  context.inventory.all.filter fun e => e.entityType = entityType && e.lifecycleState = .active

/-- The newest observation of one probe against one entity, if it carries a
signal. -/
def observation (entity : EntityId) (probe : ProbeId) : Option Observation :=
  (context.observations.latest entity probe).filter fun o => o.status.isConclusive

/-- A field of a probe's newest payload. -/
def payload (entity : EntityId) (probe : ProbeId) (field : String) : Option Json :=
  (context.observation entity probe).bind fun o => o.payload.get field

/-- A boolean field from a probe's newest payload. -/
def payloadBool (entity : EntityId) (probe : ProbeId) (field : String) : Option Bool :=
  (context.payload entity probe field).bind Json.asBool

/-- A string field from a probe's newest payload. -/
def payloadStr (entity : EntityId) (probe : ProbeId) (field : String) : Option String :=
  (context.payload entity probe field).bind Json.asStr

/-- An integer field from a probe's newest payload. -/
def payloadU64 (entity : EntityId) (probe : ProbeId) (field : String) : Option ℕ :=
  (context.payload entity probe field).bind Json.asU64

end DiagnosisContext

end Sentinel
