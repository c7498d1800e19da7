import Sentinel.Controller.Builtin
import Sentinel.Diagnosis.Context

/-!
# Diagnosis rules

A rule reads a context and concludes.  Most rules look at one host at a time and, if
it meets their conditions, name that host; what such a rule is made of is a
`HostRule`.  The investigation steps that diagnoses recommend only ever read.

## Main definitions

* `DiagnosisRule`, `HostRule` — a rule, and one that concludes host by host.
* `Investigation.step`, `Investigation.entity`, `Investigation.observations` — what
  an operator is told to look at.
* `DiagnosisContext.hostLooksHealthy` — positive evidence that a host is up.

## Main results

* `HostRule.mem_evaluate` — what such a rule concludes.
-/

namespace Sentinel

/-! ### Investigation steps -/

namespace Investigation

/-- A shell argument. -/
def quote (value : String) : String := "'" ++ "'\"'\"'".intercalate (value.splitOn "'") ++ "'"

/-- A command of the monitor itself. -/
def sentinel (arguments : String) : String := "sudo -u sentinel sentinel " ++ arguments

/-- Where to look, at what, and with which command. -/
def step (location check command : String) : String := location ++ "で、" ++ check ++ "。\n" ++ command

/-- An entity as a shell argument. -/
def name (entity : ManagedEntity) : String :=
  quote (entity.entityType.asStr ++ "/" ++ entity.canonicalName)

/-- Look at an entity. -/
def entity (entity : ManagedEntity) : String :=
  step "Sentinel controller" "接続先と各項目の状態、観測時刻を確認してください"
    (sentinel ("entity show " ++ name entity ++ " --json"))

/-- Look at what a probe observed of an entity. -/
def observations (entity : ManagedEntity) (probe : ProbeId) (check : String) : String :=
  step "Sentinel controller" check
    (sentinel ("entity observations " ++ name entity ++ " --probe " ++ quote probe.name ++
      " --limit 20 --json"))

end Investigation

/-! ### What rules share -/

namespace DiagnosisContext

variable (context : DiagnosisContext)

/-- Identifiers of everything observed of an entity, so that a diagnosis can be traced
back. -/
def evidenceFor (entity : EntityId) : List ObservationId :=
  (context.observations.forEntity entity).map Observation.id

/-- Whether a component is positively broken, as opposed to merely unknown. -/
def isBroken (entity : EntityId) (c : StateComponent) : Bool :=
  context.component entity c = .unavailable || context.component entity c = .degraded

/-- Whether there is positive evidence that a host is reachable and running: the
network reaches it, and something on it answers. -/
def hostLooksHealthy (host : EntityId) : Bool :=
  context.isHealthy host .network && (context.isHealthy host .agent || context.isHealthy host .ssh)

/-- The names of those entities that are known. -/
def names (entities : List EntityId) : List String :=
  (entities.filterMap context.entity).map ManagedEntity.canonicalName

/-- An active entity is in the inventory under its identifier. -/
theorem entity_of_mem {entityType : EntityType} {e : ManagedEntity}
    (h : e ∈ context.entitiesOfType entityType) :
    context.entity e.id = some e ∧ e.entityType = entityType ∧ e.lifecycleState = .active := by
  obtain ⟨hmem, htype⟩ := List.mem_filter.mp h
  rw [Bool.and_eq_true, decide_eq_true_iff, decide_eq_true_iff] at htype
  obtain ⟨id, hid⟩ := Std.ExtTreeMap.mem_vals.mp hmem
  rw [context.inventory.keyed id e hid]
  exact ⟨hid, htype⟩

/-- An active entity of a type is one the inventory has under its identifier. -/
theorem mem_entitiesOfType {entityType : EntityType} {e : ManagedEntity} :
    e ∈ context.entitiesOfType entityType ↔
      context.entity e.id = some e ∧ e.entityType = entityType ∧ e.lifecycleState = .active := by
  refine ⟨context.entity_of_mem, fun ⟨hget, htype, hactive⟩ => List.mem_filter.mpr ⟨?_, ?_⟩⟩
  · exact Std.ExtTreeMap.mem_vals.mpr ⟨e.id, hget⟩
  · simp [htype, hactive]

end DiagnosisContext

/-! ### Rules -/

/-- One conclusion a set of evidence can support. -/
structure DiagnosisRule where
  /-- Stable identifier. -/
  id : RuleId
  /-- What the rule detects. -/
  description : String
  /-- Evaluate the rule. -/
  evaluate : DiagnosisContext → List Diagnosis

/-- A rule that looks at one active host at a time and, where it applies, names it. -/
structure HostRule where
  /-- Stable identifier. -/
  id : RuleId
  /-- What the rule detects. -/
  description : String
  /-- Whether the rule applies to a host. -/
  applies : DiagnosisContext → ManagedEntity → Bool
  /-- What it then concludes. -/
  kind : DiagnosisContext → ManagedEntity → DiagnosisType
  /-- How sure it is. -/
  confidence : DiagnosisContext → ManagedEntity → Confidence
  /-- What it suspects to be the cause. -/
  roots : DiagnosisContext → ManagedEntity → List EntityId
  /-- The summary. -/
  summary : DiagnosisContext → ManagedEntity → String
  /-- What it recommends to look at. -/
  actions : DiagnosisContext → ManagedEntity → List String

namespace HostRule

/-- What the rule concludes about a host it applies to. -/
def diagnosis (rule : HostRule) (context : DiagnosisContext) (host : ManagedEntity) : Diagnosis where
  diagnosisType := rule.kind context host
  affectedEntities := [host.id]
  suspectedRootEntities := rule.roots context host
  confidence := rule.confidence context host
  evidence := context.evidenceFor host.id
  ruleId := rule.id
  summary := rule.summary context host
  recommendedActions := rule.actions context host

/-- The rule itself. -/
def toRule (rule : HostRule) : DiagnosisRule where
  id := rule.id
  description := rule.description
  evaluate := fun context =>
    ((context.entitiesOfType .host).filter (rule.applies context)).map (rule.diagnosis context)

/-- What such a rule concludes: one diagnosis of each active host it applies to. -/
theorem mem_evaluate {rule : HostRule} {context : DiagnosisContext} {d : Diagnosis} :
    d ∈ rule.toRule.evaluate context ↔
      ∃ host ∈ context.entitiesOfType .host, rule.applies context host = true ∧
        rule.diagnosis context host = d := by
  simp only [toRule, List.mem_map, List.mem_filter, and_assoc]

end HostRule

end Sentinel
