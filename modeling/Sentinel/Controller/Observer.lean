import Sentinel.Config
import Sentinel.Controller.Peers

/-!
# Observers

The controller runs the remote probes against every host it knows an address for, except
the one it runs on: a controller reporting that its own host answers has established
nothing.  A peer runs the same probes against the hosts it has been assigned.

What an observer does is here the list of the probe executions it asks the runner for.

## Main definitions

* `endpointFor` — where to reach an entity.
* `RemoteObserver` — the controller as an observer.
* `PeerProbes`, `assignedTargets` — a peer, and what it is told.

## Main results

* `RemoteObserver.mem_observeAll`, `PeerProbes.mem_observeAll` — what is probed.
-/

namespace Sentinel

/-! ### Addresses -/

/-- Where to reach an entity, and on which ports. -/
structure Endpoint where
  /-- The address to connect to. -/
  address : String
  /-- SSH port, if it differs from the default. -/
  sshPort : Option UInt16
  /-- Agent port, if it differs from the default. -/
  agentPort : Option UInt16
  deriving DecidableEq, Repr

/-- The probe parameters this endpoint implies. -/
def Endpoint.parameters (endpoint : Endpoint) : Json :=
  .obj ([("address", .str endpoint.address)] ++
    endpoint.sshPort.elim [] (fun port => [("ssh_port", .num port.toNat)]) ++
    endpoint.agentPort.elim [] fun port => [("agent_port", .num port.toNat)])

/-- The items, if it is a list. -/
def Json.asArray : Json → Option (List Json)
  | .arr items => some items
  | _ => none

/-- Work out where to reach an entity.  Explicit addresses win; otherwise the canonical
name is tried. -/
def endpointFor (entity : ManagedEntity) : Option Endpoint :=
  let addresses := (((entity.metadata.get "host").bind (Json.get · "addresses")).or
    (entity.metadata.get "addresses")).bind Json.asArray
  let address := (addresses.bind fun items => items.findSome? Json.asStr).getD entity.canonicalName
  let port (key : String) : Option UInt16 :=
    (((entity.metadata.get "ports").bind (Json.get · key)).bind Json.asU64).map UInt16.ofNat
  if address.isEmpty then none else some ⟨address, port "ssh", port "agent"⟩

/-! ### Executions -/

/-- A probe execution an observer asks for. -/
structure ProbeRun where
  /-- The probe. -/
  probe : ProbeId
  /-- The entity measured. -/
  target : EntityId
  /-- Who measures it. -/
  observer : Option EntityId
  /-- The probe's parameters. -/
  parameters : Json
  /-- How long it may take. -/
  timeout : Span

/-- The remote probes that the operator has not switched off, on the operator's schedule. -/
def scheduled (schedules : ProbeSchedules) : List ProbeDefinition :=
  (remoteProbes.filter fun definition => schedules.isEnabled definition.id).map schedules.apply

/-- Whether an observer runs a probe against an entity of a type with these capabilities. -/
def ProbeDefinition.isRemotelyRun (definition : ProbeDefinition) (entityType : EntityType)
    (capabilities : CapabilitySet) : Bool :=
  definition.appliesTo entityType capabilities && definition.executionMode ≠ .local

/-! ### The controller as an observer -/

/-- Runs remote probes against the entities the controller knows about. -/
structure RemoteObserver where
  /-- The probes. -/
  probes : List ProbeDefinition
  /-- The entity that does the observing. -/
  observerEntity : Option EntityId

namespace RemoteObserver

/-- An observer with the built-in remote probes, retuned by the operator. -/
def withSchedules (schedules : ProbeSchedules) (observerEntity : Option EntityId) : RemoteObserver :=
  ⟨scheduled schedules, observerEntity⟩

/-- Probe one entity with every applicable probe. -/
def observe (observer : RemoteObserver) (entity : ManagedEntity) : List ProbeRun :=
  -- an entity cannot vouch for itself
  if observer.observerEntity = some entity.id then []
  else
    match endpointFor entity with
    | none => []
    | some endpoint =>
      (observer.probes.filter fun definition =>
        definition.isRemotelyRun entity.entityType entity.capabilities).map fun definition =>
          ⟨definition.id, entity.id, observer.observerEntity, endpoint.parameters, definition.timeout⟩

/-- Probe every host in a collection. -/
def observeAll (observer : RemoteObserver) (entities : List ManagedEntity) : List ProbeRun :=
  (activeHosts entities).flatMap observer.observe

end RemoteObserver

/-! ### Peers -/

/-- A host a peer has been told to watch, with everything needed to probe it. -/
structure AssignedTarget where
  /-- The entity. -/
  entityId : EntityId
  /-- Its name. -/
  name : String
  /-- The address to connect to. -/
  address : String
  /-- The probe parameters. -/
  parameters : Json
  /-- The target's capabilities. -/
  capabilities : CapabilitySet

/-- What one observer should watch. -/
def assignedTargets (inventory : Inventory) (plan : AssignmentPlan) (observer : EntityId) :
    List AssignedTarget :=
  (plan.targetsFor observer).filterMap fun target => do
    let entity ← inventory.get target
    let endpoint ← endpointFor entity
    return ⟨entity.id, entity.canonicalName, endpoint.address, endpoint.parameters, entity.capabilities⟩

/-- Runs the remote probes an agent has been assigned. -/
structure PeerProbes where
  /-- The probes. -/
  probes : List ProbeDefinition
  /-- The observing entity. -/
  observer : EntityId
  /-- What it is to watch. -/
  targets : List AssignedTarget

namespace PeerProbes

/-- A peer with the built-in remote probes, retuned by the operator. -/
def withSchedules (observer : EntityId) (schedules : ProbeSchedules) (targets : List AssignedTarget) :
    PeerProbes :=
  ⟨scheduled schedules, observer, targets⟩

/-- Probe one assigned target.  Only hosts are assigned. -/
def observe (peer : PeerProbes) (target : AssignedTarget) : List ProbeRun :=
  (peer.probes.filter fun definition => definition.isRemotelyRun .host target.capabilities).map
    fun definition =>
      ⟨definition.id, target.entityId, some peer.observer, target.parameters, definition.timeout⟩

/-- Probe every assigned target. -/
def observeAll (peer : PeerProbes) : List ProbeRun := peer.targets.flatMap peer.observe

end PeerProbes

/-! ### What is probed -/

section Probed

variable {schedules : ProbeSchedules}

/-- The probes an observer runs against a host. -/
theorem exists_scheduled_iff {probe : ProbeId} {entityType : EntityType} {capabilities : CapabilitySet} :
    (∃ definition ∈ scheduled schedules, definition.isRemotelyRun entityType capabilities = true ∧
      definition.id = probe) ↔
    ∃ definition ∈ remoteProbes, schedules.isEnabled definition.id = true ∧
      definition.appliesTo entityType capabilities = true ∧ definition.id = probe := by
  have hremote : ∀ definition ∈ remoteProbes, definition.executionMode ≠ .local := by decide
  simp only [scheduled, ProbeDefinition.isRemotelyRun, List.mem_map, List.mem_filter, Bool.and_eq_true,
    decide_eq_true_iff]
  constructor
  · rintro ⟨_, ⟨definition, ⟨hmem, henabled⟩, rfl⟩, ⟨happlies, -⟩, hid⟩
    rw [ProbeSchedules.appliesTo_apply] at happlies
    rw [ProbeSchedules.id_apply] at hid
    exact ⟨definition, hmem, henabled, happlies, hid⟩
  · rintro ⟨definition, hmem, henabled, happlies, hid⟩
    refine ⟨_, ⟨definition, ⟨hmem, henabled⟩, rfl⟩, ⟨?_, ?_⟩, ?_⟩
    · rw [ProbeSchedules.appliesTo_apply]
      exact happlies
    · rw [ProbeSchedules.executionMode_apply]
      exact hremote definition hmem
    · rw [ProbeSchedules.id_apply]
      exact hid

/-- A probe runs against a host: some remote probe of that name is switched on and applies
to it, and there is an address. -/
def RunsAgainst (schedules : ProbeSchedules) (host : ManagedEntity) (probe : ProbeId) : Prop :=
  (endpointFor host).isSome = true ∧ ∃ definition ∈ remoteProbes,
    schedules.isEnabled definition.id = true ∧ definition.appliesTo .host host.capabilities = true ∧
      definition.id = probe

/-- **What the controller probes**: every probe that applies to a host in service, except
on its own host. -/
theorem RemoteObserver.mem_observeAll {self : Option EntityId} {entities : List ManagedEntity}
    {target : EntityId} {probe : ProbeId} :
    (∃ run ∈ (withSchedules schedules self).observeAll entities, run.target = target ∧ run.probe = probe) ↔
      ∃ host ∈ activeHosts entities, host.id = target ∧ self ≠ some target ∧ RunsAgainst schedules host probe := by
  simp only [observeAll, List.mem_flatMap]
  constructor
  · rintro ⟨run, ⟨host, hhost, hrun⟩, rfl, rfl⟩
    have htype := (mem_activeHosts.mp hhost).2.1
    unfold observe at hrun
    split at hrun
    · cases hrun
    · next hself =>
      split at hrun
      · cases hrun
      · next endpoint hendpoint =>
        obtain ⟨definition, hdefinition, rfl⟩ := List.mem_map.mp hrun
        obtain ⟨hmem, hruns⟩ := List.mem_filter.mp hdefinition
        rw [htype] at hruns
        refine ⟨host, hhost, rfl, hself, by rw [hendpoint]; rfl, ?_⟩
        exact exists_scheduled_iff.mp ⟨definition, hmem, hruns, rfl⟩
  · rintro ⟨host, hhost, rfl, hself, hendpoint, hprobe⟩
    have htype := (mem_activeHosts.mp hhost).2.1
    obtain ⟨endpoint, hendpoint⟩ := Option.isSome_iff_exists.mp hendpoint
    obtain ⟨definition, hmem, hruns, rfl⟩ := exists_scheduled_iff.mpr hprobe
    rw [← htype] at hruns
    refine ⟨⟨definition.id, host.id, self, endpoint.parameters, definition.timeout⟩, ⟨host, hhost, ?_⟩, rfl, rfl⟩
    have hnot : ¬ (withSchedules schedules self).observerEntity = some host.id := hself
    rw [observe, if_neg hnot, hendpoint]
    exact List.mem_map.mpr ⟨definition, List.mem_filter.mpr ⟨hmem, hruns⟩, rfl⟩

/-- **What a peer probes**: every probe that applies to a host it has been assigned. -/
theorem PeerProbes.mem_observeAll {inventory : Inventory} {plan : AssignmentPlan} {peer target : EntityId}
    {probe : ProbeId} :
    (∃ run ∈ (withSchedules peer schedules (assignedTargets inventory plan peer)).observeAll,
        run.target = target ∧ run.probe = probe) ↔
      target ∈ plan.targetsFor peer ∧ ∃ host, inventory.get target = some host ∧ RunsAgainst schedules host probe := by
  simp only [observeAll, List.mem_flatMap]
  constructor
  · rintro ⟨run, ⟨assigned, hassigned, hrun⟩, rfl, rfl⟩
    obtain ⟨id, hid, hassigned⟩ := List.mem_filterMap.mp hassigned
    simp only [Option.bind_eq_bind, Option.bind_eq_some_iff] at hassigned
    obtain ⟨host, hhost, endpoint, hendpoint, hassigned⟩ := hassigned
    obtain rfl := Option.some.inj hassigned
    obtain ⟨definition, hdefinition, rfl⟩ := List.mem_map.mp hrun
    obtain ⟨hmem, hruns⟩ := List.mem_filter.mp hdefinition
    obtain rfl : host.id = id := inventory.keyed id host hhost
    exact ⟨hid, host, hhost, by rw [hendpoint]; rfl, exists_scheduled_iff.mp ⟨definition, hmem, hruns, rfl⟩⟩
  · rintro ⟨htarget, host, hhost, hendpoint, hprobe⟩
    obtain ⟨endpoint, hendpoint⟩ := Option.isSome_iff_exists.mp hendpoint
    obtain ⟨definition, hmem, hruns, rfl⟩ := exists_scheduled_iff.mpr hprobe
    obtain rfl : host.id = target := inventory.keyed target host hhost
    refine ⟨⟨definition.id, host.id, some peer, endpoint.parameters, definition.timeout⟩,
      ⟨⟨host.id, host.canonicalName, endpoint.address, endpoint.parameters, host.capabilities⟩, ?_, ?_⟩, rfl, rfl⟩
    · refine List.mem_filterMap.mpr ⟨host.id, htarget, ?_⟩
      simp [hhost, hendpoint]
    · exact List.mem_map.mpr ⟨definition, List.mem_filter.mpr ⟨hmem, hruns⟩, rfl⟩

end Probed

end Sentinel
