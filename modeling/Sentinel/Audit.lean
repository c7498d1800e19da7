import Sentinel.Controller.Observer

/-!
# Is everything that should be running actually running?

A probe that never runs produces no observation, no failure and no diagnosis, so a silent
probe is itself a fault.  The audit walks over the inventory and the catalogue, asks of
each entity and probe whether anything is expected to run it, and reports those that have
been quiet for too long.

A remote probe is expected where somebody watches: every host in service when the
controller observes, and otherwise the hosts a peer has been assigned.

## Main definitions

* `observedEntities` — which entities something is watching.
* `silentProbes` — the audit.
* `Probed` — some observer runs a probe against an entity.

## Main results

* `silentProbes_probed_iff` — **when every remote probe the audit reports is one that some
  observer runs.**
-/

namespace Sentinel

/-! ### The audit -/

/-- Why a probe is expected to be producing observations for an entity. -/
inductive Expectation
  /-- An agent on the entity runs it. -/
  | locally
  /-- Another host runs it against this entity. -/
  | remotely
  deriving DecidableEq, Repr

/-- A probe that should be reporting about an entity and is not. -/
structure Finding where
  /-- The probe. -/
  probe : ProbeId
  /-- The entity it should be reporting about. -/
  entity : EntityId
  /-- That entity's name. -/
  entityName : String
  /-- Where it would run. -/
  expectation : Expectation
  /-- How often it is supposed to run. -/
  interval : Span
  /-- When it last reported, if it ever has. -/
  lastSeen : Option Timestamp
  deriving DecidableEq

/-- Whether anything could run this probe against this entity at all. -/
def expectationFor (mode : ExecutionMode) (entity : ManagedEntity) (watched : Bool) : Option Expectation :=
  match mode with
  | .local => if entity.capabilities.contains ⟨"sentinel.agent"⟩ then some .locally else none
  | .remote | .either => if watched && (endpointFor entity).isSome then some .remotely else none

/-- Which entities something is actually watching. -/
def observedEntities (inventory : Inventory) (config : Config) : Std.ExtTreeSet EntityId :=
  let hosts := (activeHosts inventory.all).map ManagedEntity.id
  if config.controller.observe then .ofList hosts
  else
    .ofList (((assignmentPlan inventory config.peerMonitoring.degree 0).assignments.filter fun assignment =>
      !assignment.observers.isEmpty).map PeerAssignment.target)

/-- How long a probe may be quiet before it is reported: ten of its intervals, and five
minutes at least.  The multiplication stops the program when it is out of range. -/
def silenceHorizon (interval : Span) : Option Span :=
  (interval.checkedMul 10).map fun horizon => horizon.orLonger (.ofSecs 300)

/-- A probe that is expected to report about an entity. -/
structure Expected where
  /-- The entity. -/
  entity : ManagedEntity
  /-- The probe, on the operator's schedule. -/
  definition : ProbeDefinition
  /-- Where it would run. -/
  expectation : Expectation

/-- What is expected of a probe, if anything, for an entity. -/
def expectedOf (config : Config) (observed : Std.ExtTreeSet EntityId) (entity : ManagedEntity)
    (entry : CatalogEntry) : Option Expected :=
  let definition := config.probes.apply entry.definition
  -- switched off on purpose is not silence
  if !config.probes.isEnabled definition.id then none
  else if !entry.reportsOnType entity.entityType then none
  else if !definition.appliesTo entity.entityType entity.capabilities then none
  else (expectationFor definition.executionMode entity (observed.contains entity.id)).map
    (⟨entity, definition, ·⟩)

/-- Everything expected to report, by entity. -/
def expected (inventory : Inventory) (config : Config) (observed : Std.ExtTreeSet EntityId) : List Expected :=
  (inventory.all.filter fun entity => entity.lifecycleState = .active).flatMap fun entity =>
    catalog.filterMap (expectedOf config observed entity)

/-- Report what is expected, if it has been quiet for too long. -/
def overdue (lastSeen : Std.ExtTreeMap (EntityId × ProbeId) Timestamp) (now : Timestamp) (pair : Expected) :
    Option (Option Finding) :=
  let seen := lastSeen[(pair.entity.id, pair.definition.id)]?
  (silenceHorizon pair.definition.interval).map fun horizon =>
    -- an hour when the horizon is not a difference between instants
    let window := horizon.toDelta.getD (3600 * 10 ^ 9)
    if seen.all fun at_ => window < (now - at_) * 1000 then
      some ⟨pair.definition.id, pair.entity.id, pair.entity.canonicalName, pair.expectation,
        pair.definition.interval, seen⟩
    else none

/-- Everything that should be reporting and is not, by probe and entity name, unless
working it out stops the program. -/
def silentProbes (inventory : Inventory) (config : Config) (observed : Std.ExtTreeSet EntityId)
    (lastSeen : Std.ExtTreeMap (EntityId × ProbeId) Timestamp) (now : Timestamp) : Option (List Finding) :=
  ((expected inventory config observed).mapM (overdue lastSeen now)).map fun findings =>
    findings.reduceOption.sortBy fun f => toLex (f.probe.name, f.entityName)

/-! ### What the audit reports -/

section Findings

variable {inventory : Inventory} {config : Config} {observed : Std.ExtTreeSet EntityId}

/-- The audit comes to an end when every silence horizon it needs is in range. -/
theorem isSome_silentProbes_iff {lastSeen : Std.ExtTreeMap (EntityId × ProbeId) Timestamp} {now : Timestamp} :
    (silentProbes inventory config observed lastSeen now).isSome = true ↔
      ∀ pair ∈ expected inventory config observed, (silenceHorizon pair.definition.interval).isSome = true := by
  rw [silentProbes, Option.isSome_map, List.isSome_mapM_iff]
  simp only [overdue, Option.isSome_map]

theorem mem_silentProbes {lastSeen : Std.ExtTreeMap (EntityId × ProbeId) Timestamp} {now : Timestamp}
    {findings : List Finding} (h : silentProbes inventory config observed lastSeen now = some findings)
    {f : Finding} :
    f ∈ findings ↔ ∃ pair ∈ expected inventory config observed, overdue lastSeen now pair = some (some f) := by
  obtain ⟨results, hresults, rfl⟩ := Option.map_eq_some_iff.mp h
  rw [(List.perm_sortBy _ _).mem_iff, List.reduceOption_mem_iff, ← List.mem_map,
    List.mapM_eq_some_iff.mp hresults, List.mem_map_of_injective (Option.some_injective _)]

theorem expectationFor_eq_remotely_iff {mode : ExecutionMode} {entity : ManagedEntity} {watched : Bool} :
    expectationFor mode entity watched = some .remotely ↔
      mode ≠ .local ∧ watched = true ∧ (endpointFor entity).isSome = true := by
  cases mode <;> simp [expectationFor, Option.isSome_iff_ne_none]

/-- When something is expected of a probe. -/
theorem expectedOf_eq_some_iff {entity : ManagedEntity} {entry : CatalogEntry} {pair : Expected} :
    expectedOf config observed entity entry = some pair ↔
      config.probes.isEnabled entry.definition.id = true ∧ entry.reportsOnType entity.entityType = true ∧
      entry.definition.appliesTo entity.entityType entity.capabilities = true ∧
      ∃ x, expectationFor entry.definition.executionMode entity (observed.contains entity.id) = some x ∧
        ⟨entity, config.probes.apply entry.definition, x⟩ = pair := by
  unfold expectedOf
  simp only [ProbeSchedules.id_apply, ProbeSchedules.appliesTo_apply, ProbeSchedules.executionMode_apply]
  split_ifs with henabled hreports happlies
  · simp_all
  · simp_all
  · simp_all
  · simp_all [Option.map_eq_some_iff]

/-- What is expected remotely of a host: it is watched, and the probe reaches it. -/
theorem exists_expectedOf_iff {host : ManagedEntity} {probe : ProbeId} (htype : host.entityType = .host) :
    (∃ entry ∈ catalog, ∃ pair, expectedOf config observed host entry = some pair ∧
      pair.expectation = .remotely ∧ pair.definition.id = probe) ↔
    host.id ∈ observed ∧ RunsAgainst config.probes host probe := by
  have hreports : ∀ entry ∈ catalog, entry.definition.executionMode ≠ .local → entry.reportsOn = none := by decide
  constructor
  · rintro ⟨entry, hentry, pair, hpair, hremotely, rfl⟩
    obtain ⟨henabled, -, happlies, x, hx, rfl⟩ := expectedOf_eq_some_iff.mp hpair
    obtain rfl : x = .remotely := hremotely
    obtain ⟨hmode, hwatched, hendpoint⟩ := expectationFor_eq_remotely_iff.mp hx
    rw [htype] at happlies
    refine ⟨hwatched, hendpoint, entry.definition, ?_, henabled, happlies, ?_⟩
    · exact mem_remoteProbes_iff.mpr ⟨entry, hentry, rfl, hmode⟩
    · exact (ProbeSchedules.id_apply _ _).symm
  · rintro ⟨hwatched, hendpoint, definition, hdefinition, henabled, happlies, rfl⟩
    obtain ⟨entry, hentry, rfl, hmode⟩ := mem_remoteProbes_iff.mp hdefinition
    have hnamed : entry.reportsOnType .host = true := by
      rw [CatalogEntry.reportsOnType, hreports entry hentry hmode]
      exact (Bool.and_eq_true_iff.mp happlies).1
    refine ⟨entry, hentry, ⟨host, config.probes.apply entry.definition, .remotely⟩, ?_, rfl,
      ProbeSchedules.id_apply _ _⟩
    rw [← htype] at hnamed happlies
    refine expectedOf_eq_some_iff.mpr ⟨henabled, hnamed, happlies, .remotely, ?_, rfl⟩
    exact expectationFor_eq_remotely_iff.mpr ⟨hmode, hwatched, hendpoint⟩

end Findings

/-! ### Who watches -/

section Watching

variable {inventory : Inventory} {config : Config} {self : Option EntityId}

/-- A peer may watch a host: some are asked for, and there is another one than the host
itself. -/
def PeerFor (inventory : Inventory) (config : Config) (host : EntityId) : Prop :=
  config.peerMonitoring.degree ≠ 0 ∧ ∃ peer ∈ observerCandidates inventory.all, peer ≠ host

/-- Some observer runs a probe against an entity: the controller, if it observes, or a
peer that has been assigned the entity. -/
def Probed (inventory : Inventory) (config : Config) (self : Option EntityId) (entity : EntityId)
    (probe : ProbeId) : Prop :=
  (config.controller.observe = true ∧
    ∃ run ∈ (RemoteObserver.withSchedules config.probes self).observeAll inventory.all,
      run.target = entity ∧ run.probe = probe) ∨
  ∃ peer revision,
    ∃ run ∈ (PeerProbes.withSchedules peer config.probes (assignedTargets inventory
      (assignmentPlan inventory config.peerMonitoring.degree revision) peer)).observeAll,
      run.target = entity ∧ run.probe = probe

/-- A host in service has somebody in the plan who watches it exactly when a peer may. -/
theorem exists_assignment_iff (revision : UInt64) {id : EntityId} :
    (∃ assignment ∈ (assignmentPlan inventory config.peerMonitoring.degree revision).assignments,
      assignment.target = id ∧ assignment.observers ≠ []) ↔
    (∃ host ∈ activeHosts inventory.all, host.id = id) ∧ PeerFor inventory config id := by
  have hassigned : ∀ (host : EntityId) (index : ℕ),
      (Peers.assigned inventory.graph (observerCandidates inventory.all)
        config.peerMonitoring.degree.toNat host index).observers ≠ [] ↔ PeerFor inventory config host := by
    intro host index
    have hdegree : config.peerMonitoring.degree.toNat = 0 ↔ config.peerMonitoring.degree = 0 := by
      rw [← UInt32.toNat_inj, UInt32.toNat_zero]
    rw [ne_eq, Peers.assigned_spec.2, not_or, PeerFor, hdegree]
    simp
  constructor
  · rintro ⟨assignment, hmem, rfl, hobservers⟩
    obtain ⟨⟨host, index⟩, hhost, rfl⟩ := List.mem_map.mp hmem
    have hlisted := List.mem_of_getElem? (List.mk_mem_zipIdx_iff_getElem?.mp hhost)
    obtain ⟨entity, hentity, rfl⟩ := List.mem_map.mp hlisted
    exact ⟨⟨entity, hentity, rfl⟩, (hassigned _ index).mp hobservers⟩
  · rintro ⟨⟨host, hhost, rfl⟩, hpeer⟩
    obtain ⟨index, hindex⟩ := mem_assignments (List.mem_map_of_mem hhost)
    exact ⟨_, hindex, rfl, (hassigned _ index).mpr hpeer⟩

theorem exists_targetsFor_iff (revision : UInt64) {id : EntityId} :
    (∃ peer, id ∈ (assignmentPlan inventory config.peerMonitoring.degree revision).targetsFor peer) ↔
    (∃ host ∈ activeHosts inventory.all, host.id = id) ∧ PeerFor inventory config id := by
  rw [← exists_assignment_iff revision]
  constructor
  · rintro ⟨peer, hpeer⟩
    obtain ⟨assignment, hassignment, rfl⟩ := List.mem_map.mp hpeer
    obtain ⟨hmem, hobserved⟩ := List.mem_filter.mp hassignment
    obtain ⟨o, ho, -⟩ := List.any_eq_true.mp hobserved
    exact ⟨assignment, hmem, rfl, List.ne_nil_of_mem ho⟩
  · rintro ⟨assignment, hmem, rfl, hobservers⟩
    obtain ⟨o, ho⟩ := List.exists_mem_of_ne_nil _ hobservers
    refine ⟨o.entity, List.mem_map.mpr ⟨assignment, List.mem_filter.mpr ⟨hmem, ?_⟩, rfl⟩⟩
    exact List.any_eq_true.mpr ⟨o, ho, decide_eq_true rfl⟩

/-- What the audit takes to be watched. -/
theorem mem_observedEntities {id : EntityId} :
    id ∈ observedEntities inventory config ↔
      (∃ host ∈ activeHosts inventory.all, host.id = id) ∧
        (config.controller.observe = true ∨ PeerFor inventory config id) := by
  unfold observedEntities
  split
  · next hobserve => simp [hobserve, Std.ExtTreeSet.mem_ofList]
  · next hobserve =>
    rw [← Std.ExtTreeSet.mem_toList, Std.ExtTreeSet.mem_toList_ofList]
    simp only [List.mem_map, List.mem_filter, hobserve, false_or, Bool.false_eq_true]
    rw [← exists_assignment_iff 0]
    simp [and_assoc, and_comm]

theorem get_of_mem_activeHosts {host : ManagedEntity} (hhost : host ∈ activeHosts inventory.all) :
    inventory.get host.id = some host := by
  obtain ⟨id, hid⟩ := Std.ExtTreeMap.mem_vals.mp (mem_activeHosts.mp hhost).1
  rw [inventory.keyed id host hid]
  exact hid

/-- What some observer runs against a host in service. -/
theorem probed_iff {host : ManagedEntity} (hhost : host ∈ activeHosts inventory.all) {probe : ProbeId} :
    Probed inventory config self host.id probe ↔ RunsAgainst config.probes host probe ∧
      (config.controller.observe = true ∧ self ≠ some host.id ∨ PeerFor inventory config host.id) := by
  have hget := get_of_mem_activeHosts hhost
  unfold Probed
  simp only [RemoteObserver.mem_observeAll, PeerProbes.mem_observeAll]
  constructor
  · rintro (⟨hobserve, other, hother, hid, hself, hruns⟩ | ⟨peer, revision, htarget, other, hother, hruns⟩)
    · have hget' := get_of_mem_activeHosts hother
      rw [hid, hget] at hget'
      obtain rfl := Option.some.inj hget'
      exact ⟨hruns, .inl ⟨hobserve, hself⟩⟩
    · rw [hget] at hother
      obtain rfl := Option.some.inj hother
      exact ⟨hruns, .inr ((exists_targetsFor_iff revision).mp ⟨peer, htarget⟩).2⟩
  · rintro ⟨hruns, ⟨hobserve, hself⟩ | hpeer⟩
    · exact .inl ⟨hobserve, host, hhost, rfl, hself, hruns⟩
    · obtain ⟨peer, htarget⟩ := (exists_targetsFor_iff 0).mpr ⟨⟨host, hhost, rfl⟩, hpeer⟩
      exact .inr ⟨peer, 0, htarget, host, hget, hruns⟩

theorem mem_expected {observed : Std.ExtTreeSet EntityId} {pair : Expected} :
    pair ∈ expected inventory config observed ↔
      ∃ entity ∈ inventory.all, entity.lifecycleState = .active ∧
        ∃ entry ∈ catalog, expectedOf config observed entity entry = some pair := by
  simp only [expected, List.mem_flatMap, List.mem_filter, List.mem_filterMap, decide_eq_true_iff, and_assoc]

theorem overdue_eq_some {lastSeen : Std.ExtTreeMap (EntityId × ProbeId) Timestamp} {now : Timestamp}
    {pair : Expected} {f : Finding} (h : overdue lastSeen now pair = some (some f)) :
    f.entity = pair.entity.id ∧ f.probe = pair.definition.id ∧ f.expectation = pair.expectation := by
  obtain ⟨horizon, -, hf⟩ := Option.map_eq_some_iff.mp h
  dsimp only at hf
  split at hf
  · rw [← Option.some.inj hf]
    exact ⟨rfl, rfl, rfl⟩
  · cases hf

/-- A remote probe that the audit reports reaches a host in service that is taken to be
watched. -/
theorem reported {lastSeen : Std.ExtTreeMap (EntityId × ProbeId) Timestamp} {now : Timestamp}
    {findings : List Finding}
    (h : silentProbes inventory config (observedEntities inventory config) lastSeen now = some findings)
    {f : Finding} (hf : f ∈ findings) (hremotely : f.expectation = .remotely) :
    ∃ host ∈ activeHosts inventory.all, host.id = f.entity ∧ RunsAgainst config.probes host f.probe ∧
      (config.controller.observe = true ∨ PeerFor inventory config host.id) := by
  obtain ⟨pair, hpair, hoverdue⟩ := (mem_silentProbes h).mp hf
  obtain ⟨hentity, hprobe, hexpectation⟩ := overdue_eq_some hoverdue
  obtain ⟨entity, hmem, hactive, entry, hentry, hexpected⟩ := mem_expected.mp hpair
  obtain ⟨-, -, -, x, hx, hpaired⟩ := expectedOf_eq_some_iff.mp hexpected
  subst hpaired
  obtain rfl : x = .remotely := hexpectation.symm.trans hremotely
  obtain ⟨-, hwatched, -⟩ := expectationFor_eq_remotely_iff.mp hx
  -- only hosts in service are taken to be watched
  obtain ⟨⟨host, hhost, hid⟩, hwatching⟩ := mem_observedEntities.mp (Std.ExtTreeSet.contains_iff_mem.mp hwatched)
  obtain rfl : host = entity := by
    obtain ⟨id, hget⟩ := Std.ExtTreeMap.mem_vals.mp hmem
    have hget' : inventory.get entity.id = some entity := by
      rw [inventory.keyed id entity hget]
      exact hget
    rw [← hid, get_of_mem_activeHosts hhost] at hget'
    exact Option.some.inj hget'
  refine ⟨host, hhost, hentity.symm, ?_, hwatching⟩
  have hruns := (exists_expectedOf_iff (mem_activeHosts.mp hhost).2.1).mp ⟨entry, hentry, _, hexpected, rfl, rfl⟩
  rw [hprobe]
  exact hruns.2

/-- When nothing has reported yet, a remote probe that reaches a host taken to be watched
is reported. -/
theorem exists_reported (now : Timestamp)
    (hrange : ∀ pair ∈ expected inventory config (observedEntities inventory config),
      (silenceHorizon pair.definition.interval).isSome = true)
    {host : ManagedEntity} (hhost : host ∈ activeHosts inventory.all)
    (hwatched : host.id ∈ observedEntities inventory config) {probe : ProbeId}
    (hruns : RunsAgainst config.probes host probe) :
    ∃ findings, silentProbes inventory config (observedEntities inventory config) ∅ now = some findings ∧
      ∃ f ∈ findings, f.entity = host.id ∧ f.probe = probe ∧ f.expectation = .remotely := by
  obtain ⟨hmem, htype, hactive⟩ := mem_activeHosts.mp hhost
  obtain ⟨entry, hentry, pair, hexpected, hremotely, rfl⟩ := (exists_expectedOf_iff htype).mpr ⟨hwatched, hruns⟩
  have hpair := mem_expected.mpr ⟨host, hmem, hactive, entry, hentry, hexpected⟩
  obtain ⟨findings, hfindings⟩ := Option.isSome_iff_exists.mp (isSome_silentProbes_iff.mpr hrange)
  obtain ⟨horizon, hhorizon⟩ := Option.isSome_iff_exists.mp (hrange pair hpair)
  have hoverdue : overdue ∅ now pair = some (some ⟨pair.definition.id, pair.entity.id, pair.entity.canonicalName,
      pair.expectation, pair.definition.interval, none⟩) := by
    simp [overdue, hhorizon]
  obtain ⟨-, -, -, x, -, rfl⟩ := expectedOf_eq_some_iff.mp hexpected
  exact ⟨findings, hfindings, _, (mem_silentProbes hfindings).mpr ⟨_, hpair, hoverdue⟩, rfl, rfl, hremotely⟩

/-- **The remote probes the audit reports.**  Each of them is one that some observer runs,
exactly when the controller does not observe, or its own host has somebody else to watch
it or nothing to be watched for; or when the audit cannot be worked out. -/
theorem silentProbes_probed_iff (inventory : Inventory) (config : Config) (self : Option EntityId) :
    (∀ lastSeen now findings,
      silentProbes inventory config (observedEntities inventory config) lastSeen now = some findings →
      ∀ f ∈ findings, f.expectation = .remotely → Probed inventory config self f.entity f.probe) ↔
    config.controller.observe = false ∨
    (∀ host ∈ activeHosts inventory.all, self = some host.id →
      (∃ probe, RunsAgainst config.probes host probe) →
      config.peerMonitoring.degree ≠ 0 ∧ ∃ peer ∈ observerCandidates inventory.all, peer ≠ host.id) ∨
    ∃ pair ∈ expected inventory config (observedEntities inventory config),
      2 ^ 64 * 10 ^ 9 ≤ pair.definition.interval.nanos * 10 := by
  have hhorizon : ∀ pair : Expected, (silenceHorizon pair.definition.interval).isSome = true ↔
      ¬ 2 ^ 64 * 10 ^ 9 ≤ pair.definition.interval.nanos * 10 := by
    intro pair
    rw [silenceHorizon, Option.isSome_map, Span.isSome_checkedMul_iff, not_le]
  constructor
  · intro hprobed
    by_contra hcondition
    push Not at hcondition
    obtain ⟨hobserve, ⟨host, hhost, rfl, ⟨probe, hruns⟩, hnopeer⟩, hinrange⟩ := hcondition
    have hwatched : host.id ∈ observedEntities inventory config :=
      mem_observedEntities.mpr ⟨⟨host, hhost, rfl⟩, .inl (by simpa using hobserve)⟩
    obtain ⟨findings, hfindings, f, hf, hentity, rfl, hremotely⟩ := exists_reported 0
      (fun pair hpair => (hhorizon pair).mpr (not_le.mpr (hinrange pair hpair))) hhost hwatched hruns
    have hnobody := hprobed ∅ 0 findings hfindings f hf hremotely
    rw [hentity, probed_iff hhost] at hnobody
    rcases hnobody.2 with ⟨-, hself⟩ | ⟨hdegree, peer, hcandidate, hother⟩
    · exact hself rfl
    · exact hother (hnopeer hdegree peer hcandidate)
  · intro hcondition lastSeen now findings hfindings f hf hremotely
    obtain ⟨host, hhost, hentity, hruns, hwatching⟩ := reported hfindings hf hremotely
    rw [← hentity, probed_iff hhost]
    refine ⟨hruns, ?_⟩
    rcases hcondition with hobserve | hpeer | ⟨pair, hpair, hover⟩
    · rw [hobserve] at hwatching
      exact .inr (hwatching.resolve_left Bool.false_ne_true)
    · by_cases hself : self = some host.id
      · exact .inr (hpeer host hhost hself ⟨f.probe, hruns⟩)
      · exact hwatching.imp (fun hobserve => ⟨hobserve, hself⟩) id
    · have hends : (silentProbes inventory config (observedEntities inventory config) lastSeen now).isSome = true := by
        rw [hfindings]
        rfl
      exact absurd hover ((hhorizon pair).mp (isSome_silentProbes_iff.mp hends pair hpair))

/-- A cluster of one host, which is the controller's own. -/
theorem own_host_reported :
    let host := ManagedEntity.new ⟨⟨1⟩⟩ .host "head"
    let inventory := Inventory.new.insertEntity host
    let config : Config := {}
    ∃ findings, silentProbes inventory config (observedEntities inventory config) ∅ 0 = some findings ∧
      ∃ f ∈ findings, f.expectation = .remotely ∧ ¬ Probed inventory config (some host.id) f.entity f.probe := by
  intro host inventory config
  have hfindings : silentProbes inventory config (observedEntities inventory config) ∅ 0 =
      some [⟨probeNetwork, ⟨⟨1⟩⟩, "head", .remotely, .ofSecs 5, none⟩] := by decide +kernel
  have hhost : host ∈ activeHosts inventory.all :=
    mem_activeHosts.mpr ⟨Std.ExtTreeMap.mem_vals.mpr ⟨host.id, Std.ExtTreeMap.getElem?_insert_self⟩, rfl, rfl⟩
  have hcandidates : observerCandidates inventory.all = [] := by decide +kernel
  refine ⟨_, hfindings, _, List.mem_singleton_self _, rfl, ?_⟩
  intro hprobed
  rcases ((probed_iff hhost).mp hprobed).2 with ⟨-, hself⟩ | ⟨-, peer, hpeer, -⟩
  · exact hself rfl
  · rw [hcandidates] at hpeer
    cases hpeer

end Watching

end Sentinel
