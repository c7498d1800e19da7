import Sentinel.Controller.Builtin
import Sentinel.Inventory
import Sentinel.Lib.Span

/-!
# The probe catalogue

Every probe there is, with its compiled-in schedule: what it requires of an entity, which
kinds of entities it measures, how often it runs, and whether it runs on the entity itself
or on an observer.

## Main definitions

* `ProbeDefinition` — the static description of a probe.
* `CatalogEntry`, `catalog` — every probe.
-/

namespace Sentinel

/-- Where a probe runs. -/
inductive ExecutionMode
  /-- On the entity it measures. -/
  | local
  /-- On an observer, measuring a different entity. -/
  | remote
  /-- Either way. -/
  | either
  deriving DecidableEq, Repr

/-- Static description of a probe: what it needs, how often it runs and how long it may
take. -/
structure ProbeDefinition where
  /-- Probe identifier. -/
  id : ProbeId
  /-- Capabilities the entity must have for this probe to apply. -/
  requiredCapabilities : List Capability
  /-- Entity types this probe can measure; none means any. -/
  targetEntityTypes : List EntityType
  /-- How often the probe should run. -/
  interval : Span
  /-- How long one execution may take. -/
  timeout : Span
  /-- Where the probe runs. -/
  executionMode : ExecutionMode
  /-- How many executions of this probe may be in flight per target. -/
  maxOutstanding : UInt32
  deriving DecidableEq

namespace ProbeDefinition

/-- No capability gate, every thirty seconds, five seconds at most, local execution and
unbounded concurrency. -/
def new (id : ProbeId) : ProbeDefinition where
  id := id
  requiredCapabilities := []
  targetEntityTypes := []
  interval := .ofSecs 30
  timeout := .ofSecs 5
  executionMode := .local
  maxOutstanding := 2 ^ 32 - 1

/-- Require capabilities. -/
def requiring (definition : ProbeDefinition) (capabilities : List String) : ProbeDefinition :=
  { definition with requiredCapabilities := capabilities.map Capability.mk }

/-- Restrict the target entity types. -/
def targeting (definition : ProbeDefinition) (entityTypes : List EntityType) : ProbeDefinition :=
  { definition with targetEntityTypes := entityTypes }

/-- Set the interval. -/
def every (definition : ProbeDefinition) (interval : Span) : ProbeDefinition :=
  { definition with interval := interval }

/-- Set the timeout. -/
def within (definition : ProbeDefinition) (timeout : Span) : ProbeDefinition :=
  { definition with timeout := timeout }

/-- Set the execution mode. -/
def mode (definition : ProbeDefinition) (executionMode : ExecutionMode) : ProbeDefinition :=
  { definition with executionMode := executionMode }

/-- Bound the number of executions in flight per target. -/
def outstanding (definition : ProbeDefinition) (maxOutstanding : UInt32) : ProbeDefinition :=
  { definition with maxOutstanding := maxOutstanding }

/-- Whether this probe applies to an entity of this type with these capabilities. -/
def appliesTo (definition : ProbeDefinition) (entityType : EntityType) (capabilities : CapabilitySet) :
    Bool :=
  (definition.targetEntityTypes.isEmpty || definition.targetEntityTypes.contains entityType) &&
    definition.requiredCapabilities.all fun capability => capabilities.contains capability

end ProbeDefinition

/-! ### The probes -/

namespace Probe

/-- Can this observer reach this host at all. -/
def reachability : ProbeDefinition :=
  ((ProbeDefinition.new probeNetwork).targeting [.host]).every (.ofSecs 5) |>.within (.ofSecs 3)
    |>.mode .either

/-- Does the agent answer. -/
def sentinelAgent : ProbeDefinition :=
  ((ProbeDefinition.new probeAgent).requiring ["sentinel.agent"]).targeting [.host]
    |>.every (.ofSecs 5) |>.within (.ofSecs 3) |>.mode .remote

/-- The state of a unit. -/
def systemd : ProbeDefinition :=
  ((ProbeDefinition.new probeSystemd).requiring ["systemd"]).targeting [.service, .host]
    |>.every (.ofSecs 10) |>.within (.ofSecs 5)

/-- Load, memory, file systems and uptime. -/
def hostMetrics : ProbeDefinition :=
  ((ProbeDefinition.new probeHost).requiring ["host.metrics"]).targeting [.host]
    |>.every (.ofSecs 15) |>.within (.ofSecs 5)

/-- Does the SSH server answer. -/
def ssh : ProbeDefinition :=
  ((ProbeDefinition.new probeSsh).requiring ["ssh.server"]).every (.ofSecs 15)
    |>.within (.ofSecs 5) |>.mode .either

/-- Number, temperature and memory of the GPUs. -/
def nvidiaGpu : ProbeDefinition :=
  ((ProbeDefinition.new probeGpu).requiring ["gpu.nvidia"]).targeting [.host]
    |>.every (.ofSecs 15) |>.within (.ofSecs 10)

/-- Does the NFS port answer. -/
def nfsPort : ProbeDefinition :=
  ((ProbeDefinition.new probeServerPort).requiring ["storage.nfs.server"]).targeting [.host, .storage]
    |>.every (.ofSecs 15) |>.within (.ofSecs 5) |>.mode .either

/-- The mounts and their state. -/
def nfsMount : ProbeDefinition :=
  ((ProbeDefinition.new probeClientMount).requiring ["storage.nfs.client"]).targeting [.host]
    |>.every (.ofSecs 30) |>.within (.ofSecs 5)

/-- An access to a mount point. -/
def nfsClientIo : ProbeDefinition :=
  ((ProbeDefinition.new probeClientIo).requiring ["storage.nfs.client"]).targeting [.host, .storage]
    |>.every (.ofSecs 30) |>.within (.ofSecs 10) |>.outstanding 1

/-- Events of the kernel and of services. -/
def journal : ProbeDefinition :=
  ((ProbeDefinition.new probeJournal).requiring ["journal.read"]).targeting [.host]
    |>.every (.ofSecs 30) |>.within (.ofSecs 10) |>.outstanding 1

/-- The exports of an NFS server. -/
def nfsExports : ProbeDefinition :=
  ((ProbeDefinition.new probeServerExports).requiring ["storage.nfs.server"]).targeting [.host]
    |>.every (.ofSecs 60) |>.within (.ofSecs 5)

end Probe

/-- One probe of the catalogue. -/
structure CatalogEntry where
  /-- The compiled-in definition. -/
  definition : ProbeDefinition
  /-- The entity types its observations are attributed to, when these are not those of
  the definition. -/
  reportsOn : Option (List EntityType) := none

/-- Whether an observation from this probe would name an entity of this type. -/
def CatalogEntry.reportsOnType (entry : CatalogEntry) (entityType : EntityType) : Bool :=
  match entry.reportsOn with
  | some types => types.contains entityType
  | none => entry.definition.targetEntityTypes.isEmpty ||
      entry.definition.targetEntityTypes.contains entityType

/-- Every probe, cheapest and most frequent first. -/
def catalog : List CatalogEntry :=
  [⟨Probe.reachability, none⟩,
    ⟨Probe.sentinelAgent, none⟩,
    -- scheduled once per service, and each observation names that service
    ⟨Probe.systemd, some [.service]⟩,
    ⟨Probe.hostMetrics, none⟩,
    ⟨Probe.ssh, none⟩,
    ⟨Probe.nvidiaGpu, none⟩,
    ⟨Probe.nfsPort, none⟩,
    ⟨Probe.nfsMount, none⟩,
    ⟨Probe.nfsClientIo, none⟩,
    ⟨Probe.journal, none⟩,
    ⟨Probe.nfsExports, none⟩]

/-- The identifiers of the probes. -/
def catalogIds : List ProbeId := catalog.map fun entry => entry.definition.id

/-- Whether a probe identifier is known. -/
def isKnown (probe : ProbeId) : Bool := catalog.any fun entry => entry.definition.id = probe

/-- What some observer runs. -/
def remoteProbes : List ProbeDefinition := [Probe.reachability, Probe.ssh, Probe.sentinelAgent, Probe.nfsPort]

/-- No probe is listed twice. -/
theorem nodup_catalogIds : catalogIds.Nodup := by decide

/-- The probes that run on an observer are those the observers have. -/
theorem mem_remoteProbes_iff {definition : ProbeDefinition} :
    definition ∈ remoteProbes ↔
      ∃ entry ∈ catalog, entry.definition = definition ∧ definition.executionMode ≠ .local := by
  constructor
  · intro h
    have hall : ∀ d ∈ remoteProbes, ∃ entry ∈ catalog, entry.definition = d ∧ d.executionMode ≠ .local := by
      decide
    exact hall definition h
  · rintro ⟨entry, hentry, rfl, hmode⟩
    have hall : ∀ entry ∈ catalog, entry.definition.executionMode ≠ .local → entry.definition ∈ remoteProbes := by
      decide
    exact hall entry hentry hmode

end Sentinel
