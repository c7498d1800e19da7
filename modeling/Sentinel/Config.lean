import Sentinel.Inventory.StaticConfig
import Sentinel.Persistence.Retention
import Sentinel.Probes.Catalog

/-!
# Configuration

The configuration file as it is parsed: deployment data, and how often and how long things
are done.  Durations are written as text and may have any magnitude.

A probe keeps its compiled-in schedule unless the file names it.  The number of executions
in flight may be lowered there but never raised.

## Main definitions

* `Config` — the parsed file.
* `ProbeSchedules.apply`, `ProbeSchedules.isEnabled` — operator control over a probe.
* `Config.RetentionPeriod.cutoff` — the instant before which records may be deleted, unless
  working it out stops the program.
-/

namespace Sentinel

/-! ### Probe schedules -/

/-- Overrides for one probe. -/
structure ProbeSchedule where
  /-- How often the probe runs. -/
  interval : Option Span := none
  /-- How long one execution may take. -/
  timeout : Option Span := none
  /-- How many executions may be in flight per target. -/
  maxOutstanding : Option UInt32 := none
  /-- Whether the probe runs at all. -/
  enabled : Option Bool := none

/-- Probe schedule overrides, keyed by probe. -/
abbrev ProbeSchedules := Std.ExtTreeMap ProbeId ProbeSchedule

namespace ProbeSchedules

variable (schedules : ProbeSchedules)

/-- Whether a probe should run at all. -/
def isEnabled (probe : ProbeId) : Bool := (schedules[probe]?.bind ProbeSchedule.enabled).getD true

/-- Apply the override for a probe, if there is one. -/
def apply (definition : ProbeDefinition) : ProbeDefinition :=
  match schedules[definition.id]? with
  | none => definition
  | some schedule =>
    { definition with
      interval := schedule.interval.getD definition.interval
      timeout := schedule.timeout.getD definition.timeout
      -- downward only, and never to zero
      maxOutstanding := schedule.maxOutstanding.elim definition.maxOutstanding fun limit =>
        min definition.maxOutstanding (max limit 1) }

/-- A schedule changes neither what a probe is nor where it applies. -/
@[simp] theorem id_apply (definition : ProbeDefinition) : (apply schedules definition).id = definition.id := by
  unfold apply
  split <;> rfl

@[simp] theorem executionMode_apply (definition : ProbeDefinition) :
    (apply schedules definition).executionMode = definition.executionMode := by
  unfold apply
  split <;> rfl

@[simp] theorem appliesTo_apply (definition : ProbeDefinition) :
    (apply schedules definition).appliesTo = definition.appliesTo := by
  unfold apply
  split <;> rfl

end ProbeSchedules

/-! ### Sections of the file -/

/-- Controller settings. -/
structure ControllerConfig where
  /-- Address the controller listens on. -/
  listen : String := "0.0.0.0:7443"
  /-- How often inventory discovery runs. -/
  inventoryInterval : Span := .ofSecs 300
  /-- Whether the controller itself probes entities remotely. -/
  observe : Bool := true

/-- Agent settings. -/
structure AgentConfig where
  /-- Controller address to report to. -/
  controllerAddress : Option String := none

/-- Peer monitoring settings. -/
structure PeerMonitoringConfig where
  /-- How many observers watch each entity. -/
  degree : UInt32 := 3

/-- How long one class of record is kept. -/
inductive Config.RetentionPeriod
  /-- Delete records older than this; the source's `For`. -/
  | lasting (duration : Span)
  /-- Never delete. -/
  | forever
  deriving DecidableEq

/-- Retention settings. -/
structure Config.RetentionConfig where
  /-- Whether the controller prunes at all. -/
  enabled : Bool := true
  /-- How often pruning runs. -/
  interval : Span := .ofSecs 3600
  /-- How long individual observations are kept. -/
  observations : Config.RetentionPeriod := .lasting (.ofSecs 1209600)
  /-- How many observations to keep per entity regardless of age. -/
  keepPerEntity : UInt32 := 64
  /-- How long state transitions are kept. -/
  transitions : Config.RetentionPeriod := .lasting (.ofSecs 7776000)
  /-- How long resolved incidents are kept. -/
  resolvedIncidents : Config.RetentionPeriod := .lasting (.ofSecs 15552000)
  /-- How long diagnoses not attached to any incident are kept. -/
  diagnoses : Config.RetentionPeriod := .lasting (.ofSecs 2592000)

/-- Transport security settings. -/
structure TlsConfig where
  /-- Server certificate chain. -/
  cert : Option String := none
  /-- Server private key. -/
  key : Option String := none
  /-- CA that client certificates must be signed by. -/
  clientCa : Option String := none
  /-- CA to trust when connecting to the controller. -/
  ca : Option String := none
  /-- Client certificate chain to present to the controller. -/
  clientCert : Option String := none
  /-- Private key of the client certificate. -/
  clientKey : Option String := none
  /-- Connect without verifying the controller's certificate. -/
  insecureSkipVerify : Bool := false

/-- The newest schema version this build understands. -/
def configVersion : UInt32 := 1

/-- The parsed configuration file. -/
structure Config where
  /-- Schema version of this file. -/
  configVersion : UInt32 := configVersion
  /-- The environment this node belongs to. -/
  environment : String := "default"
  /-- Controller settings. -/
  controller : ControllerConfig := {}
  /-- Agent settings. -/
  agent : AgentConfig := {}
  /-- Peer monitoring settings. -/
  peerMonitoring : PeerMonitoringConfig := {}
  /-- Statically declared entities. -/
  entities : List EntityConfig := []
  /-- Statically declared dependency edges. -/
  dependencies : List DependencyConfig := []
  /-- How long recorded data is kept. -/
  retention : Config.RetentionConfig := {}
  /-- Transport security for the controller. -/
  tls : TlsConfig := {}
  /-- Per-probe schedule overrides. -/
  probes : ProbeSchedules := ∅

/-- Whether parsing lets the schema version pass. -/
def Config.isSupported (config : Config) : Bool := config.configVersion ≤ Sentinel.configVersion

/-! ### How long records are kept -/

namespace Config.RetentionPeriod

/-- The instant before which records may be deleted, in nanoseconds, or `some none` to keep
all.  The subtraction stops the program when the instant has no date. -/
def cutoff (now : Timestamp) : Config.RetentionPeriod → Option (Option ℤ)
  | forever => some none
  | lasting duration =>
    match duration.toDelta with
    | none => some none
    | some delta => (Span.before (now * 1000) delta).map some

/-- The period in whole microseconds, the resolution records are dated with. -/
def rounded : Config.RetentionPeriod → Sentinel.RetentionPeriod
  | lasting duration => .lasting (duration.nanos / 1000)
  | forever => .forever

/-- Unless the program stops, a period of whole microseconds makes those records old that
it makes old in the model of pruning. -/
theorem cutoff_rounded {now : Timestamp} {period : Config.RetentionPeriod} {instant : Option ℤ}
    (h : period.cutoff now = some instant)
    (hwhole : ∀ duration, period = lasting duration → 1000 ∣ duration.nanos) (at_ : Timestamp) :
    (∃ ns, instant = some ns ∧ at_ * 1000 < ns) ↔ ∃ c, period.rounded.cutoff now = some c ∧ at_ < c := by
  have hbounds : Span.maxDelta = 1000 * maxDuration := rfl
  have hold : ∀ (a b : ℤ) (n : ℕ), a * 1000 < b * 1000 - n ↔ a < b - (n / 1000 : ℕ) := by
    intro a b n
    omega
  cases period with
  | forever =>
    obtain rfl : none = instant := Option.some.inj h
    simp [rounded, Sentinel.RetentionPeriod.cutoff]
  | lasting duration =>
    have hdvd := hwhole duration rfl
    have hcut : (rounded (lasting duration)).cutoff now =
        if duration.nanos / 1000 ≤ maxDuration then some (now - (duration.nanos / 1000 : ℕ)) else none := rfl
    rw [hcut]
    by_cases hle : duration.nanos ≤ Span.maxDelta
    · have hdelta : duration.toDelta = some (duration.nanos : ℤ) := if_pos hle
      rw [if_pos (show duration.nanos / 1000 ≤ maxDuration by omega)]
      simp only [cutoff, hdelta, Span.before] at h
      split at h
      · obtain rfl : some (now * 1000 - duration.nanos) = instant := Option.some.inj h
        simp only [Option.some.injEq, exists_eq_left']
        exact hold at_ now duration.nanos
      · cases h
    · have hdelta : duration.toDelta = none := if_neg hle
      rw [if_neg (show ¬ duration.nanos / 1000 ≤ maxDuration by omega)]
      simp only [cutoff, hdelta] at h
      obtain rfl : none = instant := Option.some.inj h
      simp

end Config.RetentionPeriod

end Sentinel
