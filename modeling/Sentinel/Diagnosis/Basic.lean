import Sentinel.Observation

/-!
# Diagnoses

A diagnosis is what a rule concluded: which fault, of which entities, caused by
which, how sure the rule is and on what evidence.  The kind of a diagnosis is an
open name, so that an integration can add its own.

## Main definitions

* `DiagnosisType`, `RuleId`, `Confidence`, `Diagnosis`.
* `Kind` — the diagnoses the built-in rules can produce.
-/

namespace Sentinel

/-- The conclusion a rule reached. -/
structure DiagnosisType where
  /-- Its name. -/
  name : String
  deriving DecidableEq, Repr

/-- Identifier of the rule that produced a diagnosis. -/
structure RuleId where
  /-- Its name. -/
  name : String
  deriving DecidableEq, Repr

/-! ### Built-in kinds -/

namespace Kind

/-- No independent observer can reach the entity. -/
def hostUnreachable : DiagnosisType := ⟨"HOST_UNREACHABLE"⟩

/-- Some observers reach the entity and others do not: the path is at fault. -/
def pathSpecificNetworkFailure : DiagnosisType := ⟨"PATH_SPECIFIC_NETWORK_FAILURE"⟩

/-- SSH is down while the host answers otherwise. -/
def sshServiceFailure : DiagnosisType := ⟨"SSH_SERVICE_FAILURE"⟩

/-- The agent is down while the host answers otherwise. -/
def sentinelAgentFailure : DiagnosisType := ⟨"SENTINEL_AGENT_FAILURE"⟩

/-- `slurmd` is down while the host is healthy. -/
def slurmdServiceFailure : DiagnosisType := ⟨"SLURMD_SERVICE_FAILURE"⟩

/-- The host is healthy but the scheduler will not use it. -/
def slurmOnlyDegradation : DiagnosisType := ⟨"SLURM_ONLY_DEGRADATION"⟩

/-- The scheduler control plane itself is impaired. -/
def slurmControlPlaneFailure : DiagnosisType := ⟨"SLURM_CONTROL_PLANE_FAILURE"⟩

/-- Configured resources do not match observed hardware. -/
def resourceConfigurationMismatch : DiagnosisType := ⟨"RESOURCE_CONFIGURATION_MISMATCH"⟩

/-- An NFS server's export service has failed. -/
def nfsServiceFailure : DiagnosisType := ⟨"NFS_SERVICE_FAILURE"⟩

/-- One client's NFS access is broken while the server is fine. -/
def nfsClientFailure : DiagnosisType := ⟨"NFS_CLIENT_FAILURE"⟩

/-- Several clients of one storage entity failed together. -/
def sharedStorageFailure : DiagnosisType := ⟨"SHARED_STORAGE_FAILURE"⟩

/-- GPU count disagrees with the scheduler's expectation. -/
def gpuConfigurationMismatch : DiagnosisType := ⟨"GPU_CONFIGURATION_MISMATCH"⟩

/-- Wall clocks disagree beyond the configured tolerance. -/
def clockSkew : DiagnosisType := ⟨"CLOCK_SKEW"⟩

/-- The host's boot id changed. -/
def hostRebooted : DiagnosisType := ⟨"HOST_REBOOTED"⟩

end Kind

/-- How sure the engine is. -/
inductive Confidence
  /-- A weak hypothesis worth showing but not acting on. -/
  | low
  /-- Plausible, with partial evidence. -/
  | medium
  /-- Strongly supported by independent evidence. -/
  | high
  /-- Directly evidenced; no inference involved. -/
  | confirmed
  deriving DecidableEq, Repr

/-- Stable string form of a confidence. -/
def Confidence.asStr : Confidence → String
  | low => "low"
  | medium => "medium"
  | high => "high"
  | confirmed => "confirmed"

/-- One conclusion, with the evidence behind it. -/
structure Diagnosis where
  /-- What the rule concluded. -/
  diagnosisType : DiagnosisType
  /-- Entities showing symptoms. -/
  affectedEntities : List EntityId
  /-- Entities suspected of causing them. -/
  suspectedRootEntities : List EntityId
  /-- How sure the rule is. -/
  confidence : Confidence
  /-- Observations backing the conclusion. -/
  evidence : List ObservationId
  /-- The rule that fired. -/
  ruleId : RuleId
  /-- Human-readable summary. -/
  summary : String
  /-- Read-only commands an operator may want to run. -/
  recommendedActions : List String
  deriving DecidableEq, Repr

end Sentinel
