import Sentinel.Basic

/-!
# Observations

An observation records what one probe execution saw: which probe, of which
entity, seen by whom, when it finished and with which outcome.  It is never
rewritten, and its identifier is the key that makes ingestion idempotent.

## Main definitions

* `ProbeStatus` — the outcome of one probe execution.
* `Observation`, `Observation.streamKey` — the record, and the stream it belongs
  to: target, probe and observer.
-/

namespace Sentinel

/-- Outcome of one probe execution. -/
inductive ProbeStatus
  /-- The probe succeeded and everything looks normal. -/
  | ok
  /-- The probe succeeded but the result is outside the healthy range. -/
  | degraded
  /-- The thing measured is broken. -/
  | failed
  /-- The probe did not complete within its timeout. -/
  | timeout
  /-- The probe is blocked in a way a timeout cannot cancel. -/
  | stuck
  /-- The probe cannot run here. -/
  | unsupported
  /-- The probe does not apply to this entity at all. -/
  | notApplicable
  deriving DecidableEq, Repr

namespace ProbeStatus

/-- Whether this status is evidence that the measured thing is broken. -/
def isBad : ProbeStatus → Bool
  | failed | timeout | stuck => true
  | _ => false

/-- Whether this status carries any signal about health at all. -/
def isConclusive : ProbeStatus → Bool
  | unsupported | notApplicable => false
  | _ => true

end ProbeStatus

/-- A stream: one probe of one entity as seen by one observer. -/
abbrev StreamKey := EntityId × ProbeId × Option EntityId

instance StreamKey.instTransOrd : Std.TransOrd StreamKey :=
  Prod.instTransOrd

/-- An immutable fact produced by one probe execution. -/
structure Observation where
  /-- Globally unique id; the ingestion idempotency key. -/
  id : ObservationId
  /-- Which probe produced this. -/
  probeId : ProbeId
  /-- The entity the probe measured. -/
  targetEntity : EntityId
  /-- The entity that ran the probe; `none` when the target observed itself. -/
  observerEntity : Option EntityId
  /-- When the probe finished. -/
  finishedAt : Timestamp
  /-- Outcome. -/
  status : ProbeStatus
  /-- Probe-specific structured facts. -/
  payload : Json

/-- The stream an observation belongs to. -/
def Observation.streamKey (o : Observation) : StreamKey :=
  (o.targetEntity, o.probeId, o.observerEntity)

end Sentinel
