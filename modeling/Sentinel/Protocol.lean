import Sentinel.Controller.Ingest
import Sentinel.Controller.Observer
import Sentinel.Controller.Registration

/-!
# The wire protocol

What agents and the controller say to each other, and the two checks every request but one
has to pass: that it carries the credential of the cluster and speaks this version.

A credential is compared byte by byte without stopping at the first difference, so that
the time taken tells nothing about it.

## Main definitions

* `RegisterResponse`, `HeartbeatRequest`, `HeartbeatResponse`, `ObservationBatch`,
  `AssignmentsResponse`, `HealthResponse`, `ErrorResponse` — the messages.
* `checkVersion` — the version a peer offers.
* `ClusterCredential.verifyHeader` — the credential it presents.

## Main results

* `constantTimeEq_iff` — the comparison is that of the bytes.
* `ClusterCredential.verifyHeader_eq_ok_iff` — **the header of the cluster, and no other, is
  accepted.**
-/

namespace Sentinel

/-- Wire protocol version. -/
def protocolVersion : UInt32 := 1

/-- Binary version. -/
def binaryVersion : String := "1.0.7"

/-! ### Messages -/

/-- What the controller tells an agent after registration. -/
structure RegisterResponse where
  /-- Protocol version the controller speaks. -/
  protocolVersion : UInt32
  /-- The agent's stable identity. -/
  agentId : Uuid
  /-- This registration's session. -/
  sessionId : Uuid
  /-- The entity the controller assigned to this host. -/
  entityId : String
  /-- The controller's clock. -/
  serverTime : Timestamp
  /-- How often to heartbeat. -/
  heartbeatInterval : Duration
  deriving DecidableEq, Repr

/-- A periodic liveness report. -/
structure HeartbeatRequest where
  /-- Protocol version. -/
  protocolVersion : UInt32
  /-- The agent's identity. -/
  agentId : Uuid
  /-- The current session. -/
  sessionId : Uuid
  /-- Current boot id. -/
  bootId : Option String
  /-- The agent's clock. -/
  agentTime : Timestamp
  /-- Observations waiting in the local spool. -/
  spooledObservations : UInt64
  deriving DecidableEq, Repr

/-- The controller's reply to a heartbeat. -/
structure HeartbeatResponse where
  /-- Protocol version. -/
  protocolVersion : UInt32
  /-- The controller's clock. -/
  serverTime : Timestamp
  /-- Measured wall-clock difference, in milliseconds. -/
  clockSkewMs : ℤ
  /-- Whether the agent should register again. -/
  reregister : Bool
  /-- Current peer assignment revision. -/
  assignmentRevision : UInt64
  deriving DecidableEq, Repr

/-- A batch of observations from an agent. -/
structure ObservationBatch where
  /-- Protocol version. -/
  protocolVersion : UInt32
  /-- The reporting agent. -/
  agentId : Uuid
  /-- The current session. -/
  sessionId : Uuid
  /-- The observations. -/
  observations : List Observation

/-- What one agent has been asked to observe. -/
structure AssignmentsResponse where
  /-- Protocol version. -/
  protocolVersion : UInt32
  /-- The plan revision. -/
  revision : UInt64
  /-- The entities this agent should observe. -/
  targets : List AssignedTarget

/-- The controller's own health. -/
structure HealthResponse where
  /-- Protocol version. -/
  protocolVersion : UInt32
  /-- Controller binary version. -/
  version : String
  /-- The environment served. -/
  environment : String
  /-- The controller's clock. -/
  serverTime : Timestamp
  /-- Entities known. -/
  entities : ℕ
  /-- Agents that have registered. -/
  agents : ℕ
  deriving DecidableEq, Repr

/-- An error, in the shape every endpoint uses. -/
structure ErrorResponse where
  /-- Machine-readable discriminator. -/
  error : String
  /-- Human-readable detail. -/
  message : String
  deriving DecidableEq, Repr

/-! ### Versions -/

/-- A protocol version mismatch. -/
structure VersionMismatch where
  /-- What the peer offered. -/
  offered : UInt32
  /-- What this build speaks. -/
  supported : UInt32
  deriving DecidableEq, Repr

/-- Check a peer's protocol version against this build's. -/
def checkVersion (offered : UInt32) : Except VersionMismatch Unit :=
  if offered = protocolVersion then .ok () else .error ⟨offered, protocolVersion⟩

/-! ### Credentials -/

/-- Why a credential was refused. -/
inductive AuthError
  /-- No credential was presented. -/
  | missing
  /-- The header was not a bearer token. -/
  | malformed
  /-- The credential did not match. -/
  | rejected
  deriving DecidableEq, Repr

/-- What is said of a refused credential. -/
def AuthError.message : AuthError → String
  | .missing => "no credential presented"
  | .malformed => "credential must be presented as `Authorization: Bearer <token>`"
  | .rejected => "credential rejected"

/-- Compare without an early return. -/
def constantTimeEq (a b : List UInt8) : Bool :=
  if a.length ≠ b.length then false
  else (a.zip b).foldl (fun difference p => difference ||| (p.1 ^^^ p.2)) 0 = 0

/-- A shared, cluster-scoped credential. -/
structure ClusterCredential where
  /-- The token. -/
  token : String

namespace ClusterCredential

/-- The value an agent should send. -/
def headerValue (credential : ClusterCredential) : String := "Bearer " ++ credential.token

/-- Check a presented header. -/
def verifyHeader (credential : ClusterCredential) (header : Option String) : Except AuthError Unit :=
  match header with
  | none => .error .missing
  | some header =>
    match "Bearer ".toList.isPrefixOf? header.toList with
    | none => .error .malformed
    | some presented =>
      if constantTimeEq (String.ofList presented).toUTF8.data.toList credential.token.toUTF8.data.toList then .ok ()
      else .error .rejected

end ClusterCredential

/-- Differences do not cancel out. -/
theorem foldl_or_eq_zero (pairs : List (UInt8 × UInt8)) : ∀ difference : UInt8,
    pairs.foldl (fun difference p => difference ||| (p.1 ^^^ p.2)) difference = 0 ↔
      difference = 0 ∧ ∀ p ∈ pairs, p.1 = p.2 := by
  induction pairs with
  | nil => simp
  | cons p pairs ih =>
    intro difference
    rw [List.foldl_cons, ih, UInt8.or_eq_zero_iff, UInt8.xor_eq_zero_iff, List.forall_mem_cons, and_assoc]

/-- **The comparison is that of the bytes.** -/
theorem constantTimeEq_iff {a b : List UInt8} : constantTimeEq a b = true ↔ a = b := by
  unfold constantTimeEq
  split
  · next hlength =>
    have hne : a ≠ b := fun h => hlength (congrArg List.length h)
    simp [hne]
  · next hlength =>
    rw [ne_eq, not_not] at hlength
    rw [decide_eq_true_eq, foldl_or_eq_zero, and_iff_right rfl]
    constructor
    · intro h
      refine List.ext_getElem hlength fun i hi hi' => ?_
      have hzip : i < (a.zip b).length := by rw [List.length_zip, ← hlength, min_self]; exact hi
      have hpair := h _ (List.getElem_mem hzip)
      rwa [List.getElem_zip] at hpair
    · rintro rfl p hp
      obtain ⟨i, hi, rfl⟩ := List.getElem_of_mem hp
      simp

/-- **The header of the cluster, and no other, is accepted.** -/
theorem ClusterCredential.verifyHeader_eq_ok_iff {credential : ClusterCredential} {header : Option String} :
    credential.verifyHeader header = .ok () ↔ header = some credential.headerValue := by
  cases header with
  | none => simp [verifyHeader]
  | some header =>
    have hheader : header = credential.headerValue ↔ "Bearer ".toList ++ credential.token.toList = header.toList := by
      rw [← String.toList_inj, headerValue, String.toList_append, eq_comm]
    rw [Option.some.injEq, hheader, ← List.isPrefixOf?_eq_some_iff_append_eq, verifyHeader]
    cases hpresented : "Bearer ".toList.isPrefixOf? header.toList with
    | none => simp
    | some presented =>
      have hbytes : (String.ofList presented).toUTF8.data.toList = credential.token.toUTF8.data.toList ↔
          presented = credential.token.toList := by
        rw [Array.toList_inj, ← ByteArray.ext_iff, String.toUTF8_eq_toByteArray, String.toUTF8_eq_toByteArray,
          String.toByteArray_inj, ← String.toList_inj, String.toList_ofList]
      dsimp only
      split
      · next h => simpa using hbytes.mp (constantTimeEq_iff.mp h)
      · next h =>
        rw [constantTimeEq_iff, hbytes] at h
        simp [h]

end Sentinel
