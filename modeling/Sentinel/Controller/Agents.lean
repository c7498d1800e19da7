import Sentinel.Protocol

/-!
# Agent sessions

A session exists so that a restart, a reconnect and a reboot can be told apart.  The
controller keeps the last session of every agent, in memory only: after it was started
again, no session is one it can vouch for.

## Main definitions

* `AgentSession`, `AgentRegistry` — the sessions the controller knows about.
* `AgentRegistry.register`, `AgentRegistry.heartbeat`, `AgentRegistry.touch` — what is heard
  from an agent.
* `AgentRegistry.current` — the session of an agent that is accepted.

## Main results

* `AgentRegistry.current_register`, `AgentRegistry.current_heartbeat`,
  `AgentRegistry.current_touch` — only a registration changes which session is accepted.
* `AgentRegistry.heartbeat_reregister_iff` — which heartbeats are accepted.
-/

namespace Sentinel

/-- One agent's current session. -/
structure AgentSession where
  /-- Stable across restarts, derived from environment and host name. -/
  agentId : Uuid
  /-- New on every registration. -/
  sessionId : Uuid
  /-- The host entity this agent reports for. -/
  entityId : EntityId
  /-- The agent's binary version. -/
  agentVersion : String
  /-- Boot id at registration. -/
  bootId : Option String
  /-- When this session began. -/
  startedAt : Timestamp
  /-- Last time anything was heard from this agent. -/
  lastSeenAt : Timestamp
  deriving DecidableEq, Repr

/-- What the controller concluded from a heartbeat. -/
structure HeartbeatOutcome where
  /-- Whether the agent must register again. -/
  reregister : Bool
  /-- The current peer assignment revision. -/
  assignmentRevision : UInt64
  deriving DecidableEq, Repr

/-- Whether a registration represents a reboot. -/
inductive RegistrationKind
  /-- This agent has not been seen before. -/
  | new
  /-- The agent process restarted; the machine did not. -/
  | agentRestart
  /-- The boot id changed: the machine rebooted. -/
  | hostRebooted
  deriving DecidableEq, Repr

/-- The set of agents the controller knows about. -/
structure AgentRegistry where
  /-- The sessions, by agent. -/
  sessions : Std.ExtTreeMap Uuid AgentSession
  /-- The peer assignment revision. -/
  assignmentRevision : UInt64

namespace AgentRegistry

/-- An empty registry. -/
def new : AgentRegistry := ⟨∅, 0⟩

section Identity

variable (uuid5 : String → Uuid)

/-- Derive an agent's stable identity from the host it runs on. -/
def agentIdFor (environment hostname : String) : Uuid := uuid5 (environment ++ "\u001f" ++ hostname)

/-- Record a registration, returning the new session. -/
def register (registry : AgentRegistry) (request : RegisterRequest) (entityId : EntityId) (sessionId : Uuid)
    (now : Timestamp) : AgentRegistry × AgentSession :=
  let agentId := agentIdFor uuid5 request.environment request.hostname
  let session : AgentSession := ⟨agentId, sessionId, entityId, request.agentVersion, request.bootId, now, now⟩
  ({ registry with sessions := registry.sessions.insert agentId session }, session)

/-- Classify a registration against what is already known. -/
def classify (registry : AgentRegistry) (request : RegisterRequest) : RegistrationKind :=
  match registry.sessions[agentIdFor uuid5 request.environment request.hostname]? with
  | none => .new
  | some existing =>
    match existing.bootId, request.bootId with
    -- only a changed boot id is evidence of a reboot
    | some before, some after => if before ≠ after then .hostRebooted else .agentRestart
    | _, _ => .agentRestart

end Identity

/-- Record a heartbeat. -/
def heartbeat (registry : AgentRegistry) (request : HeartbeatRequest) (at_ : Timestamp) :
    AgentRegistry × HeartbeatOutcome :=
  match registry.sessions[request.agentId]? with
  | some session =>
    if session.sessionId = request.sessionId then
      ({ registry with sessions := registry.sessions.insert request.agentId { session with lastSeenAt := at_ } },
        ⟨false, registry.assignmentRevision⟩)
    -- the session is from before another registration
    else (registry, ⟨true, registry.assignmentRevision⟩)
  | none => (registry, ⟨true, registry.assignmentRevision⟩)

/-- Note that an agent was heard from. -/
def touch (registry : AgentRegistry) (agentId : Uuid) (at_ : Timestamp) : AgentRegistry :=
  match registry.sessions[agentId]? with
  | some session => { registry with sessions := registry.sessions.insert agentId { session with lastSeenAt := at_ } }
  | none => registry

/-- Look a session up. -/
def get (registry : AgentRegistry) (agentId : Uuid) : Option AgentSession := registry.sessions[agentId]?

/-- Agents not heard from since `cutoff`. -/
def staleSince (registry : AgentRegistry) (cutoff : Timestamp) : List AgentSession :=
  registry.sessions.vals.filter fun session => session.lastSeenAt < cutoff

/-- How many agents are registered. -/
def size (registry : AgentRegistry) : ℕ := registry.sessions.size

/-- The session of an agent that is accepted. -/
def current (registry : AgentRegistry) (agentId : Uuid) : Option Uuid :=
  (registry.get agentId).map AgentSession.sessionId

variable {registry : AgentRegistry} {uuid5 : String → Uuid} {request : RegisterRequest} {beat : HeartbeatRequest}
  {entityId : EntityId} {sessionId : Uuid} {id : Uuid} {now : Timestamp}

/-! ### What each call does to one agent -/

theorem get_register : (registry.register uuid5 request entityId sessionId now).1.get id =
    if agentIdFor uuid5 request.environment request.hostname = id then
      some (registry.register uuid5 request entityId sessionId now).2
    else registry.get id :=
  Std.ExtTreeMap.getElem?_insert_eq

theorem current_register : (registry.register uuid5 request entityId sessionId now).1.current id =
    if agentIdFor uuid5 request.environment request.hostname = id then some sessionId else registry.current id := by
  rw [current, get_register]
  split <;> rfl

theorem current_heartbeat : (registry.heartbeat beat now).1.current id = registry.current id := by
  unfold heartbeat current get
  cases hsession : registry.sessions[beat.agentId]? with
  | none => rfl
  | some session =>
    dsimp only
    split
    · rw [Std.ExtTreeMap.getElem?_insert_eq]
      split
      · next heq => rw [← heq, hsession]; rfl
      · rfl
    · rfl

theorem current_touch {agentId : Uuid} : (registry.touch agentId now).current id = registry.current id := by
  unfold touch current get
  cases hsession : registry.sessions[agentId]? with
  | none => rfl
  | some session =>
    dsimp only
    rw [Std.ExtTreeMap.getElem?_insert_eq]
    split
    · next heq => rw [← heq, hsession]; rfl
    · rfl

/-- **Which heartbeats are accepted**: those of the last session of their agent. -/
theorem heartbeat_reregister_iff :
    (registry.heartbeat beat now).2.reregister = false ↔ registry.current beat.agentId = some beat.sessionId := by
  unfold heartbeat current get
  cases hsession : registry.sessions[beat.agentId]? with
  | none => simp
  | some session =>
    dsimp only
    split
    · next heq => simp [heq]
    · next hne => simp [hne]

end AgentRegistry

end Sentinel
