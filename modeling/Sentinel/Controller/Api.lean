import Sentinel.Controller.Agents
import Sentinel.Controller.Peers
import Sentinel.Controller.Reboots
import Sentinel.Lib.Machine

/-!
# The controller's HTTP API

Every route is either read-only or an append.  All but one ask for the credential of the
cluster, and those that append also for this version of the protocol; what fails either
check goes no further.

The controller itself is a parameter: the handlers see no more of it than a few operations,
each of which may fail.

## Main definitions

* `Core` — what the handlers ask of a controller.
* `ApiState`, `Api.handle` — the handlers.
* `ApiRequest.admitted` — the requests that may change anything.
* `ApiEvent`, `ApiState.run` — what happens to a controller that serves requests.

## Main results

* `Api.handle_of_not_admitted` — a request that fails a check, or only reads, changes
  nothing.
* `Api.handle_cases` — what a request can do to the sessions.
* `ApiState.run_significant` — **requests that change nothing leave no trace**: without them
  every other request gets the same answer.
-/

namespace Sentinel

/-! ### Requests and responses -/

/-- A request, by its route. -/
inductive ApiRequest
  /-- Whether the controller is alive. -/
  | health
  /-- An agent registers. -/
  | register (request : RegisterRequest)
  /-- An agent stays in touch. -/
  | heartbeat (request : HeartbeatRequest)
  /-- An agent delivers observations. -/
  | observations (batch : ObservationBatch)
  /-- An agent asks what to observe. -/
  | assignments (agentId : String)

/-- A response to a request that succeeded. -/
inductive ApiResponse
  /-- Of the controller's health. -/
  | health (response : HealthResponse)
  /-- To a registration. -/
  | register (response : RegisterResponse)
  /-- To a heartbeat. -/
  | heartbeat (response : HeartbeatResponse)
  /-- To observations. -/
  | observations (response : ObservationBatchResponse)
  /-- Of assignments. -/
  | assignments (response : AssignmentsResponse)

/-- An error with an HTTP status. -/
structure ApiError where
  /-- The status. -/
  status : ℕ
  /-- The body. -/
  response : ErrorResponse
  deriving DecidableEq, Repr

namespace ApiError

def unauthorized (message : String) : ApiError := ⟨401, ⟨"unauthorized", message⟩⟩

def badVersion (offered : UInt32) : ApiError :=
  ⟨400, ⟨"protocol_version_mismatch",
    "this controller speaks protocol version " ++ toString protocolVersion.toNat ++ ", not " ++
      toString offered.toNat⟩⟩

def internal (message : String) : ApiError := ⟨500, ⟨"internal_error", message⟩⟩

def badAgentId : ApiError := ⟨400, ⟨"bad_agent_id", "not a valid agent id"⟩⟩

end ApiError

/-! ### Handlers -/

/-- What the handlers ask of a controller.  What a failed operation has done until it failed
stays done. -/
structure Core (C : Type*) where
  /-- Record an agent registration. -/
  registerAgent : C → RegisterRequest → C × Except String Registration
  /-- Ingest a batch of observations from an agent. -/
  ingestAgentBatch : C → ObservationBatch → C × Except String ObservationBatchResponse
  /-- The environment served. -/
  environment : C → String
  /-- How many entities are known. -/
  countEntities : C → Except String ℕ
  /-- Who is to observe whom. -/
  assignmentPlan : C → Except String AssignmentPlan
  /-- What an observer is to observe. -/
  assignedTargets : C → AssignmentPlan → EntityId → Except String (List AssignedTarget)

/-- Everything a request handler needs. -/
structure ApiState (C : Type*) where
  /-- The controller. -/
  controller : C
  /-- Registered agents. -/
  agents : AgentRegistry
  /-- The credential every authenticated route requires. -/
  credential : ClusterCredential
  /-- How often agents should heartbeat. -/
  heartbeatInterval : Duration

/-- What a handler draws: an identifier for a session, and the clock as it is read first and
last. -/
structure ApiDraw where
  /-- An identifier for a session. -/
  sessionId : Uuid
  /-- The clock, when something is recorded of an agent. -/
  recordedAt : Timestamp
  /-- The clock, when the request is answered. -/
  serverTime : Timestamp

namespace Api

variable {C : Type*} (core : Core C) (uuid5 : String → Uuid) (parseUuid : String → Option Uuid)

/-- Check the credential of a request. -/
def authenticate (state : ApiState C) (header : Option String) : Except ApiError Unit :=
  (state.credential.verifyHeader header).mapError fun e => .unauthorized e.message

/-- Check the credential of a request and the version it offers. -/
def vet (state : ApiState C) (header : Option String) (offered : UInt32) : Except ApiError Unit := do
  authenticate state header
  (checkVersion offered).mapError fun m => .badVersion m.offered

def health (state : ApiState C) (draw : ApiDraw) : Except ApiError HealthResponse :=
  match core.countEntities state.controller with
  | .error e => .error (.internal e)
  | .ok entities =>
    .ok ⟨protocolVersion, binaryVersion, core.environment state.controller, draw.serverTime, entities, state.agents.size⟩

def register (state : ApiState C) (header : Option String) (request : RegisterRequest) (draw : ApiDraw) :
    ApiState C × Except ApiError RegisterResponse :=
  match vet state header request.protocolVersion with
  | .error e => (state, .error e)
  | .ok () =>
    match core.registerAgent state.controller request with
    | (controller, .error e) => ({ state with controller := controller }, .error (.internal e))
    | (controller, .ok registration) =>
      let (agents, session) :=
        state.agents.register uuid5 request registration.entityId draw.sessionId draw.recordedAt
      ({ state with controller := controller, agents := agents },
        .ok ⟨protocolVersion, session.agentId, session.sessionId, registration.entityId.uuid.toText,
          draw.serverTime, state.heartbeatInterval⟩)

def heartbeat (state : ApiState C) (header : Option String) (request : HeartbeatRequest) (draw : ApiDraw) :
    ApiState C × Except ApiError HeartbeatResponse :=
  match vet state header request.protocolVersion with
  | .error e => (state, .error e)
  | .ok () =>
    let (agents, outcome) := state.agents.heartbeat request draw.serverTime
    -- positive means the agent's clock is ahead of the controller's
    ({ state with agents := agents },
      .ok ⟨protocolVersion, draw.serverTime, (request.agentTime - draw.serverTime).tdiv 1000, outcome.reregister,
        outcome.assignmentRevision⟩)

def observations (state : ApiState C) (header : Option String) (batch : ObservationBatch) (draw : ApiDraw) :
    ApiState C × Except ApiError ObservationBatchResponse :=
  match vet state header batch.protocolVersion with
  | .error e => (state, .error e)
  | .ok () =>
    match core.ingestAgentBatch state.controller batch with
    | (controller, .error e) => ({ state with controller := controller }, .error (.internal e))
    | (controller, .ok outcome) =>
      ({ state with
          controller := controller
          agents := state.agents.touch batch.agentId draw.recordedAt }, .ok outcome)

def assignments (state : ApiState C) (header : Option String) (agentId : String) :
    Except ApiError AssignmentsResponse :=
  match authenticate state header with
  | .error e => .error e
  | .ok () =>
    match parseUuid agentId with
    | none => .error .badAgentId
    | some agentId =>
      match core.assignmentPlan state.controller with
      | .error e => .error (.internal e)
      | .ok plan =>
        match (state.agents.get agentId).map AgentSession.entityId with
        -- an agent that is not registered gets an empty plan rather than an error
        | none => .ok ⟨protocolVersion, plan.revision, []⟩
        | some observer =>
          match core.assignedTargets state.controller plan observer with
          | .error e => .error (.internal e)
          | .ok targets => .ok ⟨protocolVersion, plan.revision, targets⟩

/-- Serve a request. -/
def handle (state : ApiState C) (header : Option String) (request : ApiRequest) (draw : ApiDraw) :
    ApiState C × Except ApiError ApiResponse :=
  match request with
  | .health => (state, (health core state draw).map .health)
  | .register request =>
    let (state, response) := register core uuid5 state header request draw
    (state, response.map .register)
  | .heartbeat request =>
    let (state, response) := heartbeat state header request draw
    (state, response.map .heartbeat)
  | .observations batch =>
    let (state, response) := observations core state header batch draw
    (state, response.map .observations)
  | .assignments agentId => (state, (assignments core parseUuid state header agentId).map .assignments)

/-! ### Checks -/

variable {core uuid5 parseUuid} {state : ApiState C} {header : Option String} {request : ApiRequest} {draw : ApiDraw}

theorem authenticate_eq_ok_iff :
    authenticate state header = .ok () ↔ header = some state.credential.headerValue := by
  rw [← ClusterCredential.verifyHeader_eq_ok_iff, authenticate]
  cases state.credential.verifyHeader header <;> simp [Except.mapError]

theorem vet_eq_ok_iff {offered : UInt32} : vet state header offered = .ok () ↔
    header = some state.credential.headerValue ∧ offered = protocolVersion := by
  rw [← authenticate_eq_ok_iff, vet]
  cases authenticate state header with
  | error e => simp [bind, Except.bind]
  | ok u =>
    by_cases hversion : offered = protocolVersion
    · simp [bind, Except.bind, checkVersion, Except.mapError, hversion]
    · simp [bind, Except.bind, checkVersion, Except.mapError, hversion]

/-- A request that does not pass the checks is refused. -/
theorem exists_vet_eq_error {offered : UInt32}
    (h : ¬ (header = some state.credential.headerValue ∧ offered = protocolVersion)) :
    ∃ e, vet state header offered = .error e := by
  cases hvet : vet state header offered with
  | error e => exact ⟨e, rfl⟩
  | ok u => exact absurd (vet_eq_ok_iff.mp hvet) h

end Api

/-- The version a request offers, if its route appends anything. -/
def ApiRequest.offered : ApiRequest → Option UInt32
  | .register request => some request.protocolVersion
  | .heartbeat request => some request.protocolVersion
  | .observations batch => some batch.protocolVersion
  | .health | .assignments _ => none

/-- Whether a request can change anything: it appends, and passes the checks. -/
def ApiRequest.admitted (credential : ClusterCredential) (header : Option String) (request : ApiRequest) : Bool :=
  request.offered = some protocolVersion && header = some credential.headerValue

namespace Api

variable {C : Type*} {core : Core C} {uuid5 : String → Uuid} {parseUuid : String → Option Uuid} {state : ApiState C}
  {header : Option String} {request : ApiRequest} {draw : ApiDraw} {id : Uuid}

/-- **A request that fails a check, or only reads, changes nothing.** -/
theorem handle_of_not_admitted (h : request.admitted state.credential header = false) :
    (handle core uuid5 parseUuid state header request draw).1 = state := by
  have hchecks : ∀ offered, request.offered = some offered →
      ¬ (header = some state.credential.headerValue ∧ offered = protocolVersion) := by
    rintro offered hoffered ⟨hheader, rfl⟩
    rw [ApiRequest.admitted, hoffered, hheader] at h
    simp at h
  cases request with
  | health => rfl
  | assignments agentId => rfl
  | register request =>
    obtain ⟨e, he⟩ := exists_vet_eq_error (hchecks _ rfl)
    rw [handle, register, he]
  | heartbeat request =>
    obtain ⟨e, he⟩ := exists_vet_eq_error (hchecks _ rfl)
    rw [handle, heartbeat, he]
  | observations batch =>
    obtain ⟨e, he⟩ := exists_vet_eq_error (hchecks _ rfl)
    rw [handle, observations, he]

/-- What a registration can do: nothing, something to the controller before it fails, or start
a session. -/
theorem register_cases (core : Core C) (uuid5 : String → Uuid) (state : ApiState C) (header : Option String)
    (request : RegisterRequest) (draw : ApiDraw) :
    (∃ controller e, register core uuid5 state header request draw =
        ({ state with controller := controller }, .error e)) ∨
      ∃ (controller : C) (registration : Registration), register core uuid5 state header request draw =
        ({ state with
            controller := controller
            agents := (state.agents.register uuid5 request registration.entityId draw.sessionId draw.recordedAt).1 },
          .ok ⟨protocolVersion, AgentRegistry.agentIdFor uuid5 request.environment request.hostname, draw.sessionId,
            registration.entityId.uuid.toText, draw.serverTime, state.heartbeatInterval⟩) := by
  unfold register
  cases vet state header request.protocolVersion with
  | error e => exact Or.inl ⟨state.controller, e, rfl⟩
  | ok u =>
    cases hresult : core.registerAgent state.controller request with
    | mk controller result =>
      cases result with
      | error e => exact Or.inl ⟨controller, .internal e, rfl⟩
      | ok registration => exact Or.inr ⟨controller, registration, rfl⟩

/-- What a heartbeat can do. -/
theorem heartbeat_cases (state : ApiState C) (header : Option String) (beat : HeartbeatRequest) (draw : ApiDraw) :
    (∃ e, heartbeat state header beat draw = (state, .error e)) ∨
      ∃ response, heartbeat state header beat draw =
        ({ state with agents := (state.agents.heartbeat beat draw.serverTime).1 }, .ok response) := by
  unfold heartbeat
  cases vet state header beat.protocolVersion with
  | error e => exact Or.inl ⟨e, rfl⟩
  | ok u => exact Or.inr ⟨_, rfl⟩

/-- What a batch can do. -/
theorem observations_cases (core : Core C) (state : ApiState C) (header : Option String) (batch : ObservationBatch)
    (draw : ApiDraw) :
    (∃ controller e, observations core state header batch draw =
        ({ state with controller := controller }, .error e)) ∨
      ∃ controller outcome, observations core state header batch draw =
        ({ state with
            controller := controller
            agents := state.agents.touch batch.agentId draw.recordedAt }, .ok outcome) := by
  unfold observations
  cases vet state header batch.protocolVersion with
  | error e => exact Or.inl ⟨state.controller, e, rfl⟩
  | ok u =>
    cases hresult : core.ingestAgentBatch state.controller batch with
    | mk controller result =>
      cases result with
      | error e => exact Or.inl ⟨controller, .internal e, rfl⟩
      | ok outcome => exact Or.inr ⟨controller, outcome, rfl⟩

/-- The session a response starts, with the agent it is for. -/
def started : Except ApiError ApiResponse → Option (Uuid × Uuid)
  | .ok (.register response) => some (response.agentId, response.sessionId)
  | _ => none

/-- **What a request can do**: leave every agent the session it had, or start the one it
answers with. -/
theorem handle_cases (core : Core C) (uuid5 : String → Uuid) (parseUuid : String → Option Uuid) (state : ApiState C)
    (header : Option String) (request : ApiRequest) (draw : ApiDraw) :
    (∃ controller agents response, handle core uuid5 parseUuid state header request draw =
        ({ state with controller := controller, agents := agents }, response) ∧
        (∀ id, agents.current id = state.agents.current id) ∧ started response = none) ∨
      ∃ (controller : C) (agents : AgentRegistry) (response : RegisterResponse) (body : RegisterRequest),
        request = .register body ∧ handle core uuid5 parseUuid state header request draw =
          ({ state with controller := controller, agents := agents }, .ok (.register response)) ∧
        response.agentId = AgentRegistry.agentIdFor uuid5 body.environment body.hostname ∧
        response.sessionId = draw.sessionId ∧
        ∀ id, agents.current id = if response.agentId = id then some draw.sessionId else state.agents.current id := by
  cases request with
  | health => exact Or.inl ⟨state.controller, state.agents, _, rfl, fun _ => rfl, by cases health core state draw <;> rfl⟩
  | assignments agentId =>
    exact Or.inl ⟨state.controller, state.agents, _, rfl, fun _ => rfl,
      by cases assignments core parseUuid state header agentId <;> rfl⟩
  | register body =>
    rcases register_cases core uuid5 state header body draw with
      ⟨controller, e, h⟩ | ⟨controller, registration, h⟩
    · exact Or.inl ⟨controller, state.agents, .error e, by rw [handle, h]; rfl, fun _ => rfl, rfl⟩
    · exact Or.inr ⟨controller, _, _, body, rfl, by rw [handle, h]; rfl, rfl, rfl,
        fun id => AgentRegistry.current_register⟩
  | heartbeat beat =>
    rcases heartbeat_cases state header beat draw with ⟨e, h⟩ | ⟨response, h⟩
    · exact Or.inl ⟨state.controller, state.agents, .error e, by rw [handle, h]; rfl, fun _ => rfl, rfl⟩
    · exact Or.inl ⟨state.controller, _, .ok (.heartbeat response), by rw [handle, h]; rfl,
        fun id => AgentRegistry.current_heartbeat, rfl⟩
  | observations batch =>
    rcases observations_cases core state header batch draw with ⟨controller, e, h⟩ | ⟨controller, outcome, h⟩
    · exact Or.inl ⟨controller, state.agents, .error e, by rw [handle, h]; rfl, fun _ => rfl, rfl⟩
    · exact Or.inl ⟨controller, _, .ok (.observations outcome), by rw [handle, h]; rfl,
        fun id => AgentRegistry.current_touch, rfl⟩

/-- The credential is not for requests to change. -/
theorem handle_credential :
    (handle core uuid5 parseUuid state header request draw).1.credential = state.credential := by
  rcases handle_cases core uuid5 parseUuid state header request draw with
    ⟨controller, agents, response, h, -⟩ | ⟨controller, agents, response, body, -, h, -⟩
  all_goals rw [h]

/-- A registration that passes the checks is answered with a new session, if the controller
takes it. -/
theorem handle_register (uuid5 : String → Uuid) (parseUuid : String → Option Uuid) (draw : ApiDraw)
    {body : RegisterRequest} {controller : C} {registration : Registration}
    (hheader : header = some state.credential.headerValue) (hversion : body.protocolVersion = protocolVersion)
    (hcore : core.registerAgent state.controller body = (controller, .ok registration)) :
    ∃ response, (handle core uuid5 parseUuid state header (.register body) draw).2 = .ok (.register response) ∧
      response.agentId = AgentRegistry.agentIdFor uuid5 body.environment body.hostname ∧
      response.sessionId = draw.sessionId := by
  have hvet : vet state header body.protocolVersion = .ok () := vet_eq_ok_iff.mpr ⟨hheader, hversion⟩
  refine ⟨⟨protocolVersion, AgentRegistry.agentIdFor uuid5 body.environment body.hostname, draw.sessionId,
    registration.entityId.uuid.toText, draw.serverTime, state.heartbeatInterval⟩, ?_, rfl, rfl⟩
  have hregister : (register core uuid5 state header body draw).2 =
      .ok ⟨protocolVersion, AgentRegistry.agentIdFor uuid5 body.environment body.hostname, draw.sessionId,
        registration.entityId.uuid.toText, draw.serverTime, state.heartbeatInterval⟩ := by
    unfold register
    rw [hvet]
    dsimp only
    rw [hcore]
    rfl
  exact congrArg (Except.map ApiResponse.register) hregister

/-- A heartbeat that passes the checks is answered. -/
theorem handle_heartbeat (core : Core C) (uuid5 : String → Uuid) (parseUuid : String → Option Uuid) (draw : ApiDraw)
    {beat : HeartbeatRequest} (hheader : header = some state.credential.headerValue)
    (hversion : beat.protocolVersion = protocolVersion) :
    ∃ response, (handle core uuid5 parseUuid state header (.heartbeat beat) draw).2 = .ok (.heartbeat response) ∧
      (response.reregister = false ↔ state.agents.current beat.agentId = some beat.sessionId) := by
  have hvet : vet state header beat.protocolVersion = .ok () := vet_eq_ok_iff.mpr ⟨hheader, hversion⟩
  refine ⟨⟨protocolVersion, draw.serverTime, (beat.agentTime - draw.serverTime).tdiv 1000,
    (state.agents.heartbeat beat draw.serverTime).2.reregister,
    (state.agents.heartbeat beat draw.serverTime).2.assignmentRevision⟩, ?_, AgentRegistry.heartbeat_reregister_iff⟩
  have hheartbeat : (heartbeat state header beat draw).2 =
      .ok ⟨protocolVersion, draw.serverTime, (beat.agentTime - draw.serverTime).tdiv 1000,
        (state.agents.heartbeat beat draw.serverTime).2.reregister,
        (state.agents.heartbeat beat draw.serverTime).2.assignmentRevision⟩ := by
    unfold heartbeat
    rw [hvet]
  exact congrArg (Except.map ApiResponse.heartbeat) hheartbeat

end Api

/-! ### Runs -/

/-- What may happen to a controller. -/
inductive ApiEvent (C : Type*)
  /-- A request is served. -/
  | serve (header : Option String) (request : ApiRequest) (draw : ApiDraw)
  /-- The controller does something else. -/
  | work (f : C → C)
  /-- The controller starts again, from what it had on disk. -/
  | restart (load : C → C)

namespace ApiState

variable {C : Type*} (core : Core C) (uuid5 : String → Uuid) (parseUuid : String → Option Uuid)

/-- What an event does, and what is answered. -/
def step (state : ApiState C) : ApiEvent C → ApiState C × Option (Except ApiError ApiResponse)
  | .serve header request draw =>
    let (state, response) := Api.handle core uuid5 parseUuid state header request draw
    (state, some response)
  | .work f => ({ state with controller := f state.controller }, none)
  | .restart load => ({ state with controller := load state.controller, agents := .new }, none)

/-- What becomes of a controller. -/
def run (state : ApiState C) (events : List (ApiEvent C)) : ApiState C :=
  events.foldl (fun state event => (state.step core uuid5 parseUuid event).1) state

/-- What happens to a controller, with every answer. -/
def transcript : ApiState C → List (ApiEvent C) → List (ApiEvent C × Option (Except ApiError ApiResponse))
  | _, [] => []
  | state, event :: events =>
    (event, (state.step core uuid5 parseUuid event).2) ::
      transcript (state.step core uuid5 parseUuid event).1 events

end ApiState

/-- Everything but requests that fail a check or only read. -/
def ApiEvent.significant {C : Type*} (credential : ClusterCredential) : ApiEvent C → Bool
  | .serve header request _ => request.admitted credential header
  | .work _ | .restart _ => true

namespace ApiState

variable {C : Type*} {core : Core C} {uuid5 : String → Uuid} {parseUuid : String → Option Uuid} {state : ApiState C}

theorem step_credential (event : ApiEvent C) :
    (state.step core uuid5 parseUuid event).1.credential = state.credential := by
  cases event with
  | serve header request draw => exact Api.handle_credential
  | work f => rfl
  | restart load => rfl

/-- **Requests that fail a check, or only read, leave no trace.**  Without them the
controller ends in the same state, and everything else that happens to it happens just so,
with the same answers. -/
theorem run_significant (events : List (ApiEvent C)) : ∀ state : ApiState C,
    state.run core uuid5 parseUuid (events.filter (ApiEvent.significant state.credential)) =
        state.run core uuid5 parseUuid events ∧
      state.transcript core uuid5 parseUuid (events.filter (ApiEvent.significant state.credential)) =
        (state.transcript core uuid5 parseUuid events).filter fun entry => entry.1.significant state.credential := by
  induction events with
  | nil => exact fun state => ⟨rfl, rfl⟩
  | cons event events ih =>
    intro state
    have hrest := ih (state.step core uuid5 parseUuid event).1
    rw [step_credential] at hrest
    have hcons : ∀ rest, state.transcript core uuid5 parseUuid (event :: rest) =
      (event, (state.step core uuid5 parseUuid event).2) ::
        (state.step core uuid5 parseUuid event).1.transcript core uuid5 parseUuid rest := fun _ => rfl
    cases hsignificant : event.significant state.credential with
    | true =>
      rw [List.filter_cons, hsignificant, if_pos rfl, hcons, hcons, List.filter_cons]
      dsimp only
      rw [hsignificant, if_pos rfl]
      exact ⟨hrest.1, congrArg _ hrest.2⟩
    | false =>
      have hsame : (state.step core uuid5 parseUuid event).1 = state := by
        cases event with
        | serve header request draw => exact Api.handle_of_not_admitted hsignificant
        | work f => cases hsignificant
        | restart load => cases hsignificant
      rw [List.filter_cons, hsignificant, if_neg Bool.false_ne_true, hcons, List.filter_cons]
      dsimp only
      rw [hsignificant, if_neg Bool.false_ne_true, run, run, List.foldl_cons]
      rw [hsame] at hrest ⊢
      exact hrest

end ApiState

end Sentinel
