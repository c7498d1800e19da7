import Sentinel.Controller.Api

/-!
# Staying in session

An agent registers, and from then on sends heartbeats with the session it was given; a
controller that does not know the session asks it to register again.  Between them there is
a network: requests and answers may be lost, late or repeated, anybody else may send
anything, the agent gives up waiting, and either side may start again.

## Main definitions

* `ClientError`, `AgentStatus` — what an agent makes of an answer.
* `Member`, `Network`, `NetworkEvent`, `networkMachine` — agents, the controller and the
  messages between them.
* `Network.Sound` — the invariant.

## Main results

* `Network.sound_run` — every run keeps the invariant.
-/

namespace Sentinel

/-! ### Errors -/

/-- Why a call to the controller did not succeed. -/
inductive ClientError
  /-- The controller could not be reached. -/
  | unreachable (endpoint detail : String)
  /-- The controller refused the credential. -/
  | unauthorized
  /-- The controller speaks a different protocol version. -/
  | protocolMismatch (detail : String)
  /-- The controller returned an error. -/
  | rejected (status : ℕ) (detail : String)
  /-- The response could not be decoded. -/
  | decode (detail : String)
  /-- The client could not be built from the configuration given. -/
  | configuration (detail : String)
  deriving DecidableEq, Repr

namespace ClientError

/-- What is said of an error. -/
def message : ClientError → String
  | unreachable endpoint detail => "cannot reach controller at " ++ endpoint ++ ": " ++ detail
  | unauthorized => "controller rejected our credential"
  | protocolMismatch detail => "controller refused our protocol version: " ++ detail
  | rejected status detail => "controller returned " ++ toString status ++ ": " ++ detail
  | decode detail => "cannot decode controller response: " ++ detail
  | configuration detail => "client configuration: " ++ detail

/-- Whether retrying later might work. -/
def isTransient : ClientError → Bool
  | unreachable _ _ => true
  | rejected status _ => 500 ≤ status || status = 429
  | unauthorized | protocolMismatch _ | decode _ | configuration _ => false

/-- What a response that is no success means. -/
def ofStatus (status : ℕ) (detail : String) : ClientError :=
  if status = 401 || status = 403 then unauthorized
  else if status = 400 && (Text.splitOnce "protocol_version_mismatch".toList detail.toList).isSome then
    protocolMismatch detail
  else rejected status detail

end ClientError

/-! ### An agent -/

/-- How much an agent knows about its own situation. -/
structure AgentStatus where
  /-- Whether the agent is currently registered. -/
  registered : Bool := false
  /-- The agent's identity, once registered. -/
  agentId : Option Uuid := none
  /-- The current session, once registered. -/
  sessionId : Option Uuid := none
  /-- Observations waiting to be delivered. -/
  spooled : UInt64 := 0
  /-- Measured clock difference against the controller, in milliseconds. -/
  clockSkewMs : Option ℤ := none
  /-- Why the last attempt to reach the controller failed. -/
  lastError : Option String := none
  deriving DecidableEq, Repr

/-- A call an agent makes, and waits for. -/
inductive Call
  /-- A registration. -/
  | register
  /-- A heartbeat. -/
  | heartbeat
  deriving DecidableEq, Repr

/-- What an agent finds out about its host for a call. -/
structure Report where
  /-- What it would register, up to who it is. -/
  registration : RegisterRequest
  /-- Its clock. -/
  agentTime : Timestamp
  /-- Observations waiting in the local spool. -/
  spooledObservations : UInt64

/-- An agent of the network. -/
structure Member where
  /-- The environment it belongs to. -/
  environment : String
  /-- The host it runs on. -/
  hostname : String
  /-- The credential it presents. -/
  credential : ClusterCredential
  /-- What it knows about its own situation. -/
  status : AgentStatus
  /-- When the assignment was last refreshed. -/
  assignmentRefreshedAt : Option Timestamp
  /-- The call it waits for, with the number of its request. -/
  awaiting : Option (Call × ℕ)

namespace Member

/-- The registration this agent would send. -/
def registration (member : Member) (report : Report) : RegisterRequest :=
  { report.registration with
    protocolVersion := protocolVersion
    environment := member.environment
    hostname := member.hostname }

/-- The heartbeat this agent would send in a session. -/
def beat (report : Report) (agentId sessionId : Uuid) : HeartbeatRequest :=
  ⟨protocolVersion, agentId, sessionId, report.registration.bootId, report.agentTime, report.spooledObservations⟩

/-- The agent, waiting for an answer or not. -/
def waits (member : Member) (awaiting : Option (Call × ℕ)) : Member := { member with awaiting := awaiting }

/-- Register with the controller: what is made of the answer. -/
def registerAnswered (member : Member) : Except ClientError RegisterResponse → Member
  | .ok response =>
    { member with
      status := { member.status with
        registered := true
        agentId := some response.agentId
        sessionId := some response.sessionId
        lastError := none }
      -- a fresh registration means the plan may have changed for us
      assignmentRefreshedAt := none }
  | .error error =>
    { member with status := { member.status with registered := false, lastError := some error.message } }

/-- Send a heartbeat: what is made of the answer, and whether to register again. -/
def heartbeatAnswered (member : Member) : Except ClientError HeartbeatResponse → Member × Bool
  | .ok response =>
    ({ member with status := { member.status with clockSkewMs := some response.clockSkewMs, lastError := none } },
      response.reregister)
  | .error error =>
    ({ member with status := { member.status with
        lastError := some error.message
        registered := if error.isTransient then member.status.registered else false } }, false)

end Member

/-! ### The network -/

/-- Agents, the controller, and the messages between them. -/
structure Network (C ι : Type*) where
  /-- The controller's API. -/
  api : ApiState C
  /-- The agents. -/
  members : ι → Member
  /-- Every request sent, by number: who sent it if an agent did, its header and its body. -/
  requests : List (Option ι × Option String × ApiRequest)
  /-- Every answer, with the number of its request. -/
  replies : List (ℕ × Except ApiError ApiResponse)

/-- What may happen. -/
inductive NetworkEvent (C ι : Type*)
  /-- An agent registers, as it does when it begins. -/
  | enroll (a : ι) (report : Report)
  /-- An agent sends a heartbeat, or registers if it has no session. -/
  | call (a : ι) (report : Report)
  /-- An agent starts again. -/
  | boot (a : ι)
  /-- Somebody else sends a request. -/
  | foreign (header : Option String) (request : ApiRequest)
  /-- A request arrives at the controller. -/
  | deliver (request : ℕ) (draw : ApiDraw)
  /-- An agent gets the answer it is waiting for. -/
  | receive (a : ι) (reply : Except ApiError ApiResponse) (report : Report)
  /-- An agent's call fails without an answer of the controller's. -/
  | fail (a : ι) (error : ClientError)
  /-- The controller does something else. -/
  | work (f : C → C)
  /-- The controller starts again, from what it had on disk. -/
  | restart (load : C → C)

section Machine

variable {C ι : Type*} [DecidableEq ι] (core : Core C) (uuid5 : String → Uuid) (parseUuid : String → Option Uuid)
  (render : ErrorResponse → String)

/-- What the client makes of a response that failed. -/
def clientError (e : ApiError) : ClientError := .ofStatus e.status (render e.response)

/-- The result of a registration. -/
def registerResult : Except ApiError ApiResponse → Except ClientError RegisterResponse
  | .ok (.register response) => .ok response
  | .ok _ => .error (.decode "unexpected response")
  | .error e => .error (clientError render e)

/-- The result of a heartbeat. -/
def heartbeatResult : Except ApiError ApiResponse → Except ClientError HeartbeatResponse
  | .ok (.heartbeat response) => .ok response
  | .ok _ => .error (.decode "unexpected response")
  | .error e => .error (clientError render e)

namespace Network

/-- An agent becomes another. -/
def put (s : Network C ι) (a : ι) (member : Member) : Network C ι :=
  { s with members := fun b => if b = a then member else s.members b }

/-- An agent sends a request and waits for the answer. -/
def send (s : Network C ι) (a : ι) (member : Member) (call : Call) (request : ApiRequest) : Network C ι :=
  { s.put a (member.waits (some (call, s.requests.length))) with
    requests := s.requests ++ [(some a, some member.credential.headerValue, request)] }

/-- An agent registers. -/
def enroll (s : Network C ι) (a : ι) (member : Member) (report : Report) : Network C ι :=
  s.send a member .register (.register (member.registration report))

/-- An agent that waits for nothing sends a heartbeat, or registers if it has no session. -/
def call (s : Network C ι) (a : ι) (report : Report) : Network C ι :=
  if (s.members a).awaiting.isSome then s
  else
    match (s.members a).status.agentId, (s.members a).status.sessionId with
    | some agentId, some sessionId =>
      s.send a (s.members a) .heartbeat (.heartbeat (Member.beat report agentId sessionId))
    | _, _ => s.enroll a (s.members a) report

/-- A request arrives at the controller. -/
def deliver (s : Network C ι) (request : ℕ) (draw : ApiDraw) : Network C ι :=
  match s.requests[request]? with
  | none => s
  | some (_, header, body) =>
    let (api, reply) := Api.handle core uuid5 parseUuid s.api header body draw
    { s with api := api, replies := s.replies ++ [(request, reply)] }

/-- An agent gets an answer. -/
def receive (s : Network C ι) (a : ι) (reply : Except ApiError ApiResponse) (report : Report) : Network C ι :=
  match (s.members a).awaiting with
  | none => s
  | some (.register, _) => s.put a (((s.members a).registerAnswered (registerResult render reply)).waits none)
  | some (.heartbeat, _) =>
    let (answered, again) := (s.members a).heartbeatAnswered (heartbeatResult render reply)
    if again then s.enroll a answered report else s.put a (answered.waits none)

/-- A call of an agent's fails. -/
def fail (s : Network C ι) (a : ι) (error : ClientError) : Network C ι :=
  match (s.members a).awaiting with
  | none => s
  | some (.register, _) => s.put a (((s.members a).registerAnswered (.error error)).waits none)
  | some (.heartbeat, _) => s.put a (((s.members a).heartbeatAnswered (.error error)).1.waits none)

/-- What an event does. -/
def step (s : Network C ι) : NetworkEvent C ι → Network C ι
  | .enroll a report => if (s.members a).awaiting.isSome then s else s.enroll a (s.members a) report
  | .call a report => s.call a report
  | .boot a => s.put a { s.members a with status := {}, assignmentRefreshedAt := none, awaiting := none }
  | .foreign header request => { s with requests := s.requests ++ [(none, header, request)] }
  | .deliver request draw => s.deliver core uuid5 parseUuid request draw
  | .receive a reply report => s.receive render a reply report
  | .fail a error => s.fail a error
  | .work f => { s with api := { s.api with controller := f s.api.controller } }
  | .restart load => { s with api := { s.api with controller := load s.api.controller, agents := .new } }

/-- The events that may happen: no identifier is drawn for two sessions, and an agent gets
answers to what it asked. -/
def Allowed (s : Network C ι) : NetworkEvent C ι → Prop
  | .deliver _ draw => ∀ entry ∈ s.replies, ∀ p, Api.started entry.2 = some p → p.2 ≠ draw.sessionId
  | .receive a reply _ => ∃ call request, (s.members a).awaiting = some (call, request) ∧ (request, reply) ∈ s.replies
  | _ => True

end Network

/-- Agents that have never registered, and a controller that has just started. -/
def networkMachine : Machine (Network C ι) (NetworkEvent C ι) where
  Init := fun s => s.api.agents = .new ∧ s.requests = [] ∧ s.replies = [] ∧
    ∀ a, (s.members a).status = {} ∧ (s.members a).awaiting = none
  step := fun s event => s.step core uuid5 parseUuid render event
  Allowed := Network.Allowed

end Machine

/-! ### The invariant -/

section Invariant

variable {C ι : Type*} {uuid5 : String → Uuid}

/-- What holds of an agent, given what was sent and answered: a session it holds was started
by an answer to a registration of its own, and it waits for answers to requests of its own,
of the session it holds. -/
structure Member.Kept (requests : List (Option ι × Option String × ApiRequest))
    (replies : List (ℕ × Except ApiError ApiResponse)) (a : ι) (member : Member) : Prop where
  paired : member.status.agentId.isSome = member.status.sessionId.isSome
  registered : member.status.registered = true → member.status.sessionId.isSome = true
  held : ∀ id session, member.status.agentId = some id → member.status.sessionId = some session →
    ∃ i reply header report, (i, reply) ∈ replies ∧
      requests[i]? = some (some a, header, .register (member.registration report)) ∧
      Api.started reply = some (id, session)
  registering : ∀ i, member.awaiting = some (.register, i) → ∃ report,
    requests[i]? = some (some a, some member.credential.headerValue, .register (member.registration report))
  beating : ∀ i, member.awaiting = some (.heartbeat, i) → ∃ id session report,
    member.status.agentId = some id ∧ member.status.sessionId = some session ∧
      requests[i]? = some (some a, some member.credential.headerValue, .heartbeat (Member.beat report id session))

/-- What holds of a network in every run. -/
structure Network.Sound (uuid5 : String → Uuid) (s : Network C ι) : Prop where
  distinct : s.replies.Pairwise fun x y => ∀ p q, Api.started x.2 = some p → Api.started y.2 = some q → p.2 ≠ q.2
  asked : ∀ i reply p, (i, reply) ∈ s.replies → Api.started reply = some p → ∃ sender header body,
    s.requests[i]? = some (sender, header, .register body) ∧
      p.1 = AgentRegistry.agentIdFor uuid5 body.environment body.hostname
  vouched : ∀ id session, s.api.agents.current id = some session →
    ∃ entry ∈ s.replies, Api.started entry.2 = some (id, session)
  kept : ∀ a, (s.members a).Kept s.requests s.replies a

namespace Member

variable {requests requests' : List (Option ι × Option String × ApiRequest)}
  {replies replies' : List (ℕ × Except ApiError ApiResponse)} {a : ι} {member : Member}

theorem Kept.mono (h : member.Kept requests replies a) (hrequests : requests <+: requests')
    (hreplies : replies ⊆ replies') : member.Kept requests' replies' a := by
  have hget : ∀ {i : ℕ} {entry}, requests[i]? = some entry → requests'[i]? = some entry := by
    intro i entry hentry
    obtain ⟨more, rfl⟩ := hrequests
    rw [List.getElem?_append_left (List.getElem?_eq_some_iff.mp hentry).1]
    exact hentry
  refine ⟨h.paired, h.registered, ?_, ?_, ?_⟩
  · intro id session hid hsession
    obtain ⟨i, reply, header, report, hreply, hrequest, hstarted⟩ := h.held id session hid hsession
    exact ⟨i, reply, header, report, hreplies hreply, hget hrequest, hstarted⟩
  · intro i hi
    obtain ⟨report, hrequest⟩ := h.registering i hi
    exact ⟨report, hget hrequest⟩
  · intro i hi
    obtain ⟨id, session, report, hid, hsession, hrequest⟩ := h.beating i hi
    exact ⟨id, session, report, hid, hsession, hget hrequest⟩

/-- What an agent holds does not depend on what it waits for. -/
theorem Kept.idle (h : member.Kept requests replies a) : (member.waits none).Kept requests replies a where
  paired := h.paired
  registered := h.registered
  held := h.held
  registering := fun i hi => by cases hi
  beating := fun i hi => by cases hi

/-- An agent that just began holds nothing. -/
theorem kept_fresh (hstatus : member.status = {}) (hawaiting : member.awaiting = none) :
    member.Kept requests replies a where
  paired := by rw [hstatus]
  registered := fun h => by rw [hstatus] at h; cases h
  held := fun id session hid => by rw [hstatus] at hid; cases hid
  registering := fun i hi => by rw [hawaiting] at hi; cases hi
  beating := fun i hi => by rw [hawaiting] at hi; cases hi

/-- A registration is sent. -/
theorem Kept.enrolled (h : member.Kept requests replies a) (report : Report) :
    (member.waits (some (.register, requests.length))).Kept
      (requests ++ [(some a, some member.credential.headerValue, .register (member.registration report))]) replies a := by
  have hmono := h.mono (List.prefix_append requests
    [(some a, some member.credential.headerValue, .register (member.registration report))]) (List.Subset.refl replies)
  refine ⟨hmono.paired, hmono.registered, hmono.held, fun i hi => ⟨report, ?_⟩, fun i hi => (by cases hi)⟩
  obtain rfl : requests.length = i := congrArg Prod.snd (Option.some.inj hi)
  exact List.getElem?_concat_length

/-- A heartbeat is sent. -/
theorem Kept.called (h : member.Kept requests replies a) (report : Report) {id session : Uuid}
    (hid : member.status.agentId = some id) (hsession : member.status.sessionId = some session) :
    (member.waits (some (.heartbeat, requests.length))).Kept
      (requests ++ [(some a, some member.credential.headerValue, .heartbeat (beat report id session))]) replies a := by
  have hmono := h.mono (List.prefix_append requests
    [(some a, some member.credential.headerValue, .heartbeat (beat report id session))]) (List.Subset.refl replies)
  refine ⟨hmono.paired, hmono.registered, hmono.held, fun i hi => (by cases hi),
    fun i hi => ⟨id, session, report, hid, hsession, ?_⟩⟩
  obtain rfl : requests.length = i := congrArg Prod.snd (Option.some.inj hi)
  exact List.getElem?_concat_length

/-- A registration fails. -/
theorem Kept.registerFailed (h : member.Kept requests replies a) (error : ClientError) :
    (member.registerAnswered (.error error)).Kept requests replies a where
  paired := h.paired
  registered := fun hregistered => by cases hregistered
  held := h.held
  registering := h.registering
  beating := h.beating

/-- A registration is answered. -/
theorem Kept.registerAnswered {i : ℕ} {response : RegisterResponse} (h : member.Kept requests replies a)
    (hawaiting : member.awaiting = some (.register, i)) (hreply : (i, .ok (.register response)) ∈ replies) :
    ((member.registerAnswered (.ok response)).waits none).Kept requests replies a := by
  obtain ⟨report, hrequest⟩ := h.registering i hawaiting
  refine ⟨rfl, fun _ => rfl, fun id session hid hsession => ?_, fun i hi => (by cases hi), fun i hi => (by cases hi)⟩
  obtain rfl := Option.some.inj hid
  obtain rfl := Option.some.inj hsession
  exact ⟨i, _, _, _, hreply, hrequest, rfl⟩

/-- A heartbeat is answered, or fails: the session stays what it was. -/
theorem Kept.heartbeatAnswered (h : member.Kept requests replies a) (result : Except ClientError HeartbeatResponse) :
    (member.heartbeatAnswered result).1.Kept requests replies a := by
  cases result with
  | ok response => exact ⟨h.paired, h.registered, h.held, h.registering, h.beating⟩
  | error error =>
    refine ⟨h.paired, fun hregistered => ?_, h.held, h.registering, h.beating⟩
    cases htransient : error.isTransient with
    | true =>
      simp only [Member.heartbeatAnswered, htransient, if_true] at hregistered
      exact h.registered hregistered
    | false => simp [Member.heartbeatAnswered, htransient] at hregistered

end Member

namespace Network

variable [DecidableEq ι] {s : Network C ι} {a b : ι} {core : Core C} {parseUuid : String → Option Uuid}
  {render : ErrorResponse → String}

/-- An agent becomes another one of which the invariant holds. -/
theorem Sound.put (h : s.Sound uuid5) {member : Member} (hmember : member.Kept s.requests s.replies a) :
    (s.put a member).Sound uuid5 where
  distinct := h.distinct
  asked := h.asked
  vouched := h.vouched
  kept := by
    intro b
    change (if b = a then member else s.members b).Kept s.requests s.replies b
    split
    · next heq => exact heq ▸ hmember
    · exact h.kept b

/-- Another request is sent. -/
theorem Sound.request (h : s.Sound uuid5) (request : Option ι × Option String × ApiRequest) :
    { s with requests := s.requests ++ [request] }.Sound uuid5 where
  distinct := h.distinct
  asked := by
    intro i reply p hreply hstarted
    obtain ⟨sender, header, body, hrequest, hid⟩ := h.asked i reply p hreply hstarted
    refine ⟨sender, header, body, ?_, hid⟩
    rw [← hrequest]
    exact List.getElem?_append_left (List.getElem?_eq_some_iff.mp hrequest).1
  vouched := h.vouched
  kept := fun b => (h.kept b).mono (List.prefix_append _ _) (List.Subset.refl _)

theorem Sound.send (h : s.Sound uuid5) {member : Member} {call : Call} {request : ApiRequest}
    (hmember : (member.waits (some (call, s.requests.length))).Kept
      (s.requests ++ [(some a, some member.credential.headerValue, request)]) s.replies a) :
    (s.send a member call request).Sound uuid5 := by
  have hput := (h.request (some a, some member.credential.headerValue, request)).put hmember
  exact hput

theorem Sound.enroll (h : s.Sound uuid5) {member : Member} (hmember : member.Kept s.requests s.replies a)
    (report : Report) : (s.enroll a member report).Sound uuid5 :=
  h.send (hmember.enrolled report)

/-- A request is answered. -/
theorem Sound.deliver (h : s.Sound uuid5) {i : ℕ} {draw : ApiDraw} (hallowed : s.Allowed (.deliver i draw)) :
    (s.deliver core uuid5 parseUuid i draw).Sound uuid5 := by
  unfold Network.deliver
  cases hrequest : s.requests[i]? with
  | none => exact h
  | some request =>
    obtain ⟨sender, header, body⟩ := request
    dsimp only
    have hkept : ∀ reply a, (s.members a).Kept s.requests (s.replies ++ [(i, reply)]) a := fun reply a =>
      (h.kept a).mono (List.prefix_refl _) (List.subset_append_left _ _)
    rcases Api.handle_cases core uuid5 parseUuid s.api header body draw with
      ⟨controller, agents, reply, heq, hcurrent, hstarted⟩ |
        ⟨controller, agents, response, body', rfl, heq, hid, hsession, hcurrent⟩
    · rw [heq]
      refine ⟨?_, ?_, ?_, hkept reply⟩
      · refine List.pairwise_append.mpr ⟨h.distinct, List.pairwise_singleton _ _, fun x _ y hy p q _ hq => ?_⟩
        rw [List.mem_singleton.mp hy, hstarted] at hq
        cases hq
      · intro j reply' p hreply' hp
        rcases List.mem_append.mp hreply' with hreply' | hreply'
        · exact h.asked j reply' p hreply' hp
        · rw [List.mem_singleton, Prod.mk.injEq] at hreply'
          rw [hreply'.2, hstarted] at hp
          cases hp
      · intro id session hsession
        obtain ⟨entry, hentry, hp⟩ := h.vouched id session ((hcurrent id).symm.trans hsession)
        exact ⟨entry, List.mem_append_left _ hentry, hp⟩
    · rw [heq]
      refine ⟨?_, ?_, ?_, hkept _⟩
      · refine List.pairwise_append.mpr ⟨h.distinct, List.pairwise_singleton _ _, fun x hx y hy p q hp hq => ?_⟩
        rw [List.mem_singleton.mp hy] at hq
        obtain rfl := Option.some.inj hq
        exact hsession ▸ hallowed x hx p hp
      · intro j reply' p hreply' hp
        rcases List.mem_append.mp hreply' with hreply' | hreply'
        · exact h.asked j reply' p hreply' hp
        · rw [List.mem_singleton, Prod.mk.injEq] at hreply'
          obtain ⟨rfl, rfl⟩ := hreply'
          obtain rfl := Option.some.inj hp
          exact ⟨sender, header, body', hrequest, hid⟩
      · intro id session hcurrent'
        dsimp only at hcurrent'
        rw [hcurrent] at hcurrent'
        split at hcurrent'
        · next heq =>
          obtain rfl := Option.some.inj hcurrent'
          refine ⟨(i, .ok (.register response)), List.mem_append_right _ (List.mem_singleton_self _), ?_⟩
          rw [← heq, ← hsession]
          rfl
        · obtain ⟨entry, hentry, hp⟩ := h.vouched id session hcurrent'
          exact ⟨entry, List.mem_append_left _ hentry, hp⟩

theorem Sound.call (h : s.Sound uuid5) (a : ι) (report : Report) : (s.call a report).Sound uuid5 := by
  unfold Network.call
  split
  · exact h
  · split
    · next hid hsession => exact h.send ((h.kept a).called report hid hsession)
    · exact h.enroll (h.kept a) report

theorem Sound.receive (h : s.Sound uuid5) {reply : Except ApiError ApiResponse} {report : Report}
    (hallowed : s.Allowed (.receive a reply report)) : (s.receive render a reply report).Sound uuid5 := by
  obtain ⟨call, i, hawaiting, hreply⟩ := hallowed
  unfold Network.receive
  rw [hawaiting]
  cases call with
  | register =>
    cases reply with
    | error e => exact h.put ((h.kept a).registerFailed _).idle
    | ok response =>
      cases response with
      | register response => exact h.put ((h.kept a).registerAnswered hawaiting hreply)
      | _ => exact h.put ((h.kept a).registerFailed _).idle
  | heartbeat =>
    have hanswered := (h.kept a).heartbeatAnswered (heartbeatResult render reply)
    dsimp only
    split
    · exact h.enroll hanswered report
    · exact h.put hanswered.idle

theorem Sound.fail (h : s.Sound uuid5) (a : ι) (error : ClientError) : (s.fail a error).Sound uuid5 := by
  unfold Network.fail
  split
  · exact h
  · exact h.put ((h.kept a).registerFailed error).idle
  · exact h.put ((h.kept a).heartbeatAnswered (.error error)).idle

/-- **Every step keeps the invariant.** -/
theorem Sound.step (h : s.Sound uuid5) {event : NetworkEvent C ι} (hallowed : s.Allowed event) :
    (s.step core uuid5 parseUuid render event).Sound uuid5 := by
  cases event with
  | enroll a report =>
    change (if (s.members a).awaiting.isSome then s else s.enroll a (s.members a) report).Sound uuid5
    split
    · exact h
    · exact h.enroll (h.kept a) report
  | call a report => exact h.call a report
  | boot a => exact h.put (Member.kept_fresh rfl rfl)
  | foreign header request => exact h.request (none, header, request)
  | deliver i draw => exact h.deliver hallowed
  | receive a reply report => exact h.receive hallowed
  | fail a error => exact h.fail a error
  | work f => exact ⟨h.distinct, h.asked, h.vouched, h.kept⟩
  | restart load => exact ⟨h.distinct, h.asked, fun id session hsession => (by cases hsession), h.kept⟩

/-- **Every run keeps the invariant.** -/
theorem sound_run {log : List (NetworkEvent C ι)} (h : (networkMachine core uuid5 parseUuid render).Run log s) :
    s.Sound uuid5 := by
  refine h.invariant (P := fun _ s => s.Sound uuid5) ?_ fun _ _ _ _ hsound hallowed => hsound.step hallowed
  rintro s ⟨hagents, hrequests, hreplies, hmembers⟩
  refine ⟨by rw [hreplies]; exact List.Pairwise.nil, ?_, ?_, fun a => Member.kept_fresh (hmembers a).1 (hmembers a).2⟩
  · intro i reply p hreply
    rw [hreplies] at hreply
    cases hreply
  · intro id session hsession
    rw [hagents] at hsession
    cases hsession

end Network

end Invariant

end Sentinel
