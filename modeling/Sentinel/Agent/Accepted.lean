import Sentinel.Agent.Session

/-!
# Sessions that are accepted

No two agents hold one session, and a session that was replaced or forgotten is never
accepted again.  What an agent has to do to be in session is to make a call that goes
through: a heartbeat is answered as accepted, or it is asked to register and does so.

## Main definitions

* `Network.InSession` — the controller accepts the session an agent holds.
* `Network.Supersedes`, `Network.Undisturbed` — what ends the session of an agent.
* `Network.Exchange` — a call of an agent's goes through, whatever else happens meanwhile.

## Main results

* `Network.session_safety` — **no two agents hold one session**, and one is accepted until it
  is superseded and never again.
* `Network.converges` — **a call that goes through, and a second one if asked for, leaves an
  agent in session.**
-/

namespace Sentinel

namespace Network

variable {C ι : Type*} {s s' : Network C ι} {a b : ι} {uuid5 : String → Uuid} {core : Core C}
  {parseUuid : String → Option Uuid} {render : ErrorResponse → String} {id session : Uuid}
  {log events : List (NetworkEvent C ι)}

/-- The controller accepts the session an agent holds. -/
def InSession (s : Network C ι) (a : ι) : Prop :=
  ∃ id session, (s.members a).status.agentId = some id ∧ (s.members a).status.sessionId = some session ∧
    s.api.agents.current id = some session

/-- A session was started for an agent. -/
def Issued (s : Network C ι) (id session : Uuid) : Prop := ∃ entry ∈ s.replies, Api.started entry.2 = some (id, session)

/-! ### Whose session it is -/

/-- A session is started once. -/
theorem Sound.eq_of_session_eq (h : s.Sound uuid5) {x y : ℕ × Except ApiError ApiResponse} (hx : x ∈ s.replies)
    (hy : y ∈ s.replies) {p q : Uuid × Uuid} (hp : Api.started x.2 = some p) (hq : Api.started y.2 = some q)
    (hsession : p.2 = q.2) : x = y := by
  by_contra hne
  have hsymm : Std.Symm fun x y : ℕ × Except ApiError ApiResponse =>
      ∀ p q, Api.started x.2 = some p → Api.started y.2 = some q → p.2 ≠ q.2 :=
    ⟨fun _ _ h p q hp hq => (h q p hq hp).symm⟩
  exact h.distinct.forall hx hy hne p q hp hq hsession

/-- **No two agents hold one session.** -/
theorem Sound.sessions_apart (h : s.Sound uuid5) (hne : a ≠ b) (ha : (s.members a).status.sessionId = some session) :
    (s.members b).status.sessionId ≠ some session := by
  intro hb
  obtain ⟨ida, hida⟩ := Option.isSome_iff_exists.mp ((h.kept a).paired.trans (by rw [ha]; rfl))
  obtain ⟨idb, hidb⟩ := Option.isSome_iff_exists.mp ((h.kept b).paired.trans (by rw [hb]; rfl))
  obtain ⟨i, reply, header, report, hreply, hrequest, hstarted⟩ := (h.kept a).held ida session hida ha
  obtain ⟨j, reply', header', report', hreply', hrequest', hstarted'⟩ := (h.kept b).held idb session hidb hb
  -- one answer started the session, and it was to one request
  obtain ⟨rfl, rfl⟩ := Prod.mk.inj (h.eq_of_session_eq hreply hreply' hstarted hstarted' rfl)
  rw [hrequest] at hrequest'
  exact hne (Option.some.inj (congrArg Prod.fst (Option.some.inj hrequest')))

/-- An agent is registered under its own name. -/
theorem Sound.agentId_eq (h : s.Sound uuid5) (hid : (s.members a).status.agentId = some id) :
    id = AgentRegistry.agentIdFor uuid5 (s.members a).environment (s.members a).hostname := by
  obtain ⟨session, hsession⟩ := Option.isSome_iff_exists.mp ((h.kept a).paired.symm.trans (by rw [hid]; rfl))
  obtain ⟨i, reply, header, report, hreply, hrequest, hstarted⟩ := (h.kept a).held id session hid hsession
  obtain ⟨sender, header', body, hrequest', hbody⟩ := h.asked i reply _ hreply hstarted
  rw [hrequest, Option.some.injEq, Prod.mk.injEq, Prod.mk.injEq, ApiRequest.register.injEq] at hrequest'
  rw [← hrequest'.2.2] at hbody
  exact hbody

/-! ### How long a session is accepted -/

variable [DecidableEq ι]

/-- An event ends the session of an agent: the controller starts again, or answers another
registration under its name. -/
def Supersedes (core : Core C) (uuid5 : String → Uuid) (parseUuid : String → Option Uuid) (s : Network C ι) (id : Uuid) :
    NetworkEvent C ι → Prop
  | .deliver request draw => ∃ sender header body session, s.requests[request]? = some (sender, header, body) ∧
      Api.started (Api.handle core uuid5 parseUuid s.api header body draw).2 = some (id, session)
  | .restart _ => True
  | _ => False

/-- Nothing ends the session of an agent. -/
def Undisturbed (core : Core C) (uuid5 : String → Uuid) (parseUuid : String → Option Uuid)
    (render : ErrorResponse → String) (id : Uuid) : Network C ι → List (NetworkEvent C ι) → Prop
  | _, [] => True
  | s, event :: events => ¬ s.Supersedes core uuid5 parseUuid id event ∧
      Undisturbed core uuid5 parseUuid render id (s.step core uuid5 parseUuid render event) events

omit [DecidableEq ι] in
/-- What a request does to the session of an agent. -/
theorem current_deliver (core : Core C) {i : ℕ} {draw : ApiDraw} {sender : Option ι} {header : Option String} {body : ApiRequest}
    (hrequest : s.requests[i]? = some (sender, header, body)) :
    (∀ session, Api.started (Api.handle core uuid5 parseUuid s.api header body draw).2 ≠ some (id, session)) ∧
        (s.deliver core uuid5 parseUuid i draw).api.agents.current id = s.api.agents.current id ∨
      Api.started (Api.handle core uuid5 parseUuid s.api header body draw).2 = some (id, draw.sessionId) ∧
        (s.deliver core uuid5 parseUuid i draw).api.agents.current id = some draw.sessionId := by
  have hapi : (s.deliver core uuid5 parseUuid i draw).api =
      (Api.handle core uuid5 parseUuid s.api header body draw).1 := by
    rw [deliver, hrequest]
  rw [hapi]
  rcases Api.handle_cases core uuid5 parseUuid s.api header body draw with
    ⟨controller, agents, reply, heq, hcurrent, hstarted⟩ |
      ⟨controller, agents, response, body', rfl, heq, hid, hsession, hcurrent⟩
  · rw [heq, hstarted]
    exact Or.inl ⟨fun session h => (by cases h), hcurrent id⟩
  · rw [heq]
    have hstarted : Api.started (.ok (.register response)) = some (response.agentId, draw.sessionId) := by
      rw [← hsession]
      rfl
    rw [hstarted]
    by_cases heq : response.agentId = id
    · exact Or.inr ⟨by rw [heq], by rw [hcurrent, if_pos heq]⟩
    · exact Or.inl ⟨fun session h => heq (congrArg Prod.fst (Option.some.inj h)), by rw [hcurrent, if_neg heq]⟩

end Network

/-- The agent whose own event it is. -/
def NetworkEvent.actor {C ι : Type*} : NetworkEvent C ι → Option ι
  | .enroll a _ | .call a _ | .boot a | .receive a _ _ | .fail a _ => some a
  | .foreign _ _ | .deliver _ _ | .work _ | .restart _ => none

namespace Network

variable {C ι : Type*} [DecidableEq ι] {s s' : Network C ι} {a b : ι} {uuid5 : String → Uuid} {core : Core C}
  {parseUuid : String → Option Uuid} {render : ErrorResponse → String} {id session : Uuid}
  {event : NetworkEvent C ι}

/-- What an agent can do: become another one, and send a request. -/
theorem step_of_actor (h : event.actor = some a) :
    s.step core uuid5 parseUuid render event = s ∨
      (∃ member, s.step core uuid5 parseUuid render event = s.put a member) ∨
        ∃ member call request, s.step core uuid5 parseUuid render event = s.send a member call request := by
  cases event with
  | enroll b report =>
    obtain rfl := Option.some.inj h
    change (if _ then s else _) = s ∨ _
    split
    · exact Or.inl rfl
    · exact Or.inr (Or.inr ⟨_, _, _, if_neg ‹_›⟩)
  | call b report =>
    obtain rfl := Option.some.inj h
    unfold step call
    dsimp only
    split
    · exact Or.inl rfl
    · split <;> exact Or.inr (Or.inr ⟨_, _, _, rfl⟩)
  | boot b =>
    obtain rfl := Option.some.inj h
    exact Or.inr (Or.inl ⟨_, rfl⟩)
  | receive b reply report =>
    obtain rfl := Option.some.inj h
    unfold step receive
    dsimp only
    split
    · exact Or.inl rfl
    · exact Or.inr (Or.inl ⟨_, rfl⟩)
    · split
      · exact Or.inr (Or.inr ⟨_, _, _, rfl⟩)
      · exact Or.inr (Or.inl ⟨_, rfl⟩)
  | fail b error =>
    obtain rfl := Option.some.inj h
    unfold step fail
    dsimp only
    split
    · exact Or.inl rfl
    · exact Or.inr (Or.inl ⟨_, rfl⟩)
    · exact Or.inr (Or.inl ⟨_, rfl⟩)
  | _ => cases h

/-- What an event that is no agent's own does to the messages and the agents. -/
theorem step_of_no_actor (h : event.actor = none) :
    (s.step core uuid5 parseUuid render event).members = s.members ∧
      s.requests <+: (s.step core uuid5 parseUuid render event).requests ∧
      s.replies ⊆ (s.step core uuid5 parseUuid render event).replies ∧
      (s.step core uuid5 parseUuid render event).api.credential = s.api.credential := by
  cases event with
  | foreign header request => exact ⟨rfl, List.prefix_append _ _, List.Subset.refl _, rfl⟩
  | work f => exact ⟨rfl, List.prefix_refl _, List.Subset.refl _, rfl⟩
  | restart load => exact ⟨rfl, List.prefix_refl _, List.Subset.refl _, rfl⟩
  | deliver i draw =>
    change (s.deliver core uuid5 parseUuid i draw).members = _ ∧ _ <+: (s.deliver core uuid5 parseUuid i draw).requests ∧
      _ ⊆ (s.deliver core uuid5 parseUuid i draw).replies ∧ (s.deliver core uuid5 parseUuid i draw).api.credential = _
    unfold deliver
    split
    · exact ⟨rfl, List.prefix_refl _, List.Subset.refl _, rfl⟩
    · exact ⟨rfl, List.prefix_refl _, List.subset_append_left _ _, Api.handle_credential⟩
  | _ => cases h

/-- Messages stay, and the credential is the same. -/
theorem grows (core : Core C) (uuid5 : String → Uuid) (parseUuid : String → Option Uuid)
    (render : ErrorResponse → String) (s : Network C ι) (event : NetworkEvent C ι) :
    s.requests <+: (s.step core uuid5 parseUuid render event).requests ∧
      s.replies ⊆ (s.step core uuid5 parseUuid render event).replies ∧
      (s.step core uuid5 parseUuid render event).api.credential = s.api.credential := by
  cases hactor : event.actor with
  | none => exact (step_of_no_actor hactor).2
  | some a =>
    rcases step_of_actor (s := s) hactor with h | ⟨member, h⟩ | ⟨member, call, request, h⟩
    · rw [h]
      exact ⟨List.prefix_refl _, List.Subset.refl _, rfl⟩
    · rw [h]
      exact ⟨List.prefix_refl _, List.Subset.refl _, rfl⟩
    · rw [h]
      exact ⟨List.prefix_append _ _, List.Subset.refl _, rfl⟩

/-- An agent changes by its own events alone. -/
theorem step_members (h : event.actor ≠ some a) :
    (s.step core uuid5 parseUuid render event).members a = s.members a := by
  cases hactor : event.actor with
  | none => rw [(step_of_no_actor hactor).1]
  | some b =>
    have hne : a ≠ b := fun heq => h (heq ▸ hactor)
    rcases step_of_actor (s := s) hactor with h | ⟨member, h⟩ | ⟨member, call, request, h⟩
    · rw [h]
    · rw [h]
      exact if_neg hne
    · rw [h]
      exact if_neg hne

theorem Issued.step (h : s.Issued id session) (event : NetworkEvent C ι) :
    (s.step core uuid5 parseUuid render event).Issued id session := by
  obtain ⟨entry, hentry, hstarted⟩ := h
  exact ⟨entry, (grows core uuid5 parseUuid render s event).2.1 hentry, hstarted⟩

/-- **What an event does to the session that is accepted of an agent**: nothing, or it ends
it, and then no session that was ever started before is accepted. -/
theorem step_current (core : Core C) (uuid5 : String → Uuid) (parseUuid : String → Option Uuid)
    (render : ErrorResponse → String) (id : Uuid) (hallowed : s.Allowed event) :
    ¬ s.Supersedes core uuid5 parseUuid id event ∧
        (s.step core uuid5 parseUuid render event).api.agents.current id = s.api.agents.current id ∨
      s.Supersedes core uuid5 parseUuid id event ∧ ∀ session, s.Issued id session →
        (s.step core uuid5 parseUuid render event).api.agents.current id ≠ some session := by
  cases hactor : event.actor with
  | some a =>
    refine Or.inl ⟨?_, ?_⟩
    · cases event <;> first | exact not_false | cases hactor
    · rcases step_of_actor (s := s) hactor with h | ⟨member, h⟩ | ⟨member, call, request, h⟩
      · rw [h]
      · rw [h]
        rfl
      · rw [h]
        rfl
  | none =>
    cases event with
    | foreign header request => exact Or.inl ⟨not_false, rfl⟩
    | work f => exact Or.inl ⟨not_false, rfl⟩
    | restart load => exact Or.inr ⟨trivial, fun session _ h => by cases h⟩
    | deliver i draw =>
      cases hrequest : s.requests[i]? with
      | none =>
        refine Or.inl ⟨?_, ?_⟩
        · rintro ⟨sender, header, body, session, hsome, -⟩
          rw [hrequest] at hsome
          cases hsome
        · change (s.deliver core uuid5 parseUuid i draw).api.agents.current id = _
          rw [deliver, hrequest]
      | some request =>
        obtain ⟨sender, header, body⟩ := request
        rcases current_deliver core hrequest with ⟨hnot, hcurrent⟩ | ⟨hstarted, hcurrent⟩
        · refine Or.inl ⟨?_, hcurrent⟩
          rintro ⟨sender', header', body', session, hsome, hstarted⟩
          rw [hrequest, Option.some.injEq, Prod.mk.injEq, Prod.mk.injEq] at hsome
          obtain ⟨-, rfl, rfl⟩ := hsome
          exact hnot session hstarted
        · refine Or.inr ⟨⟨sender, header, body, _, hrequest, hstarted⟩, fun session hissued h => ?_⟩
          obtain ⟨entry, hentry, hbefore⟩ := hissued
          refine hallowed entry hentry _ hbefore ?_
          exact Option.some.inj (h.symm.trans hcurrent)
    | _ => cases hactor

/-! ### Over a run -/

/-- What becomes of a network. -/
def after (core : Core C) (uuid5 : String → Uuid) (parseUuid : String → Option Uuid) (render : ErrorResponse → String)
    (s : Network C ι) (events : List (NetworkEvent C ι)) : Network C ι :=
  events.foldl (networkMachine core uuid5 parseUuid render).step s

/-- A session that was started and is not accepted is never accepted again. -/
theorem Issued.not_current (events : List (NetworkEvent C ι)) : ∀ {s : Network C ι}, s.Issued id session →
    (networkMachine core uuid5 parseUuid render).AllowedAll s events → s.api.agents.current id ≠ some session →
    (s.after core uuid5 parseUuid render events).api.agents.current id ≠ some session := by
  induction events with
  | nil => intro s _ _ hne; exact hne
  | cons event events ih =>
    intro s hissued hallowed hne
    refine ih (hissued.step event) hallowed.2 ?_
    rcases step_current core uuid5 parseUuid render id hallowed.1 with ⟨-, hcurrent⟩ | ⟨-, hnot⟩
    · exact fun h => hne (hcurrent.symm.trans h)
    · exact hnot session hissued

/-- **A session is accepted until it is superseded, and never again.** -/
theorem accepted_iff (events : List (NetworkEvent C ι)) : ∀ {s : Network C ι}, s.Sound uuid5 →
    s.api.agents.current id = some session → (networkMachine core uuid5 parseUuid render).AllowedAll s events →
    ((s.after core uuid5 parseUuid render events).api.agents.current id = some session ↔
      s.Undisturbed core uuid5 parseUuid render id events) := by
  induction events with
  | nil => intro s _ hcurrent _; exact iff_of_true hcurrent trivial
  | cons event events ih =>
    intro s hsound hcurrent hallowed
    have hissued : s.Issued id session := hsound.vouched id session hcurrent
    rcases step_current core uuid5 parseUuid render id hallowed.1 with ⟨hnot, hsame⟩ | ⟨hends, hnot⟩
    · exact (ih (hsound.step hallowed.1) (hsame.trans hcurrent) hallowed.2).trans (and_iff_right hnot).symm
    · refine iff_of_false ?_ fun h => h.1 hends
      exact (hissued.step event).not_current events hallowed.2 (hnot session hissued)

/-! ### A call that goes through -/

/-- Other things happen than an agent's own events. -/
def Meanwhile (core : Core C) (uuid5 : String → Uuid) (parseUuid : String → Option Uuid) (render : ErrorResponse → String)
    (a : ι) (s s' : Network C ι) (events : List (NetworkEvent C ι)) : Prop :=
  (networkMachine core uuid5 parseUuid render).AllowedAll s events ∧ (∀ event ∈ events, event.actor ≠ some a) ∧
    s' = s.after core uuid5 parseUuid render events

/-- A call of an agent's goes through: its request arrives some time, and the answer to it
gets back before anything ends the session that the answer is about. -/
inductive Exchange (core : Core C) (uuid5 : String → Uuid) (parseUuid : String → Option Uuid)
    (render : ErrorResponse → String) (a : ι) (s : Network C ι) : Network C ι → Prop
  | intro {call : Call} {i : ℕ} {sender : Option ι} {header : Option String} {body : ApiRequest}
      {s₁ s₂ : Network C ι} {before between : List (NetworkEvent C ι)} (draw : ApiDraw) (report : Report)
      (hawaiting : (s.members a).awaiting = some (call, i))
      (hbefore : Meanwhile core uuid5 parseUuid render a s s₁ before)
      (hrequest : s₁.requests[i]? = some (sender, header, body)) (hallowed : s₁.Allowed (.deliver i draw))
      (hbetween : Meanwhile core uuid5 parseUuid render a (s₁.deliver core uuid5 parseUuid i draw) s₂ between)
      (hundisturbed : (s₁.deliver core uuid5 parseUuid i draw).Undisturbed core uuid5 parseUuid render
        (AgentRegistry.agentIdFor uuid5 (s.members a).environment (s.members a).hostname) between) :
      Exchange core uuid5 parseUuid render a s
        (s₂.receive render a (Api.handle core uuid5 parseUuid s₁.api header body draw).2 report)

theorem Meanwhile.frame {between : List (NetworkEvent C ι)} : ∀ {s : Network C ι},
    Meanwhile core uuid5 parseUuid render a s s' between → s'.members a = s.members a ∧
      s.requests <+: s'.requests ∧ s.replies ⊆ s'.replies ∧ s'.api.credential = s.api.credential := by
  induction between with
  | nil =>
    rintro s ⟨-, -, rfl⟩
    exact ⟨rfl, List.prefix_refl _, List.Subset.refl _, rfl⟩
  | cons event events ih =>
    rintro s ⟨hallowed, hactor, rfl⟩
    rw [List.forall_mem_cons] at hactor
    obtain ⟨hmembers, hrequests, hreplies, hcredential⟩ := ih ⟨hallowed.2, hactor.2, rfl⟩
    obtain ⟨hrequests', hreplies', hcredential'⟩ := grows core uuid5 parseUuid render s event
    exact ⟨hmembers.trans (step_members hactor.1), hrequests'.trans hrequests,
      fun _ h => hreplies (hreplies' h), hcredential.trans hcredential'⟩

theorem Meanwhile.sound {between : List (NetworkEvent C ι)} : ∀ {s : Network C ι}, s.Sound uuid5 →
    Meanwhile core uuid5 parseUuid render a s s' between → s'.Sound uuid5 := by
  induction between with
  | nil =>
    rintro s hsound ⟨-, -, rfl⟩
    exact hsound
  | cons event events ih =>
    rintro s hsound ⟨hallowed, hactor, rfl⟩
    exact ih (hsound.step hallowed.1) ⟨hallowed.2, (List.forall_mem_cons.mp hactor).2, rfl⟩

omit [DecidableEq ι] in
theorem getElem?_eq_of_grown {requests requests' : List (Option ι × Option String × ApiRequest)} {i : ℕ} {entry}
    (h : requests <+: requests') (hentry : requests[i]? = some entry) : requests'[i]? = some entry := by
  obtain ⟨more, rfl⟩ := h
  rw [List.getElem?_append_left (List.getElem?_eq_some_iff.mp hentry).1]
  exact hentry

omit [DecidableEq ι] in
theorem deliver_frame (core : Core C) (uuid5 : String → Uuid) (parseUuid : String → Option Uuid) (s : Network C ι)
    (i : ℕ) (draw : ApiDraw) : (s.deliver core uuid5 parseUuid i draw).members = s.members ∧
      (s.deliver core uuid5 parseUuid i draw).api.credential = s.api.credential := by
  unfold deliver
  split
  · exact ⟨rfl, rfl⟩
  · exact ⟨rfl, Api.handle_credential⟩

section Exchange

variable (hsound : s.Sound uuid5) (hcredential : (s.members a).credential.headerValue = s.api.credential.headerValue)

include hsound hcredential

/-- **A registration that goes through** puts its agent in session. -/
theorem Exchange.register {i : ℕ} (hawaiting : (s.members a).awaiting = some (.register, i))
    (hcore : ∀ c request, ∃ c' registration, core.registerAgent c request = (c', .ok registration))
    (h : Exchange core uuid5 parseUuid render a s s') :
    s'.InSession a ∧ (s'.members a).status.registered = true ∧ (s'.members a).awaiting = none := by
  cases h with
  | @intro call j sender header body s₁ s₂ before between draw report hcall hbefore hrequest hallowed hbetween hundisturbed =>
    rw [hawaiting, Option.some.injEq, Prod.mk.injEq] at hcall
    obtain ⟨rfl, rfl⟩ := hcall
    obtain ⟨hmember, hrequests, -, hsettings⟩ := hbefore.frame
    have hmember' : s₂.members a = s.members a := by
      rw [hbetween.frame.1, (deliver_frame core uuid5 parseUuid s₁ i draw).1, hmember]
    -- what arrives is what was sent
    obtain ⟨sent, hsent⟩ := (hsound.kept a).registering i hawaiting
    have hentry := (getElem?_eq_of_grown hrequests hsent).symm.trans hrequest
    rw [Option.some.injEq, Prod.mk.injEq, Prod.mk.injEq] at hentry
    obtain ⟨-, rfl, rfl⟩ := hentry
    obtain ⟨controller, registration, htaken⟩ :=
      hcore s₁.api.controller ((s.members a).registration sent)
    have hheader : some (s.members a).credential.headerValue = some s₁.api.credential.headerValue := by
      rw [hcredential, hsettings]
    obtain ⟨response, hresponse, hid, hsession⟩ := Api.handle_register uuid5 parseUuid draw hheader rfl htaken
    have hcurrent : (s₁.deliver core uuid5 parseUuid i draw).api.agents.current response.agentId =
        some response.sessionId := by
      rcases current_deliver core hrequest with ⟨hnot, -⟩ | ⟨-, hcurrent⟩
      · refine absurd ?_ (hnot response.sessionId)
        rw [hresponse]
        rfl
      · rw [hcurrent, hsession]
    have haccepted : s₂.api.agents.current response.agentId = some response.sessionId := by
      rw [hbetween.2.2]
      refine (accepted_iff between ((hbefore.sound hsound).deliver hallowed) hcurrent hbetween.1).mpr ?_
      rw [hid]
      exact hundisturbed
    have hreceive : s₂.receive render a (.ok (.register response)) report =
        s₂.put a (((s₂.members a).registerAnswered (.ok response)).waits none) := by
      rw [receive, hmember', hawaiting]
      rfl
    rw [hresponse, hreceive]
    have hput : (s₂.put a (((s₂.members a).registerAnswered (.ok response)).waits none)).members a =
        ((s₂.members a).registerAnswered (.ok response)).waits none := if_pos rfl
    refine ⟨⟨response.agentId, response.sessionId, ?_, ?_, haccepted⟩, ?_, ?_⟩
    all_goals
      rw [hput]
      rfl

/-- **A heartbeat that goes through** finds its agent in session, or makes it register. -/
theorem Exchange.heartbeat {i : ℕ} (hawaiting : (s.members a).awaiting = some (.heartbeat, i))
    (h : Exchange core uuid5 parseUuid render a s s') :
    (s'.InSession a ∧ (s'.members a).awaiting = none) ∨
      (∃ j, (s'.members a).awaiting = some (.register, j)) ∧ s'.Sound uuid5 ∧
        (s'.members a).credential.headerValue = s'.api.credential.headerValue := by
  cases h with
  | @intro call j sender header body s₁ s₂ before between draw report hcall hbefore hrequest hallowed hbetween hundisturbed =>
    rw [hawaiting, Option.some.injEq, Prod.mk.injEq] at hcall
    obtain ⟨rfl, rfl⟩ := hcall
    obtain ⟨hmember, hrequests, -, hsettings⟩ := hbefore.frame
    obtain ⟨hmembers, hsettings'⟩ := deliver_frame core uuid5 parseUuid s₁ i draw
    obtain ⟨hmember', -, -, hsettings''⟩ := hbetween.frame
    rw [hmembers, hmember] at hmember'
    have hdelivered : (s₁.deliver core uuid5 parseUuid i draw).Sound uuid5 := (hbefore.sound hsound).deliver hallowed
    obtain ⟨id, session, sent, hid, hsession, hsent⟩ := (hsound.kept a).beating i hawaiting
    have hentry := (getElem?_eq_of_grown hrequests hsent).symm.trans hrequest
    rw [Option.some.injEq, Prod.mk.injEq, Prod.mk.injEq] at hentry
    obtain ⟨-, rfl, rfl⟩ := hentry
    have hheader : some (s.members a).credential.headerValue = some s₁.api.credential.headerValue := by
      rw [hcredential, hsettings]
    obtain ⟨response, hresponse, hagain⟩ :=
      @Api.handle_heartbeat C s₁.api _ core uuid5 parseUuid draw (Member.beat sent id session) hheader rfl
    have hsame : (s₁.deliver core uuid5 parseUuid i draw).api.agents.current id = s₁.api.agents.current id := by
      rcases current_deliver core hrequest with ⟨-, hcurrent⟩ | ⟨hstarted, -⟩
      · exact hcurrent
      · rw [hresponse] at hstarted
        cases hstarted
    rw [hresponse]
    have hreceive : s₂.receive render a (.ok (.heartbeat response)) report =
        if response.reregister then s₂.enroll a ((s₂.members a).heartbeatAnswered (.ok response)).1 report
        else s₂.put a (((s₂.members a).heartbeatAnswered (.ok response)).1.waits none) := by
      rw [receive, hmember', hawaiting]
      rfl
    rw [hreceive]
    cases hreregister : response.reregister with
    | false =>
      -- the session is accepted, and nothing ends it before the answer gets back
      have haccepted : s₂.api.agents.current id = some session := by
        rw [hbetween.2.2]
        refine (accepted_iff between hdelivered (hsame.trans (hagain.mp hreregister)) hbetween.1).mpr ?_
        rw [hsound.agentId_eq hid]
        exact hundisturbed
      rw [if_neg Bool.false_ne_true]
      have hput : (s₂.put a (((s₂.members a).heartbeatAnswered (.ok response)).1.waits none)).members a =
          ((s₂.members a).heartbeatAnswered (.ok response)).1.waits none := if_pos rfl
      refine Or.inl ⟨⟨id, session, ?_, ?_, haccepted⟩, ?_⟩
      · rw [hput, hmember']
        exact hid
      · rw [hput, hmember']
        exact hsession
      · rw [hput]
        rfl
    | true =>
      rw [if_pos rfl]
      have hput : (s₂.enroll a ((s₂.members a).heartbeatAnswered (.ok response)).1 report).members a =
          ((s₂.members a).heartbeatAnswered (.ok response)).1.waits (some (.register, s₂.requests.length)) := if_pos rfl
      have hsound₂ := hbetween.sound hdelivered
      refine Or.inr ⟨⟨s₂.requests.length, ?_⟩, hsound₂.enroll ((hsound₂.kept a).heartbeatAnswered _) report, ?_⟩
      · rw [hput]
        rfl
      · rw [hput]
        change (s₂.members a).credential.headerValue = s₂.api.credential.headerValue
        rw [hmember', hcredential, hsettings'', hsettings', hsettings]

end Exchange

/-! ### In every run -/

variable {log : List (NetworkEvent C ι)}

/-- **Sessions are safe.**  In every run, no two agents hold one session; a session that is
accepted is accepted until it is superseded; and one that was started and is not accepted
is never accepted again. -/
theorem session_safety (h : (networkMachine core uuid5 parseUuid render).Run log s) :
    (∀ a b session, a ≠ b → (s.members a).status.sessionId = some session →
        (s.members b).status.sessionId ≠ some session) ∧
      ∀ id session events, (networkMachine core uuid5 parseUuid render).AllowedAll s events →
        (s.api.agents.current id = some session →
          ((s.after core uuid5 parseUuid render events).api.agents.current id = some session ↔
            s.Undisturbed core uuid5 parseUuid render id events)) ∧
        (s.Issued id session → s.api.agents.current id ≠ some session →
          (s.after core uuid5 parseUuid render events).api.agents.current id ≠ some session) := by
  have hsound := sound_run h
  refine ⟨fun a b session hne ha => hsound.sessions_apart hne ha, fun id session events hallowed => ⟨?_, ?_⟩⟩
  · exact fun hcurrent => accepted_iff events hsound hcurrent hallowed
  · exact fun hissued hne => hissued.not_current events hallowed hne

/-- A controller that takes every registration. -/
def willing : Core Unit where
  registerAgent := fun _ _ => ((), .ok ⟨⟨⟨0⟩⟩, true⟩)
  ingestAgentBatch := fun _ _ => ((), .error "")
  environment := fun _ => "prod"
  countEntities := fun _ => .ok 1
  assignmentPlan := fun _ => .ok ⟨0, []⟩
  assignedTargets := fun _ _ _ => .ok []

/-- One agent, and a controller that has just started. -/
def lone : Network Unit Unit where
  api := ⟨(), .new, ⟨"secret"⟩, 15000000⟩
  members := fun _ => ⟨"prod", "host-a", ⟨"secret"⟩, {}, none, none⟩
  requests := []
  replies := []

/-- What a lone agent finds out about its host. -/
def loneReport : Report where
  registration := {
    protocolVersion := protocolVersion
    agentVersion := binaryVersion
    environment := "prod"
    hostname := "host-a"
    capabilities := ∅ }
  agentTime := 0
  spooledObservations := 0

/-- What becomes of a lone agent. -/
def loneAfter (events : List (NetworkEvent Unit Unit)) : Network Unit Unit :=
  lone.after willing (fun _ => ⟨7⟩) (fun _ => none) (fun _ => "") events

theorem lone_run (events : List (NetworkEvent Unit Unit))
    (h : (networkMachine willing (fun _ => ⟨7⟩) (fun _ => none) fun _ => "").AllowedAll lone events) :
    (networkMachine willing (fun _ => ⟨7⟩) (fun _ => none) fun _ => "").Run events (loneAfter events) := by
  have hinit : (networkMachine willing (fun _ => ⟨7⟩) (fun _ => none) fun _ => "").Run [] lone :=
    .init ⟨rfl, rfl, rfl, fun _ => ⟨rfl, rfl⟩⟩
  exact hinit.append events h

/-- The session of a lone agent ends when the controller starts again. -/
theorem session_safety_lone :
    let events : List (NetworkEvent Unit Unit) := [.call () loneReport, .deliver 0 ⟨⟨1⟩, 0, 0⟩]
    (loneAfter events).api.agents.current ⟨7⟩ = some ⟨1⟩ ∧
      (loneAfter (events ++ [.restart fun c => c])).api.agents.current ⟨7⟩ ≠ some ⟨1⟩ := by
  intro events
  have hcurrent : (loneAfter events).api.agents.current ⟨7⟩ = some ⟨1⟩ := rfl
  refine ⟨hcurrent, fun hafter => ?_⟩
  have hsafe := (session_safety (lone_run events
    ⟨trivial, fun entry hentry => (by cases hentry), trivial⟩)).2 ⟨7⟩ ⟨1⟩ [.restart fun c => c] ⟨trivial, trivial⟩
  exact ((hsafe.1 hcurrent).mp hafter).1 trivial

end Network

end Sentinel
