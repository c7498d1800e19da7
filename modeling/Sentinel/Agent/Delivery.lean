import Sentinel.Agent.Spool
import Sentinel.Controller.Ingest

/-!
# Delivering observations

An agent writes what it observed to its spool first and removes it once the
controller has confirmed it.  Between the two there is a network: a request may not
arrive, or arrive late or more than once; an answer may get lost after the
controller has committed.  Either side may stop and start again at any moment, with
what it has on disk.

The steps are those of the code with the waiting taken apart: a flush is a series of
`send` and `receive`, the agent's spool is written and kept within its limits in two
transactions.

## Main definitions

* `confirmed` — what of a batch an agent removes on an answer.
* `Delivery`, `DeliveryEvent`, `deliveryMachine` — agent, controller and the messages
  between them.
* `Delivery.Sound` — the invariant.

## Main results

* `Delivery.Sound.step` — every step keeps the invariant.
* `Delivery.leaves_spool` — a row leaves the spool for a limit, or after it was stored.
* `Delivery.no_loss_no_duplicate` — **over every run, nothing recorded is lost and
  nothing is folded into a stream twice.**
-/

namespace Sentinel

/-- The most observations in one request. -/
def maxBatch : ℕ := 500

/-- The observations of a batch that an answer confirms: all it does not reject. -/
def confirmed (batch : List Observation) (response : ObservationBatchResponse) :
    List ObservationId :=
  (batch.filter fun o => o.id.uuid.toText ∉ response.rejected.map RejectedObservation.id).map
    Observation.id

/-- An agent, the controller, and the messages between them. -/
structure Delivery where
  /-- The agent's spool. -/
  spool : Spool
  /-- The request the agent is waiting for an answer to, with its batch. -/
  awaiting : Option (ℕ × List Observation)
  /-- Every row the limits of the spool removed. -/
  evicted : List Observation
  /-- Every request sent, by number. -/
  requests : List (List Observation)
  /-- The answers under way, with the number of their request. -/
  responses : List (ℕ × ObservationBatchResponse)
  /-- The controller. -/
  controller : Controller

/-- What may happen. -/
inductive DeliveryEvent
  /-- The agent writes observations to its spool. -/
  | record (observations : List Observation)
  /-- The agent keeps its spool within the limits. -/
  | evict (now : Timestamp)
  /-- The agent sends the next batch. -/
  | send
  /-- A request arrives at the controller. -/
  | deliver (request : ℕ) (now : Timestamp) (clock : Observation → Timestamp)
  /-- The agent gets the answer it is waiting for. -/
  | receive (request : ℕ) (response : ObservationBatchResponse)
  /-- The agent stops waiting, or starts again. -/
  | giveUp
  /-- The controller ingests other observations. -/
  | ingest (now : Timestamp) (clock : Observation → Timestamp) (observations : List Observation)
  /-- The controller merges a snapshot. -/
  | snapshot (now : Timestamp) (inventory : Inventory) (entities : List ManagedEntity)
      (monitored : ManagedEntity → Option Bool)
  /-- The controller expires silent streams. -/
  | expire (now at_ : Timestamp) (horizon : StateStream → Duration)
  /-- The monitoring state is reset. -/
  | reset (now : Timestamp)
  /-- The controller starts again. -/
  | restart (now : Timestamp) (clock : Observation → Timestamp) (states : List EntityState)
      (monitored : ManagedEntity → Option Bool)

section Machine

variable (size : Observation → ℕ) (limits : SpoolLimits) (observed : ObservationId → Observation)

/-- What an event does. -/
def Delivery.step (s : Delivery) : DeliveryEvent → Delivery
  | .record observations => { s with spool := s.spool.insertAll observations }
  | .evict now =>
    let spool := s.spool.evict size limits now
    { s with
      spool := spool
      evicted := s.evicted ++ s.spool.rows.filter fun o => o.id ∉ spool.rows.map Observation.id }
  | .send =>
    let batch := s.spool.peek maxBatch
    if batch.isEmpty then s
    else
      { s with
        awaiting := some (s.requests.length, batch)
        requests := s.requests ++ [batch] }
  | .deliver request now clock =>
    match s.requests[request]? with
    | none => s
    | some batch =>
      match s.controller.ingestAgentBatch now clock batch with
      | none => s
      | some (controller, response) =>
        { s with controller := controller, responses := s.responses ++ [(request, response)] }
  | .receive _ response =>
    match s.awaiting with
    | none => s
    | some (_, batch) =>
      { s with spool := s.spool.acknowledge (confirmed batch response), awaiting := none }
  | .giveUp => { s with awaiting := none }
  | .ingest now clock observations =>
    match s.controller.ingestObservationsRecorded now clock observations with
    | none => s
    | some (controller, _) => { s with controller := controller }
  | .snapshot now inventory entities monitored =>
    { s with controller := s.controller.ingestSnapshot now inventory entities monitored }
  | .expire now at_ horizon => { s with controller := s.controller.expire now at_ horizon }
  | .reset now =>
    { s with controller := { s.controller with store := s.controller.store.resetState now } }
  | .restart now clock states monitored =>
    { s with controller := Controller.start s.controller.store now clock states monitored }

/-- What the surroundings keep to: an identifier stands for one observation; an agent
sends when it is not waiting, and takes the answer to the request it is waiting for. -/
def Delivery.Allowed (s : Delivery) : DeliveryEvent → Prop
  | .record observations => ∀ o ∈ observations, o = observed o.id
  | .send => s.awaiting = none
  | .receive request response => (request, response) ∈ s.responses ∧
      ∃ batch, s.awaiting = some (request, batch)
  | .ingest _ _ observations => ∀ o ∈ observations, o = observed o.id
  | _ => True

/-- Agent, controller and network, from a spool with any rows and a controller just
started on a store with any observations, but without streams. -/
def deliveryMachine : Machine Delivery DeliveryEvent where
  Init := fun s => (∀ o ∈ s.spool.rows, o = observed o.id) ∧ s.awaiting = none ∧ s.evicted = [] ∧
    s.requests = [] ∧ s.responses = [] ∧ ∃ store now clock states monitored,
      (∀ o ∈ store.stored, o = observed o.id) ∧ store.streams = [] ∧ (∀ k, store.folded k = []) ∧
      s.controller = Controller.start store now clock states monitored
  step := Delivery.step size limits
  Allowed := Delivery.Allowed observed

end Machine

namespace Delivery

variable {size : Observation → ℕ} {limits : SpoolLimits} {observed : ObservationId → Observation}
  {s : Delivery} {log : List DeliveryEvent}

/-- The observations the controller has stored. -/
def stored (s : Delivery) : List Observation := s.controller.store.stored

/-- The invariant over what was recorded. -/
structure Sound (observed : ObservationId → Observation) (log : List DeliveryEvent) (s : Delivery) :
    Prop where
  /-- An identifier stands for one observation, wherever it is. -/
  spooled : ∀ o ∈ s.spool.rows, o = observed o.id
  sent : ∀ batch ∈ s.requests, ∀ o ∈ batch, o = observed o.id
  known : ∀ o ∈ s.stored, o = observed o.id
  /-- Nothing recorded is lost. -/
  accounted : ∀ observations, .record observations ∈ log → ∀ o ∈ observations,
    o ∈ s.spool.rows ∨ o ∈ s.stored ∨ o ∈ s.evicted
  /-- The agent waits for a request it sent. -/
  awaited : ∀ request batch, s.awaiting = some (request, batch) → s.requests[request]? = some batch
  /-- What an answer confirms has been stored. -/
  answered : ∀ request response, (request, response) ∈ s.responses →
    ∃ batch, s.requests[request]? = some batch ∧
      ∀ o ∈ batch, o.id.uuid.toText ∉ response.rejected.map RejectedObservation.id → o ∈ s.stored
  /-- The controller folds nothing in twice. -/
  controller : s.controller.Sound

/-! ### The controller's steps -/

/-- What a step of the controller leaves alone, as far as the agent can tell: rows
are only added. -/
structure Extends (observed : ObservationId → Observation) (before after : Controller) : Prop where
  sound : after.Sound
  stored : ∀ o ∈ before.store.stored, o ∈ after.store.stored
  known : ∀ o ∈ after.store.stored, o ∈ before.store.stored ∨ o = observed o.id

theorem identified_of_observed {observations : List Observation}
    (h : ∀ o ∈ observations, o = observed o.id) : Identified observations := by
  intro o ho o' ho' hid
  rw [h o ho, h o' ho', hid]

theorem Extends.ingest {before after : Controller} {now : Timestamp}
    {clock : Observation → Timestamp} {observations : List Observation} {outcome : IngestOutcome}
    (h : before.Sound) (hobserved : ∀ o ∈ observations, o = observed o.id)
    (hafter : before.ingestObservationsRecorded now clock observations = some (after, outcome)) :
    Extends observed before after ∧ ∀ o ∈ observations, o.id ∈ after.store.ids := by
  have hsound := h.ingest (identified_of_observed hobserved) hafter
  have heq := before.ingestObservationsRecorded_eq now clock observations
  rw [hafter] at heq
  split at heq
  · cases heq
  have hstored : after.store.stored = before.store.stored ++ before.store.fresh observations := by
    rw [show after = _ from Option.some.inj heq]
    exact Store.stored_added ..
  refine ⟨⟨hsound, fun o ho => ?_, fun o ho => ?_⟩, fun o ho => ?_⟩
  · rw [hstored]
    exact List.mem_append_left _ ho
  · rw [hstored, List.mem_append] at ho
    exact ho.imp_right fun ho => hobserved o (Store.mem_fresh ho).1
  · by_cases hid : o.id ∈ before.store.ids
    · rw [Store.ids, hstored, List.map_append]
      exact List.mem_append_left _ hid
    · rw [Store.ids, hstored, List.map_append]
      exact List.mem_append_right _
        (Store.mem_ids_fresh.mpr ⟨List.mem_map_of_mem ho, hid⟩)

theorem Extends.of_store {before after : Controller} (h : after.Sound)
    (hstore : after.store.observations = before.store.observations) :
    Extends observed before after := by
  have hstored : after.store.stored = before.store.stored := by
    rw [Store.stored, hstore, Store.stored]
  exact ⟨h, fun o ho => hstored ▸ ho, fun o ho => Or.inl (hstored ▸ ho)⟩

theorem start_observations (store : Store) (now : Timestamp) (clock : Observation → Timestamp)
    (states : List EntityState) (monitored : ManagedEntity → Option Bool) :
    (Controller.start store now clock states monitored).store.observations = store.observations := by
  unfold Controller.start
  dsimp only
  split <;> rfl

theorem snapshot_observations (controller : Controller) (now : Timestamp) (inventory : Inventory)
    (entities : List ManagedEntity) (monitored : ManagedEntity → Option Bool) :
    (controller.ingestSnapshot now inventory entities monitored).store.observations =
      controller.store.observations := by
  unfold Controller.ingestSnapshot
  dsimp only
  split <;> rfl

/-- A controller that only adds rows keeps the invariant of the rest. -/
theorem Sound.extend {controller : Controller} (h : s.Sound observed log) (event : DeliveryEvent)
    (hrecord : ∀ observations, event ≠ .record observations)
    (hextends : Extends observed s.controller controller) :
    ({ s with controller := controller } : Delivery).Sound observed (log ++ [event]) where
  spooled := h.spooled
  sent := h.sent
  known := fun o ho => (hextends.known o ho).elim (h.known o) id
  accounted := by
    intro observations hmem o ho
    rcases List.mem_append.mp hmem with hmem | hmem
    · exact (h.accounted observations hmem o ho).imp_right (Or.imp_left (hextends.stored o))
    · exact absurd (List.mem_singleton.mp hmem).symm (hrecord observations)
  awaited := h.awaited
  answered := by
    intro request response hmem
    obtain ⟨batch, hbatch, hstored⟩ := h.answered request response hmem
    exact ⟨batch, hbatch, fun o ho hrejected => hextends.stored o (hstored o ho hrejected)⟩
  controller := hextends.sound

/-! ### The agent's steps -/

/-- An earlier record is none of what other events log. -/
theorem record_mem_of_ne {event : DeliveryEvent} {observations : List Observation}
    (hne : ∀ observations, event ≠ .record observations)
    (h : .record observations ∈ log ++ [event]) : .record observations ∈ log := by
  rcases List.mem_append.mp h with h | h
  · exact h
  · exact absurd (List.mem_singleton.mp h).symm (hne observations)

theorem Sound.record (h : s.Sound observed log) {observations : List Observation}
    (hobserved : ∀ o ∈ observations, o = observed o.id) :
    ({ s with spool := s.spool.insertAll observations } : Delivery).Sound observed
      (log ++ [.record observations]) := by
  obtain ⟨hkeep, hfrom, hids⟩ := Spool.insertAll_spec observations s.spool
  have hspooled : ∀ o ∈ (s.spool.insertAll observations).rows, o = observed o.id :=
    fun o ho => (hfrom o ho).elim (h.spooled o) (hobserved o)
  refine ⟨hspooled, h.sent, h.known, ?_, h.awaited, h.answered, h.controller⟩
  intro observations' hmem o ho
  rcases List.mem_append.mp hmem with hmem | hmem
  · exact (h.accounted observations' hmem o ho).imp_left (hkeep o)
  · -- the row of its identifier is the observation itself
    cases List.mem_singleton.mp hmem
    obtain ⟨a, ha, hid⟩ := List.mem_map.mp (hids o ho)
    have hao : a = o := by rw [hspooled a ha, hobserved o ho, hid]
    exact Or.inl (hao ▸ ha)

theorem Sound.evict (h : s.Sound observed log) (now : Timestamp) :
    (s.step size limits (.evict now)).Sound observed (log ++ [.evict now]) := by
  refine ⟨fun o ho => h.spooled o (Spool.mem_evict ho), h.sent, h.known, ?_, h.awaited, h.answered,
    h.controller⟩
  intro observations hmem o ho
  rcases h.accounted observations (record_mem_of_ne (by simp) hmem) o ho with ho | ho | ho
  · by_cases hid : o.id ∈ (s.spool.evict size limits now).rows.map Observation.id
    · obtain ⟨a, ha, hid⟩ := List.mem_map.mp hid
      have hao : a = o := Spool.eq_of_id_eq (Spool.mem_evict ha) ho hid
      exact Or.inl (hao ▸ ha)
    · exact Or.inr (Or.inr (List.mem_append_right _ (List.mem_filter.mpr ⟨ho, by simpa using hid⟩)))
  · exact Or.inr (Or.inl ho)
  · exact Or.inr (Or.inr (List.mem_append_left _ ho))

theorem mem_peek {spool : Spool} {n : ℕ} {o : Observation} (h : o ∈ spool.peek n) :
    o ∈ spool.rows := (List.perm_sortBy Spool.replayKey spool.rows).mem_iff.mp (List.mem_of_mem_take h)

theorem Sound.send (h : s.Sound observed log) :
    (s.step size limits .send).Sound observed (log ++ [.send]) := by
  have haccounted : ∀ observations, .record observations ∈ log ++ [DeliveryEvent.send] →
      ∀ o ∈ observations, o ∈ s.spool.rows ∨ o ∈ s.stored ∨ o ∈ s.evicted := by
    intro observations hmem
    exact h.accounted observations (record_mem_of_ne (by simp) hmem)
  rw [step]
  split
  · exact ⟨h.spooled, h.sent, h.known, haccounted, h.awaited, h.answered, h.controller⟩
  · have hkeep : ∀ {request : ℕ} {batch : List Observation}, s.requests[request]? = some batch →
        (s.requests ++ [s.spool.peek maxBatch])[request]? = some batch := by
      intro request batch hbatch
      rw [List.getElem?_append_left (List.getElem?_eq_some_iff.mp hbatch).1]
      exact hbatch
    refine ⟨h.spooled, ?_, h.known, haccounted, ?_, ?_, h.controller⟩
    · intro batch hbatch o ho
      rcases List.mem_append.mp hbatch with hbatch | hbatch
      · exact h.sent batch hbatch o ho
      · rw [List.mem_singleton.mp hbatch] at ho
        exact h.spooled o (mem_peek ho)
    · rintro request batch ⟨⟩
      simp
    · intro request response hmem
      obtain ⟨batch, hbatch, hstored⟩ := h.answered request response hmem
      exact ⟨batch, hkeep hbatch, hstored⟩

/-- What the agent removes on an answer has been stored. -/
theorem stored_of_confirmed (h : s.Sound observed log) {request : ℕ} {batch : List Observation}
    {response : ObservationBatchResponse} (hawaiting : s.awaiting = some (request, batch))
    (hresponse : (request, response) ∈ s.responses) {o : Observation} (ho : o ∈ s.spool.rows)
    (hconfirmed : o.id ∈ confirmed batch response) : o ∈ s.stored := by
  obtain ⟨batch', hbatch', hstored⟩ := h.answered request response hresponse
  have hbatch := h.awaited request batch hawaiting
  cases hbatch.symm.trans hbatch'
  obtain ⟨a, ha, hid⟩ := List.mem_map.mp hconfirmed
  obtain ⟨ha, hrejected⟩ := List.mem_filter.mp ha
  have hao : a = o := by
    rw [h.sent batch (List.mem_of_getElem? hbatch) a ha, h.spooled o ho, hid]
  exact hao ▸ hstored a ha (of_decide_eq_true hrejected)

theorem Sound.receive (h : s.Sound observed log) {request : ℕ}
    {response : ObservationBatchResponse}
    (hallowed : s.Allowed observed (.receive request response)) :
    (s.step size limits (.receive request response)).Sound observed
      (log ++ [.receive request response]) := by
  obtain ⟨hresponse, batch, hawaiting⟩ := hallowed
  rw [step, hawaiting]
  refine ⟨fun o ho => h.spooled o (Spool.mem_acknowledge.mp ho).1, h.sent, h.known, ?_, ?_,
    h.answered, h.controller⟩
  · intro observations hmem o ho
    rcases h.accounted observations (record_mem_of_ne (by simp) hmem) o ho with ho | ho
    · by_cases hconfirmed : o.id ∈ confirmed batch response
      · exact Or.inr (Or.inl (stored_of_confirmed h hawaiting hresponse ho hconfirmed))
      · exact Or.inl (Spool.mem_acknowledge.mpr ⟨ho, hconfirmed⟩)
    · exact Or.inr ho
  · rintro request' batch' ⟨⟩

theorem Sound.giveUp (h : s.Sound observed log) :
    ({ s with awaiting := none } : Delivery).Sound observed (log ++ [.giveUp]) := by
  refine ⟨h.spooled, h.sent, h.known, ?_, ?_, h.answered, h.controller⟩
  · intro observations hmem
    exact h.accounted observations (record_mem_of_ne (by simp) hmem)
  · rintro request batch ⟨⟩

/-! ### Requests at the controller -/

/-- What an answer does not reject was accepted. -/
theorem knows_of_not_rejected {controller : Controller} {batch : List Observation} {o : Observation}
    (ho : o ∈ batch)
    (h : o.id.uuid.toText ∉ ((batch.partition controller.knows).2.map Controller.reject).map
      RejectedObservation.id) : o ∈ (batch.partition controller.knows).1 := by
  rw [List.partition_eq_filter_filter] at h ⊢
  refine List.mem_filter.mpr ⟨ho, ?_⟩
  by_contra hunknown
  refine h ?_
  rw [List.map_map]
  exact List.mem_map.mpr ⟨o, List.mem_filter.mpr ⟨ho, by simpa using hunknown⟩, rfl⟩

theorem Sound.deliver (h : s.Sound observed log) (request : ℕ) (now : Timestamp)
    (clock : Observation → Timestamp) :
    (s.step size limits (.deliver request now clock)).Sound observed
      (log ++ [.deliver request now clock]) := by
  have hsame : s.Sound observed (log ++ [.deliver request now clock]) :=
    h.extend _ (by simp) (.of_store h.controller rfl)
  rw [step]
  cases hbatch : s.requests[request]? with
  | none => exact hsame
  | some batch =>
    dsimp only
    cases hresult : s.controller.ingestAgentBatch now clock batch with
    | none => exact hsame
    | some result =>
      obtain ⟨controller, response⟩ := result
      rw [Controller.ingestAgentBatch] at hresult
      obtain ⟨⟨after, outcome⟩, hafter, hresult⟩ := Option.bind_eq_some_iff.mp hresult
      obtain ⟨rfl, rfl⟩ := Prod.mk.inj (Option.some.inj hresult)
      have haccepted : ∀ o ∈ (batch.partition s.controller.knows).1, o ∈ batch := by
        intro o ho
        rw [List.partition_eq_filter_filter] at ho
        exact (List.mem_filter.mp ho).1
      have hobserved := h.sent batch (List.mem_of_getElem? hbatch)
      obtain ⟨hextends, hids⟩ := Extends.ingest h.controller
        (fun o ho => hobserved o (haccepted o ho)) hafter
      have hsound := h.extend (.deliver request now clock) (by simp) hextends
      refine ⟨hsound.spooled, hsound.sent, hsound.known, hsound.accounted, hsound.awaited, ?_,
        hsound.controller⟩
      intro request' response' hmem
      rcases List.mem_append.mp hmem with hmem | hmem
      · exact hsound.answered request' response' hmem
      · obtain ⟨rfl, rfl⟩ := Prod.mk.inj (List.mem_singleton.mp hmem)
        refine ⟨batch, hbatch, fun o ho hrejected => ?_⟩
        -- the row of its identifier is the observation itself
        obtain ⟨a, ha, hid⟩ := List.mem_map.mp (hids o (knows_of_not_rejected ho hrejected))
        have hao : a = o := by rw [hsound.known a ha, hobserved o ho, hid]
        exact hao ▸ ha

/-! ### Runs -/

/-- **Every step keeps the invariant.** -/
theorem Sound.step (h : s.Sound observed log) (event : DeliveryEvent)
    (hallowed : s.Allowed observed event) :
    (s.step size limits event).Sound observed (log ++ [event]) := by
  cases event with
  | record observations => exact h.record hallowed
  | evict now => exact h.evict now
  | send => exact h.send
  | deliver request now clock => exact h.deliver request now clock
  | receive request response => exact h.receive hallowed
  | giveUp => exact h.giveUp
  | ingest now clock observations =>
    rw [Delivery.step]
    cases hafter : s.controller.ingestObservationsRecorded now clock observations with
    | none => exact h.extend _ (by simp) (.of_store h.controller rfl)
    | some result => exact h.extend _ (by simp) (Extends.ingest h.controller hallowed hafter).1
  | snapshot now inventory entities monitored =>
    exact h.extend _ (by simp) (.of_store (h.controller.ingestSnapshot inventory entities monitored)
      (snapshot_observations ..))
  | expire now at_ horizon =>
    exact h.extend _ (by simp) (.of_store (h.controller.expire at_ horizon) rfl)
  | reset now => exact h.extend _ (by simp) (.of_store h.controller.resetState rfl)
  | restart now clock states monitored =>
    exact h.extend _ (by simp) (.of_store
      (Controller.Sound.start h.controller.saved states monitored) (start_observations ..))

theorem sound_run (h : (deliveryMachine size limits observed).Run log s) : s.Sound observed log := by
  refine h.invariant (P := fun log s => Sound observed log s) ?_ ?_
  · rintro s ⟨hspooled, hawaiting, hevicted, hrequests, hresponses, store, now, clock, states,
      monitored, hknown, hstreams, hfolded, hcontroller⟩
    have hstore : store.Sound := by
      refine ⟨fun k => ?_, fun k x hx => ?_, fun k hne => absurd (hfolded k) hne⟩
      · rw [hfolded k]
        exact .nil
      · rw [hfolded k] at hx
        cases hx
    refine ⟨hspooled, ?_, ?_, ?_, ?_, ?_, hcontroller ▸ Controller.Sound.start hstore states monitored⟩
    · rw [hrequests]
      intro batch hbatch
      cases hbatch
    · rw [Delivery.stored, hcontroller, Store.stored, start_observations]
      exact hknown
    · intro observations hmem
      cases hmem
    · rw [hawaiting]
      rintro request batch ⟨⟩
    · rw [hresponses]
      intro request response hmem
      cases hmem
  · intro log s event _ hsound hallowed
    exact hsound.step event hallowed

/-- **A row leaves the spool for a limit, or after it was stored.** -/
theorem leaves_spool (h : s.Sound observed log) {event : DeliveryEvent}
    (hallowed : s.Allowed observed event) {o : Observation} (ho : o ∈ s.spool.rows)
    (hgone : o ∉ (s.step size limits event).spool.rows) :
    (∃ now, event = .evict now ∧ o ∈ (s.step size limits event).evicted ∧
      (o.finishedAt < now - limits.maxAge ∨ limits.maxRows < s.spool.rows.length ∨
        limits.maxBytes < s.spool.sizeBytes size)) ∨ o ∈ s.stored := by
  cases event with
  | record observations =>
    exact absurd ((Spool.insertAll_spec observations s.spool).1 o ho) hgone
  | evict now =>
    refine Or.inl ⟨now, rfl, List.mem_append_right _ (List.mem_filter.mpr ⟨ho, ?_⟩),
      Spool.evict_cause ho hgone⟩
    rw [decide_eq_true_iff]
    intro hid
    obtain ⟨a, ha, hid⟩ := List.mem_map.mp hid
    exact hgone (Spool.eq_of_id_eq (Spool.mem_evict ha) ho hid ▸ ha)
  | send =>
    rw [Delivery.step] at hgone
    split at hgone <;> exact absurd ho hgone
  | deliver request now clock =>
    rw [Delivery.step] at hgone
    split at hgone
    · exact absurd ho hgone
    · split at hgone <;> exact absurd ho hgone
  | receive request response =>
    obtain ⟨hresponse, batch, hawaiting⟩ := hallowed
    rw [Delivery.step, hawaiting] at hgone
    refine Or.inr (stored_of_confirmed h hawaiting hresponse ho ?_)
    by_contra hconfirmed
    exact hgone (Spool.mem_acknowledge.mpr ⟨ho, hconfirmed⟩)
  | ingest now clock observations =>
    rw [Delivery.step] at hgone
    split at hgone <;> exact absurd ho hgone
  | _ => exact absurd ho hgone

/-- What an answer rejects stays in the spool. -/
theorem rejected_stays (s : Delivery) (request : ℕ) {response : ObservationBatchResponse}
    {o : Observation} (ho : o ∈ s.spool.rows)
    (hrejected : o.id.uuid.toText ∈ response.rejected.map RejectedObservation.id) :
    o ∈ (s.step size limits (.receive request response)).spool.rows := by
  rw [step]
  split
  · exact ho
  · refine Spool.mem_acknowledge.mpr ⟨ho, fun hconfirmed => ?_⟩
    obtain ⟨a, ha, hid⟩ := List.mem_map.mp hconfirmed
    have hnot := of_decide_eq_true (List.mem_filter.mp ha).2
    rw [hid] at hnot
    exact hnot hrejected

/-- **Nothing is lost and nothing counts twice**, over every run of agent, network and
controller: what was recorded is spooled, stored or evicted; a row leaves the spool
for a limit of it or after it was stored, and stays if it is rejected; and no stream
of the controller's engine has taken an observation twice. -/
theorem no_loss_no_duplicate (hrun : (deliveryMachine size limits observed).Run log s) :
    (∀ observations, .record observations ∈ log → ∀ o ∈ observations,
      o ∈ s.spool.rows ∨ o ∈ s.stored ∨ o ∈ s.evicted) ∧
    (∀ event, s.Allowed observed event → ∀ o ∈ s.spool.rows,
      o ∉ (s.step size limits event).spool.rows →
      (∃ now, event = .evict now ∧ o ∈ (s.step size limits event).evicted ∧
        (o.finishedAt < now - limits.maxAge ∨ limits.maxRows < s.spool.rows.length ∨
          limits.maxBytes < s.spool.sizeBytes size)) ∨ o ∈ s.stored) ∧
    (∀ request response, ∀ o ∈ s.spool.rows,
      o.id.uuid.toText ∈ response.rejected.map RejectedObservation.id →
      o ∈ (s.step size limits (.receive request response)).spool.rows) ∧
    ∀ k, (s.controller.engine.folded k).Nodup := by
  have hsound := sound_run hrun
  refine ⟨hsound.accounted, ?_, ?_, hsound.controller.live.nodup⟩
  · intro event hallowed o ho hgone
    exact leaves_spool hsound hallowed ho hgone
  · intro request response o ho hrejected
    exact rejected_stays s request ho hrejected

/-- A batch is committed, the answer lost, and the batch sent again. -/
theorem no_loss_no_duplicate_sent_again :
    let host : EntityId := ⟨⟨7⟩⟩
    let o : Observation := ⟨⟨⟨1⟩⟩, probeSsh, host, none, 1, .failed, .null⟩
    let limits : SpoolLimits := ⟨60, 10, 1000⟩
    let store : Store := ⟨[], Inventory.new.insertEntity (.new host .host "h"), [], [],
      fun _ => [], none⟩
    let initial : Delivery := ⟨.empty, none, [], [], [], Controller.start store 0 (fun _ => 0) [] fun _ => none⟩
    let events : List DeliveryEvent := [.record [o], .send, .deliver 0 2 (fun _ => 2), .giveUp,
      .send, .deliver 1 3 fun _ => 3]
    let s := events.foldl (Delivery.step (fun _ => 100) limits) initial
    (o ∈ s.spool.rows ∨ o ∈ s.stored ∨ o ∈ s.evicted) ∧ s.stored.length = 1 ∧
      (s.controller.engine.folded o.streamKey = [o.id]) ∧
      (s.controller.engine.folded o.streamKey).Nodup := by
  intro host o limits store initial events s
  have hinit : (deliveryMachine (fun _ => 100) limits fun _ => o).Run [] initial := by
    refine .init ⟨?_, rfl, rfl, rfl, rfl, store, 0, fun _ => 0, [], fun _ => none, ?_, rfl,
      fun _ => rfl, rfl⟩
    · intro a ha
      cases ha
    · intro a ha
      cases ha
  have hrun : (deliveryMachine (fun _ => 100) limits fun _ => o).Run events s :=
    hinit.append events ⟨fun a ha => List.mem_singleton.mp ha, rfl, trivial, trivial, rfl, trivial,
      trivial⟩
  obtain ⟨haccounted, -, -, hnodup⟩ := no_loss_no_duplicate hrun
  exact ⟨haccounted [o] (by simp [events]) o (by simp), by decide +kernel, by decide +kernel,
    hnodup _⟩

end Delivery

end Sentinel
