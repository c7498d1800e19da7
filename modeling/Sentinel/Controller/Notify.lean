import Sentinel.Notification.Dedup
import Sentinel.Lib.Machine

/-!
# Sending notifications

A pass of the notification worker seeds the memory of deliveries from the table, offers
every candidate to every provider, and retains of the memory what can still be offered.
A candidate is offered unless it is below the severity floor, under maintenance, or
remembered as delivered; a delivery is remembered and written to the table, a failure is
neither.

While a pass waits for its providers the diagnosis goes on, so that what the store says
of a candidate may change from one turn to the next.  A turn is what the surroundings do
when a candidate comes to a provider.

## Main definitions

* `Turn`, `NotifyState`, `offer`, `notify` — a pass, turn by turn.
* `Notifier`, `notifier` — all passes, restarts and clean-ups.

## Main results

* `offer_cases` — what one turn can do.
* `Notifier.Sound.run` — what is stored, remembered and attempted agree in every run.
* `delivered_once_and_retried` — nothing that is stored as delivered is sent again, and
  nothing else is held back.
-/

namespace Sentinel

/-! ### A turn -/

/-- What happens when a candidate comes to a provider. -/
structure Turn where
  /-- The clock. -/
  now : Timestamp
  /-- Whether the store still has the candidate; `none` if it cannot be read. -/
  current : Option Bool
  /-- The maintenance windows by now; `none` if they cannot be read. -/
  windows : Option MaintenanceWindows
  /-- Whether the provider accepts the message. -/
  delivered : Bool
  /-- Whether the delivery is written to the table. -/
  saved : Bool

/-- A message handed to a provider. -/
structure Attempt where
  /-- The provider and the key. -/
  slot : String × String
  /-- Whether the provider accepted it. -/
  delivered : Bool
  /-- Whether its delivery was written to the table. -/
  saved : Bool

/-- What one notification pass did. -/
structure NotifyOutcome where
  /-- Notifications delivered. -/
  sent : ℕ
  /-- Suppressed because an identical one was already sent. -/
  deduplicated : ℕ
  /-- Suppressed by a maintenance window. -/
  suppressedByMaintenance : ℕ
  /-- Suppressed for being below the severity floor. -/
  belowThreshold : ℕ
  /-- Delivery failures. -/
  failed : ℕ

/-- Nothing happened. -/
def NotifyOutcome.none : NotifyOutcome := ⟨0, 0, 0, 0, 0⟩

/-- The state of a pass. -/
structure NotifyState where
  /-- The memory of what was sent. -/
  deduplicator : Deduplicator
  /-- The deliveries that are stored, by provider and key. -/
  deliveries : Std.ExtTreeMap (String × String) NotificationRecord
  /-- What was handed to the providers so far. -/
  attempts : List Attempt
  /-- What the pass did. -/
  outcome : NotifyOutcome
  /-- Whether the pass ended early. -/
  aborted : Bool

/-- Whether every entity a notification concerns is under maintenance. -/
def isUnderMaintenance (n : Notification) (update : IncidentUpdate) (maintenance : MaintenanceWindows)
    (now : Timestamp) : Bool :=
  (update.all.find? fun i => i.id.toText = n.incidentId).any fun i =>
    maintenance.suppressesAll now i.affectedEntities

/-- Hand a notification to a provider: a delivery is remembered and stored, a failure is
not. -/
def NotifyState.send (state : NotifyState) (n : Notification) (provider : String) (turn : Turn) :
    NotifyState :=
  if turn.delivered then
    let (deduplicator, record) := state.deduplicator.record turn.now n provider
    { state with
      deduplicator := deduplicator
      deliveries := if turn.saved then state.deliveries.insert record.slot record else state.deliveries
      attempts := state.attempts ++ [⟨(provider, n.deduplicationKey), true, turn.saved⟩]
      outcome := { state.outcome with sent := state.outcome.sent + 1 } }
  else
    { state with
      attempts := state.attempts ++ [⟨(provider, n.deduplicationKey), false, false⟩]
      outcome := { state.outcome with failed := state.outcome.failed + 1 } }

/-- Offer a notification to a provider. -/
def offer (ids : List String) (effective : IncidentUpdate) (n : Notification) (provider : String)
    (turn : Turn) (state : NotifyState) : NotifyState :=
  if state.aborted then state
  else if !state.deduplicator.shouldSend turn.now n provider then
    { state with outcome := { state.outcome with deduplicated := state.outcome.deduplicated + 1 } }
  else if n.incidentId ∉ ids ∧ turn.current = none then { state with aborted := true }
  else if n.incidentId ∉ ids ∧ turn.current = some false then state
  else if ids.isEmpty && turn.windows.any (fun windows => isUnderMaintenance n effective windows turn.now) then
    { state with
      outcome := { state.outcome with
        suppressedByMaintenance := state.outcome.suppressedByMaintenance + 1 } }
  else state.send n provider turn

/-- What a pass reads before it sends anything. -/
structure Reads where
  /-- The candidates stored for the environment. -/
  candidates : List Notification
  /-- An incident by identifier. -/
  loadIncident : String → Option Incident

/-- A pass: what it is given, and what the surroundings do. -/
structure NotifyPass where
  /-- Whether the stored deliveries can be read. -/
  history : Bool
  /-- The incidents a caller offers itself; the worker offers none. -/
  update : IncidentUpdate
  /-- The providers, by name. -/
  providers : List String
  /-- What is read of the store; `none` if a read fails. -/
  reads : Option Reads
  /-- The maintenance windows when the pass begins. -/
  maintenance : MaintenanceWindows
  /-- The clock when a notification is looked at first. -/
  now : ℕ → Timestamp
  /-- The turn of each notification at each provider, by their positions. -/
  turn : ℕ → ℕ → Turn
  /-- The candidates after the pass; `none` if they cannot be read. -/
  after : Option (List Notification)

section Passes

variable (newV5 : Uuid → String → Uuid) (toRfc3339 : Timestamp → String) (floor : Severity)

namespace NotifyPass

/-- The incidents a caller offers. -/
def ids (pass : NotifyPass) : List String := pass.update.all.map fun i => i.id.toText

/-- What a pass has to tell: the stored candidates, those of the incidents offered by
the caller replaced by its own. -/
def notifications (pass : NotifyPass) (reads : Reads) : List Notification :=
  let kept := reads.candidates.filter fun n => n.incidentId ∉ pass.ids
  (kept ++ notificationsFor newV5 toRfc3339 pass.update).sortBy Notification.order

/-- The incidents that the notifications are about. -/
def effective (pass : NotifyPass) (reads : Reads) : IncidentUpdate :=
  (pass.notifications newV5 toRfc3339 reads).foldl
    (fun update n =>
      if update.all.any fun i => i.id.toText = n.incidentId then update
      else
        match reads.loadIncident n.incidentId with
        | some i => { update with updated := update.updated ++ [i] }
        | none => update)
    pass.update

/-- Whether a notification passes the severity floor: a recovery always does. -/
def aboveFloor (floor : Severity) (n : Notification) : Bool :=
  floor ≤ n.severity || n.trigger.isRecovery

/-- Look at one notification, and offer it to every provider. -/
def announce (pass : NotifyPass) (reads : Reads) (state : NotifyState) (entry : Notification × ℕ) : NotifyState :=
  let effective := pass.effective newV5 toRfc3339 reads
  if state.aborted then state
  else if !aboveFloor floor entry.1 then
    { state with outcome := { state.outcome with belowThreshold := state.outcome.belowThreshold + 1 } }
  else if isUnderMaintenance entry.1 effective pass.maintenance (pass.now entry.2) then
    { state with
      outcome := { state.outcome with
        suppressedByMaintenance := state.outcome.suppressedByMaintenance + 1 } }
  else
    pass.providers.zipIdx.foldl
      (fun state provider =>
        offer pass.ids effective entry.1 provider.1 (pass.turn entry.2 provider.2) state) state

end NotifyPass

/-- Send notifications for what a reconciliation changed. -/
def notify (pass : NotifyPass) (state : NotifyState) : NotifyState :=
  let state := { state with outcome := .none, aborted := false }
  if pass.providers.isEmpty then state
  else
    match pass.reads with
    | none => { state with aborted := true }
    | some reads =>
      (pass.notifications newV5 toRfc3339 reads).zipIdx.foldl
        (pass.announce newV5 toRfc3339 floor reads) state

end Passes

/-! ### The worker -/

/-- The notification worker: the state of its passes, whether it has read the deliveries
since it started, and the candidates it has been told to retain. -/
structure Notifier where
  /-- Memory, table and attempts. -/
  state : NotifyState
  /-- Whether the memory was seeded since the start. -/
  seeded : Bool
  /-- The candidates retained so far. -/
  retained : List (List Notification)

/-- What may happen to the worker. -/
inductive NotifierInput
  /-- A pass. -/
  | pass (pass : NotifyPass)
  /-- The controller restarts. -/
  | restart
  /-- Only what can still be offered is retained. -/
  | retain (candidates : List Notification)
  /-- Old records are dropped. -/
  | prune (now : Timestamp)

/-- A message that a stored incident gives rise to. -/
def Announces (newV5 : Uuid → String → Uuid) (toRfc3339 : Timestamp → String) (n : Notification) : Prop :=
  ∃ (i : Incident) (d : Diagnosis), i.fingerprint = fingerprint d ∧
    n ∈ notificationsForIncident newV5 toRfc3339 i

section Worker

variable (newV5 : Uuid → String → Uuid) (toRfc3339 : Timestamp → String) (floor : Severity)

namespace Notifier

/-- Seed the memory from the table, if it can be read. -/
def begin (worker : Notifier) (pass : NotifyPass) : NotifyState :=
  if pass.history then
    { worker.state with
      deduplicator := worker.state.deduplicator.seed worker.state.deliveries.vals }
  else worker.state

/-- Forget what is no candidate. -/
def retain (worker : Notifier) (candidates : List Notification) : Notifier :=
  { worker with
    state := { worker.state with
      deduplicator := worker.state.deduplicator.retainCandidates candidates }
    retained := worker.retained ++ [candidates] }

/-- What an input does. -/
def step (worker : Notifier) : NotifierInput → Notifier
  | .pass pass =>
    let worker := { worker with
      state := notify newV5 toRfc3339 floor pass (worker.begin pass)
      seeded := worker.seeded || pass.history }
    match pass.after with
    | some candidates => worker.retain candidates
    | none => worker
  | .restart => { worker with state := { worker.state with deduplicator := .new }, seeded := false }
  | .retain candidates => worker.retain candidates
  | .prune now =>
    { worker with
      state := { worker.state with deduplicator := (worker.state.deduplicator.prune now).1 } }

/-- A candidate that was no longer retained at some time. -/
def Gone (worker : Notifier) (key : String) : Prop :=
  ∃ candidates ∈ worker.retained, ∀ n ∈ candidates, n.deduplicationKey ≠ key

end Notifier

/-- All passes, restarts and clean-ups, from a database without deliveries.  What is
offered comes from incidents.  A pass that cannot read the deliveries has its memory
instead, which was seeded since the start; a candidate that was superseded does not come
back in it. -/
def notifier : Machine Notifier NotifierInput where
  Init := fun worker => worker = ⟨⟨.new, ∅, [], .none, false⟩, false, []⟩
  step := Notifier.step newV5 toRfc3339 floor
  Allowed := fun worker input =>
    match input with
    | .pass pass => (∀ i ∈ pass.update.all, ∃ d, i.fingerprint = fingerprint d) ∧
      (∀ reads ∈ pass.reads, ∀ n ∈ reads.candidates, Announces newV5 toRfc3339 n) ∧
      (pass.history = true ∨ worker.seeded = true ∧ ∀ reads ∈ pass.reads,
        ∀ n ∈ pass.notifications newV5 toRfc3339 reads, ¬ worker.Gone n.deduplicationKey)
    | _ => True

end Worker

/-! ### What one turn can do -/

section Turns

variable {ids : List String} {effective : IncidentUpdate} {n : Notification} {provider : String}
  {turn : Turn} {state : NotifyState}

/-- A turn either leaves memory, table and attempts alone, or hands over a message that
is new. -/
theorem offer_cases :
    (∃ outcome aborted, offer ids effective n provider turn state =
        { state with outcome := outcome, aborted := aborted } ∧ (state.aborted → aborted)) ∨
      state.aborted = false ∧ state.deduplicator.shouldSend turn.now n provider = true ∧
        offer ids effective n provider turn state = state.send n provider turn := by
  rw [offer]
  split
  · exact Or.inl ⟨state.outcome, state.aborted, rfl, id⟩
  · next haborted =>
    split
    · exact Or.inl ⟨_, state.aborted, rfl, id⟩
    · next hsend =>
      split
      · exact Or.inl ⟨state.outcome, true, rfl, fun _ => rfl⟩
      · split
        · exact Or.inl ⟨state.outcome, state.aborted, rfl, id⟩
        · split
          · exact Or.inl ⟨_, state.aborted, rfl, id⟩
          · refine Or.inr ⟨Bool.eq_false_iff.mpr haborted, ?_, rfl⟩
            simpa using hsend

/-- A turn at which nothing stands in the way hands the message over. -/
theorem offer_eq_send (haborted : state.aborted = false)
    (hsend : state.deduplicator.shouldSend turn.now n provider = true)
    (hcurrent : n.incidentId ∈ ids ∨ turn.current = some true)
    (hwindows : ∀ windows ∈ turn.windows, isUnderMaintenance n effective windows turn.now = false) :
    offer ids effective n provider turn state = state.send n provider turn := by
  have hmaintained : turn.windows.any (fun windows =>
      isUnderMaintenance n effective windows turn.now) = false := by
    cases hw : turn.windows with
    | none => rfl
    | some windows => exact hwindows windows hw
  have hread : ¬ (n.incidentId ∉ ids ∧ turn.current = none) := by
    rintro ⟨hnot, hnone⟩
    rw [hnone] at hcurrent
    exact hcurrent.elim hnot fun h => by cases h
  have hstill : ¬ (n.incidentId ∉ ids ∧ turn.current = some false) := by
    rintro ⟨hnot, hfalse⟩
    rw [hfalse] at hcurrent
    exact hcurrent.elim hnot fun h => by cases h
  rw [offer, haborted, hsend, if_neg hread, if_neg hstill, hmaintained, Bool.and_false]
  rfl

end Turns

/-! ### What holds in every run -/

/-- Memory, table and attempts agree: what was delivered and stored is not attempted
again, everything on record was delivered, and every stored delivery is remembered,
apart from some keys. -/
structure NotifyState.Sound (apart : String → Prop) (state : NotifyState) : Prop where
  /-- After a stored delivery there is no attempt of the same. -/
  once : state.attempts.Pairwise fun a b => a.delivered = true → a.saved = true → a.slot ≠ b.slot
  /-- What is remembered was delivered. -/
  sent : ∀ slot ∈ state.deduplicator.sent, ∃ a ∈ state.attempts, a.slot = slot ∧ a.delivered = true
  /-- What is stored was delivered. -/
  stored : ∀ slot ∈ state.deliveries, ∃ a ∈ state.attempts, a.slot = slot ∧ a.delivered = true
  /-- A delivery that was saved is stored. -/
  saved : ∀ a ∈ state.attempts, a.delivered = true → a.saved = true → a.slot ∈ state.deliveries
  /-- A stored record is kept under its own provider and key. -/
  keyed : ∀ (slot : String × String) (record : NotificationRecord),
    state.deliveries[slot]? = some record → record.slot = slot
  /-- Every key attempted is that of an event. -/
  events : ∀ a ∈ state.attempts, isEvent a.slot.2 = true
  /-- What is stored is remembered. -/
  covered : ∀ slot ∈ state.deliveries, slot ∈ state.deduplicator.sent ∨ apart slot.2

namespace NotifyState

variable {apart apart' : String → Prop} {state : NotifyState} {n : Notification} {provider : String}
  {turn : Turn}

/-- Only memory, table and attempts count. -/
theorem Sound.congr (h : state.Sound apart) (outcome : NotifyOutcome) (aborted : Bool) :
    ({ state with outcome := outcome, aborted := aborted } : NotifyState).Sound apart :=
  ⟨h.once, h.sent, h.stored, h.saved, h.keyed, h.events, h.covered⟩

theorem mem_deliveries {deliveries : Std.ExtTreeMap (String × String) NotificationRecord} {saved : Bool}
    {record : NotificationRecord} {slot : String × String} :
    slot ∈ (if saved then deliveries.insert record.slot record else deliveries) ↔
      saved = true ∧ record.slot = slot ∨ slot ∈ deliveries := by
  cases saved with
  | false => simp
  | true =>
    rw [if_pos rfl, Std.ExtTreeMap.mem_insert, Std.LawfulEqCmp.compare_eq_iff_eq]
    simp

/-- A message that is new may be handed over. -/
theorem Sound.send (h : state.Sound apart) (hevent : isEvent n.deduplicationKey = true)
    (hapart : ¬ apart n.deduplicationKey)
    (hsend : state.deduplicator.shouldSend turn.now n provider = true) :
    (state.send n provider turn).Sound apart := by
  -- it is not remembered, hence not stored, hence no delivery of it was saved
  have hnew : (provider, n.deduplicationKey) ∉ state.deliveries := by
    intro hmem
    rcases h.covered _ hmem with hmem | hmem
    · rw [Deduplicator.not_shouldSend_of_mem hevent hmem] at hsend
      cases hsend
    · exact hapart hmem
  have honce : ∀ a ∈ state.attempts, a.delivered = true → a.saved = true →
      a.slot ≠ (provider, n.deduplicationKey) :=
    fun a ha hdelivered hsaved heq => hnew (heq ▸ h.saved a ha hdelivered hsaved)
  have hpairwise : ∀ a : Attempt, a.slot = (provider, n.deduplicationKey) →
      (state.attempts ++ [a]).Pairwise fun a b => a.delivered = true → a.saved = true → a.slot ≠ b.slot := by
    intro a ha
    refine List.pairwise_append.mpr ⟨h.once, List.pairwise_singleton _ _, fun b hb c hc => ?_⟩
    rw [List.mem_singleton.mp hc, ha]
    exact honce b hb
  have hkept : ∀ (slot : String × String) (a : Attempt),
      (∃ b ∈ state.attempts, b.slot = slot ∧ b.delivered = true) →
      ∃ b ∈ state.attempts ++ [a], b.slot = slot ∧ b.delivered = true := by
    rintro slot a ⟨b, hb, hslot⟩
    exact ⟨b, List.mem_append_left _ hb, hslot⟩
  rw [NotifyState.send]
  split
  · refine ⟨hpairwise _ rfl, fun slot hslot => ?_, fun slot hslot => ?_, fun a ha hdelivered hsaved => ?_,
      fun slot record hrecord => ?_, fun a ha => ?_, fun slot hslot => ?_⟩
    · rcases Deduplicator.mem_remember.mp hslot with rfl | hslot
      · exact ⟨_, List.mem_append_right _ (List.mem_singleton.mpr rfl), rfl, rfl⟩
      · exact hkept slot _ (h.sent slot hslot)
    · rcases mem_deliveries.mp hslot with ⟨-, rfl⟩ | hslot
      · exact ⟨_, List.mem_append_right _ (List.mem_singleton.mpr rfl), rfl, rfl⟩
      · exact hkept slot _ (h.stored slot hslot)
    · refine mem_deliveries.mpr ?_
      rcases List.mem_append.mp ha with ha | ha
      · exact Or.inr (h.saved a ha hdelivered hsaved)
      · rw [List.mem_singleton.mp ha] at hsaved ⊢
        exact Or.inl ⟨hsaved, rfl⟩
    · dsimp only at hrecord
      split at hrecord
      · rw [Std.ExtTreeMap.getElem?_insert_eq] at hrecord
        split at hrecord
        · next hslot =>
          rw [← Option.some.inj hrecord]
          exact hslot
        · exact h.keyed slot record hrecord
      · exact h.keyed slot record hrecord
    · rcases List.mem_append.mp ha with ha | ha
      · exact h.events a ha
      · rw [List.mem_singleton.mp ha]
        exact hevent
    · rcases mem_deliveries.mp hslot with ⟨-, rfl⟩ | hslot
      · exact Or.inl (Deduplicator.mem_remember.mpr (Or.inl rfl))
      · exact (h.covered slot hslot).imp_left fun hmem => Deduplicator.mem_remember.mpr (Or.inr hmem)
  · refine ⟨hpairwise _ rfl, fun slot hslot => hkept slot _ (h.sent slot hslot),
      fun slot hslot => hkept slot _ (h.stored slot hslot), fun a ha hdelivered hsaved => ?_, h.keyed,
      fun a ha => ?_, h.covered⟩
    · rcases List.mem_append.mp ha with ha | ha
      · exact h.saved a ha hdelivered hsaved
      · rw [List.mem_singleton.mp ha] at hsaved
        cases hsaved
    · rcases List.mem_append.mp ha with ha | ha
      · exact h.events a ha
      · rw [List.mem_singleton.mp ha]
        exact hevent

/-- A later state of a pass: attempts are only added, and a pass that ended stays so. -/
structure Extends (state state' : NotifyState) : Prop where
  /-- Attempts are added at the end. -/
  attempts : state.attempts <+: state'.attempts
  /-- The end is final. -/
  aborted : state.aborted = true → state'.aborted = true

@[refl] theorem Extends.refl (state : NotifyState) : state.Extends state := ⟨List.prefix_rfl, id⟩

theorem Extends.trans {a b c : NotifyState} (h : a.Extends b) (h' : b.Extends c) : a.Extends c :=
  ⟨h.attempts.trans h'.attempts, h'.aborted ∘ h.aborted⟩

/-- Since an earlier state the provider was handed the key. -/
def Tried (slot : String × String) (before state : NotifyState) : Prop :=
  ∃ a ∈ state.attempts.drop before.attempts.length, a.slot = slot

theorem Tried.mono {slot : String × String} {before state state' : NotifyState}
    (h : Tried slot before state) (hext : state.Extends state') : Tried slot before state' := by
  obtain ⟨a, ha, hslot⟩ := h
  obtain ⟨more, hmore⟩ := hext.attempts
  refine ⟨a, ?_, hslot⟩
  rw [← hmore]
  by_cases hle : before.attempts.length ≤ state.attempts.length
  · rw [List.drop_append_of_le_length hle]
    exact List.mem_append_left _ ha
  · rw [List.drop_of_length_le (by omega)] at ha
    exact absurd ha List.not_mem_nil

theorem extends_send : state.Extends (state.send n provider turn) := by
  rw [NotifyState.send]
  split <;> exact ⟨List.prefix_append _ _, id⟩

theorem tried_send {before : NotifyState} (hext : before.Extends state) :
    Tried (provider, n.deduplicationKey) before (state.send n provider turn) := by
  have hle := hext.attempts.length_le
  rw [NotifyState.send, Tried]
  split
  · dsimp only
    rw [List.drop_append_of_le_length hle]
    exact ⟨_, List.mem_append_right _ (List.mem_singleton.mpr rfl), rfl⟩
  · dsimp only
    rw [List.drop_append_of_le_length hle]
    exact ⟨_, List.mem_append_right _ (List.mem_singleton.mpr rfl), rfl⟩

/-- Steps that keep the state sound and only add to it. -/
theorem Sound.foldl {α : Type*} {f : NotifyState → α → NotifyState} (l : List α)
    (hstep : ∀ a ∈ l, ∀ state : NotifyState, state.Sound apart →
      (f state a).Sound apart ∧ state.Extends (f state a)) :
    ∀ {state : NotifyState}, state.Sound apart →
      (l.foldl f state).Sound apart ∧ state.Extends (l.foldl f state) := by
  induction l with
  | nil => intro state h; exact ⟨h, .refl state⟩
  | cons a l ih =>
    intro state h
    obtain ⟨hsound, hext⟩ := hstep a List.mem_cons_self state h
    obtain ⟨hsound', hext'⟩ := ih (fun b hb => hstep b (List.mem_cons_of_mem _ hb)) hsound
    exact ⟨hsound', hext.trans hext'⟩

/-- One of the steps hands the key over; then it is handed over in all of them, unless
they ended early. -/
theorem Sound.tried_foldl {α : Type*} {f : NotifyState → α → NotifyState} {l : List α}
    {slot : String × String} {before : NotifyState}
    (hstep : ∀ a ∈ l, ∀ state : NotifyState, state.Sound apart →
      (f state a).Sound apart ∧ state.Extends (f state a))
    {a : α} (ha : a ∈ l)
    (htried : ∀ state : NotifyState, state.Sound apart → before.Extends state → state.aborted = false →
      (f state a).aborted = false → Tried slot before (f state a))
    (h : state.Sound apart) (hext : before.Extends state) (hend : (l.foldl f state).aborted = false) :
    Tried slot before (l.foldl f state) := by
  obtain ⟨l₁, l₂, rfl⟩ := List.append_of_mem ha
  rw [List.foldl_append, List.foldl_cons] at hend ⊢
  obtain ⟨hsound₁, hext₁⟩ := h.foldl l₁ fun b hb => hstep b (List.mem_append_left _ hb)
  obtain ⟨hsound₂, hext₂⟩ := hstep a ha _ hsound₁
  obtain ⟨-, hext₃⟩ := hsound₂.foldl l₂ fun b hb =>
    hstep b (List.mem_append_right _ (List.mem_cons_of_mem _ hb))
  have hlive₂ : (f (l₁.foldl f state) a).aborted = false :=
    Bool.eq_false_iff.mpr fun habort => by rw [hext₃.aborted habort] at hend; cases hend
  have hlive₁ : (l₁.foldl f state).aborted = false :=
    Bool.eq_false_iff.mpr fun habort => by rw [hext₂.aborted habort] at hlive₂; cases hlive₂
  exact (htried _ hsound₁ (hext.trans hext₁) hlive₁ hlive₂).mono hext₃

end NotifyState

/-! ### One notification -/

/-- A message whose key is that of an event, and no older one. -/
def Notification.Eventful (n : Notification) : Prop :=
  isEvent n.deduplicationKey = true ∧ isEvent n.legacyKey = false

section One

variable {ids : List String} {effective : IncidentUpdate} {n : Notification} {provider : String}
  {turn : Turn} {state before : NotifyState} {apart : String → Prop}

open NotifyState

theorem sound_offer (hn : n.Eventful) (hapart : ¬ apart n.deduplicationKey) (h : state.Sound apart) :
    (offer ids effective n provider turn state).Sound apart ∧
      state.Extends (offer ids effective n provider turn state) := by
  rcases @offer_cases ids effective n provider turn state with
    ⟨outcome, aborted, heq, hmono⟩ | ⟨-, hsend, heq⟩
  · rw [heq]
    exact ⟨h.congr outcome aborted, List.prefix_rfl, hmono⟩
  · rw [heq]
    exact ⟨h.send hn.1 hapart hsend, extends_send⟩

/-- A key that was never delivered is handed over, if it was not yet. -/
theorem tried_offer (hn : n.Eventful) (h : state.Sound apart) (hext : before.Extends state)
    (hlive : state.aborted = false)
    (hfailed : ∀ a ∈ before.attempts, a.slot = (provider, n.deduplicationKey) → a.delivered = false)
    (hcurrent : n.incidentId ∈ ids ∨ turn.current = some true)
    (hwindows : ∀ windows ∈ turn.windows, isUnderMaintenance n effective windows turn.now = false) :
    Tried (provider, n.deduplicationKey) before (offer ids effective n provider turn state) := by
  by_cases htried : Tried (provider, n.deduplicationKey) before state
  · refine htried.mono ?_
    rcases @offer_cases ids effective n provider turn state with ⟨outcome, aborted, heq, hmono⟩ | ⟨-, -, heq⟩
    · rw [heq]
      exact ⟨List.prefix_rfl, hmono⟩
    · rw [heq]
      exact extends_send
  · have hnew : (provider, n.deduplicationKey) ∉ state.deduplicator.sent := by
      intro hmem
      obtain ⟨a, ha, hslot, hdelivered⟩ := h.sent _ hmem
      obtain ⟨more, hmore⟩ := hext.attempts
      rw [← hmore] at ha
      rcases List.mem_append.mp ha with ha | ha
      · rw [hfailed a ha hslot] at hdelivered
        cases hdelivered
      · refine htried ⟨a, ?_, hslot⟩
        rw [← hmore, List.drop_left]
        exact ha
    have hlegacy : (provider, n.legacyKey) ∉ state.deduplicator.sent := by
      intro hmem
      obtain ⟨a, ha, hslot, -⟩ := h.sent _ hmem
      have hevent := h.events a ha
      rw [hslot, hn.2] at hevent
      cases hevent
    rw [offer_eq_send hlive (Deduplicator.shouldSend_of_notMem hlegacy hnew) hcurrent hwindows]
    exact tried_send hext

end One

/-! ### A pass -/

section Whole

variable {newV5 : Uuid → String → Uuid} {toRfc3339 : Timestamp → String} {floor : Severity}
  {pass : NotifyPass} {reads : Reads} {state before : NotifyState} {apart : String → Prop}
  {n : Notification} {provider : String} {i j : ℕ}

open NotifyState

theorem sound_announce (hn : n.Eventful) (hapart : ¬ apart n.deduplicationKey) (h : state.Sound apart) :
    (pass.announce newV5 toRfc3339 floor reads state (n, i)).Sound apart ∧
      state.Extends (pass.announce newV5 toRfc3339 floor reads state (n, i)) := by
  rw [NotifyPass.announce]
  dsimp only
  split
  · exact ⟨h, .refl state⟩
  · split
    · exact ⟨h.congr _ _, List.prefix_rfl, id⟩
    · split
      · exact ⟨h.congr _ _, List.prefix_rfl, id⟩
      · exact h.foldl _ fun entry _ state hstate => sound_offer hn hapart hstate

/-- What a notification needs to be handed to a provider at its turn. -/
structure NotifyPass.Open (newV5 : Uuid → String → Uuid) (toRfc3339 : Timestamp → String) (floor : Severity)
    (pass : NotifyPass) (reads : Reads) (n : Notification) (i j : ℕ) : Prop where
  /-- At or above the severity floor, or a recovery. -/
  floor : aboveFloor floor n = true
  /-- Not under maintenance when the pass comes to it. -/
  begins : isUnderMaintenance n (pass.effective newV5 toRfc3339 reads) pass.maintenance (pass.now i) = false
  /-- Still a candidate at its turn, if it is one of the store's. -/
  current : n.incidentId ∈ pass.ids ∨ (pass.turn i j).current = some true
  /-- Not under maintenance at its turn. -/
  windows : ∀ windows ∈ (pass.turn i j).windows,
    isUnderMaintenance n (pass.effective newV5 toRfc3339 reads) windows (pass.turn i j).now = false

theorem tried_announce (hn : n.Eventful) (hapart : ¬ apart n.deduplicationKey)
    (hprovider : (provider, j) ∈ pass.providers.zipIdx)
    (hopen : pass.Open newV5 toRfc3339 floor reads n i j)
    (hfailed : ∀ a ∈ before.attempts, a.slot = (provider, n.deduplicationKey) → a.delivered = false)
    (h : state.Sound apart) (hext : before.Extends state) (hlive : state.aborted = false)
    (hend : (pass.announce newV5 toRfc3339 floor reads state (n, i)).aborted = false) :
    Tried (provider, n.deduplicationKey) before
      (pass.announce newV5 toRfc3339 floor reads state (n, i)) := by
  rw [NotifyPass.announce] at hend ⊢
  simp only [hlive, hopen.floor, hopen.begins, Bool.not_true, Bool.false_eq_true, if_false] at hend ⊢
  exact Sound.tried_foldl (fun entry _ state hstate => sound_offer hn hapart hstate) hprovider
    (fun state hstate hext hlive _ => tried_offer hn hstate hext hlive hfailed hopen.current hopen.windows)
    h hext hend

theorem sound_announceEach (hall : ∀ reads ∈ pass.reads, ∀ n ∈ pass.notifications newV5 toRfc3339 reads,
      n.Eventful ∧ ¬ apart n.deduplicationKey) (hreads : pass.reads = some reads) :
    ∀ entry ∈ (pass.notifications newV5 toRfc3339 reads).zipIdx, ∀ state : NotifyState,
      state.Sound apart → (pass.announce newV5 toRfc3339 floor reads state entry).Sound apart ∧
        state.Extends (pass.announce newV5 toRfc3339 floor reads state entry) := by
  intro entry hentry state hstate
  obtain ⟨hn, hapart⟩ := hall reads hreads entry.1 (List.fst_mem_of_mem_zipIdx hentry)
  exact sound_announce hn hapart hstate

/-- **A pass keeps memory, table and attempts in agreement.** -/
theorem sound_notify (hall : ∀ reads ∈ pass.reads, ∀ n ∈ pass.notifications newV5 toRfc3339 reads,
      n.Eventful ∧ ¬ apart n.deduplicationKey) (h : state.Sound apart) :
    (notify newV5 toRfc3339 floor pass state).Sound apart ∧
      state.attempts <+: (notify newV5 toRfc3339 floor pass state).attempts := by
  rw [notify]
  dsimp only
  split
  · exact ⟨h.congr _ _, List.prefix_rfl⟩
  · split
    · exact ⟨h.congr _ _, List.prefix_rfl⟩
    · next reads hreads =>
      obtain ⟨hsound, hext⟩ := (h.congr .none false).foldl _ (sound_announceEach hall hreads)
      exact ⟨hsound, hext.attempts⟩

/-- A pass that comes to its end hands over what is open and was never delivered. -/
theorem tried_notify (hall : ∀ reads ∈ pass.reads, ∀ n ∈ pass.notifications newV5 toRfc3339 reads,
      n.Eventful ∧ ¬ apart n.deduplicationKey) (h : state.Sound apart) (hreads : pass.reads = some reads)
    (hn : (n, i) ∈ (pass.notifications newV5 toRfc3339 reads).zipIdx)
    (hprovider : (provider, j) ∈ pass.providers.zipIdx)
    (hopen : pass.Open newV5 toRfc3339 floor reads n i j)
    (hfailed : ∀ a ∈ state.attempts, a.slot = (provider, n.deduplicationKey) → a.delivered = false)
    (hend : (notify newV5 toRfc3339 floor pass state).aborted = false) :
    ∃ a ∈ (notify newV5 toRfc3339 floor pass state).attempts.drop state.attempts.length,
      a.slot = (provider, n.deduplicationKey) := by
  have hsome : pass.providers.isEmpty = false := by
    cases hproviders : pass.providers with
    | nil => rw [hproviders] at hprovider; cases hprovider
    | cons => rfl
  rw [notify] at hend ⊢
  simp only [hsome, hreads, Bool.false_eq_true, if_false] at hend ⊢
  obtain ⟨hevent, hapart⟩ := hall reads hreads n (List.fst_mem_of_mem_zipIdx hn)
  change Tried _ ({ state with outcome := .none, aborted := false } : NotifyState) _
  exact Sound.tried_foldl (sound_announceEach hall hreads) hn (fun state hstate hext hlive hend =>
    tried_announce hevent hapart hprovider hopen hfailed hstate hext hlive hend)
    (h.congr .none false) (.refl _) hend

end Whole

/-! ### The runs of the worker -/

namespace Notifier

variable {newV5 : Uuid → String → Uuid} {toRfc3339 : Timestamp → String} {floor : Severity}
  {worker : Notifier} {pass : NotifyPass} {log : List NotifierInput}

/-- Memory, table and attempts agree; once seeded, what is stored and not remembered was
superseded. -/
structure Sound (worker : Notifier) : Prop where
  /-- Everything but the memory of what is stored. -/
  state : worker.state.Sound fun _ => True
  /-- What is stored is remembered, unless it was superseded. -/
  seeded : worker.seeded = true → ∀ slot ∈ worker.state.deliveries,
    slot ∈ worker.state.deduplicator.sent ∨ worker.Gone slot.2

theorem eventful_of_announces {n : Notification} (h : Announces newV5 toRfc3339 n) : n.Eventful := by
  obtain ⟨i, d, hfingerprint, hn⟩ := h
  obtain ⟨hevent, hsame⟩ := eventId_of_mem_notificationsForIncident hn
  refine ⟨decide_eq_true (event_infix_deduplicationKey hevent), decide_eq_false ?_⟩
  exact not_event_infix_legacyKey (hsame.trans hfingerprint)

/-- What a caller offers comes from its incidents. -/
theorem exists_of_mem_notificationsFor {update : IncidentUpdate} {n : Notification}
    (h : n ∈ notificationsFor newV5 toRfc3339 update) :
    ∃ i ∈ update.all, n ∈ notificationsForIncident newV5 toRfc3339 i := by
  rw [notificationsFor, List.mem_sortBy, Std.ExtTreeMap.mem_vals] at h
  obtain ⟨key, hkey⟩ := h
  have hmem : ∀ (l : List Notification) (byKey : Std.ExtTreeMap String Notification),
      (l.foldl (fun byKey n => byKey.insert n.deduplicationKey n) byKey)[key]? = some n →
      n ∈ l ∨ byKey[key]? = some n := by
    intro l
    induction l with
    | nil => intro byKey h; exact Or.inr h
    | cons m l ih =>
      intro byKey h
      rcases ih _ h with h | h
      · exact Or.inl (List.mem_cons_of_mem _ h)
      · rw [Std.ExtTreeMap.getElem?_insert_eq] at h
        split at h
        · exact Or.inl (List.mem_cons.mpr (Or.inl (Option.some.inj h).symm))
        · exact Or.inr h
  rcases hmem _ _ hkey with h | h
  · exact List.mem_flatMap.mp h
  · simp at h

/-- Whatever an allowed pass offers announces an event. -/
theorem eventful_of_allowed (hallowed : (notifier newV5 toRfc3339 floor).Allowed worker (.pass pass)) :
    ∀ reads ∈ pass.reads, ∀ n ∈ pass.notifications newV5 toRfc3339 reads, n.Eventful := by
  intro reads hreads n hn
  obtain ⟨hupdate, hcandidates, -⟩ := hallowed
  rw [NotifyPass.notifications, List.mem_sortBy, List.mem_append] at hn
  rcases hn with hn | hn
  · exact eventful_of_announces (hcandidates reads hreads n (List.mem_of_mem_filter hn))
  · obtain ⟨i, hi, hn⟩ := exists_of_mem_notificationsFor hn
    obtain ⟨d, hd⟩ := hupdate i hi
    exact eventful_of_announces ⟨i, d, hd, hn⟩

/-- The keys a pass need not remember: none if it has read the table, else those that
were superseded. -/
def Excused (worker : Notifier) (pass : NotifyPass) (key : String) : Prop :=
  pass.history = false ∧ worker.Gone key

theorem sound_begin (h : worker.Sound)
    (hallowed : (notifier newV5 toRfc3339 floor).Allowed worker (.pass pass)) :
    (worker.begin pass).Sound (worker.Excused pass) := by
  have hstate := h.state
  rw [begin]
  split
  · next hhistory =>
    refine ⟨hstate.once, fun slot hslot => ?_, hstate.stored, hstate.saved, hstate.keyed, hstate.events,
      fun slot hslot => Or.inl ?_⟩
    · rcases (Deduplicator.mem_seed _).mp hslot with ⟨record, hrecord, rfl⟩ | hslot
      · obtain ⟨slot, hget⟩ := Std.ExtTreeMap.mem_vals.mp hrecord
        rw [hstate.keyed slot record hget]
        refine hstate.stored slot ?_
        exact Std.ExtTreeMap.mem_iff_isSome_getElem?.mpr (by rw [hget]; rfl)
      · exact hstate.sent slot hslot
    · obtain ⟨record, hget⟩ :=
        Option.isSome_iff_exists.mp (Std.ExtTreeMap.mem_iff_isSome_getElem?.mp hslot)
      refine (Deduplicator.mem_seed _).mpr (Or.inl ⟨record, ?_, hstate.keyed slot record hget⟩)
      exact Std.ExtTreeMap.mem_vals.mpr ⟨slot, hget⟩
  · next hhistory =>
    have hseeded := (hallowed.2.2.resolve_left hhistory).1
    refine ⟨hstate.once, hstate.sent, hstate.stored, hstate.saved, hstate.keyed, hstate.events, ?_⟩
    intro slot hslot
    exact (h.seeded hseeded slot hslot).imp_right fun hgone => ⟨Bool.eq_false_iff.mpr hhistory, hgone⟩

theorem not_excused_of_allowed (hallowed : (notifier newV5 toRfc3339 floor).Allowed worker (.pass pass)) :
    ∀ reads ∈ pass.reads, ∀ n ∈ pass.notifications newV5 toRfc3339 reads,
      n.Eventful ∧ ¬ worker.Excused pass n.deduplicationKey := by
  intro reads hreads n hn
  refine ⟨eventful_of_allowed hallowed reads hreads n hn, ?_⟩
  rintro ⟨hhistory, hgone⟩
  rcases hallowed.2.2 with h | ⟨-, hnot⟩
  · rw [h] at hhistory
    cases hhistory
  · exact hnot reads hreads n hn hgone

/-- Retaining candidates forgets only what is superseded. -/
theorem Sound.retain (h : worker.Sound) (candidates : List Notification) :
    (worker.retain candidates).Sound := by
  refine ⟨⟨h.state.once, fun slot hslot => ?_, h.state.stored, h.state.saved, h.state.keyed,
    h.state.events, fun slot _ => Or.inr trivial⟩, fun hseeded slot hslot => ?_⟩
  · exact h.state.sent slot (Deduplicator.mem_retainCandidates.mp hslot).1
  · have hgone : ∀ key, worker.Gone key → (worker.retain candidates).Gone key := by
      rintro key ⟨l, hl, hnone⟩
      exact ⟨l, List.mem_append_left _ hl, hnone⟩
    rcases h.seeded hseeded slot hslot with hmem | hmem
    · by_cases hkept : ∃ n ∈ candidates, n.deduplicationKey = slot.2
      · obtain ⟨n, hn, hkey⟩ := hkept
        exact Or.inl (Deduplicator.mem_retainCandidates.mpr ⟨hmem, n, hn, Or.inl hkey.symm⟩)
      · push Not at hkept
        exact Or.inr ⟨candidates, List.mem_append_right _ (List.mem_singleton.mpr rfl), hkept⟩
    · exact Or.inr (hgone slot.2 hmem)

/-- A pass keeps the worker sound. -/
theorem Sound.notify (h : worker.Sound)
    (hallowed : (notifier newV5 toRfc3339 floor).Allowed worker (.pass pass)) :
    ({ worker with
      state := notify newV5 toRfc3339 floor pass (worker.begin pass)
      seeded := worker.seeded || pass.history } : Notifier).Sound := by
  have hsound : (Sentinel.notify newV5 toRfc3339 floor pass (worker.begin pass)).Sound _ :=
    (sound_notify (not_excused_of_allowed hallowed) (sound_begin h hallowed)).1
  refine ⟨⟨hsound.once, hsound.sent, hsound.stored, hsound.saved, hsound.keyed, hsound.events,
    fun _ _ => Or.inr trivial⟩, fun _ slot hslot => ?_⟩
  exact (hsound.covered slot hslot).imp_right fun hexcused => hexcused.2

/-- **Memory, table and attempts agree in every run.** -/
theorem Sound.run (hrun : (notifier newV5 toRfc3339 floor).Run log worker) : worker.Sound := by
  refine hrun.invariant (P := fun _ worker => worker.Sound) ?_ ?_
  · rintro worker rfl
    refine ⟨⟨List.Pairwise.nil, ?_, ?_, ?_, ?_, ?_, ?_⟩, ?_⟩
    all_goals simp [Deduplicator.new]
  · intro log worker input _ h hallowed
    change (worker.step newV5 toRfc3339 floor input).Sound
    cases input with
    | pass pass =>
      have hnext := h.notify hallowed
      rw [step]
      split
      · exact hnext.retain _
      · exact hnext
    | restart =>
      refine ⟨⟨h.state.once, ?_, h.state.stored, h.state.saved, h.state.keyed, h.state.events,
        fun _ _ => Or.inr trivial⟩, fun hseeded => by cases hseeded⟩
      intro slot hslot
      exact absurd hslot Std.ExtTreeMap.not_mem_empty
    | retain candidates => exact h.retain candidates
    | prune now =>
      refine ⟨⟨h.state.once, fun slot hslot => h.state.sent slot (Deduplicator.mem_prune.1 hslot),
        h.state.stored, h.state.saved, h.state.keyed, h.state.events, fun _ _ => Or.inr trivial⟩, ?_⟩
      intro hseeded slot hslot
      refine (h.seeded hseeded slot hslot).imp_left fun hmem => Deduplicator.mem_prune.2 ?_ hmem
      obtain ⟨a, ha, rfl, -⟩ := h.state.stored slot hslot
      exact h.state.events a ha

theorem step_pass : (worker.step newV5 toRfc3339 floor (.pass pass)).state.attempts =
      (Sentinel.notify newV5 toRfc3339 floor pass (worker.begin pass)).attempts ∧
    (worker.step newV5 toRfc3339 floor (.pass pass)).state.aborted =
      (Sentinel.notify newV5 toRfc3339 floor pass (worker.begin pass)).aborted := by
  rw [step]
  split <;> exact ⟨rfl, rfl⟩

theorem attempts_begin : (worker.begin pass).attempts = worker.state.attempts := by
  rw [begin]
  split <;> rfl

/-- **At most once, and not silently lost.**  In every run, what was delivered to a
provider and stored is never handed to it again, and only what was delivered is on
record; and whatever was never delivered is handed over in every pass that comes to its
end with it still a candidate, at or above the floor and not under maintenance. -/
theorem delivered_once_and_retried (hrun : (notifier newV5 toRfc3339 floor).Run log worker) :
    (worker.state.attempts.Pairwise fun a b => a.delivered = true → a.saved = true → a.slot ≠ b.slot) ∧
    (∀ slot, slot ∈ worker.state.deduplicator.sent ∨ slot ∈ worker.state.deliveries →
      ∃ a ∈ worker.state.attempts, a.slot = slot ∧ a.delivered = true) ∧
    ∀ (pass : NotifyPass) (reads : Reads) (n : Notification) (provider : String) (i j : ℕ),
      (notifier newV5 toRfc3339 floor).Allowed worker (.pass pass) → pass.reads = some reads →
      (n, i) ∈ (pass.notifications newV5 toRfc3339 reads).zipIdx →
      (provider, j) ∈ pass.providers.zipIdx → pass.Open newV5 toRfc3339 floor reads n i j →
      (∀ a ∈ worker.state.attempts, a.slot = (provider, n.deduplicationKey) → a.delivered = false) →
      (worker.step newV5 toRfc3339 floor (.pass pass)).state.aborted = false →
      ∃ a ∈ (worker.step newV5 toRfc3339 floor (.pass pass)).state.attempts.drop
        worker.state.attempts.length, a.slot = (provider, n.deduplicationKey) := by
  have h := Sound.run hrun
  refine ⟨h.state.once, fun slot hslot => hslot.elim (h.state.sent slot) (h.state.stored slot), ?_⟩
  intro pass reads n provider i j hallowed hreads hn hprovider hopen hfailed hend
  rw [step_pass.2] at hend
  rw [step_pass.1, ← @attempts_begin worker pass]
  refine tried_notify (not_excused_of_allowed hallowed) (sound_begin h hallowed) hreads hn hprovider hopen
    (fun a ha => ?_) hend
  rw [attempts_begin] at ha
  exact hfailed a ha

/-- A message that a provider refused is handed to it again in the next pass. -/
theorem retried_after_refusal :
    let newV5 (id : Uuid) (_ : String) : Uuid := id
    let toRfc3339 (_ : Timestamp) : String := "t"
    let d : Diagnosis := ⟨Kind.hostUnreachable, [], [], .high, [], ⟨"r"⟩, "", []⟩
    let i := Incident.openFrom 0 ⟨1⟩ (fingerprint d) .critical [d]
    let n := forIncident newV5 toRfc3339 i .opened
    let refused : NotifyPass := ⟨true, ⟨[], [], [], []⟩, ["ops"], some ⟨[n], fun _ => some i⟩, ⟨[]⟩,
      fun _ => 0, fun _ _ => ⟨0, some true, none, false, false⟩, some [n]⟩
    let worker : Notifier := ⟨⟨.new, ∅, [], .none, false⟩, false, []⟩
    let once := worker.step newV5 toRfc3339 .warning (.pass refused)
    ∃ a ∈ (once.step newV5 toRfc3339 .warning (.pass refused)).state.attempts.drop 1,
      a.slot = ("ops", n.deduplicationKey) := by
  intro newV5 toRfc3339 d i n refused worker once
  have hallowed : ∀ worker, (notifier newV5 toRfc3339 .warning).Allowed worker (.pass refused) := by
    intro worker
    refine ⟨fun _ h => absurd h List.not_mem_nil, ?_, Or.inl rfl⟩
    rintro reads ⟨⟩ m hm
    rw [List.mem_singleton.mp hm]
    exact ⟨i, d, rfl, List.mem_map.mpr ⟨.opened, by decide +kernel, rfl⟩⟩
  have hrun : (notifier newV5 toRfc3339 .warning).Run [.pass refused] once :=
    .snoc (.init rfl) (hallowed worker)
  have hfirst : once.state.attempts.map (fun a => (a.slot, a.delivered)) =
      [(("ops", n.deduplicationKey), false)] := by decide +kernel
  have hlength : once.state.attempts.length = 1 := by
    rw [← List.length_map, hfirst]
    rfl
  have hretry := (delivered_once_and_retried hrun).2.2 refused ⟨[n], fun _ => some i⟩ n "ops" 0 0
    (hallowed once) rfl (by decide +kernel) (by decide +kernel)
    ⟨by decide +kernel, by decide +kernel, Or.inr rfl, fun _ h => by cases h⟩
  rw [hlength] at hretry
  refine hretry (fun a ha _ => ?_) (by decide +kernel)
  have hmem := List.mem_map_of_mem (f := fun a => (a.slot, a.delivered)) ha
  rw [hfirst, List.mem_singleton] at hmem
  exact congrArg Prod.snd hmem

end Notifier

end Sentinel
