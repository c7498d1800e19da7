import Sentinel.Notification.Basic

/-!
# Deduplication

The memory of what has been sent, by provider and key.  It is seeded from the deliveries
that are stored, so that a restart does not repeat them, and kept small by dropping what
can no longer be offered.

A message that announces an event is never repeated while it is remembered.  One without
an event, as older callers send it, may be repeated once its lease is over, unless it is
an opening.

## Main definitions

* `Deduplicator`, `Deduplicator.seed`, `Deduplicator.shouldSend`, `Deduplicator.record`,
  `Deduplicator.retainCandidates`, `Deduplicator.prune`.

## Main results

* `Deduplicator.not_shouldSend_of_mem`, `Deduplicator.shouldSend_of_notMem` — an event is
  sent exactly while it is not remembered.
* `Deduplicator.mem_retainCandidates`, `Deduplicator.mem_prune` — what is forgotten.
-/

namespace Sentinel

/-- A notification that has been sent. -/
structure NotificationRecord where
  /-- The incident it concerned. -/
  incidentId : String
  /-- The key that identifies this piece of news. -/
  deduplicationKey : String
  /-- Which provider sent it. -/
  provider : String
  /-- When it was sent. -/
  sentAt : Timestamp
  deriving DecidableEq, Repr

/-- What a record is remembered under. -/
def NotificationRecord.slot (record : NotificationRecord) : String × String :=
  (record.provider, record.deduplicationKey)

/-- Whether a key announces an opening. -/
def isOpening (deduplicationKey : String) : Bool :=
  (":" ++ Trigger.opened.asStr).toList <:+ deduplicationKey.toList

/-- Whether a key announces an event. -/
def isEvent (deduplicationKey : String) : Bool := eventMark <:+: deduplicationKey.toList

/-- Decides whether a notification is new. -/
structure Deduplicator where
  /-- When, and about which incident, a key was sent by a provider. -/
  sent : Std.ExtTreeMap (String × String) (Timestamp × String)
  /-- How long a message without an event suppresses an identical one. -/
  leaseMinutes : ℤ

namespace Deduplicator

/-- How long a delivered notification suppresses an identical one, in minutes. -/
def defaultLeaseMinutes : ℤ := 60

/-- A deduplicator with the default lease. -/
def new : Deduplicator := ⟨∅, defaultLeaseMinutes⟩

variable (now : Timestamp) (deduplicator : Deduplicator)

/-- Remember one record. -/
def remember (record : NotificationRecord) : Deduplicator :=
  { deduplicator with sent := deduplicator.sent.insert record.slot (record.sentAt, record.incidentId) }

/-- Load previously sent notifications, for resuming after a restart. -/
def seed (records : List NotificationRecord) : Deduplicator := records.foldl remember deduplicator

/-- Whether this notification should be sent by this provider. -/
def shouldSend (n : Notification) (provider : String) : Bool :=
  -- delivery records from before there were events count for the same incident
  if n.eventId.isSome && deduplicator.sent[(provider, n.legacyKey)]?.any (fun entry =>
      entry.2 = n.incidentId && n.createdAt ≤ entry.1) then false
  else
    match deduplicator.sent[(provider, n.deduplicationKey)]? with
    | none => true
    | some (sentAt, _) =>
      if isOpening n.deduplicationKey || isEvent n.deduplicationKey then false
      else minutes deduplicator.leaseMinutes ≤ now - sentAt

/-- The record of a notification that was sent. -/
def recordOf (n : Notification) (provider : String) : NotificationRecord :=
  ⟨n.incidentId, n.deduplicationKey, provider, now⟩

/-- Record that a notification was sent. -/
def record (n : Notification) (provider : String) : Deduplicator × NotificationRecord :=
  (deduplicator.remember (recordOf now n provider), recordOf now n provider)

/-- Retain only events that can still be offered. -/
def retainCandidates (notifications : List Notification) : Deduplicator :=
  let keys := notifications.flatMap fun n => [n.deduplicationKey, n.legacyKey]
  { deduplicator with sent := deduplicator.sent.filter fun slot _ => slot.2 ∈ keys }

/-- Drop records older than the lease; what is dropped is counted. -/
def prune : Deduplicator × ℕ :=
  let cutoff := now - minutes (deduplicator.leaseMinutes * 2)
  let kept := deduplicator.sent.filter fun slot entry =>
    isOpening slot.2 || isEvent slot.2 || cutoff ≤ entry.1
  ({ deduplicator with sent := kept }, deduplicator.sent.size - kept.size)

variable {now deduplicator} {n : Notification} {provider : String} {slot : String × String}

theorem mem_remember {record : NotificationRecord} :
    slot ∈ (deduplicator.remember record).sent ↔ record.slot = slot ∨ slot ∈ deduplicator.sent := by
  rw [remember, Std.ExtTreeMap.mem_insert, Std.LawfulEqCmp.compare_eq_iff_eq]

theorem mem_seed (records : List NotificationRecord) :
    ∀ {deduplicator : Deduplicator}, slot ∈ (deduplicator.seed records).sent ↔
      (∃ record ∈ records, record.slot = slot) ∨ slot ∈ deduplicator.sent := by
  induction records with
  | nil => intro deduplicator; simp [seed]
  | cons record records ih =>
    intro deduplicator
    have hrest := @ih (deduplicator.remember record)
    rw [mem_remember] at hrest
    rw [seed, List.foldl_cons, ← seed, hrest]
    simp only [List.mem_cons, exists_eq_or_imp, or_assoc, or_left_comm]

/-- An event that is remembered is not sent. -/
theorem not_shouldSend_of_mem (hevent : isEvent n.deduplicationKey = true)
    (hmem : (provider, n.deduplicationKey) ∈ deduplicator.sent) :
    deduplicator.shouldSend now n provider = false := by
  obtain ⟨entry, hentry⟩ := Option.isSome_iff_exists.mp (Std.ExtTreeMap.mem_iff_isSome_getElem?.mp hmem)
  rw [shouldSend]
  split
  · rfl
  · rw [hentry]
    simp [hevent]

/-- What is not remembered is sent. -/
theorem shouldSend_of_notMem (hlegacy : (provider, n.legacyKey) ∉ deduplicator.sent)
    (hmem : (provider, n.deduplicationKey) ∉ deduplicator.sent) :
    deduplicator.shouldSend now n provider = true := by
  rw [shouldSend, Std.ExtTreeMap.getElem?_eq_none hlegacy, Std.ExtTreeMap.getElem?_eq_none hmem]
  simp

theorem mem_retainCandidates {notifications : List Notification} :
    slot ∈ (deduplicator.retainCandidates notifications).sent ↔ slot ∈ deduplicator.sent ∧
      ∃ n ∈ notifications, slot.2 = n.deduplicationKey ∨ slot.2 = n.legacyKey := by
  rw [Std.ExtTreeMap.mem_iff_isSome_getElem?, retainCandidates, Std.ExtTreeMap.getElem?_filter',
    Std.ExtTreeMap.mem_iff_isSome_getElem?]
  cases deduplicator.sent[slot]? with
  | none => simp
  | some entry => simp [Option.isSome_filter]

/-- Nothing is remembered anew, and no event is forgotten. -/
theorem mem_prune : (slot ∈ (deduplicator.prune now).1.sent → slot ∈ deduplicator.sent) ∧
    (isEvent slot.2 = true → slot ∈ deduplicator.sent → slot ∈ (deduplicator.prune now).1.sent) := by
  rw [Std.ExtTreeMap.mem_iff_isSome_getElem?, prune, Std.ExtTreeMap.getElem?_filter',
    Std.ExtTreeMap.mem_iff_isSome_getElem?]
  cases deduplicator.sent[slot]? with
  | none => simp
  | some entry =>
    refine ⟨fun _ => rfl, fun hevent _ => ?_⟩
    simp [Option.isSome_filter, hevent]

end Deduplicator

end Sentinel
