import Sentinel.Incident.Engine

/-!
# Notifications

What is worth telling about an incident follows from its status and from its timeline:
the candidates are derived anew whenever the incident is saved.  Each is tied to the
lifecycle event it announces, so that the same news always has the same key.

Maintenance windows suppress notifications, and nothing else.

## Main definitions

* `Trigger`, `Notification`, `Notification.deduplicationKey` — a message and its key.
* `eventFor`, `eventIdentity` — the event that a message announces.
* `notificationsForIncident`, `notificationsFor` — the current candidates.
* `MaintenanceWindows.suppressesAll` — whether everything affected is worked on.

## Main results

* `eventId_of_mem_notificationsForIncident` — every candidate announces an event.
* `event_infix_deduplicationKey`, `not_event_infix_legacyKey` — its key is none of the
  keys that were used before there were events.
-/

namespace Sentinel

/-! ### Messages -/

/-- Why a notification is being sent. -/
inductive Trigger
  /-- A new incident was opened. -/
  | opened
  /-- An existing incident became more severe. -/
  | escalated
  /-- The diagnosis changed in a way worth reporting. -/
  | diagnosisChanged
  /-- The cause is gone but dependents have not recovered. -/
  | recovering
  /-- Everything involved has recovered. -/
  | resolved
  deriving DecidableEq, Repr

namespace Trigger

/-- Stable string form. -/
def asStr : Trigger → String
  | opened => "opened"
  | escalated => "escalated"
  | diagnosisChanged => "diagnosis_changed"
  | recovering => "recovering"
  | resolved => "resolved"

/-- Whether this trigger is good news. -/
def isRecovery : Trigger → Bool
  | recovering | resolved => true
  | _ => false

/-- Triggers in the order of their declaration. -/
def rank : Trigger → ℕ
  | opened => 0
  | escalated => 1
  | diagnosisChanged => 2
  | recovering => 3
  | resolved => 4

theorem rank_injective : Function.Injective rank := by
  intro a b h
  cases a <;> cases b <;> first | rfl | cases h

instance : LinearOrder Trigger := LinearOrder.lift' rank rank_injective

/-- The events of a timeline that a trigger announces. -/
def kinds : Trigger → List String
  | opened => ["opened", "reopened", "recovery_failed"]
  | escalated => ["severity_escalated"]
  | diagnosisChanged => ["diagnosis_changed"]
  | recovering => ["recovering"]
  | resolved => ["resolved"]

end Trigger

/-- A message about one incident. -/
structure Notification where
  /-- The incident this concerns. -/
  incidentId : String
  /-- The incident's fingerprint. -/
  fingerprint : String
  /-- Why this is being sent. -/
  trigger : Trigger
  /-- Severity at the time of sending. -/
  severity : Severity
  /-- When this was produced. -/
  createdAt : Timestamp
  /-- Stable lifecycle event identity, so retries cannot become new news. -/
  eventId : Option String
  deriving DecidableEq, Repr

namespace Notification

/-- The key that a message had before there were events. -/
def legacyKey (n : Notification) : String := n.fingerprint ++ ":" ++ n.trigger.asStr

/-- The key that decides whether this has already been sent. -/
def deduplicationKey (n : Notification) : String :=
  match n.eventId with
  | some event => n.fingerprint ++ ":event:" ++ n.incidentId ++ ":" ++ event ++ ":" ++ n.trigger.asStr
  | none => n.legacyKey

end Notification

/-! ### Candidates -/

/-- The last event of an incident that a trigger announces. -/
def eventFor (i : Incident) (trigger : Trigger) : Option TimelineEvent :=
  i.timeline.reverse.find? fun event => event.kind ∈ trigger.kinds

section Candidates

variable (newV5 : Uuid → String → Uuid) (toRfc3339 : Timestamp → String)

/-- The identity of the event that a message announces. -/
def eventIdentity (i : Incident) (trigger : Trigger) : String :=
  let text := match eventFor i trigger with
    | some event => toRfc3339 event.at_ ++ ":" ++ event.kind ++ ":" ++ event.detail
    | none => toRfc3339 i.startedAt
  (newV5 i.id text).toText

/-- Build a notification for an incident. -/
def forIncident (i : Incident) (trigger : Trigger) : Notification where
  incidentId := i.id.toText
  fingerprint := i.fingerprint
  trigger := trigger
  severity := i.severity
  createdAt := ((eventFor i trigger).map TimelineEvent.at_).getD i.startedAt
  eventId := some (eventIdentity newV5 toRfc3339 i trigger)

/-- Where on the timeline the current outage began. -/
def lifecycle (i : Incident) : Option ℕ :=
  (i.timeline.zipIdx.reverse.find? fun entry => entry.1.kind ∈ Trigger.opened.kinds).map Prod.snd

/-- Whether an event of a kind belongs to the current outage. -/
def sinceLifecycle (i : Incident) (kind : String) : Bool :=
  i.timeline.zipIdx.any fun entry => entry.1.kind = kind && (lifecycle i).all fun start => start ≤ entry.2

/-- The triggers an incident calls for, as it stands. -/
def triggersOf (i : Incident) : List Trigger :=
  match i.status with
  | .resolved => [.resolved]
  | .recovering => [.recovering]
  | .suppressed | .reset => []
  | .opened | .acknowledged => .opened ::
    ([("severity_escalated", .escalated), ("diagnosis_changed", .diagnosisChanged)].filter fun entry =>
      sinceLifecycle i entry.1).map Prod.snd

/-- Current lifecycle candidates. -/
def notificationsForIncident (i : Incident) : List Notification :=
  (triggersOf i).map (forIncident newV5 toRfc3339 i)

/-- Every incident touched. -/
def IncidentUpdate.all (update : IncidentUpdate) : List Incident :=
  update.opened ++ update.updated ++ update.recovering ++ update.resolved

/-- In the order of the events. -/
def Notification.order (n : Notification) : Timestamp ×ₗ Trigger := toLex (n.createdAt, n.trigger)

/-- Turn a reconciliation into the notifications worth sending. -/
def notificationsFor (update : IncidentUpdate) : List Notification :=
  let notifications := update.all.flatMap (notificationsForIncident newV5 toRfc3339)
  let byKey : Std.ExtTreeMap String Notification :=
    notifications.foldl (fun byKey n => byKey.insert n.deduplicationKey n) ∅
  byKey.vals.sortBy Notification.order

end Candidates

/-! ### Keys with and without events -/

/-- What marks the key of an event. -/
def eventMark : List Char := ":event:".toList

theorem infix_toList_append {mark : List Char} {s : String} (t : String) (h : mark <:+: s.toList) :
    mark <:+: (s ++ t).toList := by
  rw [String.toList_append]
  exact h.trans (List.prefix_append _ _).isInfix

/-- The key of a message that announces an event says so. -/
theorem event_infix_deduplicationKey {n : Notification} (h : n.eventId.isSome) :
    eventMark <:+: n.deduplicationKey.toList := by
  obtain ⟨event, h⟩ := Option.isSome_iff_exists.mp h
  have hmark : eventMark <:+: (n.fingerprint ++ ":event:").toList := by
    rw [String.toList_append]
    exact (List.suffix_append _ _).isInfix
  rw [Notification.deduplicationKey, h]
  exact infix_toList_append _ (infix_toList_append _ (infix_toList_append _ (infix_toList_append _
    (infix_toList_append _ hmark))))

theorem eventId_of_mem_notificationsForIncident {newV5 : Uuid → String → Uuid}
    {toRfc3339 : Timestamp → String} {i : Incident} {n : Notification}
    (h : n ∈ notificationsForIncident newV5 toRfc3339 i) :
    n.eventId.isSome ∧ n.fingerprint = i.fingerprint := by
  obtain ⟨trigger, -, rfl⟩ := List.mem_map.mp h
  exact ⟨rfl, rfl⟩

/-- The text of an identifier has dashes and hexadecimal digits in it only. -/
theorem notMem_toText {c : Char} (hdash : c ≠ '-') (hdigit : ∀ a < 16, Nat.digitChar a ≠ c) (u : Uuid) :
    c ∉ u.toText.toList := by
  intro h
  have hdigits : c ∈ u.digits := by
    rw [← u.filter_toText]
    exact List.mem_filter.mpr ⟨h, decide_eq_true hdash⟩
  obtain ⟨i, -, hi⟩ := List.mem_map.mp hdigits
  exact hdigit _ (Nat.mod_lt _ (by decide)) hi

theorem v_notMem_toText (u : Uuid) : 'v' ∉ u.toText.toList :=
  notMem_toText (by decide) (by decide) u

/-- A fingerprint names a cause by identifiers, which have no `v` in them. -/
theorem v_notMem_fingerprint (d : Diagnosis) : 'v' ∉ (fingerprint d).toList := by
  have htexts : ∀ entities : List EntityId,
      'v' ∉ (",".intercalate (entities.map fun e => e.uuid.toText).sortDedup).toList := by
    intro entities h
    rw [String.toList_intercalate] at h
    rcases List.mem_of_mem_intercalate h with h | ⟨part, hpart, h⟩
    · revert h
      decide
    · obtain ⟨text, htext, rfl⟩ := List.mem_map.mp hpart
      obtain ⟨e, -, rfl⟩ := List.mem_map.mp (List.mem_sortDedup.mp htext)
      exact v_notMem_toText e.uuid h
  rw [fingerprint]
  dsimp only
  split
  · rw [String.toList_append, List.mem_append]
    exact not_or.mpr ⟨by decide, htexts _⟩
  · rw [String.toList_append, List.mem_append]
    exact not_or.mpr ⟨by decide, htexts _⟩

/-- A key from before there were events does not look like that of an event. -/
theorem not_event_infix_legacyKey {n : Notification} {d : Diagnosis}
    (h : n.fingerprint = fingerprint d) : ¬ eventMark <:+: n.legacyKey.toList := by
  rintro ⟨before, after, heq⟩
  -- the mark ends in a colon, so it ends with the last colon of the key at the latest
  have hcolon : ':' ∉ n.trigger.asStr.toList := by
    cases n.trigger <;> decide
  have hv : 'v' ∉ n.fingerprint.toList ++ [':'] := by
    rw [h, List.mem_append]
    exact not_or.mpr ⟨v_notMem_fingerprint d, by decide⟩
  have hmark : eventMark = ":event".toList ++ [':'] := by decide
  have hin : 'v' ∈ eventMark := by decide
  rw [Notification.legacyKey, String.toList_append, String.toList_append,
    show ":".toList = [':'] from rfl] at heq
  rcases List.append_eq_append_iff.mp heq with ⟨rest, hfront, -⟩ | ⟨rest, hfront, htrigger⟩
  · refine hv ?_
    rw [hfront]
    exact List.mem_append_left _ (List.mem_append_right _ hin)
  · rcases List.eq_nil_or_concat rest with rfl | ⟨rest', last, rfl⟩
    · refine hv ?_
      rw [← List.append_nil (n.fingerprint.toList ++ [':']), ← hfront]
      exact List.mem_append_right _ hin
    · rw [List.concat_eq_append] at hfront htrigger
      rw [hmark, ← List.append_assoc, ← List.append_assoc] at hfront
      have hlast : ':' = last := List.singleton_inj.mp (List.append_inj_right' hfront rfl)
      refine hcolon ?_
      rw [htrigger, hlast]
      exact List.mem_append_left _ (List.mem_append_right _ (List.mem_singleton.mpr rfl))

/-! ### Maintenance -/

/-- A period during which notifications about something are suppressed. -/
structure MaintenanceWindow where
  /-- The entity under maintenance; `none` means the whole environment. -/
  entity : Option EntityId
  /-- When it starts. -/
  startsAt : Timestamp
  /-- When it ends; `none` means open-ended. -/
  endsAt : Option Timestamp

/-- Whether the window is in force at a given moment. -/
def MaintenanceWindow.isActiveAt (window : MaintenanceWindow) (now : Timestamp) : Bool :=
  window.startsAt ≤ now && window.endsAt.all fun endsAt => now < endsAt

/-- Whether the window covers an entity. -/
def MaintenanceWindow.covers (window : MaintenanceWindow) (entity : EntityId) : Bool :=
  window.entity.all fun covered => covered = entity

/-- The maintenance windows in force. -/
structure MaintenanceWindows where
  /-- The windows. -/
  windows : List MaintenanceWindow

namespace MaintenanceWindows

/-- Whether notifications about an entity are currently suppressed. -/
def suppresses (maintenance : MaintenanceWindows) (now : Timestamp) (entity : EntityId) : Bool :=
  maintenance.windows.any fun window => window.isActiveAt now && window.covers entity

/-- Whether every one of some entities is under maintenance, if there is one. -/
def suppressesAll (maintenance : MaintenanceWindows) (now : Timestamp) (entities : List EntityId) : Bool :=
  !entities.isEmpty && entities.all (maintenance.suppresses now)

end MaintenanceWindows

end Sentinel
