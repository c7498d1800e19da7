import Sentinel.Incident.Resume

/-!
# Notifications over the life of an incident

The candidates of an incident are derived from its status and its timeline whenever it is
looked at.  Here the incident goes through its life, each event recorded by its own
reading of the clock, and what is offered is the current news: an operation offers
nothing anew but the events it records, so what was offered and no longer is has gone.

## Main definitions

* `Incident.Opening`, `Incident.Operation`, `Incident.lived` — the life of an incident.
* `Incident.Offers` — an event is offered under a trigger.
* `Incident.Advances` — an operation offers nothing anew but what it records.

## Main results

* `Incident.advances_live` — every operation does so.
* `Incident.Advances.never_again` — a key no longer offered does not return.
* `Incident.lived_candidates` — the candidates over the life of an incident.
-/

namespace Sentinel

namespace Incident

variable {i j : Incident}

/-! ### The life of an incident -/

/-- How an incident begins: its identity, and when its first events are recorded. -/
structure Opening where
  /-- The identifier. -/
  id : Uuid
  /-- The fingerprint. -/
  fingerprint : String
  /-- The severity. -/
  severity : Severity
  /-- When the incident began. -/
  startedAt : Timestamp
  /-- When its opening is recorded. -/
  openedAt : Timestamp
  /-- The diagnoses, and when each is recorded. -/
  added : List (Timestamp × Diagnosis)

/-- The incident opened. -/
def Opening.incident (opening : Opening) : Incident :=
  opening.added.foldl (fun i entry => i.addDiagnosis entry.1 entry.2)
    ((Incident.new opening.startedAt opening.id opening.fingerprint opening.severity).record
      opening.openedAt "opened" ("severity " ++ opening.severity.asStr))

/-- What a reconciliation does to an incident there is, with the readings of the clock. -/
inductive Operation
  /-- It is diagnosed again: it is brought back if it was recovering or resolved, its
  severity raised, and its diagnoses replaced. -/
  | diagnosed (returnedAt escalatedAt refreshedAt : Timestamp) (severity : Severity)
    (diagnoses : List Diagnosis)
  /-- It is not diagnosed any more, and the verdicts on its recovery decide. -/
  | undiagnosed (now : Timestamp) (rootRecovered fullyRecovered : Bool)

/-- An incident after an operation. -/
def live (i : Incident) : Operation → Incident
  | .diagnosed returnedAt escalatedAt refreshedAt severity diagnoses =>
    ((i.returned returnedAt).escalate escalatedAt severity).refresh refreshedAt diagnoses
  | .undiagnosed now rootRecovered fullyRecovered =>
    if i.status.isActive then (i.undiagnosed now rootRecovered fullyRecovered).1 else i

/-- An incident after operations. -/
def lived (opening : Opening) (operations : List Operation) : Incident :=
  operations.foldl live opening.incident

/-- With one reading of the clock, opening an incident is what a reconciliation does. -/
theorem openFrom_eq_incident (now : Timestamp) (id : Uuid) (f : String) (severity : Severity)
    (ds : List Diagnosis) : openFrom now id f severity ds =
      Opening.incident ⟨id, f, severity, now, now, ds.map fun d => (now, d)⟩ := by
  rw [openFrom, Opening.incident, List.foldl_map]

/-- With one reading of the clock, the first operation is the first pass of a
reconciliation at an incident it keeps. -/
theorem diagnosed_eq_live (now : Timestamp) (id : Uuid) (graph : DependencyGraph) (f : String)
    (ds : List Diagnosis) (hkept : ¬ (i.status = .resolved ∧ i.withinReopenWindow now = false)) :
    (diagnosed now id graph f ds (some i)).1 =
      i.live (.diagnosed now now now (groupSeverity graph ds) ds) := by
  rw [diagnosed, if_neg hkept]
  rfl

/-! ### What is offered -/

/-- An event is offered under a trigger. -/
def Offers (i : Incident) (trigger : Trigger) (event : TimelineEvent) : Prop :=
  trigger ∈ triggersOf i ∧ eventFor i trigger = some event

/-- Every message offered announces an event. -/
def Evented (i : Incident) : Prop := ∀ trigger ∈ triggersOf i, (eventFor i trigger).isSome

theorem Offers.mem {trigger : Trigger} {event : TimelineEvent} (h : i.Offers trigger event) :
    event ∈ i.timeline := by
  have hmem := List.mem_of_find?_eq_some h.2
  rwa [List.mem_reverse] at hmem

/-- The last event of a trigger, once another one is recorded. -/
theorem eventFor_record (i : Incident) (now : Timestamp) (kind detail : String) (trigger : Trigger) :
    eventFor (i.record now kind detail) trigger =
      if kind ∈ trigger.kinds then some ⟨now, kind, detail⟩ else eventFor i trigger := by
  rw [eventFor, record, List.reverse_append, List.reverse_singleton, List.singleton_append,
    List.find?_cons]
  split
  · next h => rw [if_pos (of_decide_eq_true h)]
  · next h => rw [if_neg (of_decide_eq_false h), eventFor]

/-- The triggers an incident calls for: beside the opening, what happened in the current
outage. -/
theorem mem_triggersOf {trigger : Trigger} : trigger ∈ triggersOf i ↔
    (i.status = .resolved ∧ trigger = .resolved) ∨ (i.status = .recovering ∧ trigger = .recovering) ∨
    ((i.status = .opened ∨ i.status = .acknowledged) ∧ (trigger = .opened ∨
      (trigger = .escalated ∧
        (outage i.timeline).any (fun event => event.kind = "severity_escalated") = true) ∨
      (trigger = .diagnosisChanged ∧
        (outage i.timeline).any (fun event => event.kind = "diagnosis_changed") = true))) := by
  have hescalated : sinceLifecycle i "severity_escalated" = _ := sinceLifecycle_eq i (by decide)
  have hchanged : sinceLifecycle i "diagnosis_changed" = _ := sinceLifecycle_eq i (by decide)
  rw [← hescalated, ← hchanged, triggersOf]
  simp only [List.filter_cons, List.filter_nil]
  generalize sinceLifecycle i "severity_escalated" = escalated
  generalize sinceLifecycle i "diagnosis_changed" = changed
  cases i.status with
  | resolved => simp
  | recovering => simp
  | suppressed => simp
  | reset => simp
  | opened => cases escalated <;> cases changed <;> simp
  | acknowledged => cases escalated <;> cases changed <;> simp

/-! ### What an operation offers -/

/-- An operation offers nothing anew but the events it records, and what it offers
announces an event. -/
structure Advances (i j : Incident) : Prop where
  id : j.id = i.id
  fingerprint : j.fingerprint = i.fingerprint
  evented : i.Evented → j.Evented
  news : ∃ recorded, j.timeline = i.timeline ++ recorded ∧
    ∀ trigger event, j.Offers trigger event → i.Offers trigger event ∨ event ∈ recorded

theorem Advances.refl (i : Incident) : i.Advances i :=
  ⟨rfl, rfl, fun he => he, [], (List.append_nil _).symm, fun _ _ h => Or.inl h⟩

theorem Advances.trans {k : Incident} (h : i.Advances j) (h' : j.Advances k) : i.Advances k := by
  obtain ⟨recorded, htimeline, hnews⟩ := h.news
  obtain ⟨recorded', htimeline', hnews'⟩ := h'.news
  refine ⟨h'.id.trans h.id, h'.fingerprint.trans h.fingerprint, fun he => h'.evented (h.evented he),
    recorded ++ recorded', ?_, ?_⟩
  · rw [htimeline', htimeline, List.append_assoc]
  · intro trigger event hoffers
    rcases hnews' trigger event hoffers with hoffers | hmem
    · rcases hnews trigger event hoffers with hoffers | hmem
      · exact Or.inl hoffers
      · exact Or.inr (List.mem_append_left _ hmem)
    · exact Or.inr (List.mem_append_right _ hmem)

/-- What is collected from diagnoses, and how severe it is, is not offered. -/
theorem Advances.of_frame (hid : j.id = i.id) (hfingerprint : j.fingerprint = i.fingerprint)
    (hstatus : j.status = i.status) (htimeline : j.timeline = i.timeline) : i.Advances j := by
  have htriggers : ∀ trigger, trigger ∈ triggersOf j ↔ trigger ∈ triggersOf i := by
    intro trigger
    rw [mem_triggersOf, mem_triggersOf, hstatus, htimeline]
  have hevent : ∀ trigger, eventFor j trigger = eventFor i trigger := by
    intro trigger
    rw [eventFor, eventFor, htimeline]
  refine ⟨hid, hfingerprint, fun he trigger htrigger => ?_, [], ?_, fun trigger event hoffers => ?_⟩
  · rw [hevent]
    exact he trigger ((htriggers trigger).mp htrigger)
  · rw [htimeline, List.append_nil]
  · exact Or.inl ⟨(htriggers trigger).mp hoffers.1, (hevent trigger).symm.trans hoffers.2⟩

/-- Recording an event offers that event at most. -/
theorem advances_record (i : Incident) (now : Timestamp) (kind detail : String) :
    i.Advances (i.record now kind detail) := by
  have htriggers : ∀ trigger, trigger ∈ triggersOf (i.record now kind detail) →
      trigger ∈ triggersOf i ∨ kind ∈ trigger.kinds := by
    intro trigger htrigger
    rw [mem_triggersOf] at htrigger ⊢
    change (i.status = .resolved ∧ _) ∨ (i.status = .recovering ∧ _) ∨
      ((i.status = .opened ∨ i.status = .acknowledged) ∧ _) at htrigger
    rcases htrigger with h | h | ⟨hstatus, rfl | ⟨rfl, h⟩ | ⟨rfl, h⟩⟩
    · exact Or.inl (Or.inl h)
    · exact Or.inl (Or.inr (Or.inl h))
    · exact Or.inl (Or.inr (Or.inr ⟨hstatus, Or.inl rfl⟩))
    all_goals
      -- the outage is over, or this event is the one, or an earlier one is
      rw [record, outage_concat] at h
      split at h
      · cases h
      rw [List.any_cons, Bool.or_eq_true, decide_eq_true_iff] at h
      rcases h with h | h
      · exact Or.inr (List.mem_singleton.mpr h)
      · refine Or.inl (Or.inr (Or.inr ⟨hstatus, ?_⟩))
        simp [h]
  refine ⟨rfl, rfl, fun he trigger htrigger => ?_, [⟨now, kind, detail⟩], rfl, ?_⟩
  · rw [eventFor_record]
    split
    · rfl
    · next hkind => exact he trigger ((htriggers trigger htrigger).resolve_right hkind)
  · intro trigger event hoffers
    have hevent := hoffers.2
    rw [eventFor_record] at hevent
    split at hevent
    · exact Or.inr (List.mem_singleton.mpr (Option.some.inj hevent).symm)
    · next hkind =>
      exact Or.inl ⟨(htriggers trigger hoffers.1).resolve_right hkind, hevent⟩

/-- Where the status follows the event recorded, only that event is offered. -/
theorem advances_turn {now : Timestamp} {kind detail : String} (hid : j.id = i.id)
    (hfingerprint : j.fingerprint = i.fingerprint) (htimeline : j.timeline = i.timeline ++ [⟨now, kind, detail⟩])
    (hturn : (j.status = .opened ∧ kind ∈ Trigger.opened.kinds) ∨
      (j.status = .recovering ∧ kind ∈ Trigger.recovering.kinds) ∨
      (j.status = .resolved ∧ kind ∈ Trigger.resolved.kinds)) : i.Advances j := by
  have hevent : ∀ trigger, kind ∈ trigger.kinds → eventFor j trigger = some ⟨now, kind, detail⟩ := by
    intro trigger hkind
    have hrecord := eventFor_record { j with timeline := i.timeline } now kind detail trigger
    rw [if_pos hkind, eventFor, record] at hrecord
    rw [eventFor, htimeline]
    exact hrecord
  have hkinds : ∀ trigger ∈ triggersOf j, kind ∈ trigger.kinds := by
    intro trigger htrigger
    rw [mem_triggersOf, htimeline, outage_concat] at htrigger
    rcases hturn with ⟨hstatus, hkind⟩ | ⟨hstatus, hkind⟩ | ⟨hstatus, hkind⟩
    · rw [hstatus, if_pos hkind] at htrigger
      simp only [reduceCtorEq, false_and, List.any_nil, Bool.false_eq_true, and_false, or_false, false_or,
        true_and] at htrigger
      rwa [htrigger]
    · rw [hstatus] at htrigger
      simp only [reduceCtorEq, false_and, or_false, false_or, true_and] at htrigger
      rwa [htrigger]
    · rw [hstatus] at htrigger
      simp only [reduceCtorEq, false_and, or_false, true_and] at htrigger
      rwa [htrigger]
  refine ⟨hid, hfingerprint, fun _ trigger htrigger => ?_, [⟨now, kind, detail⟩], htimeline, ?_⟩
  · rw [hevent trigger (hkinds trigger htrigger)]
    rfl
  · intro trigger event hoffers
    have hsame := hoffers.2
    rw [hevent trigger (hkinds trigger hoffers.1), Option.some.injEq] at hsame
    exact Or.inr (List.mem_singleton.mpr hsame.symm)

theorem advances_returned (i : Incident) (now : Timestamp) : i.Advances (i.returned now) := by
  unfold returned
  split
  · exact advances_turn rfl rfl rfl (Or.inl ⟨rfl, by decide⟩)
  split
  · exact advances_turn rfl rfl rfl (Or.inl ⟨rfl, by decide⟩)
  · exact .refl i

theorem advances_escalate (i : Incident) (now : Timestamp) (severity : Severity) :
    i.Advances (i.escalate now severity) := by
  unfold escalate
  split
  · have hraised : i.Advances { i with severity := severity } := .of_frame rfl rfl rfl rfl
    exact hraised.trans (advances_record _ now _ _)
  · exact .refl i

theorem advances_refresh (i : Incident) (now : Timestamp) (ds : List Diagnosis) :
    i.Advances (i.refresh now ds) := by
  have hmerge : ∀ i : Incident, i.Advances (ds.foldl mergeDiagnosis { i with diagnoses := [] }) := by
    intro i
    obtain ⟨hid, hf, -, hstatus, -, -, htimeline⟩ := mergeDiagnosis_frame ds { i with diagnoses := [] }
    exact .of_frame hid hf hstatus htimeline
  unfold refresh
  dsimp only
  split
  · exact (advances_record i now _ _).trans (hmerge _)
  · exact hmerge i

/-- **Every operation** offers nothing anew but the events it records. -/
theorem advances_live (i : Incident) (operation : Operation) : i.Advances (i.live operation) := by
  cases operation with
  | diagnosed returnedAt escalatedAt refreshedAt severity diagnoses =>
    exact ((advances_returned i returnedAt).trans (advances_escalate _ escalatedAt severity)).trans
      (advances_refresh _ refreshedAt diagnoses)
  | undiagnosed now rootRecovered fullyRecovered =>
    unfold live undiagnosed
    dsimp only
    split
    · split
      · exact advances_turn rfl rfl rfl (Or.inr (Or.inr ⟨rfl, by decide⟩))
      split
      · exact advances_turn rfl rfl rfl (Or.inr (Or.inl ⟨rfl, by decide⟩))
      split
      · exact advances_turn rfl rfl rfl (Or.inl ⟨rfl, by decide⟩)
      · exact .refl i
    · exact .refl i

theorem advances_foldl_live (operations : List Operation) :
    ∀ i : Incident, i.Advances (operations.foldl live i) := by
  induction operations with
  | nil => intro i; exact .refl i
  | cons operation operations ih => intro i; exact (advances_live i operation).trans (ih _)

/-! ### Keys -/

section Keys

variable (newV5 : Uuid → String → Uuid) (toRfc3339 : Timestamp → String)

/-- The text that identifies an event. -/
def eventText (event : TimelineEvent) : String :=
  toRfc3339 event.at_ ++ ":" ++ event.kind ++ ":" ++ event.detail

/-- The key of an event offered under a trigger. -/
def offerKey (i : Incident) (trigger : Trigger) (event : TimelineEvent) : String :=
  i.fingerprint ++ ":event:" ++ i.id.toText ++ ":" ++ (newV5 i.id (eventText toRfc3339 event)).toText ++
    ":" ++ trigger.asStr

variable {newV5 toRfc3339}

theorem deduplicationKey_forIncident {trigger : Trigger} {event : TimelineEvent}
    (h : eventFor i trigger = some event) :
    (forIncident newV5 toRfc3339 i trigger).deduplicationKey = offerKey newV5 toRfc3339 i trigger event := by
  rw [Notification.deduplicationKey, forIncident, offerKey]
  simp only [eventIdentity, h, eventText]

/-- The keys of an incident are those of the events it offers. -/
theorem mem_notificationKeys (he : i.Evented) {key : String} :
    key ∈ notificationKeys newV5 toRfc3339 i ↔
      ∃ trigger event, i.Offers trigger event ∧ key = offerKey newV5 toRfc3339 i trigger event := by
  rw [notificationKeys, notificationsForIncident, List.map_map, List.mem_map]
  constructor
  · rintro ⟨trigger, htrigger, rfl⟩
    obtain ⟨event, hevent⟩ := Option.isSome_iff_exists.mp (he trigger htrigger)
    exact ⟨trigger, event, ⟨htrigger, hevent⟩, deduplicationKey_forIncident hevent⟩
  · rintro ⟨trigger, event, ⟨htrigger, hevent⟩, rfl⟩
    exact ⟨trigger, htrigger, deduplicationKey_forIncident hevent⟩

/-- What stands before the first of a character, and what stands after it. -/
theorem append_cons_inj {c : Char} {x x' y y' : List Char} (hx : c ∉ x) (hx' : c ∉ x')
    (h : x ++ c :: y = x' ++ c :: y') : x = x' ∧ y = y' := by
  have hfront : ∀ {x y : List Char}, c ∉ x → (x ++ c :: y).takeWhile (· ≠ c) = x := by
    intro x y hx
    have hne : ∀ a ∈ x, decide (a ≠ c) = true := by
      intro a ha
      rw [decide_eq_true_iff]
      rintro rfl
      exact hx ha
    rw [List.takeWhile_append_of_pos hne, List.takeWhile_cons_of_neg (by simp), List.append_nil]
  obtain rfl : x = x' := by rw [← hfront (y := y) hx, h, hfront hx']
  exact ⟨rfl, List.cons_inj_right c |>.mp (List.append_cancel_left h)⟩

theorem Trigger.asStr_injective : Function.Injective Trigger.asStr := by
  intro a b h
  cases a <;> cases b <;> first | rfl | exact absurd h (by decide)

/-- The key of an offer tells its trigger and its event. -/
theorem offerKey_inj {trigger trigger' : Trigger} {event event' : TimelineEvent} (hid : j.id = i.id)
    (hfingerprint : j.fingerprint = i.fingerprint)
    (h : offerKey newV5 toRfc3339 i trigger event = offerKey newV5 toRfc3339 j trigger' event') :
    trigger = trigger' ∧
      newV5 i.id (eventText toRfc3339 event) = newV5 i.id (eventText toRfc3339 event') := by
  have hcolon : ∀ u : Uuid, ':' ∉ u.toText.toList := notMem_toText (by decide) (by decide)
  rw [offerKey, offerKey, hid, hfingerprint] at h
  have hlist := congrArg String.toList h
  simp only [String.toList_append, List.append_assoc, List.append_cancel_left_eq,
    show ":".toList = [':'] from rfl, List.singleton_append] at hlist
  obtain ⟨hevent, htrigger⟩ := append_cons_inj (hcolon _) (hcolon _) (List.cons_inj_right _ |>.mp hlist)
  refine ⟨Trigger.asStr_injective (String.toList_inj.mp htrigger), ?_⟩
  exact Uuid.toText_injective (String.toList_inj.mp hevent)

/-- The text of an event tells when it happened. -/
theorem at_of_eventText {event event' : TimelineEvent}
    (hends : ∀ e ∈ [event, event'], ∃ body, toRfc3339 e.at_ = body ++ "Z" ∧ 'Z' ∉ body.toList)
    (h : eventText toRfc3339 event = eventText toRfc3339 event') :
    toRfc3339 event.at_ = toRfc3339 event'.at_ := by
  obtain ⟨body, hbody, hz⟩ := hends event (by simp)
  obtain ⟨body', hbody', hz'⟩ := hends event' (by simp)
  have hlist := congrArg String.toList h
  simp only [eventText, hbody, hbody', String.toList_append, List.append_assoc,
    show "Z".toList = ['Z'] from rfl, List.singleton_append] at hlist
  rw [hbody, hbody', String.toList_inj.mp (append_cons_inj hz hz' hlist).1]

/-- What the identities of events rest on: the text of a time ends with its only `Z` and
tells the time, and no two texts have the same identifier. -/
structure Identified (newV5 : Uuid → String → Uuid) (toRfc3339 : Timestamp → String) (id : Uuid)
    (timeline : List TimelineEvent) : Prop where
  ends : ∀ e ∈ timeline, ∃ body, toRfc3339 e.at_ = body ++ "Z" ∧ 'Z' ∉ body.toList
  times : ∀ e ∈ timeline, ∀ e' ∈ timeline, toRfc3339 e.at_ = toRfc3339 e'.at_ → e.at_ = e'.at_
  texts : ∀ e ∈ timeline, ∀ e' ∈ timeline,
    newV5 id (eventText toRfc3339 e) = newV5 id (eventText toRfc3339 e') →
      eventText toRfc3339 e = eventText toRfc3339 e'

/-- Events with one identity happened at one time. -/
theorem Identified.at_eq {id : Uuid} {timeline : List TimelineEvent}
    (h : Identified newV5 toRfc3339 id timeline) {e e' : TimelineEvent} (he : e ∈ timeline)
    (he' : e' ∈ timeline)
    (hsame : newV5 id (eventText toRfc3339 e) = newV5 id (eventText toRfc3339 e')) : e.at_ = e'.at_ := by
  refine h.times e he e' he' (at_of_eventText ?_ (h.texts e he e' he' hsame))
  intro event hevent
  simp only [List.mem_cons, List.not_mem_nil, or_false] at hevent
  rcases hevent with rfl | rfl
  · exact h.ends event he
  · exact h.ends event he'

/-- **A key no longer offered does not return.** -/
theorem Advances.never_again {k : Incident} (hfirst : i.Advances j) (hthen : j.Advances k)
    (he : i.Evented) (hclock : k.timeline.Pairwise fun e e' => e.at_ < e'.at_)
    (hidentified : Identified newV5 toRfc3339 i.id k.timeline) {key : String}
    (hoffered : key ∈ notificationKeys newV5 toRfc3339 i)
    (hdropped : key ∉ notificationKeys newV5 toRfc3339 j) :
    key ∉ notificationKeys newV5 toRfc3339 k := by
  intro hagain
  have hej := hfirst.evented he
  obtain ⟨trigger, event, hoffers, rfl⟩ := (mem_notificationKeys he).mp hoffered
  obtain ⟨trigger', event', hoffers', hkey⟩ := (mem_notificationKeys (hthen.evented hej)).mp hagain
  obtain ⟨recorded, htimeline, -⟩ := hfirst.news
  obtain ⟨recorded', htimeline', hnews⟩ := hthen.news
  obtain ⟨rfl, hsame⟩ := offerKey_inj (hthen.id.trans hfirst.id)
    (hthen.fingerprint.trans hfirst.fingerprint) hkey
  rcases hnews _ _ hoffers' with hbefore | hmem
  · -- it was offered in between
    refine hdropped ((mem_notificationKeys hej).mpr ⟨trigger, event', hbefore, ?_⟩)
    rw [hkey, offerKey, offerKey, hthen.id, hthen.fingerprint]
  · -- it is an event of a later time
    have hevent : event ∈ j.timeline := by
      rw [htimeline]
      exact List.mem_append_left _ hoffers.mem
    have hlater : event.at_ < event'.at_ := by
      rw [htimeline'] at hclock
      exact (List.pairwise_append.mp hclock).2.2 event hevent event' hmem
    have hwithin : event ∈ k.timeline := by
      rw [htimeline']
      exact List.mem_append_left _ hevent
    exact hlater.ne (hidentified.at_eq hwithin hoffers'.mem hsame)

/-- No two messages of an incident have the same key. -/
theorem nodup_notificationKeys (he : i.Evented) : (notificationKeys newV5 toRfc3339 i).Nodup := by
  have htriggers : (triggersOf i).Nodup := by
    rw [triggersOf]
    cases i.status with
    | opened | acknowledged =>
      simp only [List.filter_cons, List.filter_nil]
      split <;> split <;> decide
    | _ => simp
  rw [notificationKeys, notificationsForIncident, List.map_map]
  refine htriggers.map_on fun trigger htrigger trigger' htrigger' hkey => ?_
  obtain ⟨event, hevent⟩ := Option.isSome_iff_exists.mp (he trigger htrigger)
  obtain ⟨event', hevent'⟩ := Option.isSome_iff_exists.mp (he trigger' htrigger')
  rw [Function.comp, Function.comp, deduplicationKey_forIncident hevent,
    deduplicationKey_forIncident hevent'] at hkey
  exact (offerKey_inj rfl rfl hkey).1

end Keys

/-! ### The whole life -/

/-- An event of a kind occurred since the incident was last opened, reopened or failed to
recover. -/
def OccurredSince (timeline : List TimelineEvent) (kind : String) : Prop :=
  ∃ before start after, timeline = before ++ start :: after ∧ start.kind ∈ Trigger.opened.kinds ∧
    (∀ event ∈ after, event.kind ∉ Trigger.opened.kinds) ∧ ∃ event ∈ after, event.kind = kind

/-- The current outage is what follows the last opening. -/
theorem outage_eq {before after : List TimelineEvent} {start : TimelineEvent}
    (hstart : start.kind ∈ Trigger.opened.kinds)
    (hafter : ∀ event ∈ after, event.kind ∉ Trigger.opened.kinds) :
    outage (before ++ start :: after) = after.reverse := by
  rw [outage, List.reverse_append, List.reverse_cons, List.append_assoc, List.singleton_append,
    List.takeWhile_append_of_pos, List.takeWhile_cons_of_neg (by simpa using hstart), List.append_nil]
  intro event hevent
  exact decide_eq_true (hafter event (List.mem_reverse.mp hevent))

/-- Where an incident was opened, it was opened last at some place. -/
theorem exists_last_opening {timeline : List TimelineEvent}
    (h : ∃ event ∈ timeline, event.kind ∈ Trigger.opened.kinds) :
    ∃ before start after, timeline = before ++ start :: after ∧ start.kind ∈ Trigger.opened.kinds ∧
      ∀ event ∈ after, event.kind ∉ Trigger.opened.kinds := by
  induction timeline using List.reverseRecOn with
  | nil =>
    obtain ⟨event, hevent, -⟩ := h
    cases hevent
  | append_singleton timeline last ih =>
    by_cases hlast : last.kind ∈ Trigger.opened.kinds
    · exact ⟨timeline, last, [], rfl, hlast, by simp⟩
    · obtain ⟨event, hevent, hkind⟩ := h
      have hearlier : event ∈ timeline := by
        rcases List.mem_append.mp hevent with hevent | hevent
        · exact hevent
        · rw [List.mem_singleton.mp hevent] at hkind
          exact absurd hkind hlast
      obtain ⟨before, start, after, rfl, hstart, hafter⟩ := ih ⟨event, hearlier, hkind⟩
      refine ⟨before, start, after ++ [last], by simp, hstart, fun event hevent => ?_⟩
      rcases List.mem_append.mp hevent with hevent | hevent
      · exact hafter event hevent
      · rwa [List.mem_singleton.mp hevent]

theorem any_outage_iff {timeline : List TimelineEvent} {kind : String}
    (h : ∃ event ∈ timeline, event.kind ∈ Trigger.opened.kinds) :
    ((outage timeline).any fun event => event.kind = kind) = true ↔ OccurredSince timeline kind := by
  constructor
  · intro hany
    obtain ⟨before, start, after, rfl, hstart, hafter⟩ := exists_last_opening h
    rw [outage_eq hstart hafter, List.any_reverse, List.any_eq_true] at hany
    obtain ⟨event, hevent, hkind⟩ := hany
    exact ⟨before, start, after, rfl, hstart, hafter, event, hevent, of_decide_eq_true hkind⟩
  · rintro ⟨before, start, after, rfl, hstart, hafter, event, hevent, hkind⟩
    rw [outage_eq hstart hafter, List.any_reverse, List.any_eq_true]
    exact ⟨event, hevent, decide_eq_true hkind⟩

/-- An incident begins open, with its opening recorded. -/
theorem opening_spec (opening : Opening) :
    opening.incident.id = opening.id ∧ opening.incident.status = .opened ∧
      ∃ event ∈ opening.incident.timeline, event.kind = "opened" := by
  have hadd : ∀ (added : List (Timestamp × Diagnosis)) (i : Incident),
      let after := added.foldl (fun i entry => i.addDiagnosis entry.1 entry.2) i
      after.id = i.id ∧ after.status = i.status ∧ i.timeline <+: after.timeline := by
    intro added
    induction added with
    | nil => intro i; exact ⟨rfl, rfl, List.prefix_rfl⟩
    | cons entry added ih =>
      intro i
      obtain ⟨hid, hstatus, htimeline⟩ := ih (i.addDiagnosis entry.1 entry.2)
      exact ⟨hid, hstatus, (List.prefix_append _ _).trans htimeline⟩
  obtain ⟨hid, hstatus, htimeline⟩ := hadd opening.added _
  exact ⟨hid, hstatus, _, htimeline.subset (List.mem_singleton.mpr rfl), rfl⟩

/-- What happened in the current outage is on the timeline. -/
theorem evented_opening (opening : Opening) : opening.incident.Evented := by
  obtain ⟨-, hstatus, opened, hopened, hkind⟩ := opening_spec opening
  have hsome : ∀ {trigger : Trigger} {event : TimelineEvent}, event ∈ opening.incident.timeline →
      event.kind ∈ trigger.kinds → (eventFor opening.incident trigger).isSome := by
    intro trigger event hevent hkind
    rw [eventFor, List.find?_isSome]
    exact ⟨event, List.mem_reverse.mpr hevent, decide_eq_true hkind⟩
  have houtage : ∀ {event : TimelineEvent}, event ∈ outage opening.incident.timeline →
      event ∈ opening.incident.timeline := by
    intro event hevent
    exact List.mem_reverse.mp ((List.takeWhile_sublist _).subset hevent)
  intro trigger htrigger
  rw [mem_triggersOf, hstatus] at htrigger
  rcases htrigger with ⟨h, -⟩ | ⟨h, -⟩ | ⟨-, rfl | ⟨rfl, h⟩ | ⟨rfl, h⟩⟩
  · cases h
  · cases h
  · exact hsome hopened (by rw [hkind]; decide)
  · obtain ⟨event, hevent, hkind⟩ := List.any_eq_true.mp h
    exact hsome (houtage hevent) (by rw [of_decide_eq_true hkind]; decide)
  · obtain ⟨event, hevent, hkind⟩ := List.any_eq_true.mp h
    exact hsome (houtage hevent) (by rw [of_decide_eq_true hkind]; decide)

/-- **The candidates over the life of an incident**, whose events have increasing times.
A resolved incident offers its resolution and a recovering one its recovery; an open one
offers its opening once, and an escalation or a change of diagnosis exactly if there was
one since.  The keys are distinct, and a key that is no longer offered does not return. -/
theorem lived_candidates (newV5 : Uuid → String → Uuid) (toRfc3339 : Timestamp → String)
    (opening : Opening) (operations : List Operation)
    (hclock : (lived opening operations).timeline.Pairwise fun e e' => e.at_ < e'.at_)
    (hidentified : Identified newV5 toRfc3339 opening.id (lived opening operations).timeline) :
    let i := lived opening operations
    let candidates := (notificationsForIncident newV5 toRfc3339 i).map Notification.trigger
    (i.status = .resolved → candidates = [.resolved]) ∧
    (i.status = .recovering → candidates = [.recovering]) ∧
    (i.status = .opened ∨ i.status = .acknowledged → candidates.Nodup ∧ .opened ∈ candidates ∧
      (.escalated ∈ candidates ↔ OccurredSince i.timeline "severity_escalated") ∧
      (.diagnosisChanged ∈ candidates ↔ OccurredSince i.timeline "diagnosis_changed") ∧
      .recovering ∉ candidates ∧ .resolved ∉ candidates) ∧
    (notificationKeys newV5 toRfc3339 i).Nodup ∧
    ∀ first more last, operations = first ++ more ++ last →
      ∀ key ∈ notificationKeys newV5 toRfc3339 (lived opening first),
        key ∉ notificationKeys newV5 toRfc3339 (lived opening (first ++ more)) →
        key ∉ notificationKeys newV5 toRfc3339 i := by
  intro i candidates
  obtain ⟨hid, -, opened, hopened, hkind⟩ := opening_spec opening
  have hadvances : opening.incident.Advances i := advances_foldl_live operations opening.incident
  have hevented : i.Evented := hadvances.evented (evented_opening opening)
  have hcandidates : candidates = triggersOf i := by
    change ((triggersOf i).map (forIncident newV5 toRfc3339 i)).map Notification.trigger = triggersOf i
    rw [List.map_map]
    exact List.map_id _
  have hopen : ∃ event ∈ i.timeline, event.kind ∈ Trigger.opened.kinds := by
    obtain ⟨recorded, htimeline, -⟩ := hadvances.news
    refine ⟨opened, ?_, by rw [hkind]; decide⟩
    rw [htimeline]
    exact List.mem_append_left _ hopened
  rw [hcandidates]
  refine ⟨fun hstatus => ?_, fun hstatus => ?_, fun hstatus => ?_, nodup_notificationKeys hevented, ?_⟩
  · rw [triggersOf, hstatus]
  · rw [triggersOf, hstatus]
  · have hnot : i.status ≠ .resolved ∧ i.status ≠ .recovering := by
      rcases hstatus with h | h <;> rw [h] <;> decide
    refine ⟨?_, ?_, ?_, ?_, ?_, ?_⟩
    · have hkeys : (notificationKeys newV5 toRfc3339 i).Nodup := nodup_notificationKeys hevented
      rw [notificationKeys, notificationsForIncident, List.map_map] at hkeys
      exact hkeys.of_map _
    all_goals
      rw [mem_triggersOf]
      simp [hstatus, hnot, any_outage_iff hopen]
  · rintro first more last rfl key hoffered hdropped
    have hsplit : ∀ a b, lived opening (a ++ b) = b.foldl live (lived opening a) := by
      intro a b
      rw [lived, List.foldl_append]
      rfl
    have hfirst : (lived opening first).Advances (lived opening (first ++ more)) := by
      rw [hsplit]
      exact advances_foldl_live _ _
    have hthen : (lived opening (first ++ more)).Advances i := by
      rw [show i = _ from hsplit (first ++ more) last]
      exact advances_foldl_live _ _
    have hbegun : opening.incident.Advances (lived opening first) := advances_foldl_live _ _
    refine hfirst.never_again hthen (hbegun.evented (evented_opening opening)) hclock ?_ hoffered hdropped
    rwa [hbegun.id, hid]

/-- An incident resolved and back again within three microseconds. -/
theorem lived_candidates_reopened :
    let newV5 : Uuid → String → Uuid := fun _ text =>
      if text = "1970-01-01T00:00:00.000000Z:opened:severity warning" then
        ⟨0x7ec900a1e5eb5551987b7a43e1d20ba3⟩
      else if text = "1970-01-01T00:00:00.000001Z:resolved:all involved entities recovered" then
        ⟨0xdea121da6560500e8430c76a4d31a295⟩
      else ⟨0x1f27f19c7a45556f9916f6f0da11dff8⟩
    let toRfc3339 : Timestamp → String := fun t =>
      "1970-01-01T00:00:00.00000" ++ (if t = 0 then "0" else if t = 1 then "1" else "2") ++ "Z"
    let opening : Opening := ⟨⟨7⟩, "cause:1", .warning, 0, 0, []⟩
    let operations : List Operation := [.undiagnosed 1 true true, .diagnosed 2 2 2 .warning []]
    (lived opening operations).status = .opened ∧
      ∀ key ∈ notificationKeys newV5 toRfc3339 (lived opening []),
        key ∉ notificationKeys newV5 toRfc3339 (lived opening (operations.take 1)) →
        key ∉ notificationKeys newV5 toRfc3339 (lived opening operations) := by
  intro newV5 toRfc3339 opening operations
  have htimeline : (lived opening operations).timeline = [⟨0, "opened", "severity warning"⟩,
      ⟨1, "resolved", "all involved entities recovered"⟩, ⟨2, "reopened", "the fault returned"⟩] := by
    decide +kernel
  have hidentified : Identified newV5 toRfc3339 opening.id (lived opening operations).timeline := by
    rw [htimeline]
    refine ⟨fun e _ => ⟨_, rfl, ?_⟩, by decide +kernel, by decide +kernel⟩
    rw [String.toList_append, List.mem_append]
    refine not_or.mpr ⟨by decide, ?_⟩
    split
    · decide
    · split <;> decide
  obtain ⟨-, -, -, -, hnever⟩ := lived_candidates newV5 toRfc3339 opening operations
    (by rw [htimeline]; decide +kernel) hidentified
  exact ⟨by decide +kernel, hnever [] [.undiagnosed 1 true true] [.diagnosed 2 2 2 .warning []] rfl⟩

end Incident

end Sentinel
