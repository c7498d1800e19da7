import Sentinel.Incident.Lifecycle
import Sentinel.Notification.Basic

/-!
# Incidents that go on alike

What becomes of an incident depends on its status, its severity, its times, on what it
collected as sets, and on the types of its diagnoses.  What is announced about it depends
on the events of its timeline that some trigger announces.  Two incidents that agree on
all this go on alike, whatever is diagnosed and whatever the verdicts are; their
identifiers matter to the keys of notifications only.

## Main definitions

* `announced` — the events that triggers announce.
* `Incident.Alike` — two incidents that agree but for their identifiers and orders.
* `IncidentEngine.Resumed` — an engine, and another one that resumed from it.
* `IncidentUpdate.Agree` — two updates that report the same.

## Main results

* `Incident.Alike.keys` — alike incidents have the same notification keys.
* `IncidentEngine.Resumed.reconcile`, `IncidentEngine.Resumed.agree` — a reconciliation
  keeps the relation, and reports the same.
-/

namespace Sentinel

/-! ### What is announced -/

/-- Whether some trigger announces an event. -/
def announced (event : TimelineEvent) : Bool :=
  [Trigger.opened, .escalated, .diagnosisChanged, .recovering, .resolved].any fun trigger =>
    event.kind ∈ trigger.kinds

theorem announced_of_mem_kinds {event : TimelineEvent} {trigger : Trigger}
    (h : event.kind ∈ trigger.kinds) : announced event = true := by
  refine List.any_eq_true.mpr ⟨trigger, ?_, decide_eq_true h⟩
  cases trigger <;> decide

/-- The event of a trigger is the last one announced. -/
theorem eventFor_eq (i : Incident) (trigger : Trigger) :
    eventFor i trigger = (i.timeline.filter announced).reverse.find? fun event =>
      event.kind ∈ trigger.kinds := by
  rw [eventFor, ← List.filter_reverse, List.find?_filter]
  refine congrArg (fun p => i.timeline.reverse.find? p) (funext fun event => decide_eq_decide.mpr ?_)
  exact ⟨fun h => ⟨announced_of_mem_kinds h, decide_eq_true h⟩, fun h => of_decide_eq_true h.2⟩

/-- The events since the current outage began, the latest first. -/
def outage (timeline : List TimelineEvent) : List TimelineEvent :=
  timeline.reverse.takeWhile fun event => event.kind ∉ Trigger.opened.kinds

theorem outage_concat (timeline : List TimelineEvent) (event : TimelineEvent) :
    outage (timeline ++ [event]) =
      if event.kind ∈ Trigger.opened.kinds then [] else event :: outage timeline := by
  rw [outage, List.reverse_append, List.reverse_singleton, List.singleton_append, List.takeWhile_cons]
  by_cases h : event.kind ∈ Trigger.opened.kinds
  · simp [h]
  · simp [h, outage]

/-- Where on a timeline the current outage began. -/
def began (timeline : List TimelineEvent) : Option ℕ :=
  (timeline.zipIdx.reverse.find? fun entry => entry.1.kind ∈ Trigger.opened.kinds).map Prod.snd

theorem began_concat (timeline : List TimelineEvent) (event : TimelineEvent) :
    began (timeline ++ [event]) =
      if event.kind ∈ Trigger.opened.kinds then some timeline.length else began timeline := by
  rw [began, List.zipIdx_append, Nat.zero_add, List.zipIdx_singleton, List.reverse_append,
    List.reverse_singleton, List.singleton_append, List.find?_cons]
  split
  · next h => rw [if_pos (of_decide_eq_true h)]; rfl
  · next h => rw [if_neg (of_decide_eq_false h)]; rfl

theorem began_lt (timeline : List TimelineEvent) : ∀ n ∈ began timeline, n < timeline.length := by
  induction timeline using List.reverseRecOn with
  | nil =>
    intro n hn
    cases hn
  | append_singleton timeline event ih =>
    intro n hn
    rw [began_concat] at hn
    rw [List.length_append, List.length_singleton]
    split at hn
    · obtain rfl : timeline.length = n := Option.some.inj hn
      omega
    · exact Nat.lt_succ_of_lt (ih n hn)

/-- An event belongs to the current outage if none has opened the incident since. -/
theorem sinceLifecycle_eq (i : Incident) {kind : String} (hkind : kind ∉ Trigger.opened.kinds) :
    sinceLifecycle i kind = (outage i.timeline).any fun event => event.kind = kind := by
  change (i.timeline.zipIdx.any fun entry =>
    entry.1.kind = kind && (began i.timeline).all fun start => start ≤ entry.2) = _
  induction i.timeline using List.reverseRecOn with
  | nil => rfl
  | append_singleton timeline event ih =>
    rw [outage_concat, began_concat, List.zipIdx_append, Nat.zero_add, List.zipIdx_singleton,
      List.any_append]
    split
    · next hopened =>
      -- nothing earlier belongs to the outage this event begins
      have hne : event.kind ≠ kind := fun h => hkind (h ▸ hopened)
      rw [List.any_nil, Bool.or_eq_false_iff]
      refine ⟨List.any_eq_false.mpr fun entry hentry hall => ?_, by simp [hne]⟩
      have hlt := (List.mem_zipIdx hentry).2.1
      simp only [Option.all_some, Bool.and_eq_true, decide_eq_true_iff] at hall
      omega
    · have hall : ((began timeline).all fun start => start ≤ timeline.length) = true :=
        (Option.all_eq_true _ _).mpr fun n hn => decide_eq_true (began_lt timeline n hn).le
      rw [ih, List.any_cons, Bool.or_comm]
      simp [hall]

/-- Where every event that opens an incident is kept, so is the current outage. -/
theorem outage_filter (timeline : List TimelineEvent) :
    outage (timeline.filter announced) = (outage timeline).filter announced := by
  induction timeline using List.reverseRecOn with
  | nil => rfl
  | append_singleton timeline event ih =>
    rw [List.filter_append, outage_concat]
    by_cases hopened : event.kind ∈ Trigger.opened.kinds
    · rw [List.filter_singleton, announced_of_mem_kinds hopened, cond_true, outage_concat, if_pos hopened,
        if_pos hopened]
      rfl
    · rw [if_neg hopened]
      cases hannounced : announced event with
      | true =>
        rw [List.filter_singleton, hannounced, cond_true, outage_concat, if_neg hopened,
          List.filter_cons_of_pos hannounced, ih]
      | false =>
        rw [List.filter_singleton, hannounced, cond_false, List.append_nil, ih,
          List.filter_cons_of_neg (by rw [hannounced]; decide)]

theorem sinceLifecycle_filter (i : Incident) {trigger : Trigger} {kind : String}
    (hkind : kind ∉ Trigger.opened.kinds) (htrigger : kind ∈ trigger.kinds) :
    sinceLifecycle i kind = (outage (i.timeline.filter announced)).any fun event => event.kind = kind := by
  rw [sinceLifecycle_eq i hkind, outage_filter, List.any_filter]
  refine congrArg (fun p => (outage i.timeline).any p) (funext fun event => ?_)
  rw [Bool.eq_iff_iff, Bool.and_eq_true, decide_eq_true_iff]
  exact ⟨fun h => ⟨announced_of_mem_kinds (h ▸ htrigger), h⟩, fun h => h.2⟩

/-! ### Alike incidents -/

section Keys

variable (newV5 : Uuid → String → Uuid) (toRfc3339 : Timestamp → String)

/-- The deduplication keys of the current candidates. -/
def notificationKeys (i : Incident) : List String :=
  (notificationsForIncident newV5 toRfc3339 i).map Notification.deduplicationKey

end Keys

namespace Incident

variable {i j : Incident} {told : Prop} {now : Timestamp}

/-- Two incidents that agree on all that decides how they go on.  The order of what they
collected may differ, and unless it is `told` otherwise their identifiers and what their
timelines announce. -/
structure Alike (told : Prop) (i j : Incident) : Prop where
  fingerprint : j.fingerprint = i.fingerprint
  status : j.status = i.status
  severity : j.severity = i.severity
  startedAt : j.startedAt = i.startedAt
  endedAt : j.endedAt = i.endedAt
  affected : j.affectedEntities.Perm i.affectedEntities
  roots : j.suspectedRootEntities.Perm i.suspectedRootEntities
  evidence : j.evidence.Perm i.evidence
  types : typeNames j.diagnoses = typeNames i.diagnoses
  id : told → j.id = i.id
  timeline : told → j.timeline.filter announced = i.timeline.filter announced

theorem Alike.mono {told' : Prop} (h : Alike told i j) (htold : told' → told) : Alike told' i j :=
  { h with
    id := fun ht => h.id (htold ht)
    timeline := fun ht => h.timeline (htold ht) }

/-- **Alike incidents have the same notification keys.** -/
theorem Alike.keys (h : Alike told i j) (htold : told) (newV5 : Uuid → String → Uuid)
    (toRfc3339 : Timestamp → String) :
    notificationKeys newV5 toRfc3339 j = notificationKeys newV5 toRfc3339 i := by
  have htimeline := h.timeline htold
  have hevent : ∀ trigger, eventFor j trigger = eventFor i trigger := by
    intro trigger
    rw [eventFor_eq, eventFor_eq, htimeline]
  have hsince : ∀ (trigger : Trigger) (kind : String), kind ∉ Trigger.opened.kinds →
      kind ∈ trigger.kinds → sinceLifecycle j kind = sinceLifecycle i kind := by
    intro trigger kind hkind htrigger
    rw [sinceLifecycle_filter j hkind htrigger, sinceLifecycle_filter i hkind htrigger, htimeline]
  have htriggers : triggersOf j = triggersOf i := by
    have hescalated := hsince .escalated "severity_escalated" (by decide) (by decide)
    have hchanged := hsince .diagnosisChanged "diagnosis_changed" (by decide) (by decide)
    simp only [triggersOf, h.status, List.filter_cons, List.filter_nil, hescalated, hchanged]
  have hnotification : forIncident newV5 toRfc3339 j = forIncident newV5 toRfc3339 i := by
    funext trigger
    simp only [forIncident, eventIdentity, hevent, h.id htold, h.fingerprint, h.severity, h.startedAt]
  rw [notificationKeys, notificationKeys, notificationsForIncident, notificationsForIncident,
    htriggers, hnotification]

/-! ### Operations on alike incidents -/

theorem extend_perm {α : Type*} [DecidableEq α] (more : List α) :
    ∀ {held held' : List α}, held'.Perm held → (extend held' more).Perm (extend held more) := by
  induction more with
  | nil => intro held held' h; exact h
  | cons a more ih =>
    intro held held' h
    apply ih
    simp only [h.mem_iff]
    split
    · exact h
    · exact h.append_right [a]

theorem retain_perm (more : List ObservationId) :
    ∀ {held held' : List ObservationId}, held'.Perm held → (retain held' more).Perm (retain held more) := by
  induction more with
  | nil => intro held held' h; exact h
  | cons a more ih =>
    intro held held' h
    apply ih
    simp only [h.mem_iff, h.length_eq]
    split
    · exact h
    · exact h.append_right [a]

theorem Alike.record (h : Alike told i j) (now : Timestamp) (kind detail : String) :
    Alike told (i.record now kind detail) (j.record now kind detail) := by
  have htimeline : told → (j.record now kind detail).timeline.filter announced =
      (i.record now kind detail).timeline.filter announced := by
    intro htold
    change (j.timeline ++ _).filter announced = (i.timeline ++ _).filter announced
    rw [List.filter_append, List.filter_append, h.timeline htold]
  exact { h with timeline := htimeline }

theorem Alike.withStatus (h : Alike told i j) (status : IncidentStatus) :
    Alike told { i with status := status } { j with status := status } :=
  { h with status := rfl }

theorem Alike.withEnd (h : Alike told i j) (endedAt : Option Timestamp) :
    Alike told { i with endedAt := endedAt } { j with endedAt := endedAt } :=
  { h with endedAt := rfl }

theorem Alike.withSeverity (h : Alike told i j) (severity : Severity) :
    Alike told { i with severity := severity } { j with severity := severity } :=
  { h with severity := rfl }

theorem Alike.merge (ds : List Diagnosis) :
    ∀ {i j : Incident}, Alike told i j → j.diagnoses = i.diagnoses →
      Alike told (ds.foldl mergeDiagnosis i) (ds.foldl mergeDiagnosis j) := by
  induction ds with
  | nil => intro i j h _; exact h
  | cons d ds ih =>
    intro i j h hdiagnoses
    refine ih ?_ (congrArg (· ++ [d]) hdiagnoses)
    exact { h with
      affected := extend_perm _ h.affected
      roots := extend_perm _ h.roots
      evidence := retain_perm _ h.evidence
      types := congrArg (fun diagnoses => typeNames (diagnoses ++ [d])) hdiagnoses }

theorem Alike.refresh (h : Alike told i j) (now : Timestamp) (ds : List Diagnosis) :
    Alike told (i.refresh now ds) (j.refresh now ds) := by
  have hmerged : ∀ {i j : Incident}, Alike told i j →
      Alike told (ds.foldl mergeDiagnosis { i with diagnoses := [] })
        (ds.foldl mergeDiagnosis { j with diagnoses := [] }) := by
    intro i j h
    exact Alike.merge ds { h with types := rfl } rfl
  unfold Incident.refresh
  rw [h.types]
  dsimp only
  split
  · exact hmerged (h.record now _ _)
  · exact hmerged h

theorem Alike.escalate (h : Alike told i j) (now : Timestamp) (severity : Severity) :
    Alike told (i.escalate now severity) (j.escalate now severity) := by
  unfold Incident.escalate
  rw [h.severity]
  split
  · exact (h.withSeverity severity).record now _ _
  · exact h

theorem Alike.returned (h : Alike told i j) (now : Timestamp) :
    Alike told (i.returned now) (j.returned now) := by
  unfold Incident.returned
  rw [h.status]
  split
  · exact (h.withStatus .opened).record now _ _
  split
  · exact ((h.withStatus .opened).withEnd none).record now _ _
  · exact h

/-- New incidents differ in their identifiers only. -/
theorem alike_openFrom (now : Timestamp) (id id' : Uuid) (f : String) (severity : Severity)
    (ds : List Diagnosis) :
    Alike False (openFrom now id f severity ds) (openFrom now id' f severity ds) := by
  have hadd : ∀ (ds : List Diagnosis) {i j : Incident}, Alike False i j → j.diagnoses = i.diagnoses →
      Alike False (ds.foldl (addDiagnosis now) i) (ds.foldl (addDiagnosis now) j) := by
    intro ds
    induction ds with
    | nil => intro i j h _; exact h
    | cons d ds ih =>
      intro i j h hdiagnoses
      exact ih (Alike.merge [d] (h.record now _ _) hdiagnoses) (congrArg (· ++ [d]) hdiagnoses)
  refine hadd ds ?_ rfl
  exact ⟨rfl, rfl, rfl, rfl, rfl, .rfl, .rfl, .rfl, rfl, False.elim, False.elim⟩

theorem Alike.withinReopenWindow (h : Alike told i j) :
    j.withinReopenWindow now = i.withinReopenWindow now := by
  rw [Incident.withinReopenWindow, Incident.withinReopenWindow, h.endedAt]

/-- **The first pass** at alike incidents: both go on, or both are replaced. -/
theorem Alike.diagnosed (h : Alike told i j) (now : Timestamp) (id id' : Uuid) (graph : DependencyGraph)
    (f : String) (ds : List Diagnosis) :
    let after := Incident.diagnosed now id graph f ds (some i)
    let after' := Incident.diagnosed now id' graph f ds (some j)
    after'.2 = after.2 ∧
      (Alike told after.1 after'.1 ∧ after.1.id = i.id ∧ after'.1.id = j.id ∨
        Alike False after.1 after'.1 ∧ after.1.id = id ∧ after'.1.id = id') := by
  have hid : ∀ i : Incident,
      (((i.returned now).escalate now (groupSeverity graph ds)).refresh now ds).id = i.id := by
    intro i
    exact ((continues_returned now i).trans
      ((continues_escalate now _ _).trans (continues_refresh now _ ds).1)).id
  dsimp only
  rw [Incident.diagnosed, Incident.diagnosed, h.status, h.withinReopenWindow]
  split
  · exact ⟨rfl, Or.inr ⟨alike_openFrom now id id' f _ ds, (openFrom_spec ..).1, (openFrom_spec ..).1⟩⟩
  · exact ⟨rfl, Or.inl ⟨((h.returned now).escalate now _).refresh now ds, hid i, hid j⟩⟩

/-- **The second pass** at alike incidents. -/
theorem Alike.undiagnosed (h : Alike told i j) (now : Timestamp) (root full : Bool) :
    (j.undiagnosed now root full).2 = (i.undiagnosed now root full).2 ∧
      Alike told (i.undiagnosed now root full).1 (j.undiagnosed now root full).1 := by
  unfold Incident.undiagnosed
  rw [h.status]
  split
  · exact ⟨rfl, ((h.withStatus .resolved).withEnd (some now)).record now _ _⟩
  split
  · exact ⟨rfl, (h.withStatus .recovering).record now _ _⟩
  split
  · exact ⟨rfl, (h.withStatus .opened).record now _ _⟩
  · exact ⟨rfl, h⟩

end Incident

/-! ### Reports that agree -/

/-- Two incidents that report the same of one fault, with the same notification keys if one
of them was `held`. -/
structure Incident.Same (held : Uuid → Prop) (i j : Incident) : Prop where
  fingerprint : j.fingerprint = i.fingerprint
  status : j.status = i.status
  severity : j.severity = i.severity
  affected : ∀ e, e ∈ j.affectedEntities ↔ e ∈ i.affectedEntities
  roots : ∀ e, e ∈ j.suspectedRootEntities ↔ e ∈ i.suspectedRootEntities
  evidence : ∀ o, o ∈ j.evidence ↔ o ∈ i.evidence
  keys : held i.id ∨ held j.id → ∀ newV5 toRfc3339,
    notificationKeys newV5 toRfc3339 j = notificationKeys newV5 toRfc3339 i

theorem Incident.Alike.same {held : Uuid → Prop} {i j : Incident}
    (h : Incident.Alike (held i.id ∨ held j.id) i j) : Incident.Same held i j :=
  ⟨h.fingerprint, h.status, h.severity, fun _ => h.affected.mem_iff, fun _ => h.roots.mem_iff,
    fun _ => h.evidence.mem_iff, fun hheld newV5 toRfc3339 => h.keys hheld newV5 toRfc3339⟩

/-- Two updates that report the same in every list. -/
def IncidentUpdate.Agree (held : Uuid → Prop) (update update' : IncidentUpdate) : Prop :=
  ∀ slot, (∀ i ∈ update.listed slot, ∃ j ∈ update'.listed slot, Incident.Same held i j) ∧
    ∀ j ∈ update'.listed slot, ∃ i ∈ update.listed slot, Incident.Same held i j

namespace IncidentEngine

variable {engine engine' : IncidentEngine} {call call' : Reconciliation} {held : Uuid → Prop}
  {t : Timestamp} {f : String}

/-- What an engine holds under the fingerprint of an incident that it takes in. -/
theorem seedOne_getElem?_self (engine : IncidentEngine) (i : Incident) :
    (engine.seedOne i).incidents[i.fingerprint]? =
      some (match engine.incidents[i.fingerprint]? with
        | some existing => if keepsExisting existing i then existing else i
        | none => i) := by
  unfold seedOne
  cases hheld : engine.incidents[i.fingerprint]? with
  | none => rw [Option.any_none, if_neg Bool.false_ne_true, Std.ExtTreeMap.getElem?_insert_self]
  | some existing =>
    rw [Option.any_some]
    dsimp only
    split
    · exact hheld
    · exact Std.ExtTreeMap.getElem?_insert_self

theorem seedOne_getElem?_of_ne (engine : IncidentEngine) {i : Incident} {f : String} (hf : i.fingerprint ≠ f) :
    (engine.seedOne i).incidents[f]? = engine.incidents[f]? := by
  unfold seedOne
  split
  · rfl
  · rw [Std.ExtTreeMap.getElem?_insert_eq, if_neg hf]

/-- A fingerprint that no incident has is left alone. -/
theorem seed_getElem?_of_notMem {f : String} (incidents : List Incident) :
    ∀ {engine : IncidentEngine}, (∀ i ∈ incidents, i.fingerprint ≠ f) →
      (engine.seed incidents).incidents[f]? = engine.incidents[f]? := by
  induction incidents with
  | nil => intro engine _; rfl
  | cons i incidents ih =>
    intro engine h
    rw [List.forall_mem_cons] at h
    exact (ih h.2).trans (seedOne_getElem?_of_ne engine h.1)

/-- Of the incidents of one fingerprint an engine takes the one preferred to the others. -/
theorem seed_getElem?_of_mem {best : Incident} (hself : keepsExisting best best = true)
    (incidents : List Incident) :
    ∀ {engine : IncidentEngine},
      (∀ i ∈ incidents, i.fingerprint = best.fingerprint →
        i = best ∨ keepsExisting best i = true ∧ keepsExisting i best = false) →
      (∀ held, engine.incidents[best.fingerprint]? = some held →
        held = best ∨ keepsExisting held best = false) →
      (best ∈ incidents ∨ engine.incidents[best.fingerprint]? = some best) →
      (engine.seed incidents).incidents[best.fingerprint]? = some best := by
  induction incidents with
  | nil =>
    intro engine _ _ hmem
    exact hmem.resolve_left List.not_mem_nil
  | cons i incidents ih =>
    intro engine hbest hheld hmem
    rw [List.forall_mem_cons] at hbest
    show ((engine.seedOne i).seed incidents).incidents[best.fingerprint]? = some best
    by_cases hf : i.fingerprint = best.fingerprint
    · have hone := engine.seedOne_getElem?_self i
      rw [hf] at hone
      refine ih hbest.2 (fun held h => ?_) ?_
      · rw [hone, Option.some.injEq] at h
        split at h
        · next existing hexisting =>
          split at h
          · exact hheld held (h ▸ hexisting)
          · exact h ▸ (hbest.1 hf).imp_right And.right
        · exact h ▸ (hbest.1 hf).imp_right And.right
      · rcases hmem with hmem | hmem
        · rcases List.mem_cons.mp hmem with rfl | hmem
          · refine Or.inr (hone.trans (congrArg some ?_))
            split
            · next existing hexisting =>
              rcases hheld existing hexisting with rfl | hlost
              · exact ite_self _
              · rw [hlost, if_neg Bool.false_ne_true]
            · rfl
          · exact Or.inl hmem
        · rw [hmem] at hone
          refine Or.inr (hone.trans (congrArg some (if_pos ?_)))
          exact (hbest.1 hf).elim (fun heq => heq ▸ hself) And.left
    · have hone := engine.seedOne_getElem?_of_ne hf
      refine ih hbest.2 (fun held h => hheld held (hone ▸ h)) ?_
      rcases hmem with hmem | hmem
      · rcases List.mem_cons.mp hmem with rfl | hmem
        · exact absurd rfl hf
        · exact Or.inl hmem
      · exact Or.inr (hone.trans hmem)

/-- Two reconciliations with the same clock, diagnoses and graph, and the same verdicts on
incidents that are alike. -/
structure Reconciliation.Like (call call' : Reconciliation) : Prop where
  now : call'.now = call.now
  diagnoses : call'.diagnoses = call.diagnoses
  graph : call'.graph = call.graph
  recovered : ∀ i j : Incident, Incident.Alike False i j → call'.recovered j = call.recovered i

/-- The identifiers allocated for what is diagnosed are such. -/
def Reconciliation.Allocates (call : Reconciliation) (p : Uuid → Prop) : Prop :=
  ∀ d ∈ call.diagnoses, p (call.newId (fingerprint d))

theorem Reconciliation.Allocates.of_group {p : Uuid → Prop} (h : call.Allocates p) {ds : List Diagnosis}
    (hg : (grouped call.diagnoses)[f]? = some ds) : p (call.newId f) := by
  obtain ⟨d, hd, rfl⟩ := grouped_isSome_iff.mp (Option.isSome_iff_exists.mpr ⟨ds, hg⟩)
  exact h d hd

/-- What an engine holds under a fingerprint, and what one that resumed at the time `t`
does: the same fault, or nothing of one that could not be reopened any more. -/
def Matches (held : Uuid → Prop) (t : Timestamp) : Option Incident → Option Incident → Prop
  | none, none => True
  | some i, some j => Incident.Alike (held i.id ∨ held j.id) i j
  | some i, none => i.status = .resolved ∧ i.withinReopenWindow t = false
  | none, some _ => False

/-- An engine, and another one that resumed from it at the time `t`. -/
def Resumed (held : Uuid → Prop) (t : Timestamp) (engine engine' : IncidentEngine) : Prop :=
  ∀ f : String, Matches held t engine.incidents[f]? engine'.incidents[f]?

/-- Incidents opened under identifiers that were not held are alike. -/
theorem alike_opened {id id' : Uuid} (hid : ¬ held id) (hid' : ¬ held id') {i j : Incident}
    (hi : i.id = id) (hj : j.id = id') (h : Incident.Alike False i j) :
    Incident.Alike (held i.id ∨ held j.id) i j := by
  apply h.mono
  rintro (hheld | hheld)
  · exact hid (hi ▸ hheld)
  · exact hid' (hj ▸ hheld)

/-- The first pass at what matches. -/
theorem Matches.diagnosed {o o' : Option Incident} (h : Matches held t o o') {now : Timestamp}
    (hnow : t ≤ now) {id id' : Uuid} (hid : ¬ held id) (hid' : ¬ held id') (graph : DependencyGraph)
    (f : String) (ds : List Diagnosis) :
    let after := Incident.diagnosed now id graph f ds o
    let after' := Incident.diagnosed now id' graph f ds o'
    after'.2 = after.2 ∧ Incident.Alike (held after.1.id ∨ held after'.1.id) after.1 after'.1 := by
  dsimp only
  have hopened := alike_opened hid hid' (Incident.openFrom_spec now id f (groupSeverity graph ds) ds).1
    (Incident.openFrom_spec now id' f (groupSeverity graph ds) ds).1
    (Incident.alike_openFrom now id id' f (groupSeverity graph ds) ds)
  match o, o', h with
  | none, none, _ => exact ⟨rfl, hopened⟩
  | some i, none, ⟨hresolved, hwindow⟩ =>
    -- an incident that could not be reopened at `t` cannot later on
    have hwindow' : i.withinReopenWindow now = false := by
      obtain ⟨endedAt, hended, hlate⟩ := Incident.withinReopenWindow_eq_false.mp hwindow
      exact Incident.withinReopenWindow_eq_false.mpr ⟨endedAt, hended, hlate.trans hnow⟩
    rw [Incident.diagnosed, Incident.diagnosed, if_pos ⟨hresolved, hwindow'⟩]
    exact ⟨rfl, hopened⟩
  | some i, some j, h =>
    obtain ⟨hslot, ⟨halike, hi, hj⟩ | ⟨halike, hi, hj⟩⟩ :=
      Incident.Alike.diagnosed h now id id' graph f ds
    · refine ⟨hslot, ?_⟩
      rw [hi, hj]
      exact halike
    · exact ⟨hslot, alike_opened hid hid' hi hj halike⟩

/-- **A reconciliation keeps an engine and the one that resumed from it together.** -/
theorem Resumed.reconcile (h : Resumed held t engine engine') (hlike : Reconciliation.Like call call')
    (hnow : t ≤ call.now) (hnew : call.Allocates fun id => ¬ held id)
    (hnew' : call'.Allocates fun id => ¬ held id) :
    Resumed held t (engine.reconcileVerified call).1 (engine'.reconcileVerified call').1 := by
  intro f
  cases hg : (grouped call.diagnoses)[f]? with
  | some ds =>
    have hg' : (grouped call'.diagnoses)[f]? = some ds := by rw [hlike.diagnoses, hg]
    rw [reconcile_getElem?_of_some _ _ hg, reconcile_getElem?_of_some _ _ hg', hlike.now, hlike.graph]
    exact ((h f).diagnosed hnow (hnew.of_group hg) (hnew'.of_group hg') call.graph f ds).2
  | none =>
    have hg' : (grouped call'.diagnoses)[f]? = none := by rw [hlike.diagnoses, hg]
    rw [reconcile_getElem?_of_none _ _ hg, reconcile_getElem?_of_none _ _ hg']
    have hf := h f
    match engine.incidents[f]?, engine'.incidents[f]?, hf with
    | none, none, _ => trivial
    | some i, none, ⟨hresolved, hwindow⟩ =>
      have hinactive : i.status.isActive = false := by rw [hresolved]; rfl
      rw [Option.map_some, hinactive]
      exact ⟨hresolved, hwindow⟩
    | some i, some j, halike =>
      rw [Option.map_some, Option.map_some, halike.status, hlike.now, hlike.recovered i j (halike.mono False.elim)]
      change Incident.Alike _ _ _
      split
      · rw [(Incident.undiagnosed_continues ..).id, (Incident.undiagnosed_continues ..).id]
        exact (halike.undiagnosed call.now _ _).2
      · exact halike

/-- **The reconciliation reports the same of both.** -/
theorem Resumed.agree (h : Resumed held t engine engine') (hlike : Reconciliation.Like call call')
    (hnow : t ≤ call.now) (hnew : call.Allocates fun id => ¬ held id)
    (hnew' : call'.Allocates fun id => ¬ held id) :
    IncidentUpdate.Agree held (engine.reconcileVerified call).2 (engine'.reconcileVerified call').2 := by
  have hdiagnosed : ∀ (f : String) (ds : List Diagnosis) (hg : (grouped call.diagnoses)[f]? = some ds), _ :=
    fun f ds hg => (h f).diagnosed hnow (hnew.of_group hg)
      (hnew'.of_group (by rw [hlike.diagnoses, hg])) call.graph f ds
  have hundiagnosed : ∀ i j : Incident, Incident.Alike (held i.id ∨ held j.id) i j →
      (j.undiagnosed call.now (call.recovered i).1 (call.recovered i).2).2 =
        (i.undiagnosed call.now (call.recovered i).1 (call.recovered i).2).2 ∧
      Incident.Same held (i.undiagnosed call.now (call.recovered i).1 (call.recovered i).2).1
        (j.undiagnosed call.now (call.recovered i).1 (call.recovered i).2).1 := by
    intro i j halike
    obtain ⟨hslot, hafter⟩ := halike.undiagnosed call.now (call.recovered i).1 (call.recovered i).2
    refine ⟨hslot, Incident.Alike.same ?_⟩
    rw [(Incident.undiagnosed_continues ..).id, (Incident.undiagnosed_continues ..).id]
    exact hafter
  intro slot
  constructor
  · intro i hi
    rcases mem_listed_reconcile.mp hi with ⟨f, ds, hg, hout⟩ | ⟨f, i₀, hg, hi₀, hactive, hout⟩
    · obtain ⟨hslot, halike⟩ := hdiagnosed f ds hg
      rw [hout] at hslot halike
      refine ⟨_, mem_listed_reconcile.mpr (Or.inl ⟨f, ds, ?_, ?_⟩), halike.same⟩
      · rw [hlike.diagnoses, hg]
      · rw [hlike.now, hlike.graph]
        exact Prod.ext rfl hslot
    · have hf := h f
      rw [hi₀] at hf
      match hj₀ : engine'.incidents[f]?, hf with
      | none, hf => rw [hf.1] at hactive; cases hactive
      | some j₀, halike =>
        obtain ⟨hslot, hsame⟩ := hundiagnosed i₀ j₀ halike
        rw [hout] at hslot hsame
        refine ⟨_, mem_listed_reconcile.mpr (Or.inr ⟨f, j₀, ?_, hj₀, ?_, ?_⟩), hsame⟩
        · rw [hlike.diagnoses, hg]
        · rw [halike.status, hactive]
        · rw [hlike.now, hlike.recovered i₀ j₀ (halike.mono False.elim)]
          exact Prod.ext rfl hslot
  · intro j hj
    rcases mem_listed_reconcile.mp hj with ⟨f, ds, hg, hout⟩ | ⟨f, j₀, hg, hj₀, hactive, hout⟩
    · rw [hlike.now, hlike.graph] at hout
      rw [hlike.diagnoses] at hg
      obtain ⟨hslot, halike⟩ := hdiagnosed f ds hg
      rw [hout] at hslot halike
      exact ⟨_, mem_listed_reconcile.mpr (Or.inl ⟨f, ds, hg, Prod.ext rfl hslot.symm⟩), halike.same⟩
    · have hf := h f
      rw [hj₀] at hf
      match hi₀ : engine.incidents[f]?, hf with
      | some i₀, halike =>
        rw [hlike.now, hlike.recovered i₀ j₀ (halike.mono False.elim)] at hout
        obtain ⟨hslot, hsame⟩ := hundiagnosed i₀ j₀ halike
        rw [hout] at hslot hsame
        refine ⟨_, mem_listed_reconcile.mpr (Or.inr ⟨f, i₀, ?_, hi₀, ?_, Prod.ext rfl hslot.symm⟩), hsame⟩
        · rw [← hlike.diagnoses, hg]
        · rw [← halike.status, hactive]

/-- The updates of reconciliations, one after the other. -/
def reports : IncidentEngine → List Reconciliation → List IncidentUpdate
  | _, [] => []
  | engine, call :: calls =>
    (engine.reconcileVerified call).2 :: reports (engine.reconcileVerified call).1 calls

/-- **An engine that resumed reports what the one it resumed from would have**, whatever is
reconciled from then on. -/
theorem Resumed.reports {calls calls' : List Reconciliation}
    (hlike : List.Forall₂ Reconciliation.Like calls calls') :
    ∀ {engine engine' : IncidentEngine}, Resumed held t engine engine' →
      (∀ call ∈ calls, t ≤ call.now) →
      (∀ call ∈ calls ++ calls', call.Allocates fun id => ¬ held id) →
      List.Forall₂ (IncidentUpdate.Agree held) (engine.reports calls) (engine'.reports calls') := by
  induction hlike with
  | nil => intro engine engine' _ _ _; exact .nil
  | @cons call call' calls calls' hlike _ ih =>
    intro engine engine' h hnow hnew
    have hcall := hnow call List.mem_cons_self
    have hfresh := hnew call (List.mem_append_left _ List.mem_cons_self)
    have hfresh' := hnew call' (List.mem_append_right _ List.mem_cons_self)
    refine .cons (h.agree hlike hcall hfresh hfresh') (ih (h.reconcile hlike hcall hfresh hfresh') ?_ ?_)
    · intro later hlater
      exact hnow later (List.mem_cons_of_mem _ hlater)
    · intro later hlater
      apply hnew later
      rcases List.mem_append.mp hlater with hl | hl
      · exact List.mem_append_left _ (List.mem_cons_of_mem _ hl)
      · exact List.mem_append_right _ (List.mem_cons_of_mem _ hl)

end IncidentEngine

end Sentinel
