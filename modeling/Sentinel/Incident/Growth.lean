import Sentinel.Incident.Lifecycle

/-!
# How incidents grow

Entities and evidence are added to what an incident holds, never twice and never taken
away, and its timeline is written in the order of the clock.

## Main definitions

* `Incident.Tidy` — nothing is held twice, and nothing is from after the clock.

## Main results

* `Incident.mem_extend`, `Incident.filter_extend` — what a list is extended to.
* `Incident.Tidy.diagnosed`, `Incident.Tidy.undiagnosed` — both passes keep an incident
  tidy, and its evidence.
* `IncidentEngine.grown_reconcile` — so does a reconciliation with all that is held.
-/

namespace Sentinel

namespace Incident

/-! ### Extending a list -/

section Extend

variable {α : Type*} [DecidableEq α]

theorem extend_append (held more more' : List α) :
    extend held (more ++ more') = extend (extend held more) more' := List.foldl_append

theorem mem_extend {a : α} (more : List α) :
    ∀ {held : List α}, a ∈ extend held more ↔ a ∈ held ∨ a ∈ more := by
  induction more with
  | nil => intro held; simp [extend]
  | cons b more ih =>
    intro held
    show a ∈ extend (if b ∈ held then held else held ++ [b]) more ↔ _
    rw [ih, List.mem_cons]
    split
    · next hb =>
      constructor
      · exact fun h => h.imp_right Or.inr
      · rintro (h | rfl | h)
        · exact Or.inl h
        · exact Or.inl hb
        · exact Or.inr h
    · rw [List.mem_append, List.mem_singleton, or_assoc]

theorem nodup_extend (more : List α) : ∀ {held : List α}, held.Nodup → (extend held more).Nodup := by
  induction more with
  | nil => intro held h; exact h
  | cons b more ih =>
    intro held h
    show (extend (if b ∈ held then held else held ++ [b]) more).Nodup
    apply ih
    split
    · exact h
    · next hb =>
      apply List.Nodup.append h (List.nodup_singleton b)
      exact List.disjoint_singleton.mpr hb

/-- Nothing is added that is there. -/
theorem extend_of_subset (more : List α) : ∀ {held : List α}, more ⊆ held → extend held more = held := by
  induction more with
  | nil => intro held _; rfl
  | cons b more ih =>
    intro held h
    show extend (if b ∈ held then held else held ++ [b]) more = held
    rw [if_pos (h List.mem_cons_self)]
    exact ih (List.subset_of_cons_subset h)

/-- What is added comes in its order. -/
theorem extend_sublist (more : List α) : ∀ held : List α, (extend held more).Sublist (held ++ more) := by
  induction more with
  | nil => intro held; rw [List.append_nil]; rfl
  | cons b more ih =>
    intro held
    show (extend (if b ∈ held then held else held ++ [b]) more).Sublist _
    split
    · exact (ih held).trans (List.Sublist.append_left (List.sublist_cons_self b more) held)
    · have hrest := ih (held ++ [b])
      rwa [List.append_assoc] at hrest

/-- Where what passes a filter is listed once, all of it is kept. -/
theorem filter_extend (p : α → Bool) (more : List α) :
    ∀ {held : List α}, ((held ++ more).filter p).Nodup →
      (extend held more).filter p = (held ++ more).filter p := by
  induction more with
  | nil => intro held _; rw [List.append_nil]; rfl
  | cons b more ih =>
    intro held h
    show (extend (if b ∈ held then held else held ++ [b]) more).filter p = _
    split
    · next hb =>
      have hp : p b = false := by
        by_contra hp
        rw [Bool.not_eq_false] at hp
        rw [List.filter_append, List.filter_cons_of_pos hp, List.nodup_append] at h
        exact h.2.2 b (List.mem_filter.mpr ⟨hb, hp⟩) b List.mem_cons_self rfl
      have hsame : (held ++ b :: more).filter p = (held ++ more).filter p := by
        rw [List.filter_append, List.filter_append, List.filter_cons_of_neg (by simp [hp])]
      rw [hsame] at h ⊢
      exact ih h
    · have hassoc : held ++ [b] ++ more = held ++ b :: more := by simp
      rw [← hassoc] at h ⊢
      exact ih h

/-- A list that repeats nothing is what it extends the empty one to. -/
theorem extend_nil_of_nodup {l : List α} (h : l.Nodup) : extend [] l = l := by
  have hall : (extend [] l).filter (fun _ => true) = ([] ++ l).filter fun _ => true :=
    filter_extend _ l (by simpa using h)
  simpa using hall

end Extend

theorem nodup_retain (more : List ObservationId) :
    ∀ {held : List ObservationId}, held.Nodup → (retain held more).Nodup ∧ held ⊆ retain held more := by
  induction more with
  | nil => intro held h; exact ⟨h, List.Subset.refl _⟩
  | cons o more ih =>
    intro held h
    show (retain (if maxEvidence ≤ held.length ∨ o ∈ held then held else held ++ [o]) more).Nodup ∧
      held ⊆ retain (if maxEvidence ≤ held.length ∨ o ∈ held then held else held ++ [o]) more
    split
    · exact ih h
    · next hnew =>
      have hnotMem : o ∉ held := fun hmem => hnew (Or.inr hmem)
      have hnodup : (held ++ [o]).Nodup :=
        h.append (List.nodup_singleton o) (List.disjoint_singleton.mpr hnotMem)
      exact ⟨(ih hnodup).1, List.Subset.trans (List.subset_append_left _ _) (ih hnodup).2⟩

/-! ### Tidy incidents -/

theorem reopenWindow_pos : 0 < reopenWindow := by decide

/-- What could be loaded after a restart and needs no attention was resolved. -/
theorem Resumable.resolved {i : Incident} (h : i.Resumable) (hinactive : i.status.isActive = false) :
    i.status = .resolved := by
  rcases h.status with hs | hs | hs | hs
  · rw [hs] at hinactive; cases hinactive
  · rw [hs] at hinactive; cases hinactive
  · rw [hs] at hinactive; cases hinactive
  · exact hs

/-- Nothing is held twice, the timeline is in the order of time, and nothing is from after
the clock. -/
structure Tidy (clock : Timestamp) (i : Incident) : Prop where
  affected : i.affectedEntities.Nodup
  roots : i.suspectedRootEntities.Nodup
  evidence : i.evidence.Nodup
  timeline : i.timeline.Pairwise fun event event' => event.at_ ≤ event'.at_
  past : ∀ event ∈ i.timeline, event.at_ ≤ clock
  started : i.startedAt ≤ clock
  ended : ∀ endedAt ∈ i.endedAt, i.startedAt ≤ endedAt ∧ endedAt ≤ clock

variable {i : Incident} {clock now : Timestamp}

theorem Tidy.mono (h : i.Tidy clock) (hle : clock ≤ now) : i.Tidy now :=
  { h with
    past := fun event hevent => (h.past event hevent).trans hle
    started := h.started.trans hle
    ended := fun endedAt hended => ⟨(h.ended endedAt hended).1, (h.ended endedAt hended).2.trans hle⟩ }

theorem Tidy.record (h : i.Tidy now) (kind detail : String) : (i.record now kind detail).Tidy now := by
  refine ⟨h.affected, h.roots, h.evidence, ?_, ?_, h.started, h.ended⟩
  · refine List.pairwise_append.mpr ⟨h.timeline, List.pairwise_singleton _ _, ?_⟩
    intro event hevent event' hevent'
    rw [List.mem_singleton.mp hevent']
    exact h.past event hevent
  · intro event hevent
    rcases List.mem_append.mp hevent with hbefore | hlast
    · exact h.past event hbefore
    · rw [List.mem_singleton.mp hlast]

theorem Tidy.withStatus (h : i.Tidy clock) (status : IncidentStatus) : { i with status := status }.Tidy clock :=
  ⟨h.affected, h.roots, h.evidence, h.timeline, h.past, h.started, h.ended⟩

theorem Tidy.withSeverity (h : i.Tidy clock) (severity : Severity) :
    { i with severity := severity }.Tidy clock :=
  ⟨h.affected, h.roots, h.evidence, h.timeline, h.past, h.started, h.ended⟩

theorem Tidy.withDiagnoses (h : i.Tidy clock) (ds : List Diagnosis) : { i with diagnoses := ds }.Tidy clock :=
  ⟨h.affected, h.roots, h.evidence, h.timeline, h.past, h.started, h.ended⟩

theorem Tidy.withEnd (h : i.Tidy clock) {endedAt : Option Timestamp}
    (hended : ∀ e ∈ endedAt, i.startedAt ≤ e ∧ e ≤ clock) : { i with endedAt := endedAt }.Tidy clock :=
  ⟨h.affected, h.roots, h.evidence, h.timeline, h.past, h.started, hended⟩

theorem Tidy.merge (ds : List Diagnosis) :
    ∀ {i : Incident}, i.Tidy clock →
      (ds.foldl mergeDiagnosis i).Tidy clock ∧ i.evidence ⊆ (ds.foldl mergeDiagnosis i).evidence := by
  induction ds with
  | nil => intro i h; exact ⟨h, List.Subset.refl _⟩
  | cons d ds ih =>
    intro i h
    obtain ⟨hevidence, hsub⟩ := nodup_retain d.evidence h.evidence
    have hmerged : (i.mergeDiagnosis d).Tidy clock :=
      ⟨nodup_extend _ h.affected, nodup_extend _ h.roots, hevidence, h.timeline, h.past, h.started, h.ended⟩
    exact ⟨(ih hmerged).1, List.Subset.trans hsub (ih hmerged).2⟩

theorem Tidy.escalate (h : i.Tidy now) (severity : Severity) :
    (i.escalate now severity).Tidy now ∧ i.evidence ⊆ (i.escalate now severity).evidence := by
  unfold Incident.escalate
  split
  · exact ⟨(h.withSeverity severity).record _ _, List.Subset.refl _⟩
  · exact ⟨h, List.Subset.refl _⟩

theorem Tidy.returned (h : i.Tidy now) :
    (i.returned now).Tidy now ∧ i.evidence ⊆ (i.returned now).evidence := by
  unfold Incident.returned
  split
  · exact ⟨(h.withStatus .opened).record _ _, List.Subset.refl _⟩
  split
  · have hended : { i with status := .opened, endedAt := none }.Tidy now :=
      (h.withStatus .opened).withEnd (fun e he => by cases he)
    exact ⟨hended.record _ _, List.Subset.refl _⟩
  · exact ⟨h, List.Subset.refl _⟩

theorem Tidy.refresh (h : i.Tidy now) (ds : List Diagnosis) :
    (i.refresh now ds).Tidy now ∧ i.evidence ⊆ (i.refresh now ds).evidence := by
  unfold Incident.refresh
  dsimp only
  split
  · exact Tidy.merge ds ((h.record _ _).withDiagnoses [])
  · exact Tidy.merge ds (h.withDiagnoses [])

theorem tidy_openFrom (now : Timestamp) (id : Uuid) (f : String) (severity : Severity)
    (ds : List Diagnosis) : (openFrom now id f severity ds).Tidy now := by
  have hadd : ∀ (ds : List Diagnosis) {i : Incident}, i.Tidy now →
      (ds.foldl (addDiagnosis now) i).Tidy now := by
    intro ds
    induction ds with
    | nil => intro i h; exact h
    | cons d ds ih => intro i h; exact ih (Tidy.merge [d] (h.record _ _)).1
  have hnew : (Incident.new now id f severity).Tidy now :=
    ⟨List.nodup_nil, List.nodup_nil, List.nodup_nil, List.Pairwise.nil, List.forall_mem_nil _, le_rfl,
      by intro e he; cases he⟩
  exact hadd ds (hnew.record _ _)

/-- When a new incident begins. -/
theorem startedAt_openFrom (now : Timestamp) (id : Uuid) (f : String) (severity : Severity)
    (ds : List Diagnosis) : (openFrom now id f severity ds).startedAt = now := by
  have hadd : ∀ (ds : List Diagnosis) (i : Incident),
      (ds.foldl (addDiagnosis now) i).startedAt = i.startedAt := by
    intro ds
    induction ds with
    | nil => intro i; rfl
    | cons d ds ih => intro i; exact ih (addDiagnosis now i d)
  exact hadd ds _

/-- **The first pass** goes on with a tidy incident, and keeps its evidence, or opens
another one, in place of one that was resolved long enough ago. -/
theorem Tidy.diagnosed (h : i.Tidy clock) (hnow : clock ≤ now) (id : Uuid) (graph : DependencyGraph)
    (f : String) (ds : List Diagnosis) :
    let after := (Incident.diagnosed now id graph f ds (some i)).1
    after.Tidy now ∧
      (i.Continues after ∧ i.evidence ⊆ after.evidence ∨
        after.id = id ∧ after.startedAt = now ∧ i.status = .resolved ∧ i.withinReopenWindow now = false) := by
  intro after
  have hafter : after = (Incident.diagnosed now id graph f ds (some i)).1 := rfl
  rw [Incident.diagnosed] at hafter
  split at hafter
  · next hold =>
    rw [hafter]
    exact ⟨tidy_openFrom .., Or.inr ⟨(openFrom_spec ..).1, startedAt_openFrom .., hold⟩⟩
  · obtain ⟨hreturned, hevidence⟩ := (h.mono hnow).returned
    obtain ⟨hescalated, hevidence'⟩ := hreturned.escalate (groupSeverity graph ds)
    obtain ⟨hrefreshed, hevidence''⟩ := hescalated.refresh ds
    have hcontinues := (continues_returned now i).trans
      ((continues_escalate now _ (groupSeverity graph ds)).trans (continues_refresh now _ ds).1)
    rw [hafter]
    exact ⟨hrefreshed, Or.inl ⟨hcontinues, fun o ho => hevidence'' (hevidence' (hevidence ho))⟩⟩

/-- **The second pass** goes on with a tidy incident, and keeps its evidence. -/
theorem Tidy.undiagnosed (h : i.Tidy clock) (hnow : clock ≤ now) (root full : Bool) :
    (i.undiagnosed now root full).1.Tidy now ∧ i.evidence = (i.undiagnosed now root full).1.evidence := by
  have hmono := h.mono hnow
  unfold Incident.undiagnosed
  split
  · have hended : ∀ e ∈ some now, i.startedAt ≤ e ∧ e ≤ now := by
      intro e he
      rw [← Option.some.inj he]
      exact ⟨hmono.started, le_rfl⟩
    exact ⟨Tidy.record ((hmono.withStatus .resolved).withEnd hended) _ _, rfl⟩
  split
  · exact ⟨(hmono.withStatus .recovering).record _ _, rfl⟩
  split
  · exact ⟨(hmono.withStatus .opened).record _ _, rfl⟩
  · exact ⟨hmono, rfl⟩

end Incident

/-! ### Tidy engines -/

namespace IncidentEngine

variable {engine : IncidentEngine} {call : Reconciliation} {clock : Timestamp} {f : String} {i : Incident}

/-- An incident opened in place of what was held: nothing, or one resolved long ago. -/
structure Replaces (engine : IncidentEngine) (call : Reconciliation) (f : String) (i : Incident) : Prop where
  diagnosed : ∃ d ∈ call.diagnoses, fingerprint d = f
  id : i.id = call.newId f
  startedAt : i.startedAt = call.now
  before : ∀ before, engine.incidents[f]? = some before →
    before.status = .resolved ∧ before.withinReopenWindow call.now = false

/-- **What is held after a reconciliation** is tidy, and goes on with what was held, with
its evidence, or replaces it. -/
theorem grown_reconcile (htidy : ∀ (f : String) (i : Incident), engine.incidents[f]? = some i → i.Tidy clock)
    (hnow : clock ≤ call.now) (hi : (engine.reconcileVerified call).1.incidents[f]? = some i) :
    i.Tidy call.now ∧
      ((∃ before, engine.incidents[f]? = some before ∧ before.Continues i ∧ before.evidence ⊆ i.evidence) ∨
        engine.Replaces call f i) := by
  cases hg : (grouped call.diagnoses)[f]? with
  | some ds =>
    have hdiagnosed : ∃ d ∈ call.diagnoses, fingerprint d = f :=
      grouped_isSome_iff.mp (Option.isSome_iff_exists.mpr ⟨ds, hg⟩)
    rw [reconcile_getElem?_of_some _ _ hg, Option.some.injEq] at hi
    cases hbefore : engine.incidents[f]? with
    | none =>
      rw [hbefore] at hi
      rw [← hi]
      refine ⟨Incident.tidy_openFrom .., Or.inr ⟨hdiagnosed, (Incident.openFrom_spec ..).1,
        Incident.startedAt_openFrom .., fun before h => ?_⟩⟩
      rw [hbefore] at h
      cases h
    | some before =>
      obtain ⟨hafter, hgrown⟩ := (htidy f before hbefore).diagnosed hnow (call.newId f) call.graph f ds
      rw [hbefore] at hi
      rw [hi] at hafter hgrown
      refine ⟨hafter, hgrown.imp (fun h => ⟨before, rfl, h⟩) fun ⟨hid, hstarted, hold⟩ => ?_⟩
      refine ⟨hdiagnosed, hid, hstarted, fun before' h => ?_⟩
      rw [hbefore, Option.some.injEq] at h
      rwa [← h]
  | none =>
    rw [reconcile_getElem?_of_none _ _ hg] at hi
    obtain ⟨before, hbefore, hafter⟩ := Option.map_eq_some_iff.mp hi
    have htidy := htidy f before hbefore
    split at hafter
    · obtain ⟨hundiagnosed, hevidence⟩ := htidy.undiagnosed hnow (call.recovered before).1 (call.recovered before).2
      rw [← hafter]
      exact ⟨hundiagnosed, Or.inl ⟨before, hbefore, Incident.undiagnosed_continues .., fun o ho => hevidence ▸ ho⟩⟩
    · rw [← hafter]
      exact ⟨htidy.mono hnow, Or.inl ⟨before, hbefore, Incident.Continues.refl _, List.Subset.refl _⟩⟩

end IncidentEngine

end Sentinel
