import Sentinel.Controller.Diagnose

/-!
# What the viewpoints on a host decide

The rules of reachability count observers.  Here they are told from the observations
alone: an observer other than the host has a view of it, if the last thing it said about
its network is conclusive, and what the rules conclude depends on the views only.

## Main definitions

* `view` — what an observer last said about the network of a host.
* `Unreached`, `Reached`, `Connected` — the views the rules count.

## Main results

* `ObservationIndex.held_insertAll_new` — an index holds the last observation of each stream.
* `viewpoints_decide` — when a host is found unreachable, and when its path is.
-/

namespace Sentinel

/-! ### An index of observations -/

namespace ObservationIndex

/-- **An index holds the last observation of each stream.** -/
theorem held_insertAll_new (os : List Observation) (k : StreamKey) :
    (new.insertAll os).held[k]? =
      (os.filter fun o => o.streamKey = k).maxByKey Observation.finishedAt := by
  induction os using List.reverseRecOn with
  | nil => simp [insertAll, new, List.maxByKey]
  | append_singleton os o ih =>
    rw [insertAll, List.foldl_append, List.foldl_cons, List.foldl_nil, ← insertAll, List.filter_append,
      insert]
    by_cases hk : o.streamKey = k
    · subst hk
      rw [List.filter_singleton, decide_eq_true rfl, cond_true, List.maxByKey_concat, ← ih]
      cases hheld : (new.insertAll os).held[o.streamKey]? with
      | none =>
        rw [Option.any_none, if_neg Bool.false_ne_true]
        exact Std.ExtTreeMap.getElem?_insert_self
      | some last =>
        rw [Option.any_some]
        by_cases hlast : o.finishedAt < last.finishedAt
        · rw [if_pos (decide_eq_true hlast), hheld]
          simp [compare_gt_iff_gt.mpr hlast]
        · rw [if_neg (by simpa using hlast)]
          have hle : compare last.finishedAt o.finishedAt ≠ .gt := by
            rwa [Ne, compare_gt_iff_gt]
          simp [hle]
    · rw [List.filter_singleton, decide_eq_false hk, cond_false, List.append_nil, ← ih]
      split
      · rfl
      · rw [Std.ExtTreeMap.getElem?_insert_eq, if_neg hk]

theorem mem_forEntity {index : ObservationIndex} (h : index.Keyed) {e : EntityId} {o : Observation} :
    o ∈ index.forEntity e ↔ index.held[o.streamKey]? = some o ∧ o.targetEntity = e := by
  rw [forEntity, List.mem_map]
  constructor
  · rintro ⟨⟨k, a⟩, hmem, rfl⟩
    obtain ⟨hmem, hk⟩ := List.mem_filter.mp hmem
    have hheld := Std.ExtTreeMap.mem_toList_iff_getElem?_eq_some.mp hmem
    have hkey := h k a hheld
    subst hkey
    exact ⟨hheld, of_decide_eq_true hk⟩
  · rintro ⟨hheld, rfl⟩
    refine ⟨(o.streamKey, o), List.mem_filter.mpr ⟨?_, decide_eq_true rfl⟩, rfl⟩
    exact Std.ExtTreeMap.mem_toList_iff_getElem?_eq_some.mpr hheld

end ObservationIndex

/-! ### Views of a host -/

section Views

variable (os : List Observation) (host observer : EntityId)

/-- What an observer other than the host last said about its network, if that is
conclusive. -/
def view : Option Observation :=
  if observer = host then none
  else ((os.filter fun o => o.streamKey = (host, probeNetwork, some observer)).maxByKey
    Observation.finishedAt).filter fun o => o.status.isConclusive

/-- The observer did not reach the host. -/
def Unreached : Prop := ∃ o, view os host observer = some o ∧ hasReached o = false

/-- The observer reached the host, be it for a refusal. -/
def Reached : Prop := ∃ o, view os host observer = some o ∧ hasReached o = true

/-- The observer reached the host and completed a connection. -/
def Connected : Prop :=
  ∃ o, view os host observer = some o ∧ hasReached o = true ∧ hasConnected o = true

end Views

variable {os : List Observation} {host observer : EntityId}

theorem Connected.reached (h : Connected os host observer) : Reached os host observer := by
  obtain ⟨o, ho, hreached, -⟩ := h
  exact ⟨o, ho, hreached⟩

/-- An observer has one view. -/
theorem Reached.not_unreached (h : Reached os host observer) : ¬ Unreached os host observer := by
  obtain ⟨o, ho, hreached⟩ := h
  rintro ⟨o', ho', hfailed⟩
  rw [ho, Option.some.injEq] at ho'
  rw [← ho', hreached] at hfailed
  cases hfailed

/-- A view is one of the observations. -/
theorem exists_mem_of_view {o : Observation} (h : view os host observer = some o) :
    observer ≠ host ∧ o ∈ os ∧ o.targetEntity = host ∧ o.observerEntity = some observer := by
  rw [view] at h
  split at h
  · cases h
  next hne =>
    obtain ⟨hmax, -⟩ := Option.filter_eq_some_iff.mp h
    obtain ⟨hmem, hkey⟩ := List.mem_filter.mp (List.maxByKey_mem hmax)
    have hkey := of_decide_eq_true hkey
    simp only [Observation.streamKey, Prod.mk.injEq] at hkey
    exact ⟨hne, hmem, hkey.1, hkey.2.2⟩

/-- The observations that count are the views. -/
theorem exists_remoteView_iff {p : Observation → Prop} :
    (∃ o ∈ (ObservationIndex.new.insertAll os).forEntity host, remoteView host o = some observer ∧ p o) ↔
      ∃ o, view os host observer = some o ∧ p o := by
  have hkeyed := ObservationIndex.keyed_new.insertAll os
  refine exists_congr fun o => ?_
  rw [ObservationIndex.mem_forEntity hkeyed, ObservationIndex.held_insertAll_new, ← and_assoc]
  refine and_congr_left fun _ => ?_
  unfold remoteView view
  constructor
  · rintro ⟨⟨hlast, rfl⟩, hview⟩
    split at hview
    · cases hview
    next hcounts =>
      rw [not_or, not_not, Bool.not_eq_true', Bool.not_eq_false] at hcounts
      obtain ⟨hobserver, hne⟩ := Option.filter_eq_some_iff.mp hview
      rw [decide_eq_true_iff] at hne
      rw [Observation.streamKey, hcounts.1, hobserver] at hlast
      rw [if_neg hne, hlast, Option.filter_some, if_pos hcounts.2]
  · intro hview
    split at hview
    · cases hview
    next hne =>
      obtain ⟨hlast, hconclusive⟩ := Option.filter_eq_some_iff.mp hview
      have hkey := of_decide_eq_true (List.mem_filter.mp (List.maxByKey_mem hlast)).2
      have hfields := hkey
      simp only [Observation.streamKey, Prod.mk.injEq] at hfields
      refine ⟨⟨?_, hfields.1⟩, ?_⟩
      · rw [hkey, hlast]
      · rw [if_neg (by simp [hfields.2.1, hconclusive]), hfields.2.2, Option.filter_some,
          if_pos (decide_eq_true hne)]

/-! ### What the rules count -/

namespace Verdicts

/-- What counting observations adds to the observers that did, and did not, reach the
host. -/
theorem mem_foldl_add (host observer : EntityId) (os : List Observation) : ∀ v : Verdicts,
    (observer ∈ (os.foldl (add host) v).failed ↔ observer ∈ v.failed ∨
      ∃ o ∈ os, remoteView host o = some observer ∧ hasReached o = false) ∧
    (observer ∈ (os.foldl (add host) v).reached ↔ observer ∈ v.reached ∨
      ∃ o ∈ os, remoteView host o = some observer ∧ hasReached o = true) ∧
    (observer ∈ (os.foldl (add host) v).connected ↔ observer ∈ v.connected ∨
      ∃ o ∈ os, remoteView host o = some observer ∧ hasReached o = true ∧ hasConnected o = true) := by
  induction os with
  | nil => intro v; simp
  | cons o os ih =>
    intro v
    rw [List.foldl_cons]
    obtain ⟨hfailed, hreached, hconnected⟩ := ih (add host v o)
    rw [hfailed, hreached, hconnected]
    simp only [List.exists_mem_cons_iff, ← or_assoc]
    refine ⟨or_congr_left ?_, or_congr_left ?_, or_congr_left ?_⟩
    all_goals
      unfold add
      cases hview : remoteView host o with
      | none => simp
      | some other =>
        cases hr : hasReached o <;> cases hc : hasConnected o <;>
          simp [Std.ExtTreeSet.mem_insert, or_comm]

end Verdicts

/-- **What the rules count are the views.** -/
theorem mem_verdictsOf (environment : String) (inventory : Inventory)
    (states : Std.ExtTreeMap EntityId EntityState) (os : List Observation) (host observer : EntityId) :
    let verdicts := verdictsOf ⟨environment, inventory, states, ObservationIndex.new.insertAll os⟩ host
    (observer ∈ verdicts.failed ↔ Unreached os host observer) ∧
    (observer ∈ verdicts.reached ↔ Reached os host observer) ∧
    (observer ∈ verdicts.connected ↔ Connected os host observer) := by
  intro verdicts
  obtain ⟨hfailed, hreached, hconnected⟩ := Verdicts.mem_foldl_add host observer
    ((ObservationIndex.new.insertAll os).forEntity host) .none
  refine ⟨hfailed.trans ?_, hreached.trans ?_, hconnected.trans ?_⟩
  all_goals
    rw [exists_remoteView_iff, or_iff_right (by simp [Verdicts.none])]
    rfl

/-- The hosts to which a path is found broken. -/
theorem namedAs_path_iff {entityId : EntityKey → EntityId} {context : DiagnosisContext} {e : EntityId} :
    NamedAs (diagnose (builtinRules entityId) context) [Kind.pathSpecificNetworkFailure] e ↔
      ∃ host ∈ context.entitiesOfType .host, host.id = e ∧
        (verdictsOf context e).disagreeAboutAWorkingPath = true := by
  have hrule : (pathSpecificNetworkFailure, [Kind.pathSpecificNetworkFailure]) ∈ concludes entityId := by
    simp [concludes]
  constructor
  · rintro ⟨d, hd, hkind, hnames⟩
    have hd := (mem_diagnose_of_kind hrule hkind).mp hd
    rw [pathSpecificNetworkFailure, List.mem_filterMap] at hd
    obtain ⟨⟨target, v⟩, hentry, hd⟩ := hd
    split at hd
    · next hdisagree =>
      obtain ⟨entity, hentity, rfl⟩ := Option.map_eq_some_iff.mp hd
      rw [Std.ExtTreeMap.mem_toList_iff_getElem?_eq_some] at hentry
      obtain ⟨⟨host, hhost, rfl⟩, rfl, -⟩ := getElem?_verdictsByTarget.mp hentry
      rw [(context.entity_of_mem hhost).1, Option.some.injEq] at hentity
      obtain rfl : e = entity.id := List.mem_singleton.mp hnames
      rw [← hentity]
      exact ⟨host, hhost, rfl, hdisagree⟩
    · cases hd
  · rintro ⟨host, hhost, rfl, hdisagree⟩
    set verdicts := verdictsOf context host.id with hverdicts
    have hkind : (pathSpecificNetworkFailure.diagnosis context host verdicts).diagnosisType ∈
        [Kind.pathSpecificNetworkFailure] := List.mem_singleton_self _
    refine ⟨_, (mem_diagnose_of_kind hrule hkind).mpr ?_, hkind, List.mem_singleton_self _⟩
    rw [pathSpecificNetworkFailure, List.mem_filterMap]
    refine ⟨(host.id, verdicts), ?_, ?_⟩
    · have htotal : 0 < verdicts.total := by
        rw [Verdicts.disagreeAboutAWorkingPath, Verdicts.disagree, Bool.and_eq_true, Bool.and_eq_true,
          Bool.not_eq_true', Std.ExtTreeSet.isEmpty_eq_false_iff_exists] at hdisagree
        obtain ⟨a, ha⟩ := hdisagree.1.1
        exact Nat.add_pos_right _ (Std.ExtTreeSet.size_pos_of_mem ha)
      rw [Std.ExtTreeMap.mem_toList_iff_getElem?_eq_some]
      exact getElem?_verdictsByTarget.mpr ⟨⟨host, hhost, rfl⟩, hverdicts.symm, htotal⟩
    · rw [if_pos hdisagree, (context.entity_of_mem hhost).1]
      rfl

/-- **What the viewpoints on a host decide.**  An active host is found unreachable exactly
if two observers fail and none reaches it, and its path broken exactly if one observer
fails and another completes a connection: never both.  What a single observer, the host
itself or nobody in particular says decides neither. -/
theorem viewpoints_decide (entityId : EntityKey → EntityId) (environment : String)
    (inventory : Inventory) (states : Std.ExtTreeMap EntityId EntityState) (os : List Observation)
    {host : ManagedEntity}
    (hhost : host ∈ DiagnosisContext.entitiesOfType
      ⟨environment, inventory, states, ObservationIndex.new.insertAll os⟩ .host) :
    let diagnoses := diagnose (builtinRules entityId)
      ⟨environment, inventory, states, ObservationIndex.new.insertAll os⟩
    (NamedAs diagnoses [Kind.hostUnreachable] host.id ↔
      (∃ a b, a ≠ b ∧ Unreached os host.id a ∧ Unreached os host.id b) ∧ ∀ c, ¬ Reached os host.id c) ∧
    (NamedAs diagnoses [Kind.pathSpecificNetworkFailure] host.id ↔
      ∃ a b, a ≠ b ∧ Unreached os host.id a ∧ Connected os host.id b) ∧
    ¬ (NamedAs diagnoses [Kind.hostUnreachable] host.id ∧
      NamedAs diagnoses [Kind.pathSpecificNetworkFailure] host.id) ∧
    ∀ observer, (∀ o ∈ os, o.targetEntity = host.id →
        o.observerEntity = none ∨ o.observerEntity = some host.id ∨ o.observerEntity = some observer) →
      ¬ NamedAs diagnoses [Kind.hostUnreachable, Kind.pathSpecificNetworkFailure] host.id := by
  intro diagnoses
  set context : DiagnosisContext :=
    ⟨environment, inventory, states, ObservationIndex.new.insertAll os⟩ with hcontext
  have hmem := mem_verdictsOf environment inventory states os host.id
  set verdicts := verdictsOf context host.id with hverdicts
  have hunreachable : NamedAs diagnoses [Kind.hostUnreachable] host.id ↔
      (∃ a b, a ≠ b ∧ Unreached os host.id a ∧ Unreached os host.id b) ∧ ∀ c, ¬ Reached os host.id c := by
    have hnamed : NamedAs diagnoses [Kind.hostUnreachable] host.id ↔
        verdicts.unanimouslyUnreachable = true := by
      refine namedAs_unreachable_iff.trans ⟨fun h => ?_, fun h => ⟨host, hhost, rfl, h⟩⟩
      obtain ⟨-, -, -, h⟩ := h
      exact h
    rw [hnamed, Verdicts.unanimouslyUnreachable, Bool.and_eq_true, decide_eq_true_iff]
    refine and_congr ?_ ?_
    · rw [← Nat.lt_iff_add_one_le, Std.ExtTreeSet.one_lt_size_iff]
      constructor
      · rintro ⟨a, ha, b, hb, hne⟩
        exact ⟨a, b, hne.symm, (hmem a).1.mp ha, (hmem b).1.mp hb⟩
      · rintro ⟨a, b, hne, ha, hb⟩
        exact ⟨a, (hmem a).1.mpr ha, b, (hmem b).1.mpr hb, hne.symm⟩
    · rw [← Bool.not_eq_false, Std.ExtTreeSet.isEmpty_eq_false_iff_exists, not_exists]
      exact forall_congr' fun c => not_congr (hmem c).2.1
  have hpath : NamedAs diagnoses [Kind.pathSpecificNetworkFailure] host.id ↔
      ∃ a b, a ≠ b ∧ Unreached os host.id a ∧ Connected os host.id b := by
    have hnamed : NamedAs diagnoses [Kind.pathSpecificNetworkFailure] host.id ↔
        verdicts.disagreeAboutAWorkingPath = true := by
      refine namedAs_path_iff.trans ⟨fun h => ?_, fun h => ⟨host, hhost, rfl, h⟩⟩
      obtain ⟨-, -, -, h⟩ := h
      exact h
    rw [hnamed, Verdicts.disagreeAboutAWorkingPath, Verdicts.disagree]
    simp only [Bool.and_eq_true, Bool.not_eq_true', Std.ExtTreeSet.isEmpty_eq_false_iff_exists]
    constructor
    · rintro ⟨⟨⟨a, ha⟩, -⟩, b, hb⟩
      have ha := (hmem a).1.mp ha
      have hb := (hmem b).2.2.mp hb
      exact ⟨a, b, fun hab => hb.reached.not_unreached (hab ▸ ha), ha, hb⟩
    · rintro ⟨a, b, -, ha, hb⟩
      exact ⟨⟨⟨a, (hmem a).1.mpr ha⟩, b, (hmem b).2.1.mpr hb.reached⟩, b, (hmem b).2.2.mpr hb⟩
  refine ⟨hunreachable, hpath, ?_, ?_⟩
  · rintro ⟨hdead, hbroken⟩
    obtain ⟨a, b, -, -, hb⟩ := hpath.mp hbroken
    exact (hunreachable.mp hdead).2 b hb.reached
  · intro observer hsingle hnamed
    -- both conclusions need two observers with a view
    have hview : ∀ {a o}, view os host.id a = some o → a = observer := by
      intro a o ho
      obtain ⟨hne, hmem, htarget, hobserver⟩ := exists_mem_of_view ho
      rcases hsingle o hmem htarget with h | h | h
      · rw [hobserver] at h
        cases h
      · rw [hobserver, Option.some.injEq] at h
        exact absurd h hne
      · rwa [hobserver, Option.some.injEq] at h
    rw [namedAs_iff_exists] at hnamed
    obtain ⟨kind, hkind, hnamed⟩ := hnamed
    simp only [List.mem_cons, List.not_mem_nil, or_false] at hkind
    rcases hkind with rfl | rfl
    · obtain ⟨⟨a, b, hne, ⟨o, ho, -⟩, ⟨o', ho', -⟩⟩, -⟩ := hunreachable.mp hnamed
      exact hne ((hview ho).trans (hview ho').symm)
    · obtain ⟨a, b, hne, ⟨o, ho, -⟩, ⟨o', ho', -⟩⟩ := hpath.mp hnamed
      exact hne ((hview ho).trans (hview ho').symm)

/-- Two observers fail to reach a host that reaches itself: it is found unreachable. -/
theorem viewpoints_decide_two_failures :
    let report (observer : ℕ) (status : ProbeStatus) : Observation :=
      ⟨⟨⟨observer⟩⟩, probeNetwork, ⟨⟨1⟩⟩, some ⟨⟨observer⟩⟩, 0, status, .null⟩
    let os := [report 1 .ok, report 2 .failed, report 3 .timeout]
    let host := ManagedEntity.new ⟨⟨1⟩⟩ .host "node-a"
    NamedAs (diagnose (builtinRules fun _ => ⟨⟨0⟩⟩)
      ⟨"lab", Inventory.new.insertEntity host, ∅, ObservationIndex.new.insertAll os⟩)
      [Kind.hostUnreachable] host.id := by
  intro report os host
  have hhost : host ∈ DiagnosisContext.entitiesOfType
      ⟨"lab", Inventory.new.insertEntity host, ∅, ObservationIndex.new.insertAll os⟩ .host := by
    rw [DiagnosisContext.mem_entitiesOfType]
    exact ⟨Std.ExtTreeMap.getElem?_insert_self, rfl, rfl⟩
  have hfails : ∀ observer : ℕ, observer = 2 ∨ observer = 3 → Unreached os host.id ⟨⟨observer⟩⟩ := by
    rintro observer (rfl | rfl)
    · exact ⟨report 2 .failed, rfl, rfl⟩
    · exact ⟨report 3 .timeout, rfl, rfl⟩
  refine (viewpoints_decide (fun _ => ⟨⟨0⟩⟩) "lab" (Inventory.new.insertEntity host) ∅ os hhost).1.mpr
    ⟨⟨⟨⟨2⟩⟩, ⟨⟨3⟩⟩, by decide, hfails 2 (Or.inl rfl), hfails 3 (Or.inr rfl)⟩, ?_⟩
  rintro c ⟨o, ho, hreached⟩
  obtain ⟨hne, hmem, -, hobserver⟩ := exists_mem_of_view ho
  simp only [os, List.mem_cons, List.not_mem_nil, or_false] at hmem
  rcases hmem with rfl | rfl | rfl
  · exact hne (Option.some.inj hobserver).symm
  · revert hreached
    decide +kernel
  · revert hreached
    decide +kernel

end Sentinel
