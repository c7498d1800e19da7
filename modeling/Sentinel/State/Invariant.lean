import Sentinel.State.Engine

/-!
# The engine's verdicts are up to date

Streams, the set of disabled probes and the recorded states are changed
separately, so a component's record may be stale in the middle of a call.  The
invariant is therefore stated up to a set of components still to be recomputed:
a change of streams adds the components it touches to that set, a recomputation
takes one out, and at the end of every call the set is empty.

## Main definitions

* `StateEngine.Votes`, `StateEngine.Contributes` — which streams count towards a
  component.
* `StateEngine.Verdict` — a record that says what its contributors say.
* `StateEngine.SettledExcept`, `StateEngine.Settled` — the invariant, up to a set
  of components and without exception.
* `StateTransition.Describes` — a transition that reports a call's change.

## Main results

* `StateEngine.SettledExcept.recompute` — a recomputation settles its component.
* `StateEngine.settled_run` — the engine is settled after every run.
* `StateEngine.verdicts_and_transitions` — what that means for the records, the
  rollup and the returned transitions.
-/

namespace Sentinel

namespace StateEngine

/-! ### Contributors -/

/-- `s` is a stream of an enabled probe that informs the component. -/
def Votes (engine : StateEngine) (e : EntityId) (c : StateComponent) (s : StateStream) : Prop :=
  (∃ k : StreamKey, engine.streams[k]? = some s) ∧ s.entity = e ∧ s.component = c ∧
    engine.probeEnabled e s.probe = true

/-- `s` votes, and is not an expired stream of a probe that another one still
measures. -/
def Contributes (engine : StateEngine) (e : EntityId) (c : StateComponent) (s : StateStream) :
    Prop :=
  engine.Votes e c s ∧ (s.expired = true →
    ∀ other, engine.Votes e c other → other.probe = s.probe → other.expired = true)

/-- The healths the contributors report. -/
def contributed (engine : StateEngine) (e : EntityId) (c : StateComponent) : Set Health :=
  { h | ∃ s, engine.Contributes e c s ∧ s.state.health = h }

variable {engine engine' : StateEngine} {e : EntityId} {c : StateComponent}

theorem mem_voters {s : StateStream} : s ∈ engine.voters e c ↔ engine.Votes e c s := by
  simp only [voters, List.mem_filter, Std.ExtTreeMap.mem_vals, decide_eq_true_eq, Votes]

theorem mem_contributors {s : StateStream} :
    s ∈ engine.contributors e c ↔ engine.Contributes e c s := by
  simp only [contributors, List.mem_filter, mem_voters, Contributes, Bool.or_eq_true,
    Bool.not_eq_true', List.any_eq_false, Bool.and_eq_true, decide_eq_true_eq, not_and,
    Bool.not_eq_false]
  refine and_congr_right fun _ => ?_
  cases s.expired <;> simp

/-- Who contributes depends on nothing but who votes. -/
theorem contributes_congr (h : ∀ s, engine.Votes e c s ↔ engine'.Votes e c s) (s : StateStream) :
    engine.Contributes e c s ↔ engine'.Contributes e c s := by
  simp only [Contributes, h]

/-- The record `r` says what the contributors of its component say. -/
structure Verdict (engine : StateEngine) (e : EntityId) (c : StateComponent)
    (r : ComponentState) : Prop where
  worst : IsWorst Health.severityRank .notApplicable (engine.contributed e c) r.health
  sorted : r.evidence.Pairwise (· < ·)
  mem_evidence : ∀ id, id ∈ r.evidence ↔ ∃ s, engine.Contributes e c s ∧ id ∈ s.state.evidence

theorem Verdict.congr {r : ComponentState} (h : ∀ s, engine.Votes e c s ↔ engine'.Votes e c s)
    (hr : engine.Verdict e c r) : engine'.Verdict e c r := by
  have hc := contributes_congr h
  have hset : engine'.contributed e c = engine.contributed e c := by
    simp only [contributed, hc]
  exact ⟨hset ▸ hr.worst, hr.sorted, fun id => by simp only [hr.mem_evidence id, hc]⟩

/-- **The combination is a verdict**: the worst of the contributors, with the
evidence of all of them. -/
theorem verdict_combined (engine : StateEngine) (now : Timestamp) (e : EntityId)
    (c : StateComponent) (since : Timestamp) :
    engine.Verdict e c { engine.combined now e c with since := since } := by
  refine ⟨?_, List.pairwise_sortDedup _, fun id => ?_⟩
  · change IsWorst _ _ _ (engine.combined now e c).health
    rw [combined_health]
    cases hw : (engine.contributors e c).maxByKey
        fun s => (s.state.health.severityRank, s.probe, s.observer) with
    | none =>
      rw [List.maxByKey_eq_none_iff] at hw
      refine Or.inr ⟨Set.eq_empty_of_forall_notMem ?_, rfl⟩
      rintro h ⟨s, hs, -⟩
      rw [← mem_contributors, hw] at hs
      exact List.not_mem_nil hs
    | some w =>
      refine Or.inl ⟨⟨w, mem_contributors.mp (List.maxByKey_mem hw), rfl⟩, ?_⟩
      rintro h ⟨s, hs, rfl⟩
      exact Nat.isLE_compare.mp
        (Prod.isLE_fst_of_isLE (List.isLE_maxByKey hw (mem_contributors.mpr hs)))
  · simp only [combined, List.mem_sortDedup, List.mem_flatMap, mem_contributors]

/-! ### The invariant -/

/-- Some stream informs the component. -/
def HasStream (engine : StateEngine) (e : EntityId) (c : StateComponent) : Prop :=
  ∃ (k : StreamKey) (s : StateStream),
    engine.streams[k]? = some s ∧ s.entity = e ∧ s.component = c

/-- Every record is up to date, except perhaps those of the components in `D`. -/
structure SettledExcept (D : Set (EntityId × StateComponent)) (engine : StateEngine) : Prop where
  keyed : ∀ (k : StreamKey) (s : StateStream), engine.streams[k]? = some s → s.key = k
  registered : ∀ (k : StreamKey) (s : StateStream), engine.streams[k]? = some s →
    ∃ mapping : ProbeMapping, engine.mappings[s.probe]? = some mapping ∧
      mapping.component = s.component
  recorded_of_stream : ∀ e c, engine.HasStream e c → (e, c) ∉ D →
    ∃ r, engine.recorded e c = some r
  stream_of_recorded : ∀ e c r, engine.recorded e c = some r → engine.HasStream e c
  verdict : ∀ e c r, (e, c) ∉ D → engine.recorded e c = some r → engine.Verdict e c r
  overall : ∀ (e : EntityId) (state : EntityState), engine.states[e]? = some state →
    state.overall = state.rollup

/-- Every record is up to date. -/
def Settled (engine : StateEngine) : Prop := engine.SettledExcept ∅

variable {D D' : Set (EntityId × StateComponent)}

theorem SettledExcept.mono (h : engine.SettledExcept D) (hD : D ⊆ D') :
    engine.SettledExcept D' :=
  { h with
    recorded_of_stream := fun e c hs hec => h.recorded_of_stream e c hs fun hd => hec (hD hd)
    verdict := fun e c r hec hr => h.verdict e c r (fun hd => hec (hD hd)) hr }

theorem settled_new : StateEngine.new.Settled where
  keyed := fun k s h => by simp [new] at h
  registered := fun k s h => by simp [new] at h
  recorded_of_stream := fun e c h => by
    obtain ⟨k, s, hk, -⟩ := h
    simp [new] at hk
  stream_of_recorded := fun e c r h => by simp [recorded, new] at h
  verdict := fun e c r _ h => by simp [recorded, new] at h
  overall := fun e state h => by simp [new] at h

/-- The streams of one probe of one entity inform one component. -/
theorem SettledExcept.component_eq (h : engine.SettledExcept D) {k k' : StreamKey}
    {s s' : StateStream} (hs : engine.streams[k]? = some s) (hs' : engine.streams[k']? = some s')
    (hp : s.probe = s'.probe) : s.component = s'.component := by
  obtain ⟨m, hm, hc⟩ := h.registered k s hs
  obtain ⟨m', hm', hc'⟩ := h.registered k' s' hs'
  rw [hp, hm', Option.some.injEq] at hm
  rw [← hc, ← hc', hm]

/-- A component without streams is not recorded, so a new stream starts from
`unknown` or `notApplicable`. -/
theorem SettledExcept.starting (h : engine.SettledExcept D) (now : Timestamp) (e : EntityId)
    (c : StateComponent) :
    engine.starting now e c = .unknown ∨ engine.starting now e c = .notApplicable := by
  unfold StateEngine.starting
  split
  · exact Or.inl rfl
  · next hnone =>
    refine Or.inr ?_
    rw [component_stateOrUnknown]
    by_contra hne
    obtain ⟨r, hr⟩ := recorded_of_health_ne hne
    obtain ⟨k, s, hs, he, hc⟩ := h.stream_of_recorded e c r hr
    refine hnone (List.any_eq_true.mpr ⟨s, Std.ExtTreeMap.mem_vals.mpr ⟨k, hs⟩, ?_⟩)
    simp [he, hc]

/-- **What a component reads is the worst its contributors report**, whether or
not it is recorded. -/
theorem Settled.isWorst_health (h : engine.Settled) (e : EntityId) (c : StateComponent) :
    IsWorst Health.severityRank .notApplicable (engine.contributed e c) (engine.health e c) := by
  cases hr : engine.recorded e c with
  | some r =>
    rw [health_of_recorded hr]
    exact (h.verdict e c r (Set.notMem_empty _) hr).worst
  | none =>
    refine Or.inr ⟨Set.eq_empty_of_forall_notMem ?_, by rw [health, hr]; rfl⟩
    rintro w ⟨s, ⟨⟨⟨k, hs⟩, he, hc, -⟩, -⟩, -⟩
    obtain ⟨r, hr'⟩ := h.recorded_of_stream e c ⟨k, s, hs, he, hc⟩ (Set.notMem_empty _)
    rw [hr] at hr'
    cases hr'

/-- **A recomputation settles its component.** -/
theorem SettledExcept.recompute (h : engine.SettledExcept D) (hec : engine.HasStream e c)
    (now : Timestamp) : (engine.recompute now e c).1.SettledExcept (D \ {(e, c)}) where
  keyed := h.keyed
  registered := h.registered
  recorded_of_stream := by
    intro e' c' hs hD
    obtain ⟨since, hr⟩ := engine.recompute_recorded now e c e' c'
    rw [hr]
    split
    · exact ⟨_, rfl⟩
    · next hne =>
      exact h.recorded_of_stream e' c' hs fun hd => hD ⟨hd, fun heq => hne heq.symm⟩
  stream_of_recorded := by
    intro e' c' r hr
    obtain ⟨since, hr'⟩ := engine.recompute_recorded now e c e' c'
    rw [hr'] at hr
    split at hr
    · next heq => cases heq; exact hec
    · exact h.stream_of_recorded e' c' r hr
  verdict := by
    intro e' c' r hD hr
    obtain ⟨since, hr'⟩ := engine.recompute_recorded now e c e' c'
    rw [hr'] at hr
    refine Verdict.congr (fun s => (Iff.rfl : engine.Votes e' c' s ↔ _)) ?_
    split at hr
    · next heq =>
      cases heq
      rw [← Option.some.inj hr]
      exact verdict_combined engine now e c since
    · next hne => exact h.verdict e' c' r (fun hd => hD ⟨hd, fun heq => hne heq.symm⟩) hr
  overall := by
    intro e' state hs
    obtain ⟨since, hs'⟩ := engine.recompute_states now e c e'
    rw [hs'] at hs
    split at hs
    · rw [← Option.some.inj hs]; exact EntityState.setComponent_overall ..
    · exact h.overall e' state hs

/-- A change of streams or of what is enabled leaves the components stale whose
voters it changes, and no others. -/
theorem SettledExcept.of_votes (h : engine.SettledExcept D)
    (hkeyed : ∀ (k : StreamKey) (s : StateStream), engine'.streams[k]? = some s → s.key = k)
    (hreg : ∀ (k : StreamKey) (s : StateStream), engine'.streams[k]? = some s →
      ∃ mapping : ProbeMapping, engine'.mappings[s.probe]? = some mapping ∧
        mapping.component = s.component)
    (hrecorded : ∀ e c, engine'.recorded e c = engine.recorded e c)
    (hoverall : ∀ (e : EntityId) (state : EntityState), engine'.states[e]? = some state →
      state.overall = state.rollup)
    (hkeep : ∀ e c, engine.HasStream e c → engine'.HasStream e c)
    (hnew : ∀ e c, (e, c) ∉ D' → engine'.HasStream e c → engine.HasStream e c)
    (hvotes : ∀ e c, (e, c) ∉ D' → ∀ s, engine.Votes e c s ↔ engine'.Votes e c s) :
    engine'.SettledExcept (D ∪ D') where
  keyed := hkeyed
  registered := hreg
  recorded_of_stream := by
    intro e c hs hD
    rw [hrecorded]
    exact h.recorded_of_stream e c (hnew e c (fun hd => hD (Or.inr hd)) hs)
      fun hd => hD (Or.inl hd)
  stream_of_recorded := by
    intro e c r hr
    rw [hrecorded] at hr
    exact hkeep e c (h.stream_of_recorded e c r hr)
  verdict := by
    intro e c r hD hr
    rw [hrecorded] at hr
    exact (h.verdict e c r (fun hd => hD (Or.inl hd)) hr).congr
      (hvotes e c fun hd => hD (Or.inr hd))
  overall := hoverall

/-! ### What the calls change before they recompute -/

theorem putStream_streams (engine : StateEngine) (s : StateStream) (k : StreamKey) :
    (engine.putStream s).streams[k]? = if s.key = k then some s else engine.streams[k]? :=
  Std.ExtTreeMap.getElem?_insert_eq

/-- A stream that another one replaces informs the same component. -/
theorem SettledExcept.eq_of_replaced (h : engine.SettledExcept D) {s t : StateStream}
    {mapping : ProbeMapping} (hm : engine.mappings[s.probe]? = some mapping)
    (hc : mapping.component = s.component) (ht : engine.streams[s.key]? = some t) :
    t.entity = s.entity ∧ t.component = s.component := by
  have hk : t.key = s.key := h.keyed _ t ht
  refine ⟨congrArg Prod.fst hk, ?_⟩
  obtain ⟨m, hm', hc'⟩ := h.registered _ t ht
  rw [show t.probe = s.probe from congrArg (fun k => k.2.1) hk, hm, Option.some.injEq] at hm'
  rw [← hc', ← hm', hc]

theorem SettledExcept.hasStream_putStream (h : engine.SettledExcept D) {s : StateStream}
    {mapping : ProbeMapping} (hm : engine.mappings[s.probe]? = some mapping)
    (hc : mapping.component = s.component) (hs : engine.HasStream e c) :
    (engine.putStream s).HasStream e c := by
  obtain ⟨k, t, ht, he, hc'⟩ := hs
  by_cases hk : s.key = k
  · subst hk
    obtain ⟨he', hc''⟩ := h.eq_of_replaced hm hc ht
    exact ⟨s.key, s, (putStream_streams ..).trans (if_pos rfl), he' ▸ he, hc'' ▸ hc'⟩
  · exact ⟨k, t, (putStream_streams ..).trans ((if_neg hk).trans ht), he, hc'⟩

/-- Writing a stream under its key leaves its component stale. -/
theorem SettledExcept.putStream (h : engine.SettledExcept D) {s : StateStream}
    {mapping : ProbeMapping} (hm : engine.mappings[s.probe]? = some mapping)
    (hc : mapping.component = s.component) :
    (engine.putStream s).SettledExcept (D ∪ {(s.entity, s.component)}) := by
  refine h.of_votes ?_ ?_ (fun _ _ => rfl) h.overall
    (fun _ _ => h.hasStream_putStream hm hc) ?_ ?_
  · intro k t ht
    rw [putStream_streams] at ht
    split at ht
    · next hk => cases ht; exact hk
    · exact h.keyed k t ht
  · intro k t ht
    rw [putStream_streams] at ht
    split at ht
    · cases ht; exact ⟨mapping, hm, hc⟩
    · exact h.registered k t ht
  · rintro e c hD ⟨k, t, ht, he, hc⟩
    rw [putStream_streams] at ht
    split at ht
    · cases ht; exact absurd (by rw [← he, ← hc]; rfl) hD
    · exact ⟨k, t, ht, he, hc⟩
  · intro e c hD t
    have hne : ¬ (t.entity = e ∧ t.component = c ∧ t.entity = s.entity ∧
        t.component = s.component) := by
      rintro ⟨he, hc, he', hc'⟩
      exact hD (by rw [← he, ← hc, he', hc']; rfl)
    constructor
    · rintro ⟨⟨k, ht⟩, he, hc', hp⟩
      refine ⟨⟨k, ?_⟩, he, hc', hp⟩
      rw [putStream_streams, if_neg]
      · exact ht
      · rintro rfl
        exact hne ⟨he, hc', h.eq_of_replaced hm hc ht⟩
    · rintro ⟨⟨k, ht⟩, he, hc', hp⟩
      refine ⟨⟨k, ?_⟩, he, hc', hp⟩
      rw [putStream_streams] at ht
      split at ht
      · cases ht; exact absurd ⟨he, hc', rfl, rfl⟩ hne
      · exact ht

/-- Writing several streams leaves their components stale. -/
theorem SettledExcept.putStreams (streams : List StateStream) :
    ∀ {engine : StateEngine} {D : Set (EntityId × StateComponent)}, engine.SettledExcept D →
      (∀ s ∈ streams, ∃ mapping : ProbeMapping, engine.mappings[s.probe]? = some mapping ∧
        mapping.component = s.component) →
      (streams.foldl StateEngine.putStream engine).SettledExcept
        (D ∪ { p | p ∈ streams.map fun s => (s.entity, s.component) }) := by
  induction streams with
  | nil => intro engine D h _; exact h.mono Set.subset_union_left
  | cons s streams ih =>
    intro engine D h hreg
    obtain ⟨mapping, hm, hc⟩ := hreg s List.mem_cons_self
    refine (ih (h.putStream hm hc) fun t ht => hreg t (List.mem_cons_of_mem _ ht)).mono ?_
    rintro p ((hp | hp) | hp)
    · exact Or.inl hp
    · exact Or.inr (List.mem_cons.mpr (Or.inl hp))
    · exact Or.inr (List.mem_cons_of_mem _ hp)

/-- What is written in a row of streams keeps a stream for each component. -/
theorem SettledExcept.hasStream_putStreams (streams : List StateStream) :
    ∀ {engine : StateEngine} {D : Set (EntityId × StateComponent)}, engine.SettledExcept D →
      (∀ s ∈ streams, ∃ mapping : ProbeMapping, engine.mappings[s.probe]? = some mapping ∧
        mapping.component = s.component) →
      (∀ e c, engine.HasStream e c → (streams.foldl StateEngine.putStream engine).HasStream e c) ∧
      ∀ s ∈ streams, (streams.foldl StateEngine.putStream engine).HasStream s.entity
        s.component := by
  induction streams with
  | nil => intro engine D _ _; exact ⟨fun _ _ hs => hs, fun s hs => absurd hs List.not_mem_nil⟩
  | cons s streams ih =>
    intro engine D h hreg
    obtain ⟨mapping, hm, hc⟩ := hreg s List.mem_cons_self
    obtain ⟨hkeep, hall⟩ := ih (h.putStream hm hc) fun t ht => hreg t (List.mem_cons_of_mem _ ht)
    refine ⟨fun e c hs => hkeep e c (h.hasStream_putStream hm hc hs), fun t ht => ?_⟩
    rcases List.mem_cons.mp ht with rfl | ht
    · exact hkeep _ _ ⟨t.key, t, (putStream_streams ..).trans (if_pos rfl), rfl, rfl⟩
    · exact hall t ht

/-- A stream that lapses stays where it is. -/
theorem hasStream_lapseWhere {p : StateStream → Bool} :
    (engine.lapseWhere p).HasStream e c ↔ engine.HasStream e c := by
  have hget : ∀ k : StreamKey, (engine.lapseWhere p).streams[k]? =
      engine.streams[k]?.map fun s => if p s then s.lapse else s :=
    fun k => Std.ExtTreeMap.getElem?_map
  have hsame : ∀ s : StateStream, (if p s then s.lapse else s).entity = s.entity ∧
      (if p s then s.lapse else s).component = s.component := by
    intro s
    split <;> exact ⟨rfl, rfl⟩
  constructor
  · rintro ⟨k, t, ht, he, hc⟩
    rw [hget, Option.map_eq_some_iff] at ht
    obtain ⟨s, hs, rfl⟩ := ht
    exact ⟨k, s, hs, (hsame s).1 ▸ he, (hsame s).2 ▸ hc⟩
  · rintro ⟨k, s, hs, he, hc⟩
    exact ⟨k, _, by rw [hget, hs]; rfl, (hsame s).1.trans he, (hsame s).2.trans hc⟩

/-- Lapsing streams leaves their components stale. -/
theorem SettledExcept.lapseWhere (h : engine.SettledExcept D) (p : StateStream → Bool)
    (hD' : ∀ (k : StreamKey) (s : StateStream), engine.streams[k]? = some s → p s = true →
      (s.entity, s.component) ∈ D') :
    (engine.lapseWhere p).SettledExcept (D ∪ D') := by
  have hget : ∀ k : StreamKey, (engine.lapseWhere p).streams[k]? =
      engine.streams[k]?.map fun s => if p s then s.lapse else s :=
    fun k => Std.ExtTreeMap.getElem?_map
  have hback : ∀ (k : StreamKey) (t : StateStream), (engine.lapseWhere p).streams[k]? = some t →
      ∃ s, engine.streams[k]? = some s ∧ t = if p s then s.lapse else s := by
    intro k t ht
    rw [hget, Option.map_eq_some_iff] at ht
    obtain ⟨s, hs, rfl⟩ := ht
    exact ⟨s, hs, rfl⟩
  have hsame : ∀ s : StateStream, (if p s then s.lapse else s).entity = s.entity ∧
      (if p s then s.lapse else s).probe = s.probe ∧
      (if p s then s.lapse else s).component = s.component ∧
      (if p s then s.lapse else s).key = s.key := by
    intro s
    split <;> exact ⟨rfl, rfl, rfl, rfl⟩
  refine h.of_votes ?_ ?_ (fun _ _ => rfl) h.overall ?_ ?_ ?_
  · intro k t ht
    obtain ⟨s, hs, rfl⟩ := hback k t ht
    rw [(hsame s).2.2.2]
    exact h.keyed k s hs
  · intro k t ht
    obtain ⟨s, hs, rfl⟩ := hback k t ht
    rw [(hsame s).2.1, (hsame s).2.2.1]
    exact h.registered k s hs
  · exact fun e c => hasStream_lapseWhere.mpr
  · exact fun e c _ => hasStream_lapseWhere.mp
  · intro e c hec t
    -- a stream of a component outside `D'` does not lapse
    have hstay : ∀ (k : StreamKey) (s : StateStream), engine.streams[k]? = some s →
        s.entity = e → s.component = c → (if p s then s.lapse else s) = s := by
      intro k s hs he hc
      refine if_neg fun hp => hec ?_
      rw [← he, ← hc]
      exact hD' k s hs hp
    constructor
    · rintro ⟨⟨k, hs⟩, he, hc, hp⟩
      exact ⟨⟨k, by rw [hget, hs, Option.map_some, hstay k t hs he hc]⟩, he, hc, hp⟩
    · rintro ⟨⟨k, ht⟩, he, hc, hp⟩
      obtain ⟨s, hs, rfl⟩ := hback k t ht
      have heq := hstay k s hs ((hsame s).1 ▸ he) ((hsame s).2.2.1 ▸ hc)
      rw [heq] at he hc hp ⊢
      exact ⟨⟨k, hs⟩, he, hc, hp⟩

/-- Changing whether one probe of one entity is enabled leaves the component of
that probe stale. -/
theorem SettledExcept.setDisabled (h : engine.SettledExcept D) {probe : ProbeId}
    {mapping : ProbeMapping} {disabled : Std.ExtTreeSet (EntityId × ProbeId)}
    (hm : engine.mappings[probe]? = some mapping)
    (hd : ∀ p, p ≠ (e, probe) → (disabled.contains p = engine.disabled.contains p)) :
    { engine with disabled := disabled }.SettledExcept (D ∪ {(e, mapping.component)}) := by
  refine h.of_votes h.keyed h.registered (fun _ _ => rfl) h.overall (fun _ _ hs => hs)
    (fun _ _ _ hs => hs) ?_
  intro e' c' hec s
  have henabled : (∃ k : StreamKey, engine.streams[k]? = some s) → s.entity = e' →
      s.component = c' → disabled.contains (e', s.probe) =
        engine.disabled.contains (e', s.probe) := by
    rintro ⟨k, hs⟩ - hc
    refine hd _ fun heq => hec ?_
    obtain ⟨he, hp⟩ := Prod.mk.inj heq
    obtain ⟨m, hm', hc'⟩ := h.registered k s hs
    rw [hp, hm, Option.some.injEq] at hm'
    rw [he, ← hc, ← hc', ← hm']
    rfl
  constructor
  · rintro ⟨hs, he, hc, hp⟩
    refine ⟨hs, he, hc, ?_⟩
    rw [probeEnabled] at hp ⊢
    rw [henabled hs he hc]
    exact hp
  · rintro ⟨hs, he, hc, hp⟩
    refine ⟨hs, he, hc, ?_⟩
    rw [probeEnabled] at hp ⊢
    rw [← henabled hs he hc]
    exact hp

/-- Giving an entity an empty state leaves nothing stale. -/
theorem SettledExcept.touch (h : engine.SettledExcept D) (now : Timestamp) (e : EntityId) :
    (engine.touch now e).SettledExcept D := by
  have hoverall : ∀ (e' : EntityId) (state : EntityState),
      (engine.touch now e).states[e']? = some state → state.overall = state.rollup := by
    intro e' state hs
    have hget : (engine.touch now e).states[e']? =
        if e = e' then some (engine.stateOrUnknown now e) else engine.states[e']? :=
      Std.ExtTreeMap.getElem?_insert_eq
    rw [hget] at hs
    split at hs
    · cases hs
      unfold stateOrUnknown
      cases he : engine.states[e]? with
      | none => rfl
      | some state => exact h.overall e state he
    · exact h.overall e' state hs
  have htouch : (engine.touch now e).SettledExcept (D ∪ ∅) :=
    h.of_votes h.keyed h.registered (engine.touch_recorded now e) hoverall (fun _ _ hs => hs)
      (fun _ _ _ hs => hs) fun _ _ _ _ => Iff.rfl
  rwa [Set.union_empty] at htouch

/-- The stream an observation is folded into has the observation's key, and
informs the component its probe is registered for. -/
theorem SettledExcept.streamFor (h : engine.SettledExcept D) {o : Observation}
    {mapping : ProbeMapping} (hm : engine.mappings[o.probeId]? = some mapping) (now : Timestamp) :
    (engine.streamFor now mapping o).key = o.streamKey ∧
      (engine.streamFor now mapping o).component = mapping.component := by
  unfold StateEngine.streamFor
  cases hs : engine.streams[o.streamKey]? with
  | none => exact ⟨rfl, rfl⟩
  | some s =>
    have hkey := h.keyed _ s hs
    obtain ⟨m, hm', hc⟩ := h.registered _ s hs
    rw [show s.probe = o.probeId from congrArg (fun k => k.2.1) hkey, hm,
      Option.some.injEq] at hm'
    exact ⟨hkey, hm' ▸ hc.symm⟩

/-- Folding an observation into its stream leaves its component stale. -/
theorem SettledExcept.absorb (h : engine.SettledExcept D) {o : Observation}
    {mapping : ProbeMapping} (hm : engine.mappings[o.probeId]? = some mapping) (now : Timestamp) :
    (engine.absorb now mapping o).SettledExcept (D ∪ {(o.targetEntity, mapping.component)}) ∧
      (engine.absorb now mapping o).HasStream o.targetEntity mapping.component := by
  obtain ⟨hkey, hcomp⟩ := h.streamFor hm now
  have he : (engine.streamFor now mapping o).entity = o.targetEntity := congrArg Prod.fst hkey
  have hp : (engine.streamFor now mapping o).probe = o.probeId :=
    congrArg (fun k => k.2.1) hkey
  refine ⟨?_, o.streamKey, (engine.streamFor now mapping o).accept o,
    Std.ExtTreeMap.getElem?_insert_self, he, hcomp⟩
  have hm' : (engine.touch now o.targetEntity).mappings[((engine.streamFor now mapping o).accept
      o).probe]? = some mapping := hp ▸ hm
  have hput := (h.touch now o.targetEntity).putStream hm' hcomp.symm
  rw [StateStream.accept_entity, StateStream.accept_component, he, hcomp] at hput
  rw [StateEngine.putStream, StateStream.accept_key, hkey] at hput
  exact hput

/-! ### Every call settles the engine -/

/-- What a call leaves stale and then recomputes is settled in the end. -/
theorem union_sdiff_subset {α : Type*} {D P : Set α} : (D ∪ P) \ P ⊆ D := by
  rintro p ⟨hp | hp, hne⟩
  · exact hp
  · exact absurd hp hne

/-- Recomputing writes states and nothing else. -/
theorem recomputeAll_frame (now : Timestamp) (pairs : List (EntityId × StateComponent)) :
    ∀ engine, ∃ states, (recomputeAll now engine pairs).1 = { engine with states := states } := by
  induction pairs with
  | nil => intro engine; exact ⟨engine.states, rfl⟩
  | cons p pairs ih =>
    intro engine
    obtain ⟨states, h⟩ := ih (engine.recompute now p.1 p.2).1
    exact ⟨states, h⟩

@[simp] theorem recomputeAll_streams (now : Timestamp) (pairs : List (EntityId × StateComponent))
    (engine : StateEngine) : (recomputeAll now engine pairs).1.streams = engine.streams := by
  obtain ⟨states, h⟩ := recomputeAll_frame now pairs engine
  rw [h]

@[simp] theorem recomputeAll_mappings (now : Timestamp) (pairs : List (EntityId × StateComponent))
    (engine : StateEngine) : (recomputeAll now engine pairs).1.mappings = engine.mappings := by
  obtain ⟨states, h⟩ := recomputeAll_frame now pairs engine
  rw [h]

@[simp] theorem recomputeAll_disabled (now : Timestamp) (pairs : List (EntityId × StateComponent))
    (engine : StateEngine) : (recomputeAll now engine pairs).1.disabled = engine.disabled := by
  obtain ⟨states, h⟩ := recomputeAll_frame now pairs engine
  rw [h]

theorem SettledExcept.recomputeAll (now : Timestamp) (pairs : List (EntityId × StateComponent)) :
    ∀ {engine : StateEngine} {D : Set (EntityId × StateComponent)}, engine.SettledExcept D →
      (∀ p ∈ pairs, engine.HasStream p.1 p.2) →
      (StateEngine.recomputeAll now engine pairs).1.SettledExcept (D \ { p | p ∈ pairs }) := by
  induction pairs with
  | nil => intro engine D h _; exact h.mono fun p hp => ⟨hp, List.not_mem_nil⟩
  | cons p pairs ih =>
    intro engine D h hs
    refine (ih (h.recompute (hs p List.mem_cons_self) now)
      fun q hq => hs q (List.mem_cons_of_mem _ hq)).mono ?_
    rintro q ⟨⟨hq, hqp⟩, hqs⟩
    refine ⟨hq, fun hmem => ?_⟩
    rcases List.mem_cons.mp hmem with rfl | hmem
    · exact hqp rfl
    · exact hqs hmem

theorem Settled.ingest (h : engine.Settled) (now : Timestamp) (o : Observation) :
    (engine.ingest now o).1.Settled := by
  unfold StateEngine.ingest
  cases hm : engine.admits now o with
  | none => exact h
  | some mapping =>
    obtain ⟨habsorb, hs⟩ := h.absorb (mapping_of_gate (admits_eq_some.mp hm).1) now
    exact (habsorb.recompute hs now).mono union_sdiff_subset

theorem Settled.expire (h : engine.Settled) (now at_ : Timestamp)
    (horizon : StateStream → Duration) : (engine.expire now at_ horizon).1.Settled := by
  have hlapse : (engine.lapseWhere (engine.silent at_ horizon)).SettledExcept
      (∅ ∪ { p | p ∈ (engine.silenced at_ horizon).toList }) :=
    SettledExcept.lapseWhere h _ fun k s hs hp => mem_silenced.mpr ⟨k, s, hs, hp, rfl⟩
  refine (hlapse.recomputeAll now _ ?_).mono union_sdiff_subset
  intro p hp
  obtain ⟨k, s, hs, hsilent, rfl⟩ := mem_silenced.mp hp
  refine ⟨k, s.lapse, ?_, rfl, rfl⟩
  exact Std.ExtTreeMap.getElem?_map.trans (by rw [hs, Option.map_some, if_pos hsilent])

/-- A stale component that is recomputed if it is recorded is settled. -/
theorem SettledExcept.recomputeRecorded (h : engine.SettledExcept (D ∪ {(e, c)}))
    (hs : engine.HasStream e c → (e, c) ∉ D → ∃ r, engine.recorded e c = some r)
    (now : Timestamp) : (engine.recomputeRecorded now e c).1.SettledExcept D := by
  have hiff : (engine.states[e]?.any fun s => s.components.contains c) = true ↔
      ∃ r, engine.recorded e c = some r := by
    unfold recorded
    cases engine.states[e]? with
    | none => simp
    | some state =>
      rw [Option.any_some, Option.bind_some, Std.ExtTreeMap.contains_eq_isSome_getElem?,
        Option.isSome_iff_exists]
  unfold StateEngine.recomputeRecorded
  split
  · next hrec =>
    obtain ⟨r, hr⟩ := hiff.mp hrec
    exact (h.recompute (h.stream_of_recorded e c r hr) now).mono union_sdiff_subset
  · next hrec =>
    -- without a record there is nothing to be stale
    rw [hiff] at hrec
    refine { h with recorded_of_stream := ?_, verdict := ?_ }
    · intro e' c' hs' hD
      by_cases hp : (e', c') = (e, c)
      · cases hp; exact absurd (hs hs' hD) hrec
      · exact h.recorded_of_stream e' c' hs' fun hd => hd.elim hD hp
    · intro e' c' r hD hr
      by_cases hp : (e', c') = (e, c)
      · cases hp; exact absurd ⟨r, hr⟩ hrec
      · exact h.verdict e' c' r (fun hd => hd.elim hD hp) hr

/-- Flipping a probe leaves the component of that probe stale. -/
theorem SettledExcept.toggle (h : engine.SettledExcept D) {probe : ProbeId}
    {mapping : ProbeMapping} (hm : engine.mappings[probe]? = some mapping) (enabled : Bool) :
    (engine.toggle e probe enabled).SettledExcept (D ∪ {(e, mapping.component)}) := by
  cases enabled with
  | true =>
    have herase : ∀ p, p ≠ (e, probe) →
        (engine.disabled.erase (e, probe)).contains p = engine.disabled.contains p := by
      intro p hp
      rw [Bool.eq_iff_iff, Std.ExtTreeSet.contains_iff_mem, Std.ExtTreeSet.contains_iff_mem,
        Std.ExtTreeSet.mem_erase_iff]
      exact and_iff_right hp
    have hcomponent : ∀ (k : StreamKey) (s : StateStream), engine.streams[k]? = some s →
        (s.entity = e && s.probe = probe) = true →
        (s.entity, s.component) ∈ ({(e, mapping.component)} : Set _) := by
      intro k s hs hp
      obtain ⟨he, hp⟩ : s.entity = e ∧ s.probe = probe := by simpa using hp
      obtain ⟨m, hm', hc⟩ := h.registered k s hs
      rw [hp, hm, Option.some.injEq] at hm'
      rw [he, ← hc, ← hm']
      rfl
    have hlapse := (h.setDisabled hm herase).lapseWhere _ hcomponent
    rw [Set.union_assoc, Set.union_self] at hlapse
    exact hlapse
  | false =>
    refine h.setDisabled (e := e) hm fun p hp => ?_
    rw [Bool.eq_iff_iff, Std.ExtTreeSet.contains_iff_mem, Std.ExtTreeSet.contains_iff_mem,
      Std.ExtTreeSet.mem_insert_iff]
    exact or_iff_right hp

theorem hasStream_toggle {probe : ProbeId} {e' : EntityId} {enabled : Bool} :
    (engine.toggle e' probe enabled).HasStream e c ↔ engine.HasStream e c := by
  cases enabled with
  | true => exact hasStream_lapseWhere
  | false => exact Iff.rfl

/-- Flipping a probe records nothing yet. -/
theorem toggle_states {probe : ProbeId} {enabled : Bool} :
    (engine.toggle e probe enabled).states = engine.states := by
  cases enabled <;> rfl

theorem Settled.setProbeEnabled (h : engine.Settled) (now : Timestamp) (e : EntityId)
    (probe : ProbeId) (enabled : Bool) :
    (engine.setProbeEnabled now e probe enabled).1.Settled := by
  unfold StateEngine.setProbeEnabled
  cases hm : engine.mappings[probe]? with
  | none => exact h
  | some mapping =>
    dsimp only
    generalize (if enabled = true then _ else _ : Bool) = changed
    cases changed with
    | false => exact h
    | true =>
      refine (SettledExcept.toggle h hm enabled).recomputeRecorded (fun hs hD => ?_) now
      rw [recorded, toggle_states]
      exact h.recorded_of_stream e mapping.component (hasStream_toggle.mp hs) hD

theorem Settled.seedStreams (h : engine.Settled) {streams : List StateStream}
    (hreg : ∀ s ∈ streams, ∃ mapping : ProbeMapping,
      engine.mappings[s.probe]? = some mapping ∧ mapping.component = s.component)
    (now : Timestamp) : (engine.seedStreams now streams).Settled := by
  have hput := SettledExcept.putStreams streams h hreg
  refine (hput.recomputeAll now _ ?_).mono ?_
  · intro p hp
    rw [Std.ExtTreeSet.mem_toList_ofList] at hp
    obtain ⟨s, hs, rfl⟩ := List.mem_map.mp hp
    exact (SettledExcept.hasStream_putStreams streams h hreg).2 s hs
  · rintro p ⟨hp | hp, hne⟩
    · exact hp
    · exact absurd (Std.ExtTreeSet.mem_toList_ofList.mpr hp) hne

/-- A change that touches neither streams nor states nor what is disabled. -/
theorem Settled.of_same_votes (h : engine.Settled)
    (hreg : ∀ (k : StreamKey) (s : StateStream), engine.streams[k]? = some s →
      ∃ mapping : ProbeMapping, engine'.mappings[s.probe]? = some mapping ∧
        mapping.component = s.component)
    (hstreams : engine'.streams = engine.streams) (hstates : engine'.states = engine.states)
    (hdisabled : engine'.disabled = engine.disabled) : engine'.Settled := by
  obtain ⟨mappings, streams, states, disabled, cutoff⟩ := engine'
  cases hstreams; cases hstates; cases hdisabled
  have h' : SettledExcept (∅ ∪ ∅)
      ⟨mappings, engine.streams, engine.states, engine.disabled, cutoff⟩ :=
    SettledExcept.of_votes h h.keyed hreg (fun _ _ => rfl) h.overall (fun _ _ hs => hs)
      (fun _ _ _ hs => hs) fun _ _ _ _ => Iff.rfl
  rwa [Set.union_empty] at h'

theorem Settled.register (h : engine.Settled) {probe : ProbeId} {mapping : ProbeMapping}
    (hsame : ∀ (k : StreamKey) (s : StateStream), engine.streams[k]? = some s →
      s.probe = probe → mapping.component = s.component) :
    (engine.register probe mapping).Settled := by
  refine Settled.of_same_votes h ?_ rfl rfl rfl
  intro k s hs
  have hget : (engine.register probe mapping).mappings[s.probe]? =
      if probe = s.probe then some mapping else engine.mappings[s.probe]? :=
    Std.ExtTreeMap.getElem?_insert_eq
  rw [hget]
  split
  · next hp => exact ⟨mapping, rfl, hsame k s hs hp.symm⟩
  · exact h.registered k s hs

/-- **Every proper call leaves the engine settled.** -/
theorem Settled.run (h : engine.Settled) {call : EngineCall} (hcall : call.Proper engine) :
    (call.run engine).1.Settled := by
  cases call with
  | register probe mapping => exact h.register hcall
  | setObservationCutoff cutoff => exact h.of_same_votes h.registered rfl rfl rfl
  | ingest now o => exact h.ingest now o
  | expire now at_ horizon => exact h.expire now at_ horizon
  | setProbeEnabled now e probe enabled => exact h.setProbeEnabled now e probe enabled
  | seedStreams now streams => exact h.seedStreams hcall now

/-- **The engine is settled after every run.** -/
theorem settled_run {log : List EngineCall} (h : engineMachine.Run log engine) :
    engine.Settled :=
  h.invariant (P := fun _ engine => engine.Settled) (fun _ hinit => hinit ▸ settled_new)
    fun _ _ _ _ hsettled hcall => hsettled.run hcall

end StateEngine

/-! ### Transitions -/

/-- The transition reports how the health of one component differs between two
engines. -/
def StateTransition.Describes (t : StateTransition) (before after : StateEngine) : Prop :=
  ∃ c, t.component = some c ∧ t.fromHealth = before.health t.entity c ∧
    t.toHealth = after.health t.entity c ∧ t.fromHealth ≠ t.toHealth

namespace StateEngine

variable {engine engine' : StateEngine} {e : EntityId} {c : StateComponent}

theorem recompute_describes (now : Timestamp) {t : StateTransition}
    (h : (engine.recompute now e c).2 = some t) :
    t.entity = e ∧ t.component = some c ∧ t.Describes engine (engine.recompute now e c).1 := by
  obtain ⟨rfl, hne⟩ := recompute_transition engine now e c h
  exact ⟨rfl, rfl, c, rfl, rfl, by rw [recompute_health, if_pos rfl], hne⟩

/-- Recomputing distinct components changes those at most, and reports each
change once and for all. -/
theorem recomputeAll_describes (now : Timestamp) (pairs : List (EntityId × StateComponent)) :
    ∀ (engine : StateEngine), pairs.Nodup →
      (∀ e c, (e, c) ∉ pairs → (recomputeAll now engine pairs).1.health e c = engine.health e c) ∧
      ∀ t ∈ (recomputeAll now engine pairs).2, ∃ c, (t.entity, c) ∈ pairs ∧ t.component = some c ∧
        t.Describes engine (recomputeAll now engine pairs).1 := by
  induction pairs with
  | nil => intro engine _; exact ⟨fun _ _ _ => rfl, fun t ht => absurd ht List.not_mem_nil⟩
  | cons p pairs ih =>
    obtain ⟨e, c⟩ := p
    intro engine hnodup
    obtain ⟨hp, hnodup⟩ := List.nodup_cons.mp hnodup
    obtain ⟨hframe, htail⟩ := ih (engine.recompute now e c).1 hnodup
    have hhead : ∀ e' c', (e, c) ≠ (e', c') →
        (engine.recompute now e c).1.health e' c' = engine.health e' c' := by
      intro e' c' hne
      rw [recompute_health, if_neg hne]
    refine ⟨fun e' c' hmem => ?_, fun t ht => ?_⟩
    · rw [List.mem_cons, not_or] at hmem
      exact (hframe e' c' hmem.2).trans (hhead e' c' (Ne.symm hmem.1))
    · rcases List.mem_append.mp ht with ht | ht
      · obtain ⟨he, hc, c', hc', hfrom, hto, hne⟩ :=
          recompute_describes now (Option.mem_toList.mp ht)
        obtain rfl : c = c' := Option.some.inj (hc.symm.trans hc')
        refine ⟨c, he ▸ List.mem_cons_self, hc, c, hc, hfrom, ?_, hne⟩
        rw [hto, he]
        exact (hframe e c hp).symm
      · obtain ⟨c', hmem, hc, c'', hc'', hfrom, hto, hne⟩ := htail t ht
        obtain rfl : c' = c'' := Option.some.inj (hc.symm.trans hc'')
        refine ⟨c', List.mem_cons_of_mem _ hmem, hc, c', hc, ?_, hto, hne⟩
        rw [hfrom]
        exact hhead _ _ fun heq => hp (heq ▸ hmem)

theorem recomputeRecorded_describes {now : Timestamp} {t : StateTransition}
    (h : (engine.recomputeRecorded now e c).2 = some t) :
    t.Describes engine (engine.recomputeRecorded now e c).1 := by
  unfold recomputeRecorded at h ⊢
  split at h
  · next hrec => rw [if_pos hrec]; exact (recompute_describes now h).2.2
  · cases h

/-- **Every transition a call returns describes what the call changed.** -/
theorem describes_of_mem_run (engine : StateEngine) (call : EngineCall) :
    ∀ t ∈ (call.run engine).2, t.Describes engine (call.run engine).1 := by
  intro t ht
  cases call with
  | register probe mapping => exact absurd ht List.not_mem_nil
  | setObservationCutoff cutoff => exact absurd ht List.not_mem_nil
  | seedStreams now streams => exact absurd ht List.not_mem_nil
  | ingest now o =>
    simp only [EngineCall.run, Option.mem_toList, ingest] at ht ⊢
    split at ht
    · cases ht
    · next mapping hm =>
      obtain ⟨-, -, c, hc, hfrom, hto, hne⟩ := recompute_describes now ht
      exact ⟨c, hc, hfrom.trans (absorb_health ..), hto, hne⟩
  | expire now at_ horizon =>
    obtain ⟨c, -, -, h⟩ := (recomputeAll_describes now _ _
      (Std.ExtTreeSet.nodup_toList (engine.silenced at_ horizon))).2 t ht
    exact h
  | setProbeEnabled now e probe enabled =>
    simp only [EngineCall.run, Option.mem_toList, setProbeEnabled] at ht ⊢
    split at ht
    · cases ht
    · next mapping hm =>
      generalize (if enabled = true then _ else _ : Bool) = changed at ht ⊢
      cases changed with
      | false => cases ht
      | true =>
        obtain ⟨c, hc, hfrom, hto, hne⟩ := recomputeRecorded_describes ht
        refine ⟨c, hc, hfrom.trans ?_, hto, hne⟩
        rw [health, recorded, toggle_states]
        rfl

/-- **What the engine says is what its streams say, after every run.**  Each
record is the verdict of its contributors, the overall health is the worst
applicable component, and a call returns the changes it made and nothing
else. -/
theorem verdicts_and_transitions {log : List EngineCall} (h : engineMachine.Run log engine) :
    (∀ e c r, engine.recorded e c = some r → engine.Verdict e c r) ∧
    (∀ (e : EntityId) (state : EntityState), engine.states[e]? = some state →
      IsWorst Health.severityRank .unknown state.applicable state.overall) ∧
    ∀ call : EngineCall, call.Proper engine →
      (∀ t ∈ (call.run engine).2, t.Describes engine (call.run engine).1) ∧
      ((∀ e c, (call.run engine).1.health e c = engine.health e c) →
        (call.run engine).2 = []) := by
  have hsettled := settled_run h
  refine ⟨fun e c r => hsettled.verdict e c r (Set.notMem_empty _), fun e state hs => ?_,
    fun call _ => ⟨describes_of_mem_run engine call, fun hsame => ?_⟩⟩
  · rw [hsettled.overall e state hs]
    exact state.isWorst_rollup
  · rw [List.eq_nil_iff_forall_not_mem]
    intro t ht
    obtain ⟨c, -, hfrom, hto, hne⟩ := describes_of_mem_run engine call t ht
    exact hne (hfrom.trans ((hsame t.entity c).symm.trans hto.symm))

/-- One failed result of an authoritative probe. -/
theorem verdicts_and_transitions_one_failure :
    let o : Observation := ⟨⟨⟨1⟩⟩, ⟨"network.tcp"⟩, ⟨⟨7⟩⟩, none, 0, .failed, .null⟩
    let before := StateEngine.new.register ⟨"network.tcp"⟩ (.immediate .network)
    let after := (before.ingest 0 o).1
    after.health ⟨⟨7⟩⟩ .network = .unavailable ∧
    (∀ e c r, after.recorded e c = some r → after.Verdict e c r) ∧
    ∀ t ∈ (before.ingest 0 o).2, t.Describes before after := by
  intro o before after
  have hrun : engineMachine.Run _ before :=
    .snoc (i := EngineCall.register ⟨"network.tcp"⟩ (.immediate .network)) (.init rfl)
      fun k s hs => by simp [StateEngine.new] at hs
  have hrun' : engineMachine.Run _ after := hrun.snoc (i := EngineCall.ingest 0 o) trivial
  refine ⟨by decide +kernel, (verdicts_and_transitions hrun').1, fun t ht => ?_⟩
  exact ((verdicts_and_transitions hrun).2.2 (.ingest 0 o) trivial).1 t (Option.mem_toList.mpr ht)

end StateEngine

end Sentinel
