import Sentinel.Diagnosis.Rules.Reachability

/-!
# The newest observations

Observations that come in turn, none of them older than one before it or than what is
held, replace what an index holds of their streams: it holds the last of them, and the
rest of it is as before.

## Main results

* `ObservationIndex.held_insertAll_of_inTurn` — an index holds the last observation of
  each stream.
* `ObservationIndex.latest_of_newest` — the newest of several observers' observations.
* `verdictsOf_congr` — what other observers saw of a host is read off their network
  probes alone.
-/

namespace Std.ExtTreeMap

variable {κ ν : Type*} [Ord κ] [Std.TransOrd κ] [Std.LawfulEqOrd κ]

/-- Maps with the same entries of some kind list them alike. -/
theorem filter_toList_congr (m m' : Std.ExtTreeMap κ ν) (p : κ → ν → Bool)
    (h : ∀ k : κ, m'[k]?.filter (p k) = m[k]?.filter (p k)) :
    (m'.toList.filter fun entry => p entry.1 entry.2) = m.toList.filter fun entry => p entry.1 entry.2 := by
  have hfilter : m'.filter p = m.filter p := by
    refine Std.ExtTreeMap.ext_getElem? fun k => ?_
    rw [Std.ExtTreeMap.getElem?_filter', Std.ExtTreeMap.getElem?_filter', h]
  rw [← Std.ExtTreeMap.toList_filter, ← Std.ExtTreeMap.toList_filter, hfilter]

end Std.ExtTreeMap

namespace Sentinel

namespace ObservationIndex

variable {index index' : ObservationIndex} {os : List Observation} {e : EntityId} {p : ProbeId}

/-- **An index holds the last observation of each stream**, if none is older than one before
it or than what was held. -/
theorem held_insertAll_of_inTurn (hturn : os.Pairwise fun a b => a.finishedAt ≤ b.finishedAt)
    (hlater : ∀ o ∈ os, ∀ existing, index.held[o.streamKey]? = some existing → existing.finishedAt ≤ o.finishedAt)
    (k : StreamKey) :
    (index.insertAll os).held[k]? = ((os.filter fun o => o.streamKey = k).getLast?).or index.held[k]? := by
  induction os using List.reverseRecOn with
  | nil => rfl
  | append_singleton os o ih =>
    rw [List.pairwise_append] at hturn
    have hall := ih hturn.1 fun o' ho' => hlater o' (List.mem_append_left _ ho')
    have hbefore : ∀ o' ∈ os, o'.finishedAt ≤ o.finishedAt := fun o' ho' =>
      hturn.2.2 o' ho' o (List.mem_singleton_self o)
    rw [insertAll, List.foldl_append, List.foldl_cons, List.foldl_nil, ← insertAll, List.filter_append, insert]
    by_cases hk : o.streamKey = k
    · subst hk
      have hnewest : ((index.insertAll os).held[o.streamKey]?.any fun existing =>
          o.finishedAt < existing.finishedAt) = false := by
        rw [hall, Option.any_eq_false]
        intro existing hexisting
        rw [decide_eq_false_iff_not, not_lt]
        rcases Option.or_eq_some_iff.mp hexisting with hlast | ⟨-, hheld⟩
        · exact hbefore existing (List.mem_of_mem_filter (List.mem_of_getLast? hlast))
        · exact hlater o (List.mem_append_right _ (List.mem_singleton_self o)) existing hheld
      rw [if_neg (by rw [hnewest]; exact Bool.false_ne_true), List.filter_singleton, decide_eq_true rfl, cond_true,
        List.getLast?_concat, Option.some_or]
      exact Std.ExtTreeMap.getElem?_insert_self
    · rw [List.filter_singleton, decide_eq_false hk, cond_false, List.append_nil, ← hall]
      split
      · rfl
      · rw [Std.ExtTreeMap.getElem?_insert_eq, if_neg hk]

/-- What is held of a probe of an entity decides what is newest. -/
theorem latest_congr (h : ∀ observer, index'.held[((e, p, observer) : StreamKey)]? =
    index.held[((e, p, observer) : StreamKey)]?) : index'.latest e p = index.latest e p := by
  have hfilter := Std.ExtTreeMap.filter_toList_congr index.held index'.held
    (fun k _ => k.1 = e && k.2.1 = p) ?_
  · rw [latest, latest, all, all, hfilter]
  · rintro ⟨e', p', observer⟩
    by_cases hk : e' = e ∧ p' = p
    · obtain ⟨rfl, rfl⟩ := hk
      rw [h]
    · have hfalse : (decide (e' = e) && decide (p' = p)) = false := by
        rw [Bool.and_eq_false_iff, decide_eq_false_iff_not, decide_eq_false_iff_not, ← not_and_or]
        exact hk
      simp [hfalse]

/-- **The newest of several observers' observations** is the one that all the others finished
before. -/
theorem latest_of_newest (h : index.Keyed) {o : Observation} (hheld : index.held[o.streamKey]? = some o)
    (hnewest : ∀ (k : StreamKey) (o' : Observation), index.held[k]? = some o' → o'.targetEntity = o.targetEntity → o'.probeId = o.probeId →
      o' ≠ o → o'.finishedAt < o.finishedAt) :
    index.latest o.targetEntity o.probeId = some o := by
  have hmem : o ∈ index.all o.targetEntity o.probeId := (mem_all h).mpr ⟨hheld, rfl, rfl⟩
  cases hmax : index.latest o.targetEntity o.probeId with
  | none =>
    rw [latest, List.maxByKey_eq_none_iff] at hmax
    rw [hmax] at hmem
    exact absurd hmem List.not_mem_nil
  | some newest =>
    obtain ⟨hheld', htarget, hprobe⟩ := (mem_all h).mp (List.maxByKey_mem hmax)
    have hle : o.finishedAt ≤ newest.finishedAt :=
      Std.isLE_compare.mp (Prod.isLE_fst_of_isLE (List.isLE_maxByKey hmax hmem))
    by_contra hne
    have hless := hnewest _ newest hheld' htarget hprobe fun heq => hne (congrArg some heq)
    exact absurd hle (not_le.mpr hless)

end ObservationIndex

/-! ### What other observers saw -/

/-- Only the network probes count. -/
theorem foldl_add_filter (host : EntityId) (os : List Observation) : ∀ v : Verdicts,
    os.foldl (Verdicts.add host) v = (os.filter fun o => o.probeId = probeNetwork).foldl (Verdicts.add host) v := by
  induction os with
  | nil => intro v; rfl
  | cons o os ih =>
    intro v
    by_cases hprobe : o.probeId = probeNetwork
    · rw [List.filter_cons_of_pos (by simpa using hprobe), List.foldl_cons, List.foldl_cons, ih]
    · have hadd : Verdicts.add host v o = v := by
        rw [Verdicts.add, remoteView, if_pos (Or.inl hprobe)]
      rw [List.filter_cons_of_neg (by simpa using hprobe), List.foldl_cons, hadd, ih]

/-- **What other observers saw of a host** is read off their network probes alone. -/
theorem verdictsOf_congr {context context' : DiagnosisContext} (hkeyed : context.observations.Keyed)
    (hkeyed' : context'.observations.Keyed)
    (h : ∀ k : StreamKey, k.2.1 = probeNetwork →
      context'.observations.held[k]? = context.observations.held[k]?) (host : EntityId) :
    verdictsOf context' host = verdictsOf context host := by
  have hfilter := Std.ExtTreeMap.filter_toList_congr context.observations.held context'.observations.held
    (fun k o => k.1 = host && o.probeId = probeNetwork) ?_
  · have hsplit : ∀ index : ObservationIndex, (index.forEntity host).filter (fun o => o.probeId = probeNetwork) =
        (index.held.toList.filter fun entry => entry.1.1 = host && entry.2.probeId = probeNetwork).map Prod.snd := by
      intro index
      rw [ObservationIndex.forEntity, List.filter_map, List.filter_filter]
      simp only [Function.comp_def, Bool.and_comm]
    rw [verdictsOf, verdictsOf, foldl_add_filter, foldl_add_filter host (context.observations.forEntity host),
      hsplit, hsplit, hfilter]
  · intro k
    by_cases hk : k.2.1 = probeNetwork
    · rw [h k hk]
    · have hnone : ∀ {index : ObservationIndex}, index.Keyed →
          index.held[k]?.filter (fun o => decide (k.1 = host) && decide (o.probeId = probeNetwork)) = none := by
        intro index hindex
        rw [Option.filter_eq_none_iff]
        intro o ho hcounts
        rw [Bool.and_eq_true, decide_eq_true_eq, decide_eq_true_eq] at hcounts
        exact hk (hcounts.2 ▸ congrArg (fun k => k.2.1) (hindex k o ho).symm)
      rw [hnone hkeyed, hnone hkeyed']

end Sentinel
