import Sentinel.Diagnosis.Viewpoints

/-!
# The order of arrival

Observations reach the controller in any order: a spool is replayed after newer ones were
sent.  An index holds the newest observation of each stream, which no order changes if no
two observations of a stream finished together.

## Main definitions

* `ObservationIndex.fromObservations` — the index of some observations.
* `ToldApart` — no two observations of a stream finished together.

## Main results

* `ObservationIndex.held_fromObservations_iff` — an index holds the newest of each stream.
* `ObservationIndex.fromObservations_spec` — **the order of arrival does not count.**
-/

namespace Sentinel

/-- No two observations of one stream finished together. -/
def ToldApart (os : List Observation) : Prop :=
  ∀ o ∈ os, ∀ o' ∈ os, o.streamKey = o'.streamKey → o.finishedAt = o'.finishedAt → o = o'

namespace ObservationIndex

variable {os os' : List Observation} {k : StreamKey} {o : Observation}

/-- Build an index from observations. -/
def fromObservations (observations : List Observation) : ObservationIndex := new.insertAll observations

/-- An index holds the newest observation of each stream. -/
theorem held_fromObservations_iff (h : ToldApart os) : (fromObservations os).held[k]? = some o ↔
    o ∈ os ∧ o.streamKey = k ∧ ∀ o' ∈ os, o'.streamKey = k → o'.finishedAt ≤ o.finishedAt := by
  have hgreatest : ∀ {o}, (fromObservations os).held[k]? = some o →
      o ∈ os ∧ o.streamKey = k ∧ ∀ o' ∈ os, o'.streamKey = k → o'.finishedAt ≤ o.finishedAt := by
    intro o ho
    rw [fromObservations, held_insertAll_new] at ho
    obtain ⟨hmem, hkey⟩ := List.mem_filter.mp (List.maxByKey_mem ho)
    refine ⟨hmem, of_decide_eq_true hkey, fun o' ho' hkey' => ?_⟩
    have hle := List.isLE_maxByKey ho (List.mem_filter.mpr ⟨ho', decide_eq_true hkey'⟩)
    rwa [Std.isLE_compare] at hle
  refine ⟨hgreatest, fun ⟨hmem, hkey, hnewest⟩ => ?_⟩
  cases hheld : (fromObservations os).held[k]? with
  | none =>
    rw [fromObservations, held_insertAll_new, List.maxByKey_eq_none_iff, List.filter_eq_nil_iff] at hheld
    exact absurd (decide_eq_true hkey) (hheld o hmem)
  | some newest =>
    obtain ⟨hmem', hkey', hnewest'⟩ := hgreatest hheld
    have hfinished := le_antisymm (hnewest newest hmem' hkey') (hnewest' o hmem hkey)
    rw [h newest hmem' o hmem (hkey'.trans hkey.symm) hfinished]

/-- The same observations in another order make up the same index. -/
theorem fromObservations_eq_of_perm (h : ToldApart os) (hperm : os'.Perm os) :
    fromObservations os' = fromObservations os := by
  have happart : ToldApart os' := fun o ho o' ho' =>
    h o (hperm.mem_iff.mp ho) o' (hperm.mem_iff.mp ho')
  have hext : (fromObservations os').held = (fromObservations os).held := by
    refine Std.ExtTreeMap.ext_getElem? fun k => Option.ext fun o => ?_
    rw [held_fromObservations_iff happart, held_fromObservations_iff h]
    simp only [hperm.mem_iff]
  exact congrArg ObservationIndex.mk hext

/-- **The order of arrival does not count**: every order makes up the same index, which holds
of each stream the observation that finished last, and so does all that is read of it. -/
theorem fromObservations_spec (os : List Observation) (h : ToldApart os) (os' : List Observation)
    (hperm : os'.Perm os) :
    fromObservations os' = fromObservations os ∧
      (∀ k o, (fromObservations os').held[k]? = some o ↔
        o ∈ os ∧ o.streamKey = k ∧ ∀ o' ∈ os, o'.streamKey = k → o'.finishedAt ≤ o.finishedAt) ∧
      ∀ entity probe, (fromObservations os').latest entity probe = (fromObservations os).latest entity probe ∧
        (fromObservations os').all entity probe = (fromObservations os).all entity probe := by
  have heq := fromObservations_eq_of_perm h hperm
  rw [heq]
  exact ⟨rfl, fun k o => held_fromObservations_iff h, fun entity probe => ⟨rfl, rfl⟩⟩

/-- Two observations of one stream, the newer one first or last. -/
theorem fromObservations_spec_late :
    let older : Observation := ⟨⟨⟨1⟩⟩, ⟨"host.load"⟩, ⟨⟨7⟩⟩, none, 10, .ok, .null⟩
    let newer : Observation := ⟨⟨⟨2⟩⟩, ⟨"host.load"⟩, ⟨⟨7⟩⟩, none, 20, .failed, .null⟩
    fromObservations [newer, older] = fromObservations [older, newer] :=
  (fromObservations_spec _ (by simp [ToldApart]) _ (List.Perm.swap _ _ _)).1

end ObservationIndex

end Sentinel
