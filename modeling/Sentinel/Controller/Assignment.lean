import Sentinel.Controller.Peers

/-!
# How many watch a target, and from where

Variety comes before quantity: one observer of each kind is chosen first, and the others
only fill up the number asked for.  What is chosen first covers every kind unless there
are fewer places than kinds.  An observer that only fills up is of some kind as well, but
it is labelled a filler, and the labels are what viewpoints are counted by.

## Main definitions

* `Peers.classOf`, `Peers.classes` — the kind of an entity, and the kinds there are among
  the candidates.
* `Peers.Picked` — what one pick for each kind gives.

## Main results

* `Peers.picked_assigned`, `Peers.assigned_parts` — the picks, and what fills up.
* `assign_spec` — who watches the targets of a plan.
* `independentViewpoints_le_iff` — when the viewpoints counted are those there are.
-/

namespace Sentinel

namespace Peers

variable {graph : DependencyGraph} {candidates : List EntityId} {degree index : ℕ} {target : EntityId}
  {observers : List Observer} {role : ObserverRole}

/-- How independent of the target an entity is. -/
def classOf (graph : DependencyGraph) (target entity : EntityId) : ObserverRole :=
  roleOf (domainOf graph entity) (domainOf graph target)

/-- The candidates that may watch a target. -/
def others (candidates : List EntityId) (target : EntityId) : Finset EntityId :=
  candidates.toFinset.erase target

/-- The kinds of candidates there are, which are the buckets that are not empty. -/
def classes (graph : DependencyGraph) (candidates : List EntityId) (target : EntityId) : Finset ObserverRole :=
  (others candidates target).image (classOf graph target)

theorem mem_others {c : EntityId} : c ∈ others candidates target ↔ c ∈ candidates ∧ c ≠ target := by
  rw [others, Finset.mem_erase, List.mem_toFinset, and_comm]

theorem mem_bucket {c : EntityId} :
    c ∈ bucket graph candidates target index role ↔ c ∈ others candidates target ∧ classOf graph target c = role := by
  rw [bucket, List.mem_rotate, List.mem_filter, decide_eq_true_iff, mem_others, and_assoc]
  rfl

theorem classOf_ne_filler (graph : DependencyGraph) (target entity : EntityId) :
    classOf graph target entity ≠ .filler := by
  unfold classOf roleOf
  split_ifs
  · decide
  · decide
  · decide
  · decide

theorem chosen_iff {entity : EntityId} :
    chosen observers entity = true ↔ entity ∈ observers.map Observer.entity := by
  rw [chosen, List.any_eq_true, List.mem_map]
  simp only [decide_eq_true_iff]

/-! ### One of each kind -/

/-- What one pick for each of some kinds gives: candidates under their own kinds, no kind
twice, and none left out unless there are enough observers. -/
structure Picked (graph : DependencyGraph) (candidates : List EntityId) (degree : ℕ) (target : EntityId)
    (roles : List ObserverRole) (observers : List Observer) : Prop where
  own : ∀ o ∈ observers, o.entity ∈ others candidates target ∧ o.role = classOf graph target o.entity
  once : (observers.map Observer.role).Nodup
  among : ∀ o ∈ observers, o.role ∈ roles
  bounded : observers.length ≤ degree
  covers : observers.length < degree →
    ∀ c ∈ others candidates target, classOf graph target c ∈ roles → classOf graph target c ∈ observers.map Observer.role

theorem Picked.entities_once {roles : List ObserverRole} (h : Picked graph candidates degree target roles observers) :
    (observers.map Observer.entity).Nodup := by
  have hroles : observers.map Observer.role = (observers.map Observer.entity).map (classOf graph target) := by
    rw [List.map_map]
    exact List.map_congr_left fun o ho => (h.own o ho).2
  exact (hroles ▸ h.once).of_map

theorem Picked.pick {roles : List ObserverRole} (h : Picked graph candidates degree target roles observers)
    (hrole : role ∉ roles) :
    Picked graph candidates degree target (roles ++ [role])
      (pick degree observers (bucket graph candidates target index role, role)) := by
  have hold : ∀ o ∈ observers, o.role ∈ roles ++ [role] := fun o ho => List.mem_append_left _ (h.among o ho)
  unfold Peers.pick
  split
  · next hfull => exact ⟨h.own, h.once, hold, h.bounded, fun hless => absurd hfull (Nat.not_le.mpr hless)⟩
  · next hroom =>
    rw [Nat.not_le] at hroom
    cases hfind : (bucket graph candidates target index role).find? fun c => !chosen observers c with
    | none =>
      -- nobody of this kind is chosen yet, so there is nobody of this kind
      refine ⟨h.own, h.once, hold, h.bounded, fun _ c hc hclass => ?_⟩
      rcases List.mem_append.mp hclass with hclass | hclass
      · exact h.covers hroom c hc hclass
      · have hin : c ∈ bucket graph candidates target index role :=
          mem_bucket.mpr ⟨hc, List.mem_singleton.mp hclass⟩
        have hchosen := List.find?_eq_none.mp hfind c hin
        rw [Bool.not_eq_true, Bool.not_eq_false'] at hchosen
        obtain ⟨o, ho, rfl⟩ := List.mem_map.mp (chosen_iff.mp hchosen)
        exact List.mem_map.mpr ⟨o, ho, (h.own o ho).2⟩
    | some candidate =>
      obtain ⟨hcandidate, hclass⟩ := mem_bucket.mp (List.mem_of_find?_eq_some hfind)
      have hnew : role ∉ observers.map Observer.role := by
        intro hmem
        obtain ⟨o, ho, rfl⟩ := List.mem_map.mp hmem
        exact hrole (h.among o ho)
      refine ⟨?_, ?_, ?_, ?_, fun _ c hc hclass' => ?_⟩
      · intro o ho
        rcases List.mem_append.mp ho with ho | ho
        · exact h.own o ho
        · rw [List.mem_singleton.mp ho]
          exact ⟨hcandidate, hclass.symm⟩
      · rw [List.map_append, List.map_singleton, ← List.concat_eq_append]
        exact h.once.concat hnew
      · intro o ho
        rcases List.mem_append.mp ho with ho | ho
        · exact hold o ho
        · rw [List.mem_singleton.mp ho]
          exact List.mem_append_right _ List.mem_cons_self
      · rw [List.length_append, List.length_singleton]
        exact hroom
      · rw [List.map_append, List.map_singleton]
        rcases List.mem_append.mp hclass' with hclass' | hclass'
        · exact List.mem_append_left _ (h.covers hroom c hc hclass')
        · rw [List.mem_singleton.mp hclass']
          exact List.mem_append_right _ List.mem_cons_self

/-- The observers that are chosen first. -/
def picked (graph : DependencyGraph) (candidates : List EntityId) (degree : ℕ) (target : EntityId) (index : ℕ) :
    List Observer :=
  let bucket := bucket graph candidates target index
  [(bucket .sameDomain, .sameDomain), (bucket .differentDomain, .differentDomain),
    (bucket .independent, .independent)].foldl (pick degree) []

theorem picked_assigned (graph : DependencyGraph) (candidates : List EntityId) (degree : ℕ) (target : EntityId)
    (index : ℕ) :
    Picked graph candidates degree target [.sameDomain, .differentDomain, .independent]
      (picked graph candidates degree target index) := by
  have hnone : Picked graph candidates degree target [] [] :=
    ⟨nofun, List.nodup_nil, nofun, Nat.zero_le _, nofun⟩
  have hsame : Picked graph candidates degree target [.sameDomain]
      (pick degree [] (bucket graph candidates target index .sameDomain, .sameDomain)) :=
    hnone.pick (by decide)
  have hdifferent : Picked graph candidates degree target [.sameDomain, .differentDomain]
      (pick degree _ (bucket graph candidates target index .differentDomain, .differentDomain)) :=
    hsame.pick (by decide)
  exact hdifferent.pick (by decide)

/-- The kinds of the observers that are chosen first, which are all there are unless there
are enough observers. -/
theorem Picked.roles (h : Picked graph candidates degree target [.sameDomain, .differentDomain, .independent] observers) :
    (observers.map Observer.role).toFinset ⊆ classes graph candidates target ∧
      (observers.length < degree → (observers.map Observer.role).toFinset = classes graph candidates target) := by
  have hsub : (observers.map Observer.role).toFinset ⊆ classes graph candidates target := by
    intro role hrole
    obtain ⟨o, ho, rfl⟩ := List.mem_map.mp (List.mem_toFinset.mp hrole)
    exact Finset.mem_image.mpr ⟨o.entity, (h.own o ho).1, (h.own o ho).2.symm⟩
  refine ⟨hsub, fun hless => hsub.antisymm fun role hrole => ?_⟩
  obtain ⟨c, hc, rfl⟩ := Finset.mem_image.mp hrole
  refine List.mem_toFinset.mpr (h.covers hless c hc ?_)
  have hne := classOf_ne_filler graph target c
  cases hclass : classOf graph target c with
  | filler => exact absurd hclass hne
  | _ => decide

/-- There is a pick for every kind, or else as many as are asked for. -/
theorem Picked.length_eq
    (h : Picked graph candidates degree target [.sameDomain, .differentDomain, .independent] observers) :
    observers.length = min degree (classes graph candidates target).card := by
  have hcard : (observers.map Observer.role).toFinset.card = observers.length := by
    rw [List.toFinset_card_of_nodup h.once, List.length_map]
  obtain ⟨hsub, hall⟩ := h.roles
  have hle := Finset.card_le_card hsub
  have hbounded := h.bounded
  rcases Nat.lt_or_ge observers.length degree with hless | hfull
  · rw [← hall hless, hcard]
    omega
  · omega

/-! ### Then whatever is left -/

/-- Filling up adds candidates that are not chosen yet, until there are enough observers
or no candidates left. -/
theorem foldl_fill_parts (rest : List EntityId) :
    ∀ observers : List Observer, (observers.map Observer.entity).Nodup → observers.length ≤ degree →
      ∃ fillers, rest.foldl (fill degree) observers = observers ++ fillers ∧
        (∀ o ∈ fillers, o.role = .filler ∧ o.entity ∈ rest) ∧
        ((observers ++ fillers).map Observer.entity).Nodup ∧
        (observers ++ fillers).length = min degree ((observers.map Observer.entity).toFinset ∪ rest.toFinset).card := by
  induction rest with
  | nil =>
    intro observers hnodup hlength
    refine ⟨[], (List.append_nil _).symm, nofun, ?_, ?_⟩
    · rw [List.append_nil]
      exact hnodup
    · rw [List.append_nil, List.toFinset_nil, Finset.union_empty, List.toFinset_card_of_nodup hnodup, List.length_map]
      exact (min_eq_right hlength).symm
  | cons candidate rest ih =>
    intro observers hnodup hlength
    rw [List.foldl_cons]
    by_cases hfull : degree ≤ observers.length
    · -- there are enough observers, whatever is left
      obtain ⟨fillers, hfold, hfillers, hnodup', hlength'⟩ := ih observers hnodup hlength
      have hcard : (observers.map Observer.entity).toFinset.card ≤
          ((observers.map Observer.entity).toFinset ∪ rest.toFinset).card :=
        Finset.card_le_card Finset.subset_union_left
      have hcard' : (observers.map Observer.entity).toFinset.card ≤
          ((observers.map Observer.entity).toFinset ∪ (candidate :: rest).toFinset).card :=
        Finset.card_le_card Finset.subset_union_left
      rw [List.toFinset_card_of_nodup hnodup, List.length_map] at hcard hcard'
      rw [fill, if_pos hfull]
      refine ⟨fillers, hfold, fun o ho => ⟨(hfillers o ho).1, List.mem_cons_of_mem _ (hfillers o ho).2⟩, hnodup', ?_⟩
      rw [hlength']
      omega
    · by_cases hchosen : chosen observers candidate = true
      · obtain ⟨fillers, hfold, hfillers, hnodup', hlength'⟩ := ih observers hnodup hlength
        rw [fill, if_neg hfull, if_pos hchosen]
        refine ⟨fillers, hfold, fun o ho => ⟨(hfillers o ho).1, List.mem_cons_of_mem _ (hfillers o ho).2⟩, hnodup', ?_⟩
        have hmem := List.mem_toFinset.mpr (chosen_iff.mp hchosen)
        rw [hlength', List.toFinset_cons, Finset.union_insert,
          Finset.insert_eq_of_mem (Finset.mem_union_left _ hmem)]
      · have hnew : candidate ∉ observers.map Observer.entity := fun hmem => hchosen (chosen_iff.mpr hmem)
        obtain ⟨fillers, hfold, hfillers, hnodup', hlength'⟩ := ih (observers ++ [⟨candidate, .filler⟩])
          (by
            rw [List.map_append, List.map_singleton, ← List.concat_eq_append]
            exact hnodup.concat hnew)
          (by
            rw [List.length_append, List.length_singleton]
            omega)
        rw [List.append_assoc] at hfold hnodup' hlength'
        rw [fill, if_neg hfull, if_neg hchosen]
        refine ⟨⟨candidate, .filler⟩ :: fillers, hfold, ?_, hnodup', ?_⟩
        · intro o ho
          rcases List.mem_cons.mp ho with rfl | ho
          · exact ⟨rfl, List.mem_cons_self⟩
          · exact ⟨(hfillers o ho).1, List.mem_cons_of_mem _ (hfillers o ho).2⟩
        · rw [List.singleton_append] at hlength'
          rw [hlength', List.map_append, List.toFinset_append, List.toFinset_cons, Finset.union_insert,
            Finset.union_assoc, List.map_singleton, List.toFinset_cons, List.toFinset_nil, insert_empty_eq,
            Finset.singleton_union, Finset.union_insert]

/-- **Who watches a target**: the picks, and then fillers until there are as many
observers as are asked for or as there are candidates. -/
theorem assigned_parts (graph : DependencyGraph) (candidates : List EntityId) (degree : ℕ) (target : EntityId)
    (index : ℕ) :
    ∃ picks fillers, (assigned graph candidates degree target index).observers = picks ++ fillers ∧
      Picked graph candidates degree target [.sameDomain, .differentDomain, .independent] picks ∧
      (∀ o ∈ fillers, o.role = .filler ∧ o.entity ∈ others candidates target) ∧
      ((picks ++ fillers).map Observer.entity).Nodup ∧
      (picks ++ fillers).length = min degree (others candidates target).card := by
  have h := picked_assigned graph candidates degree target index
  obtain ⟨fillers, hfold, hfillers, hnodup, hlength⟩ := foldl_fill_parts
    (bucket graph candidates target index .sameDomain ++ bucket graph candidates target index .differentDomain ++
      bucket graph candidates target index .independent) _ h.entities_once h.bounded
  refine ⟨_, fillers, hfold, h, fun o ho => ⟨(hfillers o ho).1, ?_⟩, hnodup, ?_⟩
  · exact mem_others.mpr ((mem_buckets graph index).mp (hfillers o ho).2)
  · rw [hlength]
    refine congrArg (fun s : Finset EntityId => min degree s.card) (Finset.ext fun c => ?_)
    rw [Finset.mem_union, List.mem_toFinset, List.mem_toFinset, mem_buckets graph index, ← mem_others]
    refine or_iff_right_of_imp fun hc => ?_
    obtain ⟨o, ho, rfl⟩ := List.mem_map.mp hc
    exact (h.own o ho).1

end Peers

open Peers

/-- **Who watches the targets of a plan.**  Every target has its observers, in order: as
many different candidates other than the target as are asked for, if there are so many,
and one of every kind there is unless fewer are asked for. -/
theorem assign_spec (targets candidates : List EntityId) (graph : DependencyGraph) (degree : UInt32)
    (revision : UInt64) :
    (assign targets candidates graph degree revision).assignments.map PeerAssignment.target = targets ∧
    ∀ assignment ∈ (assign targets candidates graph degree revision).assignments,
      (assignment.observers.map Observer.entity).Nodup ∧
      (∀ o ∈ assignment.observers, o.entity ∈ candidates ∧ o.entity ≠ assignment.target) ∧
      assignment.observers.length = min degree.toNat (others candidates assignment.target).card ∧
      ((classes graph candidates assignment.target).card ≤ degree.toNat →
        ∀ role ∈ classes graph candidates assignment.target,
          ∃ o ∈ assignment.observers, classOf graph assignment.target o.entity = role) := by
  constructor
  · rw [assign, List.map_map]
    exact List.zipIdx_map_fst 0 targets
  · intro assignment hassignment
    obtain ⟨⟨target, index⟩, -, rfl⟩ := List.mem_map.mp hassignment
    obtain ⟨picks, fillers, heq, hpicked, hfillers, hnodup, hlength⟩ :=
      assigned_parts graph candidates degree.toNat target index
    rw [show (assigned graph candidates degree.toNat target index).target = target from rfl, heq]
    refine ⟨hnodup, ?_, hlength, fun henough role hrole => ?_⟩
    · intro o ho
      rcases List.mem_append.mp ho with ho | ho
      · exact mem_others.mp (hpicked.own o ho).1
      · exact mem_others.mp (hfillers o ho).2
    · -- the picks are as many as there are kinds, so they are of all kinds
      have hall : (picks.map Observer.role).toFinset = classes graph candidates target := by
        refine Finset.eq_of_subset_of_card_le hpicked.roles.1 ?_
        rw [List.toFinset_card_of_nodup hpicked.once, List.length_map, hpicked.length_eq]
        exact le_min henough le_rfl
      obtain ⟨o, ho, rfl⟩ := List.mem_map.mp (List.mem_toFinset.mp (hall ▸ hrole))
      exact ⟨o, List.mem_append_left _ ho, (hpicked.own o ho).2.symm⟩

/-! ### What the viewpoints are counted by -/

/-- **The viewpoints counted are no more than the kinds there are among the observers**
exactly if nobody fills up: as many observers are asked for as there are kinds, or fewer,
or no two candidates are of one kind. -/
theorem independentViewpoints_le_iff (targets candidates : List EntityId) (graph : DependencyGraph)
    (degree : UInt32) (revision : UInt64) :
    ∀ assignment ∈ (assign targets candidates graph degree revision).assignments,
      (assignment.independentViewpoints ≤
          (assignment.observers.map fun o => classOf graph assignment.target o.entity).toFinset.card ↔
        degree.toNat ≤ (classes graph candidates assignment.target).card ∨
          ∀ c ∈ candidates, ∀ c' ∈ candidates, c ≠ assignment.target → c' ≠ assignment.target →
            classOf graph assignment.target c = classOf graph assignment.target c' → c = c') := by
  intro assignment hassignment
  obtain ⟨⟨target, index⟩, -, rfl⟩ := List.mem_map.mp hassignment
  obtain ⟨picks, fillers, heq, hpicked, hfillers, -, hlength⟩ :=
    assigned_parts graph candidates degree.toNat target index
  rw [PeerAssignment.independentViewpoints, show (assigned graph candidates degree.toNat target index).target = target
    from rfl, heq]
  have hkinds : picks.map (fun o => classOf graph target o.entity) = picks.map Observer.role :=
    List.map_congr_left fun o ho => (hpicked.own o ho).2.symm
  have hpicks := hpicked.length_eq
  -- nobody fills up exactly if the picks are all
  have hnobody : fillers = [] ↔ degree.toNat ≤ (classes graph candidates target).card ∨
      (others candidates target).card ≤ (classes graph candidates target).card := by
    rw [List.length_append, hpicks] at hlength
    rw [← List.length_eq_zero_iff]
    have hle : (classes graph candidates target).card ≤ (others candidates target).card := Finset.card_image_le
    omega
  have hinj : (others candidates target).card ≤ (classes graph candidates target).card ↔
      ∀ c ∈ candidates, ∀ c' ∈ candidates, c ≠ target → c' ≠ target →
        classOf graph target c = classOf graph target c' → c = c' := by
    constructor
    · intro hle c hc c' hc' hne hne' hclass
      have hon := Finset.card_image_iff.mp (le_antisymm Finset.card_image_le hle)
      exact hon (mem_others.mpr ⟨hc, hne⟩) (mem_others.mpr ⟨hc', hne'⟩) hclass
    · intro h
      refine (Finset.card_image_of_injOn ?_).ge
      intro c hc c' hc' hclass
      obtain ⟨hc, hne⟩ := mem_others.mp hc
      obtain ⟨hc', hne'⟩ := mem_others.mp hc'
      exact h c hc c' hc' hne hne' hclass
  rw [← hinj, ← hnobody]
  constructor
  · intro hle
    by_contra hsome
    obtain ⟨filler, hfiller⟩ := List.exists_mem_of_ne_nil fillers hsome
    have hroom : picks.length < degree.toNat := by
      rw [List.length_append] at hlength
      have hpos := List.length_pos_of_mem hfiller
      omega
    -- all kinds are there already, and the fillers' label is counted as one more
    have hall := hpicked.roles.2 hroom
    have hlabels : insert .filler (classes graph candidates target) ⊆
        ((picks ++ fillers).map Observer.role).toFinset := by
      rw [List.map_append, List.toFinset_append, hall]
      refine Finset.insert_subset (Finset.mem_union_right _ ?_) Finset.subset_union_left
      exact List.mem_toFinset.mpr (List.mem_map.mpr ⟨filler, hfiller, (hfillers filler hfiller).1⟩)
    have hclasses : ((picks ++ fillers).map fun o => classOf graph target o.entity).toFinset ⊆
        classes graph candidates target := by
      intro role hrole
      obtain ⟨o, ho, rfl⟩ := List.mem_map.mp (List.mem_toFinset.mp hrole)
      refine Finset.mem_image_of_mem _ ?_
      rcases List.mem_append.mp ho with ho | ho
      · exact (hpicked.own o ho).1
      · exact (hfillers o ho).2
    have hnew : ObserverRole.filler ∉ classes graph candidates target := by
      intro hmem
      obtain ⟨c, -, hc⟩ := Finset.mem_image.mp hmem
      exact classOf_ne_filler graph target c hc
    have hmore := Finset.card_le_card hlabels
    have hfewer := Finset.card_le_card hclasses
    rw [Finset.card_insert_of_notMem hnew] at hmore
    exact absurd (hmore.trans (hle.trans hfewer)) (Nat.not_succ_le_self _)
  · rintro rfl
    rw [List.append_nil, hkinds]

/-- One candidate is one viewpoint. -/
theorem independentViewpoints_le_iff_single :
    ∃ assignment ∈ (assign [⟨⟨1⟩⟩] [⟨⟨2⟩⟩] .empty 4 0).assignments,
      assignment.observers.map Observer.entity = [⟨⟨2⟩⟩] ∧
      assignment.independentViewpoints ≤
        (assignment.observers.map fun o => classOf .empty assignment.target o.entity).toFinset.card := by
  have hone : assigned .empty [⟨⟨2⟩⟩] 4 ⟨⟨1⟩⟩ 0 ∈ (assign [⟨⟨1⟩⟩] [⟨⟨2⟩⟩] .empty 4 0).assignments := by decide +kernel
  refine ⟨_, hone, by decide +kernel, ?_⟩
  refine (independentViewpoints_le_iff _ _ _ _ _ _ hone).mpr (Or.inr ?_)
  intro c hc c' hc' _ _ _
  rw [List.mem_singleton.mp hc, List.mem_singleton.mp hc']

/-- Two observers that depend on nothing are counted as two viewpoints. -/
theorem filler_counts_as_viewpoint :
    ∃ assignment ∈ (assign [⟨⟨1⟩⟩] [⟨⟨2⟩⟩, ⟨⟨3⟩⟩] .empty 2 0).assignments,
      assignment.independentViewpoints = 2 ∧
      (assignment.observers.map fun o => classOf .empty assignment.target o.entity).toFinset.card = 1 := by
  decide +kernel

end Sentinel
