import Sentinel.Agent.Delivery

/-!
# Batches of observations

What a batch does to a controller depends on the observations of it that are not
stored yet, of each identifier the first: those are stored, folded in and seen as
views, the others count as duplicates.  So it makes no difference how often an
observation is sent.

It does make a difference with which others it is sent.  The controller looks for
the target of every observation before it writes a batch, the schema also asks for
the observer, and one row it refuses takes the batch with it.

## Main definitions

* `Controller.absorb` — what observations new to the store do to the controller.
* `Controller.acceptable`, `Controller.Delivers` — what can be stored, and that it is.
* `Batch`, `Controller.ingestBatches`, `Controller.dropRepeats` — a series of batches,
  and the same without what was committed before.

## Main results

* `Controller.ingest_eq_absorb` — a batch is what of it is new.
* `Controller.delivers_iff` — **a batch is delivered exactly if no row of it is
  refused.**
* `Controller.ingestBatches_dropRepeats` — **repeated observations make no
  difference.**
-/

namespace Sentinel

namespace Controller

variable {controller : Controller} {now : Timestamp} {clock : Observation → Timestamp}
  {observations : List Observation}

/-! ### A batch is what of it is new -/

/-- What observations new to the store fold in: themselves, then their views. -/
def foldsOf (providers : Std.ExtTreeMap EntityId (List EntityId)) (now : Timestamp)
    (fresh : List Observation) : List Observation :=
  fresh.filter (fun o => o.finishedAt ≤ now + maxFutureSkew) ++
    (fresh.flatMap (viewsOf providers)).filter fun o => o.finishedAt ≤ now + maxFutureSkew

/-- What observations new to the store do to the controller. -/
def absorb (controller : Controller) (now : Timestamp) (clock : Observation → Timestamp)
    (fresh : List Observation) : Controller :=
  let traced := controller.engine.ingestAll clock (foldsOf controller.storageProviders now fresh)
  { controller with
    store := (controller.store.added now fresh).saveEngine traced
    engine := traced }

theorem viewsOf_id {providers : Std.ExtTreeMap EntityId (List EntityId)} {o v : Observation}
    (h : v ∈ viewsOf providers o) : v.id = o.id := by
  unfold viewsOf at h
  split at h
  · cases h
  · obtain ⟨storage, -, rfl⟩ := List.mem_map.mp h
    rfl

/-- What is new of a batch: first occurrences that are not stored. -/
theorem fresh_eq_filter (store : Store) (observations : List Observation) :
    store.fresh observations =
      (observations.firsts Observation.id).filter fun o => o.id ∉ store.ids := by
  rw [List.firsts, List.filter_firstsFrom, List.append_nil, Store.fresh]

/-- Where an identifier stands for one observation, the transaction folds in what is
new. -/
theorem foldedIn_eq (store : Store) (providers : Std.ExtTreeMap EntityId (List EntityId))
    (hids : Identified observations) :
    store.foldedIn now providers observations = foldsOf providers now (store.fresh observations) := by
  have hfresh : ∀ o ∈ observations.firsts Observation.id,
      (o.id ∈ (store.fresh observations).map Observation.id ↔ o.id ∉ store.ids) := by
    intro o ho
    rw [Store.mem_ids_fresh]
    exact and_iff_right (List.mem_map_of_mem (List.mem_of_mem_firsts ho))
  rw [Store.foldedIn, foldsOf]
  refine congrArg₂ _ ?_ ?_
  · rw [List.firsts, List.firstsFrom_filter, ← List.firsts, fresh_eq_filter, List.filter_filter]
    · refine List.filter_congr fun o ho => ?_
      rw [Store.counts, decide_eq_decide.mpr (hfresh o ho), Bool.and_comm]
    · intro a ha b hb hab
      rw [hids a ha b hb hab]
  · rw [storageViews, List.filter_flatMap, List.filter_flatMap, fresh_eq_filter]
    generalize observations.firsts Observation.id = first at hfresh ⊢
    induction first with
    | nil => rfl
    | cons o first ih =>
      have hrest := ih fun a ha => hfresh a (List.mem_cons_of_mem _ ha)
      have ho := hfresh o List.mem_cons_self
      rw [List.flatMap_cons, hrest]
      by_cases hstored : o.id ∈ store.ids
      · have hnone : (viewsOf providers o).filter (store.counts now observations) = [] := by
          refine List.filter_eq_nil_iff.mpr fun v hv => ?_
          rw [Store.counts, viewsOf_id hv]
          simp [ho, hstored]
        rw [hnone, List.filter_cons_of_neg (by simpa using hstored)]
        rfl
      · rw [List.filter_cons_of_pos (by simpa using hstored), List.flatMap_cons]
        refine congrArg (· ++ _) (List.filter_congr fun v hv => ?_)
        rw [Store.counts, viewsOf_id hv]
        simp [ho, hstored]

/-- **A batch is what of it is new**, unless the schema refuses some of that. -/
theorem ingest_eq_absorb (controller : Controller) (now : Timestamp)
    (clock : Observation → Timestamp) (hids : Identified observations) :
    (controller.ingestObservationsRecorded now clock observations).map Prod.fst =
      if (controller.store.fresh observations).any controller.store.refuses then none
      else some (controller.absorb now clock (controller.store.fresh observations)) := by
  rw [ingestObservationsRecorded_eq, foldedIn_eq _ _ hids]
  rfl

/-! ### Repeated observations -/

end Controller

/-- A batch given to the controller, with the clock at its turn. -/
structure Batch where
  /-- The clock at the beginning of the transaction. -/
  now : Timestamp
  /-- The clock when an observation is folded in. -/
  clock : Observation → Timestamp
  /-- The observations. -/
  observations : List Observation

namespace Controller

variable {controller : Controller}

/-- The controller after a batch; one that fails leaves it as it was. -/
def ingestBatch (controller : Controller) (batch : Batch) : Controller :=
  ((controller.ingestObservationsRecorded batch.now batch.clock batch.observations).map
    Prod.fst).getD controller

/-- The controller after a series of batches. -/
def ingestBatches (controller : Controller) (batches : List Batch) : Controller :=
  batches.foldl ingestBatch controller

/-- Whether a batch is committed. -/
def commits (controller : Controller) (batch : Batch) : Bool :=
  (controller.ingestObservationsRecorded batch.now batch.clock batch.observations).isSome

/-- A series of batches without the observations that an earlier one of them was
committed with, and without those that repeat in their batch. -/
def dropRepeats : Controller → List ObservationId → List Batch → List Batch
  | _, _, [] => []
  | controller, seen, batch :: batches =>
    { batch with observations := List.firstsFrom Observation.id seen batch.observations } ::
      dropRepeats (controller.ingestBatch batch)
        (if controller.commits batch then seen ++ batch.observations.map Observation.id else seen)
        batches

theorem ingestBatch_eq (controller : Controller) (batch : Batch)
    (hids : Identified batch.observations) :
    controller.ingestBatch batch =
      if (controller.store.fresh batch.observations).any controller.store.refuses then controller
      else controller.absorb batch.now batch.clock (controller.store.fresh batch.observations) := by
  rw [ingestBatch, ingest_eq_absorb controller batch.now batch.clock hids]
  split <;> rfl

theorem commits_eq (controller : Controller) {batch : Batch}
    (hids : Identified batch.observations) :
    controller.commits batch =
      !(controller.store.fresh batch.observations).any controller.store.refuses := by
  have h := congrArg Option.isSome (ingest_eq_absorb controller batch.now batch.clock hids)
  rw [Option.isSome_map] at h
  rw [commits, h]
  split
  · next hany => rw [hany]; rfl
  · next hany => rw [Bool.not_eq_true] at hany; rw [hany]; rfl

/-- What a committed batch holds is stored. -/
theorem mem_ids_ingestBatch {batch : Batch} (hids : Identified batch.observations)
    {x : ObservationId} (hx : x ∈ controller.store.ids ∨
      (controller.commits batch = true ∧ x ∈ batch.observations.map Observation.id)) :
    x ∈ (controller.ingestBatch batch).store.ids := by
  rw [commits_eq controller hids] at hx
  rw [ingestBatch_eq controller batch hids]
  split
  · next h =>
    rw [h] at hx
    exact hx.resolve_right fun h => by simp at h
  · change x ∈ (controller.store.added batch.now (controller.store.fresh batch.observations)).ids
    rw [Store.ids_added, List.mem_append, Store.mem_ids_fresh]
    by_cases hstored : x ∈ controller.store.ids
    · exact Or.inl hstored
    · exact Or.inr ⟨(hx.resolve_left hstored).2, hstored⟩

/-- **Repeated observations make no difference.**  A series of batches, in which an
identifier stands for one observation, leaves the controller, with everything it has
stored and its engine, as the same series does with every observation dropped that an
earlier batch was committed with or that repeats in its own. -/
theorem ingestBatches_dropRepeats (controller : Controller) (batches : List Batch)
    (hids : ∀ batch ∈ batches, Identified batch.observations) :
    controller.ingestBatches (controller.dropRepeats [] batches) =
      controller.ingestBatches batches := by
  have hfrom : ∀ {controller : Controller} {seen : List ObservationId},
      (∀ x ∈ seen, x ∈ controller.store.ids) →
        controller.ingestBatches (controller.dropRepeats seen batches) =
          controller.ingestBatches batches := by
    induction batches with
    | nil => intro controller seen _; rfl
    | cons batch batches ih =>
      intro controller seen hseen
      have hbatch := hids batch List.mem_cons_self
      have hdropped : Identified (List.firstsFrom Observation.id seen batch.observations) :=
        fun o ho o' ho' => hbatch o (List.mem_firstsFrom ho).1 o' (List.mem_firstsFrom ho').1
      -- what is stored anyway may be dropped beforehand
      have hfresh : controller.store.fresh
          (List.firstsFrom Observation.id seen batch.observations) =
            controller.store.fresh batch.observations := List.firstsFrom_firstsFrom _ hseen
      have hsame : controller.ingestBatch
          { batch with observations := List.firstsFrom Observation.id seen batch.observations } =
            controller.ingestBatch batch := by
        rw [ingestBatch_eq controller batch hbatch, ingestBatch_eq controller { batch with
          observations := List.firstsFrom Observation.id seen batch.observations } hdropped, hfresh]
      rw [dropRepeats, ingestBatches, List.foldl_cons, hsame]
      refine ih (fun b hb => hids b (List.mem_cons_of_mem _ hb)) fun x hx => ?_
      refine mem_ids_ingestBatch hbatch ?_
      split at hx
      · next hcommits =>
        exact (List.mem_append.mp hx).imp (hseen x) fun hx => ⟨hcommits, hx⟩
      · exact Or.inl (hseen x hx)
  exact hfrom fun x hx => by cases hx

/-- Two batches that hold the same failure, between other reports. -/
theorem ingestBatches_dropRepeats_two :
    let host : EntityId := ⟨⟨7⟩⟩
    let report (n : ℕ) (status : ProbeStatus) : Observation :=
      ⟨⟨⟨n⟩⟩, probeSsh, host, none, 5, status, .null⟩
    let store : Store := ⟨[], Inventory.new.insertEntity (.new host .host "h"), [], [],
      fun _ => [], none⟩
    let controller := start store 0 (fun _ => 0) [] fun _ => none
    let batches : List Batch :=
      [⟨6, fun _ => 6, [report 1 .failed, report 2 .ok, report 1 .failed]⟩,
        ⟨7, fun _ => 7, [report 3 .ok, report 1 .failed]⟩]
    (controller.dropRepeats [] batches).map (fun b => b.observations.map Observation.id) =
        [[⟨⟨1⟩⟩, ⟨⟨2⟩⟩], [⟨⟨3⟩⟩]] ∧
      controller.ingestBatches (controller.dropRepeats [] batches) =
        controller.ingestBatches batches := by
  intro host report store controller batches
  refine ⟨by decide +kernel, ingestBatches_dropRepeats controller batches ?_⟩
  have hids : ∀ batch ∈ batches, ∀ o ∈ batch.observations,
      o = report 1 .failed ∨ o = report 2 .ok ∨ o = report 3 .ok := by
    simp [batches]
  intro batch hbatch o ho o' ho' hid
  rcases hids batch hbatch o ho with rfl | rfl | rfl <;>
    rcases hids batch hbatch o' ho' with rfl | rfl | rfl <;> first | rfl | (cases hid)

/-- A series of batches with every identifier dropped after its first occurrence,
committed or not. -/
def withoutRepeats : List ObservationId → List Batch → List Batch
  | _, [] => []
  | seen, batch :: batches =>
    { batch with observations := List.firstsFrom Observation.id seen batch.observations } ::
      withoutRepeats (seen ++ batch.observations.map Observation.id) batches

/-- An observation rolled back with its batch is stored when it is sent again; and of
two records of one identifier in a batch, the one that is not from the future is
folded in, the first or not. -/
theorem repeats_matter :
    let host : EntityId := ⟨⟨7⟩⟩
    let report (n : ℕ) (observer : Option EntityId) (finishedAt : Timestamp) : Observation :=
      ⟨⟨⟨n⟩⟩, probeSsh, host, observer, finishedAt, .ok, .null⟩
    let store : Store := ⟨[], Inventory.new.insertEntity (.new host .host "h"), [], [],
      fun _ => [], none⟩
    let controller := start store 0 (fun _ => 0) [] fun _ => none
    let resent : List Batch :=
      [⟨6, fun _ => 6, [report 1 none 5, report 2 (some ⟨⟨9⟩⟩) 5]⟩, ⟨7, fun _ => 7, [report 1 none 5]⟩]
    let dated : List Batch := [⟨6, fun _ => 6, [report 1 none (minutes 9), report 1 none 5]⟩]
    (controller.ingestBatches resent).store.ids ≠
        (controller.ingestBatches (withoutRepeats [] resent)).store.ids ∧
      (controller.ingestBatches dated).engine.folded (host, probeSsh, none) ≠
        (controller.ingestBatches (withoutRepeats [] dated)).engine.folded (host, probeSsh, none) := by
  decide +kernel

/-! ### Rows the schema refuses -/

/-- Whether an observation can be stored: its target is known to the controller, and
the schema does not refuse it. -/
def acceptable (controller : Controller) (o : Observation) : Bool :=
  controller.knows o && !controller.store.refuses o

/-- That an observation of a batch gets through: the batch is answered, the
observation stored and confirmed to the agent, and store and engine are as if the
batch had held only what can be stored. -/
def Delivers (controller : Controller) (now : Timestamp) (clock : Observation → Timestamp)
    (batch : List Observation) (o : Observation) : Prop :=
  ∃ after response, controller.ingestAgentBatch now clock batch = some (after, response) ∧
    o.id ∈ after.store.ids ∧ o.id ∈ confirmed batch response ∧
    ∃ response', controller.ingestAgentBatch now clock (batch.filter controller.acceptable) =
      some (after, response')

variable {now : Timestamp} {clock : Observation → Timestamp} {batch : List Observation}

/-- The answer to a batch: none if a row is refused, else a rejection for every
unknown target. -/
theorem ingestAgentBatch_eq (controller : Controller) (now : Timestamp)
    (clock : Observation → Timestamp) (hids : Identified batch) :
    let accepted := batch.filter controller.knows
    (controller.ingestAgentBatch now clock batch).map
        (fun result => (result.1, result.2.rejected)) =
      if (controller.store.fresh accepted).any controller.store.refuses then none
      else some (controller.absorb now clock (controller.store.fresh accepted),
        (batch.filter fun o => !controller.knows o).map reject) := by
  intro accepted
  have hids' : Identified accepted := fun o ho o' ho' =>
    hids o (List.mem_filter.mp ho).1 o' (List.mem_filter.mp ho').1
  have heq := ingest_eq_absorb controller now clock hids'
  rw [ingestAgentBatch, List.partition_eq_filter_filter]
  dsimp only
  cases hresult : controller.ingestObservationsRecorded now clock (batch.filter controller.knows) with
  | none =>
    rw [hresult] at heq
    split at heq
    · next h => rw [if_pos h]; rfl
    · cases heq
  | some result =>
    rw [hresult] at heq
    split at heq
    · cases heq
    · next h =>
      have hafter : result.1 = _ := Option.some.inj heq
      rw [if_neg h, ← hafter]
      rfl

theorem identified_filter (hids : Identified batch) (p : Observation → Bool) :
    Identified (batch.filter p) := fun o ho o' ho' =>
  hids o (List.mem_filter.mp ho).1 o' (List.mem_filter.mp ho').1

/-- With no row refused, what can be stored is all that is new. -/
theorem fresh_acceptable (hids : Identified batch)
    (hrefused : ∀ o ∈ batch, controller.knows o = true → o.id ∉ controller.store.ids →
      controller.store.refuses o = false) :
    controller.store.fresh (batch.filter controller.acceptable) =
      controller.store.fresh (batch.filter controller.knows) := by
  have hfilter : batch.filter controller.acceptable =
      (batch.filter controller.knows).filter fun o => !controller.store.refuses o := by
    rw [List.filter_filter]
    exact List.filter_congr fun o _ => Bool.and_comm ..
  rw [hfilter, Store.fresh, List.firstsFrom_filter]
  · refine List.filter_eq_self.mpr fun o ho => ?_
    obtain ⟨hmem, hid⟩ := Store.mem_fresh ho
    obtain ⟨hmem, hknows⟩ := List.mem_filter.mp hmem
    rw [hrefused o hmem hknows hid]
    rfl
  · intro a ha b hb hab
    rw [identified_filter hids _ a ha b hb hab]

theorem any_refuses_iff (hids : Identified batch) :
    (controller.store.fresh (batch.filter controller.knows)).any controller.store.refuses = false ↔
      ∀ o ∈ batch, controller.knows o = true → o.id ∉ controller.store.ids →
        controller.store.refuses o = false := by
  rw [List.any_eq_false]
  constructor
  · intro h o ho hknows hid
    -- the first of its identifier is the observation itself
    have hmem : o.id ∈ (controller.store.fresh (batch.filter controller.knows)).map Observation.id :=
      Store.mem_ids_fresh.mpr ⟨List.mem_map_of_mem (List.mem_filter.mpr ⟨ho, hknows⟩), hid⟩
    obtain ⟨a, ha, hao⟩ := List.mem_map.mp hmem
    have heq := hids a (List.mem_filter.mp (Store.mem_fresh ha).1).1 o ho hao
    simpa [heq] using h a ha
  · intro h o ho
    obtain ⟨hmem, hid⟩ := Store.mem_fresh ho
    obtain ⟨hmem, hknows⟩ := List.mem_filter.mp hmem
    simp [h o hmem hknows hid]

/-- With no row refused, everything that can be stored gets through. -/
theorem delivers_of_not_refused (hids : Identified batch)
    (hrefused : ∀ o ∈ batch, controller.knows o = true → o.id ∉ controller.store.ids →
      controller.store.refuses o = false) {o : Observation} (ho : o ∈ batch)
    (hacceptable : controller.acceptable o = true) : controller.Delivers now clock batch o := by
  have hknows : controller.knows o = true := (Bool.and_eq_true_iff.mp hacceptable).1
  have hnone := (any_refuses_iff hids).mpr hrefused
  have hbatch := ingestAgentBatch_eq controller now clock hids
  have halone := ingestAgentBatch_eq controller now clock
    (identified_filter hids controller.acceptable)
  have haccepted : (batch.filter controller.acceptable).filter controller.knows =
      batch.filter controller.acceptable := by
    refine List.filter_eq_self.mpr fun a ha => ?_
    exact (Bool.and_eq_true_iff.mp (List.mem_filter.mp ha).2).1
  dsimp only at hbatch halone
  rw [haccepted, fresh_acceptable hids hrefused, if_neg (by simp [hnone])] at halone
  rw [if_neg (by simp [hnone])] at hbatch
  obtain ⟨⟨after, response⟩, hresult, heq⟩ := Option.map_eq_some_iff.mp hbatch
  obtain ⟨⟨after', response'⟩, hresult', heq'⟩ := Option.map_eq_some_iff.mp halone
  obtain ⟨hafter, hrejected⟩ := Prod.mk.inj heq
  have hsame : after' = after := (Prod.mk.inj heq').1.trans hafter.symm
  subst hsame
  refine ⟨after', response, hresult, ?_, ?_, response', hresult'⟩
  · rw [show after' = _ from hafter]
    change o.id ∈ (controller.store.added now _).ids
    rw [Store.ids_added, List.mem_append, Store.mem_ids_fresh]
    by_cases hstored : o.id ∈ controller.store.ids
    · exact Or.inl hstored
    · exact Or.inr ⟨List.mem_map_of_mem (List.mem_filter.mpr ⟨ho, hknows⟩), hstored⟩
  · -- an answer rejects what it cannot store, and tells it apart
    refine List.mem_map_of_mem (List.mem_filter.mpr ⟨ho, decide_eq_true ?_⟩)
    rw [show response.rejected = _ from hrejected, List.map_map]
    intro hmem
    obtain ⟨a, ha, htext⟩ := List.mem_map.mp hmem
    obtain ⟨ha, hunknown⟩ := List.mem_filter.mp ha
    have hid : a.id = o.id := ObservationId.toText_inj htext
    rw [hids a ha o ho hid, hknows] at hunknown
    cases hunknown

/-- **A batch gets through exactly if no row of it is refused.**  Everything in a batch
that can be stored is stored, folded in and confirmed if and only if nothing can be
stored at all, or every observation of a known target that is not stored already has
an observer the schema knows. -/
theorem delivers_iff (controller : Controller) (now : Timestamp) (clock : Observation → Timestamp)
    {batch : List Observation} (hids : Identified batch) :
    (∀ o ∈ batch, controller.acceptable o = true → controller.Delivers now clock batch o) ↔
      (∀ o ∈ batch, controller.acceptable o = false) ∨
      ∀ o ∈ batch, controller.knows o = true → o.id ∉ controller.store.ids →
        controller.store.refuses o = false := by
  constructor
  · intro h
    by_cases hsome : ∃ o ∈ batch, controller.acceptable o = true
    · obtain ⟨o, ho, hacceptable⟩ := hsome
      obtain ⟨after, response, hresult, -⟩ := h o ho hacceptable
      refine Or.inr ((any_refuses_iff hids).mp ?_)
      have heq := ingestAgentBatch_eq controller now clock hids
      dsimp only at heq
      rw [hresult] at heq
      split at heq
      · cases heq
      · next hany => rwa [Bool.not_eq_true] at hany
    · left
      intro o ho
      rw [← Bool.not_eq_true]
      exact fun hacceptable => hsome ⟨o, ho, hacceptable⟩
  · rintro (hnone | hrefused) o ho hacceptable
    · rw [hnone o ho] at hacceptable
      cases hacceptable
    · exact delivers_of_not_refused hids hrefused ho hacceptable

/-- A batch with an unknown target beside a report that can be stored. -/
theorem delivers_iff_unknown_target :
    let host : EntityId := ⟨⟨7⟩⟩
    let report (n : ℕ) (target : EntityId) : Observation :=
      ⟨⟨⟨n⟩⟩, probeSsh, target, none, 5, .ok, .null⟩
    let store : Store := ⟨[], Inventory.new.insertEntity (.new host .host "h"), [], [],
      fun _ => [], none⟩
    let controller := start store 0 (fun _ => 0) [] fun _ => none
    let batch := [report 1 host, report 2 ⟨⟨9⟩⟩]
    controller.acceptable (report 1 host) = true ∧ controller.acceptable (report 2 ⟨⟨9⟩⟩) = false ∧
      controller.Delivers 6 (fun _ => 6) batch (report 1 host) := by
  intro host report store controller batch
  have hids : Identified batch := by
    intro o ho o' ho' hid
    simp only [batch, List.mem_cons, List.not_mem_nil, or_false] at ho ho'
    rcases ho with rfl | rfl <;> rcases ho' with rfl | rfl <;> first | rfl | (cases hid)
  have hknown : controller.acceptable (report 1 host) = true := by decide +kernel
  refine ⟨hknown, by decide +kernel, ?_⟩
  refine (delivers_iff controller 6 (fun _ => 6) hids).mpr (Or.inr ?_) _ List.mem_cons_self hknown
  have hall : batch.all (fun o => !controller.knows o || !controller.store.refuses o) = true := by
    decide +kernel
  intro o ho hknows _
  have h := List.all_eq_true.mp hall o ho
  simpa [hknows] using h

/-- **One unknown observer blocks a batch**: the report that can be stored does not
get through. -/
theorem unknown_observer_blocks_batch :
    let host : EntityId := ⟨⟨7⟩⟩
    let report (n : ℕ) (observer : Option EntityId) : Observation :=
      ⟨⟨⟨n⟩⟩, probeSsh, host, observer, 5, .ok, .null⟩
    let store : Store := ⟨[], Inventory.new.insertEntity (.new host .host "h"), [], [],
      fun _ => [], none⟩
    let controller := start store 0 (fun _ => 0) [] fun _ => none
    let batch := [report 1 none, report 2 (some ⟨⟨9⟩⟩)]
    controller.acceptable (report 1 none) = true ∧
      ¬ controller.Delivers 6 (fun _ => 6) batch (report 1 none) := by
  intro host report store controller batch
  refine ⟨by decide +kernel, ?_⟩
  rintro ⟨after, response, hresult, -⟩
  have hnone : (controller.ingestAgentBatch 6 (fun _ => 6) batch).isSome = false := by decide +kernel
  rw [hresult] at hnone
  cases hnone

end Controller

end Sentinel
