import Sentinel.Controller.Builtin

/-!
# The agent's spool

When the controller is unreachable, observations wait in a table on the agent's
disk.  The table holds one row for each identifier; it is read in batches without
removing anything, and rows leave it when the controller has confirmed them or
when the spool is over its limits.

A batch is taken in order of priority, and of time within a priority, so that on
reconnection the controller learns about an outage first.

## Main definitions

* `priorityOf` — how important an observation is.
* `Spool` — the table, with its primary key.
* `Spool.insertAll`, `Spool.evict`, `Spool.push`, `Spool.peek`,
  `Spool.acknowledge` — the operations.
* `Spool.handedOut` — what a series of batches, each acknowledged, hands out.

## Main results

* `Spool.handedOut_eq` — batches of any sizes hand out the rows in replay order.
-/

namespace Sentinel

/-- How important an observation is to keep when space runs short, and how early
it is replayed. -/
def priorityOf (o : Observation) : ℤ :=
  match o.status with
  | .failed | .timeout | .stuck => 2
  | .degraded => 1
  | _ => if o.probeId = probeBoot then 2 else 0

/-- How much the spool may hold before it starts evicting. -/
structure SpoolLimits where
  /-- Oldest row to keep. -/
  maxAge : Duration
  /-- Most rows to keep. -/
  maxRows : ℕ
  /-- Most bytes of payload to keep. -/
  maxBytes : ℕ

/-- An agent's observation queue: rows of distinct identifiers, in no particular
order. -/
structure Spool where
  /-- The observations waiting. -/
  rows : List Observation
  /-- The identifier is the primary key. -/
  nodup : (rows.map Observation.id).Nodup

namespace Spool

/-- An empty spool. -/
def empty : Spool := ⟨[], .nil⟩

/-- Replay order: highest priority first, then oldest first. -/
def replayKey (o : Observation) : ℤ ×ₗ ℤ ×ₗ ObservationId :=
  toLex (-priorityOf o, toLex (o.finishedAt, o.id))

/-- Eviction order: lowest priority first, then oldest first. -/
def evictionKey (o : Observation) : ℤ ×ₗ ℤ ×ₗ ObservationId :=
  toLex (priorityOf o, toLex (o.finishedAt, o.id))

/-- A row's identifier tells it apart. -/
theorem eq_of_id_eq {spool : Spool} {a b : Observation} (ha : a ∈ spool.rows)
    (hb : b ∈ spool.rows) (h : a.id = b.id) : a = b :=
  List.inj_on_of_nodup_map spool.nodup ha hb h

theorem id_of_replayKey {a b : Observation} (h : replayKey a = replayKey b) : a.id = b.id := by
  have h := congrArg (fun k => (ofLex (ofLex k).2).2) h
  exact h

/-! ### Writing and reading -/

/-- Insert one row unless its identifier is there already. -/
def insert (spool : Spool) (o : Observation) : Spool :=
  if h : o.id ∈ spool.rows.map Observation.id then spool
  else ⟨spool.rows ++ [o], by
    rw [List.map_append, List.map_singleton]
    exact List.nodup_append.mpr ⟨spool.nodup, List.nodup_singleton _, fun a ha b hb => by
      rintro rfl
      rw [List.mem_singleton] at hb
      exact h (hb ▸ ha)⟩⟩

/-- Insert several rows. -/
def insertAll (spool : Spool) (observations : List Observation) : Spool :=
  observations.foldl insert spool

/-- Keep the rows that satisfy a condition. -/
def keep (spool : Spool) (p : Observation → Bool) : Spool :=
  ⟨spool.rows.filter p, spool.nodup.sublist (List.filter_sublist.map _)⟩

/-- The first `limit` rows in replay order, without removing them. -/
def peek (spool : Spool) (limit : ℕ) : List Observation :=
  (spool.rows.sortBy replayKey).take limit

/-- Remove the rows the controller has confirmed. -/
def acknowledge (spool : Spool) (ids : List ObservationId) : Spool :=
  spool.keep fun o => o.id ∉ ids

/-! ### Eviction -/

/-- Drop the first `n` rows in eviction order. -/
def dropLeast (spool : Spool) (n : ℕ) : Spool :=
  spool.acknowledge (((spool.rows.sortBy evictionKey).take n).map Observation.id)

/-- Total payload bytes held. -/
def sizeBytes (size : Observation → ℕ) (spool : Spool) : ℕ := (spool.rows.map size).sum

/-- Drop rows, sixty-four at a time, while the spool is over its byte limit.  A
round removes a row as long as there is one, so as many rounds as rows are
enough. -/
def shrink (size : Observation → ℕ) (maxBytes : ℕ) : ℕ → Spool → Spool
  | 0, spool => spool
  | rounds + 1, spool =>
    if maxBytes < spool.sizeBytes size then shrink size maxBytes rounds (spool.dropLeast 64)
    else spool

/-- Enforce the limits, removing the least valuable rows first: what is too old,
what is over the row limit, what is over the byte limit. -/
def evict (size : Observation → ℕ) (limits : SpoolLimits) (now : Timestamp) (spool : Spool) :
    Spool :=
  let young := spool.keep fun o => !(o.finishedAt < now - limits.maxAge)
  let few := young.dropLeast (young.rows.length - limits.maxRows)
  few.shrink size limits.maxBytes few.rows.length

/-- Add observations to the spool, evicting if it is over its limits. -/
def push (size : Observation → ℕ) (limits : SpoolLimits) (now : Timestamp) (spool : Spool)
    (observations : List Observation) : Spool :=
  (spool.insertAll observations).evict size limits now

/-! ### What the operations keep -/

variable {spool : Spool}

@[simp] theorem mem_keep {p : Observation → Bool} {o : Observation} :
    o ∈ (spool.keep p).rows ↔ o ∈ spool.rows ∧ p o = true := List.mem_filter

@[simp] theorem mem_acknowledge {ids : List ObservationId} {o : Observation} :
    o ∈ (spool.acknowledge ids).rows ↔ o ∈ spool.rows ∧ o.id ∉ ids := by
  rw [acknowledge, mem_keep, decide_eq_true_iff]

theorem mem_insert {o a : Observation} :
    a ∈ (spool.insert o).rows ↔
      a ∈ spool.rows ∨ (a = o ∧ o.id ∉ spool.rows.map Observation.id) := by
  unfold insert
  split
  · next h => simp [h]
  · next h => simp [h]

/-- What rows a push leaves: those there were, and of what is pushed one of each
identifier. -/
theorem insertAll_spec (observations : List Observation) :
    ∀ spool : Spool,
      (∀ a ∈ spool.rows, a ∈ (spool.insertAll observations).rows) ∧
      (∀ a ∈ (spool.insertAll observations).rows, a ∈ spool.rows ∨ a ∈ observations) ∧
      ∀ o ∈ observations, o.id ∈ (spool.insertAll observations).rows.map Observation.id := by
  induction observations with
  | nil => intro spool; exact ⟨fun a ha => ha, fun a ha => Or.inl ha, by simp⟩
  | cons o observations ih =>
    intro spool
    obtain ⟨hkeep, hfrom, hids⟩ := ih (spool.insert o)
    refine ⟨fun a ha => hkeep a (mem_insert.mpr (Or.inl ha)), fun a ha => ?_, ?_⟩
    · rcases hfrom a ha with ha | ha
      · refine (mem_insert.mp ha).imp_right ?_
        rintro ⟨rfl, -⟩
        exact List.mem_cons_self
      · exact Or.inr (List.mem_cons_of_mem _ ha)
    · rintro a (_ | ⟨_, ha⟩)
      · have hid : o.id ∈ (spool.insert o).rows.map Observation.id := by
          unfold insert
          split
          · next h => exact h
          · simp
        obtain ⟨a, ha, hid⟩ := List.mem_map.mp hid
        exact hid ▸ List.mem_map_of_mem (hkeep a ha)
      · exact hids a ha

theorem mem_dropLeast {n : ℕ} {o : Observation} (h : o ∈ (spool.dropLeast n).rows) :
    o ∈ spool.rows := (mem_acknowledge.mp h).1

theorem mem_shrink {size : Observation → ℕ} {maxBytes : ℕ} {o : Observation} (rounds : ℕ) :
    ∀ {spool : Spool}, o ∈ (spool.shrink size maxBytes rounds).rows → o ∈ spool.rows := by
  induction rounds with
  | zero => intro spool h; exact h
  | succ rounds ih =>
    intro spool h
    rw [shrink] at h
    split at h
    · exact mem_dropLeast (ih h)
    · exact h

/-- Eviction only removes rows. -/
theorem mem_evict {size : Observation → ℕ} {limits : SpoolLimits} {now : Timestamp}
    {o : Observation} (h : o ∈ (spool.evict size limits now).rows) : o ∈ spool.rows :=
  (mem_keep.mp (mem_dropLeast (mem_shrink _ h))).1

/-- **Eviction is due to the limits**: a row that goes was too old, or there were too
many rows or too many bytes. -/
theorem evict_cause {size : Observation → ℕ} {limits : SpoolLimits} {now : Timestamp}
    {o : Observation} (ho : o ∈ spool.rows) (hgone : o ∉ (spool.evict size limits now).rows) :
    o.finishedAt < now - limits.maxAge ∨ limits.maxRows < spool.rows.length ∨
      limits.maxBytes < spool.sizeBytes size := by
  by_contra hwithin
  simp only [not_or, not_lt] at hwithin
  obtain ⟨hage, hrows, hbytes⟩ := hwithin
  refine hgone ?_
  have hyoung : o ∈ (spool.keep fun o => !(o.finishedAt < now - limits.maxAge)).rows :=
    mem_keep.mpr ⟨ho, by simpa using hage⟩
  -- within the limits, the second and third steps remove nothing
  have hsub : List.Sublist (spool.keep fun o => !(o.finishedAt < now - limits.maxAge)).rows
      spool.rows := List.filter_sublist
  rw [evict]
  generalize (spool.keep fun o => !(o.finishedAt < now - limits.maxAge)) = young at hyoung hsub ⊢
  have hzero : young.rows.length - limits.maxRows = 0 :=
    Nat.sub_eq_zero_of_le (hsub.length_le.trans hrows)
  have hfew : (young.dropLeast 0).rows = young.rows := by
    simp [dropLeast, acknowledge, keep]
  have hsmall : (young.dropLeast 0).sizeBytes size ≤ limits.maxBytes := by
    rw [sizeBytes, hfew]
    exact ((hsub.map size).sum_le_sum fun _ _ => Nat.zero_le _).trans hbytes
  rw [hzero]
  have hshrink : ∀ rounds, (young.dropLeast 0).shrink size limits.maxBytes rounds =
      young.dropLeast 0 := by
    intro rounds
    cases rounds with
    | zero => rfl
    | succ rounds => rw [shrink, if_neg (not_lt.mpr hsmall)]
  rw [hshrink, hfew]
  exact hyoung

/-! ### Draining -/

/-- What a series of batches hands out, each acknowledged before the next one is
read. -/
def handedOut : Spool → List ℕ → List Observation
  | _, [] => []
  | spool, limit :: limits =>
    spool.peek limit ++
      (spool.acknowledge ((spool.peek limit).map Observation.id)).handedOut limits

/-- What is left after a series of batches. -/
def leftAfter : Spool → List ℕ → Spool
  | spool, [] => spool
  | spool, limit :: limits =>
    (spool.acknowledge ((spool.peek limit).map Observation.id)).leftAfter limits

theorem replayKey_injOn (spool : Spool) :
    ∀ a ∈ spool.rows, ∀ b ∈ spool.rows, replayKey a = replayKey b → a = b :=
  fun _ ha _ hb h => eq_of_id_eq ha hb (id_of_replayKey h)

section Order

variable {κ : Type*} [LinearOrder κ] {key : Observation → κ}

theorem nodup_sortBy (spool : Spool) (key : Observation → κ) :
    ((spool.rows.sortBy key).map Observation.id).Nodup :=
  ((List.perm_sortBy key spool.rows).map _).nodup_iff.mpr spool.nodup

/-- What comes before a row in some order is less, and what comes after it greater. -/
theorem sortBy_split (hinj : ∀ a ∈ spool.rows, ∀ b ∈ spool.rows, key a = key b → a = b) {o : Observation}
    {before after : List Observation} (h : spool.rows.sortBy key = before ++ o :: after) :
    (∀ b ∈ before, key b < key o) ∧ ∀ b ∈ after, key o < key b := by
  have hsorted := List.pairwise_sortBy key spool.rows
  have hnodup := (spool.nodup_sortBy key).of_map
  have hrow : ∀ {b}, b ∈ before ++ o :: after → b ∈ spool.rows := fun hb => List.mem_sortBy.mp (h ▸ hb)
  have ho : o ∈ spool.rows := hrow (List.mem_append_right _ List.mem_cons_self)
  rw [h] at hsorted hnodup
  obtain ⟨-, hafter, hbefore⟩ := List.pairwise_append.mp hsorted
  obtain ⟨-, hrest, hdisjoint⟩ := List.nodup_append.mp hnodup
  constructor
  · intro b hb
    refine lt_of_le_of_ne (hbefore b hb o List.mem_cons_self) fun heq => ?_
    exact hdisjoint b hb o List.mem_cons_self (hinj b (hrow (List.mem_append_left _ hb)) o ho heq)
  · intro b hb
    refine lt_of_le_of_ne (List.rel_of_pairwise_cons hafter hb) fun heq => ?_
    have hsame := hinj o ho b (hrow (List.mem_append_right _ (List.mem_cons_of_mem _ hb))) heq
    exact (List.nodup_cons.mp hrest).1 (hsame ▸ hb)

/-- Without the first rows in some order, the rest comes in the same order. -/
theorem sortBy_acknowledge_take (hinj : ∀ a ∈ spool.rows, ∀ b ∈ spool.rows, key a = key b → a = b) (n : ℕ) :
    (spool.acknowledge (((spool.rows.sortBy key).take n).map Observation.id)).rows.sortBy key =
      (spool.rows.sortBy key).drop n := by
  have hnodup := spool.nodup_sortBy key
  rw [acknowledge, keep, ← List.filter_sortBy hinj]
  generalize spool.rows.sortBy key = sorted at hnodup ⊢
  have hsplit := List.take_append_drop n sorted
  rw [← hsplit, List.map_append, List.nodup_append] at hnodup
  have hfilter : ∀ p, sorted.filter p =
      (sorted.take n).filter p ++ (sorted.drop n).filter p := fun p => by
    rw [← List.filter_append, hsplit]
  have htake : (sorted.take n).filter
      (fun o => decide (o.id ∉ (sorted.take n).map Observation.id)) = [] := by
    refine List.filter_eq_nil_iff.mpr fun o ho => ?_
    simpa only [decide_eq_true_iff, not_not] using List.mem_map_of_mem ho
  have hdrop : (sorted.drop n).filter
      (fun o => decide (o.id ∉ (sorted.take n).map Observation.id)) = sorted.drop n := by
    refine List.filter_eq_self.mpr fun o ho => decide_eq_true fun hmem => ?_
    exact hnodup.2.2 _ hmem _ (List.mem_map_of_mem ho) rfl
  rw [hfilter, htake, hdrop, List.nil_append]

end Order

/-- Without the batch just read, the rest comes in the same order. -/
theorem sortBy_acknowledge_peek (spool : Spool) (limit : ℕ) :
    (spool.acknowledge ((spool.peek limit).map Observation.id)).rows.sortBy replayKey =
      (spool.rows.sortBy replayKey).drop limit :=
  sortBy_acknowledge_take spool.replayKey_injOn limit

theorem handedOut_append_leftAfter (limits : List ℕ) :
    ∀ spool : Spool, spool.handedOut limits ++ (spool.leftAfter limits).rows.sortBy replayKey =
      spool.rows.sortBy replayKey := by
  induction limits with
  | nil => intro spool; rfl
  | cons limit limits ih =>
    intro spool
    rw [handedOut, leftAfter, List.append_assoc, ih, sortBy_acknowledge_peek, peek,
      List.take_append_drop]

/-- **Batches of any sizes hand out the rows in replay order.** -/
theorem handedOut_eq {limits : List ℕ} (h : (spool.leftAfter limits).rows = []) :
    spool.handedOut limits = spool.rows.sortBy replayKey := by
  have happend := handedOut_append_leftAfter limits spool
  rw [h] at happend
  exact (List.append_nil _).symm.trans happend

end Spool

end Sentinel
