import Sentinel.Persistence.Streams

/-!
# The query for the newest observations

The newest observation of each stream is not found by ranking all rows of an entity.  A
query lists the streams of the entity, told apart by the texts of probe and observer, and
for each of them seeks one row, the first of the valid ones in descending order of time
and row number.  Whether a row finished too long after it was ingested is a question to
the database, about the Julian days of two texts.

## Main definitions

* `ObservationTable` — rows under their row numbers.
* `ObservationTable.latestObservationsSince` — the query.
* `ObservationTable.IsLatest` — the latest valid row of its stream.

## Main results

* `ObservationTable.latest_spec` — **the query finds the latest valid row of each stream
  that has one, once, and nothing else.**
* `ObservationTable.perm_latestObservationsSince` — and so what the store reads.
-/

namespace Sentinel

/-- The rows of the observations, under their row numbers. -/
structure ObservationTable where
  /-- The rows. -/
  rows : List (ℕ × ObservationRow)
  /-- No two rows have one number. -/
  distinct : (rows.map Prod.fst).Nodup

namespace ObservationTable

/-! ### The query -/

section Query

variable (soon : Timestamp → Timestamp → Bool) (table : ObservationTable) (now : Timestamp)
  (entity : EntityId) (cutoff : Option Timestamp)

/-- The text of an observer; no text for none. -/
def observerText (observer : Option EntityId) : String := (observer.map fun id => id.uuid.toText).getD ""

/-- The streams of an entity. -/
def streams : List (ProbeId × String) :=
  ((table.rows.filter fun row => row.2.observation.targetEntity = entity).map fun row =>
    (row.2.observation.probeId, observerText row.2.observation.observerEntity)).dedup

/-- Whether a row counts for a stream: it is of the stream, it finished neither too long
from now nor too long after it was ingested, and neither time is before the cutoff. -/
def counts (stream : ProbeId × String) (row : ObservationRow) : Bool :=
  row.observation.targetEntity = entity && row.observation.probeId = stream.1 &&
    observerText row.observation.observerEntity = stream.2 &&
    row.observation.finishedAt ≤ now + maxFutureSkew &&
    soon row.observation.finishedAt row.ingestedAt &&
    cutoff.all fun cutoff => cutoff ≤ row.observation.finishedAt && cutoff ≤ row.ingestedAt

/-- What the rows of a stream are ordered by. -/
def order (row : ℕ × ObservationRow) : Timestamp ×ₗ ℕ := toLex (row.2.observation.finishedAt, row.1)

/-- Seek the row of a stream. -/
def seek (stream : ProbeId × String) : Option ℕ :=
  ((table.rows.filter fun row => counts soon now entity cutoff stream row.2).sortBy order).reverse.head?.map
    Prod.fst

/-- The newest observation of each stream of an entity: the rows that were sought. -/
def latestObservationsSince : List Observation :=
  (table.streams entity).flatMap fun stream =>
    (table.rows.filter fun row => table.seek soon now entity cutoff stream = some row.1).map fun row =>
      row.2.observation

/-- The latest valid row of its stream: of the entity, and valid, and no valid row of the
stream is later, nor as late under a greater number. -/
structure IsLatest (row : ℕ × ObservationRow) : Prop where
  mem : row ∈ table.rows
  target : row.2.observation.targetEntity = entity
  valid : Store.valid now cutoff row.2 = true
  greatest : ∀ other ∈ table.rows, other.2.observation.streamKey = row.2.observation.streamKey →
    Store.valid now cutoff other.2 = true → order other ≤ order row

end Query

/-! ### What the query finds -/

/-- The text of an observer tells it apart, and from none. -/
theorem observerText_injective : Function.Injective observerText := by
  intro a b h
  cases a with
  | none =>
    cases b with
    | none => rfl
    | some b => exact absurd h.symm b.uuid.toText_ne_empty
  | some a =>
    cases b with
    | none => exact absurd h a.uuid.toText_ne_empty
    | some b =>
      obtain ⟨a⟩ := a
      obtain ⟨b⟩ := b
      simp only [observerText, Option.map_some, Option.getD_some] at h
      rw [Uuid.toText_injective h]

section Found

variable {soon : Timestamp → Timestamp → Bool} {table : ObservationTable} {now : Timestamp}
  {entity : EntityId} {cutoff : Option Timestamp}

/-- The texts of the stream that a row belongs to. -/
def streamOf (row : ℕ × ObservationRow) : ProbeId × String :=
  (row.2.observation.probeId, observerText row.2.observation.observerEntity)

/-- Rows of one entity belong to one stream if the texts are the same. -/
theorem streamOf_eq_iff {row other : ℕ × ObservationRow}
    (h : row.2.observation.targetEntity = other.2.observation.targetEntity) :
    streamOf row = streamOf other ↔ row.2.observation.streamKey = other.2.observation.streamKey := by
  simp only [streamOf, Observation.streamKey, Prod.mk.injEq, observerText_injective.eq_iff, h, true_and]

theorem mem_streams {stream : ProbeId × String} :
    stream ∈ table.streams entity ↔
      ∃ row ∈ table.rows, row.2.observation.targetEntity = entity ∧ streamOf row = stream := by
  simp only [streams, List.mem_dedup, List.mem_map, List.mem_filter, decide_eq_true_iff, and_assoc]
  rfl

/-- A row is the only one under its number. -/
theorem eq_of_rowid {row other : ℕ × ObservationRow} (hrow : row ∈ table.rows) (hother : other ∈ table.rows)
    (h : row.1 = other.1) : row = other :=
  List.inj_on_of_nodup_map table.distinct hrow hother h

theorem eq_of_order {row other : ℕ × ObservationRow} (hrow : row ∈ table.rows) (hother : other ∈ table.rows)
    (h : order row = order other) : row = other :=
  eq_of_rowid hrow hother (congrArg Prod.snd (toLex.injective h))

/-- Where the database reads the days as the instants they are, a row counts for a stream if
it is a valid row of it. -/
theorem counts_iff {row : ℕ × ObservationRow} {stream : ProbeId × String}
    (hsoon : soon row.2.observation.finishedAt row.2.ingestedAt =
      decide (row.2.observation.finishedAt ≤ row.2.ingestedAt + maxFutureSkew)) :
    counts soon now entity cutoff stream row.2 = true ↔
      row.2.observation.targetEntity = entity ∧ streamOf row = stream ∧
        Store.valid now cutoff row.2 = true := by
  obtain ⟨probe, observer⟩ := stream
  rw [counts, Store.valid, hsoon]
  simp only [Bool.and_eq_true, decide_eq_true_iff, streamOf, Prod.mk.injEq]
  tauto

/-- The row that is sought is the latest valid one. -/
theorem seek_eq_some_iff {row : ℕ × ObservationRow} {stream : ProbeId × String} (hrow : row ∈ table.rows)
    (hsoon : ∀ row ∈ table.rows, soon row.2.observation.finishedAt row.2.ingestedAt =
      decide (row.2.observation.finishedAt ≤ row.2.ingestedAt + maxFutureSkew)) :
    table.seek soon now entity cutoff stream = some row.1 ↔
      table.IsLatest now entity cutoff row ∧ streamOf row = stream := by
  have hmem {other : ℕ × ObservationRow} :
      other ∈ table.rows.filter (fun row => counts soon now entity cutoff stream row.2) ↔
        other ∈ table.rows ∧ other.2.observation.targetEntity = entity ∧ streamOf other = stream ∧
          Store.valid now cutoff other.2 = true := by
    rw [List.mem_filter]
    exact and_congr_right fun hother => counts_iff (hsoon other hother)
  have hhead := @List.head?_reverse_sortBy _ _ _ order
    (table.rows.filter fun row => counts soon now entity cutoff stream row.2) row
    fun b hb c hc => eq_of_order (hmem.mp hb).1 (hmem.mp hc).1
  have hseek : table.seek soon now entity cutoff stream = some row.1 ↔
      ((table.rows.filter fun row => counts soon now entity cutoff stream row.2).sortBy order).reverse.head? =
        some row := by
    rw [seek, Option.map_eq_some_iff]
    constructor
    · rintro ⟨other, hother, hnumber⟩
      have hother' : other ∈ table.rows := by
        have := List.mem_of_mem_head? hother
        rw [List.mem_reverse, List.mem_sortBy] at this
        exact (hmem.mp this).1
      rw [hother, eq_of_rowid hother' hrow hnumber]
    · exact fun h => ⟨row, h, rfl⟩
  rw [hseek, hhead, hmem]
  constructor
  · rintro ⟨⟨-, htarget, hstream, hvalid⟩, hgreatest⟩
    refine ⟨⟨hrow, htarget, hvalid, fun other hother hkey hother' => ?_⟩, hstream⟩
    have htarget' : other.2.observation.targetEntity = entity := (congrArg Prod.fst hkey).trans htarget
    refine hgreatest other (hmem.mpr ⟨hother, htarget', ?_, hother'⟩)
    rw [← hstream]
    exact (streamOf_eq_iff (htarget'.trans htarget.symm)).mpr hkey
  · rintro ⟨⟨-, htarget, hvalid, hgreatest⟩, hstream⟩
    refine ⟨⟨hrow, htarget, hstream, hvalid⟩, fun other hother => ?_⟩
    obtain ⟨hother, htarget', hstream', hvalid'⟩ := hmem.mp hother
    refine hgreatest other hother ?_ hvalid'
    exact (streamOf_eq_iff (htarget'.trans htarget.symm)).mp (hstream'.trans hstream.symm)

/-- What the query finds are the observations of the latest valid rows. -/
theorem mem_latestObservationsSince {o : Observation}
    (hsoon : ∀ row ∈ table.rows, soon row.2.observation.finishedAt row.2.ingestedAt =
      decide (row.2.observation.finishedAt ≤ row.2.ingestedAt + maxFutureSkew)) :
    o ∈ table.latestObservationsSince soon now entity cutoff ↔
      ∃ row, table.IsLatest now entity cutoff row ∧ row.2.observation = o := by
  simp only [latestObservationsSince, List.mem_flatMap, List.mem_map, List.mem_filter, decide_eq_true_iff]
  constructor
  · rintro ⟨stream, -, row, ⟨hrow, hseek⟩, rfl⟩
    exact ⟨row, ((seek_eq_some_iff hrow hsoon).mp hseek).1, rfl⟩
  · rintro ⟨row, hlatest, rfl⟩
    refine ⟨streamOf row, mem_streams.mpr ⟨row, hlatest.mem, hlatest.target, rfl⟩, row, ⟨hlatest.mem, ?_⟩, rfl⟩
    exact (seek_eq_some_iff hlatest.mem hsoon).mpr ⟨hlatest, rfl⟩

/-- Two latest rows of one stream are one row. -/
theorem IsLatest.unique {row other : ℕ × ObservationRow} (h : table.IsLatest now entity cutoff row)
    (h' : table.IsLatest now entity cutoff other)
    (hkey : row.2.observation.streamKey = other.2.observation.streamKey) : row = other :=
  eq_of_order h.mem h'.mem (le_antisymm (h'.greatest row h.mem hkey h.valid)
    (h.greatest other h'.mem hkey.symm h'.valid))

/-- No stream has two rows among those that are found. -/
theorem nodup_latestObservationsSince
    (hsoon : ∀ row ∈ table.rows, soon row.2.observation.finishedAt row.2.ingestedAt =
      decide (row.2.observation.finishedAt ≤ row.2.ingestedAt + maxFutureSkew)) :
    ((table.latestObservationsSince soon now entity cutoff).map Observation.streamKey).Nodup := by
  let sought (stream : ProbeId × String) : List (ℕ × ObservationRow) :=
    table.rows.filter fun row => table.seek soon now entity cutoff stream = some row.1
  have hsought {stream : ProbeId × String} {row : ℕ × ObservationRow} (h : row ∈ sought stream) :
      table.IsLatest now entity cutoff row ∧ streamOf row = stream := by
    obtain ⟨hrow, hseek⟩ := List.mem_filter.mp h
    exact (seek_eq_some_iff hrow hsoon).mp (of_decide_eq_true hseek)
  have hrows : ((table.streams entity).flatMap sought).Nodup := by
    refine List.nodup_flatMap.mpr ⟨fun stream _ => (List.Nodup.of_map _ table.distinct).filter _, ?_⟩
    refine (List.nodup_dedup _).imp fun hne row hrow hrow' => hne ?_
    exact (hsought hrow).2.symm.trans (hsought hrow').2
  rw [latestObservationsSince, List.map_flatMap]
  simp only [List.map_map]
  rw [← List.map_flatMap]
  refine hrows.map_on fun row hrow other hother hkey => ?_
  obtain ⟨stream, -, hrow⟩ := List.mem_flatMap.mp hrow
  obtain ⟨stream', -, hother⟩ := List.mem_flatMap.mp hother
  exact (hsought hrow).1.unique (hsought hother).1 hkey

end Found

/-! ### The store -/

/-- The rows of a store, numbered in the order they were inserted. -/
def ofStore (store : Store) : ObservationTable where
  rows := store.observations.zipIdx.map Prod.swap
  distinct := by
    rw [List.map_map]
    change (store.observations.zipIdx.map Prod.snd).Nodup
    rw [List.zipIdx_map_snd]
    exact List.nodup_range'

theorem mem_rows_ofStore {store : Store} {row : ℕ × ObservationRow} :
    row ∈ (ofStore store).rows ↔ store.observations[row.1]? = some row.2 := by
  obtain ⟨number, row⟩ := row
  simp only [ofStore, List.mem_map, Prod.exists, Prod.swap_prod_mk, Prod.mk.injEq]
  constructor
  · rintro ⟨a, b, h, rfl, rfl⟩
    exact List.mem_zipIdx_iff_getElem?.mp h
  · exact fun h => ⟨row, number, List.mem_zipIdx_iff_getElem?.mpr h, rfl, rfl⟩

/-- Of the valid rows of a stream the last one of greatest time is the latest. -/
theorem exists_isLatest_of_maxByKey {store : Store} {now : Timestamp} {cutoff : Option Timestamp}
    {k : StreamKey} {row : ObservationRow}
    (h : (store.reportsIn now cutoff k).maxByKey (fun row => row.observation.finishedAt) = some row) :
    row.observation.streamKey = k ∧ ∃ number, (ofStore store).IsLatest now k.1 cutoff (number, row) := by
  obtain ⟨l₁, l₂, hsplit, hless⟩ := List.maxByKey_split _ h
  have hgreatest := fun other hother => @List.isLE_maxByKey _ _ _ _ _ _ _ other h hother
  have hvalid := (List.mem_filter.mp (List.maxByKey_mem h)).2
  rw [Bool.and_eq_true, decide_eq_true_iff] at hvalid
  -- the rows before and after it in the store
  obtain ⟨before, rest, hstore, -, hrest⟩ := List.filter_eq_append_iff.mp hsplit
  obtain ⟨skipped, after, rfl, -, -, hafter⟩ := List.filter_eq_cons_iff.mp hrest
  have hnumber : store.observations[before.length + skipped.length]? = some row := by
    rw [hstore, ← List.append_assoc, ← List.length_append, List.getElem?_append_right le_rfl, Nat.sub_self]
    rfl
  refine ⟨hvalid.1, before.length + skipped.length, mem_rows_ofStore.mpr hnumber,
    congrArg Prod.fst hvalid.1, hvalid.2, fun other hother hkey hother' => ?_⟩
  have hcounts : (decide (other.2.observation.streamKey = k) && Store.valid now cutoff other.2) = true := by
    rw [Bool.and_eq_true, decide_eq_true_iff]
    exact ⟨hkey.trans hvalid.1, hother'⟩
  rw [mem_rows_ofStore] at hother
  have hle := Std.isLE_compare.mp
    (hgreatest other.2 (List.mem_filter.mpr ⟨List.mem_of_getElem? hother, hcounts⟩))
  refine Prod.Lex.toLex_le_toLex.mpr ?_
  rcases lt_or_eq_of_le hle with hlt | heq
  · exact Or.inl hlt
  · refine Or.inr ⟨heq, not_lt.mp fun hlater => ?_⟩
    -- a row with a greater number is after it, and so before it in time
    have hmem : other.2 ∈ after := by
      have hshift : other.1 - (before ++ skipped).length = other.1 - (before.length + skipped.length) - 1 + 1 := by
        rw [List.length_append]
        omega
      rw [hstore, ← List.append_assoc, List.getElem?_append_right (by rw [List.length_append]; omega), hshift,
        List.getElem?_cons_succ] at hother
      exact List.mem_of_getElem? hother
    exact absurd heq (ne_of_lt (hless other.2 (hafter ▸ List.mem_filter.mpr ⟨hmem, hcounts⟩)))

/-- The query finds what is read from a store as the newest observations of its streams. -/
theorem perm_latestObservationsSince {soon : Timestamp → Timestamp → Bool} (store : Store) (now : Timestamp)
    (entity : EntityId) (cutoff : Option Timestamp)
    (hsoon : ∀ row ∈ store.observations, soon row.observation.finishedAt row.ingestedAt =
      decide (row.observation.finishedAt ≤ row.ingestedAt + maxFutureSkew)) :
    ((ofStore store).latestObservationsSince soon now entity cutoff).Perm
      (store.latestObservationsSince now entity cutoff) := by
  have hsoon' : ∀ row ∈ (ofStore store).rows, soon row.2.observation.finishedAt row.2.ingestedAt =
      decide (row.2.observation.finishedAt ≤ row.2.ingestedAt + maxFutureSkew) :=
    fun row hrow => hsoon row.2 (List.mem_of_getElem? (mem_rows_ofStore.mp hrow))
  refine (List.perm_ext_iff_of_nodup (.of_map _ (nodup_latestObservationsSince hsoon')) ?_).mpr fun o => ?_
  · refine (store.latestObservationsSince_spec now entity cutoff).1.imp ?_
    exact fun hne heq => hne (congrArg Observation.streamKey heq)
  · rw [mem_latestObservationsSince hsoon', Store.mem_latestObservationsSince]
    constructor
    · rintro ⟨row, hlatest, rfl⟩
      refine ⟨hlatest.target, ?_⟩
      cases hmax : (store.reportsIn now cutoff row.2.observation.streamKey).maxByKey
          fun row => row.observation.finishedAt with
      | none =>
        rw [List.maxByKey_eq_none_iff] at hmax
        have hmem : row.2 ∈ store.reportsIn now cutoff row.2.observation.streamKey :=
          List.mem_filter.mpr ⟨List.mem_of_getElem? (mem_rows_ofStore.mp hlatest.mem), by simp [hlatest.valid]⟩
        exact absurd (hmax ▸ hmem) List.not_mem_nil
      | some other =>
        obtain ⟨hkey, number, hother⟩ := exists_isLatest_of_maxByKey hmax
        rw [show row.2.observation.streamKey.1 = entity from hlatest.target] at hother
        rw [hlatest.unique hother hkey.symm]
        rfl
    · rintro ⟨rfl, hmax⟩
      obtain ⟨row, hmax, hrow⟩ := Option.map_eq_some_iff.mp hmax
      obtain ⟨-, number, hlatest⟩ := exists_isLatest_of_maxByKey hmax
      exact ⟨(number, row), hlatest, hrow⟩

end ObservationTable

end Sentinel
