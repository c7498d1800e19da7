import Sentinel.State.Replay

/-!
# What was folded in

An engine says of a stream which observation was folded in last, not which ones
were before.  Here the engine is carried along with that record, and results that
come in blocks of one identifier each, no block of which is about a stream and
identifier of another, are seen to be folded in at most once.

## Main definitions

* `TracedEngine`, `TracedEngine.ingest`, `TracedEngine.ingestAll` — an engine with
  the observations folded into each of its streams.
* `TracedEngine.Once` — none of them twice, and all of them known.

## Main results

* `TracedEngine.ingestAll_engine` — the record does not change what the engine does.
* `TracedEngine.Once.ingestAll` — **blocks of results not folded in before leave every
  stream with each observation once.**
-/

namespace Sentinel

/-- An engine, and for every stream the observations folded into it, oldest first.
Nothing reads the record. -/
structure TracedEngine where
  /-- The engine. -/
  engine : StateEngine
  /-- What was folded into each stream. -/
  folded : StreamKey → List ObservationId

namespace TracedEngine

/-- Fold one observation in. -/
def ingest (traced : TracedEngine) (now : Timestamp) (o : Observation) : TracedEngine where
  engine := (traced.engine.ingest now o).1
  folded :=
    if (traced.engine.admits now o).isSome then
      Function.update traced.folded o.streamKey (traced.folded o.streamKey ++ [o.id])
    else traced.folded

/-- Fold observations in, in order, each with the clock at its turn. -/
def ingestAll (clock : Observation → Timestamp) (traced : TracedEngine)
    (observations : List Observation) : TracedEngine :=
  observations.foldl (fun traced o => traced.ingest (clock o) o) traced

variable {traced : TracedEngine} {clock : Observation → Timestamp}

/-- The record does not change what the engine does. -/
theorem ingestAll_engine (clock : Observation → Timestamp) (observations : List Observation) :
    ∀ traced : TracedEngine, (traced.ingestAll clock observations).engine =
      (traced.engine.ingestAll (observations.map fun o => (clock o, o))).1 := by
  induction observations with
  | nil => intro traced; rfl
  | cons o observations ih => intro traced; exact ih (traced.ingest (clock o) o)

theorem ingestAll_append (xs ys : List Observation) :
    traced.ingestAll clock (xs ++ ys) = (traced.ingestAll clock xs).ingestAll clock ys :=
  List.foldl_append

/-! ### One observation -/

/-- An observation leaves the record of a stream alone, or it is put at its end and
is then the stream's last. -/
theorem ingest_folded (traced : TracedEngine) (now : Timestamp) (o : Observation) (k : StreamKey) :
    ((traced.ingest now o).folded k = traced.folded k ∧
      (traced.ingest now o).engine.streams[k]? = traced.engine.streams[k]?) ∨
    (o.streamKey = k ∧ (traced.ingest now o).folded k = traced.folded k ++ [o.id] ∧
      (∀ s, traced.engine.streams[k]? = some s → s.lastObservation ≠ o.id) ∧
      ∃ s, (traced.ingest now o).engine.streams[k]? = some s ∧ s.lastObservation = o.id) := by
  cases hm : traced.engine.admits now o with
  | none =>
    refine Or.inl ⟨?_, ?_⟩
    · simp [ingest, hm]
    · simp [ingest, StateEngine.ingest, hm]
  | some mapping =>
    have hstreams := StateEngine.ingest_streams_of_admits hm k
    by_cases hk : o.streamKey = k
    · refine Or.inr ⟨hk, ?_, ?_, _, hstreams.trans (if_pos hk), rfl⟩
      · rw [← hk]
        simp [ingest, hm]
      · intro s hs hlast
        -- a stream refuses the observation it took last
        have hrefuses := (StateEngine.admits_eq_some.mp hm).2 s (hk ▸ hs)
        simp [StateStream.refuses, hlast] at hrefuses
    · refine Or.inl ⟨?_, hstreams.trans (if_neg hk)⟩
      simp [ingest, hm, Function.update_of_ne (Ne.symm hk)]

/-- Streams are not lost. -/
theorem exists_stream_ingest {k : StreamKey} {s : StateStream} (now : Timestamp) (o : Observation)
    (hs : traced.engine.streams[k]? = some s) :
    ∃ s, (traced.ingest now o).engine.streams[k]? = some s := by
  rcases EngineCall.streams_run_or traced.engine (.ingest now o) k with ⟨-, h⟩ | h
  · exact ⟨s, h.trans hs⟩
  · exact h

/-- What is recorded of a stream was recorded before or is among what came in for
it. -/
theorem mem_ingestAll_folded (observations : List Observation) {k : StreamKey} {x : ObservationId} :
    ∀ {traced : TracedEngine}, x ∈ (traced.ingestAll clock observations).folded k →
      x ∈ traced.folded k ∨ ∃ o ∈ observations, o.streamKey = k ∧ o.id = x := by
  induction observations with
  | nil => intro traced h; exact Or.inl h
  | cons o observations ih =>
    intro traced h
    rcases ih h with h | ⟨o', ho', h⟩
    · rcases traced.ingest_folded (clock o) o k with ⟨hfolded, -⟩ | ⟨hk, hfolded, -⟩
      · exact Or.inl (hfolded ▸ h)
      · rw [hfolded, List.mem_append, List.mem_singleton] at h
        exact h.imp_right fun h => ⟨o, List.mem_cons_self, hk, h.symm⟩
    · exact Or.inr ⟨o', List.mem_cons_of_mem _ ho', h⟩

/-! ### Blocks -/

/-- The observations of one identifier: each stream takes it at most once more, if
what is recorded of it so far is what the stream took last. -/
theorem ingestAll_block (x : ObservationId) (block : List Observation)
    (hblock : ∀ o ∈ block, o.id = x) (k : StreamKey) :
    ∀ {traced : TracedEngine}, (∀ o ∈ block, o.streamKey = k → x ∈ traced.folded k →
        ∃ s, traced.engine.streams[k]? = some s ∧ s.lastObservation = x) →
      (traced.ingestAll clock block).folded k = traced.folded k ∨
      (x ∉ traced.folded k ∧
        (traced.ingestAll clock block).folded k = traced.folded k ++ [x]) := by
  induction block with
  | nil => intro traced _; exact Or.inl rfl
  | cons o block ih =>
    intro traced hlast
    have hid : o.id = x := hblock o List.mem_cons_self
    have hrest : ∀ o ∈ block, o.id = x := fun o ho => hblock o (List.mem_cons_of_mem _ ho)
    rcases traced.ingest_folded (clock o) o k with ⟨hfolded, hstreams⟩ | ⟨hk, hfolded, hne, hnew⟩
    · -- not taken: the rest of the block goes on from the same record
      have hstep := @ih hrest (traced.ingest (clock o) o) fun o' ho' hk' hmem => by
        rw [hstreams]
        exact hlast o' (List.mem_cons_of_mem _ ho') hk' (hfolded ▸ hmem)
      rw [hfolded] at hstep
      exact hstep
    · -- taken: the rest of the block is refused
      rw [hid] at hfolded hne hnew
      have hx : x ∉ traced.folded k := by
        intro hmem
        obtain ⟨s, hs, hsx⟩ := hlast o List.mem_cons_self hk hmem
        exact hne s hs hsx
      have hmem : x ∈ (traced.ingest (clock o) o).folded k := by rw [hfolded]; simp
      refine Or.inr ⟨hx, ?_⟩
      rcases @ih hrest (traced.ingest (clock o) o) fun _ _ _ _ => hnew with heq | ⟨hnot, -⟩
      · exact heq.trans hfolded
      · exact absurd hmem hnot

/-- Blocks of one identifier each, apart from each other and from what is recorded,
leave every record without repetition. -/
theorem nodup_ingestAll_blocks (k : StreamKey) (blocks : List (List Observation))
    (hblocks : ∀ block ∈ blocks, ∃ x, ∀ o ∈ block, o.id = x)
    (hapart : blocks.Pairwise fun block block' => ∀ o ∈ block, ∀ o' ∈ block',
      o.streamKey = o'.streamKey → o.id ≠ o'.id) :
    ∀ {traced : TracedEngine}, (traced.folded k).Nodup →
      (∀ block ∈ blocks, ∀ o ∈ block, o.id ∉ traced.folded o.streamKey) →
      ((traced.ingestAll clock blocks.flatten).folded k).Nodup := by
  induction blocks with
  | nil => intro traced h _; exact h
  | cons block blocks ih =>
    intro traced hnodup hfresh
    obtain ⟨x, hx⟩ := hblocks block List.mem_cons_self
    rw [List.flatten_cons, ingestAll_append]
    rw [List.pairwise_cons] at hapart
    refine ih (fun b hb => hblocks b (List.mem_cons_of_mem _ hb)) hapart.2 ?_ ?_
    · have hstep := @ingestAll_block clock x block hx k traced
        fun o ho hk hmem => absurd (hk ▸ hmem) (hx o ho ▸ hfresh block List.mem_cons_self o ho)
      rcases hstep with heq | ⟨hnot, heq⟩
      · rw [heq]
        exact hnodup
      · rw [heq]
        exact List.nodup_append.mpr ⟨hnodup, List.nodup_singleton _, fun a ha b hb => by
          rw [List.mem_singleton.mp hb]
          rintro rfl
          exact hnot ha⟩
    · intro b hb o ho hmem
      rcases mem_ingestAll_folded block hmem with h | ⟨o', ho', hk, hid⟩
      · exact hfresh b (List.mem_cons_of_mem _ hb) o ho h
      · exact hapart.1 b hb o' ho' o ho hk hid

/-! ### The invariant -/

/-- No stream has taken an observation twice, or one that is not known; and streams
that took something are still there. -/
structure Once (known : List ObservationId) (traced : TracedEngine) : Prop where
  nodup : ∀ k, (traced.folded k).Nodup
  known : ∀ k, ∀ x ∈ traced.folded k, x ∈ known
  kept : ∀ k, traced.folded k ≠ [] → ∃ (k : StreamKey) (s : StateStream),
    traced.engine.streams[k]? = some s

theorem Once.mono {known known' : List ObservationId} (h : traced.Once known)
    (hsub : known ⊆ known') : traced.Once known' :=
  ⟨h.nodup, fun k x hx => hsub (h.known k x hx), h.kept⟩

theorem kept_ingestAll (observations : List Observation) :
    ∀ {traced : TracedEngine},
      (∀ k, traced.folded k ≠ [] → ∃ (k : StreamKey) (s : StateStream),
        traced.engine.streams[k]? = some s) →
      ∀ k, (traced.ingestAll clock observations).folded k ≠ [] → ∃ (k : StreamKey) (s : StateStream),
        (traced.ingestAll clock observations).engine.streams[k]? = some s := by
  induction observations with
  | nil => intro traced h; exact h
  | cons o observations ih =>
    intro traced h
    refine ih ?_
    intro k hne
    rcases traced.ingest_folded (clock o) o k with ⟨hfolded, -⟩ | ⟨-, -, -, s, hs, -⟩
    · obtain ⟨k', s, hs⟩ := h k (hfolded ▸ hne)
      exact ⟨k', exists_stream_ingest _ _ hs⟩
    · exact ⟨k, s, hs⟩

/-- **Blocks of results not folded in before** leave every stream with each
observation once. -/
theorem Once.ingestAll {known known' : List ObservationId} (h : traced.Once known)
    (clock : Observation → Timestamp)
    (hsub : known ⊆ known') (blocks : List (List Observation))
    (hblocks : ∀ block ∈ blocks, ∃ x, ∀ o ∈ block, o.id = x)
    (hapart : blocks.Pairwise fun block block' => ∀ o ∈ block, ∀ o' ∈ block',
      o.streamKey = o'.streamKey → o.id ≠ o'.id)
    (hfresh : ∀ block ∈ blocks, ∀ o ∈ block, o.id ∉ traced.folded o.streamKey)
    (hknown : ∀ block ∈ blocks, ∀ o ∈ block, o.id ∈ known') :
    (traced.ingestAll clock blocks.flatten).Once known' := by
  refine ⟨fun k => nodup_ingestAll_blocks k blocks hblocks hapart (h.nodup k) hfresh, ?_,
    kept_ingestAll _ h.kept⟩
  intro k x hx
  rcases mem_ingestAll_folded _ hx with hx | ⟨o, ho, -, rfl⟩
  · exact hsub (h.known k x hx)
  · obtain ⟨block, hblock, ho⟩ := List.mem_flatten.mp ho
    exact hknown block hblock o ho

/-- A call that folds nothing in changes no record. -/
theorem Once.run {known : List ObservationId} (h : traced.Once known) (call : EngineCall) :
    (TracedEngine.mk (call.run traced.engine).1 traced.folded).Once known := by
  refine ⟨h.nodup, h.known, fun k hne => ?_⟩
  obtain ⟨k', s, hs⟩ := h.kept k hne
  rcases EngineCall.streams_run_or traced.engine call k' with ⟨-, heq⟩ | hs'
  · exact ⟨k', s, heq.trans hs⟩
  · exact ⟨k', hs'⟩

end TracedEngine

end Sentinel
