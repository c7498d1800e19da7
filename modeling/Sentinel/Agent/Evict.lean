import Sentinel.Agent.Spool
import Sentinel.Lib.Span

/-!
# Keeping the spool within its limits

Eviction goes over the spool three times: what is too old goes, then what is over the row
limit, then what is over the byte limit, the least important rows first.  The last of these
removes sixty-four rows at a time.

The limits are configured as numbers of other types than the database's: the row limit is
reinterpreted as a signed number, and an age that no difference between instants can
express is taken to be the longest such difference.

## Main definitions

* `SpoolBounds`, `EvictionOutcome` — the limits as configured, and what a pass removed.
* `Spool.evictCounted` — the three passes with their counts.
* `Spool.outranking` — a row with the rows that outrank it.

## Main results

* `Spool.sortBy_shrink` — the byte limit removes whole chunks.
* `Spool.evictCounted_spec` — what eviction leaves.
* `Spool.evictCounted_cause` — what eviction removes, and why.
-/

namespace Sentinel

/-- The limits of a spool, as configured. -/
structure SpoolBounds where
  /-- Oldest row to keep. -/
  maxAge : Span
  /-- Most rows to keep. -/
  maxRows : UInt64
  /-- Most bytes of payload to keep. -/
  maxBytes : UInt64

/-- What an eviction pass removed. -/
structure EvictionOutcome where
  /-- Rows removed for being too old. -/
  agedOut : ℕ
  /-- Rows removed to satisfy the row limit. -/
  overRowLimit : ℕ
  /-- Rows removed to satisfy the byte limit. -/
  overByteLimit : ℕ
  deriving DecidableEq, Repr

/-- Total rows removed. -/
def EvictionOutcome.total (outcome : EvictionOutcome) : ℕ :=
  outcome.agedOut + outcome.overRowLimit + outcome.overByteLimit

/-- How eviction may fail. -/
inductive EvictionFailure
  /-- The program stops: the cutoff has no date. -/
  | noDate
  /-- The database refuses a number of rows that is not a 64-bit integer. -/
  | datatypeMismatch
  deriving DecidableEq, Repr

namespace Spool

/-- The instant before which rows are too old, as it is written to the database: in
microseconds. -/
def cutoff (bounds : SpoolBounds) (now : Timestamp) : Option Timestamp :=
  (Span.before (now * 1000) (bounds.maxAge.toDelta.getD Span.maxDelta)).map (· / 1000)

/-- Remove what is too old. -/
def ageOut (spool : Spool) (cutoff : Timestamp) : Spool := spool.keep fun o => !(o.finishedAt < cutoff)

/-- Remove what is over the row limit.  The number of rows to remove is at least zero.  A
table has fewer rows than an integer of the database counts, so the difference leaves the
range, and the database refuses it, only if the limit is negative. -/
def limitRows (spool : Spool) (maxRows : Int64) : Option Spool :=
  let excess := (spool.rows.length : ℤ) - maxRows.toInt
  if maxRows.toInt < 0 ∧ 2 ^ 63 ≤ excess then none else some (spool.dropLeast excess.toNat)

/-- Remove rows, sixty-four at a time, while the spool is over its byte limit, and count
them. -/
def limitBytes (size : Observation → ℕ) (maxBytes : ℕ) : ℕ → Spool → ℕ → Spool × ℕ
  | 0, spool, count => (spool, count)
  | rounds + 1, spool, count =>
    if maxBytes < spool.sizeBytes size then
      let rest := spool.dropLeast 64
      let removed := spool.rows.length - rest.rows.length
      if removed = 0 then (spool, count) else limitBytes size maxBytes rounds rest (count + removed)
    else (spool, count)

/-- Enforce the limits with some rounds of the last loop. -/
def evictRounds (size : Observation → ℕ) (bounds : SpoolBounds) (now : Timestamp) (rounds : ℕ) (spool : Spool) :
    Except EvictionFailure (Spool × EvictionOutcome) :=
  match cutoff bounds now with
  | none => .error .noDate
  | some cutoff =>
    let young := spool.ageOut cutoff
    match young.limitRows bounds.maxRows.toInt64 with
    | none => .error .datatypeMismatch
    | some few =>
      let (light, overByteLimit) := few.limitBytes size bounds.maxBytes.toNat rounds 0
      .ok (light, ⟨spool.rows.length - young.rows.length, young.rows.length - few.rows.length, overByteLimit⟩)

/-- Enforce the limits, removing the least valuable rows first.  A round of the last loop
removes a row as long as there is one. -/
def evictCounted (size : Observation → ℕ) (bounds : SpoolBounds) (now : Timestamp) (spool : Spool) :
    Except EvictionFailure (Spool × EvictionOutcome) :=
  spool.evictRounds size bounds now spool.rows.length

variable {spool : Spool} {size : Observation → ℕ} {maxBytes n : ℕ} {bounds : SpoolBounds} {now : Timestamp}

/-! ### Eviction order -/

theorem evictionKey_injOn (spool : Spool) :
    ∀ a ∈ spool.rows, ∀ b ∈ spool.rows, evictionKey a = evictionKey b → a = b := by
  intro a ha b hb h
  exact eq_of_id_eq ha hb (congrArg (fun k => (ofLex (ofLex k).2).2) h)

theorem sortBy_dropLeast (spool : Spool) (n : ℕ) :
    (spool.dropLeast n).rows.sortBy evictionKey = (spool.rows.sortBy evictionKey).drop n :=
  sortBy_acknowledge_take spool.evictionKey_injOn n

theorem length_sortBy (spool : Spool) : (spool.rows.sortBy evictionKey).length = spool.rows.length :=
  (List.perm_sortBy evictionKey spool.rows).length_eq

theorem length_dropLeast (spool : Spool) (n : ℕ) : (spool.dropLeast n).rows.length = spool.rows.length - n := by
  rw [← length_sortBy, sortBy_dropLeast, List.length_drop, length_sortBy]

theorem sizeBytes_eq (spool : Spool) (size : Observation → ℕ) :
    spool.sizeBytes size = ((spool.rows.sortBy evictionKey).map size).sum :=
  ((List.perm_sortBy evictionKey spool.rows).map size).sum_eq.symm

/-- **The more important rows outlive the others**, whatever number of rows is removed. -/
theorem lt_of_removed {after : Spool}
    (h : after.rows.sortBy evictionKey = (spool.rows.sortBy evictionKey).drop n) {o kept : Observation}
    (ho : o ∈ spool.rows) (hgone : o ∉ after.rows) (hkept : kept ∈ after.rows) :
    evictionKey o < evictionKey kept := by
  have hsplit := List.take_append_drop n (spool.rows.sortBy evictionKey)
  rw [← h] at hsplit
  have hmem : o ∈ (spool.rows.sortBy evictionKey).take n := by
    have hall : o ∈ spool.rows.sortBy evictionKey := List.mem_sortBy.mpr ho
    rw [← hsplit] at hall
    exact (List.mem_append.mp hall).resolve_right fun hmem => hgone (List.mem_sortBy.mp hmem)
  have hsorted : kept ∈ after.rows.sortBy evictionKey := List.mem_sortBy.mpr hkept
  obtain ⟨before, rest, hrest⟩ := List.append_of_mem hsorted
  rw [hrest, ← List.append_assoc] at hsplit
  exact (sortBy_split spool.evictionKey_injOn hsplit.symm).1 o (List.mem_append_left _ hmem)

/-! ### The byte limit -/

/-- **The byte limit removes whole chunks**, and the last of them while the spool is over
the limit. -/
theorem sortBy_shrink (size : Observation → ℕ) (maxBytes : ℕ) (rounds : ℕ) :
    ∀ spool : Spool, ∃ chunks,
      (spool.shrink size maxBytes rounds).rows.sortBy evictionKey =
        (spool.rows.sortBy evictionKey).drop (64 * chunks) ∧
      ∀ earlier < chunks, maxBytes < (((spool.rows.sortBy evictionKey).drop (64 * earlier)).map size).sum := by
  induction rounds with
  | zero => intro spool; exact ⟨0, rfl, nofun⟩
  | succ rounds ih =>
    intro spool
    rw [shrink]
    split
    · next hover =>
      obtain ⟨chunks, hsorted, hlast⟩ := ih (spool.dropLeast 64)
      rw [sortBy_dropLeast, List.drop_drop] at hsorted
      refine ⟨chunks + 1, ?_, fun earlier hearlier => ?_⟩
      · rw [hsorted, Nat.mul_succ, Nat.add_comm]
      · cases earlier with
        | zero =>
          rw [Nat.mul_zero, List.drop_zero, ← sizeBytes_eq]
          exact hover
        | succ earlier =>
          have hless := hlast earlier (Nat.lt_of_succ_lt_succ hearlier)
          rw [sortBy_dropLeast, List.drop_drop, Nat.add_comm, ← Nat.mul_succ] at hless
          exact hless
    · exact ⟨0, rfl, nofun⟩

/-- With as many rounds as rows, the spool ends within its byte limit, and more rounds make
no difference. -/
theorem shrink_ends (rounds : ℕ) :
    ∀ spool : Spool, spool.rows.length ≤ rounds →
      (spool.shrink size maxBytes rounds).sizeBytes size ≤ maxBytes ∧
      ∀ more, rounds ≤ more → spool.shrink size maxBytes more = spool.shrink size maxBytes rounds := by
  induction rounds with
  | zero =>
    intro spool h
    have hsmall : ¬ maxBytes < spool.sizeBytes size := by
      rw [sizeBytes, List.length_eq_zero_iff.mp (Nat.le_zero.mp h)]
      exact Nat.not_lt_zero _
    refine ⟨not_lt.mp hsmall, fun more _ => ?_⟩
    cases more with
    | zero => rfl
    | succ more => exact if_neg hsmall
  | succ rounds ih =>
    intro spool h
    rw [shrink]
    split
    · next hover =>
      obtain ⟨hsmall, hmore⟩ := ih (spool.dropLeast 64) (by rw [length_dropLeast]; omega)
      refine ⟨hsmall, fun more hle => ?_⟩
      cases more with
      | zero => omega
      | succ more => rw [shrink, if_pos hover, hmore more (Nat.le_of_succ_le_succ hle)]
    · next hsmall =>
      refine ⟨not_lt.mp hsmall, fun more hle => ?_⟩
      cases more with
      | zero => omega
      | succ more => rw [shrink, if_neg hsmall]

theorem length_shrink_le (size : Observation → ℕ) (maxBytes rounds : ℕ) (spool : Spool) :
    (spool.shrink size maxBytes rounds).rows.length ≤ spool.rows.length := by
  obtain ⟨chunks, hsorted, -⟩ := sortBy_shrink size maxBytes rounds spool
  rw [← length_sortBy, hsorted, List.length_drop, length_sortBy]
  exact Nat.sub_le _ _

/-- The loop counts the rows it removes. -/
theorem limitBytes_eq (size : Observation → ℕ) (maxBytes rounds : ℕ) : ∀ (spool : Spool) (count : ℕ),
    spool.limitBytes size maxBytes rounds count = (spool.shrink size maxBytes rounds,
      count + (spool.rows.length - (spool.shrink size maxBytes rounds).rows.length)) := by
  induction rounds with
  | zero =>
    intro spool count
    rw [limitBytes, shrink, Nat.sub_self, Nat.add_zero]
  | succ rounds ih =>
    intro spool count
    rw [limitBytes, shrink]
    split
    · next hover =>
      have hsome : spool.rows.length ≠ 0 := by
        intro hnil
        rw [sizeBytes, List.length_eq_zero_iff.mp hnil] at hover
        exact absurd hover (Nat.not_lt_zero _)
      have hless := length_shrink_le size maxBytes rounds (spool.dropLeast 64)
      have hlength := length_dropLeast spool 64
      dsimp only
      rw [if_neg (by omega), ih]
      refine Prod.ext rfl ?_
      dsimp only
      omega
    · rw [Nat.sub_self, Nat.add_zero]

/-! ### The three passes -/

theorem toInt_maxRows {rows : UInt64} (h : rows.toNat < 2 ^ 63) : rows.toInt64.toInt = rows.toNat := by
  rw [Int64.toInt, UInt64.toBitVec_toInt64, BitVec.toInt_eq_toNat_of_lt]
  · rfl
  · have hnat : rows.toBitVec.toNat = rows.toNat := rfl
    omega

theorem limitRows_eq (spool : Spool) {rows : UInt64} (h : rows.toNat < 2 ^ 63) :
    spool.limitRows rows.toInt64 = some (spool.dropLeast (spool.rows.length - rows.toNat)) := by
  unfold limitRows
  dsimp only
  rw [toInt_maxRows h, if_neg (by omega)]
  congr 2
  omega

/-- Within the range of a signed number and of dates, the passes are those of the spool. -/
theorem evictRounds_eq (size : Observation → ℕ) (spool : Spool) (hrows : bounds.maxRows.toNat < 2 ^ 63)
    {c : Timestamp} (hcutoff : cutoff bounds now = some c) (rounds : ℕ) :
    let young := spool.ageOut c
    let few := young.dropLeast (young.rows.length - bounds.maxRows.toNat)
    let light := few.shrink size bounds.maxBytes.toNat rounds
    spool.evictRounds size bounds now rounds = .ok (light,
      ⟨spool.rows.length - young.rows.length, young.rows.length - few.rows.length,
        few.rows.length - light.rows.length⟩) := by
  intro young few light
  rw [evictRounds, hcutoff]
  dsimp only
  rw [limitRows_eq _ hrows]
  dsimp only
  rw [limitBytes_eq, Nat.zero_add]

/-- **What eviction leaves**: no more rows and bytes than the limits, none of them too old,
and what was removed for either limit is less important than every row that is left.  The
counts are those of the rows removed. -/
theorem evictCounted_spec (size : Observation → ℕ) (spool : Spool) (hrows : bounds.maxRows.toNat < 2 ^ 63)
    {c : Timestamp} (hcutoff : cutoff bounds now = some c) :
    ∃ after outcome, spool.evictCounted size bounds now = .ok (after, outcome) ∧
      (∀ rounds, spool.rows.length ≤ rounds → spool.evictRounds size bounds now rounds = .ok (after, outcome)) ∧
      after.rows.length ≤ bounds.maxRows.toNat ∧ after.sizeBytes size ≤ bounds.maxBytes.toNat ∧
      (∀ o ∈ after.rows, c ≤ o.finishedAt) ∧
      (∀ o ∈ spool.rows, c ≤ o.finishedAt → o ∉ after.rows →
        ∀ kept ∈ after.rows, evictionKey o < evictionKey kept) ∧
      after.rows ⊆ spool.rows ∧ outcome.total + after.rows.length = spool.rows.length := by
  let young := spool.ageOut c
  let few := young.dropLeast (young.rows.length - bounds.maxRows.toNat)
  let light := few.shrink size bounds.maxBytes.toNat spool.rows.length
  have hyoung : young.rows.length ≤ spool.rows.length := List.length_filter_le _ _
  have hfew : few.rows.length = young.rows.length - (young.rows.length - bounds.maxRows.toNat) :=
    length_dropLeast _ _
  have hlight : light.rows.length ≤ few.rows.length := length_shrink_le ..
  obtain ⟨hsmall, hmore⟩ := @shrink_ends size bounds.maxBytes.toNat spool.rows.length few (by omega)
  -- the second and the third pass remove the first rows in eviction order
  obtain ⟨chunks, hsorted, -⟩ := sortBy_shrink size bounds.maxBytes.toNat spool.rows.length few
  have hdrop : light.rows.sortBy evictionKey = (young.rows.sortBy evictionKey).drop
      (young.rows.length - bounds.maxRows.toNat + 64 * chunks) := by
    rw [← List.drop_drop, ← sortBy_dropLeast]
    exact hsorted
  have hsub : ∀ o ∈ light.rows, o ∈ young.rows := fun o ho => mem_dropLeast (mem_shrink _ ho)
  refine ⟨light, _, evictRounds_eq size spool hrows hcutoff spool.rows.length, ?_, ?_, hsmall, ?_, ?_, ?_, ?_⟩
  · intro rounds hrounds
    rw [evictRounds_eq size spool hrows hcutoff rounds, hmore rounds hrounds]
  · omega
  · intro o ho
    have hnot := (mem_keep.mp (hsub o ho)).2
    simpa using hnot
  · intro o ho hage hgone kept hkept
    refine lt_of_removed hdrop (mem_keep.mpr ⟨ho, ?_⟩) hgone hkept
    simpa using hage
  · exact fun o ho => (mem_keep.mp (hsub o ho)).1
  · show spool.rows.length - young.rows.length + (young.rows.length - few.rows.length) +
      (few.rows.length - light.rows.length) + light.rows.length = spool.rows.length
    omega

/-- A failure and a report, over a row limit of one. -/
theorem evictCounted_spec_two :
    let report (n : ℕ) (status : ProbeStatus) : Observation :=
      ⟨⟨⟨n⟩⟩, probeSsh, ⟨⟨7⟩⟩, none, 1700000000000000, status, .null⟩
    let spool : Spool := ⟨[report 1 .failed, report 2 .ok], by decide⟩
    let bounds : SpoolBounds := ⟨.ofSecs 86400, 1, 1000⟩
    ∃ after outcome, spool.evictCounted (fun _ => 400) bounds 1700000001000000 = .ok (after, outcome) ∧
      after.rows.length ≤ 1 ∧ outcome.total + after.rows.length = 2 := by
  intro report spool bounds
  have hcutoff : cutoff bounds 1700000001000000 = some 1699913601000000 := by decide +kernel
  obtain ⟨after, outcome, hevict, -, hrows, -, -, -, -, htotal⟩ :=
    evictCounted_spec (fun _ => 400) spool (by decide) hcutoff
  exact ⟨after, outcome, hevict, hrows, htotal⟩

/-! ### Why a row goes -/

/-- A row, and the rows that outrank it. -/
def outranking (spool : Spool) (o : Observation) : List Observation :=
  spool.rows.filter fun b => evictionKey o ≤ evictionKey b

/-- A row and those that outrank it are the end of the eviction order. -/
theorem perm_outranking {o : Observation} {place : ℕ} (h : (spool.rows.sortBy evictionKey)[place]? = some o) :
    (spool.outranking o).Perm ((spool.rows.sortBy evictionKey).drop place) := by
  obtain ⟨hplace, hget⟩ := List.getElem?_eq_some_iff.mp h
  have hsplit := List.take_append_drop place (spool.rows.sortBy evictionKey)
  rw [List.drop_eq_getElem_cons hplace, hget] at hsplit
  obtain ⟨hbefore, hafter⟩ := sortBy_split spool.evictionKey_injOn hsplit.symm
  refine ((List.perm_sortBy evictionKey spool.rows).filter _).symm.trans ?_
  rw [List.drop_eq_getElem_cons hplace, hget]
  conv_lhs => rw [← hsplit]
  have hnone : ((spool.rows.sortBy evictionKey).take place).filter
      (fun b => decide (evictionKey o ≤ evictionKey b)) = [] := by
    refine List.filter_eq_nil_iff.mpr fun b hb => ?_
    simpa using hbefore b hb
  have hall : (o :: (spool.rows.sortBy evictionKey).drop (place + 1)).filter
      (fun b => decide (evictionKey o ≤ evictionKey b)) = o :: (spool.rows.sortBy evictionKey).drop (place + 1) := by
    refine List.filter_eq_self.mpr fun b hb => decide_eq_true ?_
    rcases List.mem_cons.mp hb with rfl | hb
    · exact le_rfl
    · exact (hafter b hb).le
  rw [List.filter_append, hnone, hall, List.nil_append]

theorem length_outranking {o : Observation} {place : ℕ} (h : (spool.rows.sortBy evictionKey)[place]? = some o) :
    (spool.outranking o).length = spool.rows.length - place := by
  rw [(perm_outranking h).length_eq, List.length_drop, length_sortBy]

/-- What goes has a place among the first. -/
theorem place_of_removed {after : Spool}
    (h : after.rows.sortBy evictionKey = (spool.rows.sortBy evictionKey).drop n) {o : Observation}
    (ho : o ∈ spool.rows) (hgone : o ∉ after.rows) :
    ∃ place < n, (spool.rows.sortBy evictionKey)[place]? = some o := by
  have hsorted : o ∈ spool.rows.sortBy evictionKey := List.mem_sortBy.mpr ho
  obtain ⟨place, hplace⟩ := List.mem_iff_getElem?.mp hsorted
  refine ⟨place, ?_, hplace⟩
  by_contra hle
  have hnot : o ∉ after.rows.sortBy evictionKey := fun h => hgone (List.mem_sortBy.mp h)
  refine hnot ?_
  rw [h]
  refine List.mem_iff_getElem?.mpr ⟨place - n, ?_⟩
  rw [List.getElem?_drop, Nat.add_sub_cancel' (Nat.not_lt.mp hle)]
  exact hplace

/-- **What eviction removes, and why**: it goes through, a row that goes for the row limit
is over it with the rows that outrank it, and one that goes for the byte limit is at most
sixty-three places above such a row. -/
theorem evictCounted_cause (size : Observation → ℕ) (spool : Spool) (hrows : bounds.maxRows.toNat < 2 ^ 63)
    {c : Timestamp} (hcutoff : cutoff bounds now = some c) :
    ∃ few after outcome, spool.evictCounted size bounds now = .ok (after, outcome) ∧
      (spool.ageOut c).limitRows bounds.maxRows.toInt64 = some few ∧
      (∀ o ∈ (spool.ageOut c).rows, o ∉ few.rows → bounds.maxRows.toNat < ((spool.ageOut c).outranking o).length) ∧
      ∀ o ∈ few.rows, o ∉ after.rows → ∃ least ∈ few.rows, evictionKey least ≤ evictionKey o ∧
        (few.outranking least).length ≤ (few.outranking o).length + 63 ∧
        bounds.maxBytes.toNat < ((few.outranking least).map size).sum := by
  let young := spool.ageOut c
  let few := young.dropLeast (young.rows.length - bounds.maxRows.toNat)
  obtain ⟨chunks, hsorted, hover⟩ := sortBy_shrink size bounds.maxBytes.toNat spool.rows.length few
  refine ⟨few, _, _, evictRounds_eq size spool hrows hcutoff spool.rows.length, limitRows_eq _ hrows, ?_, ?_⟩
  · intro o ho hgone
    obtain ⟨place, hless, hplace⟩ := place_of_removed (sortBy_dropLeast young _) ho hgone
    have hlength : (young.outranking o).length = young.rows.length - place := length_outranking hplace
    show bounds.maxRows.toNat < (young.outranking o).length
    omega
  · intro o ho hgone
    obtain ⟨place, hless, hplace⟩ := place_of_removed hsorted ho hgone
    -- the spool was over the limit before the row's chunk was removed
    have hfirst : 64 * (place / 64) ≤ place := Nat.mul_div_le place 64
    have hbound : 64 * (place / 64) < (few.rows.sortBy evictionKey).length :=
      hfirst.trans_lt (List.getElem?_eq_some_iff.mp hplace).1
    have hleast : (few.rows.sortBy evictionKey)[64 * (place / 64)]? =
        some (few.rows.sortBy evictionKey)[64 * (place / 64)] := List.getElem?_eq_getElem hbound
    have hcount := length_outranking hleast
    have hcount' := length_outranking hplace
    refine ⟨_, List.mem_sortBy.mp (List.getElem_mem hbound), ?_, ?_, ?_⟩
    · obtain ⟨hlt, hget⟩ := List.getElem?_eq_some_iff.mp hplace
      have hsortedLe := List.pairwise_iff_getElem.mp (List.pairwise_sortBy evictionKey few.rows)
      rcases Nat.lt_or_ge (64 * (place / 64)) place with hbefore | hsame
      · rw [← hget]
        exact hsortedLe _ _ hbound hlt hbefore
      · have heq : 64 * (place / 64) = place := le_antisymm hfirst hsame
        simp only [heq, hget, le_refl]
    · omega
    · rw [((perm_outranking hleast).map size).sum_eq]
      exact hover (place / 64) (by omega)

/-- A failure and a report, over a byte limit of one row. -/
theorem evictCounted_cause_two :
    let report (n : ℕ) (status : ProbeStatus) : Observation :=
      ⟨⟨⟨n⟩⟩, probeSsh, ⟨⟨7⟩⟩, none, 1700000000000000, status, .null⟩
    let spool : Spool := ⟨[report 1 .failed, report 2 .ok], by decide⟩
    let bounds : SpoolBounds := ⟨.ofSecs 86400, 10, 600⟩
    ∃ (few after : Spool) (outcome : EvictionOutcome), spool.evictCounted (fun _ => 400) bounds 1700000001000000 = .ok (after, outcome) ∧
      ∀ o ∈ few.rows, o ∉ after.rows → ∃ least ∈ few.rows,
        (few.outranking least).length ≤ (few.outranking o).length + 63 ∧
        600 < ((few.outranking least).map fun _ => 400).sum := by
  intro report spool bounds
  have hcutoff : cutoff bounds 1700000001000000 = some 1699913601000000 := by decide +kernel
  obtain ⟨few, after, outcome, hevict, -, -, hbytes⟩ :=
    evictCounted_cause (fun _ => 400) spool (by decide) hcutoff
  refine ⟨few, after, outcome, hevict, fun o ho hgone => ?_⟩
  obtain ⟨least, hleast, -, hplaces, hover⟩ := hbytes o ho hgone
  exact ⟨least, hleast, hplaces, hover⟩

/-- **A chunk takes a failure with it that fits**; a row limit that is a negative number to
the database takes everything, and an age that reaches back before all dates stops the
program. -/
theorem fitting_row_removed :
    let report (n : ℕ) (status : ProbeStatus) : Observation :=
      ⟨⟨⟨n⟩⟩, probeSsh, ⟨⟨7⟩⟩, none, 1700000000000000, status, .null⟩
    let spool : Spool := ⟨[report 1 .failed, report 2 .ok], by decide⟩
    let left (bounds : SpoolBounds) : Option (List ObservationId) :=
      (spool.evictCounted (fun _ => 400) bounds 1700000001000000).toOption.map fun result =>
        result.1.rows.map Observation.id
    left ⟨.ofSecs 86400, 10, 600⟩ = some [] ∧
      (spool.outranking (report 1 .failed)).map Observation.id = [⟨⟨1⟩⟩] ∧
      left ⟨.ofSecs 86400, 0xffffffffffffffff, 1000⟩ = some [] ∧
      left ⟨.max, 10, 1000⟩ = none := by
  intro report spool left
  decide +kernel

end Spool

end Sentinel
