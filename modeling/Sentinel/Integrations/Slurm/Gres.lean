import Sentinel.Integrations.Slurm.Parser
import Sentinel.Lib.Cutting

/-!
# Numbers of GPUs

The generic resources of a node are entries with commas between them, and what stands in
parentheses says where they are.  The number of an entry is what follows its last colon, or
one if that is no number.  The code reads the numbers into 32 bits, takes one for a number
that does not fit, and adds them up in 32 bits.

## Main definitions

* `gpuEntries`, `statedCount`, `statedGpus` — the GPUs that a text states.
* `CountsGpus` — what counting owes to a text.

## Main results

* `stripParenthesised_eq` — what is left of a text stands outside parentheses.
* `countsGpus_iff` — **the GPUs of a text are counted exactly if it states fewer than `2 ^ 32`.**
-/

namespace Sentinel

namespace Slurm

/-! ### GPUs that a text states -/

/-- Whether an entry is one of GPUs. -/
def isGpuEntry (entry : List Char) : Bool := entry = "gpu".toList || "gpu:".toList.isPrefixOf entry

/-- The number of an entry: the number at its end, or one. -/
def statedCount (entry : List Char) : ℕ := (Text.readNumber (Text.afterLast ':' entry)).getD 1

/-- The entries of GPUs in a text. -/
def gpuEntries (gres : List Char) : List (List Char) :=
  ((Text.outside '(' ')' gres).splitOn ',').filter isGpuEntry

/-- The GPUs that a text states. -/
def statedGpus (gres : List Char) : ℕ := ((gpuEntries gres).map statedCount).sum

/-- What counting owes to a text: the number it states, and a number only if there are
entries of GPUs or the text says that there are no resources. -/
structure CountsGpus (node : SlurmNode) (gres : String) : Prop where
  total : node.configuredGpuCount.getD 0 = statedGpus gres.toList
  reported : node.configuredGpuCount.isSome = true ↔ gpuEntries gres.toList ≠ [] ∨ gres = "(null)"

/-! ### What the code counts -/

/-- What is left of a text stands outside parentheses. -/
theorem stripParenthesised_eq (gres : List Char) : stripParenthesised gres = Text.outside '(' ')' gres := by
  suffices h : ∀ before, stripParenthesised.go (before.foldl (Text.nesting '(' ')') 0) gres =
      Text.outsideFrom '(' ')' before gres from h []
  induction gres with
  | nil => intro before; rfl
  | cons c gres ih =>
    intro before
    have hstep := ih (before ++ [c])
    rw [List.foldl_concat] at hstep
    simp only [Text.outsideFrom_cons, Text.enclosed_iff (show '(' ≠ ')' by decide), ← hstep]
    generalize before.foldl (Text.nesting '(' ')') 0 = depth
    by_cases hopening : c = '('
    · subst hopening
      simp [stripParenthesised.go, Text.nesting]
    · by_cases hclosing : c = ')'
      · subst hclosing
        simp [stripParenthesised.go, Text.nesting]
      · have hnesting : Text.nesting '(' ')' depth c = depth := by
          rw [Text.nesting, if_neg hopening, if_neg hclosing]
        rw [hnesting]
        cases depth with
        | zero => simp [stripParenthesised.go, hopening, hclosing]
        | succ depth => simp [stripParenthesised.go, hopening, hclosing]

/-- An entry with a colon is one of GPUs if what stands before the first colon says so. -/
theorem isGpuEntry_append {name : List Char} (hname : ':' ∉ name) (rest : List Char) :
    isGpuEntry (name ++ ':' :: rest) = true ↔ name = "gpu".toList := by
  unfold isGpuEntry
  rw [Bool.or_eq_true, decide_eq_true_iff, List.isPrefixOf_iff_prefix]
  constructor
  · rintro (heq | ⟨t, ht⟩)
    · exact absurd (heq ▸ List.mem_append_right name List.mem_cons_self : ':' ∈ "gpu".toList) (by decide)
    · have hsplit := Text.splitOnce_append hname rest
      rw [← ht] at hsplit
      exact (Prod.mk.inj (Option.some.inj (hsplit.symm.trans (Text.splitOnce_append (a := "gpu".toList) (by decide) t)))).1
  · rintro rfl
    exact Or.inr ⟨rest, rfl⟩

/-- An entry of GPUs is one of which the first part says so. -/
theorem gpuCount_eq (entry : List Char) :
    SlurmNode.gpuCount entry = if isGpuEntry entry = true
      then some ((Text.parseBelow (2 ^ 32) (Text.afterLast ':' entry)).getD 1) else none := by
  unfold SlurmNode.gpuCount
  by_cases hcolon : ':' ∈ entry
  · obtain ⟨name, rest, rfl, hname⟩ := List.eq_append_cons_of_mem hcolon
    have hsplit := List.splitOn_append_cons_self_of_not_mem hname rest
    have hlast := Text.getLast?_splitOn ':' (name ++ ':' :: rest)
    rw [hsplit, List.getLast?_cons_of_ne_nil (List.splitOn_ne_nil ':' rest)] at hlast
    simp only [hsplit, hlast, isGpuEntry_append hname, Option.bind_some]
  · rw [List.splitOn_eq_singleton hcolon, Text.afterLast_of_notMem hcolon]
    have hgpu : isGpuEntry entry = true ↔ entry = "gpu".toList := by
      unfold isGpuEntry
      rw [Bool.or_eq_true, decide_eq_true_iff, List.isPrefixOf_iff_prefix, or_iff_left]
      intro hstart
      exact hcolon (hstart.subset (by decide))
    simp only [hgpu]
    split_ifs with heq
    · subst heq
      rfl
    · rfl

/-- The numbers that the code adds up. -/
theorem filterMap_gpuCount (gres : List Char) :
    ((stripParenthesised gres).splitOn ',').filterMap SlurmNode.gpuCount =
      (gpuEntries gres).map fun entry => (Text.parseBelow (2 ^ 32) (Text.afterLast ':' entry)).getD 1 := by
  rw [stripParenthesised_eq, gpuEntries, ← List.filterMap_eq_map, List.filterMap_filter]
  exact List.filterMap_congr fun entry _ => gpuCount_eq entry

/-- Numbers that fit are read as they are. -/
theorem parseBelow_getD_of_lt {entry : List Char} (h : statedCount entry < 2 ^ 32) :
    (Text.parseBelow (2 ^ 32) (Text.afterLast ':' entry)).getD 1 = statedCount entry := by
  unfold statedCount at h ⊢
  rw [Text.parseBelow_eq_filter]
  cases hread : Text.readNumber (Text.afterLast ':' entry) with
  | none => rfl
  | some n =>
    rw [hread, Option.getD_some] at h
    rw [Option.filter_some, if_pos (decide_eq_true h)]

theorem configuredGpuCount_eq {node : SlurmNode} {gres : String} (hgres : node.gres = some gres)
    (hnull : gres ≠ "(null)") : node.configuredGpuCount =
      if gpuEntries gres.toList = [] then none else
        some (((gpuEntries gres.toList).map fun entry =>
          (Text.parseBelow (2 ^ 32) (Text.afterLast ':' entry)).getD 1).sum % 2 ^ 32) := by
  unfold SlurmNode.configuredGpuCount
  rw [hgres, Option.bind_eq_bind, Option.bind_some, if_neg hnull, filterMap_gpuCount]
  cases gpuEntries gres.toList with
  | nil => rfl
  | cons entry entries => rfl

/-- **The GPUs of a text are counted exactly if it states fewer than `2 ^ 32`.** -/
theorem countsGpus_iff (node : SlurmNode) (gres : String) :
    CountsGpus { node with gres := some gres } gres ↔ statedGpus gres.toList < 2 ^ 32 := by
  by_cases hnull : gres = "(null)"
  · subst hnull
    have hnone : gpuEntries "(null)".toList = [] := by decide +kernel
    rw [statedGpus, hnone]
    refine iff_of_true ⟨?_, iff_of_true rfl (Or.inr rfl)⟩ (by decide)
    rw [statedGpus, hnone]
    rfl
  · have hcount := @configuredGpuCount_eq { node with gres := some gres } gres rfl hnull
    by_cases hnone : gpuEntries gres.toList = []
    · rw [if_pos hnone] at hcount
      rw [statedGpus, hnone]
      refine iff_of_true ⟨?_, ?_⟩ (by decide)
      · rw [hcount, statedGpus, hnone]
        rfl
      · rw [hcount, hnone]
        exact iff_of_false nofun (by simp [hnull])
    · rw [if_neg hnone] at hcount
      constructor
      · intro h
        rw [← h.total, hcount, Option.getD_some]
        exact Nat.mod_lt _ (by decide)
      · intro h
        -- no number is greater than the sum
        have hread : ∀ entry ∈ gpuEntries gres.toList,
            (Text.parseBelow (2 ^ 32) (Text.afterLast ':' entry)).getD 1 = statedCount entry := fun entry hentry =>
          parseBelow_getD_of_lt ((List.single_le_sum (by simp) _ (List.mem_map_of_mem hentry)).trans_lt h)
        refine ⟨?_, by rw [hcount]; exact iff_of_true rfl (Or.inl hnone)⟩
        rw [hcount, List.map_congr_left hread, Option.getD_some, ← statedGpus, Nat.mod_eq_of_lt h]

/-- A node of which nothing but its resources is known. -/
def nodeWithGres (gres : String) : SlurmNode :=
  ⟨"n1", none, none, NodeState.parse "IDLE".toList, none, none, [], none, none, some gres, none, none, none⟩

/-- One is taken for a number that does not fit, and a sum that does not fit starts again at
nothing. -/
theorem gpus_miscounted :
    (nodeWithGres "gpu:4294967296").configuredGpuCount = some 1 ∧
      (nodeWithGres "gpu:a100:4294967295(IDX:0-7),gpu:1").configuredGpuCount = some 0 ∧
      ¬ CountsGpus (nodeWithGres "gpu:4294967296") "gpu:4294967296" ∧
      ¬ CountsGpus (nodeWithGres "gpu:a100:4294967295(IDX:0-7),gpu:1") "gpu:a100:4294967295(IDX:0-7),gpu:1" := by
  refine ⟨by decide +kernel, by decide +kernel, fun h => ?_, fun h => ?_⟩
  · have htotal := h.total
    revert htotal
    decide +kernel
  · have htotal := h.total
    revert htotal
    decide +kernel

end Slurm

end Sentinel
