import Mathlib

/-!
# Ordered collections

What the development needs of ordered maps, of `max_by_key` and of sorted
duplicate-free lists, over arbitrary types.  Maps and sets are the extensional
trees of the standard library, so two maps are equal as soon as they answer
every lookup alike.

## Main definitions

* `Prod.instOrd` — the lexicographic comparison of pairs.
* `Std.ExtTreeMap.vals` — the values of a map, in key order.
* `Std.ExtTreeMap.sweep` — a loop over entries that writes a map and logs.
* `Std.ExtTreeMap.addTo` — a value put into the set of a key.
* `List.maxByKey` — the last element of greatest key.
* `List.sortDedup` — sort, then drop repeated neighbours.
* `List.sortBy` — sort by a key.
* `List.firsts` — of the elements with one key the first one.
* `IsWorst` — the element of greatest rank of a set, or a default.

## Main results

* `Std.ExtTreeMap.sweep_getElem?_of_mem`, `Std.ExtTreeMap.sweep_log` — over distinct
  keys, what a sweep writes and logs.
* `List.mem_sortDedup`, `List.pairwise_sortDedup` — `sortDedup` lists the same
  elements, strictly increasing.
* `List.sortBy_eq_of_perm`, `List.filter_sortBy` — where the key tells the elements
  apart, only one order is sorted, and sorting commutes with filtering.
* `List.maxByKey_mem`, `List.isLE_maxByKey` — `maxByKey` finds an element of
  greatest key.
* `IsWorst.unique` — an injective rank has at most one worst element.
-/

/-! ### Comparisons -/

/-- The comparison of a linear order tells equal elements apart from others. -/
instance (priority := low) LinearOrder.instLawfulEqOrd {α : Type*} [LinearOrder α] :
    Std.LawfulEqOrd α where
  compare_self := compare_eq_iff_eq.mpr rfl
  eq_of_compare := compare_eq_iff_eq.mp

-- The same proof term wherever a map is keyed by a linear order.
instance LinearOrder.instTransOrd {α : Type*} [LinearOrder α] : Std.TransOrd α :=
  inferInstance

/-- Pairs are compared by their first component, then by their second. -/
instance Prod.instOrd {α β : Type*} [Ord α] [Ord β] : Ord (α × β) :=
  ⟨compareLex (compareOn Prod.fst) (compareOn Prod.snd)⟩

instance Prod.instTransOrd {α β : Type*} [Ord α] [Ord β] [Std.TransOrd α] [Std.TransOrd β] :
    Std.TransOrd (α × β) :=
  inferInstanceAs (Std.TransCmp (compareLex (compareOn Prod.fst) (compareOn Prod.snd)))

instance Prod.instTransOrdOfLinearOrder {α β : Type*} [LinearOrder α] [LinearOrder β] :
    Std.TransOrd (α × β) :=
  Prod.instTransOrd

theorem Prod.compare_eq_eq {α β : Type*} [Ord α] [Ord β] {p q : α × β} :
    compare p q = .eq ↔ compare p.1 q.1 = .eq ∧ compare p.2 q.2 = .eq :=
  compareLex_eq_eq

instance Prod.instLawfulEqOrd {α β : Type*} [Ord α] [Ord β] [Std.LawfulEqOrd α]
    [Std.LawfulEqOrd β] : Std.LawfulEqOrd (α × β) where
  compare_self := Prod.compare_eq_eq.mpr ⟨Std.ReflCmp.compare_self, Std.ReflCmp.compare_self⟩
  eq_of_compare := fun h => by
    obtain ⟨h1, h2⟩ := Prod.compare_eq_eq.mp h
    exact Prod.ext (Std.LawfulEqCmp.eq_of_compare h1) (Std.LawfulEqCmp.eq_of_compare h2)

/-! ### Values of a map -/

namespace Std.ExtTreeMap

variable {κ ν : Type*} [Ord κ] [Std.TransOrd κ] [Std.LawfulEqOrd κ]

/-- The values of a map, in key order. -/
def vals (m : Std.ExtTreeMap κ ν) : List ν := m.toList.map Prod.snd

theorem mem_vals {m : Std.ExtTreeMap κ ν} {v : ν} : v ∈ m.vals ↔ ∃ k : κ, m[k]? = some v := by
  simp only [vals, List.mem_map, Prod.exists, exists_eq_right,
    Std.ExtTreeMap.mem_toList_iff_getElem?_eq_some]

/-- Looking up after an insertion, with the keys compared by equality. -/
theorem getElem?_insert_eq [DecidableEq κ] {m : Std.ExtTreeMap κ ν} {k a : κ} {v : ν} :
    (m.insert k v)[a]? = if k = a then some v else m[a]? := by
  rw [Std.ExtTreeMap.getElem?_insert]
  simp only [Std.LawfulEqOrd.compare_eq_iff_eq]

/-- The keys of a map are distinct. -/
theorem nodup_keys_toList (m : Std.ExtTreeMap κ ν) : (m.toList.map Prod.fst).Nodup := by
  rw [List.Nodup, List.pairwise_map]
  refine Std.ExtTreeMap.distinct_keys_toList.imp ?_
  intro a b h heq
  exact h (by rw [heq]; exact Std.ReflCmp.compare_self)

/-- The entries with a key: the one kept under it. -/
theorem filter_toList [DecidableEq κ] (m : Std.ExtTreeMap κ ν) (k : κ) :
    (m.toList.filter fun entry => entry.1 = k) = (m[k]?.map fun v => (k, v)).toList := by
  have hnodup : m.toList.Nodup := List.Nodup.of_map Prod.fst (nodup_keys_toList m)
  have hperm : (m.toList.filter fun entry => entry.1 = k).Perm (m[k]?.map fun v => (k, v)).toList := by
    rw [List.perm_ext_iff_of_nodup (hnodup.filter _) (by cases m[k]? <;> simp)]
    intro entry
    rw [List.mem_filter, decide_eq_true_iff, Option.mem_toList, Option.map_eq_some_iff,
      mem_toList_iff_getElem?_eq_some]
    constructor
    · rintro ⟨hentry, rfl⟩
      exact ⟨entry.2, hentry, rfl⟩
    · rintro ⟨v, hv, rfl⟩
      exact ⟨hv, rfl⟩
  cases hget : m[k]? with
  | none =>
    rw [hget] at hperm
    exact List.perm_nil.mp hperm
  | some v =>
    rw [hget] at hperm
    exact List.perm_singleton.mp hperm

theorem mem_keys_toList {m : Std.ExtTreeMap κ ν} {k : κ} :
    k ∈ m.toList.map Prod.fst ↔ m[k]?.isSome := by
  simp only [List.mem_map, Prod.exists, exists_and_right, exists_eq_right, Option.isSome_iff_exists,
    Std.ExtTreeMap.mem_toList_iff_getElem?_eq_some]

/-- A map is given by its entries. -/
theorem ofList_toList [BEq κ] [Std.LawfulBEqOrd κ] (m : Std.ExtTreeMap κ ν) : Std.ExtTreeMap.ofList m.toList = m := by
  refine Std.ExtTreeMap.ext_getElem? fun k => ?_
  cases h : m[k]? with
  | some v =>
    exact Std.ExtTreeMap.getElem?_ofList_of_mem Std.ReflCmp.compare_self Std.ExtTreeMap.distinct_keys_toList
      (Std.ExtTreeMap.mem_toList_iff_getElem?_eq_some.mpr h)
  | none =>
    refine Std.ExtTreeMap.getElem?_ofList_of_contains_eq_false ?_
    rw [Std.ExtTreeMap.map_fst_toList_eq_keys, Std.ExtTreeMap.contains_keys, ← Bool.not_eq_true,
      Std.ExtTreeMap.contains_iff_mem]
    simpa using h

/-! ### Sweeps -/

section Sweep

variable {ε ω : Type*} [DecidableEq κ]

/-- Go through entries in order; at each, `act` sees the value now under its key and
may write another one and log something. -/
def sweep (act : κ → ε → Option ν → Option (ν × ω)) :
    List (κ × ε) → Std.ExtTreeMap κ ν → Std.ExtTreeMap κ ν × List ω
  | [], m => (m, [])
  | (k, e) :: rest, m =>
    match act k e m[k]? with
    | none => sweep act rest m
    | some (v, w) =>
      let (m, log) := sweep act rest (m.insert k v)
      (m, w :: log)

variable (act : κ → ε → Option ν → Option (ν × ω))

/-- A sweep writes under the keys of its entries only. -/
theorem sweep_getElem?_of_notMem (entries : List (κ × ε)) :
    ∀ {m : Std.ExtTreeMap κ ν} {k : κ}, k ∉ entries.map Prod.fst →
      (sweep act entries m).1[k]? = m[k]? := by
  induction entries with
  | nil => intro m k _; rfl
  | cons entry rest ih =>
    obtain ⟨k', e⟩ := entry
    intro m k hk
    rw [List.map_cons, List.mem_cons, not_or] at hk
    rw [sweep]
    split
    · exact ih hk.2
    · rw [ih hk.2, getElem?_insert_eq, if_neg (Ne.symm hk.1)]

/-- With distinct keys, an entry's key ends with what `act` writes on seeing the
original value. -/
theorem sweep_getElem?_of_mem (entries : List (κ × ε)) :
    ∀ {m : Std.ExtTreeMap κ ν} {k : κ} {e : ε}, (entries.map Prod.fst).Nodup →
      (k, e) ∈ entries →
      (sweep act entries m).1[k]? = ((act k e m[k]?).map Prod.fst).or m[k]? := by
  induction entries with
  | nil => intro m k e _ h; cases h
  | cons entry rest ih =>
    obtain ⟨k', e'⟩ := entry
    intro m k e hnodup hmem
    rw [List.map_cons, List.nodup_cons] at hnodup
    rw [sweep]
    rcases List.mem_cons.mp hmem with heq | hmem
    · obtain ⟨rfl, rfl⟩ := Prod.mk.inj heq
      split
      · next hact => rw [sweep_getElem?_of_notMem act rest hnodup.1, hact]; rfl
      · next hact =>
        rw [sweep_getElem?_of_notMem act rest hnodup.1, hact, getElem?_insert_eq, if_pos rfl]
        rfl
    · have hk : k ∈ rest.map Prod.fst := List.mem_map.mpr ⟨(k, e), hmem, rfl⟩
      have hne : k' ≠ k := fun h => hnodup.1 (h ▸ hk)
      split
      · exact ih hnodup.2 hmem
      · rw [ih hnodup.2 hmem, getElem?_insert_eq, if_neg hne]

/-- With distinct keys, the log is what `act` says of each entry on seeing the
original value. -/
theorem sweep_log (entries : List (κ × ε)) :
    ∀ {m : Std.ExtTreeMap κ ν}, (entries.map Prod.fst).Nodup →
      (sweep act entries m).2 =
        entries.filterMap fun entry => (act entry.1 entry.2 m[entry.1]?).map Prod.snd := by
  induction entries with
  | nil => intro m _; rfl
  | cons entry rest ih =>
    obtain ⟨k, e⟩ := entry
    intro m hnodup
    rw [List.map_cons, List.nodup_cons] at hnodup
    rw [sweep, List.filterMap_cons]
    split
    · next hact => simp only [hact, Option.map_none]; exact ih hnodup.2
    · next v w hact =>
      simp only [hact, Option.map_some]
      rw [ih hnodup.2]
      refine congrArg (List.cons w) (List.filterMap_congr fun entry hentry => ?_)
      -- the key just written is none of the keys that follow
      have hk : entry.1 ∈ rest.map Prod.fst := List.mem_map.mpr ⟨entry, hentry, rfl⟩
      have hne : k ≠ entry.1 := fun h => hnodup.1 (h ▸ hk)
      rw [getElem?_insert_eq, if_neg hne]

end Sweep

end Std.ExtTreeMap

/-! ### Sets collected from lists -/

namespace Std.ExtTreeSet

variable {α : Type*} [Ord α] [Std.TransOrd α] [Std.LawfulEqOrd α]

theorem mem_toList_ofList [DecidableEq α] {l : List α} {a : α} :
    a ∈ (Std.ExtTreeSet.ofList l).toList ↔ a ∈ l := by
  rw [Std.ExtTreeSet.mem_toList, Std.ExtTreeSet.mem_ofList, List.contains_iff_mem]

theorem nodup_toList (t : Std.ExtTreeSet α) : t.toList.Nodup := by
  refine Std.ExtTreeSet.distinct_toList.imp ?_
  rintro a b h rfl
  exact h Std.ReflCmp.compare_self

theorem mem_insert_iff {t : Std.ExtTreeSet α} {k a : α} : a ∈ t.insert k ↔ a = k ∨ a ∈ t := by
  rw [Std.ExtTreeSet.mem_insert, Std.LawfulEqOrd.compare_eq_iff_eq, eq_comm]

theorem mem_erase_iff {t : Std.ExtTreeSet α} {k a : α} : a ∈ t.erase k ↔ a ≠ k ∧ a ∈ t := by
  rw [Std.ExtTreeSet.mem_erase, ne_eq, Std.LawfulEqOrd.compare_eq_iff_eq, ne_comm]

theorem mem_foldl_insert {a : α} (l : List α) : ∀ {t : Std.ExtTreeSet α}, a ∈ l.foldl Std.ExtTreeSet.insert t ↔ a ∈ t ∨ a ∈ l := by
  induction l with
  | nil => intro t; simp
  | cons b l ih =>
    intro t
    rw [List.foldl_cons, ih, mem_insert_iff, List.mem_cons, or_assoc, or_left_comm]

theorem isEmpty_eq_false_iff_exists {t : Std.ExtTreeSet α} : t.isEmpty = false ↔ ∃ a, a ∈ t := by
  rw [← Std.ExtTreeSet.isEmpty_toList, List.isEmpty_eq_false_iff_exists_mem]
  simp only [Std.ExtTreeSet.mem_toList]

/-- A set with a member has another one exactly when its size is more than one. -/
theorem one_lt_size_iff_of_mem {t : Std.ExtTreeSet α} {a : α} (ha : a ∈ t) :
    1 < t.size ↔ ∃ b ∈ t, b ≠ a := by
  classical
  have hcard : t.toList.toFinset.card = t.size := by
    rw [List.toFinset_card_of_nodup t.nodup_toList, Std.ExtTreeSet.length_toList]
  have hmem : ∀ b, b ∈ t.toList.toFinset ↔ b ∈ t := by
    intro b
    rw [List.mem_toFinset, Std.ExtTreeSet.mem_toList]
  rw [← hcard, Finset.one_lt_card]
  constructor
  · rintro ⟨b, hb, c, hc, hne⟩
    by_cases hba : b = a
    · exact ⟨c, (hmem c).mp hc, fun hca => hne (hba.trans hca.symm)⟩
    · exact ⟨b, (hmem b).mp hb, hba⟩
  · rintro ⟨b, hb, hne⟩
    exact ⟨b, (hmem b).mpr hb, a, (hmem a).mpr ha, hne⟩

omit [TransOrd α] [LawfulEqOrd α] in
theorem isEmpty_eq_false_of_size_pos {t : Std.ExtTreeSet α} (h : 0 < t.size) : t.isEmpty = false := by
  rw [Std.ExtTreeSet.isEmpty_eq_size_beq_zero, beq_eq_false_iff_ne]
  exact h.ne'

theorem size_pos_of_mem {t : Std.ExtTreeSet α} {a : α} (ha : a ∈ t) : 0 < t.size := by
  rw [← Std.ExtTreeSet.length_toList]
  exact List.length_pos_of_mem (Std.ExtTreeSet.mem_toList.mpr ha)

/-- More than one member are two that differ. -/
theorem one_lt_size_iff {t : Std.ExtTreeSet α} : 1 < t.size ↔ ∃ a ∈ t, ∃ b ∈ t, b ≠ a := by
  constructor
  · intro hsize
    obtain ⟨a, ha⟩ := isEmpty_eq_false_iff_exists.mp
      (isEmpty_eq_false_of_size_pos (Nat.zero_lt_of_lt hsize))
    exact ⟨a, ha, (one_lt_size_iff_of_mem ha).mp hsize⟩
  · rintro ⟨a, ha, hother⟩
    exact (one_lt_size_iff_of_mem ha).mpr hother

end Std.ExtTreeSet

/-! ### Sets by key -/

namespace Std.ExtTreeMap

variable {κ α : Type*} [Ord κ] [Std.TransOrd κ] [Std.LawfulEqOrd κ] [DecidableEq κ] [Ord α]
  [Std.TransOrd α] [Std.LawfulEqOrd α]

/-- Put a value into the set of a key. -/
def addTo (m : Std.ExtTreeMap κ (Std.ExtTreeSet α)) (p : κ × α) : Std.ExtTreeMap κ (Std.ExtTreeSet α) :=
  m.insert p.1 ((m[p.1]?.getD ∅).insert p.2)

/-- The set of a key, once pairs have been put in. -/
theorem mem_foldl_addTo {k : κ} {a : α} (pairs : List (κ × α)) :
    ∀ m : Std.ExtTreeMap κ (Std.ExtTreeSet α),
      a ∈ ((pairs.foldl addTo m)[k]?).getD ∅ ↔ (k, a) ∈ pairs ∨ a ∈ (m[k]?).getD ∅ := by
  induction pairs with
  | nil => intro m; simp
  | cons pair pairs ih =>
    intro m
    obtain ⟨k', a'⟩ := pair
    rw [List.foldl_cons, ih, addTo, getElem?_insert_eq, List.mem_cons, Prod.mk.injEq]
    by_cases hk : k' = k
    · subst hk
      rw [if_pos rfl, Option.getD_some, Std.ExtTreeSet.mem_insert_iff]
      tauto
    · rw [if_neg hk]
      have : ¬ k = k' := fun h => hk h.symm
      tauto

end Std.ExtTreeMap

/-! ### Sorted duplicate-free lists -/

namespace List

variable {α κ : Type*}

/-- Sort, then drop each element equal to its predecessor. -/
def sortDedup [LinearOrder α] (l : List α) : List α :=
  (l.insertionSort (· ≤ ·)).destutter (· ≠ ·)

theorem mem_destutter'_ne [DecidableEq α] {a : α} :
    ∀ {l : List α} (b : α), a ∈ b :: l → a ∈ l.destutter' (· ≠ ·) b := by
  intro l
  induction l with
  | nil => intro b h; simpa using h
  | cons c l ih =>
    intro b h
    rw [destutter'_cons]
    split
    · rw [mem_cons] at h ⊢
      exact h.imp_right (ih c)
    · next hbc =>
      have hbc : b = c := not_not.mp hbc
      refine ih b ?_
      rcases mem_cons.mp h with rfl | h
      · exact mem_cons_self
      · rw [hbc]; exact h

/-- `sortDedup` lists the elements of the list it is given. -/
@[simp] theorem mem_sortDedup [LinearOrder α] {l : List α} {a : α} : a ∈ l.sortDedup ↔ a ∈ l := by
  rw [sortDedup]
  constructor
  · exact fun h => (mem_insertionSort _).mp ((destutter_sublist _ _).subset h)
  · intro h
    have h : a ∈ l.insertionSort (· ≤ ·) := (mem_insertionSort _).mpr h
    cases hs : l.insertionSort (· ≤ ·) with
    | nil => rw [hs] at h; exact h
    | cons b t => rw [hs] at h; exact mem_destutter'_ne b h

theorem isChain_lt_of_le_of_ne [LinearOrder α] :
    ∀ {l : List α}, l.IsChain (· ≤ ·) → l.IsChain (· ≠ ·) → l.IsChain (· < ·) := by
  intro l
  induction l with
  | nil => intro _ _; exact .nil
  | cons a l ih =>
    intro hle hne
    rw [isChain_cons] at hle hne ⊢
    exact ⟨fun b hb => lt_of_le_of_ne (hle.1 b hb) (hne.1 b hb), ih hle.2 hne.2⟩

/-- `sortDedup` is strictly increasing: sorted, and free of repetitions. -/
theorem pairwise_sortDedup [LinearOrder α] (l : List α) : l.sortDedup.Pairwise (· < ·) := by
  have hle : l.sortDedup.Pairwise (· ≤ ·) :=
    (pairwise_insertionSort (· ≤ ·) l).sublist (destutter_sublist _ _)
  have hne : l.sortDedup.IsChain (· ≠ ·) := isChain_destutter _ _
  rw [← isChain_iff_pairwise]
  exact isChain_lt_of_le_of_ne (isChain_iff_pairwise.mpr hle) hne

/-- Sorted lists without repetitions are the same if they hold the same. -/
theorem sortDedup_eq_iff [LinearOrder α] {l l' : List α} : l.sortDedup = l'.sortDedup ↔ ∀ a, a ∈ l ↔ a ∈ l' := by
  constructor
  · intro h a
    rw [← mem_sortDedup, h, mem_sortDedup]
  · intro h
    refine (pairwise_sortDedup l).eq_of_mem_iff (pairwise_sortDedup l') fun a => ?_
    rw [mem_sortDedup, mem_sortDedup, h]

/-- What joined lists are made up of. -/
theorem mem_of_mem_intercalate {a : α} {separator : List α} {l : List (List α)} (h : a ∈ separator.intercalate l) :
    a ∈ separator ∨ ∃ part ∈ l, a ∈ part := by
  induction l with
  | nil => cases h
  | cons part l ih =>
    by_cases hl : l = []
    · subst hl
      exact Or.inr ⟨part, mem_cons_self, by simpa using h⟩
    · rw [intercalate_cons_of_ne_nil hl, mem_append, mem_append] at h
      rcases h with (h | h) | h
      · exact Or.inr ⟨part, mem_cons_self, h⟩
      · exact Or.inl h
      · exact (ih h).imp_right fun ⟨other, hother, ha⟩ => ⟨other, mem_cons_of_mem _ hother, ha⟩

/-- Elements that are each mapped to something, related to it. -/
theorem forall₂_filterMap {β : Type*} {R : α → β → Prop} {f : α → Option β} {l : List α}
    (h : ∀ a ∈ l, ∃ b, f a = some b ∧ R a b) : Forall₂ R l (l.filterMap f) := by
  induction l with
  | nil => exact Forall₂.nil
  | cons a l ih =>
    obtain ⟨b, hb, hR⟩ := h a mem_cons_self
    rw [filterMap_cons, hb]
    exact Forall₂.cons hR (ih fun other hother => h other (mem_cons_of_mem _ hother))

/-- Skipping some elements and mapping the others. -/
theorem filterMap_ite_none {β : Type*} (p : α → Bool) (g : α → β) (l : List α) :
    (l.filterMap fun a => if p a then none else some (g a)) = (l.filter fun a => !p a).map g := by
  induction l with
  | nil => rfl
  | cons a l ih => cases hp : p a <;> simp [hp, ih]

/-- A fallible map succeeds with what it yields at every element. -/
theorem mapM_eq_some_iff {β : Type*} {f : α → Option β} :
    ∀ {l : List α} {r : List β}, l.mapM f = some r ↔ l.map f = r.map some := by
  intro l
  induction l with
  | nil => intro r; cases r <;> simp
  | cons a l ih =>
    intro r
    rw [mapM_cons, map_cons]
    cases f a with
    | none => cases r <;> simp
    | some b => cases r <;> simp [Option.bind_eq_some_iff, ← ih, and_comm]

/-- A fallible map succeeds when it does at every element. -/
theorem isSome_mapM_iff {β : Type*} {f : α → Option β} {l : List α} :
    (l.mapM f).isSome = true ↔ ∀ a ∈ l, (f a).isSome = true := by
  induction l with
  | nil => simp
  | cons a l ih =>
    rw [forall_mem_cons, ← ih, mapM_cons]
    cases f a <;> cases l.mapM f <;> simp

/-! ### First occurrences -/

/-- **One key of a fold.**  When each step acts on the part under one key and leaves
the others alone, the part under a key after all steps is what the steps with this
key make of it. -/
theorem foldl_look {σ ρ ν : Type*} {κ : Type*} [DecidableEq κ] (look : σ → κ → ν) (step : σ → ρ → σ)
    (key : ρ → κ) (act : ν → ρ → ν)
    (hstep : ∀ s r k, look (step s r) k = if key r = k then act (look s k) r else look s k)
    (rs : List ρ) (k : κ) :
    ∀ s : σ, look (rs.foldl step s) k = (rs.filter fun r => key r = k).foldl act (look s k) := by
  induction rs with
  | nil => intro s; rfl
  | cons r rs ih =>
    intro s
    rw [foldl_cons, ih, hstep]
    by_cases hk : key r = k
    · rw [if_pos hk, filter_cons_of_pos (by simp [hk]), foldl_cons]
    · rw [if_neg hk, filter_cons_of_neg (by simp [hk])]

/-- A fold under an option. -/
theorem foldl_optionMap {β : Type*} (f : β → α → β) (l : List α) :
    ∀ o : Option β, l.foldl (fun o a => o.map fun b => f b a) o = o.map fun b => l.foldl f b := by
  induction l with
  | nil => intro o; simp
  | cons a l ih =>
    intro o
    rw [foldl_cons, ih, Option.map_map]
    rfl

section Firsts

variable [DecidableEq κ] {f : α → κ}

/-- The elements whose key was not seen before, nor at an earlier one of them. -/
def firstsFrom (f : α → κ) : List κ → List α → List α
  | _, [] => []
  | seen, a :: l => if f a ∈ seen then firstsFrom f seen l else a :: firstsFrom f (f a :: seen) l

/-- Of the elements with one key the first one. -/
def firsts (f : α → κ) (l : List α) : List α := firstsFrom f [] l

/-- What was seen counts, not in which order. -/
theorem firstsFrom_congr (l : List α) :
    ∀ {seen seen' : List κ}, (∀ k, k ∈ seen ↔ k ∈ seen') →
      firstsFrom f seen l = firstsFrom f seen' l := by
  induction l with
  | nil => intro seen seen' _; rfl
  | cons a l ih =>
    intro seen seen' h
    have hcons : ∀ k, k ∈ f a :: seen ↔ k ∈ f a :: seen' := by simp [h]
    simp only [firstsFrom, h, ih h, ih hcons]

theorem mem_firstsFrom {l : List α} :
    ∀ {seen : List κ} {a : α}, a ∈ firstsFrom f seen l → a ∈ l ∧ f a ∉ seen := by
  induction l with
  | nil => intro seen a h; cases h
  | cons b l ih =>
    intro seen a h
    rw [firstsFrom] at h
    split at h
    · exact ⟨mem_cons_of_mem _ (ih h).1, (ih h).2⟩
    · next hb =>
      rcases mem_cons.mp h with rfl | h
      · exact ⟨mem_cons_self, hb⟩
      · exact ⟨mem_cons_of_mem _ (ih h).1, fun hmem => (ih h).2 (mem_cons_of_mem _ hmem)⟩

theorem nodup_firstsFrom {l : List α} :
    ∀ {seen : List κ}, ((firstsFrom f seen l).map f).Nodup := by
  induction l with
  | nil => intro seen; exact .nil
  | cons a l ih =>
    intro seen
    rw [firstsFrom]
    split
    · exact ih
    · rw [map_cons, nodup_cons]
      refine ⟨fun hmem => ?_, ih⟩
      obtain ⟨b, hb, hab⟩ := mem_map.mp hmem
      exact (mem_firstsFrom hb).2 (hab ▸ mem_cons_self)

/-- Every key not seen before has a first occurrence. -/
theorem mem_map_firstsFrom {l : List α} :
    ∀ {seen : List κ} {k : κ}, k ∈ (firstsFrom f seen l).map f ↔ k ∈ l.map f ∧ k ∉ seen := by
  induction l with
  | nil => intro seen k; simp [firstsFrom]
  | cons a l ih =>
    intro seen k
    rw [firstsFrom, map_cons, mem_cons]
    split
    · next ha =>
      rw [ih]
      refine ⟨fun h => ⟨Or.inr h.1, h.2⟩, fun h => ⟨h.1.resolve_left ?_, h.2⟩⟩
      rintro rfl
      exact h.2 ha
    · next ha =>
      rw [map_cons, mem_cons, ih, mem_cons]
      by_cases hk : k = f a
      · simp [hk, ha]
      · simp [hk]

/-- A first occurrence is what is found first under its key. -/
theorem find?_of_mem_firstsFrom {l : List α} :
    ∀ {seen : List κ} {a : α}, a ∈ firstsFrom f seen l → l.find? (fun b => f b = f a) = some a := by
  induction l with
  | nil => intro seen a h; cases h
  | cons b l ih =>
    intro seen a h
    have hunseen := (mem_firstsFrom h).2
    rw [firstsFrom] at h
    split at h
    · next hb =>
      have hne : f b ≠ f a := fun heq => hunseen (heq ▸ hb)
      rw [find?_cons_of_neg (by simpa using hne)]
      exact ih h
    · rcases mem_cons.mp h with rfl | h
      · rw [find?_cons_of_pos (by simp)]
      · have hne : f b ≠ f a := fun heq => (mem_firstsFrom h).2 (heq ▸ mem_cons_self)
        rw [find?_cons_of_neg (by simpa using hne)]
        exact ih h

/-- A first occurrence stays one among fewer elements, if it is one of them. -/
theorem eq_of_mem_firsts_filter {l : List α} {seen : List κ} {p : α → Bool} {a b : α}
    (ha : a ∈ firstsFrom f seen l) (hp : p a = true) (hb : b ∈ (l.filter p).firsts f) (hk : f b = f a) :
    b = a := by
  have hfirst := find?_of_mem_firstsFrom ha
  have hkept := find?_of_mem_firstsFrom hb
  rw [hk, find?_filter] at hkept
  obtain ⟨-, before, after, rfl, hbefore⟩ := find?_eq_some_iff_append.mp hfirst
  have hnone : before.find? (fun c => decide (p c = true ∧ decide (f c = f a) = true)) = none := by
    rw [find?_eq_none]
    intro c hc hboth
    have hother := hbefore c hc
    rw [(of_decide_eq_true hboth).2] at hother
    cases hother
  rw [find?_append, hnone, Option.none_or, find?_cons_of_pos (by simp [hp])] at hkept
  exact (Option.some.inj hkept).symm

theorem length_firstsFrom_le {l : List α} :
    ∀ {seen : List κ}, (firstsFrom f seen l).length ≤ l.length := by
  induction l with
  | nil => intro seen; exact le_rfl
  | cons a l ih =>
    intro seen
    rw [firstsFrom]
    split
    · exact ih.trans (Nat.le_succ _)
    · exact Nat.succ_le_succ ih

/-- Keys seen beforehand are filtered out of the first occurrences. -/
theorem filter_firstsFrom (seen : List κ) (l : List α) :
    ∀ more : List κ, (firstsFrom f more l).filter (fun a => f a ∉ seen) =
      firstsFrom f (seen ++ more) l := by
  induction l with
  | nil => intro more; rfl
  | cons a l ih =>
    intro more
    rw [firstsFrom, firstsFrom]
    by_cases hmore : f a ∈ more
    · rw [if_pos hmore, if_pos (mem_append_right _ hmore), ih]
    · rw [if_neg hmore]
      by_cases hseen : f a ∈ seen
      · rw [if_pos (mem_append_left _ hseen), filter_cons_of_neg (by simpa using hseen), ih]
        refine firstsFrom_congr l fun k => ?_
        simp only [mem_append, mem_cons]
        refine ⟨fun h => ?_, fun h => h.imp_right Or.inr⟩
        rcases h with h | rfl | h
        · exact Or.inl h
        · exact Or.inl hseen
        · exact Or.inr h
      · rw [if_neg (by simp [hseen, hmore]), filter_cons_of_pos (by simpa using hseen), ih]
        refine congrArg _ (firstsFrom_congr l fun k => ?_)
        simp only [mem_append, mem_cons, or_left_comm]

theorem firstsFrom_cons_of_notMem {k : κ} (l : List α) :
    ∀ {seen : List κ}, k ∉ l.map f → firstsFrom f (k :: seen) l = firstsFrom f seen l := by
  induction l with
  | nil => intro seen _; rfl
  | cons a l ih =>
    intro seen hk
    rw [map_cons, mem_cons, not_or] at hk
    have hswap : firstsFrom f (f a :: k :: seen) l = firstsFrom f (f a :: seen) l := by
      rw [← @ih (f a :: seen) hk.2]
      exact firstsFrom_congr l fun x => by simp only [mem_cons, or_left_comm]
    simp only [firstsFrom, mem_cons, hswap, ih hk.2, Ne.symm hk.1, false_or]

/-- A condition on keys may be asked before or after. -/
theorem firstsFrom_filter {p : α → Bool} (l : List α) :
    ∀ {seen : List κ}, (∀ a ∈ l, ∀ b ∈ l, f a = f b → p a = p b) →
      firstsFrom f seen (l.filter p) = (firstsFrom f seen l).filter p := by
  induction l with
  | nil => intro seen _; rfl
  | cons a l ih =>
    intro seen hp
    have hl : ∀ a ∈ l, ∀ b ∈ l, f a = f b → p a = p b := fun a ha b hb =>
      hp a (mem_cons_of_mem _ ha) b (mem_cons_of_mem _ hb)
    cases hpa : p a with
    | true =>
      rw [filter_cons_of_pos hpa, firstsFrom, firstsFrom, ih hl, ih hl]
      split
      · rfl
      · rw [filter_cons_of_pos hpa]
    | false =>
      rw [filter_cons_of_neg (by simp [hpa]), firstsFrom]
      split
      · exact ih hl
      · rw [filter_cons_of_neg (by simp [hpa]), ← ih hl]
        -- nothing that is left has the key of what was dropped
        refine (firstsFrom_cons_of_notMem _ fun hmem => ?_).symm
        obtain ⟨b, hb, hab⟩ := mem_map.mp hmem
        obtain ⟨hb, hpb⟩ := mem_filter.mp hb
        rw [hp b (mem_cons_of_mem _ hb) a mem_cons_self hab, hpa] at hpb
        cases hpb

/-- Dropping what was seen, and what repeats, before it is dropped anyway. -/
theorem firstsFrom_firstsFrom (l : List α) :
    ∀ {seen seen' : List κ}, (∀ k ∈ seen, k ∈ seen') →
      firstsFrom f seen' (firstsFrom f seen l) = firstsFrom f seen' l := by
  induction l with
  | nil => intro seen seen' _; rfl
  | cons a l ih =>
    intro seen seen' hsub
    rw [firstsFrom]
    split
    · next h => rw [ih hsub, firstsFrom, if_pos (hsub _ h)]
    · rw [firstsFrom, firstsFrom]
      split
      · next h =>
        refine ih fun k hk => ?_
        rcases mem_cons.mp hk with rfl | hk
        · exact h
        · exact hsub k hk
      · refine congrArg _ (ih fun k hk => ?_)
        rcases mem_cons.mp hk with rfl | hk
        · exact mem_cons_self
        · exact mem_cons_of_mem _ (hsub k hk)

/-- The second of two lists is read with what the first showed. -/
theorem firstsFrom_append (l l' : List α) :
    ∀ seen : List κ, firstsFrom f seen (l ++ l') =
      firstsFrom f seen l ++ firstsFrom f (((firstsFrom f seen l).map f).reverse ++ seen) l' := by
  induction l with
  | nil => intro seen; rfl
  | cons a l ih =>
    intro seen
    rw [cons_append, firstsFrom, firstsFrom]
    split
    · exact ih seen
    · rw [ih, cons_append, map_cons, reverse_cons, append_assoc, singleton_append]

theorem mem_of_mem_firsts {l : List α} {a : α} (h : a ∈ l.firsts f) : a ∈ l := (mem_firstsFrom h).1

/-- First occurrences have distinct keys. -/
theorem nodup_firsts (f : α → κ) (l : List α) : ((l.firsts f).map f).Nodup := nodup_firstsFrom

end Firsts

/-! ### Sorting by a key -/

section SortBy

variable [LinearOrder κ] {key : α → κ} {l l' : List α}

/-- Sort by a key, least first. -/
def sortBy (key : α → κ) (l : List α) : List α := l.insertionSort fun a b => key a ≤ key b

theorem perm_sortBy (key : α → κ) (l : List α) : (l.sortBy key).Perm l :=
  perm_insertionSort _ l

@[simp] theorem mem_sortBy {a : α} : a ∈ l.sortBy key ↔ a ∈ l := (perm_sortBy key l).mem_iff

theorem pairwise_sortBy (key : α → κ) (l : List α) :
    (l.sortBy key).Pairwise fun a b => key a ≤ key b := by
  have : Std.Total fun a b => key a ≤ key b := ⟨fun a b => le_total (key a) (key b)⟩
  have : IsTrans α fun a b => key a ≤ key b := ⟨fun _ _ _ => le_trans⟩
  exact pairwise_insertionSort _ l

/-- Where the key tells the elements apart, a sorted arrangement is the sorted
one. -/
theorem sortBy_eq_of_perm (hinj : ∀ a ∈ l, ∀ b ∈ l, key a = key b → a = b) (hperm : l'.Perm l)
    (hsorted : l'.Pairwise fun a b => key a ≤ key b) : l.sortBy key = l' := by
  refine Perm.eq_of_pairwise ?_ (pairwise_sortBy key l) hsorted
    ((perm_sortBy key l).trans hperm.symm)
  intro a b ha hb hab hba
  exact hinj a (mem_sortBy.mp ha) b (hperm.mem_iff.mp hb) (le_antisymm hab hba)

theorem filter_sortBy (hinj : ∀ a ∈ l, ∀ b ∈ l, key a = key b → a = b) (p : α → Bool) :
    (l.sortBy key).filter p = (l.filter p).sortBy key := by
  refine (sortBy_eq_of_perm ?_ ((perm_sortBy key l).filter p)
    ((pairwise_sortBy key l).filter p)).symm
  exact fun a ha b hb => hinj a (mem_of_mem_filter ha) b (mem_of_mem_filter hb)

/-- What an ascending order ends in is the greatest. -/
theorem head?_reverse_sortBy {a : α}
    (hkey : ∀ b ∈ l, ∀ c ∈ l, key b = key c → b = c) :
    (l.sortBy key).reverse.head? = some a ↔ a ∈ l ∧ ∀ b ∈ l, key b ≤ key a := by
  have hsorted : (l.sortBy key).reverse.Pairwise fun b c => key c ≤ key b :=
    pairwise_reverse.mpr (pairwise_sortBy key l)
  have hmem {b : α} : b ∈ (l.sortBy key).reverse ↔ b ∈ l := by rw [mem_reverse, mem_sortBy]
  have hgreatest {b : α} (h : (l.sortBy key).reverse.head? = some b) : b ∈ l ∧ ∀ c ∈ l, key c ≤ key b := by
    obtain ⟨rest, hrest⟩ := head?_eq_some_iff.mp h
    refine ⟨hmem.mp (hrest ▸ mem_cons_self), fun c hc => ?_⟩
    rw [hrest] at hsorted
    rcases mem_cons.mp (hrest ▸ hmem.mpr hc) with rfl | hc
    · exact le_rfl
    · exact (pairwise_cons.mp hsorted).1 c hc
  refine ⟨hgreatest, fun ⟨ha, hle⟩ => ?_⟩
  cases hhead : (l.sortBy key).reverse.head? with
  | none =>
    rw [head?_eq_none_iff] at hhead
    exact absurd (hhead ▸ hmem.mpr ha) not_mem_nil
  | some b =>
    obtain ⟨hb, hle'⟩ := hgreatest hhead
    rw [hkey b hb a ha (le_antisymm (hle b hb) (hle' a ha))]

end SortBy

/-! ### The last element of greatest key -/

/-- The last element of greatest key: a later element replaces an earlier one
unless the earlier key is strictly greater. -/
def maxByKey [Ord κ] (key : α → κ) : List α → Option α
  | [] => none
  | x :: xs => some (xs.foldl (fun best y => if compare (key best) (key y) = .gt then best else y) x)

@[simp] theorem maxByKey_eq_none_iff [Ord κ] {key : α → κ} {l : List α} :
    l.maxByKey key = none ↔ l = [] := by
  cases l <;> simp [maxByKey]

theorem foldl_maxByKey [Ord κ] [Std.TransOrd κ] (key : α → κ) :
    ∀ (l : List α) (x : α),
      let m := l.foldl (fun best y => if compare (key best) (key y) = .gt then best else y) x
      m ∈ x :: l ∧ ∀ y ∈ x :: l, (compare (key y) (key m)).isLE := by
  intro l
  induction l with
  | nil => intro x; simp
  | cons z l ih =>
    intro x
    simp only [foldl_cons]
    split
    · next hgt =>
      obtain ⟨hmem, hle⟩ := ih x
      refine ⟨by rw [mem_cons] at hmem ⊢; exact hmem.imp_right (mem_cons_of_mem _), ?_⟩
      intro y hy
      rcases mem_cons.mp hy with rfl | hy
      · exact hle _ mem_cons_self
      rcases mem_cons.mp hy with rfl | hy
      · -- the element passed over is below the incumbent, which is below the result
        have hlt : compare (key y) (key x) = .lt := Std.OrientedCmp.lt_of_gt hgt
        exact Std.TransCmp.isLE_trans (by rw [hlt]; rfl) (hle _ mem_cons_self)
      · exact hle _ (mem_cons_of_mem _ hy)
    · next hng =>
      obtain ⟨hmem, hle⟩ := ih z
      refine ⟨mem_cons_of_mem _ hmem, ?_⟩
      intro y hy
      rcases mem_cons.mp hy with rfl | hy
      · exact Std.TransCmp.isLE_trans (Ordering.ne_gt_iff_isLE.mp hng) (hle _ mem_cons_self)
      · exact hle _ hy

theorem maxByKey_mem [Ord κ] [Std.TransOrd κ] {key : α → κ} {l : List α} {m : α}
    (h : l.maxByKey key = some m) : m ∈ l := by
  cases l with
  | nil => simp [maxByKey] at h
  | cons x l =>
    rw [maxByKey, Option.some.injEq] at h
    exact h ▸ (foldl_maxByKey key l x).1

theorem isLE_maxByKey [Ord κ] [Std.TransOrd κ] {key : α → κ} {l : List α} {m y : α}
    (h : l.maxByKey key = some m) (hy : y ∈ l) : (compare (key y) (key m)).isLE := by
  cases l with
  | nil => simp at hy
  | cons x l =>
    rw [maxByKey, Option.some.injEq] at h
    exact h ▸ (foldl_maxByKey key l x).2 y hy

theorem maxByKey_concat [Ord κ] (key : α → κ) (l : List α) (y : α) :
    (l ++ [y]).maxByKey key = some (match l.maxByKey key with
      | none => y
      | some best => if compare (key best) (key y) = .gt then best else y) := by
  cases l with
  | nil => rfl
  | cons x l => simp only [cons_append, maxByKey, foldl_append, foldl_cons, foldl_nil]

/-- After the last element of greatest key all keys are less. -/
theorem maxByKey_split [LinearOrder κ] {key : α → κ} {m : α} (l : List α) :
    l.maxByKey key = some m → ∃ l₁ l₂, l = l₁ ++ m :: l₂ ∧ ∀ a ∈ l₂, key a < key m := by
  induction l using List.reverseRecOn generalizing m with
  | nil => intro h; cases h
  | append_singleton l a ih =>
    intro h
    rw [maxByKey_concat, Option.some.injEq] at h
    cases hl : l.maxByKey key with
    | none =>
      simp only [hl] at h
      exact ⟨l, [], by rw [h], fun b hb => absurd hb not_mem_nil⟩
    | some best =>
      simp only [hl] at h
      split at h
      · next hgt =>
        subst h
        obtain ⟨l₁, l₂, rfl, hless⟩ := ih hl
        refine ⟨l₁, l₂ ++ [a], by rw [append_assoc, cons_append], fun b hb => ?_⟩
        rcases mem_append.mp hb with hb | hb
        · exact hless b hb
        · rw [mem_singleton.mp hb]
          exact compare_gt_iff_gt.mp hgt
      · subst h
        exact ⟨l, [], rfl, fun b hb => absurd hb not_mem_nil⟩

/-- The last element of greatest key is so among fewer elements. -/
theorem maxByKey_filter [Ord κ] [Std.TransOrd κ] {key : α → κ} {p : α → Bool} {m : α} (hm : p m = true)
    (l : List α) : l.maxByKey key = some m → (l.filter p).maxByKey key = some m := by
  induction l using List.reverseRecOn generalizing m with
  | nil => intro h; cases h
  | append_singleton l y ih =>
    intro h
    rw [maxByKey_concat, Option.some.injEq] at h
    rw [filter_append]
    cases hl : l.maxByKey key with
    | none =>
      rw [maxByKey_eq_none_iff] at hl
      subst hl
      obtain rfl : y = m := h
      rw [filter_nil, nil_append, filter_singleton, hm]
      rfl
    | some best =>
      simp only [hl] at h
      split at h
      · next hgt =>
        subst h
        have hkept := ih hm hl
        cases hy : p y with
        | false => rwa [filter_singleton, hy, cond_false, append_nil]
        | true =>
          rw [filter_singleton, hy, cond_true, maxByKey_concat, hkept]
          exact congrArg some (if_pos hgt)
      · next hng =>
        subst h
        rw [filter_singleton, hm, cond_true, maxByKey_concat]
        cases hkept : (l.filter p).maxByKey key with
        | none => rfl
        | some other =>
          have hle := isLE_maxByKey hl (mem_of_mem_filter (maxByKey_mem hkept))
          have hng' := Std.TransCmp.isLE_trans hle (Ordering.ne_gt_iff_isLE.mp hng)
          exact congrArg some (if_neg (Ordering.ne_gt_iff_isLE.mpr hng'))
end List

theorem Prod.isLE_fst_of_isLE {α β : Type*} [Ord α] [Ord β] {p q : α × β}
    (h : (compare p q).isLE) : (compare p.1 q.1).isLE := by
  change ((compare p.1 q.1).then (compare p.2 q.2)).isLE at h
  revert h
  cases compare p.1 q.1 <;> simp

/-! ### The worst element of a set -/

/-- `w` is an element of greatest rank of `S`, or the default `d` when `S` has
no element. -/
def IsWorst {α β : Type*} [LE β] (rank : α → β) (d : α) (S : Set α) (w : α) : Prop :=
  (w ∈ S ∧ ∀ x ∈ S, rank x ≤ rank w) ∨ (S = ∅ ∧ w = d)

/-- An injective rank leaves no choice of worst element. -/
theorem IsWorst.unique {α β : Type*} [PartialOrder β] {rank : α → β}
    (hrank : Function.Injective rank) {d : α} {S : Set α} {v w : α}
    (hv : IsWorst rank d S v) (hw : IsWorst rank d S w) : v = w := by
  rcases hv with ⟨hvS, hv⟩ | ⟨rfl, rfl⟩
  · rcases hw with ⟨hwS, hw⟩ | ⟨rfl, rfl⟩
    · exact hrank (le_antisymm (hw v hvS) (hv w hwS))
    · exact absurd hvS (Set.notMem_empty v)
  · rcases hw with ⟨hwS, -⟩ | ⟨-, rfl⟩
    · exact absurd hwS (Set.notMem_empty w)
    · rfl

/-- The rank of the worst element bounds every rank of the set. -/
theorem IsWorst.rank_le {α β : Type*} [LE β] {rank : α → β} {d : α} {S : Set α} {w x : α}
    (hw : IsWorst rank d S w) (hx : x ∈ S) : rank x ≤ rank w := by
  rcases hw with ⟨-, h⟩ | ⟨rfl, -⟩
  · exact h x hx
  · exact absurd hx (Set.notMem_empty x)
