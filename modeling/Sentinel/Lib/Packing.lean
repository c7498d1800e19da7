import Mathlib

/-!
# Packing in order

Parts are packed into groups in the order in which they come.  A part that does not fit
beside the parts of the group that is open begins a new one, and a part that is too wide by
itself is left out.

## Main definitions

* `Packing`, `Packing.add`, `Packing.pack` — the groups, one part more, all parts.
* `Packing.width` — what a group takes up, with the gaps between its parts.

## Main results

* `Packing.flatten_pack`, `Packing.omitted_pack` — every part that fits is packed, in order,
  and the others are reported; `Packing.flatten_take_sublist`, `Packing.flatten_take_eq` —
  what the first groups hold.
* `Packing.width_le_of_mem_pack` — no group is too wide.
* `Packing.foldl_render` — an algorithm that keeps the groups rendered packs alike.
-/

/-- Groups of parts: those that are closed, the one that is open, and whether a part was
left out. -/
structure Packing (α : Type*) where
  /-- The groups that are closed. -/
  groups : List (List α)
  /-- The group that is open. -/
  group : List α
  /-- Whether a part was left out. -/
  omitted : Bool

namespace Packing

variable {α : Type*} (size : α → ℕ) (gap limit : ℕ)

/-- Nothing packed yet. -/
def start : Packing α := ⟨[], [], false⟩

/-- What a group takes up, with the gaps between its parts. -/
def width (group : List α) : ℕ := (group.map size).sum + gap * (group.length - 1)

/-- Pack one part more. -/
def add (p : Packing α) (part : α) : Packing α :=
  if limit < size part then { p with omitted := true }
  else if p.group ≠ [] ∧ limit < width size gap p.group + gap + size part then
    ⟨p.groups ++ [p.group], [part], p.omitted⟩
  else { p with group := p.group ++ [part] }

/-- All groups, the one that is open included. -/
def closed (p : Packing α) : List (List α) := if p.group = [] then p.groups else p.groups ++ [p.group]

/-- Pack parts. -/
def pack (parts : List α) : Packing α := parts.foldl (add size gap limit) start

variable {size gap limit} {p : Packing α} {part : α} {parts : List α}

@[simp] theorem width_nil : width size gap [] = 0 := rfl

@[simp] theorem width_singleton (part : α) : width size gap [part] = size part := by
  simp [width]

theorem width_concat {group : List α} (h : group ≠ []) (part : α) :
    width size gap (group ++ [part]) = width size gap group + gap + size part := by
  have hlength := List.length_pos_iff.mpr h
  unfold width
  rw [List.map_append, List.sum_append, List.length_append, List.map_singleton, List.sum_singleton,
    List.length_singleton]
  obtain ⟨n, hn⟩ : ∃ n, group.length = n + 1 := ⟨group.length - 1, by omega⟩
  rw [hn, Nat.add_sub_cancel, Nat.add_sub_cancel, Nat.mul_succ]
  omega

theorem flatten_closed (p : Packing α) : p.closed.flatten = p.groups.flatten ++ p.group := by
  unfold closed
  split
  · next h => rw [h, List.append_nil]
  · rw [List.flatten_append, List.flatten_singleton]

theorem flatten_closed_add : (add size gap limit p part).closed.flatten =
    p.closed.flatten ++ if size part ≤ limit then [part] else [] := by
  rw [flatten_closed, flatten_closed]
  unfold add
  by_cases h : limit < size part
  · rw [if_pos h, if_neg (show ¬ size part ≤ limit by omega), List.append_nil]
  · rw [if_neg h, if_pos (show size part ≤ limit by omega)]
    split
    · rw [List.flatten_append, List.flatten_singleton]
    · rw [List.append_assoc]

/-- **Every part that fits is packed, in order.** -/
theorem flatten_pack (parts : List α) :
    (pack size gap limit parts).closed.flatten = parts.filter fun part => size part ≤ limit := by
  induction parts using List.reverseRecOn with
  | nil => rfl
  | append_singleton parts part ih =>
    rw [pack, List.foldl_append, ← pack, List.foldl_cons, List.foldl_nil, flatten_closed_add, ih, List.filter_append]
    by_cases h : size part ≤ limit
    · simp [h]
    · simp [h]

/-- A part that was left out is reported. -/
theorem omitted_pack (parts : List α) :
    (pack size gap limit parts).omitted = parts.any fun part => limit < size part := by
  induction parts using List.reverseRecOn with
  | nil => rfl
  | append_singleton parts part ih =>
    rw [pack, List.foldl_append, ← pack, List.foldl_cons, List.foldl_nil, List.any_append, ← ih, List.any_cons,
      List.any_nil, Bool.or_false]
    unfold add
    split
    · next h => rw [decide_eq_true h, Bool.or_true]
    · next h => rw [decide_eq_false h, Bool.or_false]; split <;> rfl

/-- The first groups hold all of the parts, if none was reported and no group is missing. -/
theorem flatten_take_eq {k : ℕ}
    (h : ((pack size gap limit parts).omitted || decide (k < (pack size gap limit parts).closed.length)) = false) :
    ((pack size gap limit parts).closed.take k).flatten = parts := by
  rw [Bool.or_eq_false_iff, omitted_pack, List.any_eq_false, decide_eq_false_iff_not, not_lt] at h
  rw [List.take_of_length_le h.2, flatten_pack, List.filter_eq_self]
  intro part hpart
  have hsize := h.1 part hpart
  rw [decide_eq_true_eq] at hsize
  exact decide_eq_true (by omega)

/-- The groups are within the limit, and the closed ones have something in them. -/
structure Fits (size : α → ℕ) (gap limit : ℕ) (p : Packing α) : Prop where
  closed : ∀ group ∈ p.groups, group ≠ [] ∧ width size gap group ≤ limit
  open_ : width size gap p.group ≤ limit

theorem Fits.add (h : p.Fits size gap limit) (part : α) : (add size gap limit p part).Fits size gap limit := by
  unfold Packing.add
  split
  · exact ⟨h.closed, h.open_⟩
  · next hsize =>
    have hsingle : width size gap [part] ≤ limit := by
      rw [width_singleton]
      omega
    split
    · next hnew =>
      refine ⟨fun group hgroup => ?_, hsingle⟩
      rcases List.mem_append.mp hgroup with hgroup | hgroup
      · exact h.closed group hgroup
      · rw [List.mem_singleton.mp hgroup]
        exact ⟨hnew.1, h.open_⟩
    · next hnew =>
      refine ⟨h.closed, ?_⟩
      by_cases hgroup : p.group = []
      · simpa only [hgroup, List.nil_append] using hsingle
      · rw [width_concat hgroup]
        have := not_and.mp hnew hgroup
        omega

theorem fits_pack (parts : List α) : (pack size gap limit parts).Fits size gap limit := by
  induction parts using List.reverseRecOn with
  | nil => exact ⟨fun group hgroup => absurd hgroup List.not_mem_nil, Nat.zero_le _⟩
  | append_singleton parts part ih =>
    rw [pack, List.foldl_append, ← pack]
    exact ih.add part

/-- **No group is too wide, and none is empty.** -/
theorem width_le_of_mem_pack {group : List α} (h : group ∈ (pack size gap limit parts).closed) :
    group ≠ [] ∧ width size gap group ≤ limit := by
  have hfits : (pack size gap limit parts).Fits size gap limit := fits_pack parts
  unfold closed at h
  split at h
  · exact hfits.closed group h
  · next hne =>
    rcases List.mem_append.mp h with h | h
    · exact hfits.closed group h
    · rw [List.mem_singleton.mp h]
      exact ⟨hne, hfits.open_⟩

theorem mem_of_mem_group {other : α} (h : other ∈ (pack size gap limit parts).group) : other ∈ parts := by
  have hclosed : other ∈ (pack size gap limit parts).closed.flatten := by
    rw [flatten_closed]
    exact List.mem_append_right _ h
  rw [flatten_pack] at hclosed
  exact (List.mem_filter.mp hclosed).1

/-- The first groups hold some of the parts, in order. -/
theorem flatten_take_sublist (k : ℕ) (parts : List α) :
    ((pack size gap limit parts).closed.take k).flatten.Sublist parts := by
  have hfilter : (pack size gap limit parts).closed.flatten.Sublist parts := by
    rw [flatten_pack]
    exact List.filter_sublist
  exact (List.take_sublist _ _).flatten.trans hfilter

/-- **An algorithm that keeps the groups in another form packs alike**, if each of its steps
does so for parts that are well formed. -/
theorem foldl_render {σ : Type*} {render : Packing α → σ} {step : σ → α → σ} (good : α → Prop)
    (hstep : ∀ p part, (∀ other ∈ p.group, good other) → good part →
      step (render p) part = render (add size gap limit p part)) (hgood : ∀ part ∈ parts, good part) :
    parts.foldl step (render start) = render (pack size gap limit parts) := by
  induction parts using List.reverseRecOn with
  | nil => rfl
  | append_singleton parts part ih =>
    rw [List.forall_mem_append] at hgood
    rw [List.foldl_append, ih hgood.1, List.foldl_cons, List.foldl_nil,
      hstep _ _ (fun other hother => hgood.1 other (mem_of_mem_group hother)) (hgood.2 part (List.mem_singleton_self part)),
      pack, pack, List.foldl_append, List.foldl_cons, List.foldl_nil]

end Packing
