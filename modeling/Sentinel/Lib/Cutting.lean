import Sentinel.Lib.Text

/-!
# Cutting texts at characters

What splitting a text at a character finds, where trimming changes nothing, and which
numbers digits denote.

## Main definitions

* `Text.afterLast` — what follows the last of a character.
* `Text.splitWhitespace`, `Text.rsplitOnce` — cutting at white space, and at the last of a
  pattern.
* `Text.outside` — what stands outside brackets.
* `Text.IsNumber`, `Text.readNumber` — texts of decimal digits, and the number a text states.

## Main results

* `Text.splitOnce_eq_some_iff` — where a text is split.
* `Text.lines_flatMap` — lines are read back.
* `Text.enclosed_iff` — brackets are open where counting them finds some open.
* `Text.trim_eq_self` — a text without white space at its ends.
* `Text.parseBelow_of_isNumber` — digits are read as the number they denote, if it is small
  enough.
-/

namespace Text

variable {c : Char} {a b s t : List Char}

/-! ### Splitting at a character -/

/-- What stands before a text without the character stays before it. -/
theorem splitOnce_append_of_notMem (h : c ∉ a) :
    splitOnce [c] (a ++ s) = (splitOnce [c] s).map fun parts => (a ++ parts.1, parts.2) := by
  induction a with
  | nil => simp
  | cons d a ih =>
    rw [List.mem_cons, not_or] at h
    rw [List.cons_append, splitOnce, if_neg, ih h.2, Option.map_map]
    · rfl
    · simpa [List.isPrefixOf] using h.1

theorem splitOnce_cons_self : splitOnce [c] (c :: s) = some ([], s) := by
  rw [splitOnce, if_pos (by simp [List.isPrefixOf])]
  rfl

theorem splitOnce_append (h : c ∉ a) (b : List Char) : splitOnce [c] (a ++ c :: b) = some (a, b) := by
  rw [splitOnce_append_of_notMem h, splitOnce_cons_self, Option.map_some, List.append_nil]

/-- A text is split at a pattern it contains. -/
theorem isSome_splitOnce_iff {pattern : List Char} : (splitOnce pattern s).isSome = true ↔ pattern <:+: s := by
  induction s with
  | nil =>
    rw [splitOnce, List.infix_nil]
    split
    · next h => exact iff_of_true rfl h
    · next h => exact iff_of_false Bool.false_ne_true h
  | cons d s ih =>
    rw [splitOnce, List.infix_cons_iff, ← ih]
    split
    · next h => exact iff_of_true rfl (Or.inl (List.isPrefixOf_iff_prefix.mp h))
    · next h =>
      rw [Option.isSome_map]
      exact (or_iff_right fun hpre => h (List.isPrefixOf_iff_prefix.mpr hpre)).symm

theorem splitOnce_of_notMem (h : c ∉ s) : splitOnce [c] s = none := by
  have hsplit := @splitOnce_append_of_notMem c s [] h
  rwa [List.append_nil] at hsplit

/-- A text is split at the first of the characters. -/
theorem splitOnce_eq_some_iff : splitOnce [c] s = some (a, b) ↔ s = a ++ c :: b ∧ c ∉ a := by
  constructor
  · intro h
    by_cases hc : c ∈ s
    · obtain ⟨a', b', rfl, ha'⟩ := List.eq_append_cons_of_mem hc
      rw [splitOnce_append ha'] at h
      cases h
      exact ⟨rfl, ha'⟩
    · rw [splitOnce_of_notMem hc] at h
      cases h
  · rintro ⟨rfl, h⟩
    exact splitOnce_append h b

theorem splitOnce_eq_none_iff : splitOnce [c] s = none ↔ c ∉ s := by
  refine ⟨fun h hc => ?_, splitOnce_of_notMem⟩
  obtain ⟨a, b, rfl, ha⟩ := List.eq_append_cons_of_mem hc
  rw [splitOnce_append ha] at h
  cases h

/-- What is left behind the longest beginning. -/
theorem drop_length_takeWhile {α : Type*} (p : α → Bool) (l : List α) : l.drop (l.takeWhile p).length = l.dropWhile p := by
  have hsplit := @List.drop_left _ (l.takeWhile p) (l.dropWhile p)
  rwa [List.takeWhile_append_dropWhile] at hsplit

/-! ### Joining with a character -/

theorem intercalate_cons_of_ne_nil {ts : List (List Char)} (t : List Char) (h : ts ≠ []) :
    [c].intercalate (t :: ts) = t ++ c :: [c].intercalate ts := by
  rw [List.intercalate_cons_of_ne_nil h, List.append_assoc, List.singleton_append]

/-- Joined texts end with the last one. -/
theorem intercalate_concat_append (ts : List (List Char)) (a b : List Char) :
    [c].intercalate (ts ++ [a ++ b]) = [c].intercalate (ts ++ [a]) ++ b := by
  induction ts with
  | nil => simp
  | cons t ts ih =>
    rw [List.cons_append, List.cons_append, intercalate_cons_of_ne_nil t (by simp),
      intercalate_cons_of_ne_nil t (by simp), ih, List.append_assoc, List.cons_append]

/-! ### The last of the parts -/

/-- What follows the last of the characters, or the whole text. -/
def afterLast (c : Char) (s : List Char) : List Char := (s.reverse.takeWhile (· ≠ c)).reverse

theorem afterLast_of_notMem (h : c ∉ s) : afterLast c s = s := by
  unfold afterLast
  rw [List.takeWhile_eq_self_iff.mpr, List.reverse_reverse]
  intro d hd
  exact decide_eq_true fun heq => h (heq ▸ List.mem_reverse.mp hd)

theorem afterLast_append (a : List Char) (h : c ∉ b) : afterLast c (a ++ c :: b) = b := by
  unfold afterLast
  rw [List.reverse_append, List.reverse_cons, List.append_assoc, List.takeWhile_append_of_pos,
    List.singleton_append, List.takeWhile_cons_of_neg (by simp), List.append_nil, List.reverse_reverse]
  intro d hd
  exact decide_eq_true fun heq => h (heq ▸ List.mem_reverse.mp hd)

/-- A text with the character has a last one. -/
theorem exists_append_cons_of_mem (h : c ∈ s) : ∃ a b, s = a ++ c :: b ∧ c ∉ b := by
  obtain ⟨b, a, hsplit, hb⟩ := List.eq_append_cons_of_mem (List.mem_reverse.mpr h)
  refine ⟨a.reverse, b.reverse, ?_, fun hc => hb (List.mem_reverse.mp hc)⟩
  rw [← List.reverse_reverse s, hsplit]
  simp

/-- The last part is what follows the last of the characters. -/
theorem getLast?_splitOn (c : Char) (s : List Char) : (s.splitOn c).getLast? = some (afterLast c s) := by
  by_cases h : c ∈ s
  · obtain ⟨a, b, rfl, hb⟩ := exists_append_cons_of_mem h
    rw [List.splitOn_append_cons_self, List.splitOn_eq_singleton hb, List.getLast?_concat, afterLast_append a hb]
  · rw [List.splitOn_eq_singleton h, afterLast_of_notMem h, List.getLast?_singleton]

/-! ### White space and lines -/

/-- What stands in front of a separator stays with the first part. -/
theorem splitOnP_append {α : Type*} {p : α → Bool} {a : List α} (h : ∀ d ∈ a, p d = false) (s : List α) :
    (a ++ s).splitOnP p = (s.splitOnP p).modifyHead (a ++ ·) := by
  induction a with
  | nil =>
    rw [List.nil_append]
    cases s.splitOnP p <;> rfl
  | cons d a ih =>
    rw [List.forall_mem_cons] at h
    rw [List.cons_append, List.splitOnP_cons_eq_if_modifyHead, if_neg (by simp [h.1]), ih h.2,
      List.modifyHead_modifyHead]
    rfl

/-- The parts hold no separators. -/
theorem of_mem_splitOnP {α : Type*} {p : α → Bool} {part s : List α} (h : part ∈ s.splitOnP p) :
    ∀ d ∈ part, p d = false := by
  induction s generalizing part with
  | nil =>
    rw [List.splitOnP_nil, List.mem_singleton] at h
    subst h
    nofun
  | cons d s ih =>
    rw [List.splitOnP_cons_eq_if_modifyHead] at h
    by_cases hd : p d = true
    · rw [if_pos hd] at h
      rcases List.mem_cons.mp h with rfl | h
      · nofun
      · exact ih h
    · rw [if_neg hd] at h
      obtain ⟨first, parts, hparts⟩ := List.exists_cons_of_ne_nil (List.splitOnP_ne_nil p s)
      rw [hparts, List.modifyHead_cons] at h
      rcases List.mem_cons.mp h with rfl | h
      · exact List.forall_mem_cons.mpr ⟨by simpa using hd, ih (hparts ▸ List.mem_cons_self)⟩
      · exact ih (hparts ▸ List.mem_cons_of_mem _ h)

/-- The parts of a text between white space. -/
def splitWhitespace (s : List Char) : List (List Char) := (s.splitOnP isWhitespace).filter fun part => part ≠ []

theorem splitWhitespace_append (h : isWhitespace c = true) (a b : List Char) :
    splitWhitespace (a ++ c :: b) = splitWhitespace a ++ splitWhitespace b := by
  rw [splitWhitespace, List.splitOnP_append_cons a b h, List.filter_append]
  rfl

theorem splitWhitespace_of_forall (hne : s ≠ []) (h : ∀ d ∈ s, isWhitespace d = false) : splitWhitespace s = [s] := by
  rw [splitWhitespace, List.splitOnP_eq_singleton h]
  simp [hne]

theorem splitWhitespace_of_forall_space (h : ∀ d ∈ s, isWhitespace d = true) : splitWhitespace s = [] := by
  induction s with
  | nil => rfl
  | cons d s ih =>
    rw [← List.nil_append (d :: s), splitWhitespace_append (h d List.mem_cons_self),
      ih fun d' hd' => h d' (List.mem_cons_of_mem _ hd')]
    rfl

theorem of_mem_splitWhitespace {part : List Char} (h : part ∈ splitWhitespace s) :
    part ≠ [] ∧ ∀ d ∈ part, isWhitespace d = false := by
  obtain ⟨hmem, hne⟩ := List.mem_filter.mp h
  exact ⟨of_decide_eq_true hne, of_mem_splitOnP hmem⟩

/-- Lines that end with a line feed are read back. -/
theorem lines_flatMap {ls : List (List Char)} (h : ∀ l ∈ ls, '\n' ∉ l ∧ l.getLast? ≠ some '\r') :
    lines (ls.flatMap (· ++ ['\n'])) = ls := by
  have hsplit : (ls.flatMap (· ++ ['\n'])).splitOn '\n' = ls ++ [[]] := by
    induction ls with
    | nil => rfl
    | cons l ls ih =>
      rw [List.forall_mem_cons] at h
      rw [List.flatMap_cons, List.append_assoc, List.singleton_append,
        List.splitOn_append_cons_self_of_not_mem h.1.1, ih h.2, List.cons_append]
  have hstrip : ls.map stripReturn = ls := by
    conv_rhs => rw [← List.map_id ls]
    exact List.map_congr_left fun l hl => if_neg (h l hl).2
  unfold lines
  simp [hsplit, hstrip]

/-- A list is read back if every element of it is. -/
theorem filterMap_map_eq_map_iff {α β γ : Type*} {print : α → β} {read : β → Option γ} {value : α → γ} (l : List α) :
    (l.map print).filterMap read = l.map value ↔ ∀ x ∈ l, read (print x) = some (value x) := by
  induction l with
  | nil => simp
  | cons x l ih =>
    rw [List.map_cons, List.map_cons, List.filterMap_cons, List.forall_mem_cons]
    cases hread : read (print x) with
    | none =>
      -- fewer values are read than there are
      refine iff_of_false (fun h => ?_) (fun h => nomatch h.1)
      have hlength := List.length_filterMap_le read (l.map print)
      dsimp only at h
      rw [h, List.length_cons, List.length_map, List.length_map] at hlength
      omega
    | some y => rw [List.cons.injEq, ih, Option.some.injEq]

/-! ### The last of a pattern -/

/-- Split at the last occurrence of a pattern. -/
def rsplitOnce (pattern : List Char) : List Char → Option (List Char × List Char)
  | [] => if pattern = [] then some ([], []) else none
  | c :: s =>
    match rsplitOnce pattern s with
    | some parts => some (c :: parts.1, parts.2)
    | none => if pattern.isPrefixOf (c :: s) then some ([], (c :: s).drop pattern.length) else none

theorem rsplitOnce_append {pattern : List Char} (h : rsplitOnce pattern s = some (a, b)) (t : List Char) :
    rsplitOnce pattern (t ++ s) = some (t ++ a, b) := by
  induction t with
  | nil => exact h
  | cons c t ih => rw [List.cons_append, rsplitOnce, ih, List.cons_append]

theorem eq_of_rsplitOnce {pattern : List Char} : rsplitOnce pattern s = some (a, b) → s = a ++ (pattern ++ b) := by
  induction s generalizing a with
  | nil =>
    intro h
    rw [rsplitOnce] at h
    split at h
    · next hnil =>
      cases h
      rw [hnil]
      rfl
    · cases h
  | cons c s ih =>
    intro h
    rw [rsplitOnce] at h
    split at h
    · next parts hparts =>
      cases h
      rw [List.cons_append, ← ih hparts]
    · split at h
      · next hprefix =>
        obtain ⟨t, ht⟩ := List.isPrefixOf_iff_prefix.mp hprefix
        cases h
        rw [← ht, List.drop_left, List.nil_append]
      · cases h

theorem rsplitOnce_append_of_notMem (a : List Char) (h : c ∉ b) : rsplitOnce [c] (a ++ c :: b) = some (a, b) := by
  have hnone : rsplitOnce [c] b = none := by
    induction b with
    | nil => rfl
    | cons d b ih =>
      rw [List.mem_cons, not_or] at h
      rw [rsplitOnce, ih h.2]
      simp [List.isPrefixOf, h.1]
  have hlast : rsplitOnce [c] (c :: b) = some ([], b) := by
    rw [rsplitOnce, hnone]
    simp [List.isPrefixOf]
  have hsplit := rsplitOnce_append hlast a
  rwa [List.append_nil] at hsplit

theorem rsplitOnce_eq_none_iff {pattern : List Char} (hne : pattern ≠ []) :
    rsplitOnce pattern s = none ↔ ¬ pattern <:+: s := by
  induction s with
  | nil => simp [rsplitOnce, hne, List.infix_nil]
  | cons c s ih =>
    rw [rsplitOnce, List.infix_cons_iff, not_or]
    cases hsplit : rsplitOnce pattern s with
    | some parts =>
      rw [hsplit] at ih
      have hfound : pattern <:+: s := by
        by_contra h
        cases ih.mpr h
      simp [hfound]
    | none => simp [ih.mp hsplit]

/-! ### Brackets -/

section Brackets

variable {α : Type*} [DecidableEq α] (opening closing : α)

/-- What follows a beginning is enclosed if an end of it opens more brackets than it closes. -/
def Enclosed (before : List α) : Prop := ∃ t ∈ before.tails, t.count closing < t.count opening

instance (before : List α) : Decidable (Enclosed opening closing before) := by
  unfold Enclosed
  infer_instance

/-- What stands outside brackets, in a text behind a beginning. -/
def outsideFrom (before s : List α) : List α :=
  ((s.zip (s.inits.map (before ++ ·))).filter fun place =>
    place.1 ≠ opening ∧ place.1 ≠ closing ∧ ¬ Enclosed opening closing place.2).map Prod.fst

/-- What stands outside brackets. -/
def outside (s : List α) : List α := outsideFrom opening closing [] s

/-- How many brackets are open after one more element; one that was not opened is not closed. -/
def nesting (depth : ℕ) (a : α) : ℕ :=
  if a = opening then depth + 1 else if a = closing then depth - 1 else depth

variable {opening closing}

/-- How many brackets are open: the most that an end of the text opens and does not close. -/
theorem lt_foldl_nesting_iff (hne : opening ≠ closing) (s : List α) : ∀ k,
    k < s.foldl (nesting opening closing) 0 ↔ ∃ t ∈ s.tails, t.count closing + k < t.count opening := by
  simp only [List.mem_tails]
  induction s using List.reverseRecOn with
  | nil => simp
  | append_singleton s a ih =>
    intro k
    have hsuffix : (∃ t, t <:+ s ++ [a] ∧ t.count closing + k < t.count opening) ↔
        ∃ t, t <:+ s ∧ (t ++ [a]).count closing + k < (t ++ [a]).count opening := by
      simp only [List.suffix_concat_iff]
      constructor
      · rintro ⟨t, rfl | ⟨t, rfl, ht⟩, hlt⟩
        · cases hlt
        · exact ⟨t, ht, hlt⟩
      · rintro ⟨t, ht, hlt⟩
        exact ⟨_, Or.inr ⟨t, rfl, ht⟩, hlt⟩
    rw [hsuffix, List.foldl_concat]
    simp only [List.count_append, List.count_singleton, beq_iff_eq, nesting]
    by_cases hopening : a = opening
    · subst hopening
      rw [if_pos rfl, if_pos rfl, if_neg hne]
      cases k with
      | zero => exact iff_of_true (by omega) ⟨[], List.nil_suffix, by simp⟩
      | succ k =>
        rw [Nat.succ_lt_succ_iff, ih]
        exact exists_congr fun t => and_congr_right fun _ => by omega
    · by_cases hclosing : a = closing
      · subst hclosing
        rw [if_neg hopening, if_pos rfl, if_neg hopening, if_pos rfl, Nat.lt_sub_iff_add_lt, ih]
        exact exists_congr fun t => and_congr_right fun _ => by omega
      · rw [if_neg hopening, if_neg hclosing, if_neg hopening, if_neg hclosing, ih]
        exact exists_congr fun t => and_congr_right fun _ => by omega

theorem enclosed_iff (hne : opening ≠ closing) (before : List α) :
    Enclosed opening closing before ↔ before.foldl (nesting opening closing) 0 ≠ 0 := by
  rw [Nat.ne_zero_iff_zero_lt, lt_foldl_nesting_iff hne]
  rfl

theorem outsideFrom_cons (before s : List α) (a : α) :
    outsideFrom opening closing before (a :: s) =
      if a ≠ opening ∧ a ≠ closing ∧ ¬ Enclosed opening closing before
      then a :: outsideFrom opening closing (before ++ [a]) s else outsideFrom opening closing (before ++ [a]) s := by
  have hinits : (a :: s).inits.map (before ++ ·) = before :: s.inits.map (before ++ [a] ++ ·) := by
    simp [Function.comp_def]
  unfold outsideFrom
  rw [hinits, List.zip_cons_cons, List.filter_cons]
  split
  · next h => rw [if_pos (of_decide_eq_true h), List.map_cons]
  · next h => rw [if_neg fun hkept => h (decide_eq_true hkept)]

end Brackets

/-! ### Trimming -/

theorem dropWhile_eq_self {p : Char → Bool} (h : ∀ d ∈ s.head?, p d = false) : s.dropWhile p = s := by
  cases s with
  | nil => rfl
  | cons d s => rw [List.dropWhile_cons_of_neg (by simp [h d rfl])]

/-- What is not dropped is kept. -/
theorem mem_dropWhile_of_mem {p : Char → Bool} (h : c ∈ s) (hc : p c = false) : c ∈ s.dropWhile p := by
  rw [← @List.takeWhile_append_dropWhile _ p s, List.mem_append] at h
  refine h.resolve_left fun hdropped => ?_
  rw [List.mem_takeWhile_imp hdropped] at hc
  cases hc

/-- A text without white space at its ends. -/
theorem mem_trim_of_mem (h : c ∈ s) (hc : isWhitespace c = false) : c ∈ trim s := by
  unfold trim
  rw [List.mem_reverse]
  exact mem_dropWhile_of_mem (List.mem_reverse.mpr (mem_dropWhile_of_mem h hc)) hc

theorem trim_eq_self (hhead : ∀ d ∈ s.head?, isWhitespace d = false)
    (hlast : ∀ d ∈ s.getLast?, isWhitespace d = false) : trim s = s := by
  unfold trim
  rw [dropWhile_eq_self hhead, dropWhile_eq_self (by rwa [List.head?_reverse]), List.reverse_reverse]

/-- A text without white space. -/
theorem trim_of_forall (h : ∀ d ∈ s, isWhitespace d = false) : trim s = s :=
  trim_eq_self (fun d hd => h d (List.mem_of_mem_head? hd)) fun d hd => h d (List.mem_of_mem_getLast? hd)

/-- White space at the end does not count. -/
theorem trim_append_of_forall (h : ∀ d ∈ t, isWhitespace d = true) : trim (s ++ t) = trim s := by
  unfold trim
  rw [List.dropWhile_append]
  split
  · next hempty =>
    rw [List.isEmpty_iff.mp hempty, List.dropWhile_eq_nil_iff.mpr h]
  · rw [List.reverse_append, List.dropWhile_append_of_pos fun d hd => h d (List.mem_reverse.mp hd)]

/-! ### Digits -/

/-- A text of decimal digits. -/
def IsNumber (s : List Char) : Prop := s ≠ [] ∧ ∀ d ∈ s, d.isDigit = true

theorem toNat_of_isDigit (h : c.isDigit = true) : 48 ≤ c.toNat ∧ c.toNat ≤ 57 := by
  simp only [Char.isDigit, Bool.and_eq_true, decide_eq_true_eq] at h
  exact h

theorem trim_append_left (h : ∀ d ∈ t, isWhitespace d = true) : trim (t ++ s) = trim s := by
  unfold trim
  rw [List.dropWhile_append_of_pos h]

theorem isWhitespace_of_isDigit (h : c.isDigit = true) : isWhitespace c = false := by
  have hrange := toNat_of_isDigit h
  simp only [isWhitespace, Bool.or_eq_false_iff, Bool.and_eq_false_iff, decide_eq_false_iff_not]
  omega

theorem ne_of_isDigit (h : c.isDigit = true) {d : Char} (hd : d.isDigit = false) : c ≠ d := by
  rintro rfl
  rw [h] at hd
  cases hd

theorem IsNumber.trim (h : IsNumber s) : trim s = s := trim_of_forall fun d hd => isWhitespace_of_isDigit (h.2 d hd)

theorem IsNumber.notMem (h : IsNumber s) (hc : c.isDigit = false) : c ∉ s := fun hmem => ne_of_isDigit (h.2 c hmem) hc rfl

/-- Digits are read as the number they denote, if that is small enough. -/
theorem parseBelow_of_isNumber (h : IsNumber s) (bound : ℕ) :
    parseBelow bound s = if ofDigits s < bound then some (ofDigits s) else none := by
  have hall : s.all Char.isDigit = true := List.all_eq_true.mpr h.2
  have hplus : ∀ rest, s ≠ '+' :: rest := by
    rintro rest rfl
    exact h.notMem (c := '+') rfl List.mem_cons_self
  unfold parseBelow
  split
  · next rest => exact absurd rfl (hplus rest)
  · simp [h.1, hall]

/-- The number a text states, a plus sign before it or not. -/
def readNumber (s : List Char) : Option ℕ :=
  let digits := match s with
    | '+' :: rest => rest
    | s => s
  if digits ≠ [] ∧ digits.all Char.isDigit then some (ofDigits digits) else none

/-- A number is read if it is small enough. -/
theorem parseBelow_eq_filter (bound : ℕ) (s : List Char) :
    parseBelow bound s = (readNumber s).filter (· < bound) := by
  unfold parseBelow readNumber
  dsimp only
  split_ifs with hbelow hnumber hnumber
  · rw [Option.filter_some]
    exact (if_pos (decide_eq_true hbelow.2.2)).symm
  · exact absurd ⟨hbelow.1, hbelow.2.1⟩ hnumber
  · rw [Option.filter_some, if_neg]
    intro hlt
    exact hbelow ⟨hnumber.1, hnumber.2, of_decide_eq_true hlt⟩
  · rfl

/-- What is read as a number has digits only, after a plus sign or not. -/
theorem digits_of_parseBelow {bound n : ℕ} (h : parseBelow bound s = some n) :
    ∃ digits, (s = '+' :: digits ∨ s = digits) ∧ ∀ d ∈ digits, d.isDigit = true := by
  unfold parseBelow at h
  dsimp only at h
  split_ifs at h with hall
  refine ⟨_, ?_, List.all_eq_true.mp hall.2.1⟩
  split
  · exact Or.inl rfl
  · exact Or.inr rfl

theorem isDigit_of_mem_padded {width n : ℕ} (h : c ∈ padded width n) : c.isDigit = true := by
  unfold padded at h
  rcases List.mem_append.mp h with h | h
  · rw [List.eq_of_mem_replicate h]
    rfl
  · exact Nat.isDigit_of_mem_toDigits (by omega) (by omega) h

theorem isNumber_padded (width n : ℕ) : IsNumber (padded width n) :=
  ⟨fun h => Nat.toDigits_ne_nil (List.append_eq_nil_iff.mp h).2, fun _ => isDigit_of_mem_padded⟩

end Text

/-! ### Splitting at what is not there -/

namespace String

theorem splitOnAux_of_notMem {c : Char} (l r : List Char) (h : c ∉ r) :
    (ofList (l ++ r)).splitOnAux (ofList [c]) 0 ⟨utf8Len l⟩ 0 [] = [ofList (l ++ r)] := by
  induction r generalizing l with
  | nil =>
    have hextract := extract_of_valid [] l []
    rw [splitOnAux, if_pos (by simp)]
    simpa using hextract
  | cons d r ih =>
    obtain ⟨hd, hr⟩ := List.ne_and_not_mem_of_not_mem_cons h
    have hend : ¬ Pos.Raw.atEnd (ofList (l ++ d :: r)) ⟨utf8Len l⟩ = true := by
      rw [atEnd_of_valid]
      exact List.cons_ne_nil _ _
    have hget : Pos.Raw.get (ofList (l ++ d :: r)) ⟨utf8Len l⟩ = d := get_of_valid l (d :: r)
    have hsep : Pos.Raw.get (ofList [c]) 0 = c := get_of_valid [] [c]
    have hnext : Pos.Raw.next (ofList (l ++ d :: r)) (Pos.Raw.unoffsetBy ⟨utf8Len l⟩ 0) = ⟨utf8Len (l ++ [d])⟩ := by
      simpa using next_of_valid l d r
    rw [splitOnAux, if_neg hend, if_neg (by rw [hget, hsep, beq_iff_eq]; exact Ne.symm hd), hnext]
    simpa using ih (l ++ [d]) hr

/-- A text without a character is not split at it. -/
theorem splitOn_of_notMem {c : Char} {s : String} (h : c ∉ s.toList) : s.splitOn (ofList [c]) = [s] := by
  rw [splitOn, if_neg (by simp)]
  simpa using splitOnAux_of_notMem [] s.toList h

end String
