import Sentinel.Integrations.Slurm.Hostlist
import Sentinel.Lib.Collections
import Sentinel.Lib.Cutting

/-!
# What hostlists expand to

An element of a hostlist is texts and groups of brackets in turn, and stands for every
choice of one number from each group.  The code expands the first group, puts the texts
together again and goes on with the next one, so a group that is not understood is found
out only when the groups before it are expanded already.

## Main definitions

* `HostRange`, `HostElement` — hostlists as Slurm means them, and what they stand for.
* `groups`, `expandGroups` — the groups that the code finds, and what it makes of them.
* `Full` — an element is expanded in full.
* `Uniform` — an element whose groups are understood all or from the first on not.

## Main results

* `expandElement_eq` — the code expands group by group.
* `whole_iff` — an element is expanded in full or kept as it is, exactly if it is uniform.
* `expand_printed` — a list that Slurm prints expands to what it stands for.
* `expandsWhole_iff` — **exactly which hostlists are never half-expanded.**
-/

namespace Sentinel

namespace Hostlist

/-! ### Hostlists as Slurm means them -/

/-- A part of a group of brackets. -/
inductive HostRange
  /-- A number, as it is written. -/
  | single (digits : List Char)
  /-- The numbers from one to another. -/
  | span (start stop : List Char)

namespace HostRange

/-- The parts are numbers, and the bounds of a span in order. -/
def Valid : HostRange → Prop
  | single digits => Text.IsNumber digits
  | span start stop => Text.IsNumber start ∧ Text.IsNumber stop ∧ Text.ofDigits start ≤ Text.ofDigits stop

/-- A span is no longer than the guard lets through. -/
def Guarded : HostRange → Prop
  | single _ => True
  | span start stop => Text.ofDigits stop - Text.ofDigits start ≤ 100000

/-- The bounds of a span fit a machine word. -/
def Fits : HostRange → Prop
  | single _ => True
  | span start stop => Text.ofDigits start < 2 ^ 64 ∧ Text.ofDigits stop < 2 ^ 64

/-- The numbers of a part, those of a span padded to the width of its left bound. -/
def names : HostRange → List (List Char)
  | single digits => [digits]
  | span start stop =>
    (List.range' (Text.ofDigits start) (Text.ofDigits stop - Text.ofDigits start + 1)).map
      (Text.padded start.length)

/-- A part as it is printed. -/
def print : HostRange → List Char
  | single digits => digits
  | span start stop => start ++ '-' :: stop

/-- A text is read as a part; white space around the numbers does not count. -/
def Reads (text : List Char) : HostRange → Prop
  | single digits => Text.trim text = digits
  | span start stop => ∃ a b, Text.trim text = a ++ '-' :: b ∧ Text.trim a = start ∧ Text.trim b = stop

variable {r : HostRange}

theorem names_ne_nil (r : HostRange) : r.names ≠ [] := by
  cases r with
  | single digits => exact List.cons_ne_nil _ _
  | span start stop => simp [names]

theorem isNumber_of_mem_names (h : r.Valid) {name : List Char} (hname : name ∈ r.names) : Text.IsNumber name := by
  cases r with
  | single digits =>
    rw [List.mem_singleton.mp hname]
    exact h
  | span start stop =>
    obtain ⟨n, -, rfl⟩ := List.mem_map.mp hname
    exact Text.isNumber_padded _ n

end HostRange

/-- Groups of brackets, each with the text before it. -/
abbrev HostGroups := List (List Char × List HostRange)

/-- Every choice of one number from each group; those of the last one vary first. -/
def product : HostGroups → List Char → List (List Char)
  | [], tail => [tail]
  | (before, ranges) :: groups, tail =>
    (ranges.flatMap HostRange.names).flatMap fun middle =>
      (product groups tail).map fun rest => before ++ middle ++ rest

/-- A text is read as groups of brackets, and what stands after the last one. -/
def ReadsGroups : HostGroups → List Char → List Char → Prop
  | [], tail, text => text = tail
  | (before, ranges) :: groups, tail, text => ∃ body rest, text = before ++ '[' :: (body ++ ']' :: rest) ∧
      '[' ∉ before ∧ ']' ∉ body ∧ List.Forall₂ HostRange.Reads (body.splitOn ',') ranges ∧
      ReadsGroups groups tail rest

/-- No bracket is left of a name. -/
def Bare (name : List Char) : Prop := '[' ∉ name ∧ ']' ∉ name

/-- An element is expanded in full: to the product of its groups, with no bracket left. -/
def Full (text : List Char) (names : List (List Char)) : Prop :=
  ∃ groups tail, ReadsGroups groups tail text ∧ (∀ g ∈ groups, ∀ r ∈ g.2, r.Valid) ∧
    names = product groups tail ∧ ∀ name ∈ names, Bare name

/-! ### The groups that the code finds -/

/-- The groups of an element, each with the text before it, and what stands after the last
one. -/
def groups : ℕ → List Char → List (List Char × List Char) × List Char
  | 0, element => ([], element)
  | rounds + 1, element =>
    match Text.splitOnce ['['] element with
    | none => ([], element)
    | some (start, rest) =>
      match Text.splitOnce [']'] rest with
      | none => ([], element)
      | some (body, suffix) => ((start, body) :: (groups rounds suffix).1, (groups rounds suffix).2)

/-- The element that groups are found in. -/
def assemble : List (List Char × List Char) → List Char → List Char
  | [], tail => tail
  | (before, body) :: groups, tail => before ++ '[' :: (body ++ ']' :: assemble groups tail)

/-- What is between brackets is understood. -/
def Understood (body : List Char) : Prop :=
  ∀ part ∈ body.splitOn ',', (expandRange (Text.trim part)).isSome = true

instance (body : List Char) : Decidable (Understood body) :=
  inferInstanceAs (Decidable (∀ part ∈ body.splitOn ',', _))

/-- The numbers of a group. -/
def numbers (body : List Char) : Option (List (List Char)) :=
  ((body.splitOn ',').mapM fun range => expandRange (Text.trim range)).map List.flatten

/-- What the code makes of the groups: it goes as far as it understands them. -/
def expandGroups : List (List Char × List Char) → List Char → List (List Char)
  | [], tail => [tail]
  | (before, body) :: groups, tail =>
    match numbers body with
    | none => [assemble ((before, body) :: groups) tail]
    | some middles => middles.flatMap fun middle =>
      (expandGroups groups tail).map fun rest => before ++ middle ++ rest

section Found

variable {text tail body : List Char} {rounds : ℕ} {gs : List (List Char × List Char)}

theorem assemble_groups (rounds : ℕ) :
    ∀ text : List Char, assemble (groups rounds text).1 (groups rounds text).2 = text := by
  induction rounds with
  | zero => intro text; rfl
  | succ rounds ih =>
    intro text
    rw [groups]
    split
    · rfl
    · next start rest hopen =>
      obtain ⟨rfl, -⟩ := Text.splitOnce_eq_some_iff.mp hopen
      split
      · rfl
      · next body suffix hclose =>
        obtain ⟨rfl, -⟩ := Text.splitOnce_eq_some_iff.mp hclose
        rw [assemble, ih]

/-- The first brackets delimit a group. -/
theorem delimited_groups (rounds : ℕ) :
    ∀ text : List Char, ∀ g ∈ (groups rounds text).1, '[' ∉ g.1 ∧ ']' ∉ g.2 := by
  induction rounds with
  | zero => intro text g hg; cases hg
  | succ rounds ih =>
    intro text
    rw [groups]
    split
    · exact fun g hg => by cases hg
    · next start rest hopen =>
      split
      · exact fun g hg => by cases hg
      · next body suffix hclose =>
        rw [List.forall_mem_cons]
        exact ⟨⟨(Text.splitOnce_eq_some_iff.mp hopen).2, (Text.splitOnce_eq_some_iff.mp hclose).2⟩, ih suffix⟩

theorem groups_of_notMem (h : '[' ∉ text) : groups rounds text = ([], text) := by
  cases rounds with
  | zero => rfl
  | succ rounds => rw [groups, Text.splitOnce_of_notMem h]

/-- More rounds than there are brackets find nothing more. -/
theorem groups_eq_of_le : ∀ {rounds rounds' : ℕ} {text : List Char}, text.count '[' ≤ rounds →
    text.count '[' ≤ rounds' → groups rounds text = groups rounds' text := by
  intro rounds
  induction rounds with
  | zero =>
    intro rounds' text h _
    have hnone : '[' ∉ text := List.count_eq_zero.mp (Nat.le_zero.mp h)
    rw [groups_of_notMem hnone, groups_of_notMem hnone]
  | succ rounds ih =>
    intro rounds' text h h'
    cases hopen : Text.splitOnce ['['] text with
    | none =>
      have hnone := Text.splitOnce_eq_none_iff.mp hopen
      rw [groups_of_notMem hnone, groups_of_notMem hnone]
    | some parts =>
      obtain ⟨start, rest⟩ := parts
      obtain ⟨rfl, -⟩ := Text.splitOnce_eq_some_iff.mp hopen
      rw [List.count_append, List.count_cons_self] at h h'
      cases rounds' with
      | zero => omega
      | succ rounds' =>
        rw [groups, groups, hopen]
        dsimp only
        cases hclose : Text.splitOnce [']'] rest with
        | none => rfl
        | some parts =>
          obtain ⟨body, suffix⟩ := parts
          obtain ⟨rfl, -⟩ := Text.splitOnce_eq_some_iff.mp hclose
          rw [List.count_append, List.count_cons_of_ne (by decide)] at h h'
          dsimp only
          rw [@ih rounds' suffix (by omega) (by omega)]

/-- The groups found in what is put together are these. -/
theorem groups_assemble (hgs : ∀ g ∈ gs, '[' ∉ g.1 ∧ ']' ∉ g.2) (htail : '[' ∉ tail) (hrounds : gs.length ≤ rounds) :
    groups rounds (assemble gs tail) = (gs, tail) := by
  induction gs generalizing rounds with
  | nil => exact groups_of_notMem htail
  | cons g gs ih =>
    obtain ⟨before, body⟩ := g
    rw [List.forall_mem_cons] at hgs
    obtain ⟨⟨hbefore, hbody⟩, hgs⟩ := hgs
    rw [List.length_cons] at hrounds
    obtain ⟨rounds, rfl⟩ := Nat.exists_eq_add_of_lt (Nat.lt_of_lt_of_le (Nat.zero_lt_succ _) hrounds)
    rw [Nat.zero_add] at hrounds ⊢
    rw [assemble, groups, Text.splitOnce_append hbefore]
    dsimp only
    rw [Text.splitOnce_append hbody]
    dsimp only
    rw [ih hgs (by omega)]

/-! ### What a group stands for -/

/-- What the code understands is a part, and it finds the numbers of it. -/
theorem reads_of_expandRange {part : List Char} {values : List (List Char)}
    (h : expandRange (Text.trim part) = some values) :
    ∃ r : HostRange, r.Reads part ∧ r.Valid ∧ r.names = values := by
  unfold expandRange at h
  split at h
  · next start stop hsplit =>
    obtain ⟨hpart, -⟩ := Text.splitOnce_eq_some_iff.mp hsplit
    dsimp only at h
    split at h
    · cases h
    · next hdigits =>
      simp only [not_or, not_not] at hdigits
      obtain ⟨hstart, hstop, hallStart, hallStop⟩ := hdigits
      have hstartNumber : Text.IsNumber (Text.trim start) := ⟨hstart, List.all_eq_true.mp hallStart⟩
      have hstopNumber : Text.IsNumber (Text.trim stop) := ⟨hstop, List.all_eq_true.mp hallStop⟩
      rw [Text.parseBelow_of_isNumber hstartNumber, Text.parseBelow_of_isNumber hstopNumber] at h
      refine ⟨.span (Text.trim start) (Text.trim stop), ⟨start, stop, hpart, rfl, rfl⟩, ⟨hstartNumber, hstopNumber, ?_⟩, ?_⟩
      all_goals
        split at h <;> split at h
        all_goals simp at h
      · omega
      · exact h.2
  · split at h
    · next hdigits =>
      cases h
      exact ⟨.single (Text.trim part), rfl, ⟨hdigits.1, List.all_eq_true.mp hdigits.2⟩, rfl⟩
    · cases h

theorem numbers_eq_none_iff : numbers body = none ↔ ¬ Understood body := by
  unfold numbers Understood
  rw [Option.map_eq_none_iff, ← Option.not_isSome_iff_eq_none, List.isSome_mapM_iff]

/-- A group that is understood is read as parts, and stands for their numbers. -/
theorem reads_of_numbers {middles : List (List Char)} (h : numbers body = some middles) :
    ∃ ranges : List HostRange, List.Forall₂ HostRange.Reads (body.splitOn ',') ranges ∧
      (∀ r ∈ ranges, r.Valid) ∧ ranges.flatMap HostRange.names = middles := by
  obtain ⟨values, hvalues, rfl⟩ := Option.map_eq_some_iff.mp h
  rw [List.mapM_eq_some_iff] at hvalues
  clear h
  generalize body.splitOn ',' = parts at hvalues ⊢
  induction parts generalizing values with
  | nil =>
    obtain rfl : values = [] := List.map_eq_nil_iff.mp hvalues.symm
    exact ⟨[], .nil, nofun, rfl⟩
  | cons part parts ih =>
    cases values with
    | nil => cases hvalues
    | cons value values =>
      rw [List.map_cons, List.map_cons, List.cons.injEq] at hvalues
      obtain ⟨r, hreads, hvalid, rfl⟩ := reads_of_expandRange hvalues.1
      obtain ⟨ranges, hrest, hall, hnames⟩ := ih values hvalues.2
      refine ⟨r :: ranges, .cons hreads hrest, List.forall_mem_cons.mpr ⟨hvalid, hall⟩, ?_⟩
      rw [List.flatMap_cons, hnames, List.flatten_cons]

/-- The numbers of a group are numbers, and there are some. -/
theorem isNumber_of_numbers {middles : List (List Char)} (h : numbers body = some middles) :
    middles ≠ [] ∧ ∀ middle ∈ middles, Text.IsNumber middle := by
  obtain ⟨ranges, hreads, hvalid, rfl⟩ := reads_of_numbers h
  constructor
  · cases ranges with
    | nil => exact absurd (List.forall₂_nil_right_iff.mp hreads) (List.splitOn_ne_nil _ _)
    | cons r ranges => exact fun hnil => r.names_ne_nil (List.append_eq_nil_iff.mp hnil).1
  · intro middle hmiddle
    obtain ⟨r, hr, hname⟩ := List.mem_flatMap.mp hmiddle
    exact HostRange.isNumber_of_mem_names (hvalid r hr) hname

/-! ### The code expands group by group -/

/-- **What the code does**: with a text before it, an element is expanded group by group. -/
theorem expandElement_append (rounds : ℕ) : ∀ {before : List Char}, '[' ∉ before → ∀ text : List Char,
    expandElement rounds (before ++ text) =
      (expandGroups (groups rounds text).1 (groups rounds text).2).map (before ++ ·) := by
  induction rounds with
  | zero => intro before _ text; rfl
  | succ rounds ih =>
    intro before hbefore text
    rw [expandElement, Text.splitOnce_append_of_notMem hbefore, groups]
    cases hopen : Text.splitOnce ['['] text with
    | none => rfl
    | some parts =>
      obtain ⟨start, rest⟩ := parts
      obtain ⟨rfl, hstart⟩ := Text.splitOnce_eq_some_iff.mp hopen
      dsimp only [Option.map_some]
      cases hclose : Text.splitOnce [']'] rest with
      | none => rfl
      | some parts =>
        obtain ⟨body, suffix⟩ := parts
        obtain ⟨rfl, -⟩ := Text.splitOnce_eq_some_iff.mp hclose
        dsimp only
        rw [expandGroups]
        cases hnumbers : (body.splitOn ',').mapM fun range => expandRange (Text.trim range) with
        | none =>
          rw [numbers, hnumbers]
          dsimp only [Option.map_none]
          rw [assemble, assemble_groups]
          rfl
        | some values =>
          have hmiddles : numbers body = some values.flatten := by rw [numbers, hnumbers, Option.map_some]
          rw [hmiddles]
          dsimp only
          rw [List.map_flatMap]
          refine List.flatMap_congr fun middle hmiddle => ?_
          have hmiddle := ((isNumber_of_numbers hmiddles).2 middle hmiddle).notMem (c := '[') rfl
          -- the texts before the next group are put together
          have hnext : '[' ∉ before ++ start ++ middle := by
            simp only [List.mem_append, not_or]
            exact ⟨⟨hbefore, hstart⟩, hmiddle⟩
          rw [ih hnext, List.map_map]
          simp only [Function.comp_def, List.append_assoc]

theorem expandElement_eq (rounds : ℕ) (text : List Char) :
    expandElement rounds text = expandGroups (groups rounds text).1 (groups rounds text).2 := by
  have h := @expandElement_append rounds [] List.not_mem_nil text
  rwa [List.nil_append, List.map_congr_left (fun name _ => List.nil_append name), List.map_id'] at h

/-- The names of an element. -/
def namesOf (element : List Char) : List (List Char) := expandElement (element.count '[') element

/-- More rounds expand nothing more. -/
theorem expandElement_of_le (h : text.count '[' ≤ rounds) : expandElement rounds text = namesOf text := by
  rw [namesOf, expandElement_eq, expandElement_eq, groups_eq_of_le h le_rfl]

theorem length_le_count (gs : List (List Char × List Char)) (tail : List Char) :
    gs.length ≤ (assemble gs tail).count '[' := by
  induction gs with
  | nil => exact Nat.zero_le _
  | cons g gs ih =>
    obtain ⟨before, body⟩ := g
    rw [assemble, List.count_append, List.count_cons_self, List.count_append, List.count_cons_of_ne (by decide),
      List.length_cons]
    omega

/-! ### In full, or as it is -/

theorem expandGroups_of_understood {before body : List Char} (h : Understood body) :
    ∃ middles, numbers body = some middles ∧ expandGroups ((before, body) :: gs) tail =
      middles.flatMap fun middle => (expandGroups gs tail).map fun rest => before ++ middle ++ rest := by
  cases hnumbers : numbers body with
  | none => exact absurd h (numbers_eq_none_iff.mp hnumbers)
  | some middles => exact ⟨middles, rfl, by rw [expandGroups, hnumbers]⟩

theorem expandGroups_of_not_understood {before body : List Char} (h : ¬ Understood body) :
    expandGroups ((before, body) :: gs) tail = [assemble ((before, body) :: gs) tail] := by
  rw [expandGroups, numbers_eq_none_iff.mpr h]

theorem expandGroups_ne_nil (gs : List (List Char × List Char)) (tail : List Char) : expandGroups gs tail ≠ [] := by
  induction gs with
  | nil => exact List.cons_ne_nil _ _
  | cons g gs ih =>
    obtain ⟨before, body⟩ := g
    by_cases h : Understood body
    · obtain ⟨middles, hmiddles, hexpand⟩ := @expandGroups_of_understood tail gs before body h
      obtain ⟨middle, hmiddle⟩ := List.exists_mem_of_ne_nil _ (isNumber_of_numbers hmiddles).1
      obtain ⟨rest, hrest⟩ := List.exists_mem_of_ne_nil _ ih
      rw [hexpand]
      exact List.ne_nil_of_mem (List.mem_flatMap.mpr ⟨middle, hmiddle, List.mem_map_of_mem hrest⟩)
    · rw [expandGroups_of_not_understood h]
      exact List.cons_ne_nil _ _

/-- Expanding leaves no more brackets than there are, and fewer if the first group is
understood. -/
theorem count_of_mem_expandGroups (hgs : ∀ g ∈ gs, '[' ∉ g.1) :
    ∀ name ∈ expandGroups gs tail, name.count '[' ≤ (assemble gs tail).count '[' ∧
      ∀ g ∈ gs.head?, Understood g.2 → name.count '[' < (assemble gs tail).count '[' := by
  induction gs with
  | nil =>
    intro name hname
    rw [List.mem_singleton.mp hname]
    exact ⟨le_rfl, nofun⟩
  | cons g gs ih =>
    obtain ⟨before, body⟩ := g
    rw [List.forall_mem_cons] at hgs
    intro name hname
    by_cases h : Understood body
    · obtain ⟨middles, hmiddles, hexpand⟩ := @expandGroups_of_understood tail gs before body h
      rw [hexpand] at hname
      obtain ⟨middle, hmiddle, hname⟩ := List.mem_flatMap.mp hname
      obtain ⟨rest, hrest, rfl⟩ := List.mem_map.mp hname
      have hnone : middle.count '[' = 0 :=
        List.count_eq_zero.mpr (((isNumber_of_numbers hmiddles).2 middle hmiddle).notMem (c := '[') rfl)
      have hle := (ih hgs.2 rest hrest).1
      have hlt : (before ++ middle ++ rest).count '[' < (assemble ((before, body) :: gs) tail).count '[' := by
        simp only [assemble, List.count_append, List.count_cons_self, hnone]
        rw [List.count_cons_of_ne (by decide)]
        omega
      exact ⟨hlt.le, fun _ _ _ => hlt⟩
    · rw [expandGroups_of_not_understood h] at hname
      rw [List.mem_singleton.mp hname]
      refine ⟨le_rfl, fun g hg hunderstood => ?_⟩
      cases hg
      exact absurd hunderstood h

/-- The groups are understood all, and no bracket stands outside of them. -/
def AllUnderstood (gs : List (List Char × List Char)) (tail : List Char) : Prop :=
  (∀ g ∈ gs, Understood g.2 ∧ ']' ∉ g.1) ∧ Bare tail

/-- Where no bracket is left, all groups are understood. -/
theorem allUnderstood_of_bare (h : ∀ name ∈ expandGroups gs tail, Bare name) : AllUnderstood gs tail := by
  induction gs with
  | nil => exact ⟨nofun, h tail (List.mem_singleton.mpr rfl)⟩
  | cons g gs ih =>
    obtain ⟨before, body⟩ := g
    by_cases hbody : Understood body
    · obtain ⟨middles, hmiddles, hexpand⟩ := @expandGroups_of_understood tail gs before body hbody
      obtain ⟨middle, hmiddle⟩ := List.exists_mem_of_ne_nil _ (isNumber_of_numbers hmiddles).1
      obtain ⟨rest, hrest⟩ := List.exists_mem_of_ne_nil _ (expandGroups_ne_nil gs tail)
      have hbare : ∀ rest ∈ expandGroups gs tail, Bare (before ++ middle ++ rest) := by
        intro rest hrest
        refine h _ ?_
        rw [hexpand]
        exact List.mem_flatMap.mpr ⟨middle, hmiddle, List.mem_map_of_mem hrest⟩
      obtain ⟨hall, htail⟩ := ih fun rest hrest =>
        ⟨fun hmem => (hbare rest hrest).1 (List.mem_append_right _ hmem),
          fun hmem => (hbare rest hrest).2 (List.mem_append_right _ hmem)⟩
      refine ⟨List.forall_mem_cons.mpr ⟨⟨hbody, fun hmem => ?_⟩, hall⟩, htail⟩
      exact (hbare rest hrest).2 (List.mem_append_left _ (List.mem_append_left _ hmem))
    · rw [expandGroups_of_not_understood hbody] at h
      refine absurd (h _ (List.mem_singleton.mpr rfl)).1 (not_not.mpr ?_)
      exact List.mem_append_right _ List.mem_cons_self

/-- Where all groups are understood, they are expanded to their product. -/
theorem full_of_allUnderstood (hgs : ∀ g ∈ gs, '[' ∉ g.1 ∧ ']' ∉ g.2) (h : AllUnderstood gs tail) :
    Full (assemble gs tail) (expandGroups gs tail) := by
  obtain ⟨hall, htail⟩ := h
  induction gs with
  | nil =>
    refine ⟨[], tail, rfl, nofun, rfl, fun name hname => ?_⟩
    rw [List.mem_singleton.mp hname]
    exact htail
  | cons g gs ih =>
    obtain ⟨before, body⟩ := g
    rw [List.forall_mem_cons] at hgs hall
    obtain ⟨groups, tail', hreads, hvalid, hproduct, hbare⟩ := ih hgs.2 hall.2
    obtain ⟨middles, hmiddles, hexpand⟩ := @expandGroups_of_understood tail gs before body hall.1.1
    obtain ⟨ranges, hranges, hrangesValid, rfl⟩ := reads_of_numbers hmiddles
    refine ⟨(before, ranges) :: groups, tail', ⟨body, _, rfl, hgs.1.1, hgs.1.2, hranges, hreads⟩,
      List.forall_mem_cons.mpr ⟨hrangesValid, hvalid⟩, ?_, ?_⟩
    · rw [hexpand, product, hproduct]
    · rw [hexpand]
      intro name hname
      obtain ⟨middle, hmiddle, hname⟩ := List.mem_flatMap.mp hname
      obtain ⟨rest, hrest, rfl⟩ := List.mem_map.mp hname
      have hnumber := (isNumber_of_numbers hmiddles).2 middle hmiddle
      constructor
      · simp only [List.mem_append, not_or]
        exact ⟨⟨hgs.1.1, hnumber.notMem rfl⟩, (hbare rest hrest).1⟩
      · simp only [List.mem_append, not_or]
        exact ⟨⟨hall.1.2, hnumber.notMem rfl⟩, (hbare rest hrest).2⟩

/-- The first group of an element is not understood, or all of them are and no bracket
stands outside of them. -/
def Uniform (element : List Char) : Prop :=
  let found := groups (element.count '[') element
  (∀ g ∈ found.1.head?, ¬ Understood g.2) ∨ AllUnderstood found.1 found.2

/-- **An element is expanded in full or kept as it is, exactly if it is uniform.** -/
theorem whole_iff (element : List Char) :
    namesOf element = [element] ∨ Full element (namesOf element) ↔ Uniform element := by
  have htext := assemble_groups (element.count '[') element
  have hdelimited := delimited_groups (element.count '[') element
  unfold Uniform
  rw [namesOf, expandElement_eq]
  generalize groups (element.count '[') element = found at htext hdelimited ⊢
  obtain ⟨gs, tail⟩ := found
  dsimp only at htext hdelimited ⊢
  subst htext
  constructor
  · rintro (hsame | ⟨-, -, -, -, -, hbare⟩)
    · refine Or.inl fun g hg hunderstood => ?_
      -- an understood group would leave fewer brackets
      have hmem : assemble gs tail ∈ expandGroups gs tail := hsame ▸ List.mem_singleton.mpr rfl
      have hlt := (count_of_mem_expandGroups (fun g hg => (hdelimited g hg).1) _ hmem).2 g hg hunderstood
      exact absurd hlt (lt_irrefl _)
    · exact Or.inr (allUnderstood_of_bare hbare)
  · rintro (hnot | hall)
    · refine Or.inl ?_
      cases gs with
      | nil => rfl
      | cons g gs => exact expandGroups_of_not_understood (hnot g rfl)
    · exact Or.inr (full_of_allUnderstood hdelimited hall)

end Found

/-! ### What Slurm prints -/

/-- The parts of a group as they are printed. -/
def printRanges (ranges : List HostRange) : List Char := [','].intercalate (ranges.map HostRange.print)

/-- An element of a hostlist. -/
structure HostElement where
  /-- The groups, each with the text before it. -/
  groups : HostGroups
  /-- What stands after the last one. -/
  tail : List Char

/-- A text without brackets and commas. -/
def Plain (text : List Char) : Prop := ∀ c ∈ text, c ≠ '[' ∧ c ≠ ']' ∧ c ≠ ','

namespace HostElement

/-- The groups as they are printed. -/
def printed (e : HostElement) : List (List Char × List Char) := e.groups.map fun g => (g.1, printRanges g.2)

/-- An element as it is printed. -/
def text (e : HostElement) : List Char := assemble e.printed e.tail

/-- The names it stands for. -/
def names (e : HostElement) : List (List Char) := product e.groups e.tail

/-- An element is well formed: its groups have parts, these are numbers and spans in order
that the guard lets through, and the texts have no brackets, commas or white space at the
ends. -/
structure WellFormed (e : HostElement) : Prop where
  ranges : ∀ g ∈ e.groups, g.2 ≠ [] ∧ ∀ r ∈ g.2, r.Valid ∧ r.Guarded
  plain : (∀ g ∈ e.groups, Plain g.1) ∧ Plain e.tail
  nonempty : e.text ≠ []
  first : ∀ c ∈ e.text.head?, Text.isWhitespace c = false
  last : ∀ c ∈ e.text.getLast?, Text.isWhitespace c = false

/-- The bounds of its spans fit a machine word. -/
def Fits (e : HostElement) : Prop := ∀ g ∈ e.groups, ∀ r ∈ g.2, r.Fits

end HostElement

/-- A hostlist as it is printed. -/
def print (list : List HostElement) : List Char := [','].intercalate (list.map HostElement.text)

/-- A hostlist is well formed; `(null)` stands for no list. -/
def WellFormed (list : List HostElement) : Prop := (∀ e ∈ list, e.WellFormed) ∧ print list ≠ "(null)".toList

namespace HostRange

variable {r : HostRange}

/-- Digits, and a hyphen. -/
theorem of_mem_print (h : r.Valid) {c : Char} (hc : c ∈ r.print) : c.isDigit = true ∨ c = '-' := by
  cases r with
  | single digits => exact Or.inl (h.2 c hc)
  | span start stop =>
    rcases List.mem_append.mp hc with hc | hc
    · exact Or.inl (h.1.2 c hc)
    · rcases List.mem_cons.mp hc with rfl | hc
      · exact Or.inr rfl
      · exact Or.inl (h.2.1.2 c hc)

theorem notMem_print (h : r.Valid) {c : Char} (hdigit : c.isDigit = false) (hhyphen : c ≠ '-') : c ∉ r.print := by
  intro hc
  rcases of_mem_print h hc with hd | rfl
  · rw [hd] at hdigit
    cases hdigit
  · exact hhyphen rfl

theorem trim_print (h : r.Valid) : Text.trim r.print = r.print := by
  refine Text.trim_of_forall fun c hc => ?_
  rcases of_mem_print h hc with hd | rfl
  · exact Text.isWhitespace_of_isDigit hd
  · rfl

/-- The code reads a part that is printed, if its bounds fit a machine word. -/
theorem expandRange_print (h : r.Valid) (hguard : r.Guarded) :
    (r.Fits → expandRange r.print = some r.names) ∧ ((expandRange r.print).isSome = true → r.Fits) := by
  cases r with
  | single digits =>
    have hnone : Text.splitOnce ['-'] digits = none := Text.splitOnce_of_notMem (h.notMem rfl)
    have hall : digits.all Char.isDigit = true := List.all_eq_true.mpr h.2
    refine ⟨fun _ => ?_, fun _ => trivial⟩
    simp only [expandRange, print, hnone, names]
    exact if_pos ⟨h.1, hall⟩
  | span start stop =>
    obtain ⟨hstart, hstop, hle⟩ := h
    have hsplit : Text.splitOnce ['-'] (start ++ '-' :: stop) = some (start, stop) :=
      Text.splitOnce_append (hstart.notMem rfl) stop
    have hallStart : start.all Char.isDigit = true := List.all_eq_true.mpr hstart.2
    have hallStop : stop.all Char.isDigit = true := List.all_eq_true.mpr hstop.2
    have hguard : Text.ofDigits stop - Text.ofDigits start ≤ 100000 := hguard
    simp only [expandRange, print, hsplit, hstart.trim, hstop.trim, Text.parseBelow_of_isNumber hstart,
      Text.parseBelow_of_isNumber hstop, Fits, names]
    rw [if_neg (by simp [hstart.1, hstop.1, hallStart, hallStop])]
    constructor
    · rintro ⟨hlow, hhigh⟩
      rw [if_pos hlow, if_pos hhigh]
      simp only [Option.bind_eq_bind, Option.bind_some]
      rw [if_neg (by omega)]
    · intro hsome
      split at hsome <;> split at hsome
      all_goals simp at hsome
      all_goals omega

end HostRange

variable {ranges : List HostRange} {e : HostElement}

theorem splitOn_printRanges (hne : ranges ≠ []) (h : ∀ r ∈ ranges, r.Valid) :
    (printRanges ranges).splitOn ',' = ranges.map HostRange.print := by
  refine List.splitOn_intercalate ',' (fun part hpart => ?_) (by simpa using hne)
  obtain ⟨r, hr, rfl⟩ := List.mem_map.mp hpart
  exact HostRange.notMem_print (h r hr) rfl (by decide)

/-- A group that is printed is understood, if the bounds in it fit a machine word. -/
theorem understood_printRanges (hne : ranges ≠ []) (h : ∀ r ∈ ranges, r.Valid ∧ r.Guarded) :
    Understood (printRanges ranges) ↔ ∀ r ∈ ranges, r.Fits := by
  unfold Understood
  rw [splitOn_printRanges hne fun r hr => (h r hr).1, List.forall_mem_map]
  refine forall₂_congr fun r hr => ?_
  obtain ⟨hvalid, hguard⟩ := h r hr
  rw [HostRange.trim_print hvalid]
  refine ⟨(HostRange.expandRange_print hvalid hguard).2, fun hfits => ?_⟩
  rw [(HostRange.expandRange_print hvalid hguard).1 hfits]
  rfl

theorem numbers_printRanges (hne : ranges ≠ []) (h : ∀ r ∈ ranges, r.Valid ∧ r.Guarded) (hfits : ∀ r ∈ ranges, r.Fits) :
    numbers (printRanges ranges) = some (ranges.flatMap HostRange.names) := by
  have hvalues : (ranges.map HostRange.print).mapM (fun range => expandRange (Text.trim range)) =
      some (ranges.map HostRange.names) := by
    rw [List.mapM_eq_some_iff, List.map_map, List.map_map]
    refine List.map_congr_left fun r hr => ?_
    obtain ⟨hvalid, hguard⟩ := h r hr
    change expandRange (Text.trim r.print) = some r.names
    rw [HostRange.trim_print hvalid]
    exact (HostRange.expandRange_print hvalid hguard).1 (hfits r hr)
  rw [numbers, splitOn_printRanges hne fun r hr => (h r hr).1, hvalues, Option.map_some, List.flatMap_def]

/-- Between brackets that are printed there are no brackets. -/
theorem of_mem_printRanges (h : ∀ r ∈ ranges, r.Valid) {c : Char} (hc : c ∈ printRanges ranges) :
    c.isDigit = true ∨ c = '-' ∨ c = ',' := by
  induction ranges with
  | nil => cases hc
  | cons r ranges ih =>
    rw [List.forall_mem_cons] at h
    unfold printRanges at hc
    cases ranges with
    | nil =>
      rcases HostRange.of_mem_print h.1 (by simpa using hc) with hd | rfl
      · exact Or.inl hd
      · exact Or.inr (Or.inl rfl)
    | cons r' ranges =>
      rw [List.map_cons, List.map_cons, List.intercalate_cons_cons, List.mem_append, List.mem_append,
        List.mem_singleton] at hc
      rcases hc with (hc | rfl) | hc
      · exact (HostRange.of_mem_print h.1 hc).imp_right Or.inl
      · exact Or.inr (Or.inr rfl)
      · exact ih h.2 hc

theorem Plain.bare {text : List Char} (h : Plain text) : Bare text :=
  ⟨fun hc => (h _ hc).1 rfl, fun hc => (h _ hc).2.1 rfl⟩

namespace HostElement

theorem WellFormed.valid (h : e.WellFormed) : ∀ g ∈ e.groups, ∀ r ∈ g.2, r.Valid :=
  fun g hg r hr => ((h.ranges g hg).2 r hr).1

theorem WellFormed.delimited (h : e.WellFormed) : ∀ g ∈ e.printed, '[' ∉ g.1 ∧ ']' ∉ g.2 := by
  intro g hg
  obtain ⟨g, hgroup, rfl⟩ := List.mem_map.mp hg
  refine ⟨(h.plain.1 g hgroup).bare.1, fun hc => ?_⟩
  rcases of_mem_printRanges (h.valid g hgroup) hc with hd | hd | hd
  all_goals cases hd

/-- The code finds the groups that are printed. -/
theorem WellFormed.groups_text (h : e.WellFormed) :
    Hostlist.groups (e.text.count '[') e.text = (e.printed, e.tail) :=
  groups_assemble h.delimited h.plain.2.bare.1 (length_le_count _ _)

/-- An element whose bounds fit a machine word expands to what it stands for. -/
theorem WellFormed.namesOf_text (h : e.WellFormed) (hfits : e.Fits) : namesOf e.text = e.names := by
  rw [namesOf, expandElement_eq, h.groups_text]
  have hranges := h.ranges
  obtain ⟨gs, tail⟩ := e
  change expandGroups (gs.map fun g => (g.1, printRanges g.2)) tail = product gs tail
  clear h
  induction gs with
  | nil => rfl
  | cons g gs ih =>
    obtain ⟨before, ranges⟩ := g
    rw [List.forall_mem_cons] at hranges
    rw [List.map_cons, expandGroups, numbers_printRanges hranges.1.1 hranges.1.2
      fun r hr => hfits _ List.mem_cons_self r hr, product]
    dsimp only
    rw [ih (fun g hg => hfits g (List.mem_cons_of_mem _ hg)) hranges.2]

/-- The names that an element stands for have no brackets. -/
theorem WellFormed.bare_names (h : e.WellFormed) : ∀ name ∈ e.names, Bare name := by
  have hvalid := h.valid
  obtain ⟨hplain, htail⟩ := h.plain
  obtain ⟨gs, tail⟩ := e
  change ∀ name ∈ product gs tail, Bare name
  clear h
  induction gs with
  | nil =>
    intro name hname
    rw [List.mem_singleton.mp hname]
    exact htail.bare
  | cons g gs ih =>
    obtain ⟨before, ranges⟩ := g
    rw [List.forall_mem_cons] at hvalid hplain
    intro name hname
    obtain ⟨middle, hmiddle, hname⟩ := List.mem_flatMap.mp hname
    obtain ⟨rest, hrest, rfl⟩ := List.mem_map.mp hname
    obtain ⟨r, hr, hmiddle⟩ := List.mem_flatMap.mp hmiddle
    have hnumber := HostRange.isNumber_of_mem_names (hvalid.1 r hr) hmiddle
    have hbare := ih hvalid.2 hplain.2 htail rest hrest
    constructor
    · simp only [List.mem_append, not_or]
      exact ⟨⟨hplain.1.bare.1, hnumber.notMem rfl⟩, hbare.1⟩
    · simp only [List.mem_append, not_or]
      exact ⟨⟨hplain.1.bare.2, hnumber.notMem rfl⟩, hbare.2⟩

/-- An element some bounds of which are too great is not expanded, if it is uniform. -/
theorem WellFormed.namesOf_of_not_fits (h : e.WellFormed) (hfits : ¬ e.Fits) (huniform : Uniform e.text) :
    namesOf e.text = [e.text] ∧ '[' ∈ e.text := by
  have hsome : ∃ g ∈ e.groups, ¬ Understood (printRanges g.2) := by
    unfold HostElement.Fits at hfits
    push Not at hfits
    obtain ⟨g, hg, r, hr, hnot⟩ := hfits
    obtain ⟨hne, hranges⟩ := h.ranges g hg
    exact ⟨g, hg, fun hunderstood => hnot ((understood_printRanges hne hranges).mp hunderstood r hr)⟩
  obtain ⟨g, hg, hnot⟩ := hsome
  have hmem : (g.1, printRanges g.2) ∈ e.printed := List.mem_map_of_mem hg
  have hopen : '[' ∈ e.text := by
    unfold text
    cases hprinted : e.printed with
    | nil =>
      rw [hprinted] at hmem
      cases hmem
    | cons g gs => exact List.mem_append_right _ List.mem_cons_self
  refine ⟨?_, hopen⟩
  rcases (whole_iff e.text).mpr huniform with hsame | ⟨-, -, -, -, -, hbare⟩
  · exact hsame
  · -- no bracket would be left, so all groups would be understood
    rw [namesOf, expandElement_eq, h.groups_text] at hbare
    exact absurd ((allUnderstood_of_bare hbare).1 _ hmem).1 hnot

end HostElement

/-! ### Lists -/

namespace Splitting

/-- Characters that are no brackets, and commas only within brackets, are read on. -/
theorem foldl_read_of_forall (parts : List (List Char)) (depth : ℕ) (s : List Char) :
    ∀ current : List Char, (∀ c ∈ s, c ≠ '[' ∧ c ≠ ']' ∧ (c = ',' → depth ≠ 0)) →
      s.foldl read ⟨parts, current, depth⟩ = ⟨parts, current ++ s, depth⟩ := by
  induction s with
  | nil => intro current _; rw [List.foldl_nil, List.append_nil]
  | cons c s ih =>
    intro current h
    rw [List.forall_mem_cons] at h
    obtain ⟨⟨hopen, hclose, hcomma⟩, h⟩ := h
    have hread : read ⟨parts, current, depth⟩ c = ⟨parts, current ++ [c], depth⟩ := by
      unfold read
      rw [if_neg hopen, if_neg hclose, if_neg fun hc => hcomma hc.1 hc.2]
    rw [List.foldl_cons, hread, ih _ h, List.append_assoc, List.singleton_append]

/-- A group is read whole. -/
theorem foldl_read_assemble {gs : List (List Char × List Char)} {tail : List Char}
    (hgs : ∀ g ∈ gs, Plain g.1 ∧ '[' ∉ g.2 ∧ ']' ∉ g.2) (htail : Plain tail) (parts : List (List Char)) :
    ∀ current : List Char, (assemble gs tail).foldl read ⟨parts, current, 0⟩ =
      ⟨parts, current ++ assemble gs tail, 0⟩ := by
  induction gs with
  | nil =>
    intro current
    exact foldl_read_of_forall parts 0 tail current fun c hc =>
      ⟨(htail c hc).1, (htail c hc).2.1, fun hcomma => absurd hcomma (htail c hc).2.2⟩
  | cons g gs ih =>
    intro current
    obtain ⟨before, body⟩ := g
    rw [List.forall_mem_cons] at hgs
    obtain ⟨⟨hbefore, hopen, hclose⟩, hgs⟩ := hgs
    rw [assemble, List.foldl_append, foldl_read_of_forall parts 0 before current fun c hc =>
      ⟨(hbefore c hc).1, (hbefore c hc).2.1, fun hcomma => absurd hcomma (hbefore c hc).2.2⟩, List.foldl_cons]
    change (body ++ ']' :: assemble gs tail).foldl read ⟨parts, current ++ before ++ ['['], 1⟩ = _
    rw [List.foldl_append, foldl_read_of_forall parts 1 body _ fun c hc =>
      ⟨fun h => hopen (h ▸ hc), fun h => hclose (h ▸ hc), fun _ => Nat.one_ne_zero⟩, List.foldl_cons]
    change (assemble gs tail).foldl read ⟨parts, current ++ before ++ ['['] ++ body ++ [']'], 0⟩ = _
    rw [ih hgs]
    simp only [List.append_assoc, List.nil_append, List.cons_append]

end Splitting

namespace HostElement

variable {list : List HostElement}

theorem WellFormed.trim_text (h : e.WellFormed) : Text.trim e.text = e.text := Text.trim_eq_self h.first h.last

/-- An element is read whole. -/
theorem WellFormed.foldl_read (h : e.WellFormed) (parts : List (List Char)) (current : List Char) :
    e.text.foldl Splitting.read ⟨parts, current, 0⟩ = ⟨parts, current ++ e.text, 0⟩ := by
  refine Splitting.foldl_read_assemble (fun g hg => ?_) h.plain.2 parts current
  obtain ⟨g', hg', rfl⟩ := List.mem_map.mp hg
  refine ⟨h.plain.1 g' hg', fun hc => ?_, (h.delimited _ hg).2⟩
  rcases of_mem_printRanges (h.valid g' hg') hc with hd | hd | hd
  all_goals cases hd

end HostElement

section Lists

variable {list : List HostElement}

/-- Commas between elements separate them. -/
theorem foldl_read_print (h : ∀ e ∈ list, e.WellFormed) (hne : list ≠ []) : ∀ parts : List (List Char),
    ((print list).foldl Splitting.read ⟨parts, [], 0⟩).finish = parts ++ list.map HostElement.text := by
  induction list with
  | nil => exact absurd rfl hne
  | cons e list ih =>
    intro parts
    rw [List.forall_mem_cons] at h
    have hfinish : Splitting.finish ⟨parts, e.text, 0⟩ = parts ++ [e.text] := by
      unfold Splitting.finish
      rw [h.1.trim_text, if_neg h.1.nonempty]
    cases list with
    | nil =>
      have hprint : print [e] = e.text := by simp [print]
      rw [hprint, h.1.foldl_read, List.nil_append, hfinish, List.map_singleton]
    | cons e' list =>
      have hprint : print (e :: e' :: list) = e.text ++ ',' :: print (e' :: list) := by
        simp [print, List.intercalate_cons_cons]
      rw [hprint, List.foldl_append, h.1.foldl_read, List.nil_append, List.foldl_cons]
      change ((print (e' :: list)).foldl Splitting.read ⟨Splitting.finish ⟨parts, e.text, 0⟩, [], 0⟩).finish = _
      rw [hfinish, ih h.2 (List.cons_ne_nil _ _), List.map_cons (l := e' :: list), List.append_assoc,
        List.singleton_append]

/-- What begins and what ends a list begins or ends an element. -/
theorem ends_print (h : ∀ e ∈ list, e.WellFormed) : (∀ c ∈ (print list).head?, Text.isWhitespace c = false) ∧
    ∀ c ∈ (print list).getLast?, Text.isWhitespace c = false := by
  induction list with
  | nil => exact ⟨nofun, nofun⟩
  | cons e list ih =>
    rw [List.forall_mem_cons] at h
    obtain ⟨he, hlist⟩ := h
    cases list with
    | nil =>
      have hprint : print [e] = e.text := by simp [print]
      rw [hprint]
      exact ⟨he.first, he.last⟩
    | cons e' list =>
      have hprint : print (e :: e' :: list) = e.text ++ ',' :: print (e' :: list) := by
        simp [print, List.intercalate_cons_cons]
      have hrest : print (e' :: list) ≠ [] := by
        intro hnil
        have htext : e'.text ≠ [] := (hlist e' List.mem_cons_self).nonempty
        cases list with
        | nil => exact htext (by simpa [print] using hnil)
        | cons e'' list => simp [print, List.intercalate_cons_cons] at hnil
      rw [hprint]
      constructor
      · rw [List.head?_append_of_ne_nil _ he.nonempty]
        exact he.first
      · rw [List.getLast?_append_of_ne_nil _ (List.cons_ne_nil _ _), List.getLast?_cons_of_ne_nil hrest]
        exact (ih hlist).2

/-- The elements of a hostlist; `(null)` stands for no list. -/
def elements (hostlist : List Char) : List (List Char) :=
  let hostlist := Text.trim hostlist
  if hostlist = [] ∨ hostlist = "(null)".toList then [] else splitTopLevel hostlist

theorem expand_eq (hostlist : List Char) : expand hostlist = (elements hostlist).flatMap namesOf := by
  unfold expand elements
  dsimp only
  split
  · rfl
  · rfl

/-- The elements of a list that is printed. -/
theorem elements_print (h : WellFormed list) : elements (print list) = list.map HostElement.text := by
  obtain ⟨helements, hnull⟩ := h
  obtain ⟨hfirst, hlast⟩ := ends_print helements
  unfold elements
  rw [Text.trim_eq_self hfirst hlast]
  dsimp only
  cases list with
  | nil => rfl
  | cons e list =>
    have hread := foldl_read_print helements (List.cons_ne_nil _ _) []
    rw [List.nil_append] at hread
    have hne : print (e :: list) ≠ [] := by
      intro hnil
      rw [hnil] at hread
      cases hread
    rw [if_neg (not_or.mpr ⟨hne, hnull⟩)]
    exact hread

/-- **A list that Slurm prints expands to what it stands for**, in order. -/
theorem expand_print (h : WellFormed list) (hfits : ∀ e ∈ list, e.Fits) :
    expand (print list) = list.flatMap HostElement.names := by
  rw [expand_eq, elements_print h, List.flatMap_map]
  exact List.flatMap_congr fun e he => (h.1 e he).namesOf_text (hfits e he)

end Lists

/-! ### Exactly which hostlists -/

/-- What expansion owes to a hostlist: it ends; every element is expanded in full or kept
as it is; and what Slurm prints expands to what it stands for. -/
structure ExpandsWhole (hostlist : List Char) : Prop where
  ends : ∀ element ∈ elements hostlist, ∀ rounds, element.count '[' ≤ rounds →
    expandElement rounds element = namesOf element
  elements : expand hostlist = (elements hostlist).flatMap namesOf ∧
    ∀ element ∈ Hostlist.elements hostlist, namesOf element = [element] ∨ Full element (namesOf element)
  printed : ∀ list, WellFormed list → hostlist = print list → expand hostlist = list.flatMap HostElement.names

/-- **Expansion is whole** for exactly the hostlists with uniform elements, if they are
printed by Slurm without bounds beyond a machine word. -/
theorem expandsWhole_iff (hostlist : List Char) : ExpandsWhole hostlist ↔
    (∀ element ∈ elements hostlist, Uniform element) ∧
      ∀ list, WellFormed list → hostlist = print list → ∀ e ∈ list, e.Fits := by
  constructor
  · intro h
    have huniform : ∀ element ∈ elements hostlist, Uniform element := fun element helement =>
      (whole_iff element).mp (h.elements.2 element helement)
    refine ⟨huniform, ?_⟩
    rintro list hlist rfl e he
    by_contra hfits
    have hmem : e.text ∈ elements (print list) := by
      rw [elements_print hlist]
      exact List.mem_map_of_mem he
    obtain ⟨hsame, hopen⟩ := (hlist.1 e he).namesOf_of_not_fits hfits (huniform _ hmem)
    -- the element is among the names, but these have no brackets
    have hname : e.text ∈ expand (print list) := by
      rw [expand_eq]
      exact List.mem_flatMap.mpr ⟨e.text, hmem, hsame ▸ List.mem_singleton.mpr rfl⟩
    rw [h.printed list hlist rfl] at hname
    obtain ⟨e', he', hname⟩ := List.mem_flatMap.mp hname
    exact ((hlist.1 e' he').bare_names _ hname).1 hopen
  · rintro ⟨huniform, hfits⟩
    refine ⟨fun element _ rounds => expandElement_of_le, ⟨expand_eq hostlist, fun element helement =>
      (whole_iff element).mpr (huniform element helement)⟩, ?_⟩
    rintro list hlist rfl
    exact expand_print hlist (hfits list hlist rfl)

/-- The second group is not understood, and the first one is expanded. -/
theorem half_expanded :
    expand "r[1-2]n[x]".toList = ["r1n[x]".toList, "r2n[x]".toList] ∧ ¬ ExpandsWhole "r[1-2]n[x]".toList := by
  have hexpand : expand "r[1-2]n[x]".toList = ["r1n[x]".toList, "r2n[x]".toList] := by decide +kernel
  have hnames : namesOf "r[1-2]n[x]".toList = ["r1n[x]".toList, "r2n[x]".toList] := by decide +kernel
  refine ⟨hexpand, fun h => ?_⟩
  have hmem : "r[1-2]n[x]".toList ∈ elements "r[1-2]n[x]".toList := by decide +kernel
  rcases h.elements.2 _ hmem with hsame | ⟨-, -, -, -, -, hbare⟩
  · rw [hnames] at hsame
    cases hsame
  · rw [hnames] at hbare
    exact absurd (hbare _ List.mem_cons_self).1 (by decide)

end Hostlist

end Sentinel
