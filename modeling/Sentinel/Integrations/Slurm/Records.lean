import Sentinel.Integrations.Slurm.Parser
import Sentinel.Lib.Cutting

/-!
# Records read back

A record is a line of keys and values.  A field begins where a key and an equals sign
follow white space, so a value may hold spaces, and a reason, which comes last, anything.

## Main definitions

* `IsKey`, `FieldFree` — keys, and values that no field begins in.
* `Printable` — the fields that can be read back.
* `Printed` — a line of fields.

## Main results

* `scan_field`, `scan_value`, `scan_gap` — what the scan finds of a line.
* `parseRecord_printed` — **a line of fields is read back as these fields.**
-/

namespace Sentinel

namespace Slurm

/-! ### The scan -/

/-- Where the keys of a line begin and end, from a place on, in as many rounds as there are
characters. -/
def scan (place : ℕ) (fresh : Bool) (s : List Char) : List (ℕ × ℕ) := boundariesFrom s.length place fresh s

variable {key value s : List Char} {place : ℕ} {fresh : Bool}

/-- More rounds than there are characters find nothing more. -/
theorem boundariesFrom_eq_of_le : ∀ {rounds rounds' place : ℕ} {fresh : Bool} {s : List Char},
    s.length ≤ rounds → s.length ≤ rounds' →
      boundariesFrom rounds place fresh s = boundariesFrom rounds' place fresh s := by
  intro rounds
  induction rounds with
  | zero =>
    intro rounds' place fresh s h _
    rw [List.length_eq_zero_iff.mp (Nat.le_zero.mp h)]
    cases rounds' <;> rfl
  | succ rounds ih =>
    intro rounds' place fresh s h h'
    cases s with
    | nil => cases rounds' <;> rfl
    | cons c rest =>
      rw [List.length_cons] at h h'
      cases rounds' with
      | zero => omega
      | succ rounds' =>
        rw [boundariesFrom, boundariesFrom]
        split
        · next after hfresh hafter =>
          have hlength := congrArg List.length hafter
          rw [List.length_drop, List.length_cons, List.length_cons] at hlength
          rw [@ih rounds' _ _ after (by omega) (by omega)]
        · exact ih (by omega) (by omega)

@[simp] theorem scan_nil : scan place fresh [] = [] := rfl

/-- A character that no field begins at. -/
theorem scan_skip {c : Char} (h : ∀ after, fresh = true → isKeyStart c = true →
    (c :: s).dropWhile isKeyChar ≠ '=' :: after) :
    scan place fresh (c :: s) = scan (place + 1) (isAsciiWhitespace c) s := by
  unfold scan
  rw [List.length_cons, boundariesFrom]
  split
  · next after hfresh hafter =>
    rw [Bool.and_eq_true] at hfresh
    rw [Text.drop_length_takeWhile] at hafter
    exact absurd hafter (h after hfresh.1 hfresh.2)
  · rfl

/-! ### Fields -/

/-- A key: a letter or an underscore, and more of these and digits. -/
def IsKey (key : List Char) : Prop := key.head?.any isKeyStart = true ∧ key.all isKeyChar = true

instance (key : List Char) : Decidable (IsKey key) := inferInstanceAs (Decidable (_ ∧ _))

/-- No field begins in a value: no white space in it has a key and an equals sign after
it. -/
def FieldFree (value : List Char) : Prop :=
  ∀ a w key b, value = a ++ w :: (key ++ '=' :: b) → isAsciiWhitespace w = true → ¬ IsKey key

/-- A field is found at its key. -/
theorem scan_field (h : IsKey key) :
    scan place true (key ++ '=' :: s) = (place, place + key.length) :: scan (place + key.length + 1) false s := by
  obtain ⟨hhead, hall⟩ := h
  obtain ⟨c, hc, hstart⟩ := (Option.any_eq_true _ _).mp hhead
  obtain ⟨rest, rfl⟩ := List.head?_eq_some_iff.mp hc
  have hall := List.all_eq_true.mp hall
  have htake : ((c :: rest) ++ '=' :: s).takeWhile isKeyChar = c :: rest := by
    rw [List.takeWhile_append_of_pos hall, List.takeWhile_cons_of_neg (by decide), List.append_nil]
  have hdrop : ((c :: rest) ++ '=' :: s).drop (c :: rest).length = '=' :: s := List.drop_left
  rw [List.cons_append] at htake hdrop ⊢
  unfold scan
  rw [List.length_cons, boundariesFrom, htake, hdrop, hstart]
  have hrounds : s.length ≤ (rest ++ '=' :: s).length := by
    rw [List.length_append, List.length_cons]
    omega
  exact congrArg _ (boundariesFrom_eq_of_le hrounds le_rfl)

/-- A space begins no field, and one may begin after it. -/
theorem scan_space : scan place fresh (' ' :: s) = scan (place + 1) true s :=
  scan_skip fun _ _ hstart => absurd hstart (by decide)

theorem scan_gap (n : ℕ) : scan place fresh (List.replicate (n + 1) ' ' ++ s) = scan (place + (n + 1)) true s := by
  induction n generalizing place fresh with
  | zero => exact scan_space
  | succ n ih =>
    rw [List.replicate_succ, List.cons_append, scan_space, ih]
    congr 1
    omega

/-- What comes after a value neither goes on with a key nor ends one. -/
def Separated (s : List Char) : Prop := ∀ c ∈ s.head?, isKeyChar c = false ∧ c ≠ '='

/-- A key that is found before an equals sign is found within the value. -/
theorem split_of_dropWhile_eq {after : List Char} (hs : Separated s)
    (h : (value ++ s).dropWhile isKeyChar = '=' :: after) :
    ∃ b, value = value.takeWhile isKeyChar ++ '=' :: b := by
  rw [List.dropWhile_append] at h
  split at h
  · -- the value is a key, and something else than an equals sign follows
    cases s with
    | nil => cases h
    | cons c s =>
      obtain ⟨hkey, hne⟩ := hs c rfl
      rw [List.dropWhile_cons_of_neg (by simp [hkey]), List.cons.injEq] at h
      exact absurd h.1 hne
  · next hsome =>
    have hsplit := @List.takeWhile_append_dropWhile _ isKeyChar value
    cases hrest : value.dropWhile isKeyChar with
    | nil => simp [hrest] at hsome
    | cons c rest =>
      rw [hrest, List.cons_append, List.cons.injEq] at h
      rw [hrest, h.1] at hsplit
      exact ⟨rest, hsplit.symm⟩

theorem isKey_takeWhile {c : Char} (hstart : isKeyStart c = true) :
    IsKey ((c :: value).takeWhile isKeyChar) := by
  have hchar : isKeyChar c = true := by
    unfold isKeyStart at hstart
    unfold isKeyChar Char.isAlphanum
    rw [Bool.or_eq_true] at hstart ⊢
    rcases hstart with hstart | hstart
    · exact Or.inl (by rw [hstart]; rfl)
    · exact Or.inr hstart
  refine ⟨?_, List.all_eq_true.mpr fun d hd => List.mem_takeWhile_imp hd⟩
  rw [List.takeWhile_cons_of_pos hchar]
  exact hstart

/-- No field is found in a value, if none begins in it. -/
theorem scan_value (hs : Separated s) : ∀ {value : List Char} {place : ℕ} {fresh : Bool}, FieldFree value →
    (fresh = true → ∀ key b, value = key ++ '=' :: b → ¬ IsKey key) →
      ∃ fresh', scan place fresh (value ++ s) = scan (place + value.length) fresh' s := by
  intro value
  induction value with
  | nil => intro place fresh _ _; exact ⟨fresh, rfl⟩
  | cons c value ih =>
    intro place fresh hfree hbegin
    have hrest : FieldFree value := fun a w key b heq hw => hfree (c :: a) w key b (by rw [heq]; rfl) hw
    obtain ⟨fresh', hscan⟩ := @ih (place + 1) (isAsciiWhitespace c) hrest fun hspace key b heq =>
      hfree [] c key b (by rw [heq]; rfl) hspace
    refine ⟨fresh', ?_⟩
    rw [List.cons_append, scan_skip, hscan, List.length_cons]
    · congr 1
      omega
    · intro after hfresh hstart hdrop
      obtain ⟨b, hb⟩ := @split_of_dropWhile_eq (c :: value) s after hs hdrop
      exact hbegin hfresh _ b hb (isKey_takeWhile hstart)

/-! ### Lines of fields -/

/-- A key and its value. -/
abbrev RecordField := List Char × List Char

/-- The key of a reason. -/
def reasonKey : List Char := ['R', 'e', 'a', 's', 'o', 'n']

theorem ofList_reasonKey : String.ofList reasonKey = "Reason" := rfl

/-- A field that can be read back. -/
structure Printable (field : RecordField) : Prop where
  key : IsKey field.1
  other : field.1 ≠ reasonKey
  trimmed : Text.trim field.2 = field.2
  free : FieldFree field.2

/-- A field as it is printed. -/
def RecordField.text (field : RecordField) : List Char := field.1 ++ '=' :: field.2

/-- A line of fields with spaces between them. -/
inductive Printed : List RecordField → List Char → Prop
  /-- No field. -/
  | nil : Printed [] []
  /-- One field. -/
  | single (field : RecordField) : Printed [field] field.text
  /-- A field before others. -/
  | cons (field : RecordField) (n : ℕ) {fields : List RecordField} {line : List Char} (h : Printed fields line)
      (hne : fields ≠ []) : Printed (field :: fields) (field.text ++ List.replicate (n + 1) ' ' ++ line)

/-- Put a field into a record. -/
def insertField (fields : Fields) (field : RecordField) : Fields :=
  fields.insert (String.ofList field.1) (String.ofList field.2)

variable {field : RecordField} {fields : List RecordField} {line done : List Char}

theorem Printed.isKey_head (h : Printed fields line) (hne : fields ≠ [])
    (hkeys : ∀ field ∈ fields, IsKey field.1) :
    ∃ (stop : ℕ) (boundaries : List (ℕ × ℕ)), scan place true line = (place, stop) :: boundaries := by
  cases h with
  | nil => exact absurd rfl hne
  | single field => exact ⟨_, _, scan_field (hkeys field List.mem_cons_self)⟩
  | cons field n h hrest =>
    rw [RecordField.text, List.append_assoc, List.append_assoc, List.cons_append]
    exact ⟨_, _, scan_field (hkeys field List.mem_cons_self)⟩

theorem separated_nil : Separated [] := nofun

theorem separated_gap (n : ℕ) (s : List Char) : Separated (List.replicate (n + 1) ' ' ++ s) := by
  intro c hc
  rw [List.replicate_succ] at hc
  cases hc
  exact ⟨rfl, by decide⟩

theorem isWhitespace_of_mem_gap {n : ℕ} {c : Char} (h : c ∈ List.replicate n ' ') : Text.isWhitespace c = true := by
  rw [List.eq_of_mem_replicate h]
  rfl

theorem piece_append (a b c : List Char) : piece (a ++ b ++ c) a.length (a.length + b.length) = b := by
  rw [piece, ← List.length_append, List.take_left, List.drop_left]

/-- One field of a line is read, up to where the next one begins. -/
theorem fieldsFrom_cons (h : Printable field) {rest gap : List Char} {boundaries : List (ℕ × ℕ)} {acc : Fields}
    (hgap : ∀ c ∈ gap, Text.isWhitespace c = true)
    (hnext : (boundaries.head?.map Prod.fst).getD (done ++ field.text ++ gap ++ rest).length =
      (done ++ field.text ++ gap).length) :
    fieldsFrom (done ++ field.text ++ gap ++ rest)
        ((done.length, done.length + field.1.length) :: boundaries) acc =
      fieldsFrom (done ++ field.text ++ gap ++ rest) boundaries (insertField acc field) := by
  obtain ⟨key, value⟩ := field
  have hkey : piece (done ++ (key ++ '=' :: value) ++ gap ++ rest) done.length (done.length + key.length) = key := by
    have hline : done ++ (key ++ '=' :: value) ++ gap ++ rest = done ++ key ++ ('=' :: value ++ gap ++ rest) := by
      simp only [List.append_assoc, List.cons_append]
    rw [hline, piece_append]
  have hvalue : piece (done ++ (key ++ '=' :: value) ++ gap ++ rest) (done.length + key.length + 1)
      (done ++ (key ++ '=' :: value) ++ gap).length = value ++ gap := by
    have hline : done ++ (key ++ '=' :: value) ++ gap ++ rest = (done ++ key ++ ['=']) ++ (value ++ gap) ++ rest := by
      simp only [List.append_assoc, List.cons_append, List.nil_append]
    have hstart : done.length + key.length + 1 = (done ++ key ++ ['=']).length := by simp only [List.length_append, List.length_singleton]
    have hstop : (done ++ (key ++ '=' :: value) ++ gap).length = (done ++ key ++ ['=']).length + (value ++ gap).length := by
      simp only [List.length_append, List.length_cons, List.length_nil]
      omega
    rw [hline, hstart, hstop, piece_append]
  have hother : String.ofList key ≠ "Reason" := by
    rw [← ofList_reasonKey]
    exact fun heq => h.other (String.ofList_injective heq)
  change fieldsFrom (done ++ (key ++ '=' :: value) ++ gap ++ rest) _ acc = _
  rw [fieldsFrom, hkey, if_neg hother]
  dsimp only
  rw [show (boundaries.head?.map Prod.fst).getD (done ++ (key ++ '=' :: value) ++ gap ++ rest).length =
    (done ++ (key ++ '=' :: value) ++ gap).length from hnext, hvalue, Text.trim_append_of_forall hgap,
    show Text.trim value = value from h.trimmed]
  rfl

/-- The fields that a reason adds to a record. -/
def reasonFields (reason : Option (List Char)) : List RecordField :=
  reason.toList.map fun text => (reasonKey, text)

theorem isKey_reasonKey : IsKey reasonKey := by decide

/-- A reason takes up the rest of the line. -/
theorem fieldsFrom_reason {text : List Char} (htext : Text.trim text = text) (acc : Fields) :
    fieldsFrom (done ++ RecordField.text (reasonKey, text))
        (scan done.length true (RecordField.text (reasonKey, text))) acc =
      insertField acc (reasonKey, text) := by
  have hkey : piece (done ++ RecordField.text (reasonKey, text)) done.length (done.length + reasonKey.length) =
      reasonKey := by
    rw [RecordField.text, ← List.append_assoc, piece_append]
  have hrest : (done ++ RecordField.text (reasonKey, text)).drop (done.length + reasonKey.length + 1) = text := by
    have hline : done ++ RecordField.text (reasonKey, text) = (done ++ reasonKey ++ ['=']) ++ text := by
      simp only [RecordField.text, List.append_assoc, List.cons_append, List.nil_append]
    have hlength : done.length + reasonKey.length + 1 = (done ++ reasonKey ++ ['=']).length := by
      simp only [List.length_append, List.length_singleton]
    rw [hline, hlength]
    exact List.drop_left
  have hscan : scan done.length true (RecordField.text (reasonKey, text)) =
      (done.length, done.length + reasonKey.length) :: scan (done.length + reasonKey.length + 1) false text :=
    scan_field isKey_reasonKey
  rw [hscan, fieldsFrom, hkey]
  dsimp only
  rw [if_pos ofList_reasonKey, hrest, htext]
  rfl

/-- The last field of a line is read. -/
theorem fieldsFrom_single (h : Printable field) (acc : Fields) :
    fieldsFrom (done ++ field.text) (scan done.length true field.text) acc = insertField acc field := by
  obtain ⟨fresh, hvalue⟩ := @scan_value [] separated_nil field.2 (done.length + field.1.length + 1) false h.free nofun
  rw [List.append_nil] at hvalue
  have hscan : scan done.length true field.text = [(done.length, done.length + field.1.length)] := by
    rw [RecordField.text, scan_field h.key, hvalue, scan_nil]
  have hfields := @fieldsFrom_cons field done h [] [] [] acc nofun (by simp)
  simp only [List.append_nil] at hfields
  rw [hscan, hfields]
  rfl

/-- **The fields of a line are read**, one after the other. -/
theorem fieldsFrom_printed {reason : Option (List Char)} (hreason : ∀ text ∈ reason, Text.trim text = text) :
    ∀ {fields : List RecordField} {line done : List Char} {acc : Fields}, (∀ field ∈ fields, Printable field) →
      Printed (fields ++ reasonFields reason) line →
      fieldsFrom (done ++ line) (scan done.length true line) acc =
        (fields ++ reasonFields reason).foldl insertField acc := by
  have hkeys : ∀ field ∈ reasonFields reason, IsKey field.1 := by
    intro field hfield
    obtain ⟨text, -, rfl⟩ := List.mem_map.mp hfield
    exact isKey_reasonKey
  intro fields
  induction fields with
  | nil =>
    intro line done acc _ hprinted
    rw [List.nil_append] at hprinted ⊢
    cases reason with
    | none =>
      cases hprinted
      rfl
    | some text =>
      cases hprinted with
      | single _ => exact fieldsFrom_reason (hreason text rfl) acc
      | cons _ n h hne => exact absurd rfl hne
  | cons field fields ih =>
    intro line done acc hfields hprinted
    rw [List.forall_mem_cons] at hfields
    obtain ⟨hfield, hfields⟩ := hfields
    rw [List.cons_append] at hprinted ⊢
    generalize hrest : fields ++ reasonFields reason = rest at hprinted ⊢
    cases hprinted with
    | single _ => exact fieldsFrom_single hfield acc
    | @cons _ n _ line h hne =>
      subst hrest
      obtain ⟨fresh, hvalue⟩ := @scan_value (List.replicate (n + 1) ' ' ++ line) (separated_gap n line) field.2
        (done.length + field.1.length + 1) false hfield.free nofun
      have hplace : (done ++ field.text ++ List.replicate (n + 1) ' ').length =
          done.length + field.1.length + 1 + field.2.length + (n + 1) := by
        simp only [List.length_append, RecordField.text, List.length_cons, List.length_replicate]
        omega
      have hscan : scan done.length true (field.text ++ List.replicate (n + 1) ' ' ++ line) =
          (done.length, done.length + field.1.length) ::
            scan (done ++ field.text ++ List.replicate (n + 1) ' ').length true line := by
        rw [hplace, ← scan_gap, ← hvalue, ← scan_field hfield.key, RecordField.text]
        simp only [List.append_assoc, List.cons_append]
      have hall : ∀ field ∈ fields ++ reasonFields reason, IsKey field.1 := by
        intro other hother
        rcases List.mem_append.mp hother with hother | hother
        · exact (hfields other hother).key
        · exact hkeys other hother
      obtain ⟨stop, boundaries, hnext⟩ := @Printed.isKey_head
        (done ++ field.text ++ List.replicate (n + 1) ' ').length _ line h hne hall
      rw [hscan, List.foldl_cons, ← @ih line (done ++ field.text ++ List.replicate (n + 1) ' ') _ hfields h,
        ← List.append_assoc, ← List.append_assoc]
      exact fieldsFrom_cons hfield (fun _ hc => isWhitespace_of_mem_gap hc) (by rw [hnext]; rfl)

theorem ofList_eq_iff {key : List Char} {k : String} : String.ofList key = k ↔ k.toList = key :=
  ⟨fun h => by rw [← h, String.toList_ofList], fun h => by rw [← h, String.ofList_toList]⟩

/-- What is in a record that fields with different keys were put into. -/
theorem getElem?_foldl_insertField {k v : String} (hnodup : (fields.map Prod.fst).Nodup) : ∀ acc : Fields,
    (fields.foldl insertField acc)[k]? = some v ↔
      (k.toList, v.toList) ∈ fields ∨ (k.toList ∉ fields.map Prod.fst ∧ acc[k]? = some v) := by
  induction fields with
  | nil => intro acc; simp
  | cons field fields ih =>
    intro acc
    obtain ⟨key, value⟩ := field
    rw [List.map_cons, List.nodup_cons] at hnodup
    rw [List.foldl_cons, ih hnodup.2, insertField, Std.ExtTreeMap.getElem?_insert_eq, List.map_cons, List.mem_cons,
      List.mem_cons, Prod.mk.injEq, not_or]
    simp only [ofList_eq_iff]
    by_cases hkey : k.toList = key
    · subst hkey
      rw [if_pos rfl, Option.some.injEq, ofList_eq_iff]
      have hnot : (k.toList, v.toList) ∉ fields := fun h => hnodup.1 (List.mem_map.mpr ⟨_, h, rfl⟩)
      tauto
    · rw [if_neg hkey]
      tauto

/-- **A line of fields is read back.**  The fields have different keys and trimmed values
in which no field begins; they may end with a reason, which may hold anything. -/
theorem parseRecord_printed {fields : List RecordField} {reason : Option (List Char)} {line : List Char}
    (hfields : ∀ field ∈ fields, Printable field) (hnodup : (fields.map Prod.fst).Nodup)
    (hreason : ∀ text ∈ reason, Text.trim text = text) (hline : Printed (fields ++ reasonFields reason) line)
    (key value : String) :
    (parseRecord line)[key]? = some value ↔ (key.toList, value.toList) ∈ fields ++ reasonFields reason := by
  have hkeys : ((fields ++ reasonFields reason).map Prod.fst).Nodup := by
    rw [List.map_append]
    refine hnodup.append ?_ fun key hkey hreasonKey => ?_
    · cases reason <;> simp [reasonFields]
    · obtain ⟨field, hfield, rfl⟩ := List.mem_map.mp hkey
      obtain ⟨other, hother, heq⟩ := List.mem_map.mp hreasonKey
      obtain ⟨text, -, rfl⟩ := List.mem_map.mp hother
      exact (hfields field hfield).other heq.symm
  have hparse : parseRecord line = (fields ++ reasonFields reason).foldl insertField ∅ :=
    @fieldsFrom_printed reason hreason fields line [] ∅ hfields hline
  rw [hparse, getElem?_foldl_insertField hkeys]
  simp

theorem fieldFree_of_notMem (h : '=' ∉ value) : FieldFree value := by
  rintro a w key b rfl - -
  exact h (by simp)

/-- A value with spaces, one that has an equals sign and one that is empty, before a reason. -/
theorem parseRecord_printed_node :
    let os : RecordField := ("OS".toList, "Linux 5.15.0 #1 SMP".toList)
    let tres : RecordField := ("CfgTRES".toList, "cpu=64,gres/gpu=4".toList)
    let comment : RecordField := ("Comment".toList, [])
    let line := "OS=Linux 5.15.0 #1 SMP CfgTRES=cpu=64,gres/gpu=4  Comment= Reason=fan failed State=bad".toList
    (parseRecord line)["Comment"]? = some "" ∧ (parseRecord line)["Reason"]? = some "fan failed State=bad" ∧
      (parseRecord line)["State"]? = none := by
  intro os tres comment line
  have hline : Printed ([os, tres, comment] ++ reasonFields (some "fan failed State=bad".toList)) line :=
    .cons os 0 (.cons tres 1 (.cons comment 0 (.single (reasonKey, "fan failed State=bad".toList))
      (List.cons_ne_nil _ _)) (List.cons_ne_nil _ _)) (List.cons_ne_nil _ _)
  have hfree : ∀ field ∈ [os, tres, comment], FieldFree field.2 := by
    intro field hfield
    simp only [List.mem_cons, List.not_mem_nil, or_false] at hfield
    rcases hfield with rfl | rfl | rfl
    · exact fieldFree_of_notMem (by decide +kernel)
    · rintro a w key b heq hspace -
      -- there is no white space in it
      have hw : w ∈ tres.2 := heq ▸ List.mem_append_right _ List.mem_cons_self
      have hnone : tres.2.any isAsciiWhitespace = false := by decide +kernel
      exact absurd (List.any_eq_true.mpr ⟨w, hw, hspace⟩) (Bool.eq_false_iff.mp hnone)
    · exact fieldFree_of_notMem (by decide +kernel)
  have hprintable : ∀ field ∈ [os, tres, comment], Printable field := by
    intro field hfield
    refine ⟨?_, ?_, ?_, hfree field hfield⟩
    all_goals
      simp only [List.mem_cons, List.not_mem_nil, or_false] at hfield
      rcases hfield with rfl | rfl | rfl
    all_goals decide +kernel
  have hread := parseRecord_printed hprintable (by decide +kernel) (by decide +kernel) hline
  refine ⟨(hread "Comment" "").mpr (by decide +kernel), (hread "Reason" "fan failed State=bad").mpr (by decide +kernel), ?_⟩
  cases hstate : (parseRecord line)["State"]? with
  | none => rfl
  | some value =>
    have hmem : "State".toList ∈ ([os, tres, comment] ++ reasonFields (some "fan failed State=bad".toList)).map Prod.fst :=
      List.mem_map.mpr ⟨_, (hread "State" value).mp hstate, rfl⟩
    exact absurd hmem (by decide +kernel)

end Slurm

end Sentinel
