import Sentinel.Lib.Collections

/-!
# Record values of a list

A reader that never goes back in time takes from a list the elements whose time is
at least that of every element before them: its weak records.  If the list comes
by priority and by time within a priority, an element is passed over only for one
of higher priority, and what is taken comes in order of time.

## Main definitions

* `List.records` — the elements taken after an instant.
* `List.Overtaken` — an element of higher priority has a later time.

## Main results

* `List.records_of_sorted` — from a list in order of time, all that are not too
  early.
* `List.records_of_prioritized` — from a list by priority and time, all that are
  neither too early nor overtaken.
-/

namespace List

variable {α τ π : Type*} [LinearOrder τ] [LinearOrder π] {time : α → τ} {priority : α → π}

/-- The elements of a list no earlier than the bound nor than any element taken
before them. -/
def records (time : α → τ) : WithBot τ → List α → List α
  | _, [] => []
  | bound, a :: rest =>
    if time a < bound then records time bound rest else a :: records time (time a) rest

/-- Some element of higher priority has a later time. -/
def Overtaken (time : α → τ) (priority : α → π) (l : List α) (a : α) : Prop :=
  ∃ b ∈ l, priority a < priority b ∧ time a < time b

instance (l : List α) (a : α) : Decidable (l.Overtaken time priority a) :=
  inferInstanceAs (Decidable (∃ b ∈ l, _))

/-- In order of time, nothing but the bound keeps an element out. -/
theorem records_of_sorted (l : List α) :
    ∀ {bound : WithBot τ}, l.Pairwise (fun a b => time a ≤ time b) →
      records time bound l = l.filter fun a => bound ≤ time a := by
  induction l with
  | nil => intro bound _; rfl
  | cons a rest ih =>
    intro bound h
    rw [pairwise_cons] at h
    rw [records]
    split
    · next hlt => rw [ih h.2, filter_cons_of_neg (by simpa using hlt)]
    · next hle =>
      rw [not_lt] at hle
      rw [ih h.2, filter_cons_of_pos (by simpa using hle)]
      refine congrArg (cons a) (filter_congr fun b hb => ?_)
      have hab : ((time a : τ) : WithBot τ) ≤ time b := WithBot.coe_le_coe.mpr (h.1 b hb)
      exact decide_eq_decide.mpr (iff_of_true hab (hle.trans hab))

/-- **By priority and by time within a priority**, an element is kept out by the
bound or because it is overtaken. -/
theorem records_of_prioritized (l : List α) :
    ∀ {bound : WithBot τ},
      l.Pairwise (fun a b =>
        priority b < priority a ∨ (priority b = priority a ∧ time a ≤ time b)) →
      records time bound l =
        l.filter fun a => bound ≤ time a ∧ ¬ l.Overtaken time priority a := by
  induction l with
  | nil => intro bound _; rfl
  | cons a rest ih =>
    intro bound h
    rw [pairwise_cons] at h
    have hcons : ∀ b, (a :: rest).Overtaken time priority b ↔
        (priority b < priority a ∧ time b < time a) ∨ rest.Overtaken time priority b := by
      simp [Overtaken]
    rw [records]
    split
    · next hlt =>
      rw [ih h.2, filter_cons_of_neg (by simpa using fun hle => absurd hlt (not_lt.mpr hle))]
      refine filter_congr fun b _ => decide_eq_decide.mpr (and_congr_right fun hb => not_congr ?_)
      -- an element after the bound is not overtaken by one before it
      rw [hcons, or_iff_right]
      exact fun hab => absurd (WithBot.coe_lt_coe.mpr hab.2) (not_lt.mpr (hlt.le.trans hb))
    · next hle =>
      rw [not_lt] at hle
      have ha : ¬ (a :: rest).Overtaken time priority a := by
        rintro ⟨b, hb, hprio, htime⟩
        rcases mem_cons.mp hb with rfl | hb
        · exact lt_irrefl _ hprio
        · rcases h.1 b hb with hlt | ⟨heq, -⟩
          · exact lt_asymm hprio hlt
          · exact absurd heq hprio.ne'
      rw [ih h.2, filter_cons_of_pos (by simpa using ⟨hle, ha⟩)]
      refine congrArg (cons a) (filter_congr fun b hb => decide_eq_decide.mpr ?_)
      rw [hcons, not_or, ← and_assoc]
      refine and_congr_left fun _ => ?_
      rw [not_and, not_lt, WithBot.coe_le_coe]
      constructor
      · exact fun hab => ⟨hle.trans (WithBot.coe_le_coe.mpr hab), fun _ => hab⟩
      · rintro ⟨-, hab⟩
        rcases h.1 b hb with hlt | ⟨-, hab⟩
        · exact hab hlt
        · exact hab

end List
