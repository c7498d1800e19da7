import Mathlib

/-!
# Lengths of time

A length of time as the standard library keeps it: 64 bits of seconds and a fraction in
nanoseconds.  Multiplying one by a number stops the program when the product is out of
range, and so does going back from an instant to one that has no calendar date.  Here such
an operation gives nothing.

A date library measures differences between instants in a type of its own, with a smaller
range; turning a length of time into such a difference is allowed to fail.

## Main definitions

* `Span` — a length of time.
* `Span.checkedMul` — the product with a number.
* `Span.toDelta` — as a difference between instants.
* `Span.before` — the instant that lies so far back.

## Main results

* `Span.isSome_checkedMul_iff`, `Span.isSome_before_iff` — when these go through.
-/

/-- A length of time, in nanoseconds. -/
structure Span where
  /-- The nanoseconds. -/
  nanos : ℕ
  /-- The seconds fit 64 bits. -/
  inRange : nanos < 2 ^ 64 * 10 ^ 9
  deriving DecidableEq

namespace Span

/-- So many seconds. -/
def ofSecs (n : UInt64) : Span where
  nanos := n.toNat * 10 ^ 9
  inRange := Nat.mul_lt_mul_of_pos_right n.toNat_lt (by decide)

/-- The longest there is. -/
def max : Span := ⟨2 ^ 64 * 10 ^ 9 - 1, by decide⟩

/-- The product with a number, when it is in range. -/
def checkedMul (span : Span) (k : ℕ) : Option Span :=
  if h : span.nanos * k < 2 ^ 64 * 10 ^ 9 then some ⟨span.nanos * k, h⟩ else none

/-- The longer of two. -/
def orLonger (span least : Span) : Span := if span.nanos < least.nanos then least else span

/-- The largest difference between instants, in nanoseconds: as many milliseconds as 63
bits hold. -/
def maxDelta : ℕ := (2 ^ 63 - 1) * 10 ^ 6

/-- As a difference between instants, in nanoseconds. -/
def toDelta (span : Span) : Option ℤ := if span.nanos ≤ maxDelta then some span.nanos else none

/-- The first instant that has a date, in nanoseconds: the year -262143 begins. -/
def firstInstant : ℤ := -8334601228800 * 10 ^ 9

/-- The instant that lies a difference back, when it has a date. -/
def before (instant delta : ℤ) : Option ℤ :=
  if firstInstant ≤ instant - delta then some (instant - delta) else none

variable {span : Span} {k : ℕ}

theorem isSome_checkedMul_iff : (span.checkedMul k).isSome = true ↔ span.nanos * k < 2 ^ 64 * 10 ^ 9 := by
  unfold checkedMul
  split
  · next h => exact iff_of_true rfl h
  · next h => exact iff_of_false Bool.false_ne_true h

theorem isSome_before_iff {instant delta : ℤ} :
    (before instant delta).isSome = true ↔ firstInstant ≤ instant - delta := by
  unfold before
  split
  · next h => exact iff_of_true rfl h
  · next h => exact iff_of_false Bool.false_ne_true h

end Span
