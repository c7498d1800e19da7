import Sentinel.Config
import Sentinel.Inventory.Nfs

/-!
# Which address to report

The addresses of a host are ranked together with their interfaces, and only the addresses
are kept; each is then given the first interface of the host that has it.  Where one address
is configured on several interfaces, that is not the interface it was ranked with, and may
be the loopback interface.

## Main definitions

* `isUnreachableAddress`, `rankAddresses` — which addresses are ranked, and how.
* `usable`, `choose` — the candidates, and what is reported.
* `SettledChoice` — what a choice owes to the interfaces.

## Main results

* `usable_eq` — the candidates, where no address is on several interfaces.
* `settledChoice_iff` — **a choice is settled exactly if no usable address is on several
  interfaces.**
-/

namespace Sentinel

/-! ### Addresses -/

namespace IpAddr

/-- The numbers of an IPv4 address. -/
def octets (s : List Char) : List ℕ := (s.splitOn '.').map Text.ofDigits

/-- The number that hexadecimal digits denote. -/
def ofHex (s : List Char) : ℕ := (s.filterMap (digit 16)).foldl (fun n d => 16 * n + d) 0

/-- The groups of a part of an IPv6 address; an IPv4 address is two of them. -/
def groups (s : List Char) : List ℕ :=
  if s = [] then [] else (s.splitOn ':').flatMap fun group =>
    match octets group with
    | [a, b, c, d] => [256 * a + b, 256 * c + d]
    | _ => [ofHex group]

/-- The eight groups of an IPv6 address; a double colon stands for zeros. -/
def segments (s : List Char) : List ℕ :=
  match Text.splitOnce "::".toList s with
  | some (head, tail) =>
    groups head ++ List.replicate (8 - ((groups head).length + (groups tail).length)) 0 ++ groups tail
  | none => groups s

end IpAddr

/-- Whether an address tells another machine nothing about how to reach this one: loopback,
link-local, unspecified, or no address at all. -/
def isUnreachableAddress (address : String) : Bool :=
  let s := address.toList
  if IpAddr.readIpv4 s = some [] then
    let octets := IpAddr.octets s
    octets.head? = some 127 || octets.take 2 = [169, 254] || octets = [0, 0, 0, 0]
  else if IpAddr.readIpv6 s = some [] then
    let segments := IpAddr.segments s
    segments = [0, 0, 0, 0, 0, 0, 0, 1] || segments = [0, 0, 0, 0, 0, 0, 0, 0] ||
      segments.head?.any fun segment => segment / 64 = 0xfe80 / 64
  else true

example : isUnreachableAddress "127.0.0.1" = true ∧ isUnreachableAddress "fe80::1" = true ∧
    isUnreachableAddress "::1" = true ∧ isUnreachableAddress "10.0.0.1" = false ∧
    isUnreachableAddress "2001:db8::10.0.0.1" = false := by
  decide +kernel

/-! ### Interfaces -/

/-- An address, and the interface it is configured on. -/
structure InterfaceAddress where
  /-- Interface name, as the kernel reports it. -/
  interface : String
  /-- The address configured on it. -/
  address : String

/-- Interface name prefixes that belong to something virtual. -/
def virtualInterfacePrefixes : List String :=
  ["docker", "br-", "veth", "virbr", "vboxnet", "tailscale", "zt", "cni", "flannel", "podman", "lxc", "lxd", "tun",
    "tap", "wg", "kube"]

/-- Whether an interface looks like something a hypervisor or container runtime created. -/
def isVirtualInterfaceName (name : String) : Bool :=
  virtualInterfacePrefixes.any fun start => start.toList.isPrefixOf name.toList

namespace InterfaceAddress

/-- Physical interfaces before virtual ones, IPv4 before IPv6, then by name and address. -/
def rank (entry : InterfaceAddress) : Bool ×ₗ Bool ×ₗ String ×ₗ String :=
  toLex (isVirtualInterfaceName entry.interface,
    toLex (decide (':' ∈ entry.address.toList), toLex (entry.interface, entry.address)))

theorem rank_injective : Function.Injective rank := by
  rintro ⟨interface, address⟩ ⟨interface', address'⟩ h
  have hnames := (Prod.mk.inj (toLex.injective (Prod.mk.inj (toLex.injective (Prod.mk.inj (toLex.injective h)).2)).2))
  rw [InterfaceAddress.mk.injEq]
  exact hnames

instance : LinearOrder InterfaceAddress := LinearOrder.lift' rank rank_injective

/-- Whether another machine can reach this one there. -/
def isUsable (entry : InterfaceAddress) : Bool := entry.interface ≠ "lo" && !isUnreachableAddress entry.address

end InterfaceAddress

/-- Order addresses so that the first is the one most likely to reach this host. -/
def rankAddresses (addresses : List InterfaceAddress) : List String :=
  (((addresses.filter InterfaceAddress.isUsable).insertionSort (· ≤ ·)).map
    InterfaceAddress.address).destutter (· ≠ ·)

/-! ### What is reported -/

/-- Where the reported address came from. -/
inductive AddressSource
  /-- It was configured. -/
  | configured
  /-- Its interface was configured. -/
  | interface (name : String)
  /-- Detected, with one plausible candidate. -/
  | detected
  /-- Detected, with several equally plausible interfaces. -/
  | ambiguous (interfaces : List String)
  /-- Nothing usable was found. -/
  | none
  /-- The configured interface has no usable address. -/
  | interfaceEmpty (name : String)
  deriving DecidableEq

/-- Which addresses to report, and why. -/
structure AddressChoice where
  /-- The addresses to report, best first. -/
  addresses : List String
  /-- How they were arrived at. -/
  source : AddressSource
  /-- Every address that could have been reported, ranked. -/
  candidates : List InterfaceAddress
  deriving DecidableEq

/-- What the configuration of an agent says of its address. -/
structure AddressConfig extends AgentConfig where
  /-- The address to report. -/
  address : Option String := Option.none
  /-- The interface whose addresses to report. -/
  interface : Option String := Option.none

/-- The candidates, filtered and ranked, keeping their interface names. -/
def usable (all : List InterfaceAddress) : List InterfaceAddress :=
  (rankAddresses all).filterMap fun address =>
    (all.find? fun entry => entry.address = address).map fun entry => ⟨entry.interface, address⟩

/-- Interfaces that could each equally be the one peers use. -/
def plausibleInterfaces (candidates : List InterfaceAddress) : List String :=
  candidates.foldl
    (fun names candidate =>
      if isVirtualInterfaceName candidate.interface then names
      else if candidate.interface ∈ names then names else names ++ [candidate.interface]) []

/-- Work out which addresses this host should report. -/
def choose (config : AddressConfig) (all : List InterfaceAddress) : AddressChoice :=
  let candidates := usable all
  match config.address, config.interface with
  | some address, _ => ⟨[address], .configured, candidates⟩
  | Option.none, some interface =>
    let onInterface := (candidates.filter fun c => c.interface = interface).map InterfaceAddress.address
    if onInterface = [] then ⟨[], .interfaceEmpty interface, candidates⟩
    else ⟨onInterface, .interface interface, candidates⟩
  | Option.none, Option.none =>
    let addresses := candidates.map InterfaceAddress.address
    let names := plausibleInterfaces candidates
    let source := if addresses = [] then .none
      else if names.length ≤ 1 then .detected else .ambiguous names
    ⟨addresses, source, candidates⟩

/-- What a choice owes to the interfaces: it does not depend on their order, it reports what
is usable on the interface configured, in rank order, no address twice, and gives no
candidate an interface that it is not usable on. -/
structure SettledChoice (config : AddressConfig) (all : List InterfaceAddress) : Prop where
  stable : ∀ all' : List InterfaceAddress, all'.Perm all → choose config all' = choose config all
  named : ∀ interface, config.address = Option.none → config.interface = some interface →
    (∀ address, address ∈ (choose config all).addresses ↔
      ⟨interface, address⟩ ∈ all ∧ (⟨interface, address⟩ : InterfaceAddress).isUsable = true) ∧
    (choose config all).addresses.Pairwise fun address address' =>
      (⟨interface, address⟩ : InterfaceAddress) < ⟨interface, address'⟩
  nodup : (choose config all).addresses.Nodup
  attributed : ∀ candidate ∈ (choose config all).candidates, candidate ∈ all ∧ candidate.isUsable = true

section Candidates

variable {all all' : List InterfaceAddress} {entry : InterfaceAddress} {config : AddressConfig}

/-- No usable address is on several interfaces. -/
def OnOneInterface (all : List InterfaceAddress) : Prop :=
  ∀ entry ∈ all, entry.isUsable = true → ∀ other ∈ all, other.address = entry.address →
    other.interface = entry.interface

theorem candidates_choose (config : AddressConfig) (all : List InterfaceAddress) :
    (choose config all).candidates = usable all := by
  unfold choose
  dsimp only
  split
  · rfl
  · split <;> rfl
  · rfl

/-- An address is ranked if it is usable on some interface. -/
theorem mem_rankAddresses {address : String} :
    address ∈ rankAddresses all ↔ ∃ entry ∈ all, entry.isUsable = true ∧ entry.address = address := by
  have hsorted : address ∈ rankAddresses all ↔
      address ∈ ((all.filter InterfaceAddress.isUsable).insertionSort (· ≤ ·)).map InterfaceAddress.address := by
    unfold rankAddresses
    constructor
    · exact fun h => (List.destutter_sublist _ _).subset h
    · intro h
      cases hlist : ((all.filter InterfaceAddress.isUsable).insertionSort (· ≤ ·)).map InterfaceAddress.address with
      | nil => rw [hlist] at h; exact absurd h List.not_mem_nil
      | cons first rest => rw [hlist] at h; exact List.mem_destutter'_ne first h
  rw [hsorted, List.mem_map]
  simp only [List.mem_insertionSort, List.mem_filter, and_assoc]

/-- The address that stands first is a candidate under its own interface, and under no
other, if it is usable somewhere. -/
theorem candidate_of_first {first : InterfaceAddress} (all : List InterfaceAddress)
    (h : ∃ entry ∈ first :: all, entry.isUsable = true ∧ entry.address = first.address) :
    first ∈ usable (first :: all) ∧
      ∀ candidate ∈ usable (first :: all), candidate.address = first.address → candidate = first := by
  have hfound : (first :: all).find? (fun entry => entry.address = first.address) = some first :=
    List.find?_cons_of_pos (decide_eq_true rfl)
  constructor
  · refine List.mem_filterMap.mpr ⟨first.address, mem_rankAddresses.mpr h, ?_⟩
    rw [hfound, Option.map_some]
  · intro candidate hcandidate haddress
    obtain ⟨address, -, hcandidate⟩ := List.mem_filterMap.mp hcandidate
    obtain ⟨found, hfound', rfl⟩ := Option.map_eq_some_iff.mp hcandidate
    obtain rfl : address = first.address := haddress
    rw [hfound, Option.some.injEq] at hfound'
    rw [← hfound']

/-- **The candidates, where no address is on several interfaces.** -/
theorem usable_eq (h : OnOneInterface all) : usable all = (all.filter InterfaceAddress.isUsable).sortDedup := by
  have hmem : ∀ {entry}, entry ∈ (all.filter InterfaceAddress.isUsable).insertionSort (· ≤ ·) →
      entry ∈ all ∧ entry.isUsable = true := fun hentry =>
    List.mem_filter.mp ((List.mem_insertionSort _).mp hentry)
  -- the address tells the entries apart, so repeated addresses are repeated entries
  have hranked : rankAddresses all = ((all.filter InterfaceAddress.isUsable).sortDedup).map InterfaceAddress.address := by
    refine (List.map_destutter fun a ha b hb => not_congr ⟨congrArg _, fun heq => ?_⟩).symm
    obtain ⟨ha, hausable⟩ := hmem ha
    obtain ⟨hb, -⟩ := hmem hb
    have hinterface := h a ha hausable b hb heq.symm
    cases a
    cases b
    rw [InterfaceAddress.mk.injEq]
    exact ⟨hinterface.symm, heq⟩
  rw [usable, hranked, List.filterMap_map]
  conv_rhs => rw [← @List.filterMap_some _ ((all.filter InterfaceAddress.isUsable).sortDedup)]
  refine List.filterMap_congr fun entry hentry => ?_
  obtain ⟨hentry, husable⟩ := List.mem_filter.mp (List.mem_sortDedup.mp hentry)
  dsimp only [Function.comp]
  obtain ⟨found, hfound⟩ : ∃ found, all.find? (fun other => other.address = entry.address) = some found :=
    Option.isSome_iff_exists.mp (List.find?_isSome.mpr ⟨entry, hentry, decide_eq_true rfl⟩)
  have haddress : found.address = entry.address := by simpa using List.find?_some hfound
  have hinterface := h entry hentry husable found (List.mem_of_find?_eq_some hfound) haddress
  rw [hfound, Option.map_some, hinterface]

/-! ### When a choice is settled -/

/-- With an interface configured, its candidates are reported. -/
theorem addresses_of_interface {interface : String} (haddress : config.address = Option.none)
    (hinterface : config.interface = some interface) : (choose config all).addresses =
      ((usable all).filter fun candidate => candidate.interface = interface).map InterfaceAddress.address := by
  simp only [choose, haddress, hinterface]
  split
  · next hempty => exact hempty.symm
  · rfl

/-- What is reported is the configured address, or some of the candidates. -/
theorem addresses_choose (config : AddressConfig) (all : List InterfaceAddress) :
    (∃ address, (choose config all).addresses = [address]) ∨
      (choose config all).addresses.Sublist ((usable all).map InterfaceAddress.address) := by
  cases haddress : config.address with
  | some address =>
    refine Or.inl ⟨address, ?_⟩
    simp only [choose, haddress]
  | none =>
    right
    cases hinterface : config.interface with
    | some interface =>
      rw [addresses_of_interface haddress hinterface]
      exact List.filter_sublist.map _
    | none =>
      simp only [choose, haddress, hinterface]
      exact List.Sublist.refl _

theorem OnOneInterface.perm (h : OnOneInterface all) (hperm : all'.Perm all) : OnOneInterface all' :=
  fun entry hentry husable other hother =>
    h entry (hperm.mem_iff.mp hentry) husable other (hperm.mem_iff.mp hother)

/-- Where no address is on several interfaces, the order of the interfaces is not seen. -/
theorem choose_perm (h : OnOneInterface all) (hperm : all'.Perm all) : choose config all' = choose config all := by
  have husable : usable all' = usable all := by
    rw [usable_eq h, usable_eq (h.perm hperm), List.sortDedup_eq_iff]
    intro entry
    rw [List.mem_filter, List.mem_filter, hperm.mem_iff]
  unfold choose
  rw [husable]

theorem nodup_addresses_usable (h : OnOneInterface all) : ((usable all).map InterfaceAddress.address).Nodup := by
  rw [usable_eq h]
  refine (List.nodup_map_iff_inj_on ((List.pairwise_sortDedup _).imp ne_of_lt)).mpr ?_
  intro entry hentry other hother haddress
  obtain ⟨hentry, husable⟩ := List.mem_filter.mp (List.mem_sortDedup.mp hentry)
  obtain ⟨hother, -⟩ := List.mem_filter.mp (List.mem_sortDedup.mp hother)
  have hinterface := h entry hentry husable other hother haddress.symm
  cases entry
  cases other
  rw [InterfaceAddress.mk.injEq]
  exact ⟨hinterface.symm, haddress⟩

/-- A choice that does not depend on the order of the interfaces has no address on several:
each of them would give its name to the address, if it stood first. -/
theorem onOneInterface_of_stable
    (h : ∀ all' : List InterfaceAddress, all'.Perm all → choose config all' = choose config all) :
    OnOneInterface all := by
  have hcandidates : ∀ all' : List InterfaceAddress, all'.Perm all → usable all' = usable all := by
    intro all' hperm
    rw [← candidates_choose config all', h all' hperm, candidates_choose]
  intro entry hentry husable other hother haddress
  have hfirst := List.perm_cons_erase hentry
  have hfirst' := List.perm_cons_erase hother
  obtain ⟨hcandidate, -⟩ := candidate_of_first (all.erase entry)
    ⟨entry, List.mem_cons_self, husable, rfl⟩
  obtain ⟨-, honly⟩ := candidate_of_first (all.erase other)
    ⟨entry, hfirst'.subset hentry, husable, haddress.symm⟩
  rw [hcandidates _ hfirst.symm] at hcandidate
  rw [hcandidates _ hfirst'.symm] at honly
  rw [honly entry hcandidate haddress.symm]

/-- **A choice is settled exactly if no usable address is on several interfaces.** -/
theorem settledChoice_iff (config : AddressConfig) (all : List InterfaceAddress) :
    SettledChoice config all ↔ OnOneInterface all := by
  refine ⟨fun h => onOneInterface_of_stable h.stable, fun h => ?_⟩
  have hmem : ∀ {candidate}, candidate ∈ usable all ↔ candidate ∈ all ∧ candidate.isUsable = true := by
    intro candidate
    rw [usable_eq h, List.mem_sortDedup, List.mem_filter]
  refine ⟨fun all' hperm => choose_perm h hperm, fun interface haddress hinterface => ⟨fun address => ?_, ?_⟩, ?_, ?_⟩
  · rw [addresses_of_interface haddress hinterface, ← hmem, List.mem_map]
    simp only [List.mem_filter, decide_eq_true_eq]
    constructor
    · rintro ⟨candidate, ⟨hcandidate, rfl⟩, rfl⟩
      exact hcandidate
    · exact fun hcandidate => ⟨_, ⟨hcandidate, rfl⟩, rfl⟩
  · rw [addresses_of_interface haddress hinterface, List.pairwise_map, usable_eq h]
    refine ((List.pairwise_sortDedup _).filter _).imp_of_mem fun {candidate candidate'} hc hc' hlt => ?_
    obtain ⟨i, address⟩ := candidate
    obtain ⟨i', address'⟩ := candidate'
    obtain rfl : i = interface := of_decide_eq_true (List.mem_filter.mp hc).2
    obtain rfl : i' = i := of_decide_eq_true (List.mem_filter.mp hc').2
    exact hlt
  · rcases addresses_choose config all with ⟨address, haddress⟩ | hsub
    · rw [haddress]
      exact List.nodup_singleton address
    · exact hsub.nodup (nodup_addresses_usable h)
  · intro candidate hcandidate
    rwa [candidates_choose, hmem] at hcandidate

/-- One address on the loopback interface and on another: which of them is given its name
depends on which stands first. -/
theorem loopback_named :
    let all : List InterfaceAddress := [⟨"lo", "203.0.113.7"⟩, ⟨"eth0", "203.0.113.7"⟩]
    ¬ SettledChoice { interface := some "eth0" } all ∧
      choose { interface := some "eth0" } all = ⟨[], .interfaceEmpty "eth0", [⟨"lo", "203.0.113.7"⟩]⟩ := by
  dsimp only
  have hchoose : choose { interface := some "eth0" } [⟨"lo", "203.0.113.7"⟩, ⟨"eth0", "203.0.113.7"⟩] =
      ⟨[], .interfaceEmpty "eth0", [⟨"lo", "203.0.113.7"⟩]⟩ := by
    decide +kernel
  refine ⟨fun h => ?_, hchoose⟩
  have hcandidate := h.attributed ⟨"lo", "203.0.113.7"⟩ (by rw [hchoose]; exact List.mem_singleton_self _)
  exact absurd hcandidate.2 (by decide +kernel)

end Candidates

end Sentinel
