import Sentinel.Controller.Builtin
import Sentinel.Inventory.Merge
import Sentinel.Lib.Text
import Sentinel.Observation

/-!
# Storage topology from mounts

Every agent reports the NFS mounts of its host, and each mount is an edge: the host
uses what the server provides.  A server is resolved, never invented from an address;
a name is enough to create a host.

## Main definitions

* `IpAddr.parses` — whether a text is an address.
* `serversIn` — the servers one mount report names.
* `resolve` — the host a server is.
* `topologyFromMounts` — the entities and edges some reports amount to.

## Main results

* `mem_topology` — the `usesStorage` edges of a topology.
-/

namespace Sentinel

/-! ### Addresses -/

namespace IpAddr

/-- What the digit of a number is worth, up to base 16. -/
def digit (radix : ℕ) (c : Char) : Option ℕ :=
  let value := if c.isDigit then some (c.toNat - '0'.toNat)
    else if 'a' ≤ c ∧ c ≤ 'f' then some (c.toNat - 'a'.toNat + 10)
    else if 'A' ≤ c ∧ c ≤ 'F' then some (c.toNat - 'A'.toNat + 10) else none
  value.filter fun value => value < radix

/-- Read a number of at most so many digits and below a bound; what follows it is
returned. -/
def readNumber (radix maxDigits bound : ℕ) (allowZeroPrefix : Bool) (s : List Char) :
    Option (List Char) :=
  let digits := (s.takeWhile fun c => (digit radix c).isSome).filterMap (digit radix)
  if digits.isEmpty || maxDigits < digits.length ||
      bound ≤ digits.foldl (fun n d => radix * n + d) 0 ||
      (!allowZeroPrefix && digits.head? = some 0 && 1 < digits.length) then none
  else some (s.drop digits.length)

/-- Read one given character. -/
def readChar (c : Char) : List Char → Option (List Char)
  | [] => none
  | d :: rest => if d = c then some rest else none

/-- Read a separator before every group but the first. -/
def readSeparator (separator : Char) (index : ℕ) (s : List Char) : Option (List Char) :=
  if 0 < index then readChar separator s else some s

/-- Read an IPv4 address: four numbers below 256, none with a zero before it. -/
def readIpv4 (s : List Char) : Option (List Char) :=
  (List.range 4).foldlM
    (fun s index => (readSeparator '.' index s).bind (readNumber 10 3 256 false)) s

/-- Read up to so many groups of an IPv6 address from the `index`-th on: how many there
are, and whether they end in an IPv4 address. -/
def readGroups (limit : ℕ) : ℕ → ℕ → List Char → ℕ × Bool × List Char
  | 0, index, s => (index, false, s)
  | fuel + 1, index, s =>
    let ipv4 := if index + 1 < limit then (readSeparator ':' index s).bind readIpv4 else none
    match ipv4 with
    | some rest => (index + 2, true, rest)
    | none =>
      match (readSeparator ':' index s).bind (readNumber 16 4 65536 true) with
      | some rest => readGroups limit fuel (index + 1) rest
      | none => (index, false, s)

/-- Read an IPv6 address: eight groups, or fewer with one `::` that stands for at least
one. -/
def readIpv6 (s : List Char) : Option (List Char) :=
  let (headSize, headIpv4, rest) := readGroups 8 8 0 s
  if headSize = 8 then some rest
  else if headIpv4 then none
  else do
    let rest ← readChar ':' rest
    let rest ← readChar ':' rest
    let limit := 8 - (headSize + 1)
    return (readGroups limit limit 0 rest).2.2

/-- Whether a text is an address, from its first character to its last. -/
def parses (s : String) : Bool :=
  ((readIpv4 s.toList).or (readIpv6 s.toList)) = some []

example : parses "10.0.0.4" = true ∧ parses "fe80::1:10.0.0.4" = true ∧ parses "::" = true ∧
    parses "10.0.0.04" = false ∧ parses "fs1" = false ∧ parses "1:2:3" = false := by
  decide +kernel

end IpAddr

/-! ### Servers -/

/-- The items, if it is an array. -/
def Json.asArr : Json → Option (List Json)
  | arr items => some items
  | _ => none

/-- The name this integration is recorded under. -/
def nfsSource : DiscoverySource := .integration "nfs"

/-- The name a derived storage entity takes, given the host that serves it. -/
def storageName (server : String) : String := server

/-- The mount table of a report. -/
def mountsIn (o : Observation) : Option (List Json) := (o.payload.get "mounts").bind Json.asArr

/-- The flat list of servers that older reports carry. -/
def flatServersIn (o : Observation) : Option (List Json) := (o.payload.get "servers").bind Json.asArr

/-- The NFS servers named by one mount report; the flat list counts where the table names
none. -/
def serversIn (o : Observation) : List String :=
  let found := ((mountsIn o).getD []).filterMap fun mount => (mount.get "server").bind Json.asStr
  let found := if found.isEmpty then ((flatServersIn o).getD []).filterMap Json.asStr else found
  found.sortDedup

/-- Whether a report carries a mount table. -/
def carriesTable (o : Observation) : Bool := (mountsIn o).isSome || (flatServersIn o).isSome

/-- A report without a table names no server. -/
theorem serversIn_of_not_carriesTable {o : Observation} (h : carriesTable o = false) :
    serversIn o = [] := by
  rw [carriesTable, Bool.or_eq_false_iff, Option.isSome_eq_false_iff, Option.isSome_eq_false_iff,
    Option.isNone_iff_eq_none, Option.isNone_iff_eq_none] at h
  rw [serversIn, h.1, h.2]
  rfl

/-- Whether an address is in a list of them. -/
def listed (addresses : Option Json) (address : String) : Bool :=
  (addresses.bind Json.asArr).any fun items =>
    (items.filterMap Json.asStr).any fun other => other = address

/-- Whether an entity registered an address. -/
def hasAddress (entity : ManagedEntity) (address : String) : Bool :=
  listed (entity.metadata.get "addresses") address ||
    listed ((entity.metadata.get "host").bind fun host => host.get "addresses") address

section Topology

variable (entityId : EntityKey → EntityId) (edgeId : EntityId × EntityId × DependencyType → Uuid)
  (environment : String)

/-- Tie a mount's server to a host's canonical name; `none` for an address that belongs to
no known host. -/
def resolve (inventory : Inventory) (server : String) : Option String :=
  if IpAddr.parses server then
    (inventory.all.find? fun entity => entity.entityType = .host && hasAddress entity server).map
      ManagedEntity.canonicalName
  else
    -- an exact match first, then the short name, then the short name in any case
    let short := String.ofList (server.toList.takeWhile fun c => c ≠ '.')
    let exact := [server, short].find? fun candidate =>
      (inventory.get (entityId ⟨environment, .host, candidate⟩)).isSome
    let similar := inventory.all.find? fun entity => entity.entityType = .host &&
      Text.eqIgnoreCase entity.canonicalName.toList short.toList
    ((exact.or (similar.map ManagedEntity.canonicalName)).or (some short))

/-- A mount whose server could not be tied to a known host. -/
structure UnresolvedServer where
  /-- The server as the mount table spells it. -/
  server : String
  /-- The hosts that mount from it. -/
  clients : List String

/-- What one pass over the mount reports produced. -/
structure StorageTopology where
  /-- Entities and edges to merge. -/
  snapshot : InventorySnapshot
  /-- Servers that could not be resolved. -/
  unresolved : List UnresolvedServer

/-- The mounts some reports name, as pairs of a server and a report. -/
def mountsNamed (observations : List Observation) : List (String × Observation) :=
  (observations.filter fun o => o.probeId = probeClientMount).flatMap fun o =>
    (serversIn o).map fun server => (server, o)

/-- The clients of each server that was resolved. -/
def clientsByServer (inventory : Inventory) (observations : List Observation) :
    Std.ExtTreeMap String (Std.ExtTreeSet EntityId) :=
  ((mountsNamed observations).filterMap fun mount =>
    (resolve entityId environment inventory mount.1).map fun host => (host, mount.2.targetEntity)).foldl
      Std.ExtTreeMap.addTo ∅

/-- How an unresolved mount's client is called. -/
def clientName (inventory : Inventory) (client : EntityId) : String :=
  ((inventory.get client).map ManagedEntity.canonicalName).getD client.uuid.toText

/-- The clients of each server that was not resolved. -/
def unresolvedServers (inventory : Inventory) (observations : List Observation) :
    Std.ExtTreeMap String (Std.ExtTreeSet String) :=
  ((mountsNamed observations).filter fun mount =>
    (resolve entityId environment inventory mount.1).isNone).foldl
      (fun servers mount => servers.addTo (mount.1, clientName inventory mount.2.targetEntity)) ∅

/-- The edge that says that a client uses a storage. -/
def usesStorage (client storage : EntityId) : DependencyEdge :=
  .new (edgeId (client, storage, .usesStorage)) client storage .usesStorage

/-- Add a server, what it provides, and who uses it; a server that mounts its own export
is not a client of itself. -/
def addServer (snapshot : InventorySnapshot) (entry : String × Std.ExtTreeSet EntityId) :
    InventorySnapshot :=
  let (server, clients) := entry
  let serverId := entityId ⟨environment, .host, server⟩
  let storageId := entityId ⟨environment, .storage, storageName server⟩
  let snapshot := snapshot.addEntity
    ((ManagedEntity.new serverId .host server).withCapabilities ["storage.nfs.server"]) rfl
  let snapshot := snapshot.addEntity (.new storageId .storage (storageName server)) rfl
  let snapshot := snapshot.addDependency
    (.new (edgeId (storageId, serverId, .provides)) storageId serverId .provides)
  (clients.toList.filter fun client => client ≠ serverId).foldl
    (fun snapshot client => snapshot.addDependency (usesStorage edgeId client storageId))
    snapshot

/-- Derive the storage topology from the latest mount reports. -/
def topologyFromMounts (inventory : Inventory) (observations : List Observation) : StorageTopology where
  snapshot := (clientsByServer entityId environment inventory observations).toList.foldl
    (addServer entityId edgeId environment) (.new nfsSource)
  unresolved := (unresolvedServers entityId environment inventory observations).toList.map fun entry =>
    ⟨entry.1, entry.2.toList⟩

end Topology

/-! ### What a topology holds -/

section Holds

variable {entityId : EntityKey → EntityId} {edgeId : EntityId × EntityId × DependencyType → Uuid}
  {environment : String} {inventory : Inventory} {observations : List Observation} {client : EntityId}
  {server : String}

/-- The clients of a server are those a report of which names it. -/
theorem mem_clientsByServer :
    client ∈ ((clientsByServer entityId environment inventory observations)[server]?).getD ∅ ↔
      ∃ o ∈ observations, o.probeId = probeClientMount ∧ o.targetEntity = client ∧
        ∃ named ∈ serversIn o, resolve entityId environment inventory named = some server := by
  rw [clientsByServer, Std.ExtTreeMap.mem_foldl_addTo, List.mem_filterMap]
  simp only [mountsNamed, List.mem_flatMap, List.mem_filter, List.mem_map, decide_eq_true_iff]
  constructor
  · rintro (⟨mount, ⟨o, ⟨ho, hprobe⟩, named, hnamed, rfl⟩, hresolve⟩ | hempty)
    · obtain ⟨host, hhost, hpair⟩ := Option.map_eq_some_iff.mp hresolve
      obtain ⟨rfl, rfl⟩ := Prod.mk.inj hpair
      exact ⟨o, ho, hprobe, rfl, named, hnamed, hhost⟩
    · simp at hempty
  · rintro ⟨o, ho, hprobe, rfl, named, hnamed, hhost⟩
    exact Or.inl ⟨(named, o), ⟨o, ⟨ho, hprobe⟩, named, hnamed, rfl⟩, by simp [hhost]⟩

/-- A server that a report names has clients. -/
theorem exists_clients {o : Observation} {named : String} (ho : o ∈ observations)
    (hprobe : o.probeId = probeClientMount) (hnamed : named ∈ serversIn o)
    (hresolve : resolve entityId environment inventory named = some server) :
    ∃ clients, (clientsByServer entityId environment inventory observations)[server]? = some clients ∧
      o.targetEntity ∈ clients := by
  have hmem : o.targetEntity ∈
      ((clientsByServer entityId environment inventory observations)[server]?).getD ∅ :=
    mem_clientsByServer.mpr ⟨o, ho, hprobe, rfl, named, hnamed, hresolve⟩
  cases hclients : (clientsByServer entityId environment inventory observations)[server]? with
  | none =>
    rw [hclients] at hmem
    exact absurd hmem Std.ExtTreeSet.not_mem_empty
  | some clients =>
    rw [hclients] at hmem
    exact ⟨clients, rfl, hmem⟩

/-- According to a report its host uses a storage: what a server that it names provides,
unless the host is that server. -/
def ImpliesUse (entityId : EntityKey → EntityId) (environment : String) (inventory : Inventory)
    (o : Observation) (storage : EntityId) : Prop :=
  ∃ named ∈ serversIn o, ∃ server, resolve entityId environment inventory named = some server ∧
    o.targetEntity ≠ entityId ⟨environment, .host, server⟩ ∧
    entityId ⟨environment, .storage, storageName server⟩ = storage

/-- Edges added one after the other. -/
theorem foldl_addDependency {α : Type*} (edge : α → DependencyEdge) (l : List α) :
    ∀ snapshot : InventorySnapshot,
      let added := l.foldl (fun snapshot a => snapshot.addDependency (edge a)) snapshot
      added.source = snapshot.source ∧ added.entities = snapshot.entities ∧
      added.dependencies =
        snapshot.dependencies ++ l.map fun a => (edge a).withDiscoverySource snapshot.source := by
  induction l with
  | nil => intro snapshot; exact ⟨rfl, rfl, (List.append_nil _).symm⟩
  | cons a l ih =>
    intro snapshot
    obtain ⟨hsource, hentities, hdependencies⟩ := ih (snapshot.addDependency (edge a))
    refine ⟨hsource, hentities, hdependencies.trans ?_⟩
    rw [List.map_cons, InventorySnapshot.addDependency, List.append_assoc, List.singleton_append]

/-- The edges a server adds. -/
def serverEdges (entityId : EntityKey → EntityId) (edgeId : EntityId × EntityId × DependencyType → Uuid)
    (environment : String) (entry : String × Std.ExtTreeSet EntityId) : List DependencyEdge :=
  let serverId := entityId ⟨environment, .host, entry.1⟩
  let storageId := entityId ⟨environment, .storage, storageName entry.1⟩
  .new (edgeId (storageId, serverId, .provides)) storageId serverId .provides ::
    (entry.2.toList.filter fun client => client ≠ serverId).map fun client =>
      usesStorage edgeId client storageId

/-- What one server adds. -/
theorem addServer_spec (snapshot : InventorySnapshot) (entry : String × Std.ExtTreeSet EntityId) :
    let added := addServer entityId edgeId environment snapshot entry
    added.source = snapshot.source ∧
    added.entities.map ManagedEntity.id = snapshot.entities.map ManagedEntity.id ++
      [entityId ⟨environment, .host, entry.1⟩, entityId ⟨environment, .storage, storageName entry.1⟩] ∧
    added.dependencies = snapshot.dependencies ++
      (serverEdges entityId edgeId environment entry).map fun edge =>
        edge.withDiscoverySource snapshot.source := by
  obtain ⟨server, clients⟩ := entry
  intro added
  obtain ⟨hsource, hentities, hdependencies⟩ := foldl_addDependency
    (fun client => usesStorage edgeId client (entityId ⟨environment, .storage, storageName server⟩))
    (clients.toList.filter fun client => client ≠ entityId ⟨environment, .host, server⟩)
    (((snapshot.addEntity ((ManagedEntity.new (entityId ⟨environment, .host, server⟩) .host
      server).withCapabilities ["storage.nfs.server"]) rfl).addEntity
      (.new (entityId ⟨environment, .storage, storageName server⟩) .storage (storageName server))
        rfl).addDependency (.new (edgeId (entityId ⟨environment, .storage, storageName server⟩,
          entityId ⟨environment, .host, server⟩, .provides))
          (entityId ⟨environment, .storage, storageName server⟩)
          (entityId ⟨environment, .host, server⟩) .provides))
  refine ⟨hsource, (congrArg _ hentities).trans ?_, hdependencies.trans ?_⟩
  · change List.map _ (snapshot.entities ++ [_] ++ [_]) = _
    rw [List.append_assoc, List.map_append]
    rfl
  · rw [InventorySnapshot.addDependency, List.append_assoc, List.singleton_append, serverEdges,
      List.map_cons, List.map_map]
    rfl

/-- What some servers add. -/
theorem foldl_addServer (entries : List (String × Std.ExtTreeSet EntityId)) :
    ∀ snapshot : InventorySnapshot,
      let added := entries.foldl (addServer entityId edgeId environment) snapshot
      added.source = snapshot.source ∧
      added.entities.map ManagedEntity.id = snapshot.entities.map ManagedEntity.id ++
        entries.flatMap (fun entry => [entityId ⟨environment, .host, entry.1⟩,
          entityId ⟨environment, .storage, storageName entry.1⟩]) ∧
      added.dependencies = snapshot.dependencies ++
        (entries.flatMap (serverEdges entityId edgeId environment)).map fun edge =>
          edge.withDiscoverySource snapshot.source := by
  induction entries with
  | nil => intro snapshot; exact ⟨rfl, (List.append_nil _).symm, (List.append_nil _).symm⟩
  | cons entry entries ih =>
    intro snapshot
    obtain ⟨hsource, hentities, hdependencies⟩ :=
      @addServer_spec entityId edgeId environment snapshot entry
    obtain ⟨hsource', hentities', hdependencies'⟩ := ih (addServer entityId edgeId environment snapshot entry)
    refine ⟨hsource'.trans hsource, hentities'.trans ?_, hdependencies'.trans ?_⟩
    · rw [hentities, List.append_assoc, List.flatMap_cons]
    · rw [hdependencies, hsource, List.append_assoc, List.flatMap_cons, List.map_append]

/-- **The uses of a topology** are those its reports imply. -/
theorem mem_topology {edge : DependencyEdge} :
    edge ∈ (topologyFromMounts entityId edgeId environment inventory observations).snapshot.dependencies ∧
      edge.dependencyType = .usesStorage ↔
    ∃ o ∈ observations, o.probeId = probeClientMount ∧
      ∃ storage, ImpliesUse entityId environment inventory o storage ∧
        edge = (usesStorage edgeId o.targetEntity storage).withDiscoverySource nfsSource := by
  have hedges := (@foldl_addServer entityId edgeId environment
    (clientsByServer entityId environment inventory observations).toList (.new nfsSource)).2.2
  rw [topologyFromMounts]
  dsimp only at hedges ⊢
  rw [hedges]
  constructor
  · rintro ⟨hedge, htype⟩
    obtain ⟨plain, hplain, rfl⟩ := List.mem_map.mp hedge
    obtain ⟨⟨server, clients⟩, hentry, hplain⟩ := List.mem_flatMap.mp hplain
    have hclients := Std.ExtTreeMap.mem_toList_iff_getElem?_eq_some.mp hentry
    rcases List.mem_cons.mp hplain with rfl | huses
    · cases htype
    · obtain ⟨client, hclient, rfl⟩ := List.mem_map.mp huses
      obtain ⟨hclient, hself⟩ := List.mem_filter.mp hclient
      have hmem : client ∈ ((clientsByServer entityId environment inventory observations)[server]?).getD ∅ := by
        rw [hclients]
        exact Std.ExtTreeSet.mem_toList.mp hclient
      obtain ⟨o, ho, hprobe, rfl, named, hnamed, hresolve⟩ := mem_clientsByServer.mp hmem
      exact ⟨o, ho, hprobe, _, ⟨named, hnamed, server, hresolve, of_decide_eq_true hself, rfl⟩, rfl⟩
  · rintro ⟨o, ho, hprobe, storage, ⟨named, hnamed, server, hresolve, hself, rfl⟩, rfl⟩
    obtain ⟨clients, hclients, hmem⟩ := exists_clients ho hprobe hnamed hresolve
    refine ⟨List.mem_map_of_mem (List.mem_flatMap.mpr ⟨(server, clients), ?_, ?_⟩), rfl⟩
    · exact Std.ExtTreeMap.mem_toList_iff_getElem?_eq_some.mpr hclients
    · refine List.mem_cons_of_mem _ (List.mem_map.mpr ⟨o.targetEntity, ?_, rfl⟩)
      exact List.mem_filter.mpr ⟨Std.ExtTreeSet.mem_toList.mpr hmem, decide_eq_true hself⟩

/-- A storage that is used is in the topology. -/
theorem mem_ids_topology {o : Observation} {storage : EntityId} (ho : o ∈ observations)
    (hprobe : o.probeId = probeClientMount) (huse : ImpliesUse entityId environment inventory o storage) :
    storage ∈ (topologyFromMounts entityId edgeId environment inventory observations).snapshot.entities.map
      ManagedEntity.id := by
  obtain ⟨named, hnamed, server, hresolve, -, rfl⟩ := huse
  have hids := (@foldl_addServer entityId edgeId environment
    (clientsByServer entityId environment inventory observations).toList (.new nfsSource)).2.1
  rw [topologyFromMounts]
  dsimp only at hids ⊢
  rw [hids]
  obtain ⟨clients, hclients, -⟩ := exists_clients ho hprobe hnamed hresolve
  refine List.mem_append_right _ (List.mem_flatMap.mpr ⟨(server, clients), ?_, ?_⟩)
  · exact Std.ExtTreeMap.mem_toList_iff_getElem?_eq_some.mpr hclients
  · exact List.mem_cons_of_mem _ List.mem_cons_self

theorem source_topology :
    (topologyFromMounts entityId edgeId environment inventory observations).snapshot.source = nfsSource :=
  (@foldl_addServer entityId edgeId environment
    (clientsByServer entityId environment inventory observations).toList (.new nfsSource)).1

end Holds

end Sentinel
