import Sentinel.Dependency.Indices
import Sentinel.Diagnosis.Engine

/-!
# Impaired clients of a storage

Two rules share the active hosts whose storage is impaired: several clients of one
storage that are impaired together are the shared rule's, one that is impaired among
others that are not is the local rule's.  This file says exactly when they do share
them out, and when the local rule has evidence that the storage works.

The shared rule counts active hosts, and the local rule steps back for any impaired
client, active or not: a host whose impaired peers have all gone stale is named by
neither.  And the local rule takes a peer that is not impaired for one that is fine,
although it may never have reported at all.

## Main definitions

* `Diagnosis.Names` — a diagnosis is about an entity.
* `Storage.Uses` — an edge says that an entity uses a storage.

## Main results

* `Storage.mem_peers` — who the other clients are.
* `sharedStorageFailure.names_iff`, `clientLocalStorageFailure.names_iff` — whom the
  rules name.
* `Storage.named_by_exactly_one_iff` — when an impaired host is named by exactly one.
* `Storage.only_beside_healthy_iff` — when the local rule has a healthy peer to show.
-/

namespace Sentinel

/-- A diagnosis is about an entity. -/
def Diagnosis.Names (d : Diagnosis) (e : EntityId) : Prop := e ∈ d.affectedEntities

instance (d : Diagnosis) (e : EntityId) : Decidable (d.Names e) :=
  inferInstanceAs (Decidable (e ∈ d.affectedEntities))

/-- A rule names an entity. -/
def DiagnosisRule.Names (rule : DiagnosisRule) (context : DiagnosisContext) (e : EntityId) : Prop :=
  ∃ d ∈ rule.evaluate context, d.Names e

theorem HostRule.names_iff {rule : HostRule} {context : DiagnosisContext} {e : EntityId} :
    rule.toRule.Names context e ↔
      ∃ host ∈ context.entitiesOfType .host, host.id = e ∧ rule.applies context host = true := by
  constructor
  · rintro ⟨d, hd, hnames⟩
    obtain ⟨host, hhost, happlies, rfl⟩ := HostRule.mem_evaluate.mp hd
    exact ⟨host, hhost, (List.mem_singleton.mp hnames).symm, happlies⟩
  · rintro ⟨host, hhost, rfl, happlies⟩
    exact ⟨_, HostRule.mem_evaluate.mpr ⟨host, hhost, happlies, rfl⟩, List.mem_singleton_self _⟩

namespace Storage

/-- An edge says that an entity uses a storage. -/
def Uses (context : DiagnosisContext) (client storage : EntityId) : Prop :=
  ∃ edge ∈ context.inventory.graph.edges,
    edge.dependencyType = .usesStorage ∧ edge.source = client ∧ edge.target = storage

/-- Every edge to a storage ends at a storage. -/
def EndsAtStorage (context : DiagnosisContext) : Prop :=
  ∀ edge ∈ context.inventory.graph.edges, edge.dependencyType = .usesStorage →
    ∃ storage, context.entity edge.target = some storage ∧ storage.entityType = .storage

/-- A host is known, active or not. -/
def IsHost (context : DiagnosisContext) (e : EntityId) : Prop :=
  ∃ host, context.entity e = some host ∧ host.entityType = .host

/-- A host is known and active. -/
def IsActiveHost (context : DiagnosisContext) (e : EntityId) : Prop :=
  ∃ host ∈ context.entitiesOfType .host, host.id = e

/-- Another host uses a storage that a host uses. -/
def Peer (context : DiagnosisContext) (h p : EntityId) : Prop :=
  p ≠ h ∧ IsHost context p ∧ ∃ s, Uses context h s ∧ Uses context p s

variable {context : DiagnosisContext} {h p s : EntityId}

theorem isHost_of_active (hactive : IsActiveHost context h) : IsHost context h := by
  obtain ⟨host, hmem, rfl⟩ := hactive
  obtain ⟨hget, htype, -⟩ := context.entity_of_mem hmem
  exact ⟨host, hget, htype⟩

theorem mem_storagesUsed (hindexed : context.inventory.graph.Indexed) :
    s ∈ storagesUsed context h ↔ Uses context h s := by
  rw [storagesUsed, hindexed.answers.dependenciesOfType, List.mem_map]
  constructor
  · rintro ⟨edge, hedge, rfl⟩
    obtain ⟨hmem, hend⟩ := List.mem_filter.mp hedge
    obtain ⟨hsource, htype⟩ := of_decide_eq_true hend
    exact ⟨edge, hmem, htype, hsource, rfl⟩
  · rintro ⟨edge, hmem, htype, hsource, rfl⟩
    exact ⟨edge, List.mem_filter.mpr ⟨hmem, decide_eq_true ⟨hsource, htype⟩⟩, rfl⟩

theorem mem_clientsOf : p ∈ clientsOf context s ↔ Uses context p s ∧ IsHost context p := by
  rw [← Std.ExtTreeSet.mem_toList, clientsOf, Std.ExtTreeSet.mem_toList_ofList, List.mem_filter,
    List.mem_map]
  refine and_congr ?_ ?_
  · constructor
    · rintro ⟨edge, hedge, rfl⟩
      obtain ⟨hmem, hend⟩ := List.mem_filter.mp hedge
      rw [Bool.and_eq_true, decide_eq_true_iff, decide_eq_true_iff] at hend
      exact ⟨edge, hmem, hend.1, rfl, hend.2⟩
    · rintro ⟨edge, hmem, htype, rfl, rfl⟩
      exact ⟨edge, List.mem_filter.mpr ⟨hmem, by simp [htype]⟩, rfl⟩
  · rw [Option.any_eq_true]
    simp only [decide_eq_true_iff, IsHost]

/-- The other clients of the storages a host uses. -/
theorem mem_peers :
    p ∈ peers context h ↔ ∃ s ∈ storagesUsed context h, p ∈ clientsOf context s ∧ p ≠ h := by
  rw [← Std.ExtTreeSet.mem_toList, peers, Std.ExtTreeSet.mem_toList_ofList, List.mem_flatMap]
  simp only [List.mem_filter, Std.ExtTreeSet.mem_toList, decide_eq_true_iff]

theorem mem_peers_iff (hindexed : context.inventory.graph.Indexed) :
    p ∈ peers context h ↔ Peer context h p := by
  rw [mem_peers, Peer]
  constructor
  · rintro ⟨s, hs, hp, hne⟩
    obtain ⟨huses, hhost⟩ := mem_clientsOf.mp hp
    exact ⟨hne, hhost, s, (mem_storagesUsed hindexed).mp hs, huses⟩
  · rintro ⟨hne, hhost, s, hs, huses⟩
    exact ⟨s, (mem_storagesUsed hindexed).mpr hs, mem_clientsOf.mpr ⟨huses, hhost⟩, hne⟩

end Storage

open Storage

/-! ### Whom the rules name -/

/-- The local rule names the active impaired hosts that have peers, none of which is
impaired. -/
theorem clientLocalStorageFailure.names_iff {context : DiagnosisContext} {h : EntityId} :
    clientLocalStorageFailure.toRule.Names context h ↔
      IsActiveHost context h ∧ isImpaired context h = true ∧ (∃ p, p ∈ peers context h) ∧
        ∀ p ∈ peers context h, isImpaired context p = false := by
  have happlies : ∀ host : ManagedEntity, clientLocalStorageFailure.applies context host = true ↔
      isImpaired context host.id = true ∧ (∃ p, p ∈ peers context host.id) ∧
        ∀ p ∈ peers context host.id, isImpaired context p = false := by
    intro host
    rw [clientLocalStorageFailure]
    simp only [Bool.and_eq_true, Bool.not_eq_true', List.any_eq_false, Std.ExtTreeSet.mem_toList,
      Std.ExtTreeSet.isEmpty_eq_false_iff_exists, Bool.not_eq_true]
    constructor
    · rintro ⟨⟨⟨himpaired, -⟩, hpeers⟩, hfine⟩
      exact ⟨himpaired, hpeers, hfine⟩
    · rintro ⟨himpaired, ⟨p, hp⟩, hfine⟩
      obtain ⟨s, hs, -⟩ := mem_peers.mp hp
      exact ⟨⟨⟨himpaired, List.isEmpty_eq_false_iff_exists_mem.mpr ⟨s, hs⟩⟩, p, hp⟩, hfine⟩
  rw [HostRule.names_iff]
  constructor
  · rintro ⟨host, hhost, rfl, h⟩
    exact ⟨⟨host, hhost, rfl⟩, (happlies host).mp h⟩
  · rintro ⟨⟨host, hhost, rfl⟩, h⟩
    exact ⟨host, hhost, rfl, (happlies host).mpr h⟩

namespace SharedStorage

variable {context : DiagnosisContext} {h q s : EntityId}

theorem mem_impaired :
    h ∈ impaired context ↔ IsActiveHost context h ∧ isImpaired context h = true := by
  rw [impaired, List.mem_map]
  constructor
  · rintro ⟨host, hhost, rfl⟩
    obtain ⟨hmem, himpaired⟩ := List.mem_filter.mp hhost
    exact ⟨⟨host, hmem, rfl⟩, himpaired⟩
  · rintro ⟨⟨host, hmem, rfl⟩, himpaired⟩
    exact ⟨host, List.mem_filter.mpr ⟨hmem, himpaired⟩, rfl⟩

/-- Collecting pairs by their first component. -/
theorem mem_foldl_group (uses : List (EntityId × EntityId)) :
    ∀ m : Std.ExtTreeMap EntityId (Std.ExtTreeSet EntityId),
      h ∈ ((uses.foldl group m)[s]?).getD ∅ ↔
        (s, h) ∈ uses ∨ h ∈ (m[s]?).getD ∅ :=
  Std.ExtTreeMap.mem_foldl_addTo uses

theorem mem_byStorage :
    h ∈ ((byStorage context)[s]?).getD ∅ ↔ h ∈ impaired context ∧ s ∈ storagesUsed context h := by
  rw [byStorage, mem_foldl_group]
  simp [List.mem_flatMap]

end SharedStorage

open SharedStorage

/-- A list with two different members is not a singleton. -/
theorem two_le_length_of_mem {α : Type*} {l : List α} {a b : α} (ha : a ∈ l) (hb : b ∈ l)
    (hne : a ≠ b) : 2 ≤ l.length := by
  match l, ha, hb with
  | [_], ha, hb => exact absurd ((List.mem_singleton.mp ha).trans (List.mem_singleton.mp hb).symm) hne
  | _ :: _ :: _, _, _ => simp

/-- The shared rule names an active impaired host exactly when another one uses the
same storage. -/
theorem sharedStorageFailure.names_iff {context : DiagnosisContext} {h : EntityId}
    (hindexed : context.inventory.graph.Indexed) (hends : EndsAtStorage context)
    (hhost : IsHost context h) :
    sharedStorageFailure.Names context h ↔
      h ∈ impaired context ∧ ∃ s, Uses context h s ∧
        ∃ q, q ≠ h ∧ q ∈ impaired context ∧ Uses context q s := by
  constructor
  · rintro ⟨d, hd, hnames⟩
    dsimp only [sharedStorageFailure] at hd
    split at hd
    · cases hd
    obtain ⟨⟨s, members⟩, hentry, hd⟩ := List.mem_filterMap.mp hd
    rw [Std.ExtTreeMap.mem_toList_iff_getElem?_eq_some] at hentry
    split at hd
    · cases hd
    next hsize =>
    obtain ⟨storage, hstorage, rfl⟩ := Option.map_eq_some_iff.mp hd
    obtain ⟨hget, htype⟩ := Option.filter_eq_some_iff.mp hstorage
    have hmembers : ∀ x, x ∈ members ↔ x ∈ impaired context ∧ Uses context x s := by
      intro x
      have hx : x ∈ ((byStorage context)[s]?).getD ∅ ↔
          x ∈ impaired context ∧ s ∈ storagesUsed context x := mem_byStorage
      rwa [hentry, Option.getD_some, mem_storagesUsed hindexed] at hx
    have hmem : h ∈ members := by
      rcases List.mem_append.mp hnames with hmem | hself
      · exact Std.ExtTreeSet.mem_toList.mp hmem
      · -- a host is no storage
        obtain ⟨host, hhost, hhosttype⟩ := hhost
        have hid : storage.id = s := context.inventory.keyed s storage hget
        rw [List.mem_singleton.mp hself, hid] at hhost
        obtain rfl := Option.some.inj (hhost.symm.trans hget)
        rw [hhosttype] at htype
        exact absurd htype (by decide)
    obtain ⟨q, hq, hne⟩ := (Std.ExtTreeSet.one_lt_size_iff_of_mem hmem).mp (not_le.mp hsize)
    exact ⟨((hmembers h).mp hmem).1, s, ((hmembers h).mp hmem).2, q, hne, (hmembers q).mp hq⟩
  · rintro ⟨himpaired, s, huses, q, hne, hq, hquses⟩
    obtain ⟨storage, hstorage, hstoragetype⟩ : ∃ storage, context.entity s = some storage ∧
        storage.entityType = .storage := by
      obtain ⟨edge, hedge, htype, -, rfl⟩ := huses
      exact hends edge hedge htype
    have hmem : h ∈ ((byStorage context)[s]?).getD ∅ :=
      mem_byStorage.mpr ⟨himpaired, (mem_storagesUsed hindexed).mpr huses⟩
    have hqmem : q ∈ ((byStorage context)[s]?).getD ∅ :=
      mem_byStorage.mpr ⟨hq, (mem_storagesUsed hindexed).mpr hquses⟩
    cases hentry : (byStorage context)[s]? with
    | none =>
      rw [hentry, Option.getD_none] at hmem
      exact absurd hmem (by simp)
    | some members =>
      rw [hentry, Option.getD_some] at hmem hqmem
      have hsize : 1 < members.size :=
        (Std.ExtTreeSet.one_lt_size_iff_of_mem hmem).mpr ⟨q, hqmem, hne⟩
      refine ⟨SharedStorage.diagnosis context storage members, ?_,
        List.mem_append_left _ (Std.ExtTreeSet.mem_toList.mpr hmem)⟩
      dsimp only [sharedStorageFailure]
      rw [if_neg (not_lt.mpr (two_le_length_of_mem himpaired hq (Ne.symm hne)))]
      refine List.mem_filterMap.mpr ⟨(s, members), ?_, ?_⟩
      · rw [Std.ExtTreeMap.mem_toList_iff_getElem?_eq_some]
        exact hentry
      · dsimp only
        rw [if_neg (not_le.mpr hsize), hstorage]
        simp [Option.filter, hstoragetype]

namespace Storage

/-! ### Who is blamed -/

/-- **An impaired client is named by exactly one rule**, every such host that shares a
storage, exactly when none of them has impaired peers all of which are out of service. -/
theorem named_by_exactly_one_iff (context : DiagnosisContext)
    (hindexed : context.inventory.graph.Indexed) (hends : EndsAtStorage context) :
    (∀ h, IsActiveHost context h → isImpaired context h = true → (∃ p, Peer context h p) →
      Xor (sharedStorageFailure.Names context h)
        (clientLocalStorageFailure.toRule.Names context h)) ↔
    ∀ h, IsActiveHost context h → isImpaired context h = true →
      (∃ p, Peer context h p ∧ isImpaired context p = true) →
      ∃ p, Peer context h p ∧ isImpaired context p = true ∧ IsActiveHost context p := by
  -- with an active impaired peer the shared rule names the host, without any impaired peer
  -- the local one does
  have hshared : ∀ h, IsActiveHost context h → isImpaired context h = true →
      (sharedStorageFailure.Names context h ↔
        ∃ p, Peer context h p ∧ isImpaired context p = true ∧ IsActiveHost context p) := by
    intro h hactive himpaired
    rw [sharedStorageFailure.names_iff hindexed hends (isHost_of_active hactive)]
    constructor
    · rintro ⟨-, s, huses, q, hne, hq, hquses⟩
      obtain ⟨hqactive, hqimpaired⟩ := mem_impaired.mp hq
      exact ⟨q, ⟨hne, isHost_of_active hqactive, s, huses, hquses⟩, hqimpaired, hqactive⟩
    · rintro ⟨q, ⟨hne, -, s, huses, hquses⟩, hqimpaired, hqactive⟩
      exact ⟨mem_impaired.mpr ⟨hactive, himpaired⟩, s, huses, q, hne,
        mem_impaired.mpr ⟨hqactive, hqimpaired⟩, hquses⟩
  have hlocal : ∀ h, IsActiveHost context h → isImpaired context h = true →
      (∃ p, Peer context h p) →
      (clientLocalStorageFailure.toRule.Names context h ↔
        ¬ ∃ p, Peer context h p ∧ isImpaired context p = true) := by
    intro h hactive himpaired hpeer
    rw [clientLocalStorageFailure.names_iff]
    simp only [mem_peers_iff hindexed, not_exists, not_and, Bool.not_eq_true]
    exact ⟨fun hnames => hnames.2.2.2, fun hfine => ⟨hactive, himpaired, hpeer, hfine⟩⟩
  constructor
  · rintro hexactly h hactive himpaired ⟨p, hp, hpimpaired⟩
    by_contra hnone
    rcases hexactly h hactive himpaired ⟨p, hp⟩ with ⟨hnamed, -⟩ | ⟨hnamed, -⟩
    · exact hnone ((hshared h hactive himpaired).mp hnamed)
    · exact (hlocal h hactive himpaired ⟨p, hp⟩).mp hnamed ⟨p, hp, hpimpaired⟩
  · intro hactivePeer h hactive himpaired hpeer
    rw [hshared h hactive himpaired, hlocal h hactive himpaired hpeer]
    by_cases hany : ∃ p, Peer context h p ∧ isImpaired context p = true
    · exact Or.inl ⟨hactivePeer h hactive himpaired hany, not_not.mpr hany⟩
    · refine Or.inr ⟨hany, ?_⟩
      rintro ⟨p, hp, hpimpaired, -⟩
      exact hany ⟨p, hp, hpimpaired⟩

/-- Two clients of one storage, with given lifecycles and states. -/
def twoClients (lifecycle : LifecycleState) (states : List (EntityId × Health)) : DiagnosisContext where
  environment := "lab"
  inventory :=
    (((((Inventory.new.insertEntity (.new ⟨⟨1⟩⟩ .host "node-a")).insertEntity
      { ManagedEntity.new ⟨⟨2⟩⟩ .host "node-b" with lifecycleState := lifecycle }).insertEntity
      (.new ⟨⟨3⟩⟩ .storage "fs1")).insertDependency
      (.new ⟨1⟩ ⟨⟨1⟩⟩ ⟨⟨3⟩⟩ .usesStorage)).insertDependency (.new ⟨2⟩ ⟨⟨2⟩⟩ ⟨⟨3⟩⟩ .usesStorage))
  states := .ofList (states.map fun s =>
    (s.1, (EntityState.unknown 0 s.1).setComponent 0 .storage (.new 0 s.2)))
  observations := .new

theorem indexed_twoClients (lifecycle : LifecycleState) (states : List (EntityId × Health)) :
    (twoClients lifecycle states).inventory.graph.Indexed :=
  (DependencyGraph.indexed_fromEdges [.new ⟨1⟩ ⟨⟨1⟩⟩ ⟨⟨3⟩⟩ .usesStorage,
    .new ⟨2⟩ ⟨⟨2⟩⟩ ⟨⟨3⟩⟩ .usesStorage] (by decide)).1

/-- Two active clients that are both impaired are the shared rule's. -/
theorem named_by_exactly_one_both_active :
    let context := twoClients .active [(⟨⟨1⟩⟩, .unavailable), (⟨⟨2⟩⟩, .degraded)]
    ∀ h, IsActiveHost context h → isImpaired context h = true → (∃ p, Peer context h p) →
      Xor (sharedStorageFailure.Names context h)
        (clientLocalStorageFailure.toRule.Names context h) := by
  intro context
  have hends : EndsAtStorage context := by
    intro edge hedge _
    have hall : ∀ edge ∈ context.inventory.graph.edges,
        ((context.entity edge.target).any fun e => e.entityType = .storage) = true := by
      decide +kernel
    obtain ⟨storage, hstorage, htype⟩ := (Option.any_eq_true _ _).mp (hall edge hedge)
    exact ⟨storage, hstorage, of_decide_eq_true htype⟩
  refine (named_by_exactly_one_iff context (indexed_twoClients _ _) hends).mpr ?_
  rintro h - - ⟨p, hp, hpimpaired⟩
  refine ⟨p, hp, hpimpaired, ?_⟩
  -- every host here is active
  obtain ⟨-, ⟨host, hhost, htype⟩, -⟩ := hp
  have hall : ∀ e ∈ context.inventory.all, e.lifecycleState = .active := by decide +kernel
  have hid : host.id = p := context.inventory.keyed p host hhost
  subst hid
  exact ⟨host, context.mem_entitiesOfType.mpr
    ⟨hhost, htype, hall host (Std.ExtTreeMap.mem_vals.mpr ⟨host.id, hhost⟩)⟩, rfl⟩

/-- **An impaired host that neither rule names**: the only other client of its storage
is impaired as well, and stale. -/
theorem impaired_beside_stale_client_unnamed :
    let context := twoClients .stale [(⟨⟨1⟩⟩, .unavailable), (⟨⟨2⟩⟩, .unavailable)]
    (∃ host ∈ context.entitiesOfType .host, host.id = ⟨⟨1⟩⟩) ∧
    isImpaired context ⟨⟨1⟩⟩ = true ∧ ⟨⟨2⟩⟩ ∈ (peers context ⟨⟨1⟩⟩).toList ∧
    (∀ d ∈ sharedStorageFailure.evaluate context, ¬ d.Names ⟨⟨1⟩⟩) ∧
    ∀ d ∈ clientLocalStorageFailure.toRule.evaluate context, ¬ d.Names ⟨⟨1⟩⟩ := by
  decide +kernel

end Storage

end Sentinel
