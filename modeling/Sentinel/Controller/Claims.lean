import Sentinel.Controller.Discovery

/-!
# Who claims a capability

A capability of an entity is one row, attributed to the source that claimed it last.
When a source reports the entity again, the rows attributed to it that it no longer
claims are deleted.  So the stored capabilities are a function of the claims in the
order they were made, and nothing else that a cycle does matters to them.

## Main definitions

* `claims` — every claim about an entity, in order.
* `settle` — what one claim does to the attribution of a capability.
* `ClaimedBy`, `StillClaimed` — a source's last report claims a capability; the source
  that claimed it last still does.

## Main results

* `Tables.owner_run` — **whom a capability is attributed to**, after any run.
* `foldl_settle_eq_some_iff` — the attribution in terms of the claims.
* `Tables.held_iff_claimed_iff` — when the stored capabilities are those that some
  source's last report claims.
-/

namespace Sentinel

variable {names : Uuid → Relation} {topologySource : DiscoverySource} {tables : Tables}
  {log : List Update} {id : EntityId} {capability : Capability} {source : DiscoverySource}
  {history : List InventorySnapshot}

/-- A claim: a source, and the capabilities it reports. -/
abbrev Claim := DiscoverySource × CapabilitySet

/-- The claims of a snapshot about an entity. -/
def InventorySnapshot.claims (snapshot : InventorySnapshot) (id : EntityId) : List Claim :=
  (snapshot.reportsOf id).map fun entity => (snapshot.source, entity.capabilities)

/-- Every claim about an entity, in order. -/
def claims (history : List InventorySnapshot) (id : EntityId) : List Claim :=
  history.flatMap fun snapshot => snapshot.claims id

/-- What a claim does to the attribution of a capability. -/
def settle (capability : Capability) (owner : Option DiscoverySource) (claim : Claim) :
    Option DiscoverySource :=
  if capability ∈ claim.2 then some claim.1 else owner.filter fun source => source ≠ claim.1

/-- The source a stored capability is attributed to. -/
def Tables.owner (tables : Tables) (id : EntityId) (capability : Capability) : Option DiscoverySource :=
  tables.entities[id]?.bind fun row => row.capabilities[capability]?

theorem claims_cons (snapshot : InventorySnapshot) (history : List InventorySnapshot) :
    claims (snapshot :: history) id = snapshot.claims id ++ claims history id := List.flatMap_cons

theorem claims_append (history history' : List InventorySnapshot) :
    claims (history ++ history') id = claims history id ++ claims history' id := List.flatMap_append

theorem claims_concat (history : List InventorySnapshot) (snapshot : InventorySnapshot) :
    claims (history ++ [snapshot]) id = claims history id ++ snapshot.claims id := by
  rw [claims_append, claims_cons]
  exact congrArg _ (List.append_nil _)

/-! ### What an update does -/

/-- Once a capability is claimed, it does not matter whom it was attributed to. -/
theorem foldl_settle_of_claimed (l : List Claim) :
    ∀ {owner owner' : Option DiscoverySource}, (∃ claim ∈ l, capability ∈ claim.2) →
      l.foldl (settle capability) owner = l.foldl (settle capability) owner' := by
  induction l with
  | nil => rintro owner owner' ⟨claim, hclaim, -⟩; exact absurd hclaim List.not_mem_nil
  | cons claim l ih =>
    intro owner owner' h
    rw [List.foldl_cons, List.foldl_cons]
    by_cases hc : capability ∈ claim.2
    · rw [settle, settle, if_pos hc, if_pos hc]
    · refine ih ?_
      obtain ⟨other, hother, hmem⟩ := h
      rcases List.mem_cons.mp hother with rfl | hother
      · exact absurd hmem hc
      · exact ⟨other, hother, hmem⟩

theorem foldl_settle_of_unclaimed (l : List Claim) (h : ∀ claim ∈ l, capability ∉ claim.2) :
    l.foldl (settle capability) none = none := by
  induction l with
  | nil => rfl
  | cons claim l ih =>
    rw [List.forall_mem_cons] at h
    rw [List.foldl_cons, settle, if_neg h.1]
    exact ih h.2

/-- The reconciliations of a cycle, for one capability. -/
theorem getElem?_foldl_reconciled (snapshots : List InventorySnapshot) :
    ∀ row : EntityRow,
      (snapshots.foldl (fun row s => Tables.reconciled s id row) row).capabilities[capability]? =
        (claims snapshots id).foldl (settle capability) row.capabilities[capability]? := by
  have hone : ∀ (source : DiscoverySource) (reports : List ManagedEntity) (row : EntityRow),
      (reports.foldl (fun row entity => row.reconcile source entity.capabilities) row).capabilities[capability]? =
        (reports.map fun entity => (source, entity.capabilities)).foldl (settle capability)
          row.capabilities[capability]? := by
    intro source reports
    induction reports with
    | nil => intro row; rfl
    | cons report reports ih =>
      intro row
      rw [List.foldl_cons, ih, EntityRow.getElem?_reconcile]
      rfl
  induction snapshots with
  | nil => intro row; rfl
  | cons snapshot snapshots ih =>
    intro row
    rw [List.foldl_cons, ih, Tables.reconciled, hone, claims_cons, List.foldl_append]
    rfl

/-- The capabilities of an entity after reports of it. -/
theorem mem_capabilities_foldl_absorb (reports : List ManagedEntity) :
    ∀ entity : Option ManagedEntity,
      (∃ e, reports.foldl ManagedEntity.absorb entity = some e ∧ capability ∈ e.capabilities) ↔
        (∃ e, entity = some e ∧ capability ∈ e.capabilities) ∨
          ∃ report ∈ reports, capability ∈ report.capabilities := by
  induction reports with
  | nil => intro entity; simp
  | cons report reports ih =>
    intro entity
    rw [List.foldl_cons, ih]
    cases entity with
    | none => simp [ManagedEntity.absorb]
    | some existing =>
      simp [ManagedEntity.absorb, ManagedEntity.mergeInto, Std.ExtTreeSet.mem_union_iff, or_assoc]

/-- The capabilities of an entity after snapshots. -/
theorem mem_capabilities_foldl_seen (snapshots : List InventorySnapshot) :
    ∀ entity : Option ManagedEntity,
      (∃ e, snapshots.foldl (fun entity s => s.seen id entity) entity = some e ∧
          capability ∈ e.capabilities) ↔
        (∃ e, entity = some e ∧ capability ∈ e.capabilities) ∨
          ∃ claim ∈ claims snapshots id, capability ∈ claim.2 := by
  have hstale : ∀ (snapshot : InventorySnapshot) (e : ManagedEntity),
      (Inventory.markStale snapshot e).capabilities = e.capabilities := by
    intro snapshot e
    rw [Inventory.markStale]
    split <;> rfl
  induction snapshots with
  | nil => intro entity; simp [claims]
  | cons snapshot snapshots ih =>
    intro entity
    have hseen : (∃ e, snapshot.seen id entity = some e ∧ capability ∈ e.capabilities) ↔
        ∃ e, (snapshot.reportsOf id).foldl ManagedEntity.absorb entity = some e ∧
          capability ∈ e.capabilities := by
      simp [InventorySnapshot.seen, hstale]
    rw [List.foldl_cons, ih, hseen, mem_capabilities_foldl_absorb, claims_cons, or_assoc]
    simp [InventorySnapshot.claims, or_and_right, exists_or]

/-- What saving and reconciling leave of a capability's attribution, when the entity
saved has the capabilities stored and claimed. -/
theorem owner_saved {row : Option EntityRow} {entity : Option ManagedEntity}
    {snapshots : List InventorySnapshot}
    (hentity : (∃ e, entity = some e ∧ capability ∈ e.capabilities) ↔
      (∃ r, row = some r ∧ r.capabilities[capability]?.isSome) ∨
        ∃ claim ∈ claims snapshots id, capability ∈ claim.2) :
    ((Tables.saved row entity snapshots id).bind fun row => row.capabilities[capability]?) =
      (claims snapshots id).foldl (settle capability)
        (row.bind fun row => row.capabilities[capability]?) := by
  have hfold : ∀ row : Option EntityRow,
      ((row.map fun row => snapshots.foldl (fun row s => Tables.reconciled s id row) row).bind
        fun row => row.capabilities[capability]?) =
        row.bind fun row => (claims snapshots id).foldl (settle capability) row.capabilities[capability]? := by
    rintro (_ | row)
    · rfl
    · exact getElem?_foldl_reconciled snapshots row
  rw [Tables.saved, hfold]
  by_cases hclaimed : ∃ claim ∈ claims snapshots id, capability ∈ claim.2
  · -- claimed: the entity is saved, and the claims decide
    obtain ⟨e, rfl, -⟩ := hentity.mpr (Or.inr hclaimed)
    exact foldl_settle_of_claimed _ hclaimed
  · -- not claimed: saving adds no row
    have hunclaimed : ∀ claim ∈ claims snapshots id, capability ∉ claim.2 := by
      simpa using hclaimed
    have hsaved : (((entity.map (EntityRow.save row)).or row).bind
        fun row => row.capabilities[capability]?) = row.bind fun row => row.capabilities[capability]? := by
      cases entity with
      | none => rfl
      | some e =>
        have hold : capability ∈ e.capabilities ↔
            ∃ r, row = some r ∧ r.capabilities[capability]?.isSome := by
          simpa [hclaimed] using hentity
        change (EntityRow.save row e).capabilities[capability]? = _
        rw [EntityRow.save, Std.ExtTreeMap.getElem?_union, CapabilitySet.getElem?_claimedBy]
        cases row with
        | none => simpa using hold
        | some r =>
          cases hget : r.capabilities[capability]? with
          | some owner => simp [hget]
          | none =>
            have hnot : capability ∉ e.capabilities := by
              intro hmem
              obtain ⟨r', hr, hsome⟩ := hold.mp hmem
              cases hr
              rw [hget] at hsome
              exact Bool.false_ne_true hsome
            simp [hget, hnot]
    generalize ((entity.map (EntityRow.save row)).or row) = row' at hsaved
    rw [← hsaved]
    cases row' with
    | none => exact (foldl_settle_of_unclaimed _ hunclaimed).symm
    | some row' => rfl

namespace Tables

/-- **What an update does to a capability's attribution**: its claims, in order. -/
theorem owner_update (tables : Tables) (update : Update) (id : EntityId) (capability : Capability) :
    (tables.update update).owner id capability =
      (claims update.snapshots id).foldl (settle capability) (tables.owner id capability) := by
  have hloaded : (∃ e, tables.entities[id]?.map (fun row => row.toEntity id) = some e ∧
      capability ∈ e.capabilities) ↔
        ∃ r, tables.entities[id]? = some r ∧ r.capabilities[capability]?.isSome := by
    cases tables.entities[id]? with
    | none => simp
    | some row => simp [EntityRow.mem_capabilities_toEntity]
  cases update with
  | discover cycle =>
    rw [owner, Tables.update, getElem?_discoverOnce, Update.snapshots]
    refine owner_saved ?_
    rw [Cycle.get_merged, mem_capabilities_foldl_seen, hloaded]
  | ingest snapshot =>
    rw [owner, Tables.update, getElem?_ingestSnapshot, Update.snapshots]
    refine owner_saved ?_
    rw [mem_capabilities_foldl_absorb, hloaded]
    simp [claims, InventorySnapshot.claims]

/-- **Whom a capability is attributed to**, after any run: the claims about its entity
decide, in the order they were made. -/
theorem owner_run (hrun : (discovery topologySource names).Run log tables) (id : EntityId)
    (capability : Capability) :
    tables.owner id capability = (claims (reports log) id).foldl (settle capability) none := by
  refine hrun.invariant (P := fun log tables => tables.owner id capability =
    (claims (reports log) id).foldl (settle capability) none) ?_ ?_
  · rintro tables rfl
    simp [owner, reports, claims]
  · intro log tables update _ ih _
    change (tables.update update).owner id capability = _
    rw [owner_update, ih, reports_concat, claims_append, List.foldl_append]

end Tables

/-! ### The attribution in terms of the claims -/

/-- The source that claimed a capability last. -/
def lastClaimant (l : List Claim) (capability : Capability) : Option DiscoverySource :=
  (l.reverse.find? fun claim => capability ∈ claim.2).map Prod.fst

/-- What a source claimed last. -/
def lastClaim (l : List Claim) (source : DiscoverySource) : Option CapabilitySet :=
  (l.reverse.find? fun claim => claim.1 = source).map Prod.snd

theorem lastClaimant_concat (l : List Claim) (claim : Claim) :
    lastClaimant (l ++ [claim]) capability =
      if capability ∈ claim.2 then some claim.1 else lastClaimant l capability := by
  rw [lastClaimant, List.reverse_append, List.reverse_singleton, List.singleton_append, List.find?_cons]
  by_cases h : capability ∈ claim.2
  · simp [h]
  · simp [h, lastClaimant]

theorem lastClaim_concat (l : List Claim) (claim : Claim) :
    lastClaim (l ++ [claim]) source = if claim.1 = source then some claim.2 else lastClaim l source := by
  rw [lastClaim, List.reverse_append, List.reverse_singleton, List.singleton_append, List.find?_cons]
  by_cases h : claim.1 = source
  · simp [h]
  · simp [h, lastClaim]

/-- **The attribution in terms of the claims**: a capability is attributed to the source
that claimed it last, as long as that source's last claim includes it. -/
theorem foldl_settle_eq_some_iff (l : List Claim) : l.foldl (settle capability) none = some source ↔
    lastClaimant l capability = some source ∧ ∃ held, lastClaim l source = some held ∧ capability ∈ held := by
  induction l using List.reverseRecOn with
  | nil => simp [lastClaimant]
  | append_singleton l claim ih =>
    rw [List.foldl_append, List.foldl_cons, List.foldl_nil, settle, lastClaimant_concat, lastClaim_concat]
    by_cases hc : capability ∈ claim.2
    · -- the claim takes the capability over
      rw [if_pos hc, if_pos hc]
      constructor
      · intro h
        refine ⟨h, claim.2, ?_, hc⟩
        rw [if_pos (Option.some.inj h)]
      · exact fun h => h.1
    · rw [if_neg hc, if_neg hc, Option.filter_eq_some_iff, ih]
      by_cases hsource : claim.1 = source
      · -- the source reports without it
        simp [hsource, hc]
      · simp [hsource, Ne.symm hsource]

/-! ### What the last reports claim -/

/-- The last snapshot of a source that lists an entity. -/
def lastReport (history : List InventorySnapshot) (id : EntityId) (source : DiscoverySource) :
    Option InventorySnapshot :=
  history.reverse.find? fun snapshot => snapshot.source = source ∧ snapshot.reportsOf id ≠ []

/-- A source's last report of an entity claims a capability. -/
def ClaimedBy (history : List InventorySnapshot) (id : EntityId) (source : DiscoverySource)
    (capability : Capability) : Prop :=
  ∃ snapshot, lastReport history id source = some snapshot ∧
    ∃ report ∈ snapshot.reportsOf id, capability ∈ report.capabilities

/-- The source that claimed a capability last has not reported the entity without it
since. -/
def StillClaimed (history : List InventorySnapshot) (id : EntityId) (capability : Capability) : Prop :=
  ∃ source, lastClaimant (claims history id) capability = some source ∧
    ∃ held, lastClaim (claims history id) source = some held ∧ capability ∈ held

/-- What a source claimed last is in its last report. -/
theorem claimedBy_of_lastClaim {held : CapabilitySet}
    (h : lastClaim (claims history id) source = some held) (hmem : capability ∈ held) :
    ClaimedBy history id source capability := by
  induction history using List.reverseRecOn with
  | nil => simp [claims, lastClaim] at h
  | append_singleton history snapshot ih =>
    by_cases hlists : snapshot.source = source ∧ snapshot.reportsOf id ≠ []
    · -- the last snapshot is the source's last report, and the last claim is one of its own
      refine ⟨snapshot, ?_, ?_⟩
      · rw [lastReport, List.reverse_append, List.reverse_singleton, List.singleton_append,
          List.find?_cons_of_pos (by simpa using hlists)]
      · obtain ⟨reports, report, hreports⟩ := List.eq_nil_or_concat' (snapshot.reportsOf id) |>.resolve_left
          hlists.2
        rw [claims_concat, InventorySnapshot.claims, hreports, List.map_append, ← List.append_assoc,
          List.map_singleton, lastClaim_concat, if_pos hlists.1] at h
        have hheld : report.capabilities = held := Option.some.inj h
        refine ⟨report, ?_, hheld ▸ hmem⟩
        rw [hreports]
        exact List.mem_append_right _ List.mem_cons_self
    · -- the last snapshot makes no claim for the source
      have hreport : lastReport (history ++ [snapshot]) id source = lastReport history id source := by
        rw [lastReport, List.reverse_append, List.reverse_singleton, List.singleton_append,
          List.find?_cons_of_neg (by simpa using hlists), lastReport]
      have hclaim : lastClaim (claims (history ++ [snapshot]) id) source =
          lastClaim (claims history id) source := by
        have hnone : (snapshot.claims id).reverse.find? (fun claim => claim.1 = source) = none := by
          rw [List.find?_eq_none]
          intro claim hclaim
          obtain ⟨report, hreport, rfl⟩ := List.mem_map.mp (List.mem_reverse.mp hclaim)
          have hne : snapshot.reportsOf id ≠ [] := List.ne_nil_of_mem hreport
          simpa using fun hsource => hlists ⟨hsource, hne⟩
        rw [claims_concat, lastClaim, List.reverse_append, List.find?_append, hnone, Option.none_or]
        rfl
      rw [hclaim] at h
      rw [ClaimedBy, hreport]
      exact ih h

/-- **The stored capabilities and the last reports.**  After any run, an entity holds
exactly the capabilities that some source's last report of it claims, if and only if
every such capability is still claimed by the source that claimed it last. -/
theorem Tables.held_iff_claimed_iff (hrun : (discovery topologySource names).Run log tables)
    (id : EntityId) :
    (∀ capability, (tables.owner id capability).isSome ↔
      ∃ source, ClaimedBy (reports log) id source capability) ↔
    ∀ capability, (∃ source, ClaimedBy (reports log) id source capability) →
      StillClaimed (reports log) id capability := by
  have hheld : ∀ capability, (tables.owner id capability).isSome ↔
      StillClaimed (reports log) id capability := by
    intro capability
    rw [owner_run hrun, Option.isSome_iff_exists, StillClaimed]
    simp only [foldl_settle_eq_some_iff]
  refine forall_congr' fun capability => ?_
  rw [hheld]
  refine ⟨fun h => h.mpr, fun h => ⟨?_, h⟩⟩
  rintro ⟨source, -, held, hlast, hmem⟩
  exact ⟨source, claimedBy_of_lastClaim hlast hmem⟩

/-- An agent's registration, the only report of its host. -/
theorem Tables.held_iff_claimed_of_registration :
    let host : EntityId := ⟨⟨1⟩⟩
    let registration := (InventorySnapshot.new .agentRegistration).addEntity
      ((ManagedEntity.new host .host "h").withCapabilities ["host.metrics"]) rfl
    let tables := (Tables.mk ∅ []).ingestSnapshot registration
    ∀ capability, (tables.owner host capability).isSome ↔
      ∃ source, ClaimedBy [registration] host source capability := by
  intro host registration tables
  have hrun : (discovery (.integration "nfs") fun _ => (host, host, .dependsOn)).Run
      [.ingest registration] tables := by
    refine Machine.Run.snoc (.init rfl) ⟨?_, trivial⟩
    intro snapshot hsnapshot edge hedge
    rw [Update.snapshots, List.mem_singleton] at hsnapshot
    rw [hsnapshot] at hedge
    exact absurd hedge List.not_mem_nil
  refine (held_iff_claimed_iff hrun host).mpr fun capability => ?_
  rintro ⟨source, snapshot, hlast, report, hreport, hmem⟩
  obtain rfl : snapshot = registration :=
    List.mem_singleton.mp (List.mem_reverse.mp (List.mem_of_find?_eq_some hlast))
  obtain rfl : report = registration.entities.head (by decide) :=
    List.mem_singleton.mp (List.mem_of_mem_filter hreport)
  refine ⟨.agentRegistration, ?_, _, ?_, hmem⟩
  · exact (lastClaimant_concat [] _).trans (if_pos hmem)
  · exact (lastClaim_concat [] _).trans (if_pos rfl)

/-- The storage topology and an agent claim a capability, the agent last.  When the
agent registers without it, it is gone, although the topology's last report claims
it. -/
theorem Tables.capability_dropped_though_claimed :
    let host : EntityId := ⟨⟨1⟩⟩
    let server : Capability := ⟨"storage.nfs.server"⟩
    let topology := (InventorySnapshot.new (.integration "nfs")).addEntity
      ((ManagedEntity.new host .host "h").withCapabilities ["storage.nfs.server"]) rfl
    let before := (InventorySnapshot.new .agentRegistration).addEntity
      ((ManagedEntity.new host .host "h").withCapabilities ["sentinel.agent", "storage.nfs.server"]) rfl
    let after := (InventorySnapshot.new .agentRegistration).addEntity
      ((ManagedEntity.new host .host "h").withCapabilities ["sentinel.agent"]) rfl
    let cycle : Cycle := ⟨[some (.new .staticConfig)], some topology, by decide⟩
    let updates : List Update := [.discover cycle, .ingest before, .ingest after]
    ClaimedBy (reports updates) host (.integration "nfs") server ∧
      (updates.foldl Tables.update (Tables.mk ∅ [])).owner host server = none := by
  intro host server topology before after cycle updates
  exact ⟨⟨topology, rfl, topology.entities.head (by decide), List.mem_singleton.mpr rfl,
    by decide +kernel⟩, by decide +kernel⟩

end Sentinel
