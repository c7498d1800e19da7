import Sentinel.Controller.Metadata
import Sentinel.Controller.Observer

/-!
# Where a host is reached

Explicit addresses win; otherwise the canonical name is tried.  There are two places to
look for explicit addresses: those the agent registered and those the configuration
declares.  The first place is looked at alone as soon as an agent has registered, even
if what it registered is an empty list.

## Main definitions

* `explicitAddress` — the address an entity is reached at, other than its name.
* `supplied`, `preferred` — the addresses the latest reports supply, and those looked at.
* `ReachedAt` — an entity is reached at one of some addresses, and not by its name.

## Main results

* `explicitAddress_after` — the address looked up after any history.
* `endpoint_supplied_iff` — when a supplied address is used.
-/

namespace Sentinel

/-- The explicit address of an entity, if there is one. -/
def explicitAddress (entity : ManagedEntity) : Option String :=
  ((((entity.metadata.get "host").bind (Json.get · "addresses")).or
    (entity.metadata.get "addresses")).bind Json.asArray).bind fun items => items.findSome? Json.asStr

/-- An entity is reached at one of some addresses, and not by falling back on its name. -/
def ReachedAt (entity : ManagedEntity) (addresses : List String) : Prop :=
  ∃ endpoint, endpointFor entity = some endpoint ∧ explicitAddress entity = some endpoint.address ∧
    endpoint.address ∈ addresses

/-- The explicit address is used, unless it is empty. -/
theorem reachedAt_iff {entity : ManagedEntity} {addresses : List String} :
    ReachedAt entity addresses ↔
      ∃ address ∈ addresses, explicitAddress entity = some address ∧ address ≠ "" := by
  have hendpoint : (endpointFor entity).map Endpoint.address =
      if ((explicitAddress entity).getD entity.canonicalName).isEmpty then none
      else some ((explicitAddress entity).getD entity.canonicalName) := by
    rw [endpointFor, apply_ite (Option.map Endpoint.address)]
    rfl
  constructor
  · rintro ⟨endpoint, hsome, hexplicit, hmem⟩
    refine ⟨endpoint.address, hmem, hexplicit, fun hempty => ?_⟩
    rw [hsome, hexplicit, Option.getD_some, hempty] at hendpoint
    cases hendpoint
  · rintro ⟨address, hmem, hexplicit, hne⟩
    rw [hexplicit, Option.getD_some, if_neg (by simpa using hne)] at hendpoint
    obtain ⟨endpoint, hsome, rfl⟩ := Option.map_eq_some_iff.mp hendpoint
    exact ⟨endpoint, hsome, hexplicit, hmem⟩

section Supplied

variable (entityId : EntityKey → EntityId) (environment : String) (events : List Event) (id : EntityId)

/-- The addresses the host's last registration supplies. -/
def registeredAddresses : List String :=
  ((registrationsOf entityId events id).getLast?.map RegisterRequest.addresses).getD []

/-- The addresses the host's last declaration supplies. -/
def declaredAddresses : List String :=
  ((declarationsOf entityId environment events id).getLast?.map EntityConfig.addresses).getD []

/-- The addresses the latest reports of a host supply. -/
def suppliedAddresses : List String :=
  registeredAddresses entityId events id ++ declaredAddresses entityId environment events id

/-- The addresses that count: the agent's once it has registered, else the declared
ones. -/
def preferredAddresses : List String :=
  if registrationsOf entityId events id = [] then declaredAddresses entityId environment events id
  else registeredAddresses entityId events id

end Supplied

variable {home : EntityId → String} {entityId : EntityKey → EntityId} {edgeId : Relation → Uuid}
  {environment : String} {id : EntityId}

theorem findSome?_asStr (addresses : List String) :
    (addresses.map Json.str).findSome? Json.asStr = addresses.head? := by
  cases addresses <;> rfl

/-- The first address of a list. -/
theorem head?_ofStrings (addresses : List String) :
    ((Json.ofStrings addresses).asArray.bind fun items => items.findSome? Json.asStr) = addresses.head? :=
  findSome?_asStr addresses

/-! ### The address looked up -/

/-- What a loaded entity has under a name is what is stored. -/
theorem Tables.get_metadata_load {tables : Tables} (hhome : home id = environment) {entity : ManagedEntity}
    (hentity : (tables.within home environment).loadInventory.get id = some entity) (name : String) :
    entity.metadata.get name = tables.field id name := by
  rw [get_loadInventory, getElem?_within, if_pos hhome] at hentity
  obtain ⟨row, hrow, rfl⟩ := Option.map_eq_some_iff.mp hentity
  rw [field, hrow]
  rfl

/-- An entity with something stored under a name is loaded. -/
theorem Tables.exists_of_field {tables : Tables} (hhome : home id = environment) {name : String}
    {value : Json} (h : tables.field id name = some value) :
    ∃ entity, (tables.within home environment).loadInventory.get id = some entity := by
  obtain ⟨row, hrow, -⟩ := Option.bind_eq_some_iff.mp h
  refine ⟨row.toEntity id, ?_⟩
  rw [get_loadInventory, getElem?_within, if_pos hhome, hrow]
  rfl

/-- **The address looked up** after any history in which an address is supplied: the first
of those that count. -/
theorem explicitAddress_after (hhome : home id = environment) (events : List Event)
    (hsupplied : suppliedAddresses entityId environment events id ≠ []) :
    ∃ entity, ((Tables.after home entityId edgeId environment events).within home
        environment).loadInventory.get id = some entity ∧
      explicitAddress entity = (preferredAddresses entityId environment events id).head? := by
  have hhost : (Tables.after home entityId edgeId environment events).field id "host" = _ :=
    Tables.field_host hhome events
  have haddresses : (Tables.after home entityId edgeId environment events).field id "addresses" = _ :=
    Tables.field_addresses hhome events
  rw [preferredAddresses]
  cases hlast : (registrationsOf entityId events id).getLast? with
  | some last =>
    -- the registration's list is looked at, whatever is in it
    have hne : registrationsOf entityId events id ≠ [] := by
      intro hnil
      rw [hnil] at hlast
      cases hlast
    rw [hlast] at hhost
    obtain ⟨entity, hentity⟩ := Tables.exists_of_field hhome hhost
    refine ⟨entity, hentity, ?_⟩
    rw [explicitAddress, Tables.get_metadata_load hhome hentity, hhost, if_neg hne, registeredAddresses, hlast]
    exact head?_ofStrings last.addresses
  | none =>
    have hnil : registrationsOf entityId events id = [] := List.getLast?_eq_none_iff.mp hlast
    rw [suppliedAddresses, registeredAddresses, hlast] at hsupplied
    cases hdeclared : (declarationsOf entityId environment events id).getLast? with
    | none =>
      rw [declaredAddresses, hdeclared] at hsupplied
      exact absurd rfl hsupplied
    | some declared =>
      rw [declaredAddresses, hdeclared] at hsupplied
      obtain ⟨before, hbefore⟩ := List.getLast?_eq_some_iff.mp hdeclared
      have hdeclares : declared.declares = some (some (.ofStrings declared.addresses)) :=
        if_neg hsupplied
      rw [hbefore, List.reverse_append, List.reverse_singleton, List.singleton_append,
        List.findSome?_cons_of_isSome (by rw [hdeclares]; rfl), hdeclares] at haddresses
      rw [hlast] at hhost
      obtain ⟨entity, hentity⟩ := Tables.exists_of_field hhome haddresses
      refine ⟨entity, hentity, ?_⟩
      rw [explicitAddress, Tables.get_metadata_load hhome hentity, Tables.get_metadata_load hhome hentity,
        hhost, haddresses, if_pos hnil, declaredAddresses, hdeclared]
      exact head?_ofStrings declared.addresses

/-- **Endpoints.**  After any history, a host for which the latest reports supply an
address is reached at one that they supply, if and only if the list that counts begins
with an address that is not empty: the registered list if the host's agent has
registered, else the declared one. -/
theorem endpoint_supplied_iff (hhome : home id = environment) (events : List Event) :
    (suppliedAddresses entityId environment events id ≠ [] →
      ∃ entity, ((Tables.after home entityId edgeId environment events).within home
          environment).loadInventory.get id = some entity ∧
        ReachedAt entity (suppliedAddresses entityId environment events id)) ↔
    suppliedAddresses entityId environment events id = [] ∨
      ∃ address ∈ (preferredAddresses entityId environment events id).head?, address ≠ "" := by
  by_cases hsupplied : suppliedAddresses entityId environment events id = []
  · exact iff_of_true (fun hne => absurd hsupplied hne) (Or.inl hsupplied)
  obtain ⟨entity, hentity, hexplicit⟩ :=
    @explicitAddress_after home entityId edgeId environment id hhome events hsupplied
  constructor
  · intro h
    obtain ⟨entity', hentity', hreached⟩ := h hsupplied
    rw [hentity] at hentity'
    cases hentity'
    obtain ⟨address, -, hsome, hne⟩ := reachedAt_iff.mp hreached
    exact Or.inr ⟨address, hexplicit ▸ hsome, hne⟩
  · rintro (hnil | ⟨address, hhead, hne⟩) -
    · exact absurd hnil hsupplied
    · refine ⟨entity, hentity, reachedAt_iff.mpr ⟨address, ?_, hexplicit.trans hhead, hne⟩⟩
      have hmem := List.mem_of_head? hhead
      rw [preferredAddresses] at hmem
      split at hmem
      · exact List.mem_append_right _ hmem
      · exact List.mem_append_left _ hmem

/-- A host that is declared with an address, and whose agent registers with another. -/
theorem endpoint_supplied_registered :
    let declared : EntityConfig := { entityType := "host", name := "h", addresses := ["10.0.0.1"] }
    let request : RegisterRequest :=
      { protocolVersion := 1, agentVersion := "0.1.0", environment := "prod", hostname := "h",
        addresses := ["10.0.0.2"], capabilities := ∅ }
    let events := [Event.discover ⟨[declared], [], "slurm", none, none⟩, .register request]
    let entityId : EntityKey → EntityId := fun _ => ⟨⟨1⟩⟩
    ∃ entity, ((Tables.after (fun _ => "prod") entityId (fun _ => ⟨0⟩) "prod" events).within
        (fun _ => "prod") "prod").loadInventory.get ⟨⟨1⟩⟩ = some entity ∧
      ReachedAt entity (suppliedAddresses entityId "prod" events ⟨⟨1⟩⟩) := by
  intro declared request events entityId
  refine (endpoint_supplied_iff rfl events).mpr (Or.inr ⟨"10.0.0.2", ?_, by decide⟩) ?_
  · decide +kernel
  · decide +kernel

/-- A host is declared with an address, and its agent registers with none.  The host is
looked for under its name. -/
theorem declared_address_hidden :
    let declared : EntityConfig := { entityType := "host", name := "h", addresses := ["10.0.0.1"] }
    let request : RegisterRequest :=
      { protocolVersion := 1, agentVersion := "0.1.0", environment := "prod", hostname := "h",
        capabilities := ∅ }
    let events := [Event.discover ⟨[declared], [], "slurm", none, none⟩, .register request]
    let entityId : EntityKey → EntityId := fun _ => ⟨⟨1⟩⟩
    let inventory := ((Tables.after (fun _ => "prod") entityId (fun _ => ⟨0⟩) "prod" events).within
      (fun _ => "prod") "prod").loadInventory
    ((inventory.get ⟨⟨1⟩⟩).bind endpointFor).map Endpoint.address = some "h" ∧
      ¬ (suppliedAddresses entityId "prod" events ⟨⟨1⟩⟩ ≠ [] →
        ∃ entity, inventory.get ⟨⟨1⟩⟩ = some entity ∧
          ReachedAt entity (suppliedAddresses entityId "prod" events ⟨⟨1⟩⟩)) := by
  intro declared request events entityId inventory
  have hname : ((inventory.get ⟨⟨1⟩⟩).bind endpointFor).map Endpoint.address = some "h" := by decide +kernel
  have hsupplied : suppliedAddresses entityId "prod" events ⟨⟨1⟩⟩ = ["10.0.0.1"] := by decide +kernel
  refine ⟨hname, fun h => ?_⟩
  rw [hsupplied] at h
  obtain ⟨entity, hentity, endpoint, hendpoint, -, hmem⟩ := h (by decide)
  rw [hentity, Option.bind_some, hendpoint, Option.map_some, Option.some.injEq] at hname
  rw [hname] at hmem
  exact absurd hmem (by decide)

end Sentinel
