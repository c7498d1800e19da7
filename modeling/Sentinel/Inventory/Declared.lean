import Sentinel.Config.Validate
import Sentinel.Lib.Cutting

/-!
# What a declaration comes to

The check of a configuration and the snapshot of what it declares parse types, references
and criticalities each on its own, and the snapshot skips what it cannot parse.  Whatever
the check accepts, the snapshot can parse.

## Main definitions

* `EntityConfig.DeclaredAs`, `DependencyConfig.DeclaredAs` — an entity and an edge are what
  was declared.
* `Declared` — a snapshot is what was declared.

## Main results

* `StaticConfigProvider.snapshot_spec` — what is in the snapshot.
* `declared_of_isOk` — **the snapshot of an accepted configuration is what it declares.**
-/

namespace Sentinel

/-- Stable string form of a kind of relation. -/
def DependencyType.asStr : DependencyType → String
  | dependsOn => "depends_on"
  | hostedOn => "hosted_on"
  | provides => "provides"
  | usesStorage => "uses_storage"
  | usesScheduler => "uses_scheduler"
  | networkReaches => "network_reaches"
  | observes => "observes"
  | other name => name

/-- Stable string form of a criticality. -/
def Criticality.asStr : Criticality → String
  | critical => "critical"
  | important => "important"
  | optional => "optional"

theorem EntityType.parse_eq_some_iff {s : String} {entityType : EntityType} :
    EntityType.parse s = some entityType ↔ entityType.asStr = s := by
  constructor
  · intro h
    unfold parse at h
    split_ifs at h with h1 h2 h3 h4 h5 <;> obtain rfl := Option.some.inj h <;> exact Eq.symm ‹s = _›
  · rintro rfl
    cases entityType <;> rfl

theorem DependencyType.asStr_parse (s : String) : (DependencyType.parse s).asStr = s := by
  unfold parse
  split_ifs <;> first | exact Eq.symm ‹s = _› | rfl

theorem Criticality.parse_eq_some_iff {s : String} {criticality : Criticality} :
    Criticality.parse s = some criticality ↔ criticality.asStr = s := by
  constructor
  · intro h
    unfold parse at h
    split_ifs at h with h1 h2 h3 <;> obtain rfl := Option.some.inj h <;> exact Eq.symm ‹s = _›
  · rintro rfl
    cases criticality <;> rfl

/-! ### What is in the snapshot -/

/-- Steps that each append what one declaration comes to append what all come to. -/
theorem InventorySnapshot.foldl_appends {α β : Type*} (look : InventorySnapshot → List β)
    {step : InventorySnapshot → α → InventorySnapshot} (f : α → Option β)
    (hsource : ∀ snapshot declared, (step snapshot declared).source = snapshot.source)
    (hlook : ∀ snapshot declared, snapshot.source = .staticConfig →
      look (step snapshot declared) = look snapshot ++ (f declared).toList) (declarations : List α) :
    ∀ snapshot : InventorySnapshot, snapshot.source = .staticConfig →
      (declarations.foldl step snapshot).source = .staticConfig ∧
        look (declarations.foldl step snapshot) = look snapshot ++ declarations.filterMap f := by
  induction declarations with
  | nil => exact fun snapshot h => ⟨h, (List.append_nil _).symm⟩
  | cons declared declarations ih =>
    intro snapshot h
    obtain ⟨ihsource, ihlook⟩ := ih (step snapshot declared) ((hsource snapshot declared).trans h)
    refine ⟨ihsource, ?_⟩
    rw [List.foldl_cons, ihlook, hlook snapshot declared h, List.append_assoc, List.filterMap_cons]
    cases f declared <;> rfl

namespace StaticConfigProvider

variable (entityId : EntityKey → EntityId) (edgeId : Relation → Uuid) (provider : StaticConfigProvider)

/-- The entity a declaration comes to, if its type parses. -/
def entityOf (declared : EntityConfig) : Option ManagedEntity :=
  (EntityType.parse declared.entityType).map fun entityType =>
    (declared.entity (entityId ⟨provider.environment, entityType, declared.name⟩)
      entityType).withDiscoverySource .staticConfig

/-- The edge a declaration comes to, if its ends parse. -/
def edgeOf (declared : DependencyConfig) : Option DependencyEdge := do
  let source ← provider.resolve entityId declared.source
  let target ← provider.resolve entityId declared.target
  let dependencyType := DependencyType.parse declared.dependencyType
  return ((DependencyEdge.new (edgeId (source, target, dependencyType)) source target dependencyType).withCriticality
    ((Criticality.parse declared.criticality).getD .critical)).withDiscoverySource .staticConfig

theorem addDeclared_spec (snapshot : InventorySnapshot) (declared : EntityConfig) :
    (provider.addDeclared entityId snapshot declared).source = snapshot.source ∧
      (snapshot.source = .staticConfig → (provider.addDeclared entityId snapshot declared).entities =
        snapshot.entities ++ (provider.entityOf entityId declared).toList) ∧
      (provider.addDeclared entityId snapshot declared).dependencies = snapshot.dependencies := by
  unfold addDeclared entityOf
  cases EntityType.parse declared.entityType with
  | none => exact ⟨rfl, fun _ => (List.append_nil _).symm, rfl⟩
  | some entityType =>
    refine ⟨rfl, fun h => ?_, rfl⟩
    rw [Option.map_some, ← h]
    rfl

theorem addEdge_spec (snapshot : InventorySnapshot) (declared : DependencyConfig) :
    (provider.addEdge entityId edgeId snapshot declared).source = snapshot.source ∧
      (provider.addEdge entityId edgeId snapshot declared).entities = snapshot.entities ∧
      (snapshot.source = .staticConfig → (provider.addEdge entityId edgeId snapshot declared).dependencies =
        snapshot.dependencies ++ (provider.edgeOf entityId edgeId declared).toList) := by
  unfold addEdge edgeOf
  cases provider.resolve entityId declared.source with
  | none => exact ⟨rfl, rfl, fun _ => (List.append_nil _).symm⟩
  | some source =>
    cases provider.resolve entityId declared.target with
    | none => exact ⟨rfl, rfl, fun _ => (List.append_nil _).symm⟩
    | some target =>
      refine ⟨rfl, rfl, fun h => ?_⟩
      rw [← h]
      rfl

/-- What is in the snapshot, and what it is attributed to. -/
theorem snapshot_spec : (provider.snapshot entityId edgeId).source = .staticConfig ∧
    (provider.snapshot entityId edgeId).entities = provider.entities.filterMap (provider.entityOf entityId) ∧
    (provider.snapshot entityId edgeId).dependencies =
      provider.dependencies.filterMap (provider.edgeOf entityId edgeId) := by
  have hdeclared := addDeclared_spec entityId provider
  have hedge := addEdge_spec entityId edgeId provider
  obtain ⟨hsource, hentities⟩ := InventorySnapshot.foldl_appends InventorySnapshot.entities _
    (fun s a => (hdeclared s a).1) (fun s a => (hdeclared s a).2.1) provider.entities (.new .staticConfig) rfl
  obtain ⟨-, hdependencies⟩ := InventorySnapshot.foldl_appends InventorySnapshot.dependencies (fun _ => none)
    (fun s a => (hdeclared s a).1) (fun s a _ => (hdeclared s a).2.2.trans (List.append_nil _).symm)
    provider.entities (.new .staticConfig) rfl
  obtain ⟨hsource', hdependencies'⟩ := InventorySnapshot.foldl_appends InventorySnapshot.dependencies _
    (fun s a => (hedge s a).1) (fun s a => (hedge s a).2.2) provider.dependencies _ hsource
  obtain ⟨-, hentities'⟩ := InventorySnapshot.foldl_appends InventorySnapshot.entities (fun _ => none)
    (fun s a => (hedge s a).1) (fun s a _ => (hedge s a).2.1.trans (List.append_nil _).symm)
    provider.dependencies _ hsource
  refine ⟨hsource', hentities'.trans ?_, hdependencies'.trans ?_⟩
  · rw [hentities]
    simp [InventorySnapshot.new]
  · rw [hdependencies]
    simp [InventorySnapshot.new]

variable {entityId edgeId} in
/-- The reports of the configuration. -/
theorem entities_snapshot : (provider.snapshot entityId edgeId).entities = provider.entities.filterMap fun declared =>
    (EntityType.parse declared.entityType).map fun entityType =>
      (declared.entity (entityId ⟨provider.environment, entityType, declared.name⟩)
        entityType).withDiscoverySource .staticConfig :=
  (snapshot_spec entityId edgeId provider).2.1

end StaticConfigProvider

/-! ### What was declared -/

section Declared

variable {entityId : EntityKey → EntityId} {edgeId : Relation → Uuid} {environment : String}

/-- The natural key of an entity. -/
def ManagedEntity.key (environment : String) (entity : ManagedEntity) : EntityKey :=
  ⟨environment, entity.entityType, entity.canonicalName⟩

/-- An entity is what was declared, with nothing left out. -/
structure EntityConfig.DeclaredAs (entityId : EntityKey → EntityId) (environment : String) (declared : EntityConfig)
    (entity : ManagedEntity) : Prop where
  entityType : entity.entityType.asStr = declared.entityType
  canonicalName : entity.canonicalName = declared.name
  id : entity.id = entityId (entity.key environment)
  displayName : entity.displayName = declared.displayName.getD declared.name
  cluster : entity.cluster = declared.cluster
  labels : entity.labels = declared.labels
  capabilities : ∀ capability : Capability, capability ∈ entity.capabilities ↔ capability.name ∈ declared.capabilities
  metadata : entity.metadata = declared.metadata

/-- A reference names the entity that has a type and a name. -/
def Refers (reference : String) (key : EntityKey) : Prop :=
  reference = key.entityType.asStr ++ "/" ++ key.canonicalName

/-- An edge is what was declared. -/
structure DependencyConfig.DeclaredAs (entityId : EntityKey → EntityId) (environment : String)
    (declared : DependencyConfig) (edge : DependencyEdge) : Prop where
  source : ∃ key : EntityKey, key.environment = environment ∧ Refers declared.source key ∧ edge.source = entityId key
  target : ∃ key : EntityKey, key.environment = environment ∧ Refers declared.target key ∧ edge.target = entityId key
  dependencyType : edge.dependencyType.asStr = declared.dependencyType
  criticality : edge.criticality.asStr = declared.criticality

/-- A snapshot has one entity for every entity declared, under distinct natural keys, and one
edge for every dependency declared. -/
structure Declared (entityId : EntityKey → EntityId) (config : Config) (snapshot : InventorySnapshot) : Prop where
  entities : List.Forall₂ (EntityConfig.DeclaredAs entityId config.environment) config.entities snapshot.entities
  keys : (snapshot.entities.map (ManagedEntity.key config.environment)).Nodup
  dependencies :
    List.Forall₂ (DependencyConfig.DeclaredAs entityId config.environment) config.dependencies snapshot.dependencies

/-- The entity declared, with all it is declared with. -/
theorem EntityConfig.entity_eq (declared : EntityConfig) (id : EntityId) (entityType : EntityType) :
    declared.entity id entityType =
      { id := id, cluster := declared.cluster, entityType := entityType, canonicalName := declared.name,
        displayName := declared.displayName.getD declared.name, labels := declared.labels,
        metadata := declared.metadata, capabilities := .ofList (declared.capabilities.map Capability.mk),
        lifecycleState := .active, discoverySources := [] } := by
  have hfold : ∀ (labels : List (String × String)) (entity : ManagedEntity),
      labels.foldl (fun entity label => entity.withLabel label.1 label.2) entity =
        { entity with labels := labels.foldl (fun held label => held.insert label.1 label.2) entity.labels } := by
    intro labels
    induction labels with
    | nil => intro entity; rfl
    | cons label labels ih => intro entity; exact ih _
  have hlabels : declared.labels.toList.foldl (fun held label => held.insert label.1 label.2) ∅ = declared.labels := by
    rw [← Std.ExtTreeMap.ofList_eq_foldl, Std.ExtTreeMap.ofList_toList]
  rw [entity]
  cases declared.displayName <;> cases declared.cluster <;> dsimp only [Option.elim, Option.getD] <;> rw [hfold] <;>
    simp only [ManagedEntity.withDisplayName, ManagedEntity.withCluster, ManagedEntity.withCapabilities,
      ManagedEntity.new, hlabels]

theorem EntityConfig.declaredAs (provider : StaticConfigProvider) (declared : EntityConfig) {entity : ManagedEntity}
    (h : provider.entityOf entityId declared = some entity) :
    declared.DeclaredAs entityId provider.environment entity := by
  obtain ⟨entityType, htype, rfl⟩ := Option.map_eq_some_iff.mp h
  rw [EntityType.parse_eq_some_iff] at htype
  rw [entity_eq]
  refine ⟨htype, rfl, rfl, rfl, rfl, rfl, fun capability => ?_, rfl⟩
  show capability ∈ Std.ExtTreeSet.ofList (declared.capabilities.map Capability.mk) ↔ _
  rw [Std.ExtTreeSet.mem_ofList, List.contains_iff_mem, List.mem_map]
  exact ⟨fun ⟨name, hname, heq⟩ => heq ▸ hname, fun hname => ⟨capability.name, hname, rfl⟩⟩

/-! ### What the check accepts -/

theorem isOk_if_error {c : Prop} [Decidable c] {location message : String} :
    ValidationReport.isOk (if c then [.error location message] else []) = true ↔ ¬ c := by
  by_cases hc : c
  · simp [hc, ValidationReport.isOk, ValidationIssue.error]
  · simp [hc, ValidationReport.isOk]

variable (entityId) in
/-- A reference that the check accepts names an entity, and resolves to it. -/
theorem resolve_of_isOk {debug : String → String} {declared : List (String × String)} {location value : String}
    (h : (Validate.reference debug declared location value).isOk = true) (provider : StaticConfigProvider) :
    ∃ key : EntityKey, key.environment = provider.environment ∧ Refers value key ∧
      provider.resolve entityId value = some (entityId key) := by
  have hparse : Validate.parseEntityRef value ≠ none := by
    intro hnone
    rw [Validate.reference, hnone] at h
    simp [ValidationReport.isOk, ValidationIssue.error] at h
  unfold Validate.parseEntityRef at hparse
  cases hsplit : Text.splitOnce ['/'] value.toList with
  | none => rw [hsplit] at hparse; exact absurd rfl hparse
  | some parts =>
    obtain ⟨entityType, name⟩ := parts
    rw [hsplit] at hparse
    dsimp only at hparse
    split at hparse
    · exact absurd rfl hparse
    · next hcond =>
      rw [Bool.not_eq_true, Bool.or_eq_false_iff] at hcond
      cases htype : EntityType.parse (String.ofList entityType) with
      | none => rw [htype] at hcond; exact absurd hcond.2 (by decide)
      | some t =>
        refine ⟨⟨provider.environment, t, String.ofList name⟩, rfl, ?_, ?_⟩
        · unfold Refers
          rw [EntityType.parse_eq_some_iff.mp htype, ← String.toList_inj, String.toList_append, String.toList_append,
            String.toList_ofList, List.append_assoc]
          show value.toList = entityType ++ '/' :: (String.ofList name).toList
          rw [String.toList_ofList]
          exact (Text.splitOnce_eq_some_iff.mp hsplit).1
        · rw [StaticConfigProvider.resolve, hsplit]
          simp [htype]

theorem entities_of_isOk {debug : String → String} (entities : List EntityConfig) :
    ∀ (index : ℕ) (declared : List (String × String)), (Validate.entities debug index declared entities).isOk = true →
      (∀ entity ∈ entities, (EntityType.parse entity.entityType).isSome = true) ∧
      (entities.map fun entity => (entity.entityType, entity.name)).Nodup ∧
      ∀ entity ∈ entities, (entity.entityType, entity.name) ∉ declared := by
  induction entities with
  | nil => exact fun _ _ _ => ⟨nofun, List.nodup_nil, nofun⟩
  | cons entity entities ih =>
    intro index declared h
    simp only [Validate.entities, ValidationReport.isOk_append, Bool.and_eq_true, isOk_if_error] at h
    obtain ⟨⟨⟨⟨htype, -⟩, hnew⟩, -⟩, hrest⟩ := h
    obtain ⟨htypes, hnodup, hfresh⟩ := ih _ _ hrest
    rw [List.forall_mem_cons, List.map_cons, List.nodup_cons, List.forall_mem_cons]
    refine ⟨⟨by simpa [Option.isSome_iff_ne_none] using htype, htypes⟩, ⟨?_, hnodup⟩, hnew, fun other hother hmem =>
      hfresh other hother (List.mem_cons_of_mem _ hmem)⟩
    intro hmem
    obtain ⟨other, hother, heq⟩ := List.mem_map.mp hmem
    exact hfresh other hother (heq ▸ List.mem_cons_self)

theorem dependencies_of_isOk {debug : String → String} {declared : List (String × String)}
    (dependencies : List DependencyConfig) : ∀ index : ℕ,
      (Validate.dependencies debug declared index dependencies).isOk = true → ∀ dependency ∈ dependencies,
        (∃ location, (Validate.reference debug declared location dependency.source).isOk = true) ∧
        (∃ location, (Validate.reference debug declared location dependency.target).isOk = true) ∧
        (Criticality.parse dependency.criticality).isSome = true := by
  induction dependencies with
  | nil => exact fun _ _ => nofun
  | cons dependency dependencies ih =>
    intro index h
    simp only [Validate.dependencies, ValidationReport.isOk_append, Bool.and_eq_true, isOk_if_error] at h
    obtain ⟨⟨⟨⟨hsource, htarget⟩, -⟩, hcriticality⟩, hrest⟩ := h
    rw [List.forall_mem_cons]
    exact ⟨⟨⟨_, hsource⟩, ⟨_, htarget⟩, by simpa [Option.isSome_iff_ne_none] using hcriticality⟩, ih _ hrest⟩

/-- Entities declared under distinct types and names have distinct natural keys. -/
theorem nodup_keys {declarations : List EntityConfig} {entities : List ManagedEntity}
    (h : List.Forall₂ (EntityConfig.DeclaredAs entityId environment) declarations entities)
    (hnodup : (declarations.map fun entity => (entity.entityType, entity.name)).Nodup) :
    (entities.map (ManagedEntity.key environment)).Nodup := by
  have hpairs : (entities.map (ManagedEntity.key environment)).map
      (fun key => (key.entityType.asStr, key.canonicalName)) =
      declarations.map fun entity => (entity.entityType, entity.name) := by
    induction h with
    | nil => rfl
    | cons hdeclared _ ih =>
      rw [List.map_cons, List.map_cons, ih (List.nodup_cons.mp hnodup).2, List.map_cons]
      exact congrArg (· :: _) (Prod.ext hdeclared.entityType hdeclared.canonicalName)
  exact List.Nodup.of_map _ (hpairs ▸ hnodup)

/-- **The snapshot of an accepted configuration is what it declares.** -/
theorem declared_of_isOk {debug : String → String} (entityId : EntityKey → EntityId) (edgeId : Relation → Uuid)
    (config : Config) (h : (validate debug config).isOk = true) :
    Declared entityId config
      ((StaticConfigProvider.mk config.environment config.entities config.dependencies).snapshot entityId edgeId) := by
  simp only [validate, ValidationReport.isOk_append, Bool.and_eq_true] at h
  obtain ⟨⟨⟨⟨⟨-, hentities⟩, hdependencies⟩, -⟩, -⟩, -⟩ := h
  obtain ⟨htypes, hnodup, -⟩ := entities_of_isOk _ _ _ hentities
  have hdependencies := dependencies_of_isOk _ _ hdependencies
  obtain ⟨-, hseen, hedges⟩ := StaticConfigProvider.snapshot_spec entityId edgeId
    ⟨config.environment, config.entities, config.dependencies⟩
  have hall := List.forall₂_filterMap (R := EntityConfig.DeclaredAs entityId config.environment) (l := config.entities)
    (f := StaticConfigProvider.entityOf entityId ⟨config.environment, config.entities, config.dependencies⟩) (by
      intro declared hdeclared
      obtain ⟨entityType, htype⟩ := Option.isSome_iff_exists.mp (htypes declared hdeclared)
      refine ⟨_, Option.map_eq_some_iff.mpr ⟨entityType, htype, rfl⟩, ?_⟩
      exact EntityConfig.declaredAs ⟨config.environment, config.entities, config.dependencies⟩ declared
        (Option.map_eq_some_iff.mpr ⟨entityType, htype, rfl⟩))
  refine ⟨hseen ▸ hall, hseen ▸ nodup_keys hall hnodup, hedges ▸ List.forall₂_filterMap fun declared hdeclared => ?_⟩
  obtain ⟨⟨_, hsource⟩, ⟨_, htarget⟩, hcriticality⟩ := hdependencies declared hdeclared
  obtain ⟨source, hsourceEnvironment, hsourceRefers, hsource⟩ := resolve_of_isOk entityId hsource
    ⟨config.environment, config.entities, config.dependencies⟩
  obtain ⟨target, htargetEnvironment, htargetRefers, htarget⟩ := resolve_of_isOk entityId htarget
    ⟨config.environment, config.entities, config.dependencies⟩
  obtain ⟨criticality, hcriticality⟩ := Option.isSome_iff_exists.mp hcriticality
  refine ⟨_, by rw [StaticConfigProvider.edgeOf, hsource, htarget]; rfl, ?_⟩
  refine ⟨⟨source, hsourceEnvironment, hsourceRefers, rfl⟩, ⟨target, htargetEnvironment, htargetRefers, rfl⟩,
    DependencyType.asStr_parse _, ?_⟩
  show ((Criticality.parse declared.criticality).getD .critical).asStr = declared.criticality
  rw [hcriticality]
  exact Criticality.parse_eq_some_iff.mp hcriticality

/-- A host and a storage that it uses. -/
theorem declared_of_isOk_host :
    let config : Config := {
      entities := [{ entityType := "host", name := "node01" }, { entityType := "storage", name := "scratch" }]
      dependencies := [{ source := "host/node01", target := "storage/scratch", dependencyType := "uses_storage" }] }
    let entityId : EntityKey → EntityId := fun key => ⟨⟨.ofNat 128 key.canonicalName.length⟩⟩
    let snapshot := (StaticConfigProvider.mk config.environment config.entities config.dependencies).snapshot
      entityId (fun _ => ⟨1⟩)
    Declared entityId config snapshot :=
  declared_of_isOk _ _ _ (by decide +kernel : (validate id _).isOk = true)

end Declared

end Sentinel
