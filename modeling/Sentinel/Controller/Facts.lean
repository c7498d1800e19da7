import Sentinel.Controller.Registration

/-!
# Which facts survive a merge

Several sources describe one entity, and whoever reports last must not erase the
others.  Metadata is nested, and the merge works on the names at the top: a report
that has a name replaces everything that was nested under it, whoever supplied it.

Metadata is read here as a partial map from paths of names to facts, the values that
are not objects themselves.

## Main definitions

* `Json.follow`, `Json.fact` — the value at a path, and the fact there.
* `Json.Touches` — a report has something to say on a path's first name.
* `Spared` — when a fact survives the reports of a snapshot.

## Main results

* `Json.fact_mergeMetadata` — **a merge, path by path**.
* `Inventory.facts_kept_iff` — when no fact is lost to a snapshot.
-/

namespace Sentinel

/-! ### Facts -/

namespace Json

variable {existing incoming value : Json} {path : List String}

/-- Whether a value is an object. -/
def isObject : Json → Bool
  | obj _ => true
  | _ => false

/-- The value at a path of names. -/
def follow (json : Json) : List String → Option Json
  | [] => some json
  | name :: path => (json.get name).bind fun value => value.follow path

/-- The fact at a path: a value that is not an object. -/
def fact (json : Json) (path : List String) : Option Json :=
  (json.follow path).filter fun value => !value.isObject

/-- Whether a report has something to say on a path: an object on the names it has,
null on nothing, any other value on everything. -/
def touches : Json → List String → Bool
  | null, _ => false
  | obj fields, name :: _ => (fields.lookup name).isSome
  | _, _ => true

theorem lookup_field (field : String × Json) (fields : List (String × Json)) (name : String) :
    (field :: fields).lookup name = if name = field.1 then some field.2 else fields.lookup name := by
  rw [List.lookup_cons]
  by_cases h : name = field.1
  · simp [h]
  · rw [beq_false_of_ne h, if_neg h]

theorem lookup_setField (fields : List (String × Json)) (key name : String) (value : Json) :
    (setField fields key value).lookup name = if name = key then some value else fields.lookup name := by
  induction fields with
  | nil => exact lookup_field (key, value) [] name
  | cons field fields ih =>
    rw [setField]
    split
    · next hkey =>
      rw [lookup_field, lookup_field, hkey]
      split <;> rfl
    · next hkey =>
      rw [lookup_field, ih, lookup_field]
      by_cases hname : name = field.1
      · have hne : name ≠ key := fun h => hkey (hname.symm.trans h)
        rw [if_pos hname, if_neg hne, if_pos hname]
      · rw [if_neg hname, if_neg hname]

/-- A name of a merged object: the incoming side decides, if it has it. -/
theorem lookup_foldr_setField (incoming existing : List (String × Json)) (name : String) :
    (incoming.foldr (fun field fields => setField fields field.1 field.2) existing).lookup name =
      (incoming.lookup name).or (existing.lookup name) := by
  induction incoming with
  | nil => rfl
  | cons field incoming ih =>
    rw [List.foldr_cons, lookup_setField, ih, lookup_field]
    split <;> rfl

theorem fact_cons (json : Json) (name : String) (path : List String) :
    json.fact (name :: path) = (json.get name).bind fun value => value.fact path := by
  rw [fact, follow]
  cases json.get name <;> rfl

/-- **A merge, path by path**: where the report has something to say, its facts stand,
and elsewhere those that stood before. -/
theorem fact_mergeMetadata (existing incoming : Json) (path : List String) :
    (existing.mergeMetadata incoming).fact path =
      if incoming.touches path then incoming.fact path else existing.fact path := by
  cases incoming with
  | null => cases existing <;> rfl
  | bool b => cases existing <;> rfl
  | num n => cases existing <;> rfl
  | str s => cases existing <;> rfl
  | arr items => cases existing <;> rfl
  | obj fields =>
    cases path with
    | nil => cases existing <;> rfl
    | cons name path =>
      rw [fact_cons, fact_cons, fact_cons, touches]
      cases existing with
      | obj before =>
        change ((List.foldr _ before fields).lookup name).bind _ =
          if _ then (fields.lookup name).bind _ else (before.lookup name).bind _
        rw [lookup_foldr_setField]
        cases fields.lookup name <;> rfl
      | _ =>
        -- replaced by an object: what the object lacks was not there before either
        change (fields.lookup name).bind _ = if _ then (fields.lookup name).bind _ else none
        cases fields.lookup name <;> rfl

end Json

/-! ### Facts over a snapshot -/

/-- The last of the reports that has something to say on a path. -/
def lastTouching (reports : List ManagedEntity) (path : List String) : Option ManagedEntity :=
  reports.reverse.find? fun report => report.metadata.touches path

/-- The facts after reports are those of the last one with something to say. -/
theorem fact_foldl_absorb (reports : List ManagedEntity) (entity : ManagedEntity) :
    ∃ merged, reports.foldl ManagedEntity.absorb (some entity) = some merged ∧
      ∀ path, merged.metadata.fact path =
        ((lastTouching reports path).getD entity).metadata.fact path := by
  induction reports using List.reverseRecOn with
  | nil => exact ⟨entity, rfl, fun path => rfl⟩
  | append_singleton reports report ih =>
    obtain ⟨merged, hmerged, hfacts⟩ := ih
    refine ⟨merged.mergeInto report, ?_, fun path => ?_⟩
    · rw [List.foldl_append, hmerged]
      rfl
    · change (merged.metadata.mergeMetadata report.metadata).fact path = _
      rw [Json.fact_mergeMetadata, hfacts, lastTouching, lastTouching, List.reverse_append,
        List.reverse_singleton, List.singleton_append, List.find?_cons]
      cases report.metadata.touches path <;> rfl

/-- A report states a value at a path that is not the given one. -/
def ManagedEntity.StatesOther (report : ManagedEntity) (path : List String) (value : Json) : Prop :=
  ∃ other, report.metadata.follow path = some other ∧ other ≠ value

/-- No fact of an entity is lost to reports, unless one of them states another value for
it. -/
def Inventory.FactsKept (entity merged : ManagedEntity) (reports : List ManagedEntity) : Prop :=
  ∀ path value, entity.metadata.fact path = some value →
    merged.metadata.fact path = some value ∨ ∃ report ∈ reports, report.StatesOther path value

/-- Reports spare the fact at a path: one of them states another value for it, or the
last of them with something to say on the path has some value there. -/
def Spared (reports : List ManagedEntity) (path : List String) (value : Json) : Prop :=
  (∃ report ∈ reports, report.StatesOther path value) ∨
    ∀ report ∈ lastTouching reports path, (report.metadata.follow path).isSome

/-- **Facts and reports.**  Merging a snapshot into an inventory loses no fact of an
entity that the snapshot does not state another value for, if and only if the
snapshot's reports spare every one of its facts. -/
theorem Inventory.facts_kept_iff {inventory : Inventory} {id : EntityId} {entity : ManagedEntity}
    (hentity : inventory.get id = some entity) (snapshot : InventorySnapshot) :
    (∃ merged, (inventory.merge snapshot).get id = some merged ∧
      FactsKept entity merged (snapshot.reportsOf id)) ↔
    ∀ path value, entity.metadata.fact path = some value →
      Spared (snapshot.reportsOf id) path value := by
  obtain ⟨merged, hmerged, hfacts⟩ := fact_foldl_absorb (snapshot.reportsOf id) entity
  rw [get_merge, hentity, hmerged]
  simp only [Option.some.injEq, exists_eq_left', FactsKept]
  refine forall_congr' fun path => forall_congr' fun value => imp_congr_right fun hvalue => ?_
  rw [Spared, or_comm, hfacts]
  by_cases hother : ∃ report ∈ snapshot.reportsOf id, report.StatesOther path value
  · exact iff_of_true (Or.inl hother) (Or.inl hother)
  · -- no report states another value: the last one to speak states this one or none
    refine or_congr_right ?_
    cases hlast : lastTouching (snapshot.reportsOf id) path with
    | none => simpa using hvalue
    | some report =>
      have hmem : report ∈ snapshot.reportsOf id :=
        List.mem_reverse.mp (List.mem_of_find?_eq_some hlast)
      simp only [Option.getD_some, Option.mem_some_iff, forall_eq']
      constructor
      · intro h
        rw [Json.fact, Option.filter_eq_some_iff] at h
        rw [h.1]
        rfl
      · intro h
        obtain ⟨other, hfollow⟩ := Option.isSome_iff_exists.mp h
        obtain rfl : other = value := by
          by_contra hne
          exact hother ⟨report, hmem, other, hfollow, hne⟩
        rw [Json.fact, Option.filter_eq_some_iff] at hvalue
        rw [Json.fact, hfollow]
        exact Option.filter_eq_some_iff.mpr ⟨rfl, hvalue.2⟩

/-- A declared address stays when the host's agent registers. -/
theorem Inventory.declared_address_kept :
    let h : EntityId := ⟨⟨1⟩⟩
    let declared : EntityConfig := { entityType := "host", name := "h", addresses := ["10.0.0.1"] }
    let entity := declared.entity h .host
    let request : RegisterRequest :=
      { protocolVersion := 1, agentVersion := "0.1.0", environment := "prod", hostname := "h",
        addresses := ["10.0.0.2"], capabilities := ∅ }
    let registration := snapshotFromRegistration (fun _ => h) request
    ∃ merged, ((Inventory.new.insertEntity entity).merge registration).get h = some merged ∧
      FactsKept entity merged (registration.reportsOf h) := by
  intro h declared entity request registration
  have hget : (Inventory.new.insertEntity entity).get h = some entity := by
    have hid : entity.id = h := rfl
    rw [get_insertEntity, if_pos hid]
  refine (facts_kept_iff hget registration).mpr fun path value hvalue => Or.inr fun report hreport => ?_
  have hmetadata : entity.metadata = .obj [("addresses", .ofStrings ["10.0.0.1"])] := rfl
  cases path with
  | nil => rw [hmetadata] at hvalue; cases hvalue
  | cons name path =>
    rw [hmetadata, Json.fact_cons, Json.get, Json.lookup_field] at hvalue
    split at hvalue
    · -- the registration says nothing under the name
      next hname =>
      subst hname
      cases hreport
    · cases hvalue

/-- A port declared for a host is gone once its agent registers, although the
registration says nothing about that port. -/
theorem Inventory.declared_port_erased :
    let h : EntityId := ⟨⟨1⟩⟩
    let provider : StaticConfigProvider :=
      { environment := "prod"
        entities := [{ entityType := "host", name := "h", ports := {("ssh", 2222)} }]
        dependencies := [] }
    let request : RegisterRequest :=
      { protocolVersion := 1, agentVersion := "0.1.0", environment := "prod", hostname := "h",
        capabilities := ∅ }
    let inventory := Inventory.new.merge (provider.snapshot (fun _ => h) fun _ => ⟨0⟩)
    let registration := snapshotFromRegistration (fun _ => h) request
    ∃ entity merged, inventory.get h = some entity ∧
      (inventory.merge registration).get h = some merged ∧
      (entity.metadata.fact ["ports", "ssh"]).isSome ∧
      merged.metadata.fact ["ports", "ssh"] = none ∧
      ¬ FactsKept entity merged (registration.reportsOf h) := by
  intro h provider request inventory registration
  have hbefore : (inventory.get h).any (fun entity =>
      (entity.metadata.fact ["ports", "ssh"]).isSome) = true := by decide +kernel
  have hafter : ((inventory.merge registration).get h).any (fun merged =>
      (merged.metadata.fact ["ports", "ssh"]).isNone) = true := by decide +kernel
  have hsilent : ∀ report ∈ registration.reportsOf h,
      (report.metadata.follow ["ports", "ssh"]).isNone := by decide +kernel
  obtain ⟨entity, hentity, hfact⟩ := (Option.any_eq_true _ _).mp hbefore
  obtain ⟨merged, hmerged, hgone⟩ := (Option.any_eq_true _ _).mp hafter
  rw [Option.isNone_iff_eq_none] at hgone
  refine ⟨entity, merged, hentity, hmerged, hfact, hgone, fun hkept => ?_⟩
  obtain ⟨value, hvalue⟩ := Option.isSome_iff_exists.mp hfact
  rcases hkept _ value hvalue with h | ⟨report, hreport, other, hother, -⟩
  · rw [hgone] at h
    cases h
  · have hnone := hsilent report hreport
    rw [hother] at hnone
    cases hnone

end Sentinel
