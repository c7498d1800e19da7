import Sentinel.Controller.Notify
import Sentinel.Inventory
import Sentinel.Lib.Cutting
import Sentinel.Lib.Machine

/-!
# Maintenance windows

An operator declares planned work so that nobody is told about what it breaks.  A window is
kept in a table until it is over or ended, and stays there afterwards; the notification
worker reads the table in every pass.  A window is ended by the beginning of its identifier.

## Main definitions

* `Windows.save`, `Windows.load`, `Windows.finish` — the table.
* `MaintenanceCall.run` — what a command does, and what the operator is told.
* `maintenanceMachine` — all commands, of any operators.
* `InForce` — what follows from what operators were told.

## Main results

* `Maintenance.Sound.step` — the table says what the operators were told.
* `Maintenance.quiet_iff` — **a notification is held back while every entity concerned is in
  a window that was declared and not ended**, and what is held back is neither sent nor
  remembered.
-/

namespace Sentinel

/-! ### The table -/

/-- A window as it is stored. -/
structure WindowRow where
  /-- The environment. -/
  environment : String
  /-- The entity under maintenance; `none` means the whole environment. -/
  entity : Option EntityId
  /-- Why, for the record. -/
  reason : String
  /-- When it starts. -/
  startsAt : Timestamp
  /-- When it ends; `none` means open-ended. -/
  endsAt : Option Timestamp
  /-- Who declared it. -/
  createdBy : Option String

/-- What the worker makes of a row. -/
def WindowRow.window (row : WindowRow) : MaintenanceWindow := ⟨row.entity, row.startsAt, row.endsAt⟩

theorem WindowRow.isActiveAt_iff (row : WindowRow) (now : Timestamp) : row.window.isActiveAt now = true ↔
    row.startsAt ≤ now ∧ ∀ instant ∈ row.endsAt, now < instant := by
  rw [MaintenanceWindow.isActiveAt, WindowRow.window, Bool.and_eq_true, decide_eq_true_iff]
  cases row.endsAt <;> simp

/-- The windows, by identifier. -/
abbrev Windows := Std.ExtTreeMap Uuid WindowRow

namespace Windows

/-- Record a window; one that is known changes its reason and its times. -/
def save (table : Windows) (id : Uuid) (row : WindowRow) : Windows :=
  match table[id]? with
  | none => table.insert id row
  | some old => table.insert id { old with reason := row.reason, startsAt := row.startsAt, endsAt := row.endsAt }

/-- Every window of an environment, newest first. -/
def load (table : Windows) (environment : String) : List (Uuid × WindowRow) :=
  ((table.toList.filter fun entry => entry.2.environment = environment).sortBy
    fun entry => OrderDual.toDual entry.2.startsAt)

/-- End a window; the row stays. -/
def finish (table : Windows) (id : Uuid) (now : Timestamp) : Windows :=
  match table[id]? with
  | none => table
  | some row => table.insert id { row with endsAt := some now }

/-- The windows as the worker sees them. -/
def activeMaintenance (table : Windows) (environment : String) : MaintenanceWindows :=
  ⟨(table.load environment).map fun entry => entry.2.window⟩

theorem mem_load {table : Windows} {environment : String} {id : Uuid} {row : WindowRow} :
    (id, row) ∈ table.load environment ↔ table[id]? = some row ∧ row.environment = environment := by
  rw [load, List.mem_sortBy, List.mem_filter, Std.ExtTreeMap.mem_toList_iff_getElem?_eq_some, decide_eq_true_iff]

end Windows

/-! ### The commands -/

/-- What an operator asks for. -/
inductive MaintenanceCommand
  /-- Declare a window on an entity, or on the whole environment, for some time or without
  an end. -/
  | start (target : Option String) (reason : String) (duration : Option Duration)
  /-- End the window whose identifier begins so. -/
  | endWindow (start : String)

/-- What an operator is told. -/
inductive MaintenanceNotice
  /-- A window was declared. -/
  | started (id : Uuid) (environment : String) (entity : Option EntityId) (startsAt : Timestamp)
      (endsAt : Option Timestamp)
  /-- A window was ended. -/
  | ended (id : Uuid) (instant : Timestamp)

/-- A command, and its surroundings. -/
structure MaintenanceCall where
  /-- The environment of the configuration. -/
  environment : String
  /-- The command. -/
  command : MaintenanceCommand
  /-- The inventory of the environment. -/
  inventory : Inventory
  /-- The clock. -/
  now : Timestamp
  /-- The identifier drawn for a new window. -/
  id : Uuid
  /-- Who runs the command. -/
  actor : Option String
  /-- Whether the table can be written. -/
  stored : Bool

/-- Whether an operator means an entity: by its identifier, by its type and name, or by its
name alone. -/
def matchesTarget (entity : ManagedEntity) (query : String) : Bool :=
  if entity.id.uuid.toText = query then true
  else
    match Text.splitOnce ['/'] query.toList with
    | some (entityType, name) => entity.entityType.asStr.toList = entityType && entity.canonicalName.toList = name
    | none => entity.canonicalName = query

namespace MaintenanceCall

/-- What a window is to cover, unless that is not clear. -/
def scope (call : MaintenanceCall) (target : Option String) : Option (Option EntityId) :=
  match target with
  | none => some none
  | some name =>
    match (call.inventory.entities.toList.map Prod.snd).filter fun entity => matchesTarget entity name with
    | [one] => some (some one.id)
    | _ => none

/-- The windows in force that an operator may mean. -/
def candidates (call : MaintenanceCall) (table : Windows) (start : String) : List (Uuid × WindowRow) :=
  (table.load call.environment).filter fun entry =>
    start.toList.isPrefixOf entry.1.toText.toList && entry.2.window.isActiveAt call.now

/-- What a command does to the table, and what the operator is told unless it is refused. -/
def run (call : MaintenanceCall) (table : Windows) : Windows × Option MaintenanceNotice :=
  match call.command with
  | .start target reason duration =>
    match call.scope target with
    | none => (table, none)
    | some entity =>
      let endsAt := duration.map (call.now + ·)
      if call.stored then
        (table.save call.id ⟨call.environment, entity, reason, call.now, endsAt, call.actor⟩,
          some (.started call.id call.environment entity call.now endsAt))
      else (table, none)
  | .endWindow start =>
    match call.candidates table start with
    | [one] => if call.stored then (table.finish one.1 call.now, some (.ended one.1 call.now)) else (table, none)
    | _ => (table, none)

end MaintenanceCall

/-- The table, and what operators were told. -/
structure Maintenance where
  /-- The table. -/
  table : Windows
  /-- What operators were told. -/
  told : List MaintenanceNotice

namespace Maintenance

/-- A command is run. -/
def step (s : Maintenance) (call : MaintenanceCall) : Maintenance :=
  let (table, notice) := call.run s.table
  ⟨table, s.told ++ notice.toList⟩


end Maintenance

/-- All commands, of any operators; identifiers are drawn afresh. -/
def maintenanceMachine : Machine Maintenance MaintenanceCall where
  Init := fun s => s = ⟨∅, []⟩
  step := Maintenance.step
  Allowed := fun s call => s.table[call.id]? = none

/-! ### What operators were told -/

/-- A window is in force, by what operators were told: it was declared, has begun, is not
over, and was not ended. -/
def InForce (told : List MaintenanceNotice) (environment : String) (entity : EntityId) (now : Timestamp) : Prop :=
  ∃ id covered startsAt endsAt, .started id environment covered startsAt endsAt ∈ told ∧
    (covered = none ∨ covered = some entity) ∧ startsAt ≤ now ∧ (∀ instant ∈ endsAt, now < instant) ∧
      ∀ instant, .ended id instant ∈ told → now < instant

/-- The row of a window says what operators were told of it. -/
structure Agrees (told : List MaintenanceNotice) (id : Uuid) (row : WindowRow) (endsAt : Option Timestamp) : Prop where
  started : .started id row.environment row.entity row.startsAt endsAt ∈ told
  ends : ∀ now, (∀ instant ∈ row.endsAt, now < instant) ↔
    (∀ instant ∈ endsAt, now < instant) ∧ ∀ instant, .ended id instant ∈ told → now < instant

namespace Maintenance

/-- The table holds the windows declared, and says what operators were told of them. -/
structure Sound (s : Maintenance) : Prop where
  rows : ∀ id row, s.table[id]? = some row → ∃ endsAt, Agrees s.told id row endsAt
  declared : ∀ id environment entity startsAt endsAt, .started id environment entity startsAt endsAt ∈ s.told →
    ∃ row, s.table[id]? = some row ∧ row.environment = environment ∧ row.entity = entity ∧
      row.startsAt = startsAt ∧ Agrees s.told id row endsAt
  ended : ∀ id instant, .ended id instant ∈ s.told → ∃ row, s.table[id]? = some row

variable {s : Maintenance} {log : List MaintenanceCall}

theorem sound_init : Sound ⟨∅, []⟩ where
  rows := fun id row h => by simp at h
  declared := fun _ _ _ _ _ h => by cases h
  ended := fun _ _ h => by cases h

/-- What operators are told of other windows does not matter. -/
theorem agrees_append {told more : List MaintenanceNotice} {id : Uuid} {row : WindowRow} {endsAt : Option Timestamp}
    (h : Agrees told id row endsAt) (hmore : ∀ instant, .ended id instant ∉ more) :
    Agrees (told ++ more) id row endsAt where
  started := List.mem_append_left _ h.started
  ends := by
    intro now
    rw [h.ends now]
    refine and_congr_right' (forall_congr' fun instant => ?_)
    rw [List.mem_append, or_iff_left (hmore instant)]

/-- A window that is ended while it is in force is over before it would have been. -/
theorem agrees_finish {told : List MaintenanceNotice} {id : Uuid} {row : WindowRow} {endsAt : Option Timestamp}
    {now : Timestamp} (h : Agrees told id row endsAt) (hactive : ∀ instant ∈ row.endsAt, now < instant) :
    Agrees (told ++ [.ended id now]) id { row with endsAt := some now } endsAt where
  started := List.mem_append_left _ h.started
  ends := by
    intro instant
    obtain ⟨hends, hended⟩ := (h.ends now).mp hactive
    simp only [Option.mem_some_iff, List.mem_append, List.mem_singleton, MaintenanceNotice.ended.injEq, true_and]
    constructor
    · intro hbefore
      have hnow := hbefore now rfl
      refine ⟨fun last hlast => hnow.trans (hends last hlast), fun last hlast => ?_⟩
      rcases hlast with hlast | rfl
      · exact hnow.trans (hended last hlast)
      · exact hnow
    · rintro ⟨-, hall⟩ last rfl
      exact hall _ (.inr rfl)

/-- A window that is declared. -/
theorem Sound.start (h : s.Sound) {id : Uuid} (hfresh : s.table[id]? = none) (row : WindowRow) :
    Sound ⟨s.table.save id row,
      s.told ++ [.started id row.environment row.entity row.startsAt row.endsAt]⟩ := by
  have hget : ∀ other, (s.table.save id row)[other]? = if id = other then some row else s.table[other]? := by
    intro other
    rw [Windows.save, hfresh]
    exact Std.ExtTreeMap.getElem?_insert_eq
  have hother : ∀ {other : Uuid} {old : WindowRow}, s.table[other]? = some old → id ≠ other := by
    rintro other old hold rfl
    rw [hfresh] at hold
    cases hold
  have hmore : ∀ other instant, MaintenanceNotice.ended other instant ∉
      [MaintenanceNotice.started id row.environment row.entity row.startsAt row.endsAt] := by
    intro other instant hmem
    cases List.mem_singleton.mp hmem
  have hnew : Agrees (s.told ++ [.started id row.environment row.entity row.startsAt row.endsAt]) id row row.endsAt := by
    refine ⟨List.mem_append_right _ (List.mem_singleton_self _), fun now => (and_iff_left fun instant hmem => ?_).symm⟩
    rcases List.mem_append.mp hmem with hmem | hmem
    · obtain ⟨old, hold⟩ := h.ended id instant hmem
      exact absurd rfl (hother hold)
    · exact absurd hmem (hmore id instant)
  constructor
  · intro other found hfound
    rw [hget] at hfound
    split at hfound
    · next heq =>
      subst heq
      obtain rfl := Option.some.inj hfound
      exact ⟨_, hnew⟩
    · obtain ⟨endsAt, hagrees⟩ := h.rows other found hfound
      exact ⟨endsAt, agrees_append hagrees (hmore other)⟩
  · intro other environment entity startsAt endsAt hmem
    rcases List.mem_append.mp hmem with hmem | hmem
    · obtain ⟨old, hold, henvironment, hentity, hstarts, hagrees⟩ := h.declared other environment entity startsAt endsAt hmem
      refine ⟨old, ?_, henvironment, hentity, hstarts, agrees_append hagrees (hmore other)⟩
      rw [hget, if_neg (hother hold)]
      exact hold
    · cases List.mem_singleton.mp hmem
      refine ⟨row, ?_, rfl, rfl, rfl, hnew⟩
      rw [hget, if_pos rfl]
  · intro other instant hmem
    obtain ⟨old, hold⟩ := h.ended other instant ((List.mem_append.mp hmem).resolve_right (hmore other instant))
    refine ⟨old, ?_⟩
    rw [hget, if_neg (hother hold)]
    exact hold

/-- A window that is ended while it is in force. -/
theorem Sound.finish (h : s.Sound) {id : Uuid} {row : WindowRow} (hrow : s.table[id]? = some row) {now : Timestamp}
    (hactive : ∀ instant ∈ row.endsAt, now < instant) :
    Sound ⟨s.table.finish id now, s.told ++ [.ended id now]⟩ := by
  have hget : ∀ other, (s.table.finish id now)[other]? =
      if id = other then some { row with endsAt := some now } else s.table[other]? := by
    intro other
    rw [Windows.finish, hrow]
    exact Std.ExtTreeMap.getElem?_insert_eq
  have hmore : ∀ other, id ≠ other → ∀ instant,
      MaintenanceNotice.ended other instant ∉ [MaintenanceNotice.ended id now] := by
    intro other hne instant hmem
    cases List.mem_singleton.mp hmem
    exact hne rfl
  constructor
  · intro other found hfound
    rw [hget] at hfound
    split at hfound
    · next heq =>
      subst heq
      obtain rfl := Option.some.inj hfound
      obtain ⟨endsAt, hagrees⟩ := h.rows id row hrow
      exact ⟨endsAt, agrees_finish hagrees hactive⟩
    · next hne =>
      obtain ⟨endsAt, hagrees⟩ := h.rows other found hfound
      exact ⟨endsAt, agrees_append hagrees (hmore other hne)⟩
  · intro other environment entity startsAt endsAt hmem
    have hmem : MaintenanceNotice.started other environment entity startsAt endsAt ∈ s.told := by
      rcases List.mem_append.mp hmem with hmem | hmem
      · exact hmem
      · cases List.mem_singleton.mp hmem
    obtain ⟨old, hold, henvironment, hentity, hstarts, hagrees⟩ := h.declared other environment entity startsAt endsAt hmem
    by_cases heq : id = other
    · subst heq
      obtain rfl := Option.some.inj (hrow.symm.trans hold)
      refine ⟨_, (hget id).trans (if_pos rfl), henvironment, hentity, hstarts, agrees_finish hagrees hactive⟩
    · exact ⟨old, (hget other).trans ((if_neg heq).trans hold), henvironment, hentity, hstarts,
        agrees_append hagrees (hmore other heq)⟩
  · intro other instant hmem
    by_cases heq : id = other
    · exact ⟨_, (hget other).trans (if_pos heq)⟩
    · obtain ⟨old, hold⟩ := h.ended other instant ((List.mem_append.mp hmem).resolve_right (hmore other heq instant))
      exact ⟨old, (hget other).trans ((if_neg heq).trans hold)⟩

/-- **The table says what the operators were told**, whatever they ask for. -/
theorem Sound.step (h : s.Sound) {call : MaintenanceCall} (hfresh : s.table[call.id]? = none) :
    (s.step call).Sound := by
  have hrefused : Sound ⟨s.table, s.told ++ (none : Option MaintenanceNotice).toList⟩ := by
    rw [Option.toList_none, List.append_nil]
    exact h
  rw [Maintenance.step, MaintenanceCall.run]
  cases call.command with
  | start target reason duration =>
    dsimp only
    cases call.scope target with
    | none => exact hrefused
    | some entity =>
      dsimp only
      split
      · exact h.start hfresh ⟨call.environment, entity, reason, call.now, duration.map (call.now + ·), call.actor⟩
      · exact hrefused
  | endWindow start =>
    dsimp only
    cases hcandidates : call.candidates s.table start with
    | nil => exact hrefused
    | cons one others =>
      cases others with
      | cons => exact hrefused
      | nil =>
        have hone : one ∈ call.candidates s.table start := by
          rw [hcandidates]
          exact List.mem_singleton_self _
        obtain ⟨hload, hmatch⟩ := List.mem_filter.mp hone
        rw [Bool.and_eq_true, WindowRow.isActiveAt_iff] at hmatch
        dsimp only
        split
        · exact h.finish (Windows.mem_load.mp hload).1 hmatch.2.2
        · exact hrefused

theorem sound_run (h : maintenanceMachine.Run log s) : s.Sound := by
  refine Machine.Run.invariant (P := fun _ s => s.Sound) ?_ ?_ h
  · rintro s rfl
    exact sound_init
  · intro _ s call _ hsound hfresh
    exact hsound.step hfresh

/-- An entity is worked on if a window that was declared covers it, and was not ended. -/
theorem Sound.suppresses_iff (h : s.Sound) (environment : String) (now : Timestamp) (entity : EntityId) :
    (s.table.activeMaintenance environment).suppresses now entity = true ↔ InForce s.told environment entity now := by
  have hwindow : ∀ row : WindowRow, (row.window.isActiveAt now && row.window.covers entity) = true ↔
      (row.startsAt ≤ now ∧ ∀ instant ∈ row.endsAt, now < instant) ∧ (row.entity = none ∨ row.entity = some entity) := by
    intro row
    rw [Bool.and_eq_true, WindowRow.isActiveAt_iff, MaintenanceWindow.covers, WindowRow.window]
    cases row.entity <;> simp
  rw [MaintenanceWindows.suppresses, Windows.activeMaintenance, List.any_map, List.any_eq_true]
  constructor
  · rintro ⟨⟨id, row⟩, hload, hcovers⟩
    obtain ⟨hrow, henvironment⟩ := Windows.mem_load.mp hload
    obtain ⟨⟨hstarts, hends⟩, hentity⟩ := (hwindow row).mp hcovers
    obtain ⟨endsAt, hagrees⟩ := h.rows id row hrow
    obtain ⟨hover, hended⟩ := (hagrees.ends now).mp hends
    exact ⟨id, row.entity, row.startsAt, endsAt, henvironment ▸ hagrees.started, hentity, hstarts, hover, hended⟩
  · rintro ⟨id, covered, startsAt, endsAt, hstarted, hentity, hstarts, hover, hended⟩
    obtain ⟨row, hrow, henvironment, rfl, rfl, hagrees⟩ := h.declared id environment covered startsAt endsAt hstarted
    exact ⟨(id, row), Windows.mem_load.mpr ⟨hrow, henvironment⟩,
      (hwindow row).mpr ⟨⟨hstarts, (hagrees.ends now).mpr ⟨hover, hended⟩⟩, hentity⟩⟩

theorem Sound.suppressesAll_iff (h : s.Sound) (environment : String) (now : Timestamp) (entities : List EntityId) :
    (s.table.activeMaintenance environment).suppressesAll now entities = true ↔
      entities ≠ [] ∧ ∀ entity ∈ entities, InForce s.told environment entity now := by
  rw [MaintenanceWindows.suppressesAll, Bool.and_eq_true, List.all_eq_true]
  refine and_congr ?_ (forall₂_congr fun entity _ => h.suppresses_iff environment now entity)
  cases entities <;> simp

/-! ### What is held back -/

/-- Everything an incident affects is worked on, by what operators were told. -/
def WorkedOn (told : List MaintenanceNotice) (environment : String) (update : IncidentUpdate) (n : Notification)
    (now : Timestamp) : Prop :=
  ∃ i, update.all.find? (fun i => i.id.toText = n.incidentId) = some i ∧ i.affectedEntities ≠ [] ∧
    ∀ entity ∈ i.affectedEntities, InForce told environment entity now

/-- Nothing was handed to a provider, stored or remembered. -/
structure Silent (before after : NotifyState) : Prop where
  attempts : after.attempts = before.attempts
  deliveries : after.deliveries = before.deliveries
  deduplicator : after.deduplicator = before.deduplicator

theorem Sound.isUnderMaintenance_iff (h : s.Sound) (environment : String) (update : IncidentUpdate)
    (n : Notification) (now : Timestamp) :
    isUnderMaintenance n update (s.table.activeMaintenance environment) now = true ↔
      WorkedOn s.told environment update n now := by
  rw [isUnderMaintenance, WorkedOn]
  cases update.all.find? fun i => i.id.toText = n.incidentId with
  | none => simp
  | some i => simp [h.suppressesAll_iff]

section Passes

variable {newV5 : Uuid → String → Uuid} {toRfc3339 : Timestamp → String} {floor : Severity}
  {pass : NotifyPass} {reads : Reads} {state : NotifyState} {n : Notification} {i : ℕ} {turn : Turn}
  {provider : String} {update : IncidentUpdate} {maintenance : MaintenanceWindows}

/-- A notification under maintenance is passed over. -/
theorem silent_announce
    (h : isUnderMaintenance n (pass.effective newV5 toRfc3339 reads) pass.maintenance (pass.now i) = true) :
    Silent state (pass.announce newV5 toRfc3339 floor reads state (n, i)) := by
  rw [NotifyPass.announce]
  dsimp only
  split
  · exact ⟨rfl, rfl, rfl⟩
  · split
    · exact ⟨rfl, rfl, rfl⟩
    · exact ⟨rfl, rfl, rfl⟩

/-- Work that was declared while a pass waited counts as well. -/
theorem silent_offer (hwindows : turn.windows = some maintenance)
    (h : isUnderMaintenance n update maintenance turn.now = true) :
    Silent state (offer [] update n provider turn state) := by
  rw [offer, hwindows, Option.any_some, h]
  split
  · exact ⟨rfl, rfl, rfl⟩
  · split
    · exact ⟨rfl, rfl, rfl⟩
    · split
      · exact ⟨rfl, rfl, rfl⟩
      · split
        · exact ⟨rfl, rfl, rfl⟩
        · exact ⟨rfl, rfl, rfl⟩

/-- **A notification is held back while everything concerned is in a window that was declared,
has begun, is not over and was not ended**, and never else for this reason; what is held back
is neither handed to a provider nor stored or remembered, so that it is still owed. -/
theorem quiet_iff (h : maintenanceMachine.Run log s) (environment : String) :
    (∀ update n now, isUnderMaintenance n update (s.table.activeMaintenance environment) now = true ↔
      WorkedOn s.told environment update n now) ∧
    (∀ (pass : NotifyPass) (reads : Reads) (state : NotifyState) (n : Notification) (i : ℕ),
      pass.maintenance = s.table.activeMaintenance environment →
      WorkedOn s.told environment (pass.effective newV5 toRfc3339 reads) n (pass.now i) →
      Silent state (pass.announce newV5 toRfc3339 floor reads state (n, i))) ∧
    ∀ (update : IncidentUpdate) (n : Notification) (provider : String) (turn : Turn) (state : NotifyState),
      turn.windows = some (s.table.activeMaintenance environment) →
      WorkedOn s.told environment update n turn.now → Silent state (offer [] update n provider turn state) := by
  have hiff := (sound_run h).isUnderMaintenance_iff environment
  refine ⟨hiff, fun pass reads state n i hpass hworked => ?_, fun update n provider turn state hwindows hworked => ?_⟩
  · apply silent_announce
    rw [hpass]
    exact (hiff _ n _).mpr hworked
  · exact silent_offer hwindows ((hiff update n _).mpr hworked)

end Passes

/-- Work on a whole environment. -/
def workBegins : MaintenanceCall := ⟨"lab", .start none "disks" none, .new, 0, ⟨9⟩, none, true⟩

/-- It is over. -/
def workEnds : MaintenanceCall := ⟨"lab", .endWindow "", .new, 10, ⟨10⟩, none, true⟩

/-- After the work. -/
def afterWork : Maintenance := (Maintenance.step ⟨∅, []⟩ workBegins).step workEnds

/-- An incident. -/
def brokenDisk : Incident := { Incident.new 3 ⟨1⟩ "f" .critical with affectedEntities := [⟨⟨7⟩⟩] }

/-- A message about it. -/
def diskMessage : Notification := ⟨brokenDisk.id.toText, "f", .opened, .critical, 3, none⟩

/-- What broke during the work is told afterwards. -/
theorem quiet_iff_afterWork :
    isUnderMaintenance diskMessage ⟨[brokenDisk], [], [], []⟩ (afterWork.table.activeMaintenance "lab") 5 = true ∧
      isUnderMaintenance diskMessage ⟨[brokenDisk], [], [], []⟩ (afterWork.table.activeMaintenance "lab") 20 = false := by
  have hbegins : maintenanceMachine.Run [workBegins] (Maintenance.step ⟨∅, []⟩ workBegins) :=
    .snoc (.init rfl) (show (∅ : Windows)[workBegins.id]? = none from Std.ExtTreeMap.getElem?_empty)
  have hfresh : (Maintenance.step ⟨∅, []⟩ workBegins).table[workEnds.id]? = none := by decide +kernel
  have hrun : maintenanceMachine.Run ([workBegins] ++ [workEnds]) afterWork := hbegins.snoc hfresh
  have htold : afterWork.told = [.started ⟨9⟩ "lab" none 0 none, .ended ⟨9⟩ 10] := rfl
  obtain ⟨hiff, -, -⟩ := @quiet_iff _ _ (fun id _ => id) (fun _ => "") .info hrun "lab"
  have hfind : (⟨[brokenDisk], [], [], []⟩ : IncidentUpdate).all.find? (fun i => i.id.toText = diskMessage.incidentId) =
      some brokenDisk := by decide +kernel
  constructor
  · refine (hiff _ _ _).mpr ⟨brokenDisk, hfind, List.cons_ne_nil _ _, fun entity _ => ?_⟩
    rw [htold]
    refine ⟨⟨9⟩, none, 0, none, List.mem_cons_self, .inl rfl, by decide, fun _ h => (by cases h), fun instant h => ?_⟩
    rcases List.mem_cons.mp h with h | h
    · cases h
    · cases List.mem_singleton.mp h
      decide
  · rw [← Bool.not_eq_true, hiff]
    rintro ⟨i, hi, -, hall⟩
    obtain rfl := Option.some.inj (hfind.symm.trans hi)
    obtain ⟨id, covered, startsAt, endsAt, hstarted, -, -, -, hended⟩ := hall ⟨⟨7⟩⟩ List.mem_cons_self
    rw [htold] at hstarted hended
    rcases List.mem_cons.mp hstarted with hstarted | hstarted
    · cases hstarted
      exact absurd (hended 10 (List.mem_cons_of_mem _ (List.mem_singleton_self _))) (by decide)
    · cases List.mem_singleton.mp hstarted

end Maintenance

end Sentinel
