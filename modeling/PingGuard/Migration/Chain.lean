import PingGuard.Library.Transition
import PingGuard.Migration.Catalog

/-!
# The chain of revisions

`alembic upgrade` and `alembic downgrade` one revision at a time, the `alembic upgrade head` of a
deployment, and whatever the application writes in between. A command is one transaction, so that
one that fails leaves the state as it is.

`IsAt` says what the catalog holds at a revision: a database with the tables of that revision, and
its indexes. Every command stays there (`IsAt.step`), although each statement is checked only
against the catalog that it finds. `Migrates` is what follows for every run: at the head the tables
and indexes are those of the models, a downgrade never fails and can be taken back, and a deployment
fails only where revision 7a2e4b8c9d10 meets values that its checks refuse.
-/

set_option autoImplicit false
set_option relaxedAutoImplicit false

namespace PingGuard.Migration

open Columns Library.PyText Library.SqlTable Library.Transition Models

/-! ### Databases in the catalog -/

section OfDatabase

variable {monitorSchema : Schema MonitorColumn} {pingResultSchema : Schema PingResultColumn}

/-- A database with its indexes, as the catalog holds it. -/
def Catalog.ofDatabase (database : Database monitorSchema pingResultSchema)
    (indexes : Finset Index) : Catalog where
  monitors := some ⟨monitorSchema, database.monitors⟩
  pingResults := some ⟨pingResultSchema, database.pingResults⟩
  indexes := indexes
  references := by
    rintro _ ⟨⟩
    exact ⟨_, rfl, database.references⟩

namespace Catalog

variable {database : Database monitorSchema pingResultSchema} {indexes : Finset Index}

/-- A statement about `monitors` that keeps the ids. -/
theorem alterMonitors_ofDatabase {altered : Schema MonitorColumn} {table : Table altered}
    {statement : StoredTable MonitorColumn → Option (StoredTable MonitorColumn)}
    (hstatement : statement ⟨_, database.monitors⟩ = some ⟨altered, table⟩)
    (hrefers : ∀ result ∈ database.pingResults.rows, ∃ monitor ∈ table.rows,
      monitor .id = result .monitorId) :
    (ofDatabase database indexes).alterMonitors statement =
      some (ofDatabase ⟨table, database.pingResults, hrefers⟩ indexes) := by
  have hreferences := (ofDatabase ⟨table, database.pingResults, hrefers⟩ indexes).references
  change (statement ⟨_, database.monitors⟩).bind _ = _
  rw [hstatement]
  exact dif_pos hreferences

/-- A statement about `monitors` that fails. -/
theorem alterMonitors_ofDatabase_none
    {statement : StoredTable MonitorColumn → Option (StoredTable MonitorColumn)}
    (hstatement : statement ⟨_, database.monitors⟩ = none) :
    (ofDatabase database indexes).alterMonitors statement = none := by
  change (statement ⟨_, database.monitors⟩).bind _ = _
  rw [hstatement]
  rfl

/-- A statement about `ping_results` that fails. -/
theorem alterPingResults_ofDatabase_none
    {statement : StoredTable PingResultColumn → Option (StoredTable PingResultColumn)}
    (hstatement : statement ⟨_, database.pingResults⟩ = none) :
    (ofDatabase database indexes).alterPingResults statement = none := by
  change (statement ⟨_, database.pingResults⟩).bind _ = _
  rw [hstatement]
  rfl

/-- A statement about `ping_results` that keeps what the results refer to. -/
theorem alterPingResults_ofDatabase {altered : Schema PingResultColumn} {table : Table altered}
    {statement : StoredTable PingResultColumn → Option (StoredTable PingResultColumn)}
    (hstatement : statement ⟨_, database.pingResults⟩ = some ⟨altered, table⟩)
    (hrefers : ∀ result ∈ table.rows, ∃ monitor ∈ database.monitors.rows,
      monitor .id = result .monitorId) :
    (ofDatabase database indexes).alterPingResults statement =
      some (ofDatabase ⟨database.monitors, table, hrefers⟩ indexes) := by
  have hreferences := (ofDatabase ⟨database.monitors, table, hrefers⟩ indexes).references
  change (statement ⟨_, database.pingResults⟩).bind _ = _
  rw [hstatement]
  exact dif_pos hreferences

/-- What the application writes is again a database of the same tables. -/
theorem exists_of_write {monitors : List (Row MonitorColumn)}
    {pingResults : List (Row PingResultColumn)} {written : Catalog}
    (hwrite : (ofDatabase database indexes).write monitors pingResults = some written) :
    ∃ after : Database monitorSchema pingResultSchema, written = ofDatabase after indexes := by
  obtain ⟨stored, hstored, hrest⟩ := Option.bind_eq_some_iff.mp hwrite
  obtain ⟨results, hresult, hmake⟩ := Option.bind_eq_some_iff.mp hrest
  obtain ⟨monitorTable, rfl, -⟩ := StoredTable.of_replaceRows hstored
  obtain ⟨pingResultTable, rfl, -⟩ := StoredTable.of_replaceRows hresult
  unfold make at hmake
  split_ifs at hmake with hrefers
  obtain rfl := Option.some.inj hmake
  obtain ⟨_, ⟨⟩, hrows⟩ := hrefers _ rfl
  exact ⟨⟨monitorTable, pingResultTable, hrows⟩, rfl⟩

end Catalog

end OfDatabase

/-! ### What the statements do to a database -/

/-- The index of `monitor_id` alone. -/
def monitorIdIndex : Index := ⟨"ix_ping_results_monitor_id", .pingResults [.monitorId]⟩

/-- The indexes that revision ea1acc2dea1b creates. -/
def initialIndexes : Finset Index :=
  {⟨"idx_ping_results_monitor_checked", .pingResults [.monitorId, .checkedAt]⟩,
    monitorIdIndex,
    ⟨"ix_ping_results_checked_at", .pingResults [.checkedAt]⟩,
    ⟨"ix_monitors_next_keep_alive_at", .monitors [.nextKeepAliveAt]⟩,
    ⟨"ix_monitors_next_check_at", .monitors [.nextCheckAt]⟩}

/-- The indexes of the models: of the columns with `index=True`, and of two columns together. -/
def modelIndexes : Finset Index :=
  {⟨"ix_monitors_next_check_at", .monitors [.nextCheckAt]⟩,
    ⟨"ix_monitors_next_keep_alive_at", .monitors [.nextKeepAliveAt]⟩,
    ⟨"ix_ping_results_checked_at", .pingResults [.checkedAt]⟩,
    ⟨"idx_ping_results_monitor_checked", .pingResults [.monitorId, .checkedAt]⟩}

/-- The database that revision ea1acc2dea1b creates. -/
def emptyDatabase : Database initialMonitors initialPingResults where
  monitors := .empty _
  pingResults := .empty _
  references := List.forall_mem_nil _

/-- Revision ea1acc2dea1b creates its tables and indexes. -/
theorem upgrade_initial : Revision.initialPingguardSchema.upgrade .empty =
    some (.ofDatabase emptyDatabase initialIndexes) := rfl

/-- Revision 8d3f1a4e2c6b drops an index, and its downgrade creates it again. -/
theorem upgrade_index (database : Database upgradedMonitors upgradedPingResults) :
    Revision.dropRedundantMonitorIdIndex.upgrade (.ofDatabase database initialIndexes) =
        some (.ofDatabase database modelIndexes) ∧
      Revision.dropRedundantMonitorIdIndex.downgrade (.ofDatabase database modelIndexes) =
        some (.ofDatabase database initialIndexes) := by
  have hdropped : initialIndexes.filter (·.name ≠ "ix_ping_results_monitor_id") = modelIndexes := by
    decide
  have hcreated : insert monitorIdIndex modelIndexes = initialIndexes := by decide
  constructor
  · rw [← hdropped]
    rfl
  · rw [← hcreated]
    rfl

/-- A database without the checks. -/
def uncheck (database : Database upgradedMonitors upgradedPingResults) :
    Database initialMonitors initialPingResults where
  monitors := database.monitors.uncheck.uncheck
  pingResults := database.pingResults.uncheck
  references := database.references

/-- The clean-up of the statuses and the first check are possible in every table of revision
ea1acc2dea1b. -/
theorem exists_withStatus (monitors : Table initialMonitors) :
    ∃ cleaned withStatus, monitors.update .status (.text "down".toList) isInvalidStatus =
        some cleaned ∧ cleaned.addCheck ckMonitorsStatus = some withStatus ∧
      cleaned.rows = monitors.rows.map cleanStatus ∧
        withStatus.rows = monitors.rows.map cleanStatus := by
  obtain ⟨cleaned, hcleaned⟩ := monitors.update_isSome .status (.text "down".toList) rfl
    (fun _ hcheck ↦ absurd hcheck List.not_mem_nil) (by decide) isInvalidStatus
  have hrows : cleaned.rows = monitors.rows.map cleanStatus := Table.rows_of_update hcleaned
  obtain ⟨withStatus, hstatus⟩ := (cleaned.addCheck_isSome_iff ckMonitorsStatus).mpr (by
    rw [hrows]
    exact List.forall_mem_map.mpr fun row _ ↦ ckMonitorsStatus_cleanStatus row)
  exact ⟨cleaned, withStatus, hcleaned, hstatus, hrows,
    (Table.rows_of_addCheck hstatus).trans hrows⟩

/-- The results refer to the cleaned monitors. -/
theorem references_cleaned (database : Database initialMonitors initialPingResults)
    {rows : List (Row MonitorColumn)} (hrows : rows = database.monitors.rows.map cleanStatus) :
    ∀ result ∈ database.pingResults.rows, ∃ monitor ∈ rows, monitor .id = result .monitorId := by
  intro result hresult
  obtain ⟨monitor, hmonitor, hid⟩ := database.references result hresult
  refine ⟨cleanStatus monitor, hrows ▸ List.mem_map_of_mem hmonitor, ?_⟩
  rwa [cleanStatus_of_ne (by decide)]

/-- Revision 7a2e4b8c9d10 upgrades the database that the catalog holds. -/
theorem upgrade_checks (database : Database initialMonitors initialPingResults) :
    Revision.addStatusAndModeCheckConstraints.upgrade (.ofDatabase database initialIndexes) =
      (Migration.upgrade database).map (.ofDatabase · initialIndexes) := by
  obtain ⟨cleaned, withStatus, hcleaned, hstatus, hrows, hrows'⟩ :=
    exists_withStatus database.monitors
  have hupgrade : upgradeMonitors database.monitors = withStatus.addCheck ckMonitorsMode := by
    rw [upgradeMonitors, hcleaned, Option.bind_eq_bind, Option.bind_some, Option.bind_eq_bind,
      hstatus, Option.bind_some]
  -- the statements about the monitors up to the second check
  have hclean := @Catalog.alterMonitors_ofDatabase _ _ database initialIndexes _ cleaned
    (·.update .status (.text "down".toList) isInvalidStatus)
    (by rw [StoredTable.update, hcleaned]; rfl) (references_cleaned database hrows)
  have hcheck := @Catalog.alterMonitors_ofDatabase _ _
    ⟨cleaned, database.pingResults, references_cleaned database hrows⟩ initialIndexes _ withStatus
    (·.addCheck ckMonitorsStatus) (by rw [StoredTable.addCheck_of_new (by decide), hstatus]; rfl)
    (references_cleaned database hrows')
  rw [Revision.upgrade, hclean, Option.bind_eq_bind, Option.bind_some, hcheck, Option.bind_some]
  cases hmode : withStatus.addCheck ckMonitorsMode with
  | none =>
    have hnone : Migration.upgrade database = none := by
      refine Option.eq_none_iff_forall_ne_some.mpr fun upgraded hsome ↦ ?_
      have hmonitors := ((upgrade_eq_some_iff database upgraded).mp hsome).1
      exact Option.some_ne_none _ (hmonitors.symm.trans (hupgrade.trans hmode))
    rw [hnone, Catalog.alterMonitors_ofDatabase_none
      (by rw [StoredTable.addCheck_of_new (by decide), hmode]; rfl)]
    rfl
  | some monitors =>
    have hmonitors := hupgrade.trans hmode
    have hrefers := references_cleaned database (rows_of_upgradeMonitors hmonitors)
    rw [@Catalog.alterMonitors_ofDatabase _ _ ⟨withStatus, database.pingResults, _⟩ initialIndexes _
      monitors (·.addCheck ckMonitorsMode)
      (by rw [StoredTable.addCheck_of_new (by decide), hmode]; rfl) hrefers, Option.bind_some]
    cases hresults : database.pingResults.addCheck ckPingResultsCheckType with
    | none =>
      have hnone : Migration.upgrade database = none := by
        refine Option.eq_none_iff_forall_ne_some.mpr fun upgraded hsome ↦ ?_
        have hchecked := ((upgrade_eq_some_iff database upgraded).mp hsome).2
        exact Option.some_ne_none _ (hchecked.symm.trans hresults)
      rw [hnone]
      exact Catalog.alterPingResults_ofDatabase_none
        (by rw [StoredTable.addCheck_of_new (by decide), hresults]; rfl)
    | some pingResults =>
      have hsome := (upgrade_eq_some_iff database
        ⟨monitors, pingResults, references_upgrade database hmonitors hresults⟩).mpr
          ⟨hmonitors, hresults⟩
      rw [hsome]
      exact Catalog.alterPingResults_ofDatabase
        (by rw [StoredTable.addCheck_of_new (by decide), hresults]; rfl)
        (references_upgrade database hmonitors hresults)

/-- Its downgrade takes the checks away, and nothing else. -/
theorem downgrade_checks (database : Database upgradedMonitors upgradedPingResults) :
    Revision.addStatusAndModeCheckConstraints.downgrade (.ofDatabase database initialIndexes) =
      some (.ofDatabase (uncheck database) initialIndexes) := by
  have hresults := @Catalog.alterPingResults_ofDatabase _ _ database initialIndexes _
    database.pingResults.uncheck (·.dropCheck "ck_ping_results_check_type")
    (StoredTable.dropCheck_uncheck (by decide) _) database.references
  have hmode := @Catalog.alterMonitors_ofDatabase _ _
    ⟨database.monitors, database.pingResults.uncheck, database.references⟩ initialIndexes _
    database.monitors.uncheck (·.dropCheck "ck_monitors_mode")
    (StoredTable.dropCheck_uncheck (by decide) _) database.references
  have hstatus := @Catalog.alterMonitors_ofDatabase _ _
    ⟨database.monitors.uncheck, database.pingResults.uncheck, database.references⟩ initialIndexes _
    database.monitors.uncheck.uncheck (·.dropCheck "ck_monitors_status")
    (StoredTable.dropCheck_uncheck (by decide) _) database.references
  rw [Revision.downgrade, hresults, Option.bind_eq_bind, Option.bind_some, hmode, Option.bind_some]
  exact hstatus

/-- There is nothing to clean up behind the checks. -/
theorem map_cleanStatus (monitors : Table upgradedMonitors) :
    monitors.rows.map cleanStatus = monitors.rows := by
  refine (List.map_congr_left fun row hrow ↦ cleanStatus_of_holds ?_).trans (List.map_id _)
  have hstatus := ((Schema.admits_withCheck _ _ row).mp (monitors.admitted row hrow)).1
  exact ((Schema.admits_withCheck _ _ row).mp hstatus).2

/-- The upgrade of a database that was downgraded brings it back: its rows pass the checks. -/
theorem upgrade_uncheck (database : Database upgradedMonitors upgradedPingResults) :
    Migration.upgrade (uncheck database) = some database := by
  obtain ⟨cleaned, withStatus, hcleaned, hstatus, hrows, -⟩ :=
    exists_withStatus (uncheck database).monitors
  have hsame : cleaned = (uncheck database).monitors :=
    Table.eq_of_rows_eq (hrows.trans (map_cleanStatus database.monitors))
  subst hsame
  refine (upgrade_eq_some_iff _ _).mpr ⟨?_, Table.addCheck_uncheck database.pingResults⟩
  rw [upgradeMonitors, hcleaned, Option.bind_eq_bind, Option.bind_some]
  have hunchecked : (uncheck database).monitors.addCheck ckMonitorsStatus =
      some database.monitors.uncheck := Table.addCheck_uncheck _
  rw [hunchecked, Option.bind_eq_bind, Option.bind_some]
  exact Table.addCheck_uncheck database.monitors

/-- The upgrade of a database completes exactly if the modes and the check types are valid. -/
theorem upgrade_isSome_iff (database : Database initialMonitors initialPingResults) :
    (∃ upgraded, Migration.upgrade database = some upgraded) ↔
      (∀ row ∈ database.monitors.rows, ckMonitorsMode.holds row = true) ∧
        ∀ row ∈ database.pingResults.rows, ckPingResultsCheckType.holds row = true := by
  rw [← upgradeMonitors_isSome_iff, ← Table.addCheck_isSome_iff]
  constructor
  · rintro ⟨upgraded, hupgrade⟩
    obtain ⟨hmonitors, hresults⟩ := (upgrade_eq_some_iff database upgraded).mp hupgrade
    exact ⟨⟨_, hmonitors⟩, ⟨_, hresults⟩⟩
  · rintro ⟨⟨monitors, hmonitors⟩, ⟨pingResults, hresults⟩⟩
    exact ⟨⟨monitors, pingResults, references_upgrade database hmonitors hresults⟩,
      (upgrade_eq_some_iff _ _).mpr ⟨hmonitors, hresults⟩⟩

/-! ### Commands -/

/-- The revision that `alembic_version` names, if any, and the catalog. -/
structure State where
  revision : Option Revision
  catalog : Catalog

namespace State

/-- A new database. -/
def empty : State := ⟨none, .empty⟩

/-- The rows of `monitors`, if there is such a table. -/
def monitorRows (state : State) : List (Row MonitorColumn) :=
  state.catalog.monitors.elim [] StoredTable.rows

/-- The rows of `ping_results`, if there is such a table. -/
def pingResultRows (state : State) : List (Row PingResultColumn) :=
  state.catalog.pingResults.elim [] StoredTable.rows

/-- The upgrade of one revision. -/
def apply (state : State) (revision : Revision) : Option State :=
  (revision.upgrade state.catalog).map (⟨some revision, ·⟩)

/-- The downgrade of one revision. -/
def revert (state : State) (revision : Revision) : Option State :=
  (revision.downgrade state.catalog).map (⟨revision.downRevision, ·⟩)

end State

/-- The revisions above another, in the order in which they are applied. -/
def pending : Option Revision → List Revision
  | none => [.initialPingguardSchema, .addStatusAndModeCheckConstraints,
      .dropRedundantMonitorIdIndex]
  | some .initialPingguardSchema =>
    [.addStatusAndModeCheckConstraints, .dropRedundantMonitorIdIndex]
  | some .addStatusAndModeCheckConstraints => [.dropRedundantMonitorIdIndex]
  | some .dropRedundantMonitorIdIndex => []

/-- The next revision is the one whose `down_revision` is the current one. -/
theorem head?_pending_iff (current : Option Revision) (revision : Revision) :
    (pending current).head? = some revision ↔ revision.downRevision = current := by
  rcases current with - | current
  · cases revision <;> decide
  · cases current <;> cases revision <;> decide

/-- What is run against the database: `alembic upgrade +1`, `alembic downgrade -1`, `alembic upgrade
head`, and transactions of the application. -/
inductive Command
  | upgrade
  | downgrade
  | upgradeHead
  | write (monitors : List (Row MonitorColumn)) (pingResults : List (Row PingResultColumn))

/-- The state after a command, unless it fails. -/
def step (state : State) : Command → Option State
  | .upgrade => (pending state.revision).head?.bind state.apply
  | .downgrade => state.revision.bind state.revert
  | .upgradeHead => (pending state.revision).foldlM State.apply state
  | .write monitors pingResults =>
    (state.catalog.write monitors pingResults).map (⟨state.revision, ·⟩)

/-! ### Every run -/

/-- What the catalog holds at a revision: nothing, or a database with the tables of the revision,
and its indexes. -/
inductive IsAt : State → Prop
  | base : IsAt .empty
  | initial (database : Database initialMonitors initialPingResults) :
      IsAt ⟨some .initialPingguardSchema, .ofDatabase database initialIndexes⟩
  | checked (database : Database upgradedMonitors upgradedPingResults) :
      IsAt ⟨some .addStatusAndModeCheckConstraints, .ofDatabase database initialIndexes⟩
  | head (database : Database upgradedMonitors upgradedPingResults) :
      IsAt ⟨some .dropRedundantMonitorIdIndex, .ofDatabase database modelIndexes⟩

/-- The upgrade of the next revision leads to it. -/
theorem IsAt.apply {state next : State} (hat : IsAt state) {revision : Revision}
    (hdown : revision.downRevision = state.revision) (happly : state.apply revision = some next) :
    IsAt next := by
  obtain ⟨catalog, hupgrade, rfl⟩ := Option.map_eq_some_iff.mp happly
  cases revision with
  | initialPingguardSchema =>
    cases hat with
    | base =>
      obtain rfl := Option.some.inj (upgrade_initial.symm.trans hupgrade)
      exact .initial emptyDatabase
    | _ => exact nomatch hdown
  | addStatusAndModeCheckConstraints =>
    cases hat with
    | initial database =>
      rw [upgrade_checks] at hupgrade
      obtain ⟨upgraded, -, rfl⟩ := Option.map_eq_some_iff.mp hupgrade
      exact .checked upgraded
    | _ => exact nomatch hdown
  | dropRedundantMonitorIdIndex =>
    cases hat with
    | checked database =>
      obtain rfl := Option.some.inj ((upgrade_index database).1.symm.trans hupgrade)
      exact .head database
    | _ => exact nomatch hdown

/-- A downgrade never fails, and leads to the revision before. -/
theorem IsAt.revert {state : State} (hat : IsAt state) {revision : Revision}
    (hrevision : state.revision = some revision) :
    ∃ lower, state.revert revision = some lower ∧ IsAt lower ∧
      lower.revision = revision.downRevision := by
  cases hat with
  | base => nomatch hrevision
  | initial database =>
    obtain rfl := Option.some.inj hrevision
    exact ⟨.empty, rfl, .base, rfl⟩
  | checked database =>
    obtain rfl := Option.some.inj hrevision
    exact ⟨_, by rw [State.revert, downgrade_checks]; rfl, .initial (uncheck database), rfl⟩
  | head database =>
    obtain rfl := Option.some.inj hrevision
    exact ⟨_, by rw [State.revert, (upgrade_index database).2]; rfl, .checked database, rfl⟩

/-- A deployment from revision ea1acc2dea1b. -/
theorem upgradeHead_initial (database : Database initialMonitors initialPingResults) :
    step ⟨some .initialPingguardSchema, .ofDatabase database initialIndexes⟩ .upgradeHead =
      (Migration.upgrade database).map fun upgraded ↦
        ⟨some .dropRedundantMonitorIdIndex, .ofDatabase upgraded modelIndexes⟩ := by
  change List.foldlM State.apply _
    [Revision.addStatusAndModeCheckConstraints, .dropRedundantMonitorIdIndex] = _
  rw [List.foldlM_cons, State.apply, upgrade_checks]
  cases Migration.upgrade database with
  | none => rfl
  | some upgraded =>
    rw [Option.map_some, Option.map_some, Option.bind_eq_bind, Option.bind_some, List.foldlM_cons,
      State.apply, (upgrade_index upgraded).1]
    rfl

/-- A deployment from revision 7a2e4b8c9d10. -/
theorem upgradeHead_checked (database : Database upgradedMonitors upgradedPingResults) :
    step ⟨some .addStatusAndModeCheckConstraints, .ofDatabase database initialIndexes⟩
        .upgradeHead =
      some ⟨some .dropRedundantMonitorIdIndex, .ofDatabase database modelIndexes⟩ := by
  change List.foldlM State.apply _ [Revision.dropRedundantMonitorIdIndex] = _
  rw [List.foldlM_cons, State.apply, (upgrade_index database).1]
  rfl

/-- The database of the head without rows. -/
def emptyUpgraded : Database upgradedMonitors upgradedPingResults where
  monitors := .empty _
  pingResults := .empty _
  references := List.forall_mem_nil _

/-- The first deployment. -/
theorem upgradeHead_base : step .empty .upgradeHead =
    some ⟨some .dropRedundantMonitorIdIndex, .ofDatabase emptyUpgraded modelIndexes⟩ := by
  have hempty := upgradeHead_initial emptyDatabase
  have hupgrade : Migration.upgrade emptyDatabase = some emptyUpgraded :=
    upgrade_uncheck emptyUpgraded
  rw [hupgrade] at hempty
  change List.foldlM State.apply State.empty
    (Revision.initialPingguardSchema :: pending (some .initialPingguardSchema)) = _
  rw [List.foldlM_cons, State.apply, State.empty, upgrade_initial]
  exact hempty

/-- Every command leads to the tables of a revision. -/
theorem IsAt.step {state next : State} (hat : IsAt state) {command : Command}
    (hstep : Migration.step state command = some next) : IsAt next := by
  cases command with
  | upgrade =>
    obtain ⟨revision, hhead, happly⟩ := Option.bind_eq_some_iff.mp hstep
    exact hat.apply ((head?_pending_iff _ _).mp hhead) happly
  | downgrade =>
    obtain ⟨revision, hrevision, hrevert⟩ := Option.bind_eq_some_iff.mp hstep
    obtain ⟨lower, hlower, hat', -⟩ := hat.revert hrevision
    obtain rfl := Option.some.inj (hlower.symm.trans hrevert)
    exact hat'
  | upgradeHead =>
    cases hat with
    | base =>
      obtain rfl := Option.some.inj (upgradeHead_base.symm.trans hstep)
      exact .head emptyUpgraded
    | initial database =>
      rw [upgradeHead_initial] at hstep
      obtain ⟨upgraded, -, rfl⟩ := Option.map_eq_some_iff.mp hstep
      exact .head upgraded
    | checked database =>
      obtain rfl := Option.some.inj ((upgradeHead_checked database).symm.trans hstep)
      exact .head database
    | head database =>
      obtain rfl := Option.some.inj hstep
      exact .head database
  | write monitors pingResults =>
    obtain ⟨catalog, hwrite, rfl⟩ := Option.map_eq_some_iff.mp hstep
    cases hat with
    | base => nomatch hwrite
    | initial database =>
      obtain ⟨after, rfl⟩ := Catalog.exists_of_write hwrite
      exact .initial after
    | checked database =>
      obtain ⟨after, rfl⟩ := Catalog.exists_of_write hwrite
      exact .checked after
    | head database =>
      obtain ⟨after, rfl⟩ := Catalog.exists_of_write hwrite
      exact .head after

/-! ### What a run may rely on -/

/-- The definitions of the tables that exist, and the indexes. -/
structure Definition where
  monitors : Option (Schema MonitorColumn)
  pingResults : Option (Schema PingResultColumn)
  indexes : Finset Index

/-- What the catalog defines. -/
def Catalog.definition (catalog : Catalog) : Definition where
  monitors := catalog.monitors.map StoredTable.schema
  pingResults := catalog.pingResults.map StoredTable.schema
  indexes := catalog.indexes

/-- `Base.metadata`: the columns, checks and indexes that the models declare. The foreign key, which
every catalog enforces, is not compared, and neither are server defaults and the names of keys: the
revisions set some that the models do not declare. -/
def metadata : Definition := ⟨some Columns.monitors, some Columns.pingResults, modelIndexes⟩

/-- What a revision defines. -/
def definitionAt : Option Revision → Definition
  | none => ⟨none, none, ∅⟩
  | some .initialPingguardSchema => ⟨some initialMonitors, some initialPingResults, initialIndexes⟩
  | some .addStatusAndModeCheckConstraints => { metadata with indexes := initialIndexes }
  | some .dropRedundantMonitorIdIndex => metadata

/-- What the revisions promise in a state: the definitions are those of the revision; a downgrade
succeeds, and leaves every row and a way back to the same state, unless it drops the tables; and a
deployment succeeds unless there are modes or check types that are not valid in a database without
the checks, and leaves every row but for the statuses that are not valid. -/
structure Migrates (state : State) : Prop where
  definition : state.catalog.definition = definitionAt state.revision
  downgrade : ∀ revision, state.revision = some revision →
    ∃ lower, step state .downgrade = some lower ∧ lower.revision = revision.downRevision ∧
      (revision ≠ .initialPingguardSchema → step lower .upgrade = some state ∧
        lower.monitorRows = state.monitorRows ∧ lower.pingResultRows = state.pingResultRows)
  completes_iff : (∃ head, step state .upgradeHead = some head) ↔
    (state.revision = some .initialPingguardSchema →
      (∀ row ∈ state.monitorRows, ckMonitorsMode.holds row = true) ∧
        ∀ row ∈ state.pingResultRows, ckPingResultsCheckType.holds row = true)
  deployed : ∀ head, step state .upgradeHead = some head →
    head.catalog.definition = metadata ∧
      head.monitorRows = state.monitorRows.map cleanStatus ∧
        head.pingResultRows = state.pingResultRows

/-- The head has the definitions of the models. -/
theorem definition_ofDatabase (database : Database upgradedMonitors upgradedPingResults)
    (indexes : Finset Index) :
    (Catalog.ofDatabase database indexes).definition = { metadata with indexes := indexes } := by
  obtain ⟨hmonitors, hpingResults⟩ := schemas_upgrade
  rw [metadata, ← hmonitors, ← hpingResults]
  rfl

/-- The promise is kept before the first deployment. -/
theorem migrates_base : Migrates .empty where
  definition := rfl
  downgrade := nofun
  completes_iff := ⟨fun _ ↦ nofun, fun _ ↦ ⟨_, upgradeHead_base⟩⟩
  deployed := by
    intro head hhead
    obtain rfl := Option.some.inj (upgradeHead_base.symm.trans hhead)
    exact ⟨definition_ofDatabase _ _, rfl, rfl⟩

/-- The promise is kept at revision ea1acc2dea1b. -/
theorem migrates_initial (database : Database initialMonitors initialPingResults) :
    Migrates ⟨some .initialPingguardSchema, .ofDatabase database initialIndexes⟩ where
  definition := rfl
  downgrade := by
    rintro _ ⟨⟩
    exact ⟨.empty, rfl, rfl, fun hne ↦ absurd rfl hne⟩
  completes_iff := by
    rw [upgradeHead_initial, forall_prop_of_true rfl]
    refine Iff.trans ?_ (upgrade_isSome_iff database)
    rw [← Option.isSome_iff_exists, Option.isSome_map, Option.isSome_iff_exists]
  deployed := by
    intro head hhead
    rw [upgradeHead_initial] at hhead
    obtain ⟨upgraded, hupgrade, rfl⟩ := Option.map_eq_some_iff.mp hhead
    obtain ⟨hmonitors, hresults⟩ := (upgrade_eq_some_iff database upgraded).mp hupgrade
    exact ⟨definition_ofDatabase _ _, rows_of_upgradeMonitors hmonitors,
      Table.rows_of_addCheck hresults⟩

/-- The promise is kept at revision 7a2e4b8c9d10. -/
theorem migrates_checked (database : Database upgradedMonitors upgradedPingResults) :
    Migrates ⟨some .addStatusAndModeCheckConstraints, .ofDatabase database initialIndexes⟩ where
  definition := definition_ofDatabase _ _
  downgrade := by
    rintro _ ⟨⟩
    refine ⟨⟨_, .ofDatabase (uncheck database) initialIndexes⟩, ?_, rfl, fun _ ↦ ⟨?_, rfl, rfl⟩⟩
    · exact congrArg (Option.map (State.mk (some .initialPingguardSchema)))
        (downgrade_checks database)
    · have hupgrade := upgrade_checks (uncheck database)
      rw [upgrade_uncheck] at hupgrade
      exact congrArg (Option.map (State.mk (some .addStatusAndModeCheckConstraints))) hupgrade
  completes_iff := ⟨fun _ ↦ nofun, fun _ ↦ ⟨_, upgradeHead_checked database⟩⟩
  deployed := by
    intro head hhead
    obtain rfl := Option.some.inj ((upgradeHead_checked database).symm.trans hhead)
    exact ⟨definition_ofDatabase _ _, (map_cleanStatus database.monitors).symm, rfl⟩

/-- The promise is kept at the head. -/
theorem migrates_head (database : Database upgradedMonitors upgradedPingResults) :
    Migrates ⟨some .dropRedundantMonitorIdIndex, .ofDatabase database modelIndexes⟩ where
  definition := definition_ofDatabase _ _
  downgrade := by
    rintro _ ⟨⟩
    refine ⟨⟨_, .ofDatabase database initialIndexes⟩, ?_, rfl, fun _ ↦ ⟨?_, rfl, rfl⟩⟩
    · exact congrArg (Option.map (State.mk (some .addStatusAndModeCheckConstraints)))
        (upgrade_index database).2
    · exact congrArg (Option.map (State.mk (some .dropRedundantMonitorIdIndex)))
        (upgrade_index database).1
  completes_iff := ⟨fun _ ↦ nofun, fun _ ↦ ⟨_, rfl⟩⟩
  deployed := by
    rintro _ ⟨⟩
    exact ⟨definition_ofDatabase _ _, (map_cleanStatus database.monitors).symm, rfl⟩

/-- The revisions keep their promise in every run of upgrades, downgrades, deployments and writes of
the application from a new database. -/
theorem migrates_of_reaches {state : State}
    (hreaches : Reaches step (fun _ _ ↦ True) State.empty state) : Migrates state := by
  have hat : IsAt state := by
    refine hreaches.invariant (motive := IsAt) .base ?_
    exact fun _ _ _ hat _ hstep ↦ hat.step hstep
  cases hat with
  | base => exact migrates_base
  | initial database => exact migrates_initial database
  | checked database => exact migrates_checked database
  | head database => exact migrates_head database

/-- A database is deployed and used, taken back to the first revision, where a status gets an
unknown value, and deployed again. -/
def redeployment : List Command :=
  [.upgradeHead, .write [monitorRow 1 Monitor.dueAtZero] [], .downgrade, .downgrade,
    .write [Function.update (monitorRow 1 Monitor.dueAtZero) .status (.text "paused".toList)] [],
    .upgradeHead]

/-- The promise is kept, and the status is repaired. -/
theorem migrates_redeployment : ∃ state,
    run step State.empty redeployment = some state ∧
      state.monitorRows.map (· .status) = [.text "down".toList] ∧ Migrates state := by
  have hleft : (run step State.empty redeployment).map (fun state ↦
      state.monitorRows.map (· .status)) = some [.text "down".toList] := by rfl
  obtain ⟨state, hrun, hrows⟩ := Option.map_eq_some_iff.mp hleft
  exact ⟨state, hrun, hrows, migrates_of_reaches (reaches_of_run .start (fun _ _ _ ↦ trivial) hrun)⟩

end PingGuard.Migration
