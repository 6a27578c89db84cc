import PingGuard.Columns

/-!
# Adding the check constraints

The `upgrade` of revision 7a2e4b8c9d10 on a database that revision ea1acc2dea1b admits, where
`status`, `mode` and `check_type` are texts without a constraint. The upgrade sets every unknown
status to `down` and then adds three checks. A check cannot be added while a row violates it, and
nothing is done then.

`schemas_upgrade` says that the result has the tables of the models. The statuses are repaired and
the other two columns are not, so that `upgrade_repairs_iff` asks for valid modes and check types.
-/

set_option autoImplicit false
set_option relaxedAutoImplicit false

namespace PingGuard.Migration

open Columns Library.PyText Library.SqlTable Models

/-! ### The tables of revision ea1acc2dea1b -/

/-- `monitors` as revision ea1acc2dea1b creates it. -/
def initialMonitors : Schema MonitorColumn where
  column
    | .id => .notNull .integer
    | .name => .notNull (.varchar 120)
    | .url => .notNull (.varchar 2048)
    | .checkIntervalSeconds => .notNull .integer
    | .status => .notNull (.varchar 20)
    | .lastCheckedAt => .orNull .timestamp
    | .nextCheckAt => .orNull .timestamp
    | .mode => .notNull (.varchar 30)
    | .keepAliveEnabled => .notNull .boolean
    | .keepAliveIntervalSeconds => .orNull .integer
    | .keepAlivePath => .orNull (.varchar 255)
    | .nextKeepAliveAt => .orNull .timestamp
  primaryKey := .id
  checks := []

/-- `ping_results` as revision ea1acc2dea1b creates it. -/
def initialPingResults : Schema PingResultColumn where
  column
    | .id => .notNull .integer
    | .monitorId => .notNull .integer
    | .checkType => .notNull (.varchar 20)
    | .statusCode => .orNull .integer
    | .latencyMs => .orNull .float
    | .error => .orNull (.varchar 500)
    | .checkedAt => .notNull .timestamp
  primaryKey := .id
  checks := []

/-- A database of two tables. Every result refers to a monitor. -/
structure Database (monitorSchema : Schema MonitorColumn)
    (pingResultSchema : Schema PingResultColumn) where
  monitors : Table monitorSchema
  pingResults : Table pingResultSchema
  references : ∀ result ∈ pingResults.rows, ∃ monitor ∈ monitors.rows,
    monitor .id = result .monitorId

/-! ### The upgrade -/

/-- `monitors` after the upgrade. The conditions that the revision writes out are word for word
those of the models. -/
abbrev upgradedMonitors : Schema MonitorColumn :=
  (initialMonitors.withCheck ckMonitorsStatus).withCheck ckMonitorsMode

/-- `ping_results` after the upgrade. -/
abbrev upgradedPingResults : Schema PingResultColumn :=
  initialPingResults.withCheck ckPingResultsCheckType

/-- The upgrade leads to the tables that the models declare. -/
theorem schemas_upgrade :
    upgradedMonitors = Columns.monitors ∧ upgradedPingResults = Columns.pingResults := by
  have hmonitors : initialMonitors.column = Columns.monitors.column := by
    funext column
    cases column <;> rfl
  have hpingResults : initialPingResults.column = Columns.pingResults.column := by
    funext column
    cases column <;> rfl
  unfold upgradedMonitors upgradedPingResults Schema.withCheck
  rw [hmonitors, hpingResults]
  exact ⟨rfl, rfl⟩

/-- The condition of the clean-up: a status that is none of the four. -/
def isInvalidStatus : Row MonitorColumn → Bool :=
  notIn .status (["up", "degraded", "down", "pending"].map String.toList)

/-- The statements of the upgrade about `monitors`: the clean-up of the status, then two checks. -/
def upgradeMonitors (monitors : Table initialMonitors) : Option (Table upgradedMonitors) := do
  let cleaned ← monitors.update .status (.text "down".toList) isInvalidStatus
  let withStatus ← cleaned.addCheck ckMonitorsStatus
  withStatus.addCheck ckMonitorsMode

/-- What the clean-up makes of a row. -/
def cleanStatus : Row MonitorColumn → Row MonitorColumn :=
  setColumn .status (.text "down".toList) isInvalidStatus

/-- The clean-up is about the status only. -/
theorem cleanStatus_of_ne {column : MonitorColumn} (hne : column ≠ .status)
    (row : Row MonitorColumn) : cleanStatus row column = row column :=
  setColumn_of_ne hne _ _ row

/-- A row with a valid status is left as it is. -/
theorem cleanStatus_of_holds {row : Row MonitorColumn}
    (hholds : ckMonitorsStatus.holds row = true) : cleanStatus row = row :=
  setColumn_of_not_selected ((Bool.not_eq_true' _).mp hholds) _ _

/-- After the clean-up every row passes `ck_monitors_status`. -/
theorem ckMonitorsStatus_cleanStatus (row : Row MonitorColumn) :
    ckMonitorsStatus.holds (cleanStatus row) = true := by
  by_cases hinvalid : isInvalidStatus row = true
  · have hdown : cleanStatus row .status = .text "down".toList := by
      rw [cleanStatus, setColumn, if_pos hinvalid, Function.update_self]
    exact Check.holds_of_mem hdown (by decide)
  · have hholds : ckMonitorsStatus.holds row = true :=
      (Bool.not_eq_true' _).mpr (Bool.not_eq_true _ ▸ hinvalid)
    rwa [cleanStatus_of_holds hholds]

/-- The clean-up does not affect `ck_monitors_mode`. -/
theorem ckMonitorsMode_cleanStatus (row : Row MonitorColumn) :
    ckMonitorsMode.holds (cleanStatus row) = ckMonitorsMode.holds row := by
  have hmode : cleanStatus row ckMonitorsMode.column = row ckMonitorsMode.column :=
    cleanStatus_of_ne (by decide) row
  rw [Check.holds, Check.holds, notIn, notIn, hmode]

/-- What the upgrade leaves in `monitors`. -/
theorem rows_of_upgradeMonitors {monitors : Table initialMonitors}
    {upgraded : Table upgradedMonitors} (hupgrade : upgradeMonitors monitors = some upgraded) :
    upgraded.rows = monitors.rows.map cleanStatus := by
  obtain ⟨cleaned, hcleaned, hrest⟩ := Option.bind_eq_some_iff.mp hupgrade
  obtain ⟨withStatus, hstatus, hmode⟩ := Option.bind_eq_some_iff.mp hrest
  rw [Table.rows_of_addCheck hmode, Table.rows_of_addCheck hstatus, Table.rows_of_update hcleaned,
    cleanStatus]

/-- The upgrade of `monitors` completes exactly if every mode is valid. -/
theorem upgradeMonitors_isSome_iff (monitors : Table initialMonitors) :
    (∃ upgraded, upgradeMonitors monitors = some upgraded) ↔
      ∀ row ∈ monitors.rows, ckMonitorsMode.holds row = true := by
  obtain ⟨cleaned, hcleaned⟩ := monitors.update_isSome .status (.text "down".toList) rfl
    (fun _ hcheck ↦ absurd hcheck List.not_mem_nil) (by decide) isInvalidStatus
  have hrows : cleaned.rows = monitors.rows.map cleanStatus := Table.rows_of_update hcleaned
  obtain ⟨withStatus, hstatus⟩ := (cleaned.addCheck_isSome_iff ckMonitorsStatus).mpr (by
    rw [hrows]
    exact List.forall_mem_map.mpr fun row _ ↦ ckMonitorsStatus_cleanStatus row)
  have hupgrade : upgradeMonitors monitors = withStatus.addCheck ckMonitorsMode := by
    rw [upgradeMonitors, hcleaned, Option.bind_eq_bind, Option.bind_some, Option.bind_eq_bind,
      hstatus, Option.bind_some]
  rw [hupgrade, withStatus.addCheck_isSome_iff, Table.rows_of_addCheck hstatus, hrows,
    List.forall_mem_map]
  simp only [ckMonitorsMode_cleanStatus]

/-- The results of an upgrade still refer to monitors. -/
theorem references_upgrade (database : Database initialMonitors initialPingResults)
    {monitors : Table upgradedMonitors} {pingResults : Table upgradedPingResults}
    (hmonitors : upgradeMonitors database.monitors = some monitors)
    (hresults : database.pingResults.addCheck ckPingResultsCheckType = some pingResults) :
    ∀ result ∈ pingResults.rows, ∃ monitor ∈ monitors.rows, monitor .id = result .monitorId := by
  intro result hresult
  rw [Table.rows_of_addCheck hresults] at hresult
  obtain ⟨monitor, hmonitor, hid⟩ := database.references result hresult
  rw [rows_of_upgradeMonitors hmonitors]
  refine ⟨cleanStatus monitor, List.mem_map_of_mem hmonitor, ?_⟩
  rwa [cleanStatus_of_ne (by decide)]

/-- `upgrade`, or nothing if a statement fails. -/
def upgrade (database : Database initialMonitors initialPingResults) :
    Option (Database upgradedMonitors upgradedPingResults) :=
  match hmonitors : upgradeMonitors database.monitors,
    hresults : database.pingResults.addCheck ckPingResultsCheckType with
  | some monitors, some pingResults =>
    some ⟨monitors, pingResults, references_upgrade database hmonitors hresults⟩
  | _, _ => none

/-- What the upgrade of a database makes of its two tables. -/
theorem upgrade_eq_some_iff (database : Database initialMonitors initialPingResults)
    (upgraded : Database upgradedMonitors upgradedPingResults) :
    upgrade database = some upgraded ↔
      upgradeMonitors database.monitors = some upgraded.monitors ∧
        database.pingResults.addCheck ckPingResultsCheckType = some upgraded.pingResults := by
  unfold upgrade
  constructor
  · intro hupgrade
    split at hupgrade
    · next hmonitors hresults =>
      cases hupgrade
      exact ⟨hmonitors, hresults⟩
    · cases hupgrade
  · rintro ⟨hupgraded, hchecked⟩
    split
    · next hmonitors hresults =>
      cases hmonitors.symm.trans hupgraded
      cases hresults.symm.trans hchecked
      rfl
    · next hfails => exact absurd hchecked (hfails _ _ hupgraded)

/-- What the upgrade is for: every row satisfies the checks, a row that did so before is the same,
and no row is lost. -/
structure Repairs (database : Database initialMonitors initialPingResults)
    (upgraded : Database upgradedMonitors upgradedPingResults) : Prop where
  status_holds : ∀ row ∈ upgraded.monitors.rows, ckMonitorsStatus.holds row = true
  mode_holds : ∀ row ∈ upgraded.monitors.rows, ckMonitorsMode.holds row = true
  checkType_holds : ∀ row ∈ upgraded.pingResults.rows, ckPingResultsCheckType.holds row = true
  monitors : database.monitors.IsRepairedBy [ckMonitorsStatus, ckMonitorsMode] upgraded.monitors
  pingResults : database.pingResults.IsRepairedBy [ckPingResultsCheckType] upgraded.pingResults

/-- An upgrade that completes repairs the database. -/
theorem repairs_of_upgrade {database : Database initialMonitors initialPingResults}
    {upgraded : Database upgradedMonitors upgradedPingResults}
    (hupgrade : upgrade database = some upgraded) : Repairs database upgraded := by
  obtain ⟨hmonitors, hresults⟩ := (upgrade_eq_some_iff database upgraded).mp hupgrade
  exact
    { status_holds := fun row hrow ↦
        ((Schema.admits_withCheck _ _ row).mp
          ((Schema.admits_withCheck _ _ row).mp (upgraded.monitors.admitted row hrow)).1).2
      mode_holds := fun row hrow ↦
        ((Schema.admits_withCheck _ _ row).mp (upgraded.monitors.admitted row hrow)).2
      checkType_holds := fun row hrow ↦
        ((Schema.admits_withCheck _ _ row).mp (upgraded.pingResults.admitted row hrow)).2
      monitors := Table.isRepairedBy_of_map (rows_of_upgradeMonitors hmonitors)
        (fun row ↦ cleanStatus_of_ne (by decide) row)
        fun row _ hholds ↦ cleanStatus_of_holds (hholds _ (List.mem_cons_self ..))
      pingResults := Table.isRepairedBy_of_map
        ((Table.rows_of_addCheck hresults).trans (List.map_id _).symm) (fun _ ↦ rfl)
        fun _ _ _ ↦ rfl }

/-- The upgrade completes, with every row repaired and none lost, exactly if every mode and every
check type is one of the values that the checks name. -/
theorem upgrade_repairs_iff (database : Database initialMonitors initialPingResults) :
    (∃ upgraded, upgrade database = some upgraded ∧ Repairs database upgraded) ↔
      (∀ row ∈ database.monitors.rows, row .mode ∈ ckMonitorsMode.values.map Value.text) ∧
        ∀ row ∈ database.pingResults.rows,
          row .checkType ∈ ckPingResultsCheckType.values.map Value.text := by
  have hmode : ∀ row ∈ database.monitors.rows, (ckMonitorsMode.holds row = true ↔
      row .mode ∈ ckMonitorsMode.values.map Value.text) := fun row hrow ↦
    Check.holds_iff ckMonitorsMode ((database.monitors.admitted row hrow).ne_null rfl)
  have hcheckType : ∀ row ∈ database.pingResults.rows, (ckPingResultsCheckType.holds row = true ↔
      row .checkType ∈ ckPingResultsCheckType.values.map Value.text) := fun row hrow ↦
    Check.holds_iff ckPingResultsCheckType ((database.pingResults.admitted row hrow).ne_null rfl)
  rw [← forall₂_congr hmode, ← forall₂_congr hcheckType, ← upgradeMonitors_isSome_iff,
    ← Table.addCheck_isSome_iff]
  constructor
  · rintro ⟨upgraded, hupgrade, -⟩
    obtain ⟨hmonitors, hresults⟩ := (upgrade_eq_some_iff database upgraded).mp hupgrade
    exact ⟨⟨_, hmonitors⟩, ⟨_, hresults⟩⟩
  · rintro ⟨⟨monitors, hmonitors⟩, ⟨pingResults, hresults⟩⟩
    have hupgrade := (upgrade_eq_some_iff database
      ⟨monitors, pingResults, references_upgrade database hmonitors hresults⟩).mpr
        ⟨hmonitors, hresults⟩
    exact ⟨_, hupgrade, repairs_of_upgrade hupgrade⟩

/-- One monitor with the mode `paused`, which revision ea1acc2dea1b admits. -/
def pausedMonitor : Database initialMonitors initialPingResults where
  monitors :=
    { rows := [Function.update (monitorRow 1 Monitor.dueAtZero) .mode (.text "paused".toList)]
      admitted := List.forall_mem_singleton.mpr (by decide)
      nodup := List.nodup_singleton _ }
  pingResults :=
    { rows := []
      admitted := List.forall_mem_nil _
      nodup := List.nodup_nil }
  references := List.forall_mem_nil _

/-- The upgrade does not complete. -/
theorem upgrade_fails_paused : upgrade pausedMonitor = none := by
  refine Option.eq_none_iff_forall_ne_some.mpr fun upgraded hupgrade ↦ ?_
  have hmonitors := ((upgrade_eq_some_iff _ _).mp hupgrade).1
  have hmode := (upgradeMonitors_isSome_iff _).mp ⟨_, hmonitors⟩
  exact absurd (hmode _ (List.mem_singleton_self _)) (by decide)

end PingGuard.Migration
