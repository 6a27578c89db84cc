import Mathlib.Data.Finset.Basic
import PingGuard.Library.SqlCatalog
import PingGuard.Migration

/-!
# The catalog and the revisions

The three revisions as the statements that they execute, over a catalog of the two tables and their
indexes. What a statement needs is checked where it is executed: a table or an index must exist, or
must not exist yet; the rows must satisfy a check; and no result may be left without its monitor, so
that `monitors` is not dropped while there is a table that refers to it.

The names of the keys, the server defaults and the comment of a column are left out.
-/

set_option autoImplicit false
set_option relaxedAutoImplicit false

namespace PingGuard.Migration

open Columns Library.PyText Library.SqlTable Models

/-! ### The catalog -/

/-- The columns of an index. -/
inductive IndexedColumns
  | monitors (columns : List MonitorColumn)
  | pingResults (columns : List PingResultColumn)
  deriving DecidableEq

/-- An index. None of them is unique. -/
structure Index where
  name : String
  columns : IndexedColumns
  deriving DecidableEq

/-- Whether an index is on `monitors`. -/
def Index.isOnMonitors (index : Index) : Bool :=
  match index.columns with
  | .monitors _ => true
  | .pingResults _ => false

/-- `fk_ping_results_monitor_id_monitors`: the monitor of every result is stored. The table of the
results needs the table of the monitors. -/
def References (monitors : Option (StoredTable MonitorColumn))
    (pingResults : Option (StoredTable PingResultColumn)) : Prop :=
  ∀ results ∈ pingResults, ∃ stored ∈ monitors,
    ∀ result ∈ results.rows, ∃ monitor ∈ stored.rows, monitor .id = result .monitorId

instance (monitors : Option (StoredTable MonitorColumn))
    (pingResults : Option (StoredTable PingResultColumn)) :
    Decidable (References monitors pingResults) :=
  match pingResults, monitors with
  | none, _ => .isTrue nofun
  | some _, none => .isFalse fun hrefers ↦ nomatch hrefers _ rfl
  | some results, some stored =>
    decidable_of_iff
      (∀ result ∈ results.rows, ∃ monitor ∈ stored.rows, monitor .id = result .monitorId)
      ⟨fun hrefers _ hresults ↦ ⟨stored, rfl, Option.some.inj hresults ▸ hrefers⟩,
        fun hrefers ↦ by
          obtain ⟨_, ⟨⟩, hrows⟩ := hrefers results rfl
          exact hrows⟩

/-- What the database holds. -/
structure Catalog where
  monitors : Option (StoredTable MonitorColumn)
  pingResults : Option (StoredTable PingResultColumn)
  indexes : Finset Index
  references : References monitors pingResults

namespace Catalog

/-- A database without tables. -/
def empty : Catalog := ⟨none, none, ∅, nofun⟩

/-- What a statement leaves, unless a result would be without its monitor. -/
def make (monitors : Option (StoredTable MonitorColumn))
    (pingResults : Option (StoredTable PingResultColumn)) (indexes : Finset Index) :
    Option Catalog :=
  if h : References monitors pingResults then some ⟨monitors, pingResults, indexes, h⟩ else none

/-! ### Statements -/

/-- `CREATE TABLE monitors`. -/
def createMonitors (catalog : Catalog) (schema : Schema MonitorColumn) : Option Catalog :=
  if catalog.monitors.isSome then none
  else make (some (.create schema)) catalog.pingResults catalog.indexes

/-- `CREATE TABLE ping_results`. -/
def createPingResults (catalog : Catalog) (schema : Schema PingResultColumn) : Option Catalog :=
  if catalog.pingResults.isSome then none
  else make catalog.monitors (some (.create schema)) catalog.indexes

/-- Whether the table of some columns exists. -/
def hasTable (catalog : Catalog) : IndexedColumns → Bool
  | .monitors _ => catalog.monitors.isSome
  | .pingResults _ => catalog.pingResults.isSome

/-- `CREATE INDEX`. -/
def createIndex (catalog : Catalog) (index : Index) : Option Catalog :=
  if catalog.hasTable index.columns ∧ ∀ other ∈ catalog.indexes, other.name ≠ index.name then
    some { catalog with indexes := insert index catalog.indexes }
  else none

/-- `DROP INDEX`. -/
def dropIndex (catalog : Catalog) (name : String) : Option Catalog :=
  if ∃ index ∈ catalog.indexes, index.name = name then
    some { catalog with indexes := catalog.indexes.filter (·.name ≠ name) }
  else none

/-- `DROP TABLE monitors`. -/
def dropMonitors (catalog : Catalog) : Option Catalog :=
  if catalog.monitors.isSome then
    make none catalog.pingResults (catalog.indexes.filter fun index ↦ ¬ index.isOnMonitors)
  else none

/-- `DROP TABLE ping_results`. -/
def dropPingResults (catalog : Catalog) : Option Catalog :=
  if catalog.pingResults.isSome then
    make catalog.monitors none (catalog.indexes.filter (·.isOnMonitors))
  else none

/-- A statement about `monitors`. -/
def alterMonitors (catalog : Catalog)
    (statement : StoredTable MonitorColumn → Option (StoredTable MonitorColumn)) :
    Option Catalog := do
  let stored ← catalog.monitors
  let altered ← statement stored
  make (some altered) catalog.pingResults catalog.indexes

/-- A statement about `ping_results`. -/
def alterPingResults (catalog : Catalog)
    (statement : StoredTable PingResultColumn → Option (StoredTable PingResultColumn)) :
    Option Catalog := do
  let stored ← catalog.pingResults
  let altered ← statement stored
  make catalog.monitors (some altered) catalog.indexes

/-- What transactions of the application leave: other rows in both tables. -/
def write (catalog : Catalog) (monitors : List (Row MonitorColumn))
    (pingResults : List (Row PingResultColumn)) : Option Catalog := do
  let stored ← catalog.monitors
  let results ← catalog.pingResults
  let storedAfter ← stored.replaceRows monitors
  let resultsAfter ← results.replaceRows pingResults
  make (some storedAfter) (some resultsAfter) catalog.indexes

end Catalog

/-! ### The revisions -/

/-- The revisions, oldest first. -/
inductive Revision
  | initialPingguardSchema
  | addStatusAndModeCheckConstraints
  | dropRedundantMonitorIdIndex
  deriving DecidableEq

namespace Revision

/-- `down_revision`. -/
def downRevision : Revision → Option Revision
  | initialPingguardSchema => none
  | addStatusAndModeCheckConstraints => some initialPingguardSchema
  | dropRedundantMonitorIdIndex => some addStatusAndModeCheckConstraints

/-- `upgrade` of a revision. -/
def upgrade : Revision → Catalog → Option Catalog
  | initialPingguardSchema, catalog => do
    let catalog ← catalog.createMonitors initialMonitors
    let catalog ← catalog.createIndex ⟨"ix_monitors_next_check_at", .monitors [.nextCheckAt]⟩
    let catalog ← catalog.createIndex
      ⟨"ix_monitors_next_keep_alive_at", .monitors [.nextKeepAliveAt]⟩
    let catalog ← catalog.createPingResults initialPingResults
    let catalog ← catalog.createIndex ⟨"ix_ping_results_checked_at", .pingResults [.checkedAt]⟩
    let catalog ← catalog.createIndex ⟨"ix_ping_results_monitor_id", .pingResults [.monitorId]⟩
    catalog.createIndex
      ⟨"idx_ping_results_monitor_checked", .pingResults [.monitorId, .checkedAt]⟩
  | addStatusAndModeCheckConstraints, catalog => do
    let catalog ← catalog.alterMonitors
      (·.update .status (.text "down".toList) isInvalidStatus)
    let catalog ← catalog.alterMonitors (·.addCheck ckMonitorsStatus)
    let catalog ← catalog.alterMonitors (·.addCheck ckMonitorsMode)
    catalog.alterPingResults (·.addCheck ckPingResultsCheckType)
  | dropRedundantMonitorIdIndex, catalog => catalog.dropIndex "ix_ping_results_monitor_id"

/-- `downgrade` of a revision. -/
def downgrade : Revision → Catalog → Option Catalog
  | initialPingguardSchema, catalog => do
    let catalog ← catalog.dropIndex "idx_ping_results_monitor_checked"
    let catalog ← catalog.dropIndex "ix_ping_results_monitor_id"
    let catalog ← catalog.dropIndex "ix_ping_results_checked_at"
    let catalog ← catalog.dropPingResults
    let catalog ← catalog.dropIndex "ix_monitors_next_keep_alive_at"
    let catalog ← catalog.dropIndex "ix_monitors_next_check_at"
    catalog.dropMonitors
  | addStatusAndModeCheckConstraints, catalog => do
    let catalog ← catalog.alterPingResults (·.dropCheck "ck_ping_results_check_type")
    let catalog ← catalog.alterMonitors (·.dropCheck "ck_monitors_mode")
    catalog.alterMonitors (·.dropCheck "ck_monitors_status")
  | dropRedundantMonitorIdIndex, catalog =>
    catalog.createIndex ⟨"ix_ping_results_monitor_id", .pingResults [.monitorId]⟩

end Revision

end PingGuard.Migration
