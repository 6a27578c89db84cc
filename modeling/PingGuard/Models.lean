import Mathlib.Data.Rat.Defs
import PingGuard.Library.PyText
import PingGuard.Library.SerialTable
import PingGuard.Library.SqlTable
import PingGuard.Status

/-!
# The tables

`app/models.py`: the columns of `monitors` and `ping_results`, and a database of the two tables.
The columns that are not nullable and the two `CHECK` constraints on enumerations are part of the
types. `fitsColumns` is what is left of the column constraints, what `VARCHAR` asks of the texts.

A `datetime` is an integer, its microseconds in UTC.
-/

set_option autoImplicit false
set_option relaxedAutoImplicit false

namespace PingGuard.Models

open Library.PyText Library.SerialTable Status
open Library.SqlTable (isVarchar)

/-- `timedelta(seconds=n)`. -/
def seconds (n : ℤ) : ℤ := n * 1000000

/-- A positive number of seconds is a positive time. -/
theorem seconds_pos {n : ℤ} (hpos : 0 < n) : 0 < seconds n := by
  unfold seconds
  omega

/-- A row of `monitors`. -/
structure Monitor where
  name : PyStr
  url : PyStr
  checkIntervalSeconds : ℤ
  status : MonitorStatus
  lastCheckedAt : Option ℤ
  nextCheckAt : Option ℤ
  mode : MonitorMode
  keepAliveEnabled : Bool
  keepAliveIntervalSeconds : Option ℤ
  keepAlivePath : Option PyStr
  nextKeepAliveAt : Option ℤ
  deriving DecidableEq

/-- A row that is due at time 0 by both schedules, each with an interval of a minute. -/
def Monitor.dueAtZero : Monitor where
  name := "site".toList
  url := "https://example.com/".toList
  checkIntervalSeconds := 60
  status := .pending
  lastCheckedAt := none
  nextCheckAt := some 0
  mode := .monitorAndKeepAlive
  keepAliveEnabled := true
  keepAliveIntervalSeconds := some 60
  keepAlivePath := none
  nextKeepAliveAt := some 0

/-- The texts fit their columns: no text is too long or has U+0000. -/
def Monitor.fitsColumns (monitor : Monitor) : Bool :=
  isVarchar 120 monitor.name && isVarchar 2048 monitor.url &&
    monitor.keepAlivePath.all (isVarchar 255)

/-- A column after a flush: an attribute that has the loaded value is not written, and the column
keeps the value that is stored then. -/
def flushColumn {α : Type} [DecidableEq α] (loaded drafted stored : α) : α :=
  if drafted = loaded then stored else drafted

/-- A column that is not written since it was loaded ends with the drafted value. -/
theorem flushColumn_self {α : Type} [DecidableEq α] (loaded drafted : α) :
    flushColumn loaded drafted loaded = drafted := by
  unfold flushColumn
  split_ifs with heq
  · exact heq.symm
  · rfl

/-- A column whose attribute is not changed keeps the stored value. -/
@[simp] theorem flushColumn_unchanged {α : Type} [DecidableEq α] (loaded stored : α) :
    flushColumn loaded loaded stored = stored := if_pos rfl

/-- A column whose attribute is changed gets the drafted value. -/
theorem flushColumn_of_ne {α : Type} [DecidableEq α] {loaded drafted : α} (hne : drafted ≠ loaded)
    (stored : α) : flushColumn loaded drafted stored = drafted := if_neg hne

/-- A column keeps the stored value if the attribute is not changed, or is changed to that value. -/
theorem flushColumn_eq_stored_iff {α : Type} [DecidableEq α] (loaded drafted stored : α) :
    flushColumn loaded drafted stored = stored ↔ drafted = loaded ∨ drafted = stored := by
  unfold flushColumn
  split_ifs with heq
  · exact iff_of_true rfl (Or.inl heq)
  · exact (or_iff_right heq).symm

/-- The values of `check_type`. -/
inductive CheckType
  | monitor
  | keepAlive
  deriving DecidableEq

/-- A row of `ping_results`. The outcome is no column: it is the outcome of the check that the row
records, kept to speak about it. -/
structure PingResult where
  monitorId : ℕ
  checkType : CheckType
  statusCode : Option ℤ
  latencyMs : Option ℚ
  error : Option ErrorDetail
  checkedAt : ℤ
  outcome : PingOutcome
  deriving DecidableEq

/-- The two tables. -/
structure Database where
  monitors : Table Monitor
  pingResults : Table PingResult

/-- The tables before the first request. -/
def Database.empty : Database := ⟨Table.empty Monitor, Table.empty PingResult⟩

/-- One monitor, due at time 0 by both schedules. -/
def Database.oneMonitor : Database where
  monitors := (Table.empty Monitor).insert Monitor.dueAtZero
  pingResults := Table.empty PingResult

/-- Its only row. -/
theorem Database.of_get_oneMonitor {monitorId : ℕ} {monitor : Monitor}
    (hget : Database.oneMonitor.monitors.get monitorId = some monitor) :
    monitor = Monitor.dueAtZero :=
  (Prod.mk.inj (List.mem_singleton.mp ((Table.mem_rows_iff _ _ _).mpr hget))).2

/-- A monitor is deleted together with its results. -/
def Database.deleteMonitor (database : Database) (monitorId : ℕ) : Database where
  monitors := database.monitors.erase monitorId
  pingResults := database.pingResults.filterRows fun _ result ↦ result.monitorId ≠ monitorId

end PingGuard.Models
