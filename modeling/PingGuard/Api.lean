import PingGuard.Schemas

/-!
# Monitor requests

`create_monitor`, `update_monitor` and `delete_monitor` of `app/main.py`.

An update works on a loaded row. `draftUpdate` computes the attributes it leaves on the row object,
and `Draft.flush` writes those that differ from the loaded ones over the row as it is stored then.
The two rows are the same when nothing else runs. A draft may hold nulls that the schema refuses.
-/

set_option autoImplicit false
set_option relaxedAutoImplicit false

namespace PingGuard.Api

open Library.PyText Library.SerialTable Models Schemas Status

/-- How a request fails. A server error is an exception without a handler, also one of the
database. -/
inductive RequestFailure
  | notFound
  | conflict
  | unprocessable
  | serverError
  deriving DecidableEq

/-- The HTTP status of a failure. -/
def RequestFailure.statusCode : RequestFailure → ℕ
  | .notFound => 404
  | .conflict => 409
  | .unprocessable => 422
  | .serverError => 500

/-! ### Creating -/

/-- The row that `create_monitor` adds. -/
def newMonitor (payload : MonitorCreate) (now : ℤ) : Monitor where
  name := payload.name
  url := payload.url.text
  checkIntervalSeconds := payload.checkIntervalSeconds
  status := .pending
  lastCheckedAt := none
  nextCheckAt := some now
  mode := payload.mode
  keepAliveEnabled := payload.keepAliveEnabled
  keepAliveIntervalSeconds := payload.keepAliveIntervalSeconds
  keepAlivePath := payload.keepAlivePath
  nextKeepAliveAt := if payload.keepAliveEnabled then some now else none

/-- `create_monitor`: the cap is checked, and the row is inserted if it fits its columns. Its id is
the next value of a sequence, of which some values may be skipped: those that an `INSERT` has taken
that failed. -/
def createMonitor (tables : UnicodeTables) (maxMonitors : ℕ) (database : Database)
    (payload : MonitorCreate) (now : ℤ) (skipped : ℕ) : Except RequestFailure Database :=
  if ¬ payload.isAccepted tables then .error .unprocessable
  else if maxMonitors ≤ database.monitors.rows.length then .error .conflict
  else if (newMonitor payload now).fitsColumns then
    .ok { database with
      monitors := (database.monitors.skip skipped).insert (newMonitor payload now) }
  else .error .serverError

/-! ### Updating -/

/-- The row object after an update: the columns an update can set, null where the payload set
null. -/
structure Draft where
  name : Option PyStr
  checkIntervalSeconds : Option ℤ
  mode : MonitorMode
  keepAliveEnabled : Option Bool
  keepAliveIntervalSeconds : Option ℤ
  keepAlivePath : Option PyStr
  nextKeepAliveAt : Option ℤ

/-- `update_data` after the reset logic: disabling keep-alive clears what the payload leaves out. -/
def resetOnDisable (loaded : Monitor) (payload : MonitorUpdate) : MonitorUpdate :=
  if payload.keepAliveEnabled = .value false then
    { payload with
      keepAliveIntervalSeconds := payload.keepAliveIntervalSeconds.orElse .null
      keepAlivePath := payload.keepAlivePath.orElse .null
      mode := if loaded.mode ≠ .monitor then payload.mode.orElse (.value .monitor)
        else payload.mode }
  else payload

/-- `next_keep_alive_at` after the synchronisation at the end of an update. -/
def syncNextKeepAliveAt (loaded : Monitor) (keepAliveEnabled : Option Bool) (now : ℤ) : Option ℤ :=
  if keepAliveEnabled = some true then
    if loaded.nextKeepAliveAt = none then some now else loaded.nextKeepAliveAt
  else none

/-- The body of `update_monitor` up to the commit. `MonitorMode(None)` raises a `ValueError` that
nothing handles. -/
def draftUpdate (loaded : Monitor) (payload : MonitorUpdate) (now : ℤ) :
    Except RequestFailure Draft :=
  let updateData := resetOnDisable loaded payload
  match updateData.mode.getD (some loaded.mode) with
  | none => .error .serverError
  | some targetMode =>
    let targetKeepAlive := updateData.keepAliveEnabled.getD (some loaded.keepAliveEnabled)
    let targetInterval := updateData.keepAliveIntervalSeconds.getD loaded.keepAliveIntervalSeconds
    let targetPath := updateData.keepAlivePath.getD loaded.keepAlivePath
    match validateKeepAliveRules (some targetMode) targetKeepAlive targetInterval targetPath
      true with
    | some _ => .error .unprocessable
    | none => .ok
      { name := updateData.name.getD (some loaded.name)
        checkIntervalSeconds :=
          updateData.checkIntervalSeconds.getD (some loaded.checkIntervalSeconds)
        mode := targetMode
        keepAliveEnabled := targetKeepAlive
        keepAliveIntervalSeconds := targetInterval
        keepAlivePath := targetPath
        nextKeepAliveAt := syncNextKeepAliveAt loaded targetKeepAlive now }

/-- The row after the flush of a draft, if it satisfies the column constraints. -/
def Draft.flush (draft : Draft) (loaded stored : Monitor) : Option Monitor := do
  let name ← flushColumn (some loaded.name) draft.name (some stored.name)
  let checkIntervalSeconds ← flushColumn (some loaded.checkIntervalSeconds)
    draft.checkIntervalSeconds (some stored.checkIntervalSeconds)
  let keepAliveEnabled ← flushColumn (some loaded.keepAliveEnabled) draft.keepAliveEnabled
    (some stored.keepAliveEnabled)
  let monitor : Monitor :=
    { stored with
      name := name
      checkIntervalSeconds := checkIntervalSeconds
      mode := flushColumn loaded.mode draft.mode stored.mode
      keepAliveEnabled := keepAliveEnabled
      keepAliveIntervalSeconds := flushColumn loaded.keepAliveIntervalSeconds
        draft.keepAliveIntervalSeconds stored.keepAliveIntervalSeconds
      keepAlivePath := flushColumn loaded.keepAlivePath draft.keepAlivePath stored.keepAlivePath
      nextKeepAliveAt := flushColumn loaded.nextKeepAliveAt draft.nextKeepAliveAt
        stored.nextKeepAliveAt }
  if monitor.fitsColumns then some monitor else none

/-- The commit of an update on a loaded row over the row as it is stored. -/
def commitUpdate (payload : MonitorUpdate) (now : ℤ) (loaded stored : Monitor) :
    Except RequestFailure Monitor :=
  match draftUpdate loaded payload now with
  | .error failure => .error failure
  | .ok draft =>
    match draft.flush loaded stored with
    | none => .error .serverError
    | some monitor => .ok monitor

/-- `update_monitor`, with nothing else running. -/
def updateMonitor (database : Database) (monitorId : ℕ) (payload : MonitorUpdate) (now : ℤ) :
    Except RequestFailure Database :=
  if ¬ payload.isAccepted then .error .unprocessable
  else
    match database.monitors.get monitorId with
    | none => .error .notFound
    | some loaded =>
      match commitUpdate payload now loaded loaded with
      | .error failure => .error failure
      | .ok monitor =>
        .ok { database with monitors := database.monitors.modify monitorId fun _ ↦ monitor }

/-! ### Deleting -/

/-- `delete_monitor`. -/
def deleteMonitor (database : Database) (monitorId : ℕ) : Except RequestFailure Database :=
  match database.monitors.get monitorId with
  | none => .error .notFound
  | some _ => .ok (database.deleteMonitor monitorId)

end PingGuard.Api
