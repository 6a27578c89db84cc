import Mathlib.Data.Int.Notation
import Mathlib.Tactic.Common

/-!
# Outcomes, statuses and modes

`app/enums.py` and `app/status.py`: the three enumerations, the classification of an HTTP status
code, and the map from the outcome of a probe to the status of its monitor. The identifiers that a
failed probe reports and the task layer stores stand here too.
-/

set_option autoImplicit false
set_option relaxedAutoImplicit false

namespace PingGuard.Status

/-- `MonitorStatus`. -/
inductive MonitorStatus
  | up
  | degraded
  | down
  | pending
  deriving DecidableEq, Repr

/-- `MonitorMode`. -/
inductive MonitorMode
  | monitor
  | keepAlive
  | monitorAndKeepAlive
  deriving DecidableEq, Repr

/-- `PingOutcome`. -/
inductive PingOutcome
  | up
  | degraded
  | down
  | unreachable
  deriving DecidableEq, Repr

/-- The values of `error_detail` of a probe and of `error` of a stored result. -/
inductive ErrorDetail
  | ssrfBlocked
  | dnsError
  | connectTimeout
  | readTimeout
  | writeTimeout
  | poolTimeout
  | totalTimeout
  | redirectError
  | connectError
  | tlsError
  | requestError
  | taskSoftTimeLimit
  deriving DecidableEq

/-- `monitoring_modes` of the sweep: the modes with health checks. -/
def MonitorMode.isMonitoring : MonitorMode → Bool
  | .monitor | .monitorAndKeepAlive => true
  | .keepAlive => false

/-- `keep_alive_modes` of the sweep: the modes with keep-alive requests. -/
def MonitorMode.isKeepAlive : MonitorMode → Bool
  | .keepAlive | .monitorAndKeepAlive => true
  | .monitor => false

/-- `outcome_to_status`. The table of the source has an entry for every outcome. -/
def outcomeToStatus : PingOutcome → MonitorStatus
  | .up => .up
  | .degraded => .degraded
  | .down => .down
  | .unreachable => .down

/-- A finished probe never leaves its monitor pending. -/
theorem outcomeToStatus_ne_pending (outcome : PingOutcome) :
    outcomeToStatus outcome ≠ .pending := by
  cases outcome <;> exact MonitorStatus.noConfusion

/-- `classify_status_code`; nothing stands for its `ValueError`. -/
def classifyStatusCode (code : ℤ) : Option PingOutcome :=
  if 100 ≤ code ∧ code < 400 then some .up
  else if 400 ≤ code ∧ code < 500 then some .degraded
  else if 500 ≤ code ∧ code < 600 then some .down
  else none

/-- A code is classified exactly when it is in the standard range of HTTP. -/
theorem classifyStatusCode_isSome_iff (code : ℤ) :
    (classifyStatusCode code).isSome = true ↔ 100 ≤ code ∧ code < 600 := by
  unfold classifyStatusCode
  split_ifs <;> simp only [Option.isSome_some, Option.isSome_none, Bool.false_eq_true, true_iff,
    false_iff] <;> omega

/-- A status code never means that the target was not reached. -/
theorem classifyStatusCode_ne_unreachable (code : ℤ) :
    classifyStatusCode code ≠ some .unreachable := by
  unfold classifyStatusCode
  split_ifs <;> simp only [ne_eq, Option.some.injEq, reduceCtorEq, not_false_eq_true]

end PingGuard.Status
