import Mathlib.Data.List.Infix
import PingGuard.Library.IpText
import PingGuard.Models
import PingGuard.Ssrf

/-!
# Request contracts

`app/schemas.py`: the payloads of `create_monitor` and `update_monitor` with their validators. A
validator returns the text of the error that it raises, or nothing.

`validate_keep_alive_rules` is consulted with partial data for an update payload and with a merged
configuration afterwards. On a merged configuration it accepts exactly two shapes, which
`validateKeepAliveRules_enabled_iff` and `validateKeepAliveRules_disabled_iff` name.
-/

set_option autoImplicit false
set_option relaxedAutoImplicit false

namespace PingGuard.Schemas

open Library.IpText Library.PyText Models Ssrf Status

/-! ### Validators -/

/-- `validate_relative_path`: the text of its error. -/
def validateRelativePath (path : Option PyStr) : Option String :=
  match path with
  | none => none
  | some text =>
    if text.head? ≠ some '/' then
      some "keep_alive_path must begin with '/' and be a relative path"
    else if text.take 2 = ['/', '/'] ∨ "://".toList <:+: text then
      some "keep_alive_path must be a relative path, not an absolute URL"
    else none

/-- The value of a mode, as the enumeration spells it. -/
def modeValue : MonitorMode → String
  | .monitor => "monitor"
  | .keepAlive => "keep_alive"
  | .monitorAndKeepAlive => "monitor_and_keep_alive"

/-- The part of `validate_keep_alive_rules` about the mode: the text of its error. -/
def validateModeRule (mode : Option MonitorMode) (keepAliveEnabled : Option Bool) :
    Option String :=
  match mode, keepAliveEnabled with
  | some .monitor, some true => some "keep_alive_enabled must be False when mode is 'monitor'"
  | some .keepAlive, some false | some .monitorAndKeepAlive, some false =>
    some ("keep_alive_enabled must be True when mode is '" ++ modeValue (mode.getD .monitor) ++ "'")
  | _, _ => none

/-- `validate_keep_alive_rules`: the text of its error. -/
def validateKeepAliveRules (mode : Option MonitorMode) (keepAliveEnabled : Option Bool)
    (keepAliveIntervalSeconds : Option ℤ) (keepAlivePath : Option PyStr)
    (checkPathOnDisable : Bool) : Option String :=
  match validateModeRule mode keepAliveEnabled with
  | some error => some error
  | none =>
    if keepAliveEnabled = some true then
      if keepAliveIntervalSeconds = none then
        some "keep_alive_interval_seconds is required when keep_alive_enabled is True"
      else none
    else if keepAliveEnabled = some false then
      if keepAliveIntervalSeconds ≠ none then
        some "keep_alive_interval_seconds must be None when keep_alive_enabled is False"
      else if checkPathOnDisable ∧ keepAlivePath ≠ none then
        some "keep_alive_path must be None when keep_alive_enabled is False"
      else none
    else none

/-- An enabled configuration is accepted when its mode sends keep-alive requests and it has an
interval. -/
theorem validateKeepAliveRules_enabled_iff (mode : MonitorMode) (interval : Option ℤ)
    (path : Option PyStr) :
    validateKeepAliveRules (some mode) (some true) interval path true = none ↔
      mode.isKeepAlive = true ∧ interval ≠ none := by
  cases mode <;> cases interval <;>
    simp [validateKeepAliveRules, validateModeRule, MonitorMode.isKeepAlive]

/-- A disabled configuration is accepted when its mode sends health checks only and it has neither
interval nor path. -/
theorem validateKeepAliveRules_disabled_iff (mode : MonitorMode) (interval : Option ℤ)
    (path : Option PyStr) :
    validateKeepAliveRules (some mode) (some false) interval path true = none ↔
      mode = .monitor ∧ interval = none ∧ path = none := by
  cases mode <;> cases interval <;> cases path <;>
    simp [validateKeepAliveRules, validateModeRule]

/-! ### Payloads -/

/-- The bounds of both interval fields. -/
def isInterval (interval : ℤ) : Bool := 15 ≤ interval && interval ≤ 86400

/-- The bounds of a name. -/
def isName (name : PyStr) : Bool := 1 ≤ name.length && name.length ≤ 120

/-- The checks of a keep-alive path: its length and its form. -/
def isKeepAlivePath (path : PyStr) : Bool :=
  path.length ≤ 255 && (validateRelativePath (some path)).isNone

/-- A parsed `HttpUrl`: its normalised text and the parts that validation reads. -/
structure HttpUrl where
  text : PyStr
  scheme : PyStr
  username : Option PyStr
  password : Option PyStr
  host : Option PyStr
  deriving DecidableEq

/-- `validate_url_scheme_and_safety`: whether it returns. -/
def validateUrlSchemeAndSafety (tables : UnicodeTables) (url : HttpUrl) : Bool :=
  let host := lower tables (strip (url.host.getD []))
  (lower tables url.scheme = "http".toList || lower tables url.scheme = "https".toList) &&
    !(url.username.any (· ≠ []) || url.password.any (· ≠ [])) &&
    !(host = "localhost".toList || host = "localhost.localdomain".toList) &&
    !(ipAddress host).any isIpBlocked

/-- `MonitorCreate`, its defaults filled in. -/
structure MonitorCreate where
  name : PyStr
  url : HttpUrl
  checkIntervalSeconds : ℤ
  mode : MonitorMode
  keepAliveEnabled : Bool
  keepAliveIntervalSeconds : Option ℤ
  keepAlivePath : Option PyStr
  deriving DecidableEq

/-- The validation of a `MonitorCreate`: whether the payload is accepted. -/
def MonitorCreate.isAccepted (tables : UnicodeTables) (payload : MonitorCreate) : Bool :=
  isName payload.name && validateUrlSchemeAndSafety tables payload.url &&
    isInterval payload.checkIntervalSeconds &&
    payload.keepAliveIntervalSeconds.all isInterval && payload.keepAlivePath.all isKeepAlivePath &&
    (validateKeepAliveRules (some payload.mode) (some payload.keepAliveEnabled)
      payload.keepAliveIntervalSeconds payload.keepAlivePath true).isNone

/-- A field of an update payload: left out, passed as null, or passed with a value. -/
inductive Field (α : Type)
  | omitted
  | null
  | value (value : α)
  deriving DecidableEq

namespace Field

variable {α : Type}

/-- The attribute of the parsed payload: a field that is left out has the default `None`. -/
def toOption : Field α → Option α
  | omitted | null => none
  | value a => some a

/-- `update_data.get(key, default)` for a nullable default. -/
def getD (field : Field α) (default : Option α) : Option α :=
  match field with
  | omitted => default
  | null => none
  | value a => some a

/-- A value that is read is passed, or stored and not passed. -/
theorem getD_eq_some {field : Field α} {default : Option α} {a : α}
    (hget : field.getD default = some a) :
    field = .value a ∨ (field = .omitted ∧ default = some a) := by
  cases field with
  | omitted => exact Or.inr ⟨rfl, hget⟩
  | null => nomatch hget
  | value b => exact Or.inl (congrArg value (Option.some.inj hget))

/-- `update_data.setdefault(key, ...)`: a field that is left out is filled in. -/
def orElse (field other : Field α) : Field α :=
  match field with
  | omitted => other
  | _ => field

/-- A field that is filled in with null gets no value by that. -/
theorem orElse_null_eq_value {field : Field α} {a : α} (hvalue : field.orElse .null = .value a) :
    field = .value a := by
  cases field with
  | omitted => nomatch hvalue
  | null => nomatch hvalue
  | value b => exact hvalue

/-- Whether a value, if there is one, passes a check. -/
def all (field : Field α) (check : α → Bool) : Bool := field.toOption.all check

end Field

/-- `MonitorUpdate`. -/
structure MonitorUpdate where
  name : Field PyStr
  checkIntervalSeconds : Field ℤ
  mode : Field MonitorMode
  keepAliveEnabled : Field Bool
  keepAliveIntervalSeconds : Field ℤ
  keepAlivePath : Field PyStr
  deriving DecidableEq

/-- The validation of a `MonitorUpdate`: whether the payload is accepted. -/
def MonitorUpdate.isAccepted (payload : MonitorUpdate) : Bool :=
  payload.name.all isName && payload.checkIntervalSeconds.all isInterval &&
    payload.keepAliveIntervalSeconds.all isInterval && payload.keepAlivePath.all isKeepAlivePath &&
    (validateKeepAliveRules payload.mode.toOption payload.keepAliveEnabled.toOption
      payload.keepAliveIntervalSeconds.toOption payload.keepAlivePath.toOption false).isNone

end PingGuard.Schemas
