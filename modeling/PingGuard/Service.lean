import PingGuard.Api
import PingGuard.Library.OrderedBatch
import PingGuard.Library.Transition
import PingGuard.RateLimit

/-!
# The service

The requests of `app/main.py` as they arrive: `require_api_key` of `app/security.py` first, then
`rate_limit_write` for the requests that write, then the checks of the path, the query and the body,
and then the handler. A request that is refused or fails changes no table and queues nothing.

Between two requests the workers may do anything to the database: an event is a request, or a change
in the background. A handler runs as one step. The bodies have been parsed into payloads, and ids
and offsets are bounded by the parameters of the database driver.
-/

set_option autoImplicit false
set_option relaxedAutoImplicit false

namespace PingGuard.Service

open Api Library.OrderedBatch Library.PyText Library.SerialTable Models RateLimit Schemas

/-! ### `require_api_key` -/

/-- `encode("utf-8")`. -/
def encodeUtf8 (text : PyStr) : List UInt8 := (String.ofList text).toUTF8.data.toList

/-- The response to a request without the key: 401, with the `WWW-Authenticate` header. -/
structure Unauthorized where
  detail : PyStr
  wwwAuthenticate : PyStr
  deriving DecidableEq

/-- The one refusal of `require_api_key`. -/
def unauthorized : Unauthorized where
  detail := "invalid or missing API key".toList
  wwwAuthenticate := "ApiKey".toList

/-- `require_api_key`. `secrets.compare_digest` compares bytes. -/
def requireApiKey (configuredKey : PyStr) (apiKey : Option PyStr) : Except Unauthorized PyStr :=
  match apiKey.filter (· ≠ []) with
  | none => .error unauthorized
  | some apiKey =>
    if encodeUtf8 apiKey = encodeUtf8 configuredKey then .ok apiKey else .error unauthorized

/-- Texts with the same bytes are the same. -/
theorem encodeUtf8_inj {first second : PyStr} :
    encodeUtf8 first = encodeUtf8 second ↔ first = second := by
  unfold encodeUtf8
  rw [Array.toList_inj, ← ByteArray.ext_iff, String.toUTF8_eq_toByteArray,
    String.toUTF8_eq_toByteArray, String.toByteArray_inj, String.ofList_inj]

/-- Whether a request has the configured key. -/
def isAuthenticated (configuredKey : PyStr) (apiKey : Option PyStr) : Bool :=
  apiKey = some configuredKey && configuredKey ≠ []

/-- A request passes exactly with the configured key, and gets the one refusal otherwise. -/
theorem requireApiKey_eq (configuredKey : PyStr) (apiKey : Option PyStr) :
    requireApiKey configuredKey apiKey =
      if isAuthenticated configuredKey apiKey then .ok configuredKey else .error unauthorized := by
  unfold requireApiKey isAuthenticated
  cases apiKey with
  | none => rfl
  | some apiKey =>
    by_cases hempty : apiKey = []
    · rw [Option.filter_some_neg (by simp [hempty]), if_neg]
      simp only [Bool.and_eq_true, decide_eq_true_eq, Option.some.injEq, not_and, not_not]
      exact fun hkey ↦ hkey.symm.trans hempty
    · rw [Option.filter_some_pos (by simp [hempty])]
      by_cases hkey : apiKey = configuredKey
      · subst hkey
        simp [hempty]
      · simp [hkey, encodeUtf8_inj]

/-! ### Responses -/

/-- `MonitorRead`: the id of a row and its columns. -/
structure MonitorRead extends Monitor where
  id : ℕ
  deriving DecidableEq

/-- `PingResultRead`. -/
structure PingResultRead where
  id : ℕ
  monitorId : ℕ
  checkType : CheckType
  statusCode : Option ℤ
  latencyMs : Option ℚ
  error : Option Status.ErrorDetail
  checkedAt : ℤ
  deriving DecidableEq

/-- `MonitorCheckResponse`. -/
structure MonitorCheckResponse where
  status : PyStr
  monitorId : ℕ
  deriving DecidableEq

/-- `MonitorRead.model_validate`. -/
def readMonitor (row : ℕ × Monitor) : MonitorRead := { row.2 with id := row.1 }

/-- `PingResultRead.model_validate`. -/
def readResult (row : ℕ × PingResult) : PingResultRead where
  id := row.1
  monitorId := row.2.monitorId
  checkType := row.2.checkType
  statusCode := row.2.statusCode
  latencyMs := row.2.latencyMs
  error := row.2.error
  checkedAt := row.2.checkedAt

/-- The body of a response to a request that succeeds. -/
inductive Content
  | monitor (read : MonitorRead)
  | monitors (reads : List MonitorRead)
  | results (reads : List PingResultRead)
  | check (response : MonitorCheckResponse)
  | noContent
  deriving DecidableEq

/-- What a client gets. -/
inductive Response
  | answered (statusCode : ℕ) (content : Content)
  | unauthorized (refusal : Unauthorized)
  | tooManyRequests (refusal : TooManyRequests)
  | failed (failure : RequestFailure)
  deriving DecidableEq

/-- The HTTP status of a response. -/
def Response.statusCode : Response → ℕ
  | .answered statusCode _ => statusCode
  | .unauthorized _ => 401
  | .tooManyRequests _ => 429
  | .failed failure => failure.statusCode

/-! ### Handlers -/

/-- The requests of the router. -/
inductive Endpoint
  | createMonitor (payload : MonitorCreate)
  | getMonitor (monitorId : ℤ)
  | updateMonitor (monitorId : ℤ) (payload : MonitorUpdate)
  | listMonitors (skip limit : ℤ)
  | deleteMonitor (monitorId : ℤ)
  | getMonitorResults (monitorId limit : ℤ) (checkType : Option PyStr)
  | triggerMonitorCheck (monitorId : ℤ)

/-- Whether a request depends on `rate_limit_write`. -/
def Endpoint.isWrite : Endpoint → Bool
  | .createMonitor _ | .updateMonitor .. | .deleteMonitor _ | .triggerMonitorCheck _ => true
  | .getMonitor _ | .listMonitors .. | .getMonitorResults .. => false

/-- What a handler leaves: the answer, the database, and the monitor whose check it has queued. -/
structure Handled where
  statusCode : ℕ
  content : Content
  database : Database
  queued : Option ℕ

/-- The id of a path: at least 1, and an integer of 32 bits for the driver. -/
def pathId (monitorId : ℤ) : Except RequestFailure ℕ :=
  if monitorId < 1 then .error .unprocessable
  else if 2147483647 < monitorId then .error .serverError
  else .ok monitorId.toNat

/-- `db.get(Monitor, monitor_id)`, and 404 for a monitor that is missing. -/
def storedMonitor (database : Database) (monitorId : ℤ) : Except RequestFailure (ℕ × Monitor) := do
  let key ← pathId monitorId
  match database.monitors.get key with
  | none => .error .notFound
  | some monitor => .ok (key, monitor)

/-- `create_monitor`, and the row that it returns. -/
def createMonitor (tables : UnicodeTables) (maxMonitors : ℕ) (database : Database)
    (payload : MonitorCreate) (now : ℤ) (skipped : ℕ) : Except RequestFailure Handled := do
  let after ← Api.createMonitor tables maxMonitors database payload now skipped
  let monitorId := database.monitors.nextKey + skipped
  pure ⟨201, .monitor (readMonitor (monitorId, newMonitor payload now)), after, none⟩

/-- `get_monitor`. -/
def getMonitor (database : Database) (monitorId : ℤ) : Except RequestFailure Handled := do
  let row ← storedMonitor database monitorId
  pure ⟨200, .monitor (readMonitor row), database, none⟩

/-- `update_monitor`, and the row that it returns. -/
def updateMonitor (database : Database) (monitorId : ℤ) (payload : MonitorUpdate) (now : ℤ) :
    Except RequestFailure Handled :=
  if ¬ payload.isAccepted then .error .unprocessable
  else do
    let key ← pathId monitorId
    let after ← Api.updateMonitor database key payload now
    let row ← storedMonitor after monitorId
    pure ⟨200, .monitor (readMonitor row), after, none⟩

/-- The rows of a page, in the order of their ids. -/
def page (database : Database) (skip limit : ℕ) : List (ℕ × Monitor) :=
  ((orderedBy Prod.fst database.monitors.rows).drop skip).take limit

/-- `list_monitors`. An offset is an integer of 64 bits for the driver. -/
def listMonitors (database : Database) (skip limit : ℤ) : Except RequestFailure Handled :=
  if skip < 0 ∨ limit < 1 ∨ 1000 < limit then .error .unprocessable
  else if 9223372036854775807 < skip then .error .serverError
  else .ok ⟨200, .monitors ((page database skip.toNat limit.toNat).map readMonitor), database, none⟩

/-- `delete_monitor`. -/
def deleteMonitor (database : Database) (monitorId : ℤ) : Except RequestFailure Handled := do
  let key ← pathId monitorId
  let after ← Api.deleteMonitor database key
  pure ⟨204, .noContent, after, none⟩

/-- The value of a `check_type`, as the column has it. -/
def checkTypeText : CheckType → PyStr
  | .monitor => "monitor".toList
  | .keepAlive => "keep_alive".toList

/-- The results of a monitor, of one type if a type is asked for. -/
def matchingResults (database : Database) (monitorId : ℕ) (checkType : Option PyStr) :
    List (ℕ × PingResult) :=
  database.pingResults.rows.filter fun row ↦ row.2.monitorId = monitorId &&
    (checkType.filter (· ≠ [])).all (· = checkTypeText row.2.checkType)

/-- The latest results of a monitor. -/
def latestResults (database : Database) (monitorId limit : ℕ) (checkType : Option PyStr) :
    List (ℕ × PingResult) :=
  firstBy (fun row ↦ OrderDual.toDual row.2.checkedAt) limit
    (matchingResults database monitorId checkType)

/-- `get_monitor_results`. -/
def getMonitorResults (database : Database) (monitorId limit : ℤ) (checkType : Option PyStr) :
    Except RequestFailure Handled :=
  if limit < 1 ∨ 500 < limit then .error .unprocessable
  else do
    let row ← storedMonitor database monitorId
    pure ⟨200, .results ((latestResults database row.1 limit.toNat checkType).map readResult),
      database, none⟩

/-- `trigger_monitor_check`. Without the broker, `execute_ping.delay` raises. -/
def triggerMonitorCheck (database : Database) (monitorId : ℤ) (brokerAccepts : Bool) :
    Except RequestFailure Handled := do
  let row ← storedMonitor database monitorId
  if brokerAccepts then
    pure ⟨202, .check ⟨"queued".toList, row.1⟩, database, some row.1⟩
  else .error .serverError

/-! ### Requests -/

/-- What the service is configured with. `hexdigest` is that of SHA-256. -/
structure Settings where
  tables : UnicodeTables
  apiKey : PyStr
  maxMonitors : ℕ
  writesPerMinute : ℤ
  hexdigest : PyStr → PyStr

/-- A request as it arrives: its headers, what it asks for, the time that the limiter and the
handler read, whether the broker accepts a task, what becomes of the commands of the limiter, and
how many ids have been lost since the last one was given out. -/
structure Arrival where
  apiKey : Option PyStr
  clientHost : Option PyStr
  endpoint : Endpoint
  limiterNow : ℚ
  now : ℤ
  brokerAccepts : Bool
  deliveries : Deliveries
  skipped : ℕ

/-- A limiter: its `hit` at a time, on what it has stored, where commands may fail. -/
structure Limiter (σ : Type) where
  hit : ℚ → Deliveries → PyStr → ℤ → ℤ → ExceptT RedisError (StateM σ) (Bool × ℤ)

/-- The limiter on Redis. -/
def Limiter.redis (rounding : TtlRounding) : Limiter Redis where
  hit := fun now deliveries key limit windowSeconds redis ↦
    RedisRateLimiter.hitDelivered rounding deliveries now key limit windowSeconds redis

/-- The database, what the limiter has stored, and the checks that requests have queued. -/
structure State (σ : Type) where
  database : Database
  limiter : σ
  queue : List ℕ

variable {σ : Type}

/-- The handler of a request. -/
def handle (settings : Settings) (arrival : Arrival) (database : Database) :
    Except RequestFailure Handled :=
  match arrival.endpoint with
  | .createMonitor payload =>
    createMonitor settings.tables settings.maxMonitors database payload arrival.now arrival.skipped
  | .getMonitor monitorId => getMonitor database monitorId
  | .updateMonitor monitorId payload => updateMonitor database monitorId payload arrival.now
  | .listMonitors skip limit => listMonitors database skip limit
  | .deleteMonitor monitorId => deleteMonitor database monitorId
  | .getMonitorResults monitorId limit checkType =>
    getMonitorResults database monitorId limit checkType
  | .triggerMonitorCheck monitorId => triggerMonitorCheck database monitorId arrival.brokerAccepts

/-- A request that has passed the dependencies. -/
def answer (settings : Settings) (arrival : Arrival) (state : State σ) : Response × State σ :=
  match handle settings arrival state.database with
  | .error failure => (.failed failure, state)
  | .ok handled => (.answered handled.statusCode handled.content,
      { state with
        database := handled.database
        queue := state.queue ++ handled.queued.toList })

/-- What `rate_limit_write` makes of a request. -/
def limitWrite (settings : Settings) (limiter : Limiter σ) (arrival : Arrival) (stored : σ) :
    Except TooManyRequests Unit × σ :=
  (rateLimitWrite (limiter.hit arrival.limiterNow arrival.deliveries) settings.hexdigest
    settings.writesPerMinute ⟨arrival.apiKey, arrival.clientHost⟩).run stored

/-- A request. -/
def respond (settings : Settings) (limiter : Limiter σ) (arrival : Arrival) (state : State σ) :
    Response × State σ :=
  match requireApiKey settings.apiKey arrival.apiKey with
  | .error refusal => (.unauthorized refusal, state)
  | .ok _ =>
    if arrival.endpoint.isWrite then
      match limitWrite settings limiter arrival state.limiter with
      | (.error refusal, stored) => (.tooManyRequests refusal, { state with limiter := stored })
      | (.ok _, stored) => answer settings arrival { state with limiter := stored }
    else answer settings arrival state

/-! ### Events -/

/-- A request arrives, or the workers change the database. -/
inductive Event
  | request (arrival : Arrival)
  | background (change : Database → Database)

/-- An event, and the response if there is one. -/
def serve (settings : Settings) (limiter : Limiter σ) (state : State σ) :
    Event → Option Response × State σ
  | .request arrival =>
    let (response, after) := respond settings limiter arrival state
    (some response, after)
  | .background change => (none, { state with database := change state.database })

end PingGuard.Service
