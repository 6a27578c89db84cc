import Mathlib.Data.Fintype.OfMap
import PingGuard.Library.SqlTable
import PingGuard.Lifecycle

/-!
# Column constraints

The two tables of `app/models.py` with every constraint of their columns, and a monitor as a row of
the first. `admits_monitorRow_iff` says what the columns ask of it: what is not already part of its
type is `Monitor.fitsColumns` and the width of the integers. After any operations of the service
every stored monitor is such a row (`admits_of_reaches`).

The fields of a `MonitorCreate` bound a name and a path by the lengths of their columns. The text of
its URL has no bound of its own, and `HttpUrl` allows 2083 characters where the column has 2048. No
field refuses U+0000. `createMonitor_stores_iff` says that an accepted payload can be stored exactly
if its texts fit.
-/

set_option autoImplicit false
set_option relaxedAutoImplicit false

namespace PingGuard.Columns

open Api Library.PyText Library.SqlTable Library.Transition Lifecycle Models Schemas Status

/-! ### The tables of the models -/

/-- The columns of `monitors`. -/
inductive MonitorColumn
  | id
  | name
  | url
  | checkIntervalSeconds
  | status
  | lastCheckedAt
  | nextCheckAt
  | mode
  | keepAliveEnabled
  | keepAliveIntervalSeconds
  | keepAlivePath
  | nextKeepAliveAt
  deriving DecidableEq

instance : Fintype MonitorColumn :=
  Fintype.ofList
    [.id, .name, .url, .checkIntervalSeconds, .status, .lastCheckedAt, .nextCheckAt, .mode,
      .keepAliveEnabled, .keepAliveIntervalSeconds, .keepAlivePath, .nextKeepAliveAt]
    fun column ↦ by cases column <;> decide

/-- `ck_monitors_status`. -/
def ckMonitorsStatus : Check MonitorColumn where
  name := "ck_monitors_status"
  column := .status
  values := ["up", "degraded", "down", "pending"].map String.toList

/-- `ck_monitors_mode`. -/
def ckMonitorsMode : Check MonitorColumn where
  name := "ck_monitors_mode"
  column := .mode
  values := ["monitor", "keep_alive", "monitor_and_keep_alive"].map String.toList

/-- `Monitor.__table__`. -/
def monitors : Schema MonitorColumn where
  column
    | .id => .notNull .integer
    | .name => .notNull (.varchar 120)
    | .url => .notNull (.varchar 2048)
    | .checkIntervalSeconds => .notNull .integer
    | .status => .notNull (.varchar 20)
    | .lastCheckedAt => .orNull .timestamp
    | .nextCheckAt => .orNull .timestamp
    | .mode => .notNull (.varchar 30)
    | .keepAliveEnabled => .notNull .boolean
    | .keepAliveIntervalSeconds => .orNull .integer
    | .keepAlivePath => .orNull (.varchar 255)
    | .nextKeepAliveAt => .orNull .timestamp
  primaryKey := .id
  checks := [ckMonitorsStatus, ckMonitorsMode]

/-- The columns of `ping_results`. -/
inductive PingResultColumn
  | id
  | monitorId
  | checkType
  | statusCode
  | latencyMs
  | error
  | checkedAt
  deriving DecidableEq

instance : Fintype PingResultColumn :=
  Fintype.ofList [.id, .monitorId, .checkType, .statusCode, .latencyMs, .error, .checkedAt]
    fun column ↦ by cases column <;> decide

/-- `ck_ping_results_check_type`. -/
def ckPingResultsCheckType : Check PingResultColumn where
  name := "ck_ping_results_check_type"
  column := .checkType
  values := ["monitor", "keep_alive"].map String.toList

/-- `PingResult.__table__`. -/
def pingResults : Schema PingResultColumn where
  column
    | .id => .notNull .integer
    | .monitorId => .notNull .integer
    | .checkType => .notNull (.varchar 20)
    | .statusCode => .orNull .integer
    | .latencyMs => .orNull .float
    | .error => .orNull (.varchar 500)
    | .checkedAt => .notNull .timestamp
  primaryKey := .id
  checks := [ckPingResultsCheckType]

/-! ### A monitor as a row -/

/-- The value of a status, as the enumeration spells it. -/
def statusValue : MonitorStatus → String
  | .up => "up"
  | .degraded => "degraded"
  | .down => "down"
  | .pending => "pending"

/-- The row of a monitor under an id. -/
def monitorRow (monitorId : ℤ) (monitor : Monitor) : Row MonitorColumn
  | .id => .integer monitorId
  | .name => .text monitor.name
  | .url => .text monitor.url
  | .checkIntervalSeconds => .integer monitor.checkIntervalSeconds
  | .status => .text (statusValue monitor.status).toList
  | .lastCheckedAt => .ofOption .timestamp monitor.lastCheckedAt
  | .nextCheckAt => .ofOption .timestamp monitor.nextCheckAt
  | .mode => .text (modeValue monitor.mode).toList
  | .keepAliveEnabled => .boolean monitor.keepAliveEnabled
  | .keepAliveIntervalSeconds => .ofOption .integer monitor.keepAliveIntervalSeconds
  | .keepAlivePath => .ofOption .text monitor.keepAlivePath
  | .nextKeepAliveAt => .ofOption .timestamp monitor.nextKeepAliveAt

/-- A keep-alive interval fits its column if it is none or an integer of 32 bits. -/
theorem admits_keepAliveIntervalSeconds (monitorId : ℤ) (monitor : Monitor) :
    (monitors.column .keepAliveIntervalSeconds).admits
        (monitorRow monitorId monitor .keepAliveIntervalSeconds) =
      monitor.keepAliveIntervalSeconds.all isInt32 :=
  Column.admits_ofOption .integer (fun _ hnull ↦ Value.noConfusion hnull) _

/-- A keep-alive path fits its column if it is none or a text that fits. -/
theorem admits_keepAlivePath (monitorId : ℤ) (monitor : Monitor) :
    (monitors.column .keepAlivePath).admits (monitorRow monitorId monitor .keepAlivePath) =
      monitor.keepAlivePath.all (isVarchar 255) :=
  Column.admits_ofOption (.varchar 255) (fun _ hnull ↦ Value.noConfusion hnull) _

/-- Every optional timestamp fits a nullable column of timestamps. -/
theorem admits_ofOption_timestamp (time : Option ℤ) :
    (Column.orNull .timestamp).admits (.ofOption .timestamp time) = true := by
  rw [Column.admits_ofOption .timestamp fun _ hnull ↦ Value.noConfusion hnull]
  cases time <;> rfl

/-- Every status fits its column. -/
theorem admits_statusValue (status : MonitorStatus) :
    (monitors.column .status).admits (.text (statusValue status).toList) = true := by
  cases status <;> decide

/-- Every mode fits its column. -/
theorem admits_modeValue (mode : MonitorMode) :
    (monitors.column .mode).admits (.text (modeValue mode).toList) = true := by
  cases mode <;> decide

/-- Every status passes `ck_monitors_status`. -/
theorem ckMonitorsStatus_monitorRow (monitorId : ℤ) (monitor : Monitor) :
    ckMonitorsStatus.holds (monitorRow monitorId monitor) = true := by
  have hstatus : (statusValue monitor.status).toList ∈ ckMonitorsStatus.values := by
    cases monitor.status <;> decide
  exact Check.holds_of_mem rfl hstatus

/-- Every mode passes `ck_monitors_mode`. -/
theorem ckMonitorsMode_monitorRow (monitorId : ℤ) (monitor : Monitor) :
    ckMonitorsMode.holds (monitorRow monitorId monitor) = true := by
  have hmode : (modeValue monitor.mode).toList ∈ ckMonitorsMode.values := by
    cases monitor.mode <;> decide
  exact Check.holds_of_mem rfl hmode

/-- What the table asks of the row of a monitor. -/
theorem admits_monitorRow_iff (monitorId : ℤ) (monitor : Monitor) :
    monitors.Admits (monitorRow monitorId monitor) ↔
      isInt32 monitorId = true ∧ IntervalsMeet (isInt32 · = true) monitor ∧
        monitor.fitsColumns = true := by
  have hchecks : ∀ check ∈ monitors.checks, check.holds (monitorRow monitorId monitor) = true := by
    intro check hcheck
    rcases List.mem_pair.mp hcheck with rfl | rfl
    · exact ckMonitorsStatus_monitorRow monitorId monitor
    · exact ckMonitorsMode_monitorRow monitorId monitor
  constructor
  · intro hadmits
    have hinterval := hadmits.1 .keepAliveIntervalSeconds
    have hpath := hadmits.1 .keepAlivePath
    rw [admits_keepAliveIntervalSeconds, Option.all_eq_true] at hinterval
    rw [admits_keepAlivePath] at hpath
    refine ⟨hadmits.1 .id, ⟨hadmits.1 .checkIntervalSeconds, hinterval⟩, ?_⟩
    rw [Monitor.fitsColumns, Bool.and_eq_true, Bool.and_eq_true]
    exact ⟨⟨hadmits.1 .name, hadmits.1 .url⟩, hpath⟩
  · rintro ⟨hid, ⟨hcheckInterval, hinterval⟩, hfits⟩
    rw [Monitor.fitsColumns, Bool.and_eq_true, Bool.and_eq_true] at hfits
    obtain ⟨⟨hname, hurl⟩, hpath⟩ := hfits
    refine ⟨fun column ↦ ?_, hchecks⟩
    cases column with
    | id => exact hid
    | name => exact hname
    | url => exact hurl
    | checkIntervalSeconds => exact hcheckInterval
    | status => exact admits_statusValue monitor.status
    | lastCheckedAt => exact admits_ofOption_timestamp monitor.lastCheckedAt
    | nextCheckAt => exact admits_ofOption_timestamp monitor.nextCheckAt
    | mode => exact admits_modeValue monitor.mode
    | keepAliveEnabled => rfl
    | keepAliveIntervalSeconds =>
      exact (admits_keepAliveIntervalSeconds _ _).trans ((Option.all_eq_true _ _).mpr hinterval)
    | keepAlivePath => exact (admits_keepAlivePath _ _).trans hpath
    | nextKeepAliveAt => exact admits_ofOption_timestamp monitor.nextKeepAliveAt

/-- An interval within its bounds is an integer of 32 bits. -/
theorem isInt32_of_isInterval (interval : ℤ) (hinterval : isInterval interval = true) :
    isInt32 interval = true := by
  rw [isInterval, Bool.and_eq_true, decide_eq_true_iff, decide_eq_true_iff] at hinterval
  rw [isInt32, Bool.and_eq_true, decide_eq_true_iff, decide_eq_true_iff]
  omega

/-! ### Every stored row -/

/-- Every operation keeps that a row fits its columns: a request that would store another fails, and
neither a sweep nor a check writes a text. -/
theorem isRowInvariant_fitsColumns (tables : UnicodeTables) :
    IsRowInvariant tables (·.fitsColumns = true) where
  created := fun _ _ _ hfits ↦ hfits
  updated := by
    intro payload now loaded monitor _ _ hcommit
    obtain ⟨draft, -, -, hflushed⟩ := commitUpdate_eq_ok hcommit
    exact hflushed.fits
  rescheduled := by
    rintro schedule before after hfits (rfl | ⟨value, rfl, -⟩)
    · exact hfits
    · cases schedule <;> exact hfits
  checked := by
    rintro before after hfits ⟨status, lastCheckedAt, rfl⟩
    exact hfits

/-- Every monitor stored after any operations is a row that the table admits, as far as its id is an
integer of the column. -/
theorem admits_of_reaches {tables : UnicodeTables} {maxMonitors : ℕ} {database : Database}
    (hreaches : Reaches (serve tables maxMonitors) (fun _ _ ↦ True) Database.empty database)
    {monitorId : ℕ} {monitor : Monitor}
    (hget : database.monitors.get monitorId = some monitor)
    (hid : isInt32 monitorId = true) : monitors.Admits (monitorRow monitorId monitor) := by
  have hfits := EveryRow.of_reaches (isRowInvariant_fitsColumns tables) hreaches monitorId monitor
  have hwell := EveryRow.of_reaches (isRowInvariant_isWellFormed tables) hreaches monitorId monitor
  obtain ⟨hcheck, hinterval⟩ := (hwell hget).intervals
  refine (admits_monitorRow_iff _ _).mpr ⟨hid, ⟨isInt32_of_isInterval _ hcheck, ?_⟩, hfits hget⟩
  exact fun interval hsome ↦ isInt32_of_isInterval interval (hinterval interval hsome)

/-! ### Creating a monitor -/

/-- The texts of a payload fit their columns: the URL is not too long, which the schema does not
ask, and none of them has U+0000. -/
structure TextsFit (payload : MonitorCreate) : Prop where
  url : payload.url.text.length ≤ 2048
  nameNul : '\x00' ∉ payload.name
  urlNul : '\x00' ∉ payload.url.text
  pathNul : ∀ path, payload.keepAlivePath = some path → '\x00' ∉ path

/-- The name and the path of an accepted payload are not too long for their columns. -/
theorem fitsColumns_newMonitor_iff {tables : UnicodeTables} {payload : MonitorCreate}
    (haccepted : payload.isAccepted tables = true) (now : ℤ) :
    (newMonitor payload now).fitsColumns = true ↔ TextsFit payload := by
  simp only [MonitorCreate.isAccepted, isName, Bool.and_eq_true, decide_eq_true_iff] at haccepted
  obtain ⟨⟨⟨⟨⟨⟨-, hname⟩, -⟩, -⟩, -⟩, hpath⟩, -⟩ := haccepted
  have hlength : ∀ path, payload.keepAlivePath = some path → path.length ≤ 255 := by
    intro path hsome
    rw [hsome, Option.all_some, isKeepAlivePath, Bool.and_eq_true] at hpath
    exact of_decide_eq_true hpath.1
  rw [Monitor.fitsColumns, Bool.and_eq_true, Bool.and_eq_true, isVarchar_iff, isVarchar_iff,
    Option.all_eq_true]
  constructor
  · rintro ⟨⟨⟨-, hnameNul⟩, hurl, hurlNul⟩, hpathFits⟩
    exact ⟨hurl, hnameNul, hurlNul, fun path hsome ↦ (isVarchar_iff.mp (hpathFits path hsome)).2⟩
  · rintro ⟨hurl, hnameNul, hurlNul, hpathNul⟩
    exact ⟨⟨⟨hname, hnameNul⟩, hurl, hurlNul⟩, fun path hsome ↦
      isVarchar_iff.mpr ⟨hlength path hsome, hpathNul path hsome⟩⟩

/-- The table admits the row of an accepted payload, under every id, exactly if its texts fit. -/
theorem admits_newMonitor_iff {tables : UnicodeTables} {payload : MonitorCreate}
    (haccepted : payload.isAccepted tables = true) (now : ℤ) :
    (∀ monitorId : ℤ, isInt32 monitorId = true →
        monitors.Admits (monitorRow monitorId (newMonitor payload now))) ↔
      TextsFit payload := by
  have hintervals := intervalsMeet_newMonitor isInt32_of_isInterval haccepted now
  rw [← fitsColumns_newMonitor_iff haccepted now]
  constructor
  · intro hadmits
    exact ((admits_monitorRow_iff 1 _).mp (hadmits 1 (by decide))).2.2
  · intro hfits monitorId hid
    exact (admits_monitorRow_iff _ _).mpr ⟨hid, hintervals, hfits⟩

/-- A row that does not fit its columns is a server error. -/
theorem createMonitor_of_not_fits {tables : UnicodeTables} {maxMonitors : ℕ} {database : Database}
    {payload : MonitorCreate} {now : ℤ} (haccepted : payload.isAccepted tables = true)
    (hcap : database.monitors.rows.length < maxMonitors)
    (hfits : ¬ (newMonitor payload now).fitsColumns = true) (skipped : ℕ) :
    createMonitor tables maxMonitors database payload now skipped = .error .serverError := by
  rw [createMonitor, if_neg (not_not_intro haccepted), if_neg (Nat.not_le.mpr hcap), if_neg hfits]

/-- Below the cap, the row of an accepted payload satisfies every constraint of its columns and is
inserted, exactly if the text of the URL has at most 2048 characters and no text has U+0000. -/
theorem createMonitor_stores_iff (tables : UnicodeTables) (maxMonitors : ℕ) (database : Database)
    (payload : MonitorCreate) (now : ℤ) (skipped : ℕ)
    (haccepted : payload.isAccepted tables = true)
    (hcap : database.monitors.rows.length < maxMonitors) :
    ((∀ monitorId : ℤ, isInt32 monitorId = true →
        monitors.Admits (monitorRow monitorId (newMonitor payload now))) ∧
      createMonitor tables maxMonitors database payload now skipped =
        .ok { database with
          monitors := (database.monitors.skip skipped).insert (newMonitor payload now) }) ↔
      TextsFit payload := by
  rw [admits_newMonitor_iff haccepted]
  refine and_iff_left_of_imp fun htexts ↦ ?_
  have hfits := (fitsColumns_newMonitor_iff haccepted now).mpr htexts
  rw [createMonitor, if_neg (not_not_intro haccepted), if_neg (Nat.not_le.mpr hcap), if_pos hfits]

/-- A payload with a name and the text of a URL, whose host is `example.com`. -/
def monitorOf (name text : PyStr) : MonitorCreate where
  name := name
  url := ⟨text, "https".toList, none, none, some "example.com".toList⟩
  checkIntervalSeconds := 60
  mode := .monitor
  keepAliveEnabled := false
  keepAliveIntervalSeconds := none
  keepAlivePath := none

/-- Such a payload is accepted whatever the text of the URL is. -/
theorem isAccepted_monitorOf (text : PyStr) :
    (monitorOf "site".toList text).isAccepted .caseless = true := rfl

/-- The theorem on a short URL. -/
theorem createMonitor_stores_short_url :
    createMonitor .caseless 100 Database.empty
        (monitorOf "site".toList "https://example.com/".toList) 0 3 =
      .ok { Database.empty with
        monitors := (Database.empty.monitors.skip 3).insert
          (newMonitor (monitorOf "site".toList "https://example.com/".toList) 0) } :=
  ((createMonitor_stores_iff .caseless 100 Database.empty
    (monitorOf "site".toList "https://example.com/".toList) 0 3 (isAccepted_monitorOf _)
      (by decide)).mpr ⟨by decide, by decide, by decide, nofun⟩).2

/-- `https://example.com/` and 2029 letters. -/
def longUrl : PyStr := "https://example.com/".toList ++ List.replicate 2029 'a'

/-- Two accepted payloads whose rows cannot be inserted: one with a URL that is too long for its
column, and one with U+0000 in its name. -/
theorem createMonitor_fails_unfit_texts :
    ((monitorOf "site".toList longUrl).isAccepted .caseless = true ∧ longUrl.length ≤ 2083 ∧
      ¬ monitors.Admits (monitorRow 1 (newMonitor (monitorOf "site".toList longUrl) 0)) ∧
      createMonitor .caseless 100 Database.empty (monitorOf "site".toList longUrl) 0 0 =
        .error .serverError) ∧
    (monitorOf ['\x00'] "https://example.com/".toList).isAccepted .caseless = true ∧
      ¬ monitors.Admits
        (monitorRow 1 (newMonitor (monitorOf ['\x00'] "https://example.com/".toList) 0)) ∧
      createMonitor .caseless 100 Database.empty
        (monitorOf ['\x00'] "https://example.com/".toList) 0 0 = .error .serverError := by
  have haccepted := isAccepted_monitorOf longUrl
  have hlength : longUrl.length = 2049 := by
    have hsite : "https://example.com/".toList.length = 20 := rfl
    unfold longUrl
    rw [List.length_append, List.length_replicate, hsite]
  have hlong : ¬ (newMonitor (monitorOf "site".toList longUrl) 0).fitsColumns = true := by
    rw [fitsColumns_newMonitor_iff haccepted]
    intro htexts
    have hurl : longUrl.length ≤ 2048 := htexts.url
    omega
  have hnul : ¬ (newMonitor (monitorOf ['\x00'] "https://example.com/".toList) 0).fitsColumns =
      true := by
    decide
  refine ⟨⟨haccepted, by omega, fun hadmits ↦ ?_, ?_⟩, rfl, fun hadmits ↦ ?_, rfl⟩
  · exact hlong ((admits_monitorRow_iff 1 _).mp hadmits).2.2
  · exact createMonitor_of_not_fits haccepted (by decide) hlong 0
  · exact hnul ((admits_monitorRow_iff 1 _).mp hadmits).2.2

end PingGuard.Columns
