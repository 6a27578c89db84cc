import PingGuard.ProbeTask.Refinement

/-!
# What the attempts of a task leave

What a probe task owes to the tables, over all its runs. A probe that returned is to leave one row
of `ping_results`: `records_iff_of_isChain` says in which chains of attempts every probe does. An
attempt that schedules a retry has rolled its row back. A keep-alive task is to leave the health of
its monitor alone: `keepsChecks_executeKeepAlive_iff` says when it does. The recovery from the soft
time limit sets the status for both tasks.

The runs are executions of `runProbeTask`. By `harness_refines` there are no others.
-/

set_option autoImplicit false
set_option relaxedAutoImplicit false

namespace PingGuard.ProbeTask

open Library.Exceptions Library.PyText Library.SerialTable Models Net Status

/-! ### Health -/

/-- Every stored monitor keeps its status and the time of its last check. -/
def KeepsChecks (before after : Database) : Prop :=
  ∀ monitorId monitor, before.monitors.get monitorId = some monitor →
    ∃ later, after.monitors.get monitorId = some later ∧ later.status = monitor.status ∧
      later.lastCheckedAt = monitor.lastCheckedAt

/-- The first session of a keep-alive task leaves the monitors. -/
theorem monitors_runSession_executeKeepAlive (monitorId : ℕ) (execution : Execution)
    (database : Database) :
    (runSession .executeKeepAlive monitorId execution database).2.monitors = database.monitors := by
  rcases runSession_cases .executeKeepAlive monitorId execution database with
    ⟨_, _, hdone⟩ | ⟨-, hsame⟩
  · rw [hdone.runSession_eq]
    exact Table.modify_eq_self fun stored ↦ flushProbe_executeKeepAlive _ _ _ stored
  · rw [hsame]

/-- What a recovery from the soft time limit commits. -/
theorem recoverTimeLimit_eq_some_iff {task : Task} {monitorId : ℕ} {execution : Execution}
    {database after : Database} :
    recoverTimeLimit task monitorId execution database = some after ↔
      execution.recoveryCommits = true ∧ ∃ loaded,
        database.monitors.get monitorId = some loaded ∧ after =
          { monitors := database.monitors.modify monitorId
              (flushStatus .down execution.recoveryNow loaded)
            pingResults := database.pingResults.insert
              (timeLimitResult task monitorId execution.recoveryNow) } := by
  unfold recoverTimeLimit
  cases hget : database.monitors.get monitorId with
  | none => simp
  | some loaded =>
    dsimp only
    split_ifs with hcommits
    · rw [commitResult_eq_some_iff]
      simp [timeLimitResult, hget, hcommits]
    · simp [hcommits]

/-- The recovery from the soft time limit leaves the health of every monitor exactly when its
monitor is down already and was checked at that very time. -/
theorem keepsChecks_recovered_iff {task : Task} {monitorId : ℕ} {execution : Execution}
    {database after : Database} {loaded : Monitor}
    (hget : database.monitors.get monitorId = some loaded)
    (hrecover : recoverTimeLimit task monitorId execution database = some after) :
    KeepsChecks database after ↔
      loaded.status = .down ∧ loaded.lastCheckedAt = some execution.recoveryNow := by
  obtain ⟨-, stored, hstored, rfl⟩ := recoverTimeLimit_eq_some_iff.mp hrecover
  obtain rfl : stored = loaded := Option.some.inj (hstored.symm.trans hget)
  have hflushed : (flushStatus .down execution.recoveryNow stored stored).status = .down ∧
      (flushStatus .down execution.recoveryNow stored stored).lastCheckedAt =
        some execution.recoveryNow :=
    ⟨flushColumn_self _ _, flushColumn_self _ _⟩
  constructor
  · intro hkeeps
    obtain ⟨later, hlater, hstatus, hchecked⟩ := hkeeps monitorId stored hget
    rw [Table.get_modify, if_pos rfl, hget] at hlater
    obtain rfl := Option.some.inj hlater
    exact ⟨hstatus.symm.trans hflushed.1, hchecked.symm.trans hflushed.2⟩
  · rintro ⟨hstatus, hchecked⟩ otherId monitor hother
    rw [Table.get_modify]
    split_ifs with hkey
    · subst hkey
      obtain rfl : monitor = stored := Option.some.inj (hother.symm.trans hget)
      rw [hother]
      exact ⟨_, rfl, hflushed.1.trans hstatus.symm, hflushed.2.trans hchecked.symm⟩
    · exact ⟨monitor, hother, rfl, rfl⟩

/-- A keep-alive task leaves the health of every monitor exactly when no recovery from the soft time
limit is committed, or it finds its monitor down and checked at that very time. -/
theorem keepsChecks_executeKeepAlive_iff (monitorId : ℕ) (execution : Execution)
    (database : Database) :
    KeepsChecks database (runProbeTask .executeKeepAlive monitorId execution database).2 ↔
      execution.timeLimit = none ∨ execution.recoveryCommits = false ∨
        ∀ monitor, database.monitors.get monitorId = some monitor →
          monitor.status = .down ∧ monitor.lastCheckedAt = some execution.recoveryNow := by
  have hsession := monitors_runSession_executeKeepAlive monitorId execution database
  have hsame : ∀ after : Database, after.monitors = database.monitors →
      KeepsChecks database after := by
    intro after hmonitors otherId monitor hother
    exact ⟨monitor, hmonitors ▸ hother, rfl, rfl⟩
  by_cases hlimit : execution.timeLimit = none
  · refine iff_of_true (hsame _ ?_) (Or.inl hlimit)
    unfold runProbeTask
    rw [hlimit]
    exact hsession
  -- the monitors are untouched until the recovery
  have hbefore : (execution.beforeRecovery .executeKeepAlive monitorId database).monitors =
      database.monitors := by
    unfold Execution.beforeRecovery
    split
    · exact hsession
    · rfl
  rw [runProbeTask_of_timeLimit execution hlimit, or_iff_right hlimit]
  cases hrecover : recoverTimeLimit .executeKeepAlive monitorId execution
    (execution.beforeRecovery .executeKeepAlive monitorId database) with
  | none =>
    refine iff_of_true (hsame _ hbefore) (or_iff_not_imp_left.mpr fun hcommits monitor hget ↦ ?_)
    rw [← hbefore] at hget
    have hsome : recoverTimeLimit .executeKeepAlive monitorId execution
        (execution.beforeRecovery .executeKeepAlive monitorId database) = some _ :=
      recoverTimeLimit_eq_some_iff.mpr ⟨eq_true_of_ne_false hcommits, monitor, hget, rfl⟩
    exact absurd (hrecover.symm.trans hsome) (Option.some_ne_none _).symm
  | some after =>
    obtain ⟨hcommits, loaded, hget, -⟩ := recoverTimeLimit_eq_some_iff.mp hrecover
    have hkeeps := keepsChecks_recovered_iff hget hrecover
    unfold KeepsChecks at hkeeps ⊢
    rw [hbefore] at hkeeps hget
    rw [Option.getD_some, hkeeps, hcommits, or_iff_right Bool.noConfusion]
    constructor
    · intro hdown monitor hmonitor
      obtain rfl : loaded = monitor := Option.some.inj (hget.symm.trans hmonitor)
      exact hdown
    · exact fun hdown ↦ hdown loaded hget

/-- A result of a probe that could not connect. -/
def connectTimeoutDto : PingResultDTO where
  outcome := .unreachable
  statusCode := none
  latencyMs := some 5000
  errorDetail := some .connectTimeout
  originalUrl := "https://example.com/".toList
  finalUrl := none

/-- A first attempt whose probe could not connect. The soft time limit may strike in the probe. -/
def connectTimeoutScript (stopped : Bool) : Script where
  retries := 0
  now := 0
  recoveryNow := 10
  probe := fun _ ↦ connectTimeoutDto
  raisedAt := fun phase place ↦
    match phase, place with
    | .probing, .probe => if stopped then some .softTimeLimitExceeded else none
    | _, _ => none

/-- The execution that the soft time limit stops in its probe. -/
def stoppedExecution : Execution :=
  { (connectTimeoutScript true).execution with
    probe := fun _ ↦ none
    timeLimit := some .beforeCommit }

/-- A keep-alive request that the soft time limit stops sets the status of its monitor: as an
execution, and as a run of the harness. -/
theorem stopped_keepAlive_sets_status :
    ¬ KeepsChecks .oneMonitor (runProbeTask .executeKeepAlive 1 stoppedExecution .oneMonitor).2 ∧
      (Database.oneMonitor.monitors.get 1).map Monitor.status = some .pending ∧
      Ends (fun taskEnd worker ↦ taskEnd = .timedOut ∧
          (worker.database.monitors.get 1).map Monitor.status = some .down)
        (fun _ _ ↦ False)
        (harness .executeKeepAlive (connectTimeoutScript true) 1 ⟨.oneMonitor, .new, none⟩) := by
  refine ⟨fun hkeeps ↦ ?_, rfl, rfl, rfl⟩
  obtain ⟨later, hlater, hstatus, -⟩ := hkeeps 1 .dueAtZero rfl
  obtain rfl := Option.some.inj hlater
  exact absurd hstatus MonitorStatus.noConfusion

/-! ### Recorded probes -/

/-- Whether a row carries what a probe returned. -/
def carries (dto : PingResultDTO) (row : PingResult) : Bool :=
  row.statusCode = dto.statusCode && row.latencyMs = dto.latencyMs && row.error = dto.errorDetail

/-- An attempt: the database that it finds and what it meets. No probe reports the soft time limit
of its task (`probeOf_ne_taskSoftTimeLimit`). -/
structure Attempt where
  before : Database
  execution : Execution
  reported : ∀ monitor dto, execution.probe monitor = some dto →
    dto.errorDetail ≠ some .taskSoftTimeLimit

namespace Attempt

/-- An attempt whose probe is that of its task. -/
def ofProbe (before : Database) (execution : Execution) (env : ProbeEnv) (http : HttpSettings)
    (task : Task) : Attempt where
  before := before
  execution :=
    { execution with probe := fun monitor ↦ (probeOf env http task monitor).result.toOption }
  reported := by
    intro monitor dto hreturned
    dsimp only at hreturned
    cases hprobe : (probeOf env http task monitor).result with
    | error raised =>
      rw [hprobe] at hreturned
      nomatch hreturned
    | ok found =>
      rw [hprobe] at hreturned
      obtain rfl := Option.some.inj hreturned
      exact probeOf_ne_taskSoftTimeLimit hprobe

variable (task : Task) (monitorId : ℕ) (attempt : Attempt)

/-- What the probe of an attempt returns. -/
def returned : Option PingResultDTO := attempt.execution.returned task monitorId attempt.before

/-- The results that an attempt leaves. -/
def newResults : List PingResult :=
  attempt.before.pingResults.addedSince
    (runProbeTask task monitorId attempt.execution attempt.before).2.pingResults

/-- An attempt leaves exactly one row for what its probe returned. -/
def Records (dto : PingResultDTO) : Prop :=
  (attempt.newResults task monitorId).countP (carries dto) = 1

end Attempt

/-- The attempts of a task, in order and from some number of retries on. Each further one was
scheduled as a retry of the one before. Other transactions may come in between. -/
def IsChain (task : Task) (monitorId : ℕ) : ℕ → List Attempt → Prop
  | _, [] => True
  | retries, attempt :: rest =>
    attempt.execution.retries = retries ∧
      (rest ≠ [] → ∃ dto, attempt.returned task monitorId = some dto ∧
        isRetried retries dto = true) ∧
      IsChain task monitorId (retries + 1) rest

/-- The row of a probe carries what the probe returned. -/
theorem carries_probeResult (task : Task) (monitorId : ℕ) (dto : PingResultDTO) (now : ℤ) :
    carries dto (probeResult task monitorId dto now) = true := by
  simp [carries, probeResult]

/-- The row of the soft time limit carries nothing that a probe reports. -/
theorem carries_timeLimitResult (task : Task) (monitorId : ℕ) {dto : PingResultDTO}
    (hreported : dto.errorDetail ≠ some .taskSoftTimeLimit) (now : ℤ) :
    carries dto (timeLimitResult task monitorId now) = false := by
  simp [carries, timeLimitResult, hreported.symm]

/-- What the first session of an attempt adds: the row of its probe, if it completes. -/
theorem addedSince_runSession {task : Task} {monitorId : ℕ} {execution : Execution}
    {database : Database} {dto : PingResultDTO}
    (hreturned : execution.returned task monitorId database = some dto) :
    database.pingResults.addedSince (runSession task monitorId execution database).2.pingResults =
      if isRetried execution.retries dto = false ∧ execution.commits = true then
        [probeResult task monitorId dto execution.now]
      else [] := by
  rcases getsToProbe_or task monitorId execution database with ⟨loaded, hgets⟩ | ⟨hnone, -⟩
  · have hprobe := (hgets.returned_eq execution).symm.trans hreturned
    split_ifs with hdone
    · have hcompletes : Completes task monitorId execution database loaded dto :=
        ⟨hgets, hprobe, hdone.1, hdone.2⟩
      rw [hcompletes.runSession_eq]
      dsimp only
      rw [Table.addedSince_insert (Nat.le_refl _), Table.addedSince_self, List.nil_append]
    · rcases runSession_cases task monitorId execution database with ⟨other, dto', hdone'⟩ |
        ⟨-, hsame⟩
      · have hdto := ((hdone'.gets.returned_eq execution).trans hdone'.probe).symm.trans hreturned
        obtain rfl := Option.some.inj hdto
        exact absurd ⟨hdone'.notRetried, hdone'.commits⟩ hdone
      · rw [hsame, Table.addedSince_self]
  · exact absurd (hnone.symm.trans hreturned) (Option.some_ne_none dto).symm

/-- The recovery from the soft time limit adds no row that carries what a probe reports. -/
theorem countP_addedSince_recovery {task : Task} {monitorId : ℕ} {execution : Execution}
    {before database : Database} {dto : PingResultDTO}
    (hreported : dto.errorDetail ≠ some .taskSoftTimeLimit)
    (hle : before.pingResults.nextKey ≤ database.pingResults.nextKey) :
    (before.pingResults.addedSince ((recoverTimeLimit task monitorId execution database).getD
      database).pingResults).countP (carries dto) =
      (before.pingResults.addedSince database.pingResults).countP (carries dto) := by
  cases hrecover : recoverTimeLimit task monitorId execution database with
  | none => rfl
  | some after =>
    obtain ⟨-, _, -, rfl⟩ := recoverTimeLimit_eq_some_iff.mp hrecover
    rw [Option.getD_some, Table.addedSince_insert hle, List.countP_append,
      List.countP_singleton, carries_timeLimitResult task monitorId hreported]
    rfl

/-- An attempt leaves exactly one row for what its probe returned exactly when it schedules no
retry, and commits before the soft time limit strikes. -/
theorem records_iff {task : Task} {monitorId : ℕ} {attempt : Attempt} {dto : PingResultDTO}
    (hreturned : attempt.returned task monitorId = some dto) :
    attempt.Records task monitorId dto ↔
      isRetried attempt.execution.retries dto = false ∧ attempt.execution.commits = true ∧
        attempt.execution.timeLimit ≠ some .beforeCommit := by
  have hreported : dto.errorDetail ≠ some .taskSoftTimeLimit := by
    rcases getsToProbe_or task monitorId attempt.execution attempt.before with ⟨loaded, hgets⟩ |
      ⟨hnone, -⟩
    · exact attempt.reported loaded dto ((hgets.returned_eq _).symm.trans hreturned)
    · exact absurd (hnone.symm.trans hreturned) (Option.some_ne_none dto).symm
  have hadded := addedSince_runSession hreturned
  -- the row is there when the first session has completed
  have hcount : (attempt.before.pingResults.addedSince
      (runSession task monitorId attempt.execution attempt.before).2.pingResults).countP
        (carries dto) = 1 ↔
      isRetried attempt.execution.retries dto = false ∧ attempt.execution.commits = true := by
    rw [hadded]
    split_ifs with hdone
    · rw [List.countP_singleton, carries_probeResult]
      exact iff_of_true rfl hdone
    · exact iff_of_false Nat.zero_ne_one hdone
  have hle : attempt.before.pingResults.nextKey ≤
      (runSession task monitorId attempt.execution attempt.before).2.pingResults.nextKey := by
    rcases runSession_cases task monitorId attempt.execution attempt.before with
      ⟨_, _, hdone⟩ | ⟨-, hsame⟩
    · rw [hdone.runSession_eq]
      exact Nat.le_succ _
    · rw [hsame]
  unfold Attempt.Records Attempt.newResults
  cases hlimit : attempt.execution.timeLimit with
  | none =>
    have hrun : runProbeTask task monitorId attempt.execution attempt.before =
        runSession task monitorId attempt.execution attempt.before := by
      unfold runProbeTask
      rw [hlimit]
    rw [hrun, hcount]
    simp
  | some timeLimit =>
    rw [runProbeTask_of_timeLimit attempt.execution (by rw [hlimit]; exact Option.some_ne_none _)]
    unfold Execution.beforeRecovery
    rw [hlimit]
    cases timeLimit with
    | beforeCommit =>
      dsimp only
      rw [countP_addedSince_recovery hreported (Nat.le_refl _), Table.addedSince_self]
      simp
    | afterCommit =>
      dsimp only
      rw [countP_addedSince_recovery hreported hle, hcount]
      simp

/-- Every probe of a chain of attempts leaves exactly one row that carries what it returned, exactly
when there is a single attempt: its probe reports nothing to retry, and its commit succeeds before
the soft time limit strikes. -/
theorem records_iff_of_isChain {task : Task} {monitorId : ℕ} {attempts : List Attempt}
    (hchain : IsChain task monitorId 0 attempts) :
    (∀ attempt ∈ attempts, ∀ dto, attempt.returned task monitorId = some dto →
      attempt.Records task monitorId dto) ↔
      attempts.length ≤ 1 ∧ ∀ attempt ∈ attempts, ∀ dto,
        attempt.returned task monitorId = some dto →
          isRetried 0 dto = false ∧ attempt.execution.commits = true ∧
            attempt.execution.timeLimit ≠ some .beforeCommit := by
  cases attempts with
  | nil =>
    exact iff_of_true (fun _ hmem ↦ absurd hmem List.not_mem_nil)
      ⟨Nat.zero_le 1, fun _ hmem ↦ absurd hmem List.not_mem_nil⟩
  | cons attempt rest =>
    obtain ⟨hretries, hscheduled, -⟩ := hchain
    constructor
    · intro hrecords
      -- a second attempt was scheduled by a retry of the first
      have hlast : rest = [] := by
        by_contra hne
        obtain ⟨dto, hreturned, hretried⟩ := hscheduled hne
        have hdone := (records_iff hreturned).mp
          (hrecords attempt List.mem_cons_self dto hreturned)
        rw [hretries, hretried] at hdone
        exact Bool.noConfusion hdone.1
      subst hlast
      refine ⟨Nat.le_refl 1, fun other hother dto hreturned ↦ ?_⟩
      obtain rfl := List.mem_singleton.mp hother
      rw [← hretries]
      exact (records_iff hreturned).mp (hrecords other List.mem_cons_self dto hreturned)
    · rintro ⟨hlength, hdone⟩ other hother dto hreturned
      have hlast : rest = [] := List.length_eq_zero_iff.mp (by simpa using hlength)
      subst hlast
      obtain rfl := List.mem_singleton.mp hother
      rw [records_iff hreturned, hretries]
      exact hdone other List.mem_cons_self dto hreturned

/-- A first attempt whose probe got an answer. -/
def answeredAttempt : Attempt :=
  .ofProbe .oneMonitor (connectTimeoutScript false).execution
    (steadyEnv (.response ⟨200, none, [], none, none⟩)) plainHttp .executePing

/-- It leaves its row. -/
theorem records_answeredAttempt :
    IsChain .executePing 1 0 [answeredAttempt] ∧
      ∀ attempt ∈ [answeredAttempt], ∀ dto, attempt.returned .executePing 1 = some dto →
        attempt.Records .executePing 1 dto := by
  have hchain : IsChain .executePing 1 0 [answeredAttempt] :=
    ⟨rfl, fun hne ↦ absurd rfl hne, trivial⟩
  refine ⟨hchain, (records_iff_of_isChain hchain).mpr ⟨Nat.le_refl 1, ?_⟩⟩
  intro attempt hmem dto hreturned
  obtain rfl := List.mem_singleton.mp hmem
  obtain rfl := Option.some.inj hreturned
  exact ⟨rfl, rfl, nofun⟩

/-- A first attempt whose probe could not connect. -/
def connectTimeoutAttempt : Attempt where
  before := .oneMonitor
  execution := (connectTimeoutScript false).execution
  reported := by
    rintro monitor _ ⟨⟩
    exact nofun

/-- It is retried and leaves no row: as an execution, and as a run of the harness. -/
theorem retried_probe_leaves_no_row :
    IsChain .executePing 1 0 [connectTimeoutAttempt] ∧
      connectTimeoutAttempt.returned .executePing 1 = some connectTimeoutDto ∧
      ¬ connectTimeoutAttempt.Records .executePing 1 connectTimeoutDto ∧
      Ends (fun _ _ ↦ False)
        (fun raised worker ↦ raised = .retry 1 ∧ worker.returned = some connectTimeoutDto ∧
          worker.database.pingResults.rows = [])
        (harness .executePing (connectTimeoutScript false) 1 ⟨.oneMonitor, .new, none⟩) :=
  ⟨⟨rfl, fun hne ↦ absurd rfl hne, trivial⟩, rfl, nofun, rfl, rfl, rfl⟩

end PingGuard.ProbeTask
