import PingGuard.ProbeTask.Attempts
import PingGuard.ProbeTask.Quiet

/-!
# The transactions of a run

A run of the harness has a transaction for every `with get_sync_db()` statement that it enters: that
of the probe and, where the soft time limit strikes in it, that of the recovery. `transactions`
lists them with the committed database before and after each, and `transactions_chain` says that the
run commits nothing else.

However a run is interrupted, a transaction of a health check commits a whole check or nothing,
`transaction_eq_or_isCheck`. That the run as a whole records no more than one check is another
matter: `recordsOnce_iff` says at which places the soft time limit makes it record two.
-/

set_option autoImplicit false
set_option relaxedAutoImplicit false

namespace PingGuard.ProbeTask

open Library.Exceptions Library.PyText Library.SerialTable Models Net Status

variable {task : Task} {script : Script} {phase : Phase} {monitorId : ℕ} {database : Database}

/-! ### Transactions -/

/-- A transaction: what is committed before it and after it. -/
structure Transaction where
  before : Database
  after : Database

/-- The transaction of a `with` statement that ends. -/
def transactionOf {α : Type} (before : Database) (ended : EStateM.Result Raised Worker α) :
    Transaction :=
  ⟨before, (finalState ended).database⟩

/-- The `with` statement of the probe, from the start of a run. -/
def probingWith (task : Task) (script : Script) (monitorId : ℕ) (database : Database) :
    EStateM.Result Raised Worker TaskEnd :=
  getSyncDb script .probing (probeSession task script monitorId) ⟨database, .new, none⟩

/-- The `with` statement of the recovery, where the first one raises. -/
def recoveringWith (task : Task) (script : Script) (monitorId : ℕ) (worker : Worker) :
    EStateM.Result Raised Worker Unit :=
  getSyncDb script .recovering (recoverySession task script monitorId) worker

/-- Where a run starts its recovery: the soft time limit has struck in its first `with` statement,
and nothing is raised before the second one. -/
def recoveryStart (script : Script) : EStateM.Result Raised Worker TaskEnd → Option Worker
  | .ok _ _ => none
  | .error raised worker =>
    if raised.isSoftTimeLimitExceeded && (script.raisedAt .recovering .clock).isNone then
      some worker
    else none

/-- The transactions of a run. -/
def transactions (task : Task) (script : Script) (monitorId : ℕ) (database : Database) :
    List Transaction :=
  let probing := probingWith task script monitorId database
  match recoveryStart script probing with
  | none => [transactionOf database probing]
  | some worker =>
    [transactionOf database probing,
      transactionOf worker.database (recoveringWith task script monitorId worker)]

/-- What a run has committed at its end. -/
def committed (task : Task) (script : Script) (monitorId : ℕ) (database : Database) : Database :=
  (finalState (harness task script monitorId ⟨database, .new, none⟩)).database

/-- A recovery starts where the first `with` statement has raised. -/
theorem finalState_of_recoveryStart {ended : EStateM.Result Raised Worker TaskEnd} {worker : Worker}
    (hstart : recoveryStart script ended = some worker) : finalState ended = worker := by
  cases ended with
  | ok taskEnd after => nomatch hstart
  | error raised after =>
    unfold recoveryStart at hstart
    dsimp only at hstart
    split_ifs at hstart
    exact Option.some.inj hstart

/-- What a run has committed is what its last `with` statement leaves. -/
theorem committed_eq (task : Task) (script : Script) (monitorId : ℕ) (database : Database) :
    committed task script monitorId database =
      match recoveryStart script (probingWith task script monitorId database) with
      | none => (finalState (probingWith task script monitorId database)).database
      | some worker => (finalState (recoveringWith task script monitorId worker)).database := by
  unfold committed harness
  cases hprobing : probingWith task script monitorId database with
  | ok taskEnd worker =>
    rw [tryExcept_of_ok hprobing]
    rfl
  | error raised worker =>
    rw [tryExcept_of_error hprobing]
    unfold recoveryStart
    dsimp only
    cases hhandled : raised.isSoftTimeLimitExceeded with
    | false => rfl
    | true =>
      cases hclock : script.raisedAt .recovering .clock with
      | some failure =>
        rw [point_of_eq_some hclock]
        rfl
      | none =>
        rw [point_of_eq_none hclock]
        have hlast : finalState ((getSyncDb script .recovering
            (recoverySession task script monitorId) >>= fun _ ↦ pure TaskEnd.timedOut) worker) =
              finalState (recoveringWith task script monitorId worker) :=
          finalState_bind (fun _ _ ↦ rfl) worker
        exact congrArg Worker.database hlast

/-- A run that does not recover has one transaction. -/
theorem transactions_of_not_recovered
    (hstart : recoveryStart script (probingWith task script monitorId database) = none) :
    transactions task script monitorId database =
        [transactionOf database (probingWith task script monitorId database)] ∧
      committed task script monitorId database =
        (finalState (probingWith task script monitorId database)).database := by
  rw [committed_eq, hstart]
  unfold transactions
  dsimp only
  rw [hstart]
  exact ⟨rfl, rfl⟩

/-- A run that recovers has two. -/
theorem transactions_of_recovered {worker : Worker}
    (hstart : recoveryStart script (probingWith task script monitorId database) = some worker) :
    transactions task script monitorId database =
        [⟨database, worker.database⟩,
          transactionOf worker.database (recoveringWith task script monitorId worker)] ∧
      committed task script monitorId database =
        (finalState (recoveringWith task script monitorId worker)).database := by
  rw [committed_eq, hstart]
  unfold transactions transactionOf
  dsimp only
  rw [hstart, finalState_of_recoveryStart hstart]
  exact ⟨rfl, rfl⟩

/-- The first transaction of a run starts where the run does, the others where the one before has
ended, and the run ends with the last one. -/
theorem transactions_chain (task : Task) (script : Script) (monitorId : ℕ) (database : Database) :
    (transactions task script monitorId database).head?.map Transaction.before = some database ∧
      (transactions task script monitorId database).IsChain
        (fun first second ↦ first.after = second.before) ∧
      (transactions task script monitorId database).getLast?.map Transaction.after =
        some (committed task script monitorId database) := by
  cases hstart : recoveryStart script (probingWith task script monitorId database) with
  | none =>
    obtain ⟨htransactions, hcommitted⟩ := transactions_of_not_recovered hstart
    rw [htransactions, hcommitted]
    exact ⟨rfl, .singleton _, rfl⟩
  | some worker =>
    obtain ⟨htransactions, hcommitted⟩ := transactions_of_recovered hstart
    rw [htransactions, hcommitted]
    exact ⟨rfl, .cons_cons rfl (.singleton _), rfl⟩

/-! ### What a transaction commits -/

/-- Whatever a transaction of the probe is interrupted by, it commits what `runSession` does, or
nothing. -/
theorem after_probing (task : Task) (script : Script) (monitorId : ℕ) (database : Database) :
    (finalState (probingWith task script monitorId database)).database = database ∨
      (finalState (probingWith task script monitorId database)).database =
        (runSession task monitorId script.execution database).2 := by
  have hend : Ends _ _ (probingWith task script monitorId database) :=
    meets_firstWith task monitorId ⟨database, .new, none⟩ ⟨rfl, rfl⟩
  cases hprobing : probingWith task script monitorId database with
  | ok taskEnd worker =>
    rw [hprobing] at hend
    obtain ⟨before, ⟨hready, hdatabase, -⟩, hflush, -⟩ := hend
    rw [hdatabase] at hflush
    exact Or.inr (Option.some.inj ((Prod.mk.inj hready).2.symm.trans hflush)).symm
  | error raised worker =>
    rw [hprobing] at hend
    rcases withFails_cases hend with ⟨-, hstored, -⟩ | ⟨hstored, -⟩ | ⟨-, hstored, -⟩
    · exact Or.inl hstored
    · exact Or.inl hstored
    · exact Or.inr hstored

/-- Whatever a transaction of the recovery is interrupted by, it commits what `recoverTimeLimit`
does, or nothing. -/
theorem after_recovering (task : Task) (script : Script) (monitorId : ℕ) (worker : Worker) :
    (finalState (recoveringWith task script monitorId worker)).database = worker.database ∨
      recoverTimeLimit task monitorId script.execution worker.database =
        some (finalState (recoveringWith task script monitorId worker)).database := by
  have hend : Ends _ _ (recoveringWith task script monitorId worker) :=
    meets_secondWith task monitorId worker.returned worker ⟨rfl, rfl⟩
  have hcommitted : ∀ {value last}, Committed (RecoveryReady task script monitorId worker.database
      worker.returned) value last →
        recoverTimeLimit task monitorId script.execution worker.database = some last.database := by
    rintro _ last ⟨before, ⟨hready, hdatabase, -⟩, hflush, -⟩
    rw [hdatabase] at hflush
    exact hready.symm.trans hflush
  cases hrecovering : recoveringWith task script monitorId worker with
  | ok done last =>
    rw [hrecovering] at hend
    exact Or.inr (hcommitted hend)
  | error raised last =>
    rw [hrecovering] at hend
    rcases hend with ⟨-, hstored, -⟩ | ⟨-, _, hlast⟩
    · exact Or.inl hstored
    · exact Or.inr (hcommitted hlast)

/-- The result of a check that a run may record: that of its probe, or that of the soft time limit.
-/
def IsResultOf (task : Task) (script : Script) (monitorId : ℕ) (row : PingResult) : Prop :=
  (∃ monitor, row = probeResult task monitorId (script.probe monitor) script.now) ∨
    row = timeLimitResult task monitorId script.recoveryNow

/-- A transaction is a whole health check: it inserts a result of the monitor and sets the time of
its last check to that of the result and its status from the outcome of the result. -/
structure IsCheck (script : Script) (monitorId : ℕ) (transaction : Transaction) (row : PingResult) :
    Prop where
  result : IsResultOf .executePing script monitorId row
  ofMonitor : row.monitorId = monitorId
  checkType : row.checkType = .monitor
  stored : transaction.before.monitors.get monitorId ≠ none
  after : transaction.after =
    { monitors := transaction.before.monitors.modify monitorId fun stored ↦
        { stored with
          status := outcomeToStatus row.outcome
          lastCheckedAt := some row.checkedAt }
      pingResults := transaction.before.pingResults.insert row }

/-- The flush of a status over the row that was loaded. -/
theorem modify_flushStatus {loaded : Monitor} (hget : database.monitors.get monitorId = some loaded)
    (outcome : PingOutcome) (now : ℤ) :
    database.monitors.modify monitorId (flushStatus outcome now loaded) =
      database.monitors.modify monitorId fun stored ↦
        { stored with status := outcomeToStatus outcome, lastCheckedAt := some now } := by
  refine Table.modify_congr fun stored hstored ↦ ?_
  obtain rfl : loaded = stored := Option.some.inj (hget.symm.trans hstored)
  unfold flushStatus
  rw [flushColumn_self, flushColumn_self]

/-- What the first session of a health check commits. -/
theorem isCheck_runSession {loaded : Monitor} {dto : PingResultDTO}
    (hdone : Completes .executePing monitorId script.execution database loaded dto) :
    IsCheck script monitorId
      ⟨database, (runSession .executePing monitorId script.execution database).2⟩
      (probeResult .executePing monitorId dto script.now) := by
  obtain rfl : script.probe loaded = dto := Option.some.inj hdone.probe
  refine ⟨Or.inl ⟨loaded, rfl⟩, rfl, rfl, ?_, ?_⟩
  · exact Option.ne_none_iff_exists'.mpr ⟨loaded, hdone.gets.get⟩
  · rw [hdone.runSession_eq, flushProbe_executePing]
    exact congrArg (Database.mk · _) (modify_flushStatus hdone.gets.get _ _)

/-- What the recovery of a health check commits. -/
theorem isCheck_recoverTimeLimit {after : Database}
    (hrecover : recoverTimeLimit .executePing monitorId script.execution database = some after) :
    IsCheck script monitorId ⟨database, after⟩
      (timeLimitResult .executePing monitorId script.recoveryNow) := by
  obtain ⟨-, loaded, hget, rfl⟩ := recoverTimeLimit_eq_some_iff.mp hrecover
  refine ⟨Or.inr rfl, rfl, rfl, Option.ne_none_iff_exists'.mpr ⟨loaded, hget⟩, ?_⟩
  exact congrArg (Database.mk · _) (modify_flushStatus hget _ _)

/-- However a health check is interrupted, every transaction that it commits is a whole check, or
leaves the database. -/
theorem transaction_eq_or_isCheck (script : Script) (monitorId : ℕ) (database : Database) :
    ∀ transaction ∈ transactions .executePing script monitorId database,
      transaction.after = transaction.before ∨
        ∃ row, IsCheck script monitorId transaction row := by
  have hfirst : (finalState (probingWith .executePing script monitorId database)).database =
      database ∨ ∃ row, IsCheck script monitorId
        (transactionOf database (probingWith .executePing script monitorId database)) row := by
    unfold transactionOf
    rcases after_probing .executePing script monitorId database with hsame | hcommitted
    · exact Or.inl hsame
    · rcases runSession_cases .executePing monitorId script.execution database with
        ⟨loaded, dto, hdone⟩ | ⟨-, hsame⟩
      · rw [hcommitted]
        exact Or.inr ⟨_, isCheck_runSession hdone⟩
      · exact Or.inl (hcommitted.trans hsame)
  intro transaction hmem
  cases hstart : recoveryStart script (probingWith .executePing script monitorId database) with
  | none =>
    rw [(transactions_of_not_recovered hstart).1, List.mem_singleton] at hmem
    subst hmem
    exact hfirst
  | some worker =>
    rw [(transactions_of_recovered hstart).1, List.mem_pair] at hmem
    rcases hmem with rfl | rfl
    · rw [transactionOf, finalState_of_recoveryStart hstart] at hfirst
      exact hfirst
    · unfold transactionOf
      rcases after_recovering .executePing script monitorId worker with hsame | hrecovered
      · exact Or.inl hsame
      · exact Or.inr ⟨_, isCheck_recoverTimeLimit hrecovered⟩

/-- The second transaction of a health check that the soft time limit stops in its probe. -/
theorem transaction_eq_or_isCheck_stopped :
    ∃ transaction ∈ transactions .executePing (connectTimeoutScript true) 1 .oneMonitor,
      transaction.after.pingResults.rows.length = 1 ∧
        (transaction.after = transaction.before ∨
          ∃ row, IsCheck (connectTimeoutScript true) 1 transaction row) := by
  have hmem : ⟨.oneMonitor, committed .executePing (connectTimeoutScript true) 1 .oneMonitor⟩ ∈
      transactions .executePing (connectTimeoutScript true) 1 .oneMonitor :=
    List.mem_cons_of_mem _ (List.mem_singleton_self _)
  exact ⟨_, hmem, rfl, transaction_eq_or_isCheck _ _ _ _ hmem⟩

/-! ### A soft time limit before the commit -/

/-- Where nothing is raised after the commit of the probe, the first `with` statement raises before
it. -/
theorem database_of_early {raised : Raised} {worker : Worker}
    (hquiet : ∀ place, place.isLate = true → script.raisedAt .probing place = none)
    (hprobing : probingWith task script monitorId database = .error raised worker) :
    worker.database = database := by
  have hend : Ends _ _ (probingWith task script monitorId database) :=
    meets_getSyncDb_early database none (fails_session task monitorId) hquiet
      (fun _ failure hstored hreturned ↦ ⟨hstored, Or.inl ⟨hreturned, failure, rfl⟩⟩)
      (meets_probeSession task monitorId) ⟨database, .new, none⟩ ⟨rfl, rfl⟩
  rw [hprobing] at hend
  exact hend.1

/-! ### One soft time limit -/

/-- The soft time limit strikes at one place, and nothing else is raised. -/
def StrikesOnce (script : Script) (phase : Phase) (place : Point) : Prop :=
  script.raisedAt phase place = some .softTimeLimitExceeded ∧
    ∀ otherPhase other, (otherPhase, other) ≠ (phase, place) →
      script.raisedAt otherPhase other = none

/-- A transaction inserts the result of a successful check. -/
def Transaction.Succeeds (transaction : Transaction) : Prop :=
  ∃ row ∈ transaction.before.pingResults.addedSince transaction.after.pingResults,
    row.outcome = .up

/-- A transaction changes the database and leaves the monitor down. -/
def Transaction.LeavesDown (monitorId : ℕ) (transaction : Transaction) : Prop :=
  transaction.after ≠ transaction.before ∧
    (transaction.after.monitors.get monitorId).map Monitor.status = some .down

/-- A run commits at most one result, and does not set its monitor down after a successful one. -/
structure RecordsOnce (task : Task) (script : Script) (monitorId : ℕ) (database : Database) :
    Prop where
  oneResult : (database.pingResults.addedSince
    (committed task script monitorId database).pingResults).length ≤ 1
  staysUp : (transactions task script monitorId database).Pairwise fun first second ↦
    first.Succeeds → ¬ second.LeavesDown monitorId

/-- The soft time limit strikes once the result of a probe is committed. -/
def StrikesLate (task : Task) (script : Script) (monitorId : ℕ) (database : Database)
    (phase : Phase) (place : Point) : Prop :=
  phase = .probing ∧ place.isLate = true ∧
    ∃ loaded dto, Completes task monitorId script.execution database loaded dto

/-- A session adds at most one result. -/
theorem length_addedSince_runSession_le (task : Task) (monitorId : ℕ) (execution : Execution)
    (database : Database) :
    (database.pingResults.addedSince
      (runSession task monitorId execution database).2.pingResults).length ≤ 1 := by
  rcases runSession_cases task monitorId execution database with ⟨_, _, hdone⟩ | ⟨-, hsame⟩
  · rw [hdone.runSession_eq, Table.addedSince_insert le_rfl, Table.addedSince_self]
    exact le_rfl
  · rw [hsame, Table.addedSince_self]
    exact Nat.zero_le 1

/-- A recovery adds one result. -/
theorem addedSince_recoverTimeLimit {before after : Database} {execution : Execution}
    (hle : before.pingResults.nextKey ≤ database.pingResults.nextKey)
    (hrecover : recoverTimeLimit task monitorId execution database = some after) :
    before.pingResults.addedSince after.pingResults =
      before.pingResults.addedSince database.pingResults ++
        [timeLimitResult task monitorId execution.recoveryNow] := by
  obtain ⟨-, -, -, rfl⟩ := recoverTimeLimit_eq_some_iff.mp hrecover
  exact Table.addedSince_insert hle _

/-- A run whose first `with` statement raises only where it has committed nothing records once. -/
theorem recordsOnce_of_uncommitted
    (huncommitted : ∀ raised worker, probingWith task script monitorId database =
      .error raised worker → worker.database = database) :
    RecordsOnce task script monitorId database := by
  cases hstart : recoveryStart script (probingWith task script monitorId database) with
  | none =>
    obtain ⟨htransactions, hcommitted⟩ := transactions_of_not_recovered hstart
    refine ⟨?_, ?_⟩
    · rw [hcommitted]
      rcases after_probing task script monitorId database with hsame | hafter
      · rw [hsame, Table.addedSince_self]
        exact Nat.zero_le 1
      · rw [hafter]
        exact length_addedSince_runSession_le _ _ _ _
    · rw [htransactions]
      exact List.pairwise_singleton _ _
  | some worker =>
    obtain ⟨htransactions, hcommitted⟩ := transactions_of_recovered hstart
    have hworker : worker.database = database := by
      have hfinal := finalState_of_recoveryStart hstart
      cases hprobing : probingWith task script monitorId database with
      | ok taskEnd after =>
        rw [hprobing] at hstart
        nomatch hstart
      | error raised after =>
        rw [hprobing] at hfinal
        exact (congrArg Worker.database hfinal).symm.trans (huncommitted raised after hprobing)
    refine ⟨?_, ?_⟩
    · rw [hcommitted]
      rcases after_recovering task script monitorId worker with hsame | hafter
      · rw [hsame, hworker, Table.addedSince_self]
        exact Nat.zero_le 1
      · rw [hworker] at hafter
        rw [addedSince_recoverTimeLimit le_rfl hafter, Table.addedSince_self]
        exact le_rfl
    · rw [htransactions, hworker]
      refine List.pairwise_pair.mpr ?_
      rintro ⟨row, hrow, -⟩
      rw [Table.addedSince_self] at hrow
      nomatch hrow

/-! ### A soft time limit after the commit -/

/-- A `with` statement that the soft time limit interrupts once it has committed. -/
theorem getSyncDb_of_late {α : Type} {body : Run α} {value : α} {before : Worker}
    {after : Database} (worker : Worker) {place : Point}
    (hplace : place.isLate = true) (hstrike : StrikesOnce script phase place)
    (hbody : body { worker with session := .new } = .ok value before)
    (hflush : before.session.flush before.database = some after) :
    getSyncDb script phase body worker =
      .error (.failure .softTimeLimitExceeded) ⟨after, .new, before.returned⟩ := by
  obtain ⟨hraised, hquiet⟩ := hstrike
  have hother : ∀ other, other ≠ place → point script phase other = pure () := fun other hne ↦
    point_of_eq_none (hquiet phase other fun heq ↦ hne (Prod.mk.inj heq).2)
  have hpoint := point_of_eq_some hraised
  have hcommit : place ≠ .commit → commit script phase before =
      point script phase .committed ⟨after, .new, before.returned⟩ := fun hne ↦
    commit_of_flush (hquiet phase .commit fun heq ↦ hne (Prod.mk.inj heq).2.symm) hflush
  have htry : place ≠ .commit → place ≠ .committed →
      (do let value ← body; commit script phase; return value : Run α)
        { worker with session := .new } = .ok value ⟨after, .new, before.returned⟩ := by
    intro hne hlater
    have hdone := hcommit hne
    rw [hother .committed hlater.symm] at hdone
    exact (bind_of_ok hbody).trans (bind_of_ok hdone)
  unfold getSyncDb
  cases place with
  | committed =>
    have hdone := hcommit nofun
    rw [hpoint] at hdone
    have htry : (do let value ← body; commit script phase; return value : Run α)
        { worker with session := .new } =
          .error (.failure .softTimeLimitExceeded) ⟨after, .new, before.returned⟩ :=
      (bind_of_ok hbody).trans (bind_of_error hdone)
    rw [hother .enter nofun, hother .close nofun, hother .rollback nofun]
    exact (bind_resetSession _ _).trans (bind_of_error
      (tryFinally_of_error ((tryExcept_of_error htry).trans rfl) (closing_of_quiet _)))
  | close =>
    rw [hother .enter nofun, hpoint]
    exact (bind_resetSession _ _).trans (bind_of_error
      (tryFinally_of_cleanup (tryExcept_of_ok (htry nofun nofun)) (bind_of_error rfl)))
  | leave =>
    rw [hother .enter nofun, hother .close nofun, hpoint]
    exact (bind_resetSession _ _).trans ((bind_of_ok
      (tryFinally_of_ok (tryExcept_of_ok (htry nofun nofun)) (closing_of_quiet _))).trans
        (bind_of_error rfl))
  | _ => nomatch hplace

/-- A recovery in which nothing is raised commits what `recoverTimeLimit` does. -/
theorem recoveringWith_of_quiet (worker : Worker) {loaded : Monitor}
    (hget : worker.database.monitors.get monitorId = some loaded)
    (hquiet : ∀ place, script.raisedAt .recovering place = none) :
    recoverTimeLimit task monitorId script.execution worker.database =
      some (finalState (recoveringWith task script monitorId worker)).database := by
  have hrecover : recoverTimeLimit task monitorId script.execution worker.database = some _ :=
    recoverTimeLimit_eq_some_iff.mpr ⟨rfl, loaded, hget, rfl⟩
  have hflush : (Session.mk (some (monitorId, loaded,
      checkedIf true .down script.recoveryNow loaded))
        [timeLimitResult task monitorId script.recoveryNow]).flush worker.database =
      recoverTimeLimit task monitorId script.execution worker.database := by
    refine (flush_eq_commitResult worker.database loaded _ _).trans ?_
    unfold recoverTimeLimit
    rw [hget]
    rfl
  have hrecovering : recoveringWith task script monitorId worker = .ok () _ :=
    getSyncDb_of_quiet worker hquiet (recoverySession_of_quiet hget hquiet) (hflush.trans hrecover)
  rw [hrecovering]
  exact hrecover

/-- The first `with` statement, where the soft time limit strikes once it has committed the result
of the probe. -/
theorem probingWith_of_late {place : Point} {loaded : Monitor} {dto : PingResultDTO}
    (hplace : place.isLate = true) (hstrike : StrikesOnce script .probing place)
    (hdone : Completes task monitorId script.execution database loaded dto) :
    probingWith task script monitorId database = .error (.failure .softTimeLimitExceeded)
      ⟨(runSession task monitorId script.execution database).2, .new, some dto⟩ := by
  obtain rfl : script.probe loaded = dto := Option.some.inj hdone.probe
  have hretried : isRetried script.retries (script.probe loaded) = false := hdone.notRetried
  have hquiet : ∀ other, other.isLate = false → script.raisedAt .probing other = none := by
    intro other hother
    refine hstrike.2 .probing other fun heq ↦ ?_
    obtain rfl : other = place := (Prod.mk.inj heq).2
    exact absurd (hother.symm.trans hplace) Bool.false_ne_true
  have hbody := probeSession_of_gets hdone.gets hquiet
  rw [hretried, if_neg Bool.false_ne_true] at hbody
  exact getSyncDb_of_late ⟨database, .new, none⟩ hplace hstrike hbody (flush_probeSession hdone)

/-- A run that the soft time limit interrupts once the result of its probe is committed records that
result and the soft time limit. -/
theorem addedSince_of_late {place : Point} {loaded : Monitor} {dto : PingResultDTO}
    (hplace : place.isLate = true) (hstrike : StrikesOnce script .probing place)
    (hdone : Completes task monitorId script.execution database loaded dto) :
    database.pingResults.addedSince (committed task script monitorId database).pingResults =
      [probeResult task monitorId dto script.now,
        timeLimitResult task monitorId script.recoveryNow] := by
  have hprobing := probingWith_of_late hplace hstrike hdone
  have hquiet : ∀ other, script.raisedAt .recovering other = none := fun other ↦
    hstrike.2 .recovering other fun heq ↦ nomatch (Prod.mk.inj heq).1
  have hstart : recoveryStart script (probingWith task script monitorId database) =
      some ⟨(runSession task monitorId script.execution database).2, .new, some dto⟩ := by
    rw [hprobing]
    unfold recoveryStart
    dsimp only
    rw [hquiet .clock]
    rfl
  have hrun := congrArg Prod.snd hdone.runSession_eq
  dsimp only at hrun
  have hget : (runSession task monitorId script.execution database).2.monitors.get monitorId =
      some (flushProbe task dto.outcome script.now loaded loaded) := by
    rw [hrun, Table.get_modify, if_pos rfl, hdone.gets.get]
    rfl
  have hle : database.pingResults.nextKey ≤
      (runSession task monitorId script.execution database).2.pingResults.nextKey := by
    rw [hrun]
    exact Nat.le_succ _
  have hrecover : recoverTimeLimit task monitorId script.execution _ = some _ :=
    recoveringWith_of_quiet ⟨_, .new, some dto⟩ hget hquiet
  rw [(transactions_of_recovered hstart).2, addedSince_recoverTimeLimit hle hrecover, hrun,
    Table.addedSince_insert le_rfl, Table.addedSince_self]
  rfl

/-- A run that the soft time limit interrupts at one place records at most one result, and leaves a
successful one, unless the limit strikes once the result of the probe is committed. -/
theorem recordsOnce_iff {place : Point} (hstrike : StrikesOnce script phase place) :
    RecordsOnce task script monitorId database ↔
      ¬ StrikesLate task script monitorId database phase place := by
  constructor
  · rintro hrecords ⟨rfl, hplace, loaded, dto, hdone⟩
    have hle := hrecords.oneResult
    rw [addedSince_of_late hplace hstrike hdone] at hle
    exact absurd hle (Nat.not_succ_le_self 1)
  · intro hlate
    refine recordsOnce_of_uncommitted fun raised worker hprobing ↦ ?_
    by_cases hplace : phase = .probing ∧ place.isLate = true
    · -- the session that is committed has changed nothing
      rcases runSession_cases task monitorId script.execution database with
        ⟨loaded, dto, hdone⟩ | ⟨-, hsame⟩
      · exact absurd ⟨hplace.1, hplace.2, loaded, dto, hdone⟩ hlate
      · rcases after_probing task script monitorId database with hstored | hstored
        · rw [hprobing] at hstored
          exact hstored
        · rw [hprobing] at hstored
          exact hstored.trans hsame
    · refine database_of_early (fun other hother ↦ ?_) hprobing
      refine hstrike.2 .probing other fun heq ↦ hplace ?_
      obtain ⟨rfl, rfl⟩ := Prod.mk.inj heq
      exact ⟨rfl, hother⟩

/-- A run whose probe gets an answer. The soft time limit strikes at a place of its first
session. -/
def answeredScript (place : Point) : Script where
  retries := 0
  now := 0
  recoveryNow := 10
  probe := fun monitor ↦ ⟨.up, some 200, some 12, none, monitor.url, some monitor.url⟩
  raisedAt := fun phase other ↦
    if (phase, other) = (.probing, place) then some .softTimeLimitExceeded else none

theorem strikesOnce_answeredScript (place : Point) :
    StrikesOnce (answeredScript place) .probing place :=
  ⟨if_pos rfl, fun _ _ hne ↦ if_neg hne⟩

/-- A soft time limit in the probe is recorded once. -/
theorem recordsOnce_answeredScript :
    RecordsOnce .executePing (answeredScript .probe) 1 .oneMonitor := by
  refine (recordsOnce_iff (strikesOnce_answeredScript .probe)).mpr ?_
  rintro ⟨-, hplace, -⟩
  nomatch hplace

/-- A soft time limit after the commit is recorded next to the successful check, whose status it
replaces. -/
theorem late_limit_records_twice :
    StrikesOnce (answeredScript .committed) .probing .committed ∧
      (Database.oneMonitor.pingResults.addedSince (committed .executePing
        (answeredScript .committed) 1 .oneMonitor).pingResults).map PingResult.outcome =
          [.up, .down] ∧
      ((committed .executePing (answeredScript .committed) 1 .oneMonitor).monitors.get 1).map
        Monitor.status = some .down ∧
      ¬ RecordsOnce .executePing (answeredScript .committed) 1 .oneMonitor := by
  have hadded : (Database.oneMonitor.pingResults.addedSince (committed .executePing
      (answeredScript .committed) 1 .oneMonitor).pingResults).map PingResult.outcome =
        [.up, .down] := rfl
  refine ⟨strikesOnce_answeredScript .committed, hadded, rfl, ?_⟩
  rintro ⟨hle, -⟩
  rw [← List.length_map PingResult.outcome, hadded] at hle
  exact absurd hle (Nat.not_succ_le_self 1)

end PingGuard.ProbeTask
