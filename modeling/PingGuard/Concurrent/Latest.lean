import PingGuard.Concurrent.History
import PingGuard.Net.Coherence

/-!
# The latest check

What the columns of a monitor and the results of its checks have to do with each other, while probe
tasks, sweeps and requests overlap. The outcome of a probe is stored nowhere. The status that was
made of it can still be read off a result, from its status code (`CodeTells`), because the fields of
a probe result agree. And where checks are committed in order, `last_checked_at` is the time of the
latest of them (`LatestKnown`). `resultsTell_of_reaches` has both for every run.
-/

set_option autoImplicit false
set_option relaxedAutoImplicit false

namespace PingGuard.Concurrent

open Library.SerialTable Library.Transition Models Net Overlap ProbeTask Status Sweep

variable {settings : Settings} {system next : System} {action : Action}

/-! ### Statuses and codes -/

/-- The status that a status code stands for: down, if there is none or it is out of the standard
range. -/
def statusOfCode (statusCode : Option ℤ) : MonitorStatus :=
  match statusCode with
  | none => .down
  | some code => outcomeToStatus ((classifyStatusCode code).getD .down)

/-- The status of the outcome of a result is the one that its status code stands for. -/
def CodeTells (result : PingResult) : Prop :=
  outcomeToStatus result.outcome = statusOfCode result.statusCode

/-- What a probe returned, for some server, resolver and clock. -/
def IsProbed (dto : PingResultDTO) : Prop :=
  ∃ faults env config url, (performHttpProbeWithClient faults env config url).result = .ok dto

/-- The code of a probe result tells the status. -/
theorem IsProbed.status_eq {dto : PingResultDTO} (hprobed : IsProbed dto) :
    outcomeToStatus dto.outcome = statusOfCode dto.statusCode := by
  obtain ⟨faults, env, config, url, hresult⟩ := hprobed
  have hcoherent := isCoherent_performHttpProbeWithClient faults env config url hresult
  unfold statusOfCode
  cases hcode : dto.statusCode with
  | none =>
    have hunreachable : dto.outcome = .unreachable := by
      by_contra hreached
      have hfinal := hcoherent.finalUrl_iff_outcome.mpr hreached
      have herror := hcoherent.errorDetail_iff_finalUrl.mpr hfinal
      exact hcoherent.statusCode_iff_errorDetail.mpr herror hcode
    rw [hunreachable]
    rfl
  | some code =>
    dsimp only
    by_cases hstandard : 100 ≤ code ∧ code ≤ 599
    · rw [hcoherent.outcome_of_standard code hcode hstandard]
      rfl
    · have hnone : classifyStatusCode code = none := by
        rw [← Option.not_isSome_iff_eq_none, classifyStatusCode_isSome_iff]
        omega
      rw [hcoherent.outcome_of_other code hcode hstandard, hnone]
      rfl

/-! ### What a commit records -/

/-- No check of a monitor is recorded that is later than its `last_checked_at`, and until there is
one the monitor is pending. -/
structure LatestKnown (results : Table PingResult) (monitorId : ℕ) (monitor : Monitor) : Prop where
  le : ∀ time status, IsRecorded results monitorId time status →
    ∃ last, monitor.lastCheckedAt = some last ∧ time ≤ last
  pending : monitor.lastCheckedAt = none → monitor.status = .pending

/-- The time of a check in order is no later than the last one afterwards. -/
theorem le_lastCheckedAt_flushStatus {results : Table PingResult} {outcome : PingOutcome}
    {run : ProbeRun} {stored : Monitor} (hloaded : ChecksAdvance run.loaded stored)
    (horder : CommitInOrder results outcome run stored) :
    ∃ last, (flushStatus outcome run.now run.loaded stored).lastCheckedAt = some last ∧
      run.now ≤ last := by
  rcases horder with hsame | ⟨hearlier, -⟩ | ⟨hunwritten, -⟩
  · refine ⟨run.now, lastCheckedAt_flushStatus_of_le hloaded fun time htime ↦ ?_, le_rfl⟩
    exact le_of_eq (Option.some.inj (htime.symm.trans hsame))
  · exact ⟨run.now, lastCheckedAt_flushStatus_of_le hloaded fun time htime ↦
      (hearlier time htime).le, le_rfl⟩
  · obtain ⟨later, hlater, hle⟩ := hloaded run.now hunwritten
    exact ⟨later, (lastCheckedAt_flushStatus_of_loaded hunwritten).trans hlater, hle⟩

/-- A check that is recorded after a step was so before, or the step commits it, and then it is no
later than the `last_checked_at` of its monitor. -/
theorem isRecorded_of_next (hordered : ChecksOrdered system) (hallowed : CheckInOrder system action)
    (htransition : Transition settings system action next) {monitorId : ℕ} {time : ℤ}
    {status : MonitorStatus}
    (hrecorded : IsRecorded next.database.pingResults monitorId time status) :
    IsRecorded system.database.pingResults monitorId time status ∨
      ∃ monitor last, next.monitor monitorId = some monitor ∧
        monitor.lastCheckedAt = some last ∧ time ≤ last := by
  cases htransition with
  | probed processId run after rewrite result stored hbefore hcommit hstored hunlocked =>
    rcases isRecorded_insert_iff.mp hrecorded with hold | ⟨hmonitorId, htype, htime, -⟩
    · exact Or.inl hold
    · have hloaded := (hordered.loads processId run hbefore).2 stored hstored
      have hflushed : result.monitorId = run.monitorId → result.checkedAt = run.now →
          (∃ last, (rewrite stored).lastCheckedAt = some last ∧ run.now ≤ last) →
            ∃ monitor last, (system.database.monitors.modify run.monitorId rewrite).get monitorId =
              some monitor ∧ monitor.lastCheckedAt = some last ∧ time ≤ last := by
        rintro hrun hnow ⟨last, hlast, hle⟩
        refine ⟨rewrite stored, last, ?_, hlast, by rw [← htime, hnow]; exact hle⟩
        have hkey : run.monitorId = monitorId := hrun.symm.trans hmonitorId
        rw [Table.get_modify, if_pos hkey.symm, ← hkey]
        exact congrArg (Option.map rewrite) hstored
      refine Or.inr ?_
      cases hcommit with
      | probe dto hstage =>
        -- a keep-alive request records no check
        have htask : run.task = .executePing := by
          cases hother : run.task with
          | executePing => rfl
          | executeKeepAlive => exact absurd htype (by simp [probeResult, hother, Task.checkType])
        refine hflushed rfl rfl ?_
        rw [htask, flushProbe_executePing]
        exact le_lastCheckedAt_flushStatus hloaded (hallowed run stored hbefore hstored htask)
      | timeLimit hstage =>
        exact hflushed rfl rfl (le_lastCheckedAt_flushStatus hloaded
          (hallowed run stored hbefore hstored).2)
  | deleted processId deletedId hbefore hunlocked =>
    obtain ⟨key, result, hget, hresult⟩ := hrecorded
    have hfilter := (Table.get_filterRows _ _ _).symm.trans hget
    exact Or.inl ⟨key, result, (Option.filter_eq_some_iff.mp hfilter).1, hresult⟩
  | _ => exact Or.inl hrecorded

/-- A row after a step in order that no check was committed for is as pending as it was. -/
theorem pending_of_next (hordered : ChecksOrdered system) (hallowed : CheckInOrder system action)
    (htransition : Transition settings system action next) {monitorId : ℕ} {monitor : Monitor}
    (hget : next.monitor monitorId = some monitor)
    (hbefore : ∀ stored, system.monitor monitorId = some stored →
      stored.lastCheckedAt = none → stored.status = .pending)
    (hnone : monitor.lastCheckedAt = none) : monitor.status = .pending := by
  have hkept : ∀ stored, system.monitor monitorId = some stored →
      monitor.status = stored.status → monitor.lastCheckedAt = stored.lastCheckedAt →
        monitor.status = .pending := fun stored hstored hstatus hlast ↦
    hstatus.trans (hbefore stored hstored (hlast.symm.trans hnone))
  obtain ⟨writers, hrow, -⟩ :=
    rowStep_of_transition hordered.locks hordered.items htransition hget
  cases hrow with
  | kept monitor hstored => exact hkept monitor hstored rfl rfl
  | claimed processId run interval before hprocess hstored hdue hclaim =>
    apply hkept before hstored <;> cases run.schedule <;> rfl
  | recovered processId run items interval before hprocess hstage hitem hstored =>
    apply hkept before hstored <;> cases run.schedule <;> rfl
  | created processId row hprocess hreserved => rfl
  | updated processId payload loaded stored monitor now hprocess hstored hcommit =>
    obtain ⟨draft, -, -, hflushed⟩ := Api.commitUpdate_eq_ok hcommit
    exact hkept stored hstored hflushed.status hflushed.lastCheckedAt
  | probed processId run after rewrite result stored hprocess hcommit hmonitorId hstored hresults =>
    subst hmonitorId
    have hloaded := (hordered.loads processId run hprocess).2 stored hstored
    cases hcommit with
    | probe dto hstage =>
      cases htask : run.task with
      | executePing =>
        rw [htask, flushProbe_executePing] at hnone
        obtain ⟨last, hlast, -⟩ := le_lastCheckedAt_flushStatus hloaded
          (hallowed run stored hprocess hstored htask)
        exact absurd (hlast.symm.trans hnone) (Option.some_ne_none last)
      | executeKeepAlive =>
        rw [htask, flushProbe_executeKeepAlive] at hnone
        rw [flushProbe_executeKeepAlive]
        exact hbefore stored hstored hnone
    | timeLimit hstage =>
      obtain ⟨last, hlast, -⟩ := le_lastCheckedAt_flushStatus hloaded
        (hallowed run stored hprocess hstored).2
      exact absurd (hlast.symm.trans hnone) (Option.some_ne_none last)

/-! ### Every step -/

/-- The checks are committed in order, and what they commit is what their probes returned. -/
def ReportsInOrder (system : System) (action : Action) : Prop :=
  CheckInOrder system action ∧ ∀ processId dto, action = .commitProbe processId dto → IsProbed dto

/-- What runs with such checks keep. -/
structure ResultsTell (system : System) : Prop where
  ordered : ChecksOrdered system
  refers : ResultsRefer system.database
  latest : ∀ monitorId monitor, system.monitor monitorId = some monitor →
    LatestKnown system.database.pingResults monitorId monitor
  codes : ∀ key result, system.database.pingResults.get key = some result → CodeTells result

/-- Before the first request there is nothing to tell. -/
theorem ResultsTell.empty : ResultsTell (System.idle .empty) where
  ordered := ⟨LocksHold.idle .empty, fun _ _ hget ↦ (nomatch hget), fun _ _ hget ↦ (nomatch hget),
    fun _ _ hget ↦ (nomatch hget)⟩
  refers := fun _ _ hget ↦ nomatch hget
  latest := fun _ _ hget ↦ nomatch hget
  codes := fun _ _ hget ↦ nomatch hget

/-- A result after a step is an old one, or that of a probe or of the soft time limit. -/
theorem codeTells_of_transition (hallowed : ReportsInOrder system action)
    (hcodes : ∀ key result, system.database.pingResults.get key = some result → CodeTells result)
    (htransition : Transition settings system action next) {key : ℕ} {result : PingResult}
    (hget : next.database.pingResults.get key = some result) : CodeTells result := by
  cases htransition with
  | probed processId run after rewrite committed stored hbefore hcommit hstored hunlocked =>
    have hinserted := (Table.get_insert _ _ _).symm.trans hget
    split_ifs at hinserted with hkey
    · obtain rfl := Option.some.inj hinserted
      cases hcommit with
      | probe dto hstage => exact (hallowed.2 processId dto rfl).status_eq
      | timeLimit hstage => rfl
    · exact hcodes key result hinserted
  | deleted processId deletedId hbefore hunlocked =>
    have hfilter := (Table.get_filterRows _ _ _).symm.trans hget
    exact hcodes key result (Option.filter_eq_some_iff.mp hfilter).1
  | _ => exact hcodes key result hget

/-- Every step keeps it. -/
theorem ResultsTell.step (htell : ResultsTell system) (hallowed : ReportsInOrder system action)
    (htransition : Transition settings system action next) : ResultsTell next where
  ordered := htell.ordered.step hallowed.1 htransition
  refers := (historyKept_of_transition htell.refers htransition).refers
  latest := by
    intro monitorId monitor hget
    have hadvance := (htell.ordered.row hallowed.1 htransition hget).2.1
    refine ⟨fun time status hrecorded ↦ ?_, ?_⟩
    · rcases isRecorded_of_next htell.ordered hallowed.1 htransition hrecorded with
        hold | ⟨other, last, hother, hlast, hle⟩
      · -- the monitor of an old result was stored
        obtain ⟨key, result, hresult, rfl, -⟩ := id hold
        obtain ⟨stored, hstored⟩ :=
          Option.ne_none_iff_exists'.mp (htell.refers key result hresult)
        obtain ⟨last, hlast, hle⟩ := (htell.latest _ stored hstored).le time status hold
        obtain ⟨later, hlater, hle'⟩ := hadvance stored hstored last hlast
        exact ⟨later, hlater, hle.trans hle'⟩
      · obtain rfl := Option.some.inj (hother.symm.trans hget)
        exact ⟨last, hlast, hle⟩
    · exact pending_of_next htell.ordered hallowed.1 htransition hget
        fun stored hstored ↦ (htell.latest monitorId stored hstored).pending
  codes := fun _ _ hget ↦ codeTells_of_transition hallowed htell.codes htransition hget

/-- Every run from an empty database keeps it. -/
theorem resultsTell_of_reaches
    (hreaches : Reaches (step settings) ReportsInOrder (System.idle .empty) system) :
    ResultsTell system := by
  refine hreaches.invariant (motive := ResultsTell) .empty ?_
  intro state label after htell hallowed hstep
  exact htell.step hallowed (transition_of_step hstep)

end PingGuard.Concurrent
