import PingGuard.Concurrent.Latest
import PingGuard.Service

/-!
# What the API shows of the checks

`get_monitor` shows the status and the time of the last check of a monitor, and
`get_monitor_results` its checks, newest first. They come from two tables, which the workers write.
Where checks are committed in order the two responses fit together, in every state that overlapping
sweeps, probe tasks and requests reach (`results_tell`).
-/

set_option autoImplicit false
set_option relaxedAutoImplicit false

namespace PingGuard.Service

open Api Library.OrderedBatch Library.PyText Library.SerialTable Library.Transition Models
open ProbeTask Status

variable {database : Database} {monitorId : ℕ}

/-- The texts of the two types differ. -/
theorem checkTypeText_inj {first second : CheckType} :
    checkTypeText first = checkTypeText second ↔ first = second := by
  cases first <;> cases second <;> decide

/-- The results of a monitor of one type. -/
theorem mem_matchingResults_iff {checkType : CheckType} {row : ℕ × PingResult} :
    row ∈ matchingResults database monitorId (some (checkTypeText checkType)) ↔
      database.pingResults.get row.1 = some row.2 ∧ row.2.monitorId = monitorId ∧
        row.2.checkType = checkType := by
  have hasked : (some (checkTypeText checkType)).filter (· ≠ []) =
      some (checkTypeText checkType) := by cases checkType <;> rfl
  unfold matchingResults
  rw [hasked, List.mem_filter, Table.mem_rows_iff]
  simp only [Option.all_some, Bool.and_eq_true, decide_eq_true_eq, checkTypeText_inj]
  exact and_congr_right fun _ ↦ and_congr_right fun _ ↦ eq_comm

/-- A monitor that is found is stored. -/
theorem get_of_storedMonitor {path : ℤ} {row : ℕ × Monitor}
    (hrow : storedMonitor database path = .ok row) :
    database.monitors.get row.1 = some row.2 := by
  unfold storedMonitor at hrow
  cases hkey : pathId path with
  | error failure =>
    rw [hkey] at hrow
    nomatch hrow
  | ok key =>
    rw [hkey] at hrow
    simp only [bind, Except.bind] at hrow
    cases hget : database.monitors.get key with
    | none =>
      rw [hget] at hrow
      nomatch hrow
    | some monitor =>
      rw [hget] at hrow
      obtain rfl := Except.ok.inj hrow
      exact hget

/-- What `get_monitor` shows is a stored row. -/
theorem of_getMonitor {path : ℤ} {read : MonitorRead}
    (hread : (getMonitor database path).map Handled.content = .ok (.monitor read)) :
    storedMonitor database path = .ok (read.id, read.toMonitor) := by
  unfold getMonitor at hread
  cases hrow : storedMonitor database path with
  | error failure =>
    rw [hrow] at hread
    nomatch hread
  | ok row =>
    rw [hrow] at hread
    obtain rfl := Content.monitor.inj (Except.ok.inj hread)
    rfl

/-- What `get_monitor_results` shows are the latest results of the stored row. -/
theorem of_getMonitorResults {path limit : ℤ} {checkType : Option PyStr} {row : ℕ × Monitor}
    {reads : List PingResultRead} (hrow : storedMonitor database path = .ok row)
    (hreads : (getMonitorResults database path limit checkType).map Handled.content =
      .ok (.results reads)) :
    1 ≤ limit ∧ reads = (latestResults database row.1 limit.toNat checkType).map readResult := by
  unfold getMonitorResults at hreads
  split_ifs at hreads with hlimit
  · nomatch hreads
  · rw [hrow] at hreads
    exact ⟨by omega, (Content.results.inj (Except.ok.inj hreads)).symm⟩

/-- The results of a monitor that are shown are of the type that is asked for, newest first. -/
theorem pairwise_latestResults (limit : ℕ) (checkType : Option PyStr) :
    ((latestResults database monitorId limit checkType).map readResult).Pairwise
      fun earlier later ↦ later.checkedAt ≤ earlier.checkedAt := by
  rw [List.pairwise_map]
  exact pairwise_firstBy (fun row : ℕ × PingResult ↦ OrderDual.toDual row.2.checkedAt) limit _

/-- Where checks are committed in order, the first result that is shown has the time of the last
check. -/
theorem head?_latestResults {system : Concurrent.System} (htell : Concurrent.ResultsTell system)
    {monitor : Monitor} (hget : system.monitor monitorId = some monitor) {limit : ℕ}
    (hlimit : 0 < limit) :
    ((latestResults system.database monitorId limit
      (some (checkTypeText .monitor))).head?.map fun row ↦ row.2.checkedAt) =
        monitor.lastCheckedAt := by
  have hlatest := htell.latest monitorId monitor hget
  cases hhead : (latestResults system.database monitorId limit
      (some (checkTypeText .monitor))).head? with
  | none =>
    have hnone := (firstBy_eq_nil_iff hlimit).mp (List.head?_eq_none_iff.mp hhead)
    cases hlast : monitor.lastCheckedAt with
    | none => rfl
    | some last =>
      obtain ⟨key, result, hresult, hmonitorId, htype, -⟩ :=
        htell.ordered.rows monitorId monitor hget last hlast
      have hmem := mem_matchingResults_iff.mpr (⟨hresult, hmonitorId, htype⟩ :
        system.database.pingResults.get (key, result).1 = some (key, result).2 ∧ _ ∧ _)
      rw [hnone] at hmem
      exact absurd hmem List.not_mem_nil
  | some first =>
    have hfirst := mem_of_mem_firstBy (List.mem_of_mem_head? hhead)
    obtain ⟨hresult, hmonitorId, htype⟩ := mem_matchingResults_iff.mp hfirst
    obtain ⟨last, hlast, hle⟩ := hlatest.le first.2.checkedAt _
      ⟨first.1, first.2, hresult, hmonitorId, htype, rfl, rfl⟩
    obtain ⟨key, newest, hnewest, hnewestId, hnewestType, rfl, -⟩ :=
      htell.ordered.rows monitorId monitor hget last hlast
    have hge := le_of_mem_head?_firstBy hhead (mem_matchingResults_iff.mpr
      (⟨hnewest, hnewestId, hnewestType⟩ : system.database.pingResults.get (key, newest).1 =
        some (key, newest).2 ∧ _ ∧ _))
    rw [hlast]
    exact congrArg some (le_antisymm hle hge)

/-- What the API shows of a monitor and of its checks fits together. The checks are shown newest
first, and the first of them has the time of the last check. The monitor is pending until there is
one. And unless another check has the same time, its status is the one that the status code of the
first check stands for.
Assumes: the checks are committed in order, and what they commit is what their probes returned. -/
theorem results_tell {settings : Concurrent.Settings} {system : Concurrent.System}
    (hreaches : Reaches (Concurrent.step settings) Concurrent.ReportsInOrder
      (Concurrent.System.idle .empty) system) {path limit : ℤ} {read : MonitorRead}
    {reads : List PingResultRead}
    (hread : (getMonitor system.database path).map Handled.content = .ok (.monitor read))
    (hreads : (getMonitorResults system.database path limit
      (some (checkTypeText .monitor))).map Handled.content = .ok (.results reads)) :
    reads.Pairwise (fun earlier later ↦ later.checkedAt ≤ earlier.checkedAt) ∧
      reads.head?.map PingResultRead.checkedAt = read.lastCheckedAt ∧
      (read.status = .pending ↔ reads = []) ∧
      ∀ first ∈ reads.head?, (∀ key result, system.database.pingResults.get key = some result →
        result.monitorId = read.id → result.checkType = .monitor →
          result.checkedAt = first.checkedAt → key = first.id) →
        read.status = Concurrent.statusOfCode first.statusCode := by
  have htell := Concurrent.resultsTell_of_reaches hreaches
  have hrow := of_getMonitor hread
  have hget : system.monitor read.id = some read.toMonitor := get_of_storedMonitor hrow
  obtain ⟨hlimit, rfl⟩ := of_getMonitorResults hrow hreads
  have hhead := head?_latestResults htell hget (by omega : 0 < limit.toNat)
  have hshown : ((latestResults system.database read.id limit.toNat
      (some (checkTypeText .monitor))).map readResult).head?.map PingResultRead.checkedAt =
        read.lastCheckedAt := by
    rw [List.head?_map, Option.map_map]
    exact hhead
  refine ⟨pairwise_latestResults _ _, hshown, ?_, fun first hfirst honly ↦ ?_⟩
  · constructor
    · intro hpending
      rw [← List.head?_eq_none_iff, ← Option.map_eq_none_iff, hshown]
      by_contra hchecked
      obtain ⟨last, hlast⟩ := Option.ne_none_iff_exists'.mp hchecked
      obtain ⟨key, result, -, -, -, -, hstatus⟩ :=
        htell.ordered.rows read.id read.toMonitor hget last hlast
      exact outcomeToStatus_ne_pending result.outcome (hstatus.trans hpending)
    · intro hnone
      rw [hnone] at hshown
      exact (htell.latest read.id read.toMonitor hget).pending hshown.symm
  · -- the result that is recorded for the last check is the first one
    rw [hfirst, Option.map_some] at hshown
    obtain ⟨key, result, hresult, hmonitorId, htype, htime, hstatus⟩ :=
      htell.ordered.rows read.id read.toMonitor hget first.checkedAt hshown.symm
    obtain ⟨row, hrowHead, rfl⟩ :=
      Option.map_eq_some_iff.mp (List.head?_map.symm.trans hfirst)
    obtain ⟨hstored, -, -⟩ := mem_matchingResults_iff.mp
      (mem_of_mem_firstBy (List.mem_of_mem_head? hrowHead))
    have hkey : key = row.1 := honly key result hresult hmonitorId htype htime
    rw [hkey] at hresult
    obtain rfl := Option.some.inj (hresult.symm.trans hstored)
    exact hstatus.symm.trans (htell.codes row.1 row.2 hstored)

/-- What a probe of a site returns that answers with a status out of the standard range. -/
def oddResult : Net.PingResultDTO :=
  Net.classifiedResult "http://93.184.216.34/".toList "http://93.184.216.34/".toList 999
    (Net.latencyMs Net.oddStatusEnv 0)

/-- A monitor is created and loaded for two checks, and a sweep claims it. -/
def createdAndLoaded : List Concurrent.Action :=
  [.countMonitors Concurrent.siteCreate, .insertMonitor 1 0 0, .commitCreate 1,
    .loadProbe .executePing 1 5, .startSweep 5 1 1, .select 3 [1], .loadProbe .executePing 1 6,
    .commitClaim 3]

/-- The monitor and its checks, as the API shows them after the commits of both. -/
def checkedRead : MonitorRead :=
  { newMonitor Concurrent.siteCreate 0 with
    status := .down, lastCheckedAt := some 6, nextCheckAt := some (5 + seconds 60), id := 1 }

@[inherit_doc checkedRead]
def oddRead : PingResultRead := readResult (2, probeResult .executePing 1 oddResult 6)

@[inherit_doc checkedRead]
def earlierRead : PingResultRead := readResult (1, probeResult .executePing 1 oddResult 5)

/-- The monitor is down, as the status code of its last check says. -/
theorem results_tell_overlappingChecks : ∃ loaded first system,
    run (Concurrent.step .default) (Concurrent.System.idle .empty) createdAndLoaded =
      some loaded ∧
    Concurrent.step .default loaded (.commitProbe 2 oddResult) = some first ∧
    Concurrent.step .default first (.commitProbe 4 oddResult) = some system ∧
    (getMonitor system.database 1).map Handled.content = .ok (.monitor checkedRead) ∧
    (getMonitorResults system.database 1 50 (some (checkTypeText .monitor))).map Handled.content =
      .ok (.results [oddRead, earlierRead]) ∧
    checkedRead.status = Concurrent.statusOfCode (some 999) := by
  have hprobed : Concurrent.IsProbed oddResult :=
    ⟨⟨none, none⟩, Net.oddStatusEnv, Net.oneRedirectConfig, "http://93.184.216.34/".toList, rfl⟩
  have hother : ∀ label ∈ createdAndLoaded, ∀ state, Concurrent.ReportsInOrder state label := by
    intro label hlabel state
    simp only [createdAndLoaded, List.mem_cons, List.not_mem_nil, or_false] at hlabel
    rcases hlabel with rfl | rfl | rfl | rfl | rfl | rfl | rfl | rfl <;>
      exact ⟨trivial, fun _ _ heq ↦ Concurrent.Action.noConfusion heq⟩
  obtain ⟨loaded, first, system, created, checked, probe, hloaded, hearlier, hfirst, hlater,
    hsystem, hread, hreads, hrows⟩ : ∃ loaded first system created checked probe,
      run (Concurrent.step .default) (Concurrent.System.idle .empty) createdAndLoaded =
          some loaded ∧
        (loaded.processes.get 2 =
            some (.probe ⟨.executePing, 1, 5, newMonitor Concurrent.siteCreate 0, .probing⟩) ∧
          loaded.monitor 1 = some created ∧ created.lastCheckedAt = none) ∧
        Concurrent.step .default loaded (.commitProbe 2 oddResult) = some first ∧
        (first.processes.get 4 = some (.probe probe) ∧
          first.monitor probe.monitorId = some checked ∧
          checked.lastCheckedAt = some 5 ∧ probe.now = 6 ∧ probe.loaded.status = .pending) ∧
        Concurrent.step .default first (.commitProbe 4 oddResult) = some system ∧
        (getMonitor system.database 1).map Handled.content = .ok (.monitor checkedRead) ∧
        (getMonitorResults system.database 1 50 (some (checkTypeText .monitor))).map
          Handled.content = .ok (.results [oddRead, earlierRead]) ∧
        system.database.pingResults.rows.map (fun row ↦ (row.1, row.2.checkedAt)) =
          [(1, 5), (2, 6)] :=
    ⟨_, _, _, _, _, _, rfl, ⟨rfl, rfl, rfl⟩, rfl, ⟨rfl, rfl, rfl, rfl, rfl⟩, rfl, rfl, rfl, rfl⟩
  have hbefore : Concurrent.ReportsInOrder loaded (.commitProbe 2 oddResult) := by
    refine ⟨Concurrent.checkInOrder_commitProbe hearlier.1 hearlier.2.1
      (Or.inr (Or.inl ⟨?_, Or.inl nofun⟩)), ?_⟩
    · exact fun _ htime ↦ nomatch hearlier.2.2.symm.trans htime
    · rintro _ _ ⟨⟩
      exact hprobed
  have hafter : Concurrent.ReportsInOrder first (.commitProbe 4 oddResult) := by
    obtain ⟨hprocess, hstored, hlast, hnow, hstatus⟩ := hlater
    refine ⟨Concurrent.checkInOrder_commitProbe hprocess hstored (Or.inr (Or.inl ⟨?_, ?_⟩)), ?_⟩
    · intro time htime
      rw [hnow, ← Option.some.inj (hlast.symm.trans htime)]
      decide
    · rw [hstatus]
      exact Or.inl nofun
    · rintro _ _ ⟨⟩
      exact hprobed
  have hreaches : Reaches (Concurrent.step .default) Concurrent.ReportsInOrder
      (Concurrent.System.idle .empty) system :=
    ((reaches_of_run .start hother hloaded).step hbefore hfirst).step hafter hsystem
  refine ⟨loaded, first, system, hloaded, hfirst, hsystem, hread, hreads, ?_⟩
  refine (results_tell hreaches hread hreads).2.2.2 oddRead rfl ?_
  intro key result hget _ _ htime
  -- the other check has another time
  have hmem := List.mem_map_of_mem (f := fun row : ℕ × PingResult ↦ (row.1, row.2.checkedAt))
    ((Table.mem_rows_iff _ _ _).mpr hget)
  rw [hrows, htime] at hmem
  simpa [oddRead, readResult, probeResult] using hmem

end PingGuard.Service
