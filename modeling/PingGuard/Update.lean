import PingGuard.Api
import PingGuard.Sweep

/-!
# What an update writes

`draftUpdate` and `Draft.flush` taken apart: which attributes an update leaves on the row object,
and what of them ends in the row. The loaded row and the stored row may differ here, because another
transaction may have committed between the load and the flush.

Two things are consistent in a row: the keep-alive time is set exactly when keep-alive is enabled,
`KeepAliveTimed`, and the rules accept the configuration, `RulesAccept`. The first survives any
interleaving of updates. The second does not; `CommitIsSafe` says when it does, and
`rulesAccept_commitUpdate_iff` proves it exact.
-/

set_option autoImplicit false
set_option relaxedAutoImplicit false

namespace PingGuard.Api

open Library.PyText Models Schemas Status Sweep

variable {payload : MonitorUpdate} {now : ℤ} {loaded stored monitor : Monitor} {draft : Draft}

/-! ### The reset -/

/-- A payload that does not disable keep-alive is left as it is. -/
theorem resetOnDisable_of_ne (hkept : payload.keepAliveEnabled ≠ .value false) :
    resetOnDisable loaded payload = payload :=
  if_neg hkept

/-- The attributes that no reset touches. -/
theorem resetOnDisable_kept (loaded : Monitor) (payload : MonitorUpdate) :
    (resetOnDisable loaded payload).name = payload.name ∧
      (resetOnDisable loaded payload).checkIntervalSeconds = payload.checkIntervalSeconds ∧
      (resetOnDisable loaded payload).keepAliveEnabled = payload.keepAliveEnabled := by
  unfold resetOnDisable
  split_ifs <;> exact ⟨rfl, rfl, rfl⟩

/-- The reset makes up no intervals. -/
theorem interval_of_resetOnDisable {interval : ℤ}
    (hvalue : (resetOnDisable loaded payload).keepAliveIntervalSeconds = .value interval) :
    payload.keepAliveIntervalSeconds = .value interval := by
  unfold resetOnDisable at hvalue
  split_ifs at hvalue
  · exact Field.orElse_null_eq_value hvalue
  · exact Field.orElse_null_eq_value hvalue
  · exact hvalue

/-- The reset makes up no paths. -/
theorem path_of_resetOnDisable {path : PyStr}
    (hvalue : (resetOnDisable loaded payload).keepAlivePath = .value path) :
    payload.keepAlivePath = .value path := by
  unfold resetOnDisable at hvalue
  split_ifs at hvalue
  · exact Field.orElse_null_eq_value hvalue
  · exact Field.orElse_null_eq_value hvalue
  · exact hvalue

/-! ### Drafts -/

/-- A draft holds what the payload sets, over the loaded row, and the rules accept it. -/
structure IsDraft (payload : MonitorUpdate) (now : ℤ) (loaded : Monitor) (draft : Draft) :
    Prop where
  name : draft.name = (resetOnDisable loaded payload).name.getD (some loaded.name)
  checkIntervalSeconds : draft.checkIntervalSeconds =
    (resetOnDisable loaded payload).checkIntervalSeconds.getD (some loaded.checkIntervalSeconds)
  mode : some draft.mode = (resetOnDisable loaded payload).mode.getD (some loaded.mode)
  keepAliveEnabled : draft.keepAliveEnabled =
    (resetOnDisable loaded payload).keepAliveEnabled.getD (some loaded.keepAliveEnabled)
  keepAliveIntervalSeconds : draft.keepAliveIntervalSeconds =
    (resetOnDisable loaded payload).keepAliveIntervalSeconds.getD loaded.keepAliveIntervalSeconds
  keepAlivePath : draft.keepAlivePath =
    (resetOnDisable loaded payload).keepAlivePath.getD loaded.keepAlivePath
  nextKeepAliveAt : draft.nextKeepAliveAt = syncNextKeepAliveAt loaded draft.keepAliveEnabled now
  accepted : validateKeepAliveRules (some draft.mode) draft.keepAliveEnabled
    draft.keepAliveIntervalSeconds draft.keepAlivePath true = none

/-- The draft of an update that is not refused. -/
theorem draftUpdate_eq_ok (hdraft : draftUpdate loaded payload now = .ok draft) :
    IsDraft payload now loaded draft := by
  unfold draftUpdate at hdraft
  dsimp only at hdraft
  split at hdraft
  · nomatch hdraft
  · rename_i targetMode hmode
    split at hdraft
    · nomatch hdraft
    · rename_i haccepted
      obtain rfl := Except.ok.inj hdraft
      exact ⟨rfl, rfl, hmode.symm, rfl, rfl, rfl, rfl, haccepted⟩

/-! ### Flushes -/

/-- A column that may not be null gets a value or is not flushed. -/
theorem flushColumn_eq_some {α : Type} [DecidableEq α] {loaded stored final : α}
    {drafted : Option α}
    (hflush : flushColumn (some loaded) drafted (some stored) = some final) :
    ∃ value, drafted = some value ∧ final = flushColumn loaded value stored := by
  cases drafted with
  | none => nomatch hflush
  | some value =>
    refine ⟨value, rfl, ?_⟩
    unfold flushColumn at hflush ⊢
    simp only [Option.some.injEq] at hflush
    split_ifs at hflush ⊢ with heq
    · exact (Option.some.inj hflush).symm
    · exact (Option.some.inj hflush).symm

/-- The row after a flush: a column of the draft that differs from the loaded one, and otherwise the
stored one. -/
structure IsFlushed (draft : Draft) (loaded stored monitor : Monitor) : Prop where
  checkIntervalSeconds : ∃ value, draft.checkIntervalSeconds = some value ∧
    monitor.checkIntervalSeconds =
      flushColumn loaded.checkIntervalSeconds value stored.checkIntervalSeconds
  keepAliveEnabled : ∃ value, draft.keepAliveEnabled = some value ∧
    monitor.keepAliveEnabled = flushColumn loaded.keepAliveEnabled value stored.keepAliveEnabled
  mode : monitor.mode = flushColumn loaded.mode draft.mode stored.mode
  keepAliveIntervalSeconds : monitor.keepAliveIntervalSeconds =
    flushColumn loaded.keepAliveIntervalSeconds draft.keepAliveIntervalSeconds
      stored.keepAliveIntervalSeconds
  keepAlivePath : monitor.keepAlivePath =
    flushColumn loaded.keepAlivePath draft.keepAlivePath stored.keepAlivePath
  nextKeepAliveAt : monitor.nextKeepAliveAt =
    flushColumn loaded.nextKeepAliveAt draft.nextKeepAliveAt stored.nextKeepAliveAt
  url : monitor.url = stored.url
  status : monitor.status = stored.status
  lastCheckedAt : monitor.lastCheckedAt = stored.lastCheckedAt
  nextCheckAt : monitor.nextCheckAt = stored.nextCheckAt
  fits : monitor.fitsColumns = true

/-- The row after a flush that the database accepts. -/
theorem flush_eq_some (hflush : draft.flush loaded stored = some monitor) :
    IsFlushed draft loaded stored monitor := by
  unfold Draft.flush at hflush
  simp only [Option.bind_eq_bind, Option.bind_eq_some_iff] at hflush
  obtain ⟨name, -, checkInterval, hcheckInterval, enabled, henabled, hfits⟩ := hflush
  split_ifs at hfits with hcolumns
  obtain rfl := Option.some.inj hfits
  exact ⟨flushColumn_eq_some hcheckInterval, flushColumn_eq_some henabled, rfl, rfl, rfl, rfl, rfl,
    rfl, rfl, rfl, hcolumns⟩

/-- An update that is committed has a draft, which is flushed. -/
theorem commitUpdate_eq_ok (hcommit : commitUpdate payload now loaded stored = .ok monitor) :
    ∃ draft, draftUpdate loaded payload now = .ok draft ∧ IsDraft payload now loaded draft ∧
      IsFlushed draft loaded stored monitor := by
  unfold commitUpdate at hcommit
  split at hcommit
  · nomatch hcommit
  · rename_i draft hdraft
    split at hcommit
    · nomatch hcommit
    · rename_i final hflush
      obtain rfl := Except.ok.inj hcommit
      exact ⟨draft, hdraft, draftUpdate_eq_ok hdraft, flush_eq_some hflush⟩

/-! ### The keep-alive time -/

/-- A row has a keep-alive time exactly when keep-alive is enabled. -/
def KeepAliveTimed (monitor : Monitor) : Prop :=
  monitor.nextKeepAliveAt.isSome = monitor.keepAliveEnabled

/-- An update that enables or disables keep-alive changes the keep-alive time, and no other does. -/
theorem nextKeepAliveAt_draft_eq_iff (hloaded : KeepAliveTimed loaded) {enabled : Bool}
    (hdraft : IsDraft payload now loaded draft) (henabled : draft.keepAliveEnabled = some enabled) :
    draft.nextKeepAliveAt.isSome = enabled ∧
      (draft.nextKeepAliveAt = loaded.nextKeepAliveAt ↔ enabled = loaded.keepAliveEnabled) := by
  rw [hdraft.nextKeepAliveAt, henabled]
  unfold KeepAliveTimed at hloaded
  unfold syncNextKeepAliveAt
  cases enabled with
  | true =>
    rw [if_pos rfl]
    split_ifs with hnone
    · rw [hnone] at hloaded
      refine ⟨rfl, ?_⟩
      rw [hnone, ← hloaded]
      simp
    · have hsome := Option.isSome_iff_ne_none.mpr hnone
      exact ⟨hsome, fun _ ↦ (hloaded.symm.trans hsome).symm, fun _ ↦ rfl⟩
  | false =>
    rw [if_neg (by simp)]
    refine ⟨rfl, ?_⟩
    rw [← hloaded]
    cases loaded.nextKeepAliveAt <;> simp

/-- The keep-alive time stays in step with keep-alive in every interleaving of updates: the two
columns are written together or not at all. -/
theorem keepAliveTimed_commitUpdate (hloaded : KeepAliveTimed loaded)
    (hstored : KeepAliveTimed stored)
    (hcommit : commitUpdate payload now loaded stored = .ok monitor) : KeepAliveTimed monitor := by
  obtain ⟨draft, -, hdraft, hflushed⟩ := commitUpdate_eq_ok hcommit
  obtain ⟨enabled, henabled, hmonitor⟩ := hflushed.keepAliveEnabled
  obtain ⟨hsome, hiff⟩ := nextKeepAliveAt_draft_eq_iff hloaded hdraft henabled
  unfold KeepAliveTimed at *
  rw [hflushed.nextKeepAliveAt, hmonitor]
  by_cases heq : enabled = loaded.keepAliveEnabled
  · rw [hiff.mpr heq, heq, flushColumn_unchanged, flushColumn_unchanged, hstored]
  · rw [flushColumn_of_ne (fun h ↦ heq (hiff.mp h)), flushColumn_of_ne heq, hsome]

/-- An update that leaves `keep_alive_enabled` out does not change the keep-alive time. -/
theorem nextKeepAliveAt_draft_of_omitted (hloaded : KeepAliveTimed loaded)
    (hpayload : payload.keepAliveEnabled = .omitted) (hdraft : IsDraft payload now loaded draft) :
    draft.nextKeepAliveAt = loaded.nextKeepAliveAt := by
  have hreset : resetOnDisable loaded payload = payload :=
    resetOnDisable_of_ne (by rw [hpayload]; nofun)
  have henabled : draft.keepAliveEnabled = some loaded.keepAliveEnabled := by
    rw [hdraft.keepAliveEnabled, hreset, hpayload]
    rfl
  exact (nextKeepAliveAt_draft_eq_iff hloaded hdraft henabled).2.mpr rfl

/-! ### The intervals -/

/-- Both intervals of a row meet a condition. -/
def IntervalsMeet (condition : ℤ → Prop) (monitor : Monitor) : Prop :=
  condition monitor.checkIntervalSeconds ∧
    ∀ interval, monitor.keepAliveIntervalSeconds = some interval → condition interval

/-- An interval that an update changes was validated. -/
theorem intervalsMeet_commitUpdate {condition : ℤ → Prop}
    (hcondition : ∀ interval, isInterval interval = true → condition interval)
    (haccepted : payload.isAccepted = true) (hstored : IntervalsMeet condition stored)
    (hcommit : commitUpdate payload now loaded stored = .ok monitor) :
    IntervalsMeet condition monitor := by
  obtain ⟨draft, -, hdraft, hflushed⟩ := commitUpdate_eq_ok hcommit
  unfold MonitorUpdate.isAccepted at haccepted
  simp only [Bool.and_eq_true] at haccepted
  obtain ⟨⟨⟨⟨-, hcheck⟩, hkeepAlive⟩, -⟩, -⟩ := haccepted
  refine ⟨?_, ?_⟩
  · obtain ⟨value, hvalue, hmonitor⟩ := hflushed.checkIntervalSeconds
    rw [hdraft.checkIntervalSeconds, (resetOnDisable_kept loaded payload).2.1] at hvalue
    rw [hmonitor]
    unfold flushColumn
    split_ifs with heq
    · exact hstored.1
    · rcases Field.getD_eq_some hvalue with hpayload | ⟨-, hloaded⟩
      · rw [hpayload] at hcheck
        exact hcondition value hcheck
      · exact absurd (Option.some.inj hloaded).symm heq
  · intro interval hinterval
    rw [hflushed.keepAliveIntervalSeconds] at hinterval
    unfold flushColumn at hinterval
    split_ifs at hinterval with heq
    · exact hstored.2 interval hinterval
    · rw [hdraft.keepAliveIntervalSeconds] at heq hinterval
      rcases Field.getD_eq_some hinterval with hvalue | ⟨-, hloaded⟩
      · rw [interval_of_resetOnDisable hvalue] at hkeepAlive
        exact hcondition interval hkeepAlive
      · exact absurd (hinterval.trans hloaded.symm) heq

/-- The intervals of a new row were validated. -/
theorem intervalsMeet_newMonitor {condition : ℤ → Prop}
    (hcondition : ∀ interval, isInterval interval = true → condition interval)
    {tables : UnicodeTables} {payload : MonitorCreate}
    (haccepted : payload.isAccepted tables = true) (now : ℤ) :
    IntervalsMeet condition (newMonitor payload now) := by
  unfold MonitorCreate.isAccepted at haccepted
  simp only [Bool.and_eq_true] at haccepted
  obtain ⟨⟨⟨⟨-, hcheck⟩, hkeepAlive⟩, -⟩, -⟩ := haccepted
  refine ⟨hcondition _ hcheck, fun interval hinterval ↦ hcondition interval ?_⟩
  have hpayload : payload.keepAliveIntervalSeconds = some interval := hinterval
  rw [hpayload] at hkeepAlive
  exact hkeepAlive

/-! ### The rules -/

/-- The rules accept the configuration of a row. -/
def RulesAccept (monitor : Monitor) : Prop :=
  validateKeepAliveRules (some monitor.mode) (some monitor.keepAliveEnabled)
    monitor.keepAliveIntervalSeconds monitor.keepAlivePath true = none

/-- The rules for an enabled row. -/
theorem rulesAccept_enabled_iff (henabled : monitor.keepAliveEnabled = true) :
    RulesAccept monitor ↔
      monitor.mode.isKeepAlive = true ∧ monitor.keepAliveIntervalSeconds ≠ none := by
  rw [RulesAccept, henabled, validateKeepAliveRules_enabled_iff]

/-- The rules for a disabled row. -/
theorem rulesAccept_disabled_iff (hdisabled : monitor.keepAliveEnabled = false) :
    RulesAccept monitor ↔ monitor.mode = .monitor ∧ monitor.keepAliveIntervalSeconds = none ∧
      monitor.keepAlivePath = none := by
  rw [RulesAccept, hdisabled, validateKeepAliveRules_disabled_iff]

/-- The configuration of a new row was validated. -/
theorem rulesAccept_newMonitor {tables : UnicodeTables} {payload : MonitorCreate}
    (haccepted : payload.isAccepted tables = true) (now : ℤ) :
    RulesAccept (newMonitor payload now) := by
  unfold MonitorCreate.isAccepted at haccepted
  exact Option.isNone_iff_eq_none.mp (Bool.and_eq_true_iff.mp haccepted).2

/-- When an update may be committed over a row that another update has changed since it was loaded.
An update that leaves a loaded row enabled, over a row disabled by then, changes neither mode nor
interval and sets no path. An update that disables a row loaded without a path is not committed over
an enabled row with a path. -/
def CommitIsSafe (payload : MonitorUpdate) (loaded stored : Monitor) : Prop :=
  (payload.keepAliveEnabled ≠ .value false → loaded.keepAliveEnabled = true →
    stored.keepAliveEnabled = false →
      payload.mode.getD (some loaded.mode) = some loaded.mode ∧
        payload.keepAliveIntervalSeconds.getD loaded.keepAliveIntervalSeconds =
          loaded.keepAliveIntervalSeconds ∧
        (payload.keepAlivePath.getD loaded.keepAlivePath = loaded.keepAlivePath ∨
          payload.keepAlivePath.getD loaded.keepAlivePath = none)) ∧
  (payload.keepAliveEnabled = .value false → loaded.keepAliveEnabled = true →
    stored.keepAliveEnabled = true → loaded.keepAlivePath = none → stored.keepAlivePath = none)

/-- An update may be committed over the row that it has loaded. -/
theorem commitIsSafe_self (payload : MonitorUpdate) (loaded : Monitor) :
    CommitIsSafe payload loaded loaded :=
  ⟨fun _ henabled hdisabled ↦ absurd (henabled.symm.trans hdisabled) nofun,
    fun _ _ _ hpath ↦ hpath⟩

/-- Keep-alive is disabled by a draft over an enabled row exactly when the payload says so. -/
theorem draft_disables_iff {enabled : Bool} (hdraft : IsDraft payload now loaded draft)
    (henabled : draft.keepAliveEnabled = some enabled) (hloaded : loaded.keepAliveEnabled = true) :
    enabled = false ↔ payload.keepAliveEnabled = .value false := by
  have hvalue := hdraft.keepAliveEnabled
  rw [henabled, (resetOnDisable_kept loaded payload).2.2, hloaded] at hvalue
  cases hpayload : payload.keepAliveEnabled with
  | omitted =>
    rw [hpayload] at hvalue
    obtain rfl := Option.some.inj hvalue
    simp
  | null =>
    rw [hpayload] at hvalue
    nomatch hvalue
  | value value =>
    rw [hpayload] at hvalue
    obtain rfl := Option.some.inj hvalue
    simp

/-- Over a row loaded disabled, an update keeps the rules: it writes nothing of the configuration,
or all that an enabled row needs. -/
theorem rulesAccept_flushed_of_disabled {enabled : Bool} (hloaded : RulesAccept loaded)
    (hdisabled : loaded.keepAliveEnabled = false) (hstored : RulesAccept stored)
    (hdraft : IsDraft payload now loaded draft) (henabled : draft.keepAliveEnabled = some enabled)
    (hmonitor : monitor.keepAliveEnabled =
      flushColumn loaded.keepAliveEnabled enabled stored.keepAliveEnabled)
    (hflushed : IsFlushed draft loaded stored monitor) : RulesAccept monitor := by
  have haccepted := hdraft.accepted
  rw [henabled] at haccepted
  rw [rulesAccept_disabled_iff hdisabled] at hloaded
  obtain ⟨hmode, hinterval, hpath⟩ := hloaded
  cases enabled with
  | false =>
    rw [validateKeepAliveRules_disabled_iff] at haccepted
    obtain ⟨hdraftMode, hdraftInterval, hdraftPath⟩ := haccepted
    unfold RulesAccept at hstored ⊢
    rw [hmonitor, hflushed.mode, hflushed.keepAliveIntervalSeconds, hflushed.keepAlivePath,
      hdisabled, hdraftMode, hdraftInterval, hdraftPath, hmode, hinterval, hpath]
    simp only [flushColumn_unchanged]
    exact hstored
  | true =>
    rw [validateKeepAliveRules_enabled_iff] at haccepted
    have hmonitorEnabled : monitor.keepAliveEnabled = true := by
      rw [hmonitor, hdisabled, flushColumn_of_ne Bool.noConfusion]
    have hmodeNe : draft.mode ≠ loaded.mode := by
      rw [hmode]
      intro heq
      rw [heq] at haccepted
      exact Bool.false_ne_true haccepted.1
    have hintervalNe : draft.keepAliveIntervalSeconds ≠ loaded.keepAliveIntervalSeconds := by
      rw [hinterval]
      exact haccepted.2
    rw [rulesAccept_enabled_iff hmonitorEnabled, hflushed.mode, hflushed.keepAliveIntervalSeconds,
      flushColumn_of_ne hmodeNe, flushColumn_of_ne hintervalNe]
    exact haccepted

/-- An update that disables a row writes mode and interval, and the path unless it was null when the
row was loaded. -/
theorem rulesAccept_flushed_disabling_iff (hloaded : RulesAccept loaded)
    (hloadedEnabled : loaded.keepAliveEnabled = true) (hstored : RulesAccept stored)
    (hdraft : IsDraft payload now loaded draft) (hdisables : draft.keepAliveEnabled = some false)
    (hmonitor : monitor.keepAliveEnabled =
      flushColumn loaded.keepAliveEnabled false stored.keepAliveEnabled)
    (hflushed : IsFlushed draft loaded stored monitor) :
    RulesAccept monitor ↔
      (stored.keepAliveEnabled = true → loaded.keepAlivePath = none →
        stored.keepAlivePath = none) := by
  have haccepted := hdraft.accepted
  rw [hdisables, validateKeepAliveRules_disabled_iff] at haccepted
  obtain ⟨hmode, hinterval, hpath⟩ := haccepted
  rw [rulesAccept_enabled_iff hloadedEnabled] at hloaded
  have hmonitorDisabled : monitor.keepAliveEnabled = false := by
    rw [hmonitor, hloadedEnabled, flushColumn_of_ne Bool.noConfusion]
  have hmodeNe : draft.mode ≠ loaded.mode := by
    rw [hmode]
    intro heq
    rw [← heq] at hloaded
    exact Bool.false_ne_true hloaded.1
  have hintervalNe : draft.keepAliveIntervalSeconds ≠ loaded.keepAliveIntervalSeconds := by
    rw [hinterval]
    exact hloaded.2.symm
  rw [rulesAccept_disabled_iff hmonitorDisabled, hflushed.mode, hflushed.keepAliveIntervalSeconds,
    hflushed.keepAlivePath, flushColumn_of_ne hmodeNe, flushColumn_of_ne hintervalNe, hmode,
    hinterval, hpath]
  by_cases hloadedPath : loaded.keepAlivePath = none
  · rw [hloadedPath, flushColumn_unchanged]
    cases hstoredEnabled : stored.keepAliveEnabled with
    | false =>
      rw [rulesAccept_disabled_iff hstoredEnabled] at hstored
      simp [hstored.2.2]
    | true => simp
  · rw [flushColumn_of_ne (Ne.symm hloadedPath)]
    simp [hloadedPath]

/-- An update that leaves a row enabled writes only what it changes. That is enough for a row that
is enabled still; one disabled by then must be left without mode, interval and path. -/
theorem rulesAccept_flushed_enabled_iff (hloadedEnabled : loaded.keepAliveEnabled = true)
    (hstored : RulesAccept stored) (hdraft : IsDraft payload now loaded draft)
    (henabled : draft.keepAliveEnabled = some true)
    (hmonitor : monitor.keepAliveEnabled =
      flushColumn loaded.keepAliveEnabled true stored.keepAliveEnabled)
    (hflushed : IsFlushed draft loaded stored monitor) :
    RulesAccept monitor ↔
      (stored.keepAliveEnabled = false →
        draft.mode = loaded.mode ∧
          draft.keepAliveIntervalSeconds = loaded.keepAliveIntervalSeconds ∧
          (draft.keepAlivePath = loaded.keepAlivePath ∨ draft.keepAlivePath = none)) := by
  have haccepted := hdraft.accepted
  rw [henabled, validateKeepAliveRules_enabled_iff] at haccepted
  have hmonitorEnabled : monitor.keepAliveEnabled = stored.keepAliveEnabled := by
    rw [hmonitor, hloadedEnabled, flushColumn_unchanged]
  cases hstoredEnabled : stored.keepAliveEnabled with
  | false =>
    rw [rulesAccept_disabled_iff hstoredEnabled] at hstored
    have hmode : draft.mode ≠ .monitor := by
      intro heq
      rw [heq] at haccepted
      exact Bool.false_ne_true haccepted.1
    rw [rulesAccept_disabled_iff (hmonitorEnabled.trans hstoredEnabled), hflushed.mode,
      hflushed.keepAliveIntervalSeconds, hflushed.keepAlivePath, hstored.1, hstored.2.1,
      hstored.2.2, flushColumn_eq_stored_iff, flushColumn_eq_stored_iff, flushColumn_eq_stored_iff,
      or_iff_left hmode, or_iff_left haccepted.2]
    exact ⟨fun h _ ↦ h, fun h ↦ h rfl⟩
  | true =>
    rw [rulesAccept_enabled_iff hstoredEnabled] at hstored
    rw [rulesAccept_enabled_iff (hmonitorEnabled.trans hstoredEnabled), hflushed.mode,
      hflushed.keepAliveIntervalSeconds]
    refine iff_of_true ⟨?_, ?_⟩ (fun h ↦ (nomatch h))
    · unfold flushColumn
      split_ifs
      · exact hstored.1
      · exact haccepted.1
    · unfold flushColumn
      split_ifs
      · exact hstored.2
      · exact haccepted.2

/-- An update over a row that another update has changed keeps the rules exactly when it may be
committed. -/
theorem rulesAccept_commitUpdate_iff (hloaded : RulesAccept loaded) (hstored : RulesAccept stored)
    (hcommit : commitUpdate payload now loaded stored = .ok monitor) :
    RulesAccept monitor ↔ CommitIsSafe payload loaded stored := by
  obtain ⟨draft, -, hdraft, hflushed⟩ := commitUpdate_eq_ok hcommit
  obtain ⟨enabled, henabled, hmonitor⟩ := hflushed.keepAliveEnabled
  unfold CommitIsSafe
  cases hloadedEnabled : loaded.keepAliveEnabled with
  | false =>
    exact iff_of_true (rulesAccept_flushed_of_disabled hloaded hloadedEnabled hstored hdraft
      henabled hmonitor hflushed) ⟨fun _ h ↦ (nomatch h), fun _ h ↦ (nomatch h)⟩
  | true =>
    have hdisables := draft_disables_iff hdraft henabled hloadedEnabled
    cases enabled with
    | false =>
      rw [rulesAccept_flushed_disabling_iff hloaded hloadedEnabled hstored hdraft henabled hmonitor
        hflushed]
      have hpayload := hdisables.mp rfl
      exact ⟨fun h ↦ ⟨fun hne ↦ absurd hpayload hne, fun _ _ ↦ h⟩, fun h ↦ h.2 hpayload rfl⟩
    | true =>
      have hpayload : payload.keepAliveEnabled ≠ .value false := fun h ↦
        Bool.false_ne_true (hdisables.mpr h).symm
      rw [rulesAccept_flushed_enabled_iff hloadedEnabled hstored hdraft henabled hmonitor hflushed,
        ← Option.some.injEq draft.mode, hdraft.mode, hdraft.keepAliveIntervalSeconds,
        hdraft.keepAlivePath, resetOnDisable_of_ne hpayload]
      exact ⟨fun h ↦ ⟨fun _ _ ↦ h, fun hdisable ↦ absurd hdisable hpayload⟩,
        fun h ↦ h.1 hpayload rfl⟩

/-! ### Other writers -/

/-- A new row has a keep-alive time when keep-alive is enabled. -/
theorem keepAliveTimed_newMonitor (payload : MonitorCreate) (now : ℤ) :
    KeepAliveTimed (newMonitor payload now) := by
  unfold KeepAliveTimed newMonitor
  cases payload.keepAliveEnabled <;> rfl

/-- A row that has a time of a schedule may get another. -/
theorem keepAliveTimed_setNext {schedule : Schedule} (htimed : KeepAliveTimed monitor)
    (hsome : (schedule.next monitor).isSome = true) (value : ℤ) :
    KeepAliveTimed (schedule.setNext (some value) monitor) := by
  cases schedule with
  | health => exact htimed
  | keepAlive => exact hsome.symm.trans htimed

/-- The time of a schedule is no interval. -/
theorem intervalsMeet_setNext {condition : ℤ → Prop} (schedule : Schedule) (value : Option ℤ)
    (hmeets : IntervalsMeet condition monitor) :
    IntervalsMeet condition (schedule.setNext value monitor) := by
  cases schedule <;> exact hmeets

/-- The interval that a claim reads is one of the row. -/
theorem intervalsMeet_claimInterval {condition : ℤ → Prop} {schedule : Schedule} {interval : ℤ}
    (hmeets : IntervalsMeet condition monitor)
    (hclaim : schedule.claimInterval monitor = some interval) : condition interval := by
  cases schedule with
  | health =>
    obtain rfl := Option.some.inj hclaim
    exact hmeets.1
  | keepAlive => exact hmeets.2 interval ((Schedule.claimInterval_keepAlive_iff _ _).mp hclaim).2.1

/-- The rules do not read the time of a schedule. -/
theorem rulesAccept_setNext (schedule : Schedule) (value : Option ℤ)
    (haccept : RulesAccept monitor) : RulesAccept (schedule.setNext value monitor) := by
  cases schedule <;> exact haccept

end PingGuard.Api
