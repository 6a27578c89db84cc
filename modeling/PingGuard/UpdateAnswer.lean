import PingGuard.Update

/-!
# What an update request is answered

`update_monitor` from the payload to the status code and the stored row, with nothing else running.
An update is accepted after two checks by the same rules: of the payload alone, where a missing
field counts as null, and of the merged configuration. What it writes is the merged row.

`answer_cases` says what an accepted payload comes to. The check of the payload alone refuses one
that enables keep-alive without an interval, whatever is stored, and a text with U+0000 passes all
checks and no column takes it: `answersByMergedRules_iff` says that these are the only ways in which
the request is stricter than the merged rules. A field that is passed as null is not the same as one
that is left out: `answer_removeNulls_iff` says when it is.
-/

set_option autoImplicit false
set_option relaxedAutoImplicit false

namespace PingGuard.Api

open Library.PyText Library.SerialTable Models Schemas Status
open Library.SqlTable (isVarchar isVarchar_iff)

variable {payload : MonitorUpdate} {now : ℤ} {stored : Monitor} {database : Database}
  {monitorId : ℕ}

/-! ### Answers -/

/-- The status code of an update and the row that it leaves. -/
def answer (database : Database) (monitorId : ℕ) :
    Except RequestFailure Database → ℕ × Option Monitor
  | .error failure => (failure.statusCode, database.monitors.get monitorId)
  | .ok after => (200, after.monitors.get monitorId)

/-- The rules on the merged configuration: the text of their error. -/
def mergedError (stored : Monitor) (payload : MonitorUpdate) : Option String :=
  let updateData := resetOnDisable stored payload
  validateKeepAliveRules (updateData.mode.getD (some stored.mode))
    (updateData.keepAliveEnabled.getD (some stored.keepAliveEnabled))
    (updateData.keepAliveIntervalSeconds.getD stored.keepAliveIntervalSeconds)
    (updateData.keepAlivePath.getD stored.keepAlivePath) true

/-- The rules on a payload alone: the text of their error. -/
def partialError (payload : MonitorUpdate) : Option String :=
  validateKeepAliveRules payload.mode.toOption payload.keepAliveEnabled.toOption
    payload.keepAliveIntervalSeconds.toOption payload.keepAlivePath.toOption false

/-- The row of a draft, where its nulls leave the stored value. -/
def Draft.over (draft : Draft) (stored : Monitor) : Monitor :=
  { stored with
    name := draft.name.getD stored.name
    checkIntervalSeconds := draft.checkIntervalSeconds.getD stored.checkIntervalSeconds
    mode := draft.mode
    keepAliveEnabled := draft.keepAliveEnabled.getD stored.keepAliveEnabled
    keepAliveIntervalSeconds := draft.keepAliveIntervalSeconds
    keepAlivePath := draft.keepAlivePath
    nextKeepAliveAt := draft.nextKeepAliveAt }

/-- The flush of a draft over the row that it was made for. -/
theorem flush_self (draft : Draft) (stored : Monitor) :
    draft.flush stored stored =
      if draft.name.isSome ∧ draft.checkIntervalSeconds.isSome ∧ draft.keepAliveEnabled.isSome ∧
          (draft.over stored).fitsColumns then some (draft.over stored)
      else none := by
  unfold Draft.flush Draft.over
  simp only [flushColumn_self]
  cases draft.name with
  | none => simp
  | some name =>
    cases draft.checkIntervalSeconds with
    | none => simp
    | some interval =>
      cases draft.keepAliveEnabled with
      | none => simp
      | some enabled => simp

/-- The mode is null in the merged configuration exactly when the payload sets it to null. -/
theorem mode_resetOnDisable_eq_none_iff (stored : Monitor) (payload : MonitorUpdate) :
    (resetOnDisable stored payload).mode.getD (some stored.mode) = none ↔
      payload.mode = .null := by
  unfold resetOnDisable
  split_ifs <;> cases payload.mode <;> simp [Field.getD, Field.orElse]

/-- The draft of an update is made unless its mode is null or the rules refuse the merged
configuration. -/
theorem draftUpdate_cases (stored : Monitor) (payload : MonitorUpdate) (now : ℤ) :
    payload.mode = .null ∧ draftUpdate stored payload now = .error .serverError ∨
      payload.mode ≠ .null ∧ mergedError stored payload ≠ none ∧
        draftUpdate stored payload now = .error .unprocessable ∨
      payload.mode ≠ .null ∧ mergedError stored payload = none ∧
        ∃ draft, draftUpdate stored payload now = .ok draft := by
  have hmode := mode_resetOnDisable_eq_none_iff stored payload
  unfold draftUpdate mergedError
  dsimp only
  cases htarget : (resetOnDisable stored payload).mode.getD (some stored.mode) with
  | none => exact Or.inl ⟨hmode.mp htarget, rfl⟩
  | some mode =>
    have hne : payload.mode ≠ .null := fun heq ↦ nomatch htarget.symm.trans (hmode.mpr heq)
    dsimp only
    split
    · rename_i error herror
      exact Or.inr (Or.inl ⟨hne, by rw [herror]; exact Option.some_ne_none error, rfl⟩)
    · rename_i haccepted
      exact Or.inr (Or.inr ⟨hne, haccepted, _, rfl⟩)

/-- The answer to a payload that the schema accepts, for a stored monitor. -/
theorem answer_updateMonitor (hget : database.monitors.get monitorId = some stored)
    (haccepted : payload.isAccepted = true) :
    answer database monitorId (updateMonitor database monitorId payload now) =
      match commitUpdate payload now stored stored with
      | .error failure => (failure.statusCode, some stored)
      | .ok monitor => (200, some monitor) := by
  unfold updateMonitor
  rw [if_neg (not_not_intro haccepted), hget]
  dsimp only
  cases commitUpdate payload now stored stored with
  | error failure =>
    dsimp only [answer]
    rw [hget]
  | ok monitor =>
    dsimp only [answer]
    rw [Table.get_modify, if_pos rfl, hget, Option.map_some]

/-- A payload passes a text with U+0000. Every text of a payload is written. -/
def HasNul (payload : MonitorUpdate) : Prop :=
  (∃ name, payload.name = .value name ∧ '\x00' ∈ name) ∨
    ∃ path, payload.keepAlivePath = .value path ∧ '\x00' ∈ path

/-- A merged name fits its column unless the payload passes one with U+0000. -/
theorem isVarchar_name_over_iff {draft : Draft} (hname : isVarchar 120 stored.name = true)
    (hvalid : payload.name.all isName = true) (hdraft : IsDraft payload now stored draft) :
    isVarchar 120 (draft.over stored).name = true ↔
      ¬ ∃ name, payload.name = .value name ∧ '\x00' ∈ name := by
  change isVarchar 120 (draft.name.getD stored.name) = true ↔ _
  rw [hdraft.name, (resetOnDisable_kept stored payload).1]
  cases hfield : payload.name with
  | omitted => exact iff_of_true hname fun ⟨_, heq, _⟩ ↦ nomatch heq
  | null => exact iff_of_true hname fun ⟨_, heq, _⟩ ↦ nomatch heq
  | value name =>
    rw [hfield] at hvalid
    have hlength : name.length ≤ 120 := of_decide_eq_true (Bool.and_eq_true_iff.mp hvalid).2
    change isVarchar 120 name = true ↔ _
    rw [isVarchar_iff, and_iff_right hlength]
    refine not_congr ⟨fun hnul ↦ ⟨name, rfl, hnul⟩, ?_⟩
    rintro ⟨_, ⟨⟩, hnul⟩
    exact hnul

/-- A merged path fits its column unless the payload passes one with U+0000. -/
theorem isVarchar_path_over_iff {draft : Draft}
    (hpath : stored.keepAlivePath.all (isVarchar 255) = true)
    (hvalid : payload.keepAlivePath.all isKeepAlivePath = true)
    (hdraft : IsDraft payload now stored draft) :
    (draft.over stored).keepAlivePath.all (isVarchar 255) = true ↔
      ¬ ∃ path, payload.keepAlivePath = .value path ∧ '\x00' ∈ path := by
  change draft.keepAlivePath.all (isVarchar 255) = true ↔ _
  by_cases hpassed : ∃ path, payload.keepAlivePath = .value path
  · obtain ⟨path, hvalue⟩ := hpassed
    have hlength : path.length ≤ 255 := by
      rw [hvalue] at hvalid
      exact of_decide_eq_true (Bool.and_eq_true_iff.mp hvalid).1
    have hdrafted : draft.keepAlivePath = some path := by
      rw [hdraft.keepAlivePath]
      unfold resetOnDisable
      split_ifs <;> (rw [hvalue]; rfl)
    rw [hdrafted, Option.all_some, isVarchar_iff, and_iff_right hlength, hvalue]
    refine not_congr ⟨fun hnul ↦ ⟨path, rfl, hnul⟩, ?_⟩
    rintro ⟨_, ⟨⟩, hnul⟩
    exact hnul
  · refine iff_of_true ?_ fun ⟨path, hvalue, _⟩ ↦ hpassed ⟨path, hvalue⟩
    rw [Option.all_eq_true] at hpath ⊢
    intro path hdrafted
    rw [hdraft.keepAlivePath] at hdrafted
    rcases Field.getD_eq_some hdrafted with hvalue | ⟨-, hstored⟩
    · exact absurd ⟨path, path_of_resetOnDisable hvalue⟩ hpassed
    · exact hpath path hstored

/-- A merged row fits its columns unless the payload passes a text with U+0000: each text is a
stored one or was validated. -/
theorem fitsColumns_over_iff {draft : Draft} (hfits : stored.fitsColumns = true)
    (haccepted : payload.isAccepted = true) (hdraft : IsDraft payload now stored draft) :
    (draft.over stored).fitsColumns = true ↔ ¬ HasNul payload := by
  unfold MonitorUpdate.isAccepted at haccepted
  unfold Monitor.fitsColumns at hfits ⊢
  simp only [Bool.and_eq_true] at haccepted hfits ⊢
  obtain ⟨⟨⟨⟨hnameValid, -⟩, -⟩, hpathValid⟩, -⟩ := haccepted
  obtain ⟨⟨hname, hurl⟩, hpath⟩ := hfits
  unfold HasNul
  rw [isVarchar_name_over_iff hname hnameValid hdraft,
    isVarchar_path_over_iff hpath hpathValid hdraft, not_or]
  exact and_congr_left fun _ ↦ and_iff_left hurl

/-- A payload passes null for a column that may not be null. -/
def NullsColumn (payload : MonitorUpdate) : Prop :=
  payload.name = .null ∨ payload.checkIntervalSeconds = .null ∨ payload.keepAliveEnabled = .null

/-- The flush of a draft fails where it sets a column to null that may not be null, or to a text
with U+0000. -/
theorem flush_self_of_draft {draft : Draft} (hfits : stored.fitsColumns = true)
    (haccepted : payload.isAccepted = true) (hdraft : IsDraft payload now stored draft) :
    (NullsColumn payload ∨ HasNul payload) ∧ draft.flush stored stored = none ∨
      ¬ NullsColumn payload ∧ ¬ HasNul payload ∧
        draft.flush stored stored = some (draft.over stored) := by
  obtain ⟨hname, hinterval, henabled⟩ := resetOnDisable_kept stored payload
  have hisSome : ∀ {α : Type} (field : Schemas.Field α) (value : α),
      (field.getD (some value)).isSome = true ↔ field ≠ .null := by
    intro α field value
    cases field <;> simp [Field.getD]
  have hflush := flush_self draft stored
  rw [hdraft.name, hdraft.checkIntervalSeconds, hdraft.keepAliveEnabled, hname, hinterval,
    henabled] at hflush
  simp only [hisSome] at hflush
  rw [hflush]
  have hcolumns := fitsColumns_over_iff hfits haccepted hdraft
  by_cases hfails : NullsColumn payload ∨ HasNul payload
  · refine Or.inl ⟨hfails, if_neg ?_⟩
    rintro ⟨hname, hinterval, henabled, hover⟩
    exact hfails.elim (not_or_intro hname (not_or_intro hinterval henabled)) (hcolumns.mp hover)
  · obtain ⟨hnulls, hnul⟩ := not_or.mp hfails
    refine Or.inr ⟨hnulls, hnul, if_pos ?_⟩
    unfold NullsColumn at hnulls
    rw [not_or, not_or] at hnulls
    exact ⟨hnulls.1, hnulls.2.1, hnulls.2.2, hcolumns.mpr hnul⟩

/-- The rules refuse the merged configuration of a payload. A null mode is an error before they are
asked. -/
def IsRefused (payload : MonitorUpdate) (stored : Monitor) : Prop :=
  payload.mode ≠ .null ∧ mergedError stored payload ≠ none

/-- The answer to an accepted payload: a null mode is a server error, the rules on the merged
configuration come next, then the columns, and otherwise the merged row is stored. -/
theorem answer_cases (now : ℤ) (hget : database.monitors.get monitorId = some stored)
    (hfits : stored.fitsColumns = true) (haccepted : payload.isAccepted = true) :
    (payload.mode = .null ∨ NullsColumn payload ∨ HasNul payload) ∧
        ¬ IsRefused payload stored ∧
        answer database monitorId (updateMonitor database monitorId payload now) =
          (500, some stored) ∨
      IsRefused payload stored ∧
        answer database monitorId (updateMonitor database monitorId payload now) =
          (422, some stored) ∨
      payload.mode ≠ .null ∧ ¬ NullsColumn payload ∧ ¬ HasNul payload ∧
        mergedError stored payload = none ∧ ∃ draft, IsDraft payload now stored draft ∧
          answer database monitorId (updateMonitor database monitorId payload now) =
            (200, some (draft.over stored)) := by
  rw [answer_updateMonitor hget haccepted]
  unfold commitUpdate
  rcases draftUpdate_cases stored payload now with ⟨hnull, hdraft⟩ | ⟨hmode, herror, hdraft⟩ |
    ⟨hmode, hnone, draft, hdraft⟩
  · rw [hdraft]
    exact Or.inl ⟨Or.inl hnull, fun hrefused ↦ hrefused.1 hnull, rfl⟩
  · rw [hdraft]
    exact Or.inr (Or.inl ⟨⟨hmode, herror⟩, rfl⟩)
  · have hspec := draftUpdate_eq_ok hdraft
    rw [hdraft]
    dsimp only
    rcases flush_self_of_draft hfits haccepted hspec with ⟨hfails, hflush⟩ |
      ⟨hnulls, hnul, hflush⟩
    · rw [hflush]
      exact Or.inl ⟨Or.inr hfails, fun hrefused ↦ hrefused.2 hnone, rfl⟩
    · rw [hflush]
      exact Or.inr (Or.inr ⟨hmode, hnulls, hnul, hnone, draft, hspec, rfl⟩)

/-! ### Payloads without nulls -/

/-- Every field that is supplied has a value. -/
structure HasNoNulls (payload : MonitorUpdate) : Prop where
  name : payload.name ≠ .null
  checkIntervalSeconds : payload.checkIntervalSeconds ≠ .null
  mode : payload.mode ≠ .null
  keepAliveEnabled : payload.keepAliveEnabled ≠ .null
  keepAliveIntervalSeconds : payload.keepAliveIntervalSeconds ≠ .null
  keepAlivePath : payload.keepAlivePath ≠ .null

/-- No column is set to null by such a payload. -/
theorem HasNoNulls.not_nullsColumn (hnulls : HasNoNulls payload) : ¬ NullsColumn payload :=
  not_or_intro hnulls.name (not_or_intro hnulls.checkIntervalSeconds hnulls.keepAliveEnabled)

/-- Every value that is supplied is valid by itself: its length, its range and its form. -/
def fieldsAreValid (payload : MonitorUpdate) : Bool :=
  payload.name.all isName && payload.checkIntervalSeconds.all isInterval &&
    payload.keepAliveIntervalSeconds.all isInterval && payload.keepAlivePath.all isKeepAlivePath

/-- A payload is accepted when its values are valid and the rules accept it alone. -/
theorem isAccepted_iff (payload : MonitorUpdate) :
    payload.isAccepted = true ↔ fieldsAreValid payload = true ∧ partialError payload = none := by
  change (fieldsAreValid payload && (partialError payload).isNone) = true ↔ _
  rw [Bool.and_eq_true, Option.isNone_iff_eq_none]

/-- The request is answered by the rules on the merged configuration: it succeeds where they accept
it, and otherwise it is unprocessable and leaves the row. -/
def AnswersByMergedRules (database : Database) (monitorId : ℕ) (stored : Monitor)
    (payload : MonitorUpdate) (now : ℤ) : Prop :=
  let answered := answer database monitorId (updateMonitor database monitorId payload now)
  (answered.1 = 200 ↔ mergedError stored payload = none) ∧
    (answered.1 ≠ 200 → answered = (422, some stored))

/-- A payload enables keep-alive on a row where it is enabled, and leaves out the interval. -/
def EnablesAgain (payload : MonitorUpdate) (stored : Monitor) : Prop :=
  payload.keepAliveEnabled = .value true ∧ payload.keepAliveIntervalSeconds = .omitted ∧
    payload.mode ≠ .value .monitor ∧ stored.keepAliveEnabled = true

/-- The rules pass over a payload that does not mention whether keep-alive is enabled. -/
theorem partialError_of_omitted (hpayload : payload.keepAliveEnabled = .omitted) :
    partialError payload = none := by
  unfold partialError
  rw [hpayload]
  cases payload.mode.toOption with
  | none => rfl
  | some mode => cases mode <;> rfl

/-- The rules on a payload alone that enables keep-alive. -/
theorem partialError_of_enables_iff (hpayload : payload.keepAliveEnabled = .value true) :
    partialError payload = none ↔ payload.mode ≠ .value .monitor ∧
      payload.keepAliveIntervalSeconds.toOption ≠ none := by
  unfold partialError
  rw [hpayload]
  cases payload.mode with
  | omitted =>
    cases payload.keepAliveIntervalSeconds <;>
      simp [validateKeepAliveRules, validateModeRule, Field.toOption]
  | null =>
    cases payload.keepAliveIntervalSeconds <;>
      simp [validateKeepAliveRules, validateModeRule, Field.toOption]
  | value mode =>
    cases mode <;> cases payload.keepAliveIntervalSeconds <;>
      simp [validateKeepAliveRules, validateModeRule, Field.toOption]

/-- The rules on the merged configuration of a payload that enables keep-alive. -/
theorem mergedError_of_enables_iff (hpayload : payload.keepAliveEnabled = .value true)
    (hmode : payload.mode ≠ .null) :
    mergedError stored payload = none ↔
      (payload.mode.toOption.getD stored.mode).isKeepAlive = true ∧
        payload.keepAliveIntervalSeconds.getD stored.keepAliveIntervalSeconds ≠ none := by
  have hreset : resetOnDisable stored payload = payload :=
    resetOnDisable_of_ne (by rw [hpayload]; nofun)
  have htarget : payload.mode.getD (some stored.mode) =
      some (payload.mode.toOption.getD stored.mode) := by
    cases hfield : payload.mode with
    | null => exact absurd hfield hmode
    | omitted => rfl
    | value mode => rfl
  unfold mergedError
  dsimp only
  rw [hreset, hpayload, htarget]
  exact validateKeepAliveRules_enabled_iff _ _ _

/-- The rules on the merged configuration of a payload that disables keep-alive: the stored row
does not matter. -/
theorem mergedError_of_disables_iff (hpayload : payload.keepAliveEnabled = .value false)
    (hmode : payload.mode ≠ .null) :
    mergedError stored payload = none ↔ payload.mode.toOption.getD .monitor = .monitor ∧
      payload.keepAliveIntervalSeconds.toOption = none ∧ payload.keepAlivePath.toOption = none := by
  have hreset : resetOnDisable stored payload = { payload with
      keepAliveIntervalSeconds := payload.keepAliveIntervalSeconds.orElse .null
      keepAlivePath := payload.keepAlivePath.orElse .null
      mode := if stored.mode ≠ .monitor then payload.mode.orElse (.value .monitor)
        else payload.mode } := if_pos hpayload
  have htarget : (if stored.mode ≠ .monitor then payload.mode.orElse (.value .monitor)
      else payload.mode).getD (some stored.mode) = some (payload.mode.toOption.getD .monitor) := by
    cases hfield : payload.mode with
    | null => exact absurd hfield hmode
    | omitted =>
      by_cases hstored : stored.mode = .monitor
      · rw [if_neg (not_not_intro hstored), hstored]
        rfl
      · rw [if_pos hstored]
        rfl
    | value mode => split_ifs <;> rfl
  have hfilled : ∀ {α : Type} (field : Schemas.Field α) (default : Option α),
      (field.orElse .null).getD default = field.toOption := by
    intro α field default
    cases field <;> rfl
  unfold mergedError
  rw [hreset]
  dsimp only
  rw [hpayload, htarget, hfilled, hfilled]
  exact validateKeepAliveRules_disabled_iff _ _ _

/-- The rules accept a payload alone that disables keep-alive where they accept the merged
configuration. -/
theorem partialError_of_disables (hpayload : payload.keepAliveEnabled = .value false)
    (hmode : payload.mode ≠ .null) (hmerged : mergedError stored payload = none) :
    partialError payload = none := by
  obtain ⟨htarget, hinterval, hpath⟩ := (mergedError_of_disables_iff hpayload hmode).mp hmerged
  unfold partialError
  rw [hpayload, hinterval, hpath]
  cases hfield : payload.mode with
  | null => exact absurd hfield hmode
  | omitted => rfl
  | value mode =>
    rw [hfield] at htarget
    obtain rfl : mode = .monitor := htarget
    rfl

/-- Where the first check refuses what the merged rules accept, the payload enables keep-alive
again. -/
theorem enablesAgain_iff (hconsistent : RulesAccept stored) (hnulls : HasNoNulls payload) :
    EnablesAgain payload stored ↔
      mergedError stored payload = none ∧ partialError payload ≠ none := by
  unfold EnablesAgain
  cases hpayload : payload.keepAliveEnabled with
  | null => exact absurd hpayload hnulls.keepAliveEnabled
  | omitted =>
    exact iff_of_false (fun h ↦ nomatch h.1) fun h ↦ h.2 (partialError_of_omitted hpayload)
  | value enabled =>
    cases enabled with
    | false =>
      exact iff_of_false (fun h ↦ nomatch h.1) fun h ↦
        h.2 (partialError_of_disables hpayload hnulls.mode h.1)
    | true =>
      rw [mergedError_of_enables_iff hpayload hnulls.mode, ne_eq (partialError payload),
        partialError_of_enables_iff hpayload]
      constructor
      · rintro ⟨-, homitted, hmode, henabled⟩
        obtain ⟨hstoredMode, hstoredInterval⟩ :=
          (rulesAccept_enabled_iff henabled).mp hconsistent
        rw [homitted]
        refine ⟨⟨?_, hstoredInterval⟩, fun h ↦ h.2 rfl⟩
        cases hfield : payload.mode with
        | null => exact absurd hfield hnulls.mode
        | omitted => exact hstoredMode
        | value mode =>
          cases mode with
          | monitor => exact absurd hfield hmode
          | keepAlive => rfl
          | monitorAndKeepAlive => rfl
      · rintro ⟨⟨hkeepAlive, hinterval⟩, hrefused⟩
        have hmode : payload.mode ≠ .value .monitor := by
          intro hfield
          rw [hfield] at hkeepAlive
          exact Bool.false_ne_true hkeepAlive
        have hnone : payload.keepAliveIntervalSeconds.toOption = none :=
          not_not.mp fun hne ↦ hrefused ⟨hmode, hne⟩
        have homitted : payload.keepAliveIntervalSeconds = .omitted := by
          cases hfield : payload.keepAliveIntervalSeconds with
          | omitted => rfl
          | null => exact absurd hfield hnulls.keepAliveIntervalSeconds
          | value interval =>
            rw [hfield] at hnone
            nomatch hnone
        refine ⟨rfl, homitted, hmode, ?_⟩
        rw [homitted] at hinterval
        by_contra hdisabled
        have hstored := (rulesAccept_disabled_iff (Bool.eq_false_of_not_eq_true hdisabled)).mp
          hconsistent
        exact hinterval hstored.2.1

/-- The answer to a payload that the schema refuses. -/
theorem answer_of_refused (hget : database.monitors.get monitorId = some stored)
    (hrefused : payload.isAccepted ≠ true) :
    answer database monitorId (updateMonitor database monitorId payload now) =
      (422, some stored) := by
  unfold updateMonitor
  rw [if_pos hrefused]
  dsimp only [answer]
  rw [hget]
  rfl

/-- A payload passes a text with U+0000, and the rules accept the merged configuration. -/
def StoresNul (payload : MonitorUpdate) (stored : Monitor) : Prop :=
  HasNul payload ∧ mergedError stored payload = none

/-- A request without nulls is answered by the merged rules unless it enables keep-alive again or
would store a text with U+0000. -/
theorem answersByMergedRules_iff (hget : database.monitors.get monitorId = some stored)
    (hfits : stored.fitsColumns = true) (hconsistent : RulesAccept stored)
    (hnulls : HasNoNulls payload) (hvalid : fieldsAreValid payload = true) :
    AnswersByMergedRules database monitorId stored payload now ↔
      ¬ EnablesAgain payload stored ∧ ¬ StoresNul payload stored := by
  rw [enablesAgain_iff hconsistent hnulls]
  have hstatus : (422 : ℕ) ≠ 200 := by decide
  have hserver : (500 : ℕ) ≠ 200 := by decide
  unfold AnswersByMergedRules
  dsimp only
  by_cases haccepted : payload.isAccepted = true
  · have hpartial := ((isAccepted_iff payload).mp haccepted).2
    rw [and_iff_right fun h ↦ h.2 hpartial]
    rcases answer_cases now hget hfits haccepted with ⟨hfails, hkept, hanswer⟩ |
      ⟨hrefused, hanswer⟩ | ⟨-, -, hnul, hmerged, _, -, hanswer⟩
    · have hmerged : mergedError stored payload = none :=
        not_not.mp fun herror ↦ hkept ⟨hnulls.mode, herror⟩
      have hnul : HasNul payload :=
        (hfails.resolve_left hnulls.mode).resolve_left hnulls.not_nullsColumn
      rw [hanswer]
      exact iff_of_false (fun h ↦ hserver (h.1.mpr hmerged)) fun h ↦ h ⟨hnul, hmerged⟩
    · rw [hanswer]
      exact iff_of_true ⟨iff_of_false hstatus hrefused.2, fun _ ↦ rfl⟩ fun h ↦ hrefused.2 h.2
    · rw [hanswer]
      exact iff_of_true ⟨iff_of_true rfl hmerged, fun hne ↦ absurd rfl hne⟩ fun h ↦ hnul h.1
  · have hpartial : partialError payload ≠ none := fun hnone ↦
      haccepted ((isAccepted_iff payload).mpr ⟨hvalid, hnone⟩)
    rw [answer_of_refused hget haccepted]
    constructor
    · rintro ⟨hiff, -⟩
      have hrefused : mergedError stored payload ≠ none := fun hmerged ↦
        hstatus (hiff.mpr hmerged)
      exact ⟨fun h ↦ hrefused h.1, fun h ↦ hrefused h.2⟩
    · rintro ⟨hsafe, -⟩
      exact ⟨iff_of_false hstatus fun hmerged ↦ hsafe ⟨hmerged, hpartial⟩, fun _ ↦ rfl⟩

/-- An update of whether keep-alive is enabled and of its interval. -/
def keepAliveUpdate (keepAliveEnabled : Schemas.Field Bool)
    (keepAliveIntervalSeconds : Schemas.Field ℤ) : MonitorUpdate :=
  ⟨.omitted, .omitted, .omitted, keepAliveEnabled, keepAliveIntervalSeconds, .omitted⟩

/-- Supplying the interval once more is enough. -/
theorem answersByMergedRules_withInterval :
    AnswersByMergedRules .oneMonitor 1 .dueAtZero (keepAliveUpdate (.value true) (.value 90))
      5 := by
  refine (answersByMergedRules_iff rfl (by decide) ?_ ?_ ?_).mpr ⟨?_, ?_⟩
  · exact rfl
  · exact ⟨nofun, nofun, nofun, nofun, nofun, nofun⟩
  · decide
  · rintro ⟨-, homitted, -⟩
    nomatch homitted
  · rintro ⟨⟨_, hname, _⟩ | ⟨_, hpath, _⟩, -⟩
    · nomatch hname
    · nomatch hpath

/-- Enabling keep-alive on an enabled row is refused, although the merged row is the stored one. -/
theorem enabling_again_is_refused :
    RulesAccept .dueAtZero ∧ HasNoNulls (keepAliveUpdate (.value true) .omitted) ∧
      fieldsAreValid (keepAliveUpdate (.value true) .omitted) = true ∧
      mergedError .dueAtZero (keepAliveUpdate (.value true) .omitted) = none ∧
      answer .oneMonitor 1 (updateMonitor .oneMonitor 1 (keepAliveUpdate (.value true) .omitted)
        5) = (422, some .dueAtZero) ∧
      ¬ AnswersByMergedRules .oneMonitor 1 .dueAtZero (keepAliveUpdate (.value true) .omitted)
        5 := by
  have hanswer : answer .oneMonitor 1 (updateMonitor .oneMonitor 1
      (keepAliveUpdate (.value true) .omitted) 5) = (422, some .dueAtZero) := rfl
  have hmerged : mergedError .dueAtZero (keepAliveUpdate (.value true) .omitted) = none := rfl
  refine ⟨rfl, ⟨nofun, nofun, nofun, nofun, nofun, nofun⟩, rfl, hmerged, hanswer, ?_⟩
  rintro ⟨hiff, -⟩
  rw [hanswer] at hiff
  exact absurd (hiff.mpr hmerged) (by decide)

/-! ### Payloads with nulls -/

/-- A null is left out instead. -/
def removeNull {α : Type} : Schemas.Field α → Schemas.Field α
  | .null => .omitted
  | field => field

/-- The payload with all its nulls left out. -/
def removeNulls (payload : MonitorUpdate) : MonitorUpdate where
  name := removeNull payload.name
  checkIntervalSeconds := removeNull payload.checkIntervalSeconds
  mode := removeNull payload.mode
  keepAliveEnabled := removeNull payload.keepAliveEnabled
  keepAliveIntervalSeconds := removeNull payload.keepAliveIntervalSeconds
  keepAlivePath := removeNull payload.keepAlivePath

/-- The parsed attribute does not show whether a null was passed. -/
theorem toOption_removeNull {α : Type} (field : Schemas.Field α) :
    (removeNull field).toOption = field.toOption := by
  cases field <;> rfl

/-- A null that is left out is not passed. -/
theorem removeNull_ne_null {α : Type} (field : Schemas.Field α) : removeNull field ≠ .null := by
  cases field <;> nofun

/-- A field that is not null is kept. -/
theorem removeNull_of_ne_null {α : Type} {field : Schemas.Field α} (hne : field ≠ .null) :
    removeNull field = field := by
  cases field with
  | null => exact absurd rfl hne
  | omitted => rfl
  | value a => rfl

/-- A null that clears a column is left out without a change exactly when the column is null. -/
theorem getD_removeNull {α : Type} {field : Schemas.Field α} {stored : Option α}
    (hstored : field = .null → stored = none) :
    (removeNull field).getD stored = field.getD stored := by
  cases field with
  | null => exact hstored rfl
  | omitted => rfl
  | value a => rfl

/-- The rules on a payload alone take its nulls for missing fields. -/
theorem isAccepted_removeNulls (payload : MonitorUpdate) :
    (removeNulls payload).isAccepted = payload.isAccepted := by
  unfold MonitorUpdate.isAccepted removeNulls Field.all
  simp only [toOption_removeNull]

/-- No field of such a payload is null. -/
theorem hasNoNulls_removeNulls (payload : MonitorUpdate) : HasNoNulls (removeNulls payload) :=
  ⟨removeNull_ne_null _, removeNull_ne_null _, removeNull_ne_null _, removeNull_ne_null _,
    removeNull_ne_null _, removeNull_ne_null _⟩

/-- Without its nulls a payload passes the same texts. -/
theorem hasNul_removeNulls (payload : MonitorUpdate) :
    HasNul (removeNulls payload) ↔ HasNul payload := by
  have hvalue : ∀ {α : Type} (field : Schemas.Field α) (value : α),
      removeNull field = .value value ↔ field = .value value := by
    intro α field value
    cases field <;> simp [removeNull]
  unfold HasNul removeNulls
  simp only [hvalue]

/-- When the nulls of a payload change nothing: the rules refuse both merged configurations, or
neither of them and a text has U+0000, or nothing is null that must have a value and the columns
that are cleared are cleared anyway. -/
def NullsAreHarmless (payload : MonitorUpdate) (stored : Monitor) : Prop :=
  (IsRefused payload stored ∧ IsRefused (removeNulls payload) stored) ∨
    (HasNul payload ∧ ¬ IsRefused payload stored ∧ ¬ IsRefused (removeNulls payload) stored) ∨
    (payload.mode ≠ .null ∧ payload.keepAliveEnabled ≠ .null ∧ payload.name ≠ .null ∧
      payload.checkIntervalSeconds ≠ .null ∧
      (payload.keepAliveEnabled = .value false ∨
        ((payload.keepAliveIntervalSeconds = .null → stored.keepAliveIntervalSeconds = none) ∧
          (payload.keepAlivePath = .null → stored.keepAlivePath = none))))

/-- The draft without the nulls, where they clear nothing that is stored. -/
theorem draftUpdate_removeNulls (hname : payload.name ≠ .null)
    (hcheck : payload.checkIntervalSeconds ≠ .null) (hmode : payload.mode ≠ .null)
    (henabled : payload.keepAliveEnabled ≠ .null)
    (hcleared : payload.keepAliveEnabled = .value false ∨
      ((payload.keepAliveIntervalSeconds = .null → stored.keepAliveIntervalSeconds = none) ∧
        (payload.keepAlivePath = .null → stored.keepAlivePath = none))) :
    draftUpdate stored (removeNulls payload) now = draftUpdate stored payload now := by
  have hkept : removeNulls payload = { payload with
      keepAliveIntervalSeconds := removeNull payload.keepAliveIntervalSeconds
      keepAlivePath := removeNull payload.keepAlivePath } := by
    unfold removeNulls
    rw [removeNull_of_ne_null hname, removeNull_of_ne_null hcheck, removeNull_of_ne_null hmode,
      removeNull_of_ne_null henabled]
  by_cases hdisables : payload.keepAliveEnabled = .value false
  · -- The reset fills in the fields that are left out with null.
    have hfilled : ∀ {α : Type} (field : Schemas.Field α),
        (removeNull field).orElse .null = field.orElse .null := by
      intro α field
      cases field <;> rfl
    have hreset : resetOnDisable stored (removeNulls payload) = resetOnDisable stored payload := by
      rw [hkept]
      unfold resetOnDisable
      rw [if_pos hdisables, if_pos hdisables]
      dsimp only
      rw [hfilled, hfilled]
    unfold draftUpdate
    rw [hreset]
  · obtain ⟨hinterval, hpath⟩ := hcleared.resolve_left hdisables
    rw [hkept]
    unfold draftUpdate resetOnDisable
    rw [if_neg hdisables, if_neg hdisables]
    dsimp only
    rw [getD_removeNull hinterval, getD_removeNull hpath]

/-- The answer where the rules refuse the merged configuration. -/
theorem answer_of_mergedError (now : ℤ) (hget : database.monitors.get monitorId = some stored)
    (haccepted : payload.isAccepted = true) (hmode : payload.mode ≠ .null)
    (hmerged : mergedError stored payload ≠ none) :
    answer database monitorId (updateMonitor database monitorId payload now) =
      (422, some stored) := by
  rw [answer_updateMonitor hget haccepted]
  unfold commitUpdate
  rcases draftUpdate_cases stored payload now with ⟨hnull, -⟩ | ⟨-, -, hdraft⟩ | ⟨-, hnone, -⟩
  · exact absurd hnull hmode
  · rw [hdraft]
    rfl
  · exact absurd hnone hmerged

/-- Where the rows with and without the nulls of a payload are the same, the nulls clear nothing. -/
theorem cleared_of_over_eq {draft draft' : Draft} (hdraft : IsDraft payload now stored draft)
    (hdraft' : IsDraft (removeNulls payload) now stored draft')
    (hrow : draft.over stored = draft'.over stored) :
    payload.keepAliveEnabled = .value false ∨
      ((payload.keepAliveIntervalSeconds = .null → stored.keepAliveIntervalSeconds = none) ∧
        (payload.keepAlivePath = .null → stored.keepAlivePath = none)) := by
  by_cases hdisables : payload.keepAliveEnabled = .value false
  · exact Or.inl hdisables
  have hdisables' : (removeNulls payload).keepAliveEnabled ≠ .value false := by
    unfold removeNulls
    cases hfield : payload.keepAliveEnabled with
    | omitted => nofun
    | null => nofun
    | value enabled =>
      rw [hfield] at hdisables
      exact hdisables
  have hinterval : draft.keepAliveIntervalSeconds = draft'.keepAliveIntervalSeconds :=
    congrArg Monitor.keepAliveIntervalSeconds hrow
  have hpath : draft.keepAlivePath = draft'.keepAlivePath := congrArg Monitor.keepAlivePath hrow
  rw [hdraft.keepAliveIntervalSeconds, hdraft'.keepAliveIntervalSeconds,
    resetOnDisable_of_ne hdisables, resetOnDisable_of_ne hdisables'] at hinterval
  rw [hdraft.keepAlivePath, hdraft'.keepAlivePath, resetOnDisable_of_ne hdisables,
    resetOnDisable_of_ne hdisables'] at hpath
  unfold removeNulls at hinterval hpath
  refine Or.inr ⟨fun hnull ↦ ?_, fun hnull ↦ ?_⟩
  · rw [hnull] at hinterval
    exact hinterval.symm
  · rw [hnull] at hpath
    exact hpath.symm

/-- The answers with and without the nulls of a payload are the same exactly when the nulls are
harmless. -/
theorem answer_removeNulls_iff (hget : database.monitors.get monitorId = some stored)
    (hfits : stored.fitsColumns = true) (haccepted : payload.isAccepted = true) :
    answer database monitorId (updateMonitor database monitorId payload now) =
        answer database monitorId (updateMonitor database monitorId (removeNulls payload) now) ↔
      NullsAreHarmless payload stored := by
  have haccepted' : (removeNulls payload).isAccepted = true :=
    (isAccepted_removeNulls payload).trans haccepted
  have hnulls := hasNoNulls_removeNulls payload
  have hwith := answer_cases now hget hfits haccepted
  have hwithout := answer_cases now hget hfits haccepted'
  rw [hasNul_removeNulls, or_iff_right hnulls.mode, or_iff_right hnulls.not_nullsColumn] at hwithout
  constructor
  · intro heq
    rcases hwith with ⟨-, hkept, hanswer⟩ | ⟨hrefused, hanswer⟩ |
      ⟨hmode, hcolumns, -, -, draft, hdraft, hanswer⟩
    · rw [hanswer] at heq
      rcases hwithout with ⟨hnul, hkept', -⟩ | ⟨-, hwithout⟩ | ⟨-, -, -, -, _, -, hwithout⟩
      · exact Or.inr (Or.inl ⟨hnul, hkept, hkept'⟩)
      · exact absurd (congrArg Prod.fst (heq.trans hwithout)) (by simp)
      · exact absurd (congrArg Prod.fst (heq.trans hwithout)) (by simp)
    · rw [hanswer] at heq
      rcases hwithout with ⟨-, -, hwithout⟩ | ⟨hrefused', -⟩ | ⟨-, -, -, -, _, -, hwithout⟩
      · exact absurd (congrArg Prod.fst (heq.trans hwithout)) (by simp)
      · exact Or.inl ⟨hrefused, hrefused'⟩
      · exact absurd (congrArg Prod.fst (heq.trans hwithout)) (by simp)
    · rw [hanswer] at heq
      rcases hwithout with ⟨-, -, hwithout⟩ | ⟨-, hwithout⟩ |
        ⟨-, -, -, -, draft', hdraft', hwithout⟩
      · exact absurd (congrArg Prod.fst (heq.trans hwithout)) (by simp)
      · exact absurd (congrArg Prod.fst (heq.trans hwithout)) (by simp)
      · unfold NullsColumn at hcolumns
        rw [not_or, not_or] at hcolumns
        have hrow : draft.over stored = draft'.over stored :=
          Option.some.inj (Prod.mk.inj (heq.trans hwithout)).2
        exact Or.inr (Or.inr ⟨hmode, hcolumns.2.2, hcolumns.1, hcolumns.2.1,
          cleared_of_over_eq hdraft hdraft' hrow⟩)
  · rintro (⟨⟨hmode, hmerged⟩, hmode', hmerged'⟩ | ⟨hnul, hkept, hkept'⟩ |
      ⟨hmode, henabled, hname, hcheck, hcleared⟩)
    · rw [answer_of_mergedError now hget haccepted hmode hmerged,
        answer_of_mergedError now hget haccepted' hmode' hmerged']
    · -- Neither is refused, and no column takes the text.
      rcases hwith with ⟨-, -, hanswer⟩ | ⟨hrefused, -⟩ | ⟨-, -, hnone, -⟩
      · rcases hwithout with ⟨-, -, hwithout⟩ | ⟨hrefused, -⟩ | ⟨-, -, hnone, -⟩
        · rw [hanswer, hwithout]
        · exact absurd hrefused hkept'
        · exact absurd hnul hnone
      · exact absurd hrefused hkept
      · exact absurd hnul hnone
    · rw [answer_updateMonitor hget haccepted, answer_updateMonitor hget haccepted']
      unfold commitUpdate
      rw [draftUpdate_removeNulls hname hcheck hmode henabled hcleared]

/-- An update of the keep-alive interval that passes null for the path. -/
def nullPath : MonitorUpdate := ⟨.omitted, .omitted, .omitted, .omitted, .value 90, .null⟩

/-- A null path is harmless on a row without a path. -/
theorem answer_removeNulls_nullPath :
    answer .oneMonitor 1 (updateMonitor .oneMonitor 1 nullPath 5) =
      answer .oneMonitor 1 (updateMonitor .oneMonitor 1 (removeNulls nullPath) 5) :=
  (answer_removeNulls_iff rfl (by decide) (by decide)).mpr
    (Or.inr (Or.inr ⟨nofun, nofun, nofun, nofun, Or.inr ⟨nofun, fun _ ↦ rfl⟩⟩))

/-- An update that passes null for the name. -/
def nullName : MonitorUpdate := ⟨.null, .omitted, .omitted, .omitted, .omitted, .omitted⟩

/-- A null name is a server error, and without it there is nothing to update. -/
theorem null_name_is_no_omission :
    nullName.isAccepted = true ∧
      answer .oneMonitor 1 (updateMonitor .oneMonitor 1 nullName 5) = (500, some .dueAtZero) ∧
      answer .oneMonitor 1 (updateMonitor .oneMonitor 1 (removeNulls nullName) 5) =
        (200, some .dueAtZero) ∧
      answer .oneMonitor 1 (updateMonitor .oneMonitor 1 nullName 5) ≠
        answer .oneMonitor 1 (updateMonitor .oneMonitor 1 (removeNulls nullName) 5) := by
  have hnull : answer .oneMonitor 1 (updateMonitor .oneMonitor 1 nullName 5) =
      (500, some .dueAtZero) := rfl
  have hwithout : answer .oneMonitor 1 (updateMonitor .oneMonitor 1 (removeNulls nullName) 5) =
      (200, some .dueAtZero) := rfl
  refine ⟨rfl, hnull, hwithout, ?_⟩
  rw [hnull, hwithout]
  exact fun heq ↦ absurd (congrArg Prod.fst heq) (by simp)

end PingGuard.Api
