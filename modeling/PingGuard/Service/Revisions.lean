import PingGuard.Service.Registry

/-!
# Updates one after the other

What several requests to `update_monitor` make of a monitor. An update merges its payload into the
row, and what a payload says about keep-alive can depend on the row. Said in full it does not
(`explicit`), and then two payloads combine into one that does the work of both (`andThen`).

So the configuration that a series of updates leaves, whatever the workers write between them, is
what one update would leave whose payload is accepted as well, and to send that one again changes
nothing (`andThen_of_updated`).
-/

set_option autoImplicit false
set_option relaxedAutoImplicit false

namespace PingGuard.Service

open Api Library.PyText Models Schemas Status

/-! ### Payloads -/

/-- The payload with what it leaves out and `keep_alive_enabled=False` settles. -/
def explicit (payload : MonitorUpdate) : MonitorUpdate :=
  if payload.keepAliveEnabled = .value false then
    { payload with
      mode := payload.mode.orElse (.value .monitor)
      keepAliveIntervalSeconds := payload.keepAliveIntervalSeconds.orElse .null
      keepAlivePath := payload.keepAlivePath.orElse .null }
  else payload

/-- The payload that does the work of two. -/
def andThen (first second : MonitorUpdate) : MonitorUpdate where
  name := (explicit second).name.orElse (explicit first).name
  checkIntervalSeconds :=
    (explicit second).checkIntervalSeconds.orElse (explicit first).checkIntervalSeconds
  mode := (explicit second).mode.orElse (explicit first).mode
  keepAliveEnabled := (explicit second).keepAliveEnabled.orElse (explicit first).keepAliveEnabled
  keepAliveIntervalSeconds :=
    (explicit second).keepAliveIntervalSeconds.orElse (explicit first).keepAliveIntervalSeconds
  keepAlivePath := (explicit second).keepAlivePath.orElse (explicit first).keepAlivePath

section Fields

variable {α : Type}

/-- The later of two fields is merged into what the earlier one leaves. -/
theorem getD_orElse (later earlier : Schemas.Field α) (stored : Option α) :
    (later.orElse earlier).getD stored = later.getD (earlier.getD stored) := by
  cases later <;> rfl

/-- A field that says something is kept. -/
theorem orElse_of_ne {field : Schemas.Field α} (hgiven : field ≠ .omitted)
    (other : Schemas.Field α) : field.orElse other = field := by
  cases field with
  | omitted => exact absurd rfl hgiven
  | _ => rfl

/-- A field says something if the one it is filled in with does. -/
theorem orElse_ne_omitted {field other : Schemas.Field α}
    (hgiven : field ≠ .omitted ∨ other ≠ .omitted) : field.orElse other ≠ .omitted := by
  cases field with
  | omitted => exact hgiven.resolve_left (not_not_intro rfl)
  | _ => exact nofun

/-- A field merged twice. -/
theorem getD_getD (field : Schemas.Field α) (stored : Option α) :
    field.getD (field.getD stored) = field.getD stored := by
  cases field <;> rfl

/-- The values of both fields pass a check. -/
theorem all_orElse {field other : Schemas.Field α} {check : α → Bool}
    (hfield : field.all check = true) (hother : other.all check = true) :
    (field.orElse other).all check = true := by
  cases field with
  | omitted => exact hother
  | _ => exact hfield

end Fields

/-- What a payload says about the switch is not settled by it. -/
theorem keepAliveEnabled_explicit (payload : MonitorUpdate) :
    (explicit payload).keepAliveEnabled = payload.keepAliveEnabled := by
  unfold explicit
  split_ifs <;> rfl

/-- A payload that disables keep-alive says everything about it once it is said in full. -/
theorem explicit_ne_omitted {payload : MonitorUpdate}
    (hdisables : payload.keepAliveEnabled = .value false) :
    (explicit payload).mode ≠ .omitted ∧ (explicit payload).keepAliveIntervalSeconds ≠ .omitted ∧
      (explicit payload).keepAlivePath ≠ .omitted := by
  unfold explicit
  rw [if_pos hdisables]
  exact ⟨orElse_ne_omitted (Or.inr nofun), orElse_ne_omitted (Or.inr nofun),
    orElse_ne_omitted (Or.inr nofun)⟩

/-- Two payloads combined are said in full. -/
theorem explicit_andThen (first second : MonitorUpdate) :
    explicit (andThen first second) = andThen first second := by
  by_cases hdisables : (andThen first second).keepAliveEnabled = .value false
  · have hgiven : (andThen first second).mode ≠ .omitted ∧
        (andThen first second).keepAliveIntervalSeconds ≠ .omitted ∧
          (andThen first second).keepAlivePath ≠ .omitted := by
      unfold andThen at hdisables ⊢
      dsimp only at hdisables ⊢
      rw [keepAliveEnabled_explicit, keepAliveEnabled_explicit] at hdisables
      cases hsecond : second.keepAliveEnabled with
      | omitted =>
        rw [hsecond] at hdisables
        obtain ⟨hmode, hinterval, hpath⟩ := @explicit_ne_omitted first hdisables
        exact ⟨orElse_ne_omitted (Or.inr hmode), orElse_ne_omitted (Or.inr hinterval),
          orElse_ne_omitted (Or.inr hpath)⟩
      | _ =>
        rw [hsecond] at hdisables
        obtain ⟨hmode, hinterval, hpath⟩ := explicit_ne_omitted (hsecond.trans hdisables)
        exact ⟨orElse_ne_omitted (Or.inl hmode), orElse_ne_omitted (Or.inl hinterval),
          orElse_ne_omitted (Or.inl hpath)⟩
    obtain ⟨hmode, hinterval, hpath⟩ := hgiven
    unfold explicit
    rw [if_pos hdisables, orElse_of_ne hmode, orElse_of_ne hinterval, orElse_of_ne hpath]
  · exact if_neg hdisables

/-! ### Merging -/

/-- The values that a payload is merged into, and those that come of it. What must not be null may
be so until it is checked. -/
structure Merged where
  name : Option PyStr
  checkIntervalSeconds : Option ℤ
  mode : Option MonitorMode
  keepAliveEnabled : Option Bool
  keepAliveIntervalSeconds : Option ℤ
  keepAlivePath : Option PyStr

/-- The values of a configuration. -/
def Config.values (config : Config) : Merged :=
  ⟨some config.name, some config.checkIntervalSeconds, some config.mode,
    some config.keepAliveEnabled, config.keepAliveIntervalSeconds, config.keepAlivePath⟩

/-- A payload is merged into values. -/
def Merged.update (values : Merged) (payload : MonitorUpdate) : Merged :=
  ⟨payload.name.getD values.name, payload.checkIntervalSeconds.getD values.checkIntervalSeconds,
    payload.mode.getD values.mode, payload.keepAliveEnabled.getD values.keepAliveEnabled,
    payload.keepAliveIntervalSeconds.getD values.keepAliveIntervalSeconds,
    payload.keepAlivePath.getD values.keepAlivePath⟩

/-- The merged values are checked and settled. -/
def Merged.settle (values : Merged) (config : Config) : Except RequestFailure Config :=
  match values.mode with
  | none => .error .serverError
  | some mode =>
    match validateKeepAliveRules (some mode) values.keepAliveEnabled
      values.keepAliveIntervalSeconds values.keepAlivePath true with
    | some _ => .error .unprocessable
    | none => config.settle values.name values.checkIntervalSeconds values.keepAliveEnabled mode
        values.keepAliveIntervalSeconds values.keepAlivePath

/-- What comes of merging the payload that is said in full: what it leaves out is as in the base. -/
theorem update_explicit (config : Config) (payload : MonitorUpdate) :
    config.values.update (explicit payload) =
      ⟨payload.name.getD (some config.name),
        payload.checkIntervalSeconds.getD (some config.checkIntervalSeconds),
        payload.mode.getD (some (config.base payload).mode),
        payload.keepAliveEnabled.getD (some config.keepAliveEnabled),
        payload.keepAliveIntervalSeconds.getD (config.base payload).keepAliveIntervalSeconds,
        payload.keepAlivePath.getD (config.base payload).keepAlivePath⟩ := by
  unfold explicit Config.base
  split_ifs
  · unfold Merged.update
    simp only [getD_orElse]
    rfl
  · rfl

/-- A revision merges the payload that is said in full. -/
theorem revise_eq_settle (config : Config) (payload : MonitorUpdate) :
    config.revise payload = (config.values.update (explicit payload)).settle config := by
  rw [update_explicit]
  rfl

/-- To merge two payloads one after the other is to merge them combined. -/
theorem update_andThen (values : Merged) (first second : MonitorUpdate) :
    (values.update (explicit first)).update (explicit second) =
      values.update (andThen first second) := by
  unfold Merged.update andThen
  dsimp only
  simp only [getD_orElse]

/-- To merge a payload again changes nothing. -/
theorem update_update (values : Merged) (payload : MonitorUpdate) :
    (values.update payload).update payload = values.update payload := by
  unfold Merged.update
  simp only [getD_getD]

/-- What is settled has the merged values and the URL, and keeps the rules about keep-alive. -/
theorem settle_eq_ok {values : Merged} {config revised : Config}
    (hsettle : values.settle config = .ok revised) :
    revised.values = values ∧ revised.url = config.url ∧
      validateKeepAliveRules (some revised.mode) (some revised.keepAliveEnabled)
        revised.keepAliveIntervalSeconds revised.keepAlivePath true = none := by
  obtain ⟨name, checkInterval, mode, enabled, interval, path⟩ := values
  unfold Merged.settle at hsettle
  cases mode with
  | none => nomatch hsettle
  | some mode =>
    dsimp only at hsettle
    cases hrules : validateKeepAliveRules (some mode) enabled interval path true with
    | some error =>
      rw [hrules] at hsettle
      nomatch hsettle
    | none =>
      rw [hrules] at hsettle
      dsimp only [Config.settle] at hsettle
      split at hsettle
      · split_ifs at hsettle
        obtain rfl := Except.ok.inj hsettle
        exact ⟨rfl, rfl, hrules⟩
      · nomatch hsettle

/-- Of the configuration that is revised, the URL alone is left. -/
theorem settle_congr (values : Merged) {config other : Config} (hurl : config.url = other.url) :
    values.settle config = values.settle other := by
  unfold Merged.settle Config.settle
  rw [hurl]

/-! ### Revisions -/

/-- A revision of a revised configuration is a revision by the payloads combined. -/
theorem revise_andThen {config revised : Config} {first : MonitorUpdate}
    (hrevised : config.revise first = .ok revised) (second : MonitorUpdate) :
    revised.revise second = config.revise (andThen first second) := by
  rw [revise_eq_settle] at hrevised
  obtain ⟨hvalues, hurl, -⟩ := settle_eq_ok hrevised
  rw [revise_eq_settle, revise_eq_settle, hvalues, update_andThen, explicit_andThen]
  exact settle_congr _ hurl

/-- A revision is not seen the second time. -/
theorem revise_again {config revised : Config} {payload : MonitorUpdate}
    (hrevised : config.revise payload = .ok revised) :
    revised.revise payload = .ok revised := by
  have hsettle := hrevised
  rw [revise_eq_settle] at hsettle
  obtain ⟨hvalues, hurl, -⟩ := settle_eq_ok hsettle
  rw [revise_eq_settle, hvalues, update_update, settle_congr _ hurl]
  exact hsettle

/-! ### Acceptance -/

/-- The values that a payload passes keep their own bounds. -/
structure FieldsAccepted (payload : MonitorUpdate) : Prop where
  name : payload.name.all isName = true
  checkIntervalSeconds : payload.checkIntervalSeconds.all isInterval = true
  keepAliveIntervalSeconds : payload.keepAliveIntervalSeconds.all isInterval = true
  keepAlivePath : payload.keepAlivePath.all isKeepAlivePath = true

/-- A payload is accepted if its values keep their bounds and the rules about keep-alive. -/
theorem isAccepted_iff (payload : MonitorUpdate) :
    payload.isAccepted = true ↔ FieldsAccepted payload ∧
      validateKeepAliveRules payload.mode.toOption payload.keepAliveEnabled.toOption
        payload.keepAliveIntervalSeconds.toOption payload.keepAlivePath.toOption false = none := by
  unfold MonitorUpdate.isAccepted
  simp only [Bool.and_eq_true, Option.isNone_iff_eq_none]
  constructor
  · rintro ⟨⟨⟨⟨hname, hcheckInterval⟩, hinterval⟩, hpath⟩, hrules⟩
    exact ⟨⟨hname, hcheckInterval, hinterval, hpath⟩, hrules⟩
  · rintro ⟨⟨hname, hcheckInterval, hinterval, hpath⟩, hrules⟩
    exact ⟨⟨⟨⟨hname, hcheckInterval⟩, hinterval⟩, hpath⟩, hrules⟩

/-- Said in full, a payload passes no other values with bounds. -/
theorem FieldsAccepted.explicit {payload : MonitorUpdate} (haccepted : FieldsAccepted payload) :
    FieldsAccepted (Service.explicit payload) := by
  unfold Service.explicit
  split_ifs
  · exact ⟨haccepted.name, haccepted.checkIntervalSeconds,
      all_orElse haccepted.keepAliveIntervalSeconds rfl, all_orElse haccepted.keepAlivePath rfl⟩
  · exact haccepted

/-- Combined payloads pass the values of either. -/
theorem FieldsAccepted.andThen {first second : MonitorUpdate} (hfirst : FieldsAccepted first)
    (hsecond : FieldsAccepted second) : FieldsAccepted (Service.andThen first second) where
  name := all_orElse hsecond.explicit.name hfirst.explicit.name
  checkIntervalSeconds :=
    all_orElse hsecond.explicit.checkIntervalSeconds hfirst.explicit.checkIntervalSeconds
  keepAliveIntervalSeconds :=
    all_orElse hsecond.explicit.keepAliveIntervalSeconds hfirst.explicit.keepAliveIntervalSeconds
  keepAlivePath := all_orElse hsecond.explicit.keepAlivePath hfirst.explicit.keepAlivePath

/-- An accepted payload that enables keep-alive says an interval. -/
theorem interval_ne_omitted {payload : MonitorUpdate} (haccepted : payload.isAccepted = true)
    (henables : payload.keepAliveEnabled = .value true) :
    (explicit payload).keepAliveIntervalSeconds ≠ .omitted := by
  have hrules := ((isAccepted_iff payload).mp haccepted).2
  have hexplicit : explicit payload = payload := if_neg (by rw [henables]; exact nofun)
  rw [hexplicit]
  intro homitted
  rw [henables, homitted] at hrules
  unfold validateKeepAliveRules at hrules
  split at hrules
  · nomatch hrules
  · nomatch hrules

/-- Combined payloads that enable keep-alive say an interval, if each is accepted. -/
theorem interval_andThen_ne_omitted {first second : MonitorUpdate}
    (hfirst : first.isAccepted = true) (hsecond : second.isAccepted = true)
    (henables : (andThen first second).keepAliveEnabled = .value true) :
    (andThen first second).keepAliveIntervalSeconds ≠ .omitted := by
  unfold andThen at henables ⊢
  dsimp only at henables ⊢
  rw [keepAliveEnabled_explicit, keepAliveEnabled_explicit] at henables
  cases hlater : second.keepAliveEnabled with
  | omitted =>
    rw [hlater] at henables
    exact orElse_ne_omitted (Or.inr (interval_ne_omitted hfirst henables))
  | _ =>
    rw [hlater] at henables
    exact orElse_ne_omitted (Or.inl (interval_ne_omitted hsecond (hlater.trans henables)))

/-- A payload whose merged values keep the rules is accepted, if its own values keep their bounds
and it says an interval where it enables keep-alive. -/
theorem isAccepted_of_revise {config revised : Config} {payload : MonitorUpdate}
    (hfields : FieldsAccepted payload) (hexplicit : explicit payload = payload)
    (hinterval : payload.keepAliveEnabled = .value true →
      payload.keepAliveIntervalSeconds ≠ .omitted)
    (hrevised : config.revise payload = .ok revised) : payload.isAccepted = true := by
  rw [revise_eq_settle, hexplicit] at hrevised
  obtain ⟨hvalues, -, hrules⟩ := settle_eq_ok hrevised
  have hmode : payload.mode.getD (some config.mode) = some revised.mode :=
    (congrArg Merged.mode hvalues).symm
  have henabled : payload.keepAliveEnabled.getD (some config.keepAliveEnabled) =
      some revised.keepAliveEnabled := (congrArg Merged.keepAliveEnabled hvalues).symm
  have hmerged : payload.keepAliveIntervalSeconds.getD config.keepAliveIntervalSeconds =
      revised.keepAliveIntervalSeconds := (congrArg Merged.keepAliveIntervalSeconds hvalues).symm
  have hsaid : payload.mode.toOption = none ∨ payload.mode.toOption = some revised.mode := by
    rcases Field.getD_eq_some hmode with hvalue | ⟨homitted, -⟩
    · exact Or.inr (congrArg Schemas.Field.toOption hvalue)
    · exact Or.inl (congrArg Schemas.Field.toOption homitted)
  refine (isAccepted_iff payload).mpr ⟨hfields, ?_⟩
  rcases Field.getD_eq_some henabled with hvalue | ⟨homitted, -⟩
  · rw [hvalue]
    cases hswitch : revised.keepAliveEnabled with
    | true =>
      rw [hswitch] at hrules hvalue
      obtain ⟨hkeepAlive, hsome⟩ := (validateKeepAliveRules_enabled_iff _ _ _).mp hrules
      have hpassed : ∃ seconds, payload.keepAliveIntervalSeconds = .value seconds := by
        cases hcase : payload.keepAliveIntervalSeconds with
        | omitted => exact absurd hcase (hinterval hvalue)
        | null =>
          rw [hcase] at hmerged
          exact absurd hmerged.symm hsome
        | value seconds => exact ⟨seconds, rfl⟩
      obtain ⟨seconds, hseconds⟩ := hpassed
      rw [hseconds]
      rcases hsaid with hnone | hsame
      · rw [hnone]
        rfl
      · rw [hsame]
        cases hcase : revised.mode with
        | monitor =>
          rw [hcase] at hkeepAlive
          nomatch hkeepAlive
        | _ => rfl
    | false =>
      rw [hswitch] at hrules
      obtain ⟨hmonitor, hnone, -⟩ := (validateKeepAliveRules_disabled_iff _ _ _).mp hrules
      have hpassed : payload.keepAliveIntervalSeconds.toOption = none := by
        cases hcase : payload.keepAliveIntervalSeconds with
        | value seconds =>
          rw [hcase, hnone] at hmerged
          nomatch hmerged
        | _ => rfl
      rw [hpassed]
      rcases hsaid with hmode | hmode
      · rw [hmode]
        rfl
      · rw [hmode, hmonitor]
        rfl
  · rw [homitted]
    unfold validateKeepAliveRules
    cases payload.mode.toOption with
    | none => rfl
    | some mode => cases mode <;> rfl

/-! ### A series of updates -/

/-- Some updates of a monitor, one after the other, that are all accepted and committed. Between
them its configuration stays as it is. -/
inductive Updated : Monitor → List MonitorUpdate → Monitor → Prop
  | done {first last : Monitor} (hsame : configOf last = configOf first) : Updated first [] last
  | update {first loaded updated last : Monitor} {payload : MonitorUpdate}
      {rest : List MonitorUpdate} (hsame : configOf loaded = configOf first)
      (haccepted : payload.isAccepted = true) (now : ℤ)
      (hcommit : commitUpdate payload now loaded loaded = .ok updated)
      (hrest : Updated updated rest last) : Updated first (payload :: rest) last

/-- Combined with the payloads that follow, a payload that was accepted and committed revises the
configuration to the last one, and is accepted. -/
theorem revise_foldl_of_updated {updated last : Monitor} {rest : List MonitorUpdate}
    (hrest : Updated updated rest last) {config : Config} {payload : MonitorUpdate}
    (haccepted : payload.isAccepted = true)
    (hrevised : config.revise payload = .ok (configOf updated)) :
    (rest.foldl andThen payload).isAccepted = true ∧
      config.revise (rest.foldl andThen payload) = .ok (configOf last) := by
  induction hrest generalizing payload with
  | done hsame =>
    rw [hsame]
    exact ⟨haccepted, hrevised⟩
  | @update first loaded updated last second rest hsame hsecond now hcommit hrest ih =>
    have hnext : config.revise (andThen payload second) = .ok (configOf updated) := by
      rw [← revise_andThen hrevised, ← hsame, ← configOf_commitUpdate second now, hcommit]
      rfl
    have hfields := ((isAccepted_iff payload).mp haccepted).1.andThen
      ((isAccepted_iff second).mp hsecond).1
    exact ih (isAccepted_of_revise hfields (explicit_andThen payload second)
      (interval_andThen_ne_omitted haccepted hsecond) hnext) hnext

/-- A series of updates leaves the configuration that a single one would leave, with a payload that
is accepted as well, and to send that one again changes nothing. -/
theorem andThen_of_updated {first last : Monitor} {payload : MonitorUpdate}
    {rest : List MonitorUpdate} (hupdated : Updated first (payload :: rest) last) :
    (rest.foldl andThen payload).isAccepted = true ∧ ∀ now,
      (commitUpdate (rest.foldl andThen payload) now first first).map configOf =
        .ok (configOf last) ∧
      (commitUpdate (rest.foldl andThen payload) now last last).map configOf =
        .ok (configOf last) := by
  cases hupdated with
  | @update _ loaded updated _ _ _ hsame haccepted now hcommit hrest =>
    have hrevised : (configOf first).revise payload = .ok (configOf updated) := by
      rw [← hsame, ← configOf_commitUpdate payload now, hcommit]
      rfl
    obtain ⟨hcombined, hlast⟩ := revise_foldl_of_updated hrest haccepted hrevised
    refine ⟨hcombined, fun later ↦ ?_⟩
    rw [configOf_commitUpdate, configOf_commitUpdate]
    exact ⟨hlast, revise_again hlast⟩

/-- A payload that enables keep-alive with a path. -/
def enabling : MonitorUpdate :=
  ⟨.omitted, .omitted, .value .monitorAndKeepAlive, .value true, .value 60,
    .value "/health".toList⟩

/-- A payload that disables keep-alive, and says nothing about interval, path and mode. -/
def disabling : MonitorUpdate := ⟨.omitted, .value 30, .omitted, .value false, .omitted, .omitted⟩

/-- Keep-alive is enabled and disabled. The two payloads combined set what the second one resets. -/
theorem andThen_of_updated_disabling : ∃ enabled disabled,
    commitUpdate enabling 0 Monitor.dueAtZero Monitor.dueAtZero = .ok enabled ∧
    commitUpdate disabling 5 enabled enabled = .ok disabled ∧
    andThen enabling disabling =
      ⟨.omitted, .value 30, .value .monitor, .value false, .null, .null⟩ ∧
    (andThen enabling disabling).isAccepted = true ∧ ∀ now,
      (commitUpdate (andThen enabling disabling) now Monitor.dueAtZero Monitor.dueAtZero).map
        configOf = .ok (configOf disabled) ∧
      (commitUpdate (andThen enabling disabling) now disabled disabled).map configOf =
        .ok (configOf disabled) :=
  ⟨_, _, rfl, rfl, by decide, andThen_of_updated
    (.update rfl (by decide) 0 rfl (.update rfl (by decide) 5 rfl (.done rfl)))⟩

end PingGuard.Service
