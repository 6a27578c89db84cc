import PingGuard.Concurrent.History
import PingGuard.Net.Bridges
import PingGuard.Net.PinnedRequest

/-!
# Where the probes go

From the request that registers a monitor to the requests of its probes. A client chooses the URL
when it registers the monitor, and the path for keep-alive requests then and later. The workers read
both from the database while sweeps and requests change it. Whatever they read, a probe starts with
a request to the host that was registered, and no request of it goes to a blocked address
(`startsAt_of_reaches`).
-/

set_option autoImplicit false
set_option relaxedAutoImplicit false

namespace PingGuard.Concurrent

open Library.IpText Library.PyText Library.SerialTable Library.Transition Library.UrlSplit Models
open Net ProbeTask Schemas Ssrf Sweep Urls

variable {settings : Settings} {system next : System} {action : Action}

/-! ### One probe -/

/-- A request for a URL with an authority: its scheme is that of the URL, its host is the authority,
without user information, and the server name for TLS is the host name of the URL. -/
structure StartsAt (tables : UnicodeTables) (base : AuthorityUrl) (request : Request) : Prop where
  scheme : (written request.url).scheme = base.scheme.map Char.toLower
  host : request.host = base.authority
  noUserinfo : '@' ∉ request.host
  serverName : ∀ name, request.sniHostname = some name →
    ∃ parsed, urlsplit tables base.text [] = some parsed ∧ parsed.hostname tables = some name

/-- A probe of a task is one of a URL with the scheme and the authority of the monitored URL. -/
theorem exists_probed (env : ProbeEnv) (http : HttpSettings) (task : Task) {monitor : Monitor}
    {base : AuthorityUrl} (htext : monitor.url = base.text) :
    ∃ config, ∃ probed : AuthorityUrl, config.allowLoopback = false ∧
      probeOf env http task monitor = performHttpProbe env config probed.text ∧
        probed.scheme = base.scheme ∧ probed.authority = base.authority := by
  unfold probeOf
  rw [htext]
  cases task with
  | executePing =>
    exact ⟨http.probeConfig http.httpUserAgent false, base, rfl, rfl, rfl, rfl⟩
  | executeKeepAlive =>
    obtain ⟨joined, hjoined, hscheme, hauthority⟩ := exists_joined base monitor.keepAlivePath
    refine ⟨http.probeConfig http.httpKeepAliveUserAgent false, joined, rfl, ?_, hscheme,
      hauthority⟩
    unfold robustKeepAlive
    rw [hjoined]

/-- The first request of a probe of a URL starts at the URL. -/
theorem startsAt_performHttpProbe {env : ProbeEnv} {config : ProbeConfig}
    {base probed : AuthorityUrl} (hscheme : probed.scheme = base.scheme)
    (hauthority : probed.authority = base.authority)
    (hclean : ∀ c ∈ base.authority, c ∉ unsafeCharacters) (hat : '@' ∉ base.authority)
    (hzones : ZonesAlphanumeric (env.resolver 0)) {hop : Hop}
    (hhop : (performHttpProbe env config probed.text).hops.head? = some hop) {request : Request}
    (hrequest : hop.request = some request) : StartsAt env.tables base request := by
  rw [head?_performHttpProbe, Option.some_inj] at hhop
  subst hhop
  obtain ⟨found, pinnedIp, port, hvalidation, -, rfl⟩ := probeHop_request hrequest
  have hsplit := (asyncResolveAndValidateTarget_eq_ok hvalidation).1
  have hsame := @AuthorityUrl.urlsplit_text_congr env.tables _ _ hscheme hauthority
  rw [hsplit, Option.map_some, eq_comm, Option.map_eq_some_iff] at hsame
  obtain ⟨parsed, hparsed, heq⟩ := hsame
  obtain ⟨hparsedScheme, hnetloc⟩ := Prod.mk.inj heq
  -- what `urlsplit` finds in the registered URL
  have hread := AuthorityUrl.urlsplit_text env.tables base
  rw [hparsed, cleaned_of_forall hclean] at hread
  split_ifs at hread with hchecks
  obtain rfl := Option.some.inj hread
  have hhost : found.netloc = base.authority := hnetloc.symm
  have hne : found.netloc ≠ [] := by
    rw [hhost]
    exact base.authority_ne
  obtain ⟨⟨ip, hip⟩, hdelimiters⟩ := notMem_pinnedIp hzones hvalidation
  refine ⟨?_, hhost, ?_, fun name hname ↦ ⟨_, hparsed, ?_⟩⟩
  · change (written (pinnedUrl found pinnedIp port)).scheme = _
    rw [written_pinnedUrl hsplit hne hip hdelimiters port]
    exact hparsedScheme.symm
  · change '@' ∉ found.netloc
    rw [hhost]
    exact hat
  · simp only [pinnedRequest] at hname
    split_ifs at hname
    unfold SplitResult.hostname at hname ⊢
    rwa [hhost] at hname

/-- No request of a probe without loopback addresses goes to a blocked address. -/
theorem not_isIpBlocked_of_request {env : ProbeEnv} {config : ProbeConfig} {url : PyStr}
    (hloopback : config.allowLoopback = false)
    (hzones : ∀ redirectCount, ZonesAlphanumeric (env.resolver redirectCount)) :
    ∀ hop ∈ (performHttpProbe env config url).hops, ∀ request, hop.request = some request →
      ∃ ip, ipAddress (writtenHost request.url) = some ip ∧ isIpBlocked ip = false := by
  refine forall_mem_probeLoop ?_ config.maxRedirects 0 url
  intro redirectCount currentUrl request hrequest
  obtain ⟨ip, hip, hpinned⟩ := probeHop_pinned (hzones redirectCount) hrequest
  have hpasses : ∀ other, Passes (config.allowLoopback = true ∧ redirectCount = 0) other →
      isIpBlocked other = false := by
    intro other hother
    rcases hother with hblocked | ⟨⟨hallowed, -⟩, -⟩
    · exact hblocked
    · exact absurd (hloopback.symm.trans hallowed) Bool.false_ne_true
  refine ⟨ip, hip, ?_⟩
  rcases hpinned with ⟨-, -, hpass⟩ | ⟨_, _, entries, -, -, ⟨text, hmem, htext⟩, hall⟩
  · exact hpasses ip hpass
  · obtain ⟨text', other, heq, hother, hpass⟩ := hall _ hmem
    obtain rfl := Option.some.inj heq
    obtain rfl := Option.some.inj (htext.symm.trans hother)
    exact hpasses ip hpass

/-! ### What is registered -/

/-- An `HttpUrl` as its library writes and reads it: its text is a URL with an authority, which has
no user information if there are no credentials. -/
structure IsParsed (url : HttpUrl) (base : AuthorityUrl) : Prop where
  text : base.text = url.text
  clean : ∀ c ∈ base.authority, c ∉ unsafeCharacters
  userinfo : url.username.any (· ≠ []) = false → url.password.any (· ≠ []) = false →
    '@' ∉ base.authority

/-- A URL text that was registered: that of an `HttpUrl` that the validator accepts. -/
def IsTarget (tables : UnicodeTables) (registered : HttpUrl → Prop) (text : PyStr) : Prop :=
  ∃ url, registered url ∧ validateUrlSchemeAndSafety tables url = true ∧ text = url.text

/-- Only a request that creates a monitor reads the settings. -/
theorem step_settings (other : Settings) (hother : ∀ payload, action ≠ .countMonitors payload) :
    step settings system action = step other system action := by
  cases action with
  | countMonitors payload => exact absurd rfl (hother payload)
  | _ => rfl

/-- A request that creates a monitor and is in progress after a step was so before it, or has just
counted the rows. -/
theorem create_of_step (hstep : step settings system action = some next) {processId : ℕ}
    {payload : MonitorCreate} (hget : next.processes.get processId = some (.create payload)) :
    system.processes.get processId = some (.create payload) ∨ action = .countMonitors payload := by
  by_cases hcount : ∃ counted, action = .countMonitors counted
  · obtain ⟨counted, rfl⟩ := hcount
    change countMonitors settings system counted = some next at hstep
    unfold countMonitors at hstep
    split_ifs at hstep
    obtain rfl := Option.some.inj hstep
    rcases of_get_start hget with ⟨-, heq⟩ | ⟨-, hbefore⟩
    · exact Or.inr (congrArg _ (Process.create.inj heq).symm)
    · exact Or.inl hbefore
  · -- where no rows are allowed no other step lets a request in
    have hsame := @step_settings settings system action ⟨settings.tables, 0⟩
      fun counted heq ↦ hcount ⟨counted, heq⟩
    rcases create_of_transition (transition_of_step (hsame.symm.trans hstep)) hget with
      hbefore | ⟨-, hroom⟩
    · exact Or.inl hbefore
    · exact absurd hroom (Nat.not_lt_zero _)

/-- The URL of a row after a step is the one it had, or that of the row that is committed. -/
theorem url_of_rowStep {results : Table PingResult} {monitorId : ℕ} {after : Monitor}
    {writers : Schedule → List Writer}
    (hrow : RowStep settings system results monitorId action after writers) :
    (∃ before, system.monitor monitorId = some before ∧ after.url = before.url) ∨
      ∃ processId row, system.processes.get processId = some (.inserted monitorId row) ∧
        ¬ system.database.monitors.IsSpent monitorId ∧ after.url = row.payload.url.text := by
  have hnot : ¬ ColumnGroup.identity.IsWritten monitorId system action := by
    cases action <;> simp [ColumnGroup.IsWritten]
  by_cases hspent : system.database.monitors.IsSpent monitorId
  · exact Or.inl (hrow.agree hspent hnot)
  · have hstored : ∀ stored, system.monitor monitorId ≠ some stored := fun stored hget ↦
      hspent (Table.isSpent_of_get _ hget)
    cases hrow with
    | created processId row hprocess hreserved =>
      exact Or.inr ⟨processId, row, hprocess, hspent, rfl⟩
    | kept _ hget => exact absurd hget (hstored _)
    | claimed _ _ _ _ _ hget _ _ => exact absurd hget (hstored _)
    | recovered _ _ _ _ _ _ _ _ hget => exact absurd hget (hstored _)
    | updated _ _ _ _ _ _ _ hget _ => exact absurd hget (hstored _)
    | probed _ _ _ _ _ _ _ _ _ hget _ => exact absurd hget (hstored _)

/-! ### Every step -/

/-- The URLs that are stored and loaded are registered ones, and the URL of a monitor is the one
that its probes have loaded. -/
structure TargetsRegistered (settings : Settings) (registered : HttpUrl → Prop) (system : System) :
    Prop where
  locks : LocksHold system
  items : ItemsDistinct system
  creates : ∀ processId payload, system.processes.get processId = some (.create payload) →
    IsTarget settings.tables registered payload.url.text
  inserts : ∀ processId monitorId row,
    system.processes.get processId = some (.inserted monitorId row) →
      IsTarget settings.tables registered row.payload.url.text
  rows : ∀ monitorId monitor, system.monitor monitorId = some monitor →
    IsTarget settings.tables registered monitor.url
  loads : ∀ processId run, system.processes.get processId = some (.probe run) →
    system.database.monitors.IsSpent run.monitorId ∧
      IsTarget settings.tables registered run.loaded.url ∧
        ∀ stored, system.monitor run.monitorId = some stored → stored.url = run.loaded.url

/-- Nothing is registered at the start. -/
theorem TargetsRegistered.empty (settings : Settings) (registered : HttpUrl → Prop) :
    TargetsRegistered settings registered (System.idle .empty) where
  locks := LocksHold.idle .empty
  items := fun _ _ hget ↦ nomatch hget
  creates := fun _ _ hget ↦ nomatch hget
  inserts := fun _ _ _ hget ↦ nomatch hget
  rows := fun _ _ hget ↦ nomatch hget
  loads := fun _ _ hget ↦ nomatch hget

/-- A payload that is accepted has a URL that the validator accepts. -/
theorem validateUrl_of_isAccepted {tables : UnicodeTables} {payload : MonitorCreate}
    (haccepted : payload.isAccepted tables = true) :
    validateUrlSchemeAndSafety tables payload.url = true := by
  unfold MonitorCreate.isAccepted at haccepted
  simp only [Bool.and_eq_true] at haccepted
  exact haccepted.1.1.1.1.2

/-- Every step keeps it. -/
theorem TargetsRegistered.step {registered : HttpUrl → Prop}
    (htargets : TargetsRegistered settings registered system)
    (hregistered : ∀ payload, action = .countMonitors payload → registered payload.url)
    (hstep : Concurrent.step settings system action = some next) :
    TargetsRegistered settings registered next := by
  have htransition := transition_of_step hstep
  have hrow : ∀ {monitorId monitor}, next.monitor monitorId = some monitor →
      (∃ before, system.monitor monitorId = some before ∧ monitor.url = before.url) ∨
        ∃ processId row, system.processes.get processId = some (.inserted monitorId row) ∧
          ¬ system.database.monitors.IsSpent monitorId ∧
            monitor.url = row.payload.url.text := by
    intro monitorId monitor hget
    obtain ⟨writers, hrow, -⟩ :=
      rowStep_of_transition htargets.locks htargets.items htransition hget
    exact url_of_rowStep hrow
  refine ⟨htargets.locks.step htransition, htargets.items.step htargets.locks htransition,
    ?_, ?_, ?_, ?_⟩
  · intro processId payload hget
    rcases create_of_step hstep hget with hbefore | rfl
    · exact htargets.creates processId payload hbefore
    · rcases create_of_transition htransition hget with hbefore | ⟨haccepted, -⟩
      · exact htargets.creates processId payload hbefore
      · exact ⟨payload.url, hregistered payload rfl, validateUrl_of_isAccepted haccepted, rfl⟩
  · intro processId monitorId row hget
    rcases inserted_of_transition htransition hget with hbefore | ⟨_, -, -, hcreating, -⟩
    · exact htargets.inserts processId monitorId row hbefore
    · exact htargets.creates processId row.payload hcreating
  · intro monitorId monitor hget
    rcases hrow hget with ⟨before, hbefore, hurl⟩ | ⟨processId, row, hbefore, -, hurl⟩
    · rw [hurl]
      exact htargets.rows monitorId before hbefore
    · rw [hurl]
      exact htargets.inserts processId monitorId row hbefore
  · -- a monitor that was loaded is not created by the step
    have hkept : ∀ run : ProbeRun, system.database.monitors.IsSpent run.monitorId →
        (∀ stored, system.monitor run.monitorId = some stored → stored.url = run.loaded.url) →
          ∀ stored, next.monitor run.monitorId = some stored → stored.url = run.loaded.url := by
      intro run hspent hsame stored hget
      rcases hrow hget with ⟨before, hbefore, hurl⟩ | ⟨_, _, -, hnew, -⟩
      · exact hurl.trans (hsame before hbefore)
      · exact absurd hspent hnew
    intro processId run hget
    rcases probe_of_transition htransition hget with ⟨before, hbefore, hmonitorId, heq⟩ | hread
    · obtain ⟨hspent, htarget, hsame⟩ := htargets.loads processId before hbefore
      rw [hmonitorId] at hspent hsame
      rw [heq] at htarget hsame
      exact ⟨isSpent_of_transition htransition hspent, htarget, hkept run hspent hsame⟩
    · have hspent := Table.isSpent_of_get _ hread
      refine ⟨isSpent_of_transition htransition hspent, htargets.rows _ _ hread,
        hkept run hspent fun stored hstored ↦ ?_⟩
      rw [Option.some.inj (hstored.symm.trans hread)]

/-! ### Every run -/

/-- In every run that clients, sweeps and probe tasks make from an empty database, every probe of a
task starts with a request to the host of a URL that was registered and accepted, which still is the
URL of the monitor if that is stored, and none of its requests goes to a blocked address.
Assumes: the URLs that are registered are as their library writes them, and the zones of resolver
addresses are alphanumeric. -/
theorem startsAt_of_reaches {registered : HttpUrl → Prop}
    (hparsed : ∀ url, registered url → ∃ base, IsParsed url base)
    (hreaches : Reaches (step settings) (fun _ action ↦ ∀ payload,
      action = .countMonitors payload → registered payload.url) (System.idle .empty) system)
    {processId : ℕ} {run : ProbeRun} (hprobe : system.processes.get processId = some (.probe run))
    (env : ProbeEnv) (http : HttpSettings)
    (hzones : ∀ redirectCount, ZonesAlphanumeric (env.resolver redirectCount)) :
    (∃ url base, registered url ∧ validateUrlSchemeAndSafety settings.tables url = true ∧
      IsParsed url base ∧
      (∀ stored, system.monitor run.monitorId = some stored → stored.url = url.text) ∧
      ∀ hop, (probeOf env http run.task run.loaded).hops.head? = some hop →
        ∀ request, hop.request = some request → StartsAt env.tables base request) ∧
    ∀ hop ∈ (probeOf env http run.task run.loaded).hops, ∀ request, hop.request = some request →
      ∃ ip, ipAddress (writtenHost request.url) = some ip ∧ isIpBlocked ip = false := by
  have htargets : TargetsRegistered settings registered system := by
    refine hreaches.invariant (motive := TargetsRegistered settings registered)
      (.empty settings registered) ?_
    intro state label after htargets hregistered hstep
    exact htargets.step hregistered hstep
  obtain ⟨-, ⟨url, hurl, hvalid, htext⟩, hstored⟩ := htargets.loads processId run hprobe
  obtain ⟨base, hbase⟩ := hparsed url hurl
  have hat : '@' ∉ base.authority := by
    unfold validateUrlSchemeAndSafety at hvalid
    simp only [Bool.and_eq_true, Bool.not_eq_true', Bool.or_eq_false_iff] at hvalid
    exact hbase.userinfo hvalid.1.1.2.1 hvalid.1.1.2.2
  obtain ⟨config, probed, hloopback, hrun, hscheme, hauthority⟩ :=
    exists_probed env http run.task (htext.trans hbase.text.symm)
  rw [hrun]
  refine ⟨⟨url, base, hurl, hvalid, hbase, fun stored hget ↦ (hstored stored hget).trans htext, ?_⟩,
    not_isIpBlocked_of_request hloopback hzones⟩
  intro hop hhop request hrequest
  exact startsAt_performHttpProbe hscheme hauthority hbase.clean hat (hzones 0) hhop hrequest

/-- A monitor is registered with a path that looks like another host behind user information, and a
keep-alive request is sent. -/
def pathWithHost : List Action :=
  [.countMonitors (keepAliveMonitor apiUrl.text "/@10.0.0.1:80/".toList), .insertMonitor 1 0 0,
    .commitCreate 1, .loadProbe .executeKeepAlive 1 0]

/-- What the server answers to it. -/
def plainEnv : ProbeEnv := steadyEnv (.response ⟨200, none, [], none, none⟩)

/-- The request goes to the host that is registered. -/
theorem startsAt_of_reaches_pathWithHost : ∃ system run hop request,
    Library.Transition.run (step .default) (System.idle .empty) pathWithHost = some system ∧
    system.processes.get 2 = some (.probe run) ∧
    (probeOf plainEnv plainHttp run.task run.loaded).hops.head? = some hop ∧
    hop.request = some request ∧ request.host = "example.com".toList ∧
    (∃ base : AuthorityUrl, base.text = apiUrl.text ∧ StartsAt plainEnv.tables base request) ∧
    ∃ ip, ipAddress (writtenHost request.url) = some ip ∧ isIpBlocked ip = false := by
  have hallowed : ∀ label ∈ pathWithHost, ∀ _ : System, ∀ payload,
      label = .countMonitors payload →
        payload.url = (keepAliveMonitor apiUrl.text "/@10.0.0.1:80/".toList).url := by
    intro label hlabel state payload heq
    simp only [pathWithHost, List.mem_cons, List.not_mem_nil, or_false] at hlabel
    rcases hlabel with rfl | rfl | rfl | rfl
    · exact congrArg MonitorCreate.url (Action.countMonitors.inj heq).symm
    · exact Action.noConfusion heq
    · exact Action.noConfusion heq
    · exact Action.noConfusion heq
  have hparsed : ∀ url, url = (keepAliveMonitor apiUrl.text "/@10.0.0.1:80/".toList).url →
      ∃ base, IsParsed url base := by
    rintro url rfl
    exact ⟨apiUrl, rfl, List.forall_iff_forall_mem.mp (by decide), fun _ _ ↦ by decide⟩
  have hrun : (Library.Transition.run (step .default) (System.idle .empty) pathWithHost).bind
      (fun system ↦ system.processes.get 2) =
        some (.probe ⟨.executeKeepAlive, 1, 0, Api.newMonitor
          (keepAliveMonitor apiUrl.text "/@10.0.0.1:80/".toList) 0, .probing⟩) := rfl
  have hsent : ((probeOf plainEnv plainHttp .executeKeepAlive (Api.newMonitor
      (keepAliveMonitor apiUrl.text "/@10.0.0.1:80/".toList) 0)).hops.head?.bind
        Hop.request).map Request.host = some "example.com".toList := by decide +kernel
  obtain ⟨system, hsystem, hprobe⟩ := Option.bind_eq_some_iff.mp hrun
  obtain ⟨request, hrequest, hhost⟩ := Option.map_eq_some_iff.mp hsent
  obtain ⟨hop, hhop, hsends⟩ := Option.bind_eq_some_iff.mp hrequest
  obtain ⟨⟨url, base, rfl, -, hbase, -, hstarts⟩, hpasses⟩ := startsAt_of_reaches hparsed
    (reaches_of_run .start hallowed hsystem) hprobe plainEnv plainHttp
    fun _ ↦ zonesAlphanumeric_singleResolver
  exact ⟨system, _, hop, request, hsystem, hprobe, hhop, hsends, hhost,
    ⟨base, hbase.text, hstarts hop hhop request hsends⟩,
    hpasses hop (List.mem_of_mem_head? hhop) request hsends⟩

end PingGuard.Concurrent
