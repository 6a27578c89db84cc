import PingGuard.Net.Pinning

/-!
# What pinning leaves of a URL

The request of a hop is built from pieces of the URL of the hop: the scheme, the path, the query and
the port go into the pinned URL, the authority into the `Host` header and the host into the server
name for TLS. `ChangesOnlyDestination` says that nothing but the destination of the connection
differs from the URL of the hop, with the pinned URL read as it is written.

Three kinds of URLs that pass the validation come out different. An authority with an empty user
name reaches the `Host` header with its at sign, one with an empty port with its colon, and port 0
is taken for no port, so the request goes to the default port.
`performHttpProbe_changesOnlyDestination_iff` says that there are no others.
-/

set_option autoImplicit false
set_option relaxedAutoImplicit false

namespace PingGuard.Net

open Library.IpAddress Library.IpText Library.PyText Library.UrlSplit Ssrf Status

/-! ### The property -/

/-- The port that a URL is reached at: its own, or the default one of its scheme. -/
def effectivePort (parsed : SplitResult) : Option ℕ :=
  parsed.port.map (·.getD (if parsed.scheme = "https".toList then 443 else 80))

/-- The host of a URL as it is written, in its brackets if it has some. -/
def bracketedHost (parsed : SplitResult) : PyStr :=
  if '[' ∈ (rpartition '@' parsed.netloc).2.2 then '[' :: (hostinfo parsed.netloc).1 ++ [']']
  else (hostinfo parsed.netloc).1

/-- What the `Host` header of a URL is: its host, and behind a colon its port if it has one. -/
def hostAndPort (parsed : SplitResult) : PyStr :=
  bracketedHost parsed ++ match (hostinfo parsed.netloc).2 with
    | none => []
    | some port => ':' :: port

/-- A request differs from the URL of its hop in the destination of the connection alone. -/
structure ChangesOnlyDestination (tables : UnicodeTables) (parsed : SplitResult)
    (request : Request) : Prop where
  scheme : (written request.url).scheme = parsed.scheme
  port : effectivePort (written request.url) = effectivePort parsed
  path : (written request.url).path = if parsed.path = [] then ['/'] else parsed.path
  query : (written request.url).query = parsed.query
  host : request.host = hostAndPort parsed
  noUserinfo : '@' ∉ request.host
  serverName : parsed.scheme = "https".toList → request.sniHostname = parsed.hostname tables

/-! ### The pinned URL as it is written -/

/-- A URL with a host has an authority. -/
theorem netloc_ne_nil_of_hostname {tables : UnicodeTables} {parsed : SplitResult}
    {hostname : PyStr} (hhostname : parsed.hostname tables = some hostname) :
    parsed.netloc ≠ [] := by
  intro hempty
  unfold SplitResult.hostname at hhostname
  rw [hempty] at hhostname
  exact absurd hhostname (Option.some_ne_none hostname).symm

/-- The pinned URL is read as the URL of the hop with another authority and a path that is not
empty. -/
theorem written_pinnedUrl {tables : UnicodeTables} {url : PyStr} {parsed : SplitResult}
    (hsplit : urlsplit tables url [] = some parsed) (hne : parsed.netloc ≠ []) {pinnedIp : PyStr}
    {ip : IPAddress} (hip : ipAddress pinnedIp = some ip)
    (hclean : ∀ c ∈ hostDelimiters, c ∉ pinnedIp) (port : Option ℕ) :
    written (pinnedUrl parsed pinnedIp port) = { parsed with
      netloc := rewrittenNetloc pinnedIp port
      path := if parsed.path = [] then ['/'] else parsed.path } := by
  have hparsed := isWritable_of_urlsplit hsplit hne
  obtain ⟨hnetlocNe, hnetloc, -⟩ := rewrittenNetloc_spec hip hclean port
  apply IsWritable.written_urlunsplit
  refine ⟨hparsed.scheme, hparsed.lowercase, hnetlocNe, hnetloc, ?_, ?_, ?_, hparsed.query_hash⟩
  all_goals dsimp only; split_ifs
  · exact fun c hhead ↦ (Option.some.inj hhead).symm
  · exact hparsed.path_head
  · decide
  · exact hparsed.path_question
  · decide
  · exact hparsed.path_hash

/-- The port that a pinned URL is reached at. -/
theorem effectivePort_pinnedUrl {tables : UnicodeTables} {url : PyStr} {parsed : SplitResult}
    (hsplit : urlsplit tables url [] = some parsed) (hne : parsed.netloc ≠ []) {pinnedIp : PyStr}
    {ip : IPAddress} (hip : ipAddress pinnedIp = some ip)
    (hclean : ∀ c ∈ hostDelimiters, c ∉ pinnedIp) {port : Option ℕ}
    (hport : parsed.port = some port) :
    effectivePort (written (pinnedUrl parsed pinnedIp port)) =
      some ((port.filter (· ≠ 0)).getD (if parsed.scheme = "https".toList then 443 else 80)) := by
  have hbound : ∀ n, port = some n → n ≤ 65535 := by
    intro n hn
    rw [hn] at hport
    exact SplitResult.port_le hport
  have hinfo : (hostinfo (rewrittenNetloc pinnedIp port)).2 = portText (portSuffix port) :=
    congrArg Prod.snd (rewrittenNetloc_spec hip hclean port).2.2
  have hpinned : (written (pinnedUrl parsed pinnedIp port)).port =
      some (port.filter (· ≠ 0)) := by
    rw [written_pinnedUrl hsplit hne hip hclean]
    exact SplitResult.port_eq hbound hinfo
  rw [effectivePort, hpinned, written_pinnedUrl hsplit hne hip hclean]
  rfl

/-- The port of a pinned URL is the port of the hop, unless that is 0. -/
theorem effectivePort_pinnedUrl_iff {tables : UnicodeTables} {url : PyStr} {parsed : SplitResult}
    (hsplit : urlsplit tables url [] = some parsed) (hne : parsed.netloc ≠ []) {pinnedIp : PyStr}
    {ip : IPAddress} (hip : ipAddress pinnedIp = some ip)
    (hclean : ∀ c ∈ hostDelimiters, c ∉ pinnedIp) {port : Option ℕ}
    (hport : parsed.port = some port) :
    effectivePort (written (pinnedUrl parsed pinnedIp port)) = effectivePort parsed ↔
      port ≠ some 0 := by
  rw [effectivePort_pinnedUrl hsplit hne hip hclean hport, effectivePort, hport, Option.map_some,
    Option.some_inj]
  match port with
  | none => exact iff_of_true rfl (Option.some_ne_none 0).symm
  | some 0 =>
    refine iff_of_false ?_ (not_not.mpr rfl)
    change (if _ then 443 else 80) ≠ 0
    split_ifs <;> decide
  | some (n + 1) => exact iff_of_true rfl (by simp)

/-! ### The request of a hop -/

/-- A text without a colon does not end with one. -/
theorem getLast?_ne_colon {text : PyStr} (hcolon : ':' ∉ text) : text.getLast? ≠ some ':' :=
  fun hlast ↦ hcolon (List.mem_of_getLast? hlast)

/-- An authority without user information is its host and a rest, which is empty or a colon and the
text of the port. -/
theorem exists_bracketedHost_append {parsed : SplitResult} (hat : '@' ∉ parsed.netloc)
    (hbrackets : checkBrackets parsed.netloc = true) :
    ∃ rest, parsed.netloc = bracketedHost parsed ++ rest ∧
      (hostinfo parsed.netloc).2 = portText rest ∧ (∀ c, rest.head? = some c → c = ':') ∧
        (bracketedHost parsed).getLast? ≠ some ':' := by
  unfold bracketedHost
  rw [rpartition_of_notMem hat]
  dsimp only
  by_cases hopen : '[' ∈ parsed.netloc
  · rw [if_pos hopen]
    unfold checkBrackets checkBracketedNetloc at hbrackets
    rw [if_pos hopen, rpartition_of_notMem hat, Bool.and_eq_true, decide_eq_true_eq] at hbrackets
    obtain ⟨hclose, hcheck⟩ := hbrackets
    dsimp only at hcheck
    rcases partition_cases '[' parsed.netloc with ⟨hnot, -⟩ | ⟨before, bracketed, hnetloc, -, heq⟩
    · exact absurd hopen hnot
    rw [heq] at hcheck
    simp only [Bool.and_eq_true, Bool.or_eq_true, decide_eq_true_eq] at hcheck
    obtain ⟨⟨rfl, hport⟩, -⟩ := hcheck
    rw [List.nil_append] at hnetloc
    rcases partition_cases ']' bracketed with ⟨hnot, -⟩ | ⟨host, rest, rfl, hhost, hcut⟩
    · rw [hnetloc] at hclose
      exact absurd hclose (by simp [hnot])
    rw [hcut] at hport
    rw [hnetloc] at hat ⊢
    obtain ⟨hatHost, hatRest⟩ : '@' ∉ host ∧ '@' ∉ rest := by simpa using hat
    have hinfo := hostinfo_bracketed hatHost hhost hatRest
    rw [List.cons_append] at hinfo
    rw [hinfo]
    refine ⟨rest, by simp, rfl, fun c hhead ↦ ?_, ?_⟩
    · rcases hport with rfl | hport
      · nomatch hhead
      · exact Option.some.inj (hhead.symm.trans hport)
    · rw [List.getLast?_concat]
      decide
  · rw [if_neg hopen]
    -- the port is behind the first colon
    rcases partition_cases ':' parsed.netloc with ⟨hcolon, -⟩ | ⟨host, text, hnetloc, hcolon, -⟩
    · have hinfo := hostinfo_plain hat hopen hcolon List.not_mem_nil List.not_mem_nil nofun
      rw [List.append_nil] at hinfo
      rw [hinfo]
      exact ⟨[], (List.append_nil _).symm, rfl, nofun, getLast?_ne_colon hcolon⟩
    · rw [hnetloc] at hat hopen ⊢
      obtain ⟨hatHost, hatText⟩ : '@' ∉ host ∧ '@' ∉ text := by simpa using hat
      obtain ⟨hopenHost, hopenText⟩ : '[' ∉ host ∧ '[' ∉ text := by simpa using hopen
      have hhead : ∀ c, (':' :: text).head? = some c → c = ':' :=
        fun c hhead ↦ (Option.some.inj hhead).symm
      rw [hostinfo_plain hatHost hopenHost hcolon (by simpa using hatText)
        (by simpa using hopenText) hhead]
      exact ⟨':' :: text, rfl, rfl, hhead, getLast?_ne_colon hcolon⟩

/-- A port has no other colon. -/
theorem notMem_of_port {parsed : SplitResult} {port : Option ℕ} {text : PyStr}
    (hport : parsed.port = some port) (htext : (hostinfo parsed.netloc).2 = some text) :
    ':' ∉ text := by
  unfold SplitResult.port at hport
  rw [htext] at hport
  dsimp only at hport
  split_ifs at hport with hdigits
  intro hmem
  exact absurd (List.all_eq_true.mp hdigits ':' hmem) (by decide)

/-- The authority is the host and the port exactly when it does not end with the colon of an empty
port. -/
theorem netloc_eq_hostAndPort_iff {parsed : SplitResult} (hat : '@' ∉ parsed.netloc)
    (hbrackets : checkBrackets parsed.netloc = true) {port : Option ℕ}
    (hport : parsed.port = some port) :
    parsed.netloc = hostAndPort parsed ↔ parsed.netloc.getLast? ≠ some ':' := by
  obtain ⟨rest, hnetloc, htext, hcolon, hlast⟩ := exists_bracketedHost_append hat hbrackets
  unfold hostAndPort
  cases rest with
  | nil =>
    rw [htext, hnetloc, List.append_nil]
    exact iff_of_true (List.append_nil _).symm hlast
  | cons c text =>
    obtain rfl := hcolon c rfl
    have hportText : portText (':' :: text) = if text = [] then none else some text := rfl
    rw [hportText] at htext
    by_cases hempty : text = []
    · rw [if_pos hempty] at htext
      rw [htext, hnetloc, hempty]
      exact iff_of_false (by simp) (by simp)
    · rw [if_neg hempty] at htext
      rw [htext, hnetloc]
      refine iff_of_true rfl ?_
      rw [List.getLast?_append_of_ne_nil _ (List.cons_ne_nil _ _),
        List.getLast?_cons_of_ne_nil hempty]
      exact getLast?_ne_colon (notMem_of_port hport htext)

/-- The server name of a request is the host of the URL of its hop, for https. -/
theorem sniHostname_pinnedRequest {tables : UnicodeTables} {config : ProbeConfig}
    {parsed : SplitResult} {hostname : PyStr} (hhostname : parsed.hostname tables = some hostname)
    (hne : hostname ≠ []) (pinnedIp : PyStr) (port : Option ℕ)
    (hscheme : parsed.scheme = "https".toList) :
    (pinnedRequest tables config parsed pinnedIp port).sniHostname = parsed.hostname tables := by
  have hlower : lower tables "https".toList = "https".toList :=
    lower_of_ascii (List.forall_iff_forall_mem.mp (by decide))
  have htruthy : isTruthy (parsed.hostname tables) = true := by
    rw [hhostname]
    exact decide_eq_true hne
  change (if _ then _ else _) = _
  rw [hscheme, if_pos ⟨hlower, htruthy⟩]

/-- An authority without user information or an empty port, and a port that is not 0. -/
def HasPlainAuthority (parsed : SplitResult) : Prop :=
  '@' ∉ parsed.netloc ∧ parsed.netloc.getLast? ≠ some ':' ∧ parsed.port ≠ some (some 0)

/-- The request of a validated target differs from its URL in the destination alone exactly when the
authority has no at sign and does not end with a colon, and the port is not 0. -/
theorem changesOnlyDestination_iff {tables : UnicodeTables} {config : ProbeConfig} {url : PyStr}
    {parsed : SplitResult} {allowLoopback : Bool}
    (hreads : ReadsPort tables allowLoopback url parsed) {pinnedIp : PyStr} {ip : IPAddress}
    (hip : ipAddress pinnedIp = some ip) (hclean : ∀ c ∈ hostDelimiters, c ∉ pinnedIp)
    {port : Option ℕ} (hport : parsed.port = some port) :
    ChangesOnlyDestination tables parsed (pinnedRequest tables config parsed pinnedIp port) ↔
      HasPlainAuthority parsed := by
  obtain ⟨hsplit, -, hostname, hhostname, hhostnameNe, -⟩ := hreads
  have hne := netloc_ne_nil_of_hostname hhostname
  have hwritten := written_pinnedUrl hsplit hne hip hclean port
  have hreached := effectivePort_pinnedUrl_iff hsplit hne hip hclean hport
  have hzero : parsed.port ≠ some (some 0) ↔ port ≠ some 0 := by rw [hport, Ne, Option.some_inj]
  have hbrackets := (urlsplit_eq_written hsplit).2.1
  constructor
  · intro hchanges
    have hlast := (netloc_eq_hostAndPort_iff hchanges.noUserinfo hbrackets hport).mp hchanges.host
    exact ⟨hchanges.noUserinfo, hlast, hzero.mpr (hreached.mp hchanges.port)⟩
  · rintro ⟨hat, hlast, hnonzero⟩
    exact {
      scheme := (congrArg SplitResult.scheme hwritten :)
      port := hreached.mpr (hzero.mp hnonzero)
      path := (congrArg SplitResult.path hwritten :)
      query := (congrArg SplitResult.query hwritten :)
      host := (netloc_eq_hostAndPort_iff hat hbrackets hport).mpr hlast
      noUserinfo := hat
      serverName := sniHostname_pinnedRequest hhostname hhostnameNe pinnedIp port }

/-- A request of a hop differs from the URL of the hop in the destination alone exactly when the
authority of that URL has no at sign and does not end with a colon, and its port is not 0. -/
theorem probeHop_changesOnlyDestination {env : ProbeEnv} {config : ProbeConfig}
    {url currentUrl : PyStr} {redirectCount : ℕ}
    (hzones : ZonesAlphanumeric (env.resolver redirectCount)) {request : Request}
    (hrequest : (probeHop env config url redirectCount currentUrl).1.request = some request) :
    ∃ parsed, urlsplit env.tables currentUrl [] = some parsed ∧
      (ChangesOnlyDestination env.tables parsed request ↔ HasPlainAuthority parsed) := by
  obtain ⟨parsed, pinnedIp, port, hvalidation, hport, rfl⟩ := probeHop_request hrequest
  obtain ⟨⟨ip, hip⟩, hclean⟩ := notMem_pinnedIp hzones hvalidation
  have hreads := readsPort_of_eq_ok hvalidation
  exact ⟨parsed, hreads.1, changesOnlyDestination_iff hreads hip hclean hport⟩

/-- Every request of every run differs from the URL of its hop in the destination alone, except
where the authority of that URL has an at sign or ends with a colon, or its port is 0: there none
does.
Assumes: the zones of resolver addresses are alphanumeric. -/
theorem performHttpProbe_changesOnlyDestination_iff {env : ProbeEnv} {config : ProbeConfig}
    {url : PyStr} (hzones : ∀ redirectCount, ZonesAlphanumeric (env.resolver redirectCount)) :
    ∀ hop ∈ (performHttpProbe env config url).hops, ∀ request, hop.request = some request →
      ∃ parsed, urlsplit env.tables hop.url [] = some parsed ∧
        (ChangesOnlyDestination env.tables parsed request ↔ HasPlainAuthority parsed) := by
  refine forall_mem_probeLoop ?_ config.maxRedirects 0 url
  intro redirectCount currentUrl request hrequest
  rw [(probeHop_hop env config url redirectCount currentUrl).2.1]
  exact probeHop_changesOnlyDestination (hzones redirectCount) hrequest

/-! ### Runs with a resolved host -/

/-- A probe that is redirected sends two requests, and the condition decides for each of them. -/
theorem performHttpProbe_changesOnlyDestination_steady :
    ((performHttpProbe (steadyEnv (.response ⟨302, some "//@example.com/b".toList, [], none, none⟩))
      oneRedirectConfig "http://example.com/a".toList).hops.filter (·.request.isSome)).length = 2 ∧
    ∀ hop ∈ (performHttpProbe
        (steadyEnv (.response ⟨302, some "//@example.com/b".toList, [], none, none⟩))
        oneRedirectConfig "http://example.com/a".toList).hops,
      ∀ request, hop.request = some request →
        ∃ parsed, urlsplit UnicodeTables.caseless hop.url [] = some parsed ∧
          (ChangesOnlyDestination UnicodeTables.caseless parsed request ↔
            HasPlainAuthority parsed) :=
  ⟨by decide, performHttpProbe_changesOnlyDestination_iff fun _ ↦ zonesAlphanumeric_singleResolver⟩

/-- A URL with an empty user name is probed with an at sign in the `Host` header, one with an empty
port with a colon behind the host, and one with port 0 at port 80. -/
theorem performHttpProbe_changes_more :
    (∃ hop ∈ (performHttpProbe (steadyEnv (.response ⟨200, none, [], none, none⟩))
        oneRedirectConfig "http://@example.com/".toList).hops, ∃ request parsed,
      hop.request = some request ∧
        urlsplit UnicodeTables.caseless hop.url [] = some parsed ∧
        request.host = "@example.com".toList ∧
        ¬ ChangesOnlyDestination UnicodeTables.caseless parsed request) ∧
    (∃ hop ∈ (performHttpProbe (steadyEnv (.response ⟨200, none, [], none, none⟩))
        oneRedirectConfig "http://example.com:/".toList).hops, ∃ request parsed,
      hop.request = some request ∧
        urlsplit UnicodeTables.caseless hop.url [] = some parsed ∧
        request.host = "example.com:".toList ∧ hostAndPort parsed = "example.com".toList ∧
        ¬ ChangesOnlyDestination UnicodeTables.caseless parsed request) ∧
    ∃ hop ∈ (performHttpProbe (steadyEnv (.response ⟨200, none, [], none, none⟩))
        oneRedirectConfig "http://example.com:0/".toList).hops, ∃ request parsed,
      hop.request = some request ∧
        urlsplit UnicodeTables.caseless hop.url [] = some parsed ∧
        effectivePort parsed = some 0 ∧ effectivePort (written request.url) = some 80 ∧
        ¬ ChangesOnlyDestination UnicodeTables.caseless parsed request := by
  refine ⟨?_, ?_, ?_⟩
  · refine ⟨_, List.mem_cons_self, _, _, rfl, rfl, by decide, fun h ↦ ?_⟩
    exact absurd h.noUserinfo (by decide)
  · refine ⟨_, List.mem_cons_self, _, _, rfl, rfl, by decide, by decide, fun h ↦ ?_⟩
    exact absurd h.host (by decide)
  · refine ⟨_, List.mem_cons_self, _, _, rfl, rfl, by decide, by decide, fun h ↦ ?_⟩
    exact absurd h.port (by decide)

end PingGuard.Net
