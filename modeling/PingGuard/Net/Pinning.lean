import PingGuard.Library.WrittenUrl
import PingGuard.Net.Probe

/-!
# Requests go to validated addresses

Whatever the resolver and the server do, a request of the probe is addressed to an address that the
policy lets pass on that hop. The host of the pinned URL is the text of the address
(`writtenHost_pinnedUrl`): an address text holds no character that would end the host, provided its
zone does not. For a literal the zone comes out of the authority of the URL, where such characters
cannot stand; for an answer of the resolver it is an assumption, `ZonesAlphanumeric`.

`performHttpProbe_pinned` is the result for every hop of every run.
-/

set_option autoImplicit false
set_option relaxedAutoImplicit false

namespace PingGuard.Net

open Library.IpAddress Library.IpText Library.PyText Library.UrlSplit Ssrf Status

/-! ### The host of a pinned URL -/

/-- The characters that would end the host of an authority it is put into. -/
def hostDelimiters : List Char := ['/', '?', '#', '@', ']']

/-- A text of an address whose zone holds no host delimiter holds none. -/
theorem notMem_of_notMem_zone {text : PyStr} {ip : IPAddress} (hip : ipAddress text = some ip)
    (hzone : ∀ ipv6 scopeId, ip = .v6 ipv6 → ipv6.scopeId = some scopeId →
      ∀ c ∈ hostDelimiters, c ∉ scopeId) :
    ∀ c ∈ hostDelimiters, c ∉ text := by
  intro c hc hmem
  have hother : ∀ d ∈ hostDelimiters, hexDigit d = none ∧ d ≠ '.' ∧ d ≠ ':' ∧ d ≠ '%' :=
    List.forall_iff_forall_mem.mp (by decide)
  obtain ⟨hhex, hdot, hcolon, hpercent⟩ := hother c hc
  obtain ⟨ipv6, scopeId, rfl, hscope, hin⟩ :=
    mem_zone_of_ipAddress hip hmem hhex hdot hcolon hpercent
  exact hzone ipv6 scopeId rfl hscope c hc hin

/-- The authority of a pinned URL is the address, in brackets if it is an IPv6 one, and the port. -/
theorem rewrittenNetloc_eq (pinnedIp : PyStr) (port : Option ℕ) :
    rewrittenNetloc pinnedIp port =
      if ':' ∈ pinnedIp then '[' :: pinnedIp ++ ']' :: portSuffix port
      else pinnedIp ++ portSuffix port := by
  unfold rewrittenNetloc portSuffix
  split_ifs <;> split <;> simp

/-- The authority of a pinned URL holds no character that ends it, and its host and its port are the
address and the port. -/
theorem rewrittenNetloc_spec {pinnedIp : PyStr} {ip : IPAddress}
    (hip : ipAddress pinnedIp = some ip) (hclean : ∀ c ∈ hostDelimiters, c ∉ pinnedIp)
    (port : Option ℕ) :
    rewrittenNetloc pinnedIp port ≠ [] ∧
      (∀ c ∈ rewrittenNetloc pinnedIp port, isNetlocEnd c = false) ∧
      hostinfo (rewrittenNetloc pinnedIp port) = (pinnedIp, portText (portSuffix port)) := by
  have hhostEnd : ∀ c ∈ pinnedIp, isNetlocEnd c = false := by
    intro c hc
    refine isNetlocEnd_eq_false ?_ ?_ ?_ <;> rintro rfl <;> exact hclean _ (by decide) hc
  have hportEnd : ∀ c ∈ portSuffix port, isNetlocEnd c = false := by
    intro c hc
    refine isNetlocEnd_eq_false ?_ ?_ ?_ <;> rintro rfl <;>
      exact notMem_portSuffix (by decide) (by decide) hc
  have hportAt : '@' ∉ portSuffix port := notMem_portSuffix (by decide) (by decide)
  rw [rewrittenNetloc_eq]
  split_ifs with hcolon
  · refine ⟨by simp, fun c hc ↦ ?_,
      hostinfo_bracketed (hclean '@' (by decide)) (hclean ']' (by decide)) hportAt⟩
    rw [List.mem_append, List.mem_cons, List.mem_cons] at hc
    rcases hc with (rfl | hc) | rfl | hc
    · rfl
    · exact hhostEnd c hc
    · rfl
    · exact hportEnd c hc
  · have hbracket : '[' ∉ pinnedIp := by
      intro hmem
      obtain ⟨ipv6, scopeId, rfl, -, -⟩ := mem_zone_of_ipAddress hip hmem (by decide) (by decide)
        (by decide) (by decide)
      exact hcolon ((colon_mem_iff_of_ipAddress hip).mpr ⟨ipv6, rfl⟩)
    refine ⟨?_, fun c hc ↦ (List.mem_append.mp hc).elim (hhostEnd c) (hportEnd c),
      hostinfo_plain (hclean '@' (by decide)) hbracket hcolon hportAt
        (notMem_portSuffix (by decide) (by decide)) fun c ↦ eq_colon_of_head?_portSuffix⟩
    intro hempty
    rw [(List.append_eq_nil_iff.mp hempty).1] at hip
    exact absurd hip (Option.some_ne_none ip).symm

/-- The pinned URL of an address text without host delimiters names that text as its host. -/
theorem writtenHost_pinnedUrl {parsed : SplitResult} (hscheme : IsScheme parsed.scheme)
    {pinnedIp : PyStr} {ip : IPAddress} (hip : ipAddress pinnedIp = some ip)
    (hclean : ∀ c ∈ hostDelimiters, c ∉ pinnedIp) (port : Option ℕ) :
    writtenHost (pinnedUrl parsed pinnedIp port) = pinnedIp := by
  obtain ⟨hne, hends, hinfo⟩ := rewrittenNetloc_spec hip hclean port
  exact (writtenHost_urlunsplit hscheme hne hends _ _ _).trans (congrArg Prod.fst hinfo)

/-! ### Zones -/

/-- The zone of an address is made of characters of its text. -/
theorem mem_of_mem_zone {text : PyStr} {ipv6 : IPv6Address}
    (hip : ipAddress text = some (.v6 ipv6)) {scopeId : PyStr}
    (hscope : ipv6.scopeId = some scopeId) : ∀ c ∈ scopeId, c ∈ text := by
  unfold ipAddress at hip
  split at hip
  · exact absurd hip (by simp)
  · obtain ⟨address, hv6, heq⟩ := Option.map_eq_some_iff.mp hip
    obtain rfl := IPAddress.v6.inj heq
    exact (parseIPv6_eq_some hv6).2.2 scopeId hscope

/-- A delimiter of the URL syntax in the host of a URL is one of its authority's host. -/
theorem mem_hostinfo_of_mem_hostname {tables : UnicodeTables} {parsed : SplitResult}
    {hostname : PyStr} (hhostname : parsed.hostname tables = some hostname) {d : Char}
    (hdelimiter : d ∈ urlDelimiters) (hmem : d ∈ hostname) : d ∈ (hostinfo parsed.netloc).1 := by
  unfold SplitResult.hostname at hhostname
  dsimp only at hhostname
  split_ifs at hhostname with hempty
  rcases partition_cases '%' (hostinfo parsed.netloc).1 with ⟨-, heq⟩ | ⟨name, zone, htext, -, heq⟩
  · rw [heq] at hhostname
    obtain rfl := Option.some.inj hhostname
    exact mem_of_mem_lower hdelimiter hmem
  · rw [heq] at hhostname
    obtain rfl := Option.some.inj hhostname
    rw [htext]
    rcases List.mem_append.mp hmem with hname | hzone
    · exact List.mem_append_left _ (mem_of_mem_lower hdelimiter hname)
    · exact List.mem_append_right _ hzone

/-- The zone of the literal of a URL holds no host delimiter. -/
theorem notMem_zone_of_isLiteralOf {tables : UnicodeTables} {url : PyStr} {ipv6 : IPv6Address}
    (hliteral : IsLiteralOf tables url (.v6 ipv6)) {scopeId : PyStr}
    (hscope : ipv6.scopeId = some scopeId) : ∀ c ∈ hostDelimiters, c ∉ scopeId := by
  obtain ⟨parsed, hostname, hsplit, hhostname, hip⟩ := hliteral
  have hhost : ∀ d ∈ urlDelimiters, d ∈ hostnameClean tables hostname →
      d ∈ (hostinfo parsed.netloc).1 := fun d hd hmem ↦
    mem_hostinfo_of_mem_hostname hhostname hd (mem_of_mem_strip (mem_of_mem_lower hd hmem))
  obtain ⟨hsub, hat, hbracket⟩ := hostinfo_fst parsed.netloc
  have hcolon : ':' ∈ (hostinfo parsed.netloc).1 :=
    hhost ':' (by decide) ((colon_mem_iff_of_ipAddress hip).mpr ⟨ipv6, rfl⟩)
  have hends := (urlsplit_eq_some hsplit).2
  intro c hc hmem
  have hdelimiters : ∀ d ∈ hostDelimiters, d ∈ urlDelimiters ∧
      (isNetlocEnd d = true ∨ d = '@' ∨ d = ']') := List.forall_iff_forall_mem.mp (by decide)
  obtain ⟨hurl, hkind⟩ := hdelimiters c hc
  have hin := hhost c hurl (mem_of_mem_zone hip hscope c hmem)
  rcases hkind with hend | rfl | rfl
  · rw [hends c (hsub c hin)] at hend
    exact absurd hend Bool.false_ne_true
  · exact hat hin
  · exact hbracket hcolon hin

/-- The zones of the addresses that a resolver answers with are alphanumeric. -/
def ZonesAlphanumeric (resolver : Resolver) : Prop :=
  ∀ hostname port entries, (resolver.withType hostname port = .answer entries ∨
      resolver.withoutType hostname port = .answer entries) →
    ∀ text ipv6 scopeId, some text ∈ entries → ipAddress text = some (.v6 ipv6) →
      ipv6.scopeId = some scopeId → ∀ c ∈ scopeId, c.isAlphanum = true

/-! ### The requests of a run -/

/-- The policy lets an address pass: it is not blocked, or loopback addresses are allowed and it is
one. -/
def Passes (allowLoopback : Prop) (ip : IPAddress) : Prop :=
  isIpBlocked ip = false ∨ (allowLoopback ∧ ip.isLoopback = true)

/-- An address is the literal of the URL of a hop and passes, or it is in the only answer that the
resolver of the hop gave, every address of which passes. -/
def IsPinnedBy (env : ProbeEnv) (allowLoopback : Prop) (hop : Hop) (ip : IPAddress) : Prop :=
  (hop.answers = [] ∧ IsLiteralOf env.tables hop.url ip ∧ Passes allowLoopback ip) ∨
    ∃ hostname port entries, lookup (env.resolver hop.redirectCount) hostname port = .ok entries ∧
      hop.answers = [entries] ∧ (∃ text, some text ∈ entries ∧ ipAddress text = some ip) ∧
      ∀ entry ∈ entries, ∃ text other, entry = some text ∧ ipAddress text = some other ∧
        Passes allowLoopback other

/-- The hop of a round has its number, its URL and the answers of its validation. -/
theorem probeHop_hop (env : ProbeEnv) (config : ProbeConfig) (url : PyStr) (redirectCount : ℕ)
    (currentUrl : PyStr) :
    (probeHop env config url redirectCount currentUrl).1.redirectCount = redirectCount ∧
      (probeHop env config url redirectCount currentUrl).1.url = currentUrl ∧
      (probeHop env config url redirectCount currentUrl).1.answers =
        (validateHop env config redirectCount currentUrl).answers := by
  unfold probeHop
  dsimp only
  split <;> exact ⟨rfl, rfl, rfl⟩

/-- A request of a hop comes from a validated target and the port of its URL. -/
theorem probeHop_request {env : ProbeEnv} {config : ProbeConfig} {url currentUrl : PyStr}
    {redirectCount : ℕ} {request : Request}
    (hrequest : (probeHop env config url redirectCount currentUrl).1.request = some request) :
    ∃ parsed pinnedIp port,
      (validateHop env config redirectCount currentUrl).result = .ok (parsed, pinnedIp) ∧
        parsed.port = some port ∧
        request = pinnedRequest env.tables config parsed pinnedIp port := by
  unfold probeHop at hrequest
  dsimp only at hrequest
  cases hvalidation : (validateHop env config redirectCount currentUrl).result with
  | error error => cases error <;> simp [hvalidation] at hrequest
  | ok target =>
    obtain ⟨parsed, pinnedIp⟩ := target
    simp only [hvalidation] at hrequest
    unfold sendPinned at hrequest
    cases hport : parsed.port with
    | none => simp [hport] at hrequest
    | some port =>
      simp only [hport] at hrequest
      split_ifs at hrequest
      refine ⟨parsed, pinnedIp, port, rfl, hport, ?_⟩
      cases hserver : env.server redirectCount <;> simp only [hserver] at hrequest <;>
        exact (Option.some.inj hrequest).symm

/-- The text that a validation pins is the text of an address without host delimiters. -/
theorem notMem_pinnedIp {env : ProbeEnv} {config : ProbeConfig} {currentUrl pinnedIp : PyStr}
    {redirectCount : ℕ} {parsed : SplitResult}
    (hzones : ZonesAlphanumeric (env.resolver redirectCount))
    (hvalidation : (validateHop env config redirectCount currentUrl).result =
      .ok (parsed, pinnedIp)) :
    (∃ ip, ipAddress pinnedIp = some ip) ∧ ∀ c ∈ hostDelimiters, c ∉ pinnedIp := by
  obtain ⟨-, -, hpinned⟩ := asyncResolveAndValidateTarget_eq_ok hvalidation
  rcases hpinned with ⟨-, ip, hliteral, rfl, -⟩ | ⟨hostname, port, entries, hlookup, -, hmem, hall⟩
  · have hzone : IPAddress.HasZone ip := by
      obtain ⟨_, _, _, _, hip⟩ := hliteral
      exact hasZone_of_ipAddress hip
    have hround := ipAddress_toText hzone
    exact ⟨⟨ip, hround⟩, notMem_of_notMem_zone hround fun ipv6 scopeId heq hscope ↦
      notMem_zone_of_isLiteralOf (heq ▸ hliteral) hscope⟩
  · obtain ⟨text, ip, heq, hip, -⟩ := hall (some pinnedIp) hmem
    obtain rfl := Option.some.inj heq
    refine ⟨⟨ip, hip⟩, notMem_of_notMem_zone hip fun ipv6 scopeId heq hscope c hc hin ↦ ?_⟩
    have halnum := hzones hostname port entries (lookup_eq_ok hlookup) pinnedIp ipv6 scopeId hmem
      (heq ▸ hip) hscope c hin
    have hnot : ∀ d ∈ hostDelimiters, d.isAlphanum = false :=
      List.forall_iff_forall_mem.mp (by decide)
    rw [hnot c hc] at halnum
    exact absurd halnum Bool.false_ne_true

/-- A request of a hop is addressed to an address that the hop has pinned. -/
theorem probeHop_pinned {env : ProbeEnv} {config : ProbeConfig} {url currentUrl : PyStr}
    {redirectCount : ℕ} (hzones : ZonesAlphanumeric (env.resolver redirectCount))
    {request : Request}
    (hrequest : (probeHop env config url redirectCount currentUrl).1.request = some request) :
    ∃ ip, ipAddress (writtenHost request.url) = some ip ∧
      IsPinnedBy env (config.allowLoopback = true ∧ redirectCount = 0)
        (probeHop env config url redirectCount currentUrl).1 ip := by
  have hallow : ∀ ip, isAdmitted (if redirectCount = 0 then config.allowLoopback else false) ip =
      true → Passes (config.allowLoopback = true ∧ redirectCount = 0) ip := by
    intro ip hadmitted
    rcases isAdmitted_iff.mp hadmitted with hblocked | ⟨hallow, hloopback⟩
    · exact Or.inl hblocked
    · split_ifs at hallow with hfirst
      exact Or.inr ⟨⟨hallow, hfirst⟩, hloopback⟩
  obtain ⟨parsed, pinnedIp, port, hvalidation, -, rfl⟩ := probeHop_request hrequest
  obtain ⟨⟨ip, hip⟩, hclean⟩ := notMem_pinnedIp hzones hvalidation
  obtain ⟨-, hscheme, hpinned⟩ := asyncResolveAndValidateTarget_eq_ok hvalidation
  obtain ⟨hcount, hurl, hanswers⟩ := probeHop_hop env config url redirectCount currentUrl
  refine ⟨ip, (congrArg ipAddress (writtenHost_pinnedUrl hscheme hip hclean port)).trans hip, ?_⟩
  unfold IsPinnedBy
  rw [hcount, hurl, hanswers]
  rcases hpinned with ⟨hanswers, other, hliteral, rfl, hadmitted⟩ |
    ⟨hostname, lookupPort, entries, hlookup, hanswers, hmem, hadmitted⟩
  · have hzone : IPAddress.HasZone other := by
      obtain ⟨_, _, _, _, hother⟩ := hliteral
      exact hasZone_of_ipAddress hother
    obtain rfl : other = ip := Option.some.inj ((ipAddress_toText hzone).symm.trans hip)
    exact Or.inl ⟨hanswers, hliteral, hallow other hadmitted⟩
  · refine Or.inr ⟨hostname, lookupPort, entries, hlookup, hanswers, ⟨pinnedIp, hmem, hip⟩, ?_⟩
    intro entry hentry
    obtain ⟨text, other, rfl, hother, hpasses⟩ := hadmitted entry hentry
    exact ⟨text, other, rfl, hother, hallow other hpasses⟩

/-- A run of the loop has the hop of its first round, and ends there or goes on with the next
round. -/
theorem probeLoop_hops (env : ProbeEnv) (config : ProbeConfig) (url : PyStr)
    (remaining redirectCount : ℕ) (currentUrl : PyStr) :
    (probeLoop env config url remaining redirectCount currentUrl).1 =
        [(probeHop env config url redirectCount currentUrl).1] ∨
      ∃ left next, remaining = left + 1 ∧
        (probeLoop env config url remaining redirectCount currentUrl).1 =
          (probeHop env config url redirectCount currentUrl).1 ::
            (probeLoop env config url left (redirectCount + 1) next).1 := by
  rw [probeLoop.eq_def env config url remaining redirectCount currentUrl]
  dsimp only
  cases hround : probeHop env config url redirectCount currentUrl with
  | mk hop ended =>
    cases ended with
    | error error => exact Or.inl rfl
    | ok step =>
      cases step with
      | returned result => exact Or.inl rfl
      | answered statusCode => exact Or.inl rfl
      | redirected statusCode location =>
        cases remaining with
        | zero => exact Or.inl rfl
        | succ left =>
          dsimp only
          split
          · exact Or.inl rfl
          · exact Or.inl rfl
          · rename_i next hnext
            exact Or.inr ⟨left, next, rfl, rfl⟩

/-- The hop at a position of a run of the loop is that of a round with its number, which is counted
from the start of the loop. -/
theorem getElem?_probeLoop {env : ProbeEnv} {config : ProbeConfig} {url currentUrl : PyStr}
    {remaining redirectCount i : ℕ} {hop : Hop}
    (hhop : (probeLoop env config url remaining redirectCount currentUrl).1[i]? = some hop) :
    ∃ reachedUrl, hop = (probeHop env config url (redirectCount + i) reachedUrl).1 := by
  induction i generalizing remaining redirectCount currentUrl with
  | zero =>
    refine ⟨currentUrl, ?_⟩
    rcases probeLoop_hops env config url remaining redirectCount currentUrl with
      heq | ⟨left, next, -, heq⟩ <;>
    · rw [heq] at hhop
      exact (Option.some.inj hhop).symm
  | succ i ih =>
    rcases probeLoop_hops env config url remaining redirectCount currentUrl with
      heq | ⟨left, next, -, heq⟩
    · rw [heq] at hhop
      nomatch hhop
    · rw [heq] at hhop
      obtain ⟨reachedUrl, rfl⟩ := ih hhop
      exact ⟨reachedUrl, by rw [Nat.add_right_comm, Nat.add_assoc]⟩

/-- What holds of every round of the loop holds of every hop of a run of it. -/
theorem forall_mem_probeLoop {env : ProbeEnv} {config : ProbeConfig} {url : PyStr}
    {property : Hop → Prop}
    (hround : ∀ redirectCount currentUrl,
      property (probeHop env config url redirectCount currentUrl).1)
    (remaining redirectCount : ℕ) (currentUrl : PyStr) :
    ∀ hop ∈ (probeLoop env config url remaining redirectCount currentUrl).1, property hop := by
  intro hop hmem
  obtain ⟨i, hhop⟩ := List.mem_iff_getElem?.mp hmem
  obtain ⟨reachedUrl, rfl⟩ := getElem?_probeLoop hhop
  exact hround _ reachedUrl

/-- The hops of every run are numbered from 0, and every request of a hop is addressed to an address
that the hop has pinned. Loopback addresses pass on the first hop, and there only when they are
allowed.
Assumes: the zones of resolver addresses are alphanumeric. -/
theorem performHttpProbe_pinned {env : ProbeEnv} {config : ProbeConfig} {url : PyStr}
    (hzones : ∀ redirectCount, ZonesAlphanumeric (env.resolver redirectCount)) :
    ∀ i hop, (performHttpProbe env config url).hops[i]? = some hop →
      hop.redirectCount = i ∧ ∀ request, hop.request = some request →
        ∃ ip, ipAddress (writtenHost request.url) = some ip ∧
          IsPinnedBy env (config.allowLoopback = true ∧ i = 0) hop ip := by
  intro i hop hhop
  obtain ⟨reachedUrl, rfl⟩ := getElem?_probeLoop hhop
  rw [Nat.zero_add]
  refine ⟨(probeHop_hop env config url i reachedUrl).1, fun request hrequest ↦ ?_⟩
  exact probeHop_pinned (hzones i) hrequest

/-! ### A run with a resolved host -/

/-- A resolver without IPv6 addresses has no zones. -/
theorem zonesAlphanumeric_singleResolver : ZonesAlphanumeric singleResolver := by
  intro hostname port entries hanswer text ipv6 scopeId hmem hip hscope
  rcases hanswer with hanswer | hanswer
  · obtain rfl := ResolverReply.answer.inj hanswer
    obtain rfl : text = "93.184.216.34".toList := by simpa using hmem
    have hcolon := (colon_mem_iff_of_ipAddress hip).mpr ⟨ipv6, rfl⟩
    exact absurd hcolon (by decide)
  · exact absurd hanswer (by simp [singleResolver])

/-- A probe of a resolved host that is redirected to itself sends two requests, both addressed to
the address that their hop has pinned. -/
theorem performHttpProbe_pinned_steady :
    ((performHttpProbe (steadyEnv (.response ⟨302, some "/b".toList, [], none, none⟩))
      oneRedirectConfig "http://example.com/a".toList).hops.filter (·.request.isSome)).length = 2 ∧
    ∀ i hop, (performHttpProbe (steadyEnv (.response ⟨302, some "/b".toList, [], none, none⟩))
        oneRedirectConfig "http://example.com/a".toList).hops[i]? = some hop →
      hop.redirectCount = i ∧ ∀ request, hop.request = some request →
        ∃ ip, ipAddress (writtenHost request.url) = some ip ∧
          IsPinnedBy (steadyEnv (.response ⟨302, some "/b".toList, [], none, none⟩))
            (oneRedirectConfig.allowLoopback = true ∧ i = 0) hop ip :=
  ⟨by decide, performHttpProbe_pinned fun _ ↦ zonesAlphanumeric_singleResolver⟩

end PingGuard.Net
