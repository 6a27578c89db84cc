import PingGuard.Net.Pinning
import PingGuard.Urls

/-!
# The probes of the workers

`robust_ping` and `robust_keep_alive` of `app/net.py`: a probe of a URL, and a probe of a URL with a
path joined to it. The first request of the second goes where one of the first goes, whatever the
path is (`robustKeepAlive_firstRequest`).
-/

set_option autoImplicit false
set_option relaxedAutoImplicit false

namespace PingGuard.Net

open Library.PyText Library.UrlSplit Urls

/-- The settings that a probe reads. -/
structure HttpSettings where
  httpUserAgent : PyStr
  httpKeepAliveUserAgent : PyStr
  httpMaxResponseBytes : ℕ
  httpMaxRedirects : ℕ

/-- The arguments of a probe with a user agent and the defaults of the settings. An empty user agent
counts as none. -/
def HttpSettings.probeConfig (settings : HttpSettings) (userAgent : PyStr) (allowLoopback : Bool) :
    ProbeConfig where
  userAgent := if userAgent = [] then settings.httpUserAgent else userAgent
  maxResponseBytes := settings.httpMaxResponseBytes
  maxRedirects := settings.httpMaxRedirects
  allowLoopback := allowLoopback

/-- The settings of a probe that may follow a redirect. -/
def plainHttp : HttpSettings := ⟨"PingGuard".toList, "PingGuard-KeepAlive".toList, 1, 1⟩

variable (env : ProbeEnv) (settings : HttpSettings) (allowLoopback : Bool)

/-- `robust_ping`. -/
def robustPing (url : PyStr) : ProbeRun :=
  performHttpProbe env (settings.probeConfig settings.httpUserAgent allowLoopback) url

/-- `robust_keep_alive`. -/
def robustKeepAlive (url : PyStr) (path : Option PyStr) : ProbeRun :=
  performHttpProbe env (settings.probeConfig settings.httpKeepAliveUserAgent allowLoopback)
    (safeJoinUrl url path)

variable {env settings allowLoopback}

/-- The first hop of a probe is one to its URL. -/
theorem head?_performHttpProbe (env : ProbeEnv) (config : ProbeConfig) (url : PyStr) :
    (performHttpProbe env config url).hops.head? = some (probeHop env config url 0 url).1 := by
  change (probeLoop env config url config.maxRedirects 0 url).1.head? = _
  unfold probeLoop
  split
  case h_1 hop _ heq => exact congrArg (some ·.1) heq.symm
  case h_2 hop _ heq => exact congrArg (some ·.1) heq.symm
  case h_3 hop _ heq => exact congrArg (some ·.1) heq.symm
  case h_4 hop _ _ heq =>
    split
    · exact congrArg (some ·.1) heq.symm
    · split <;> exact congrArg (some ·.1) heq.symm

/-- A request of the first hop is made from the parts of the URL of the probe. -/
theorem firstRequest_performHttpProbe {config : ProbeConfig} {url : PyStr} {hop : Hop}
    (hhop : (performHttpProbe env config url).hops.head? = some hop) {request : Request}
    (hrequest : hop.request = some request) :
    ∃ parsed pinnedIp port, urlsplit env.tables url [] = some parsed ∧
      request = pinnedRequest env.tables config parsed pinnedIp port := by
  rw [head?_performHttpProbe, Option.some_inj] at hhop
  subst hhop
  obtain ⟨parsed, pinnedIp, port, hvalidation, -, hpinned⟩ := probeHop_request hrequest
  exact ⟨parsed, pinnedIp, port, (asyncResolveAndValidateTarget_eq_ok hvalidation).1, hpinned⟩

/-- The first request of a keep-alive probe names the authority of the monitored URL as its host,
and for TLS the host name of that URL, whatever the path is. -/
theorem robustKeepAlive_firstRequest (base : AuthorityUrl) (path : Option PyStr) {hop : Hop}
    (hhop : (robustKeepAlive env settings allowLoopback base.text path).hops.head? = some hop)
    {request : Request} (hrequest : hop.request = some request) :
    ∃ parsed, urlsplit env.tables base.text [] = some parsed ∧ request.host = parsed.netloc ∧
      ∀ name, request.sniHostname = some name → parsed.hostname env.tables = some name := by
  obtain ⟨found, pinnedIp, port, hsplit, rfl⟩ := firstRequest_performHttpProbe hhop hrequest
  obtain ⟨joined, hjoined, hscheme, hauthority⟩ := exists_joined base path
  rw [hjoined] at hsplit
  have hsame := @AuthorityUrl.urlsplit_text_congr env.tables _ _ hscheme hauthority
  rw [hsplit, Option.map_some, eq_comm, Option.map_eq_some_iff] at hsame
  obtain ⟨parsed, hparsed, heq⟩ := hsame
  obtain ⟨-, hnetloc⟩ := Prod.mk.inj heq
  refine ⟨parsed, hparsed, hnetloc.symm, fun name hname ↦ ?_⟩
  simp only [pinnedRequest] at hname
  split_ifs at hname
  unfold SplitResult.hostname at hname ⊢
  rwa [hnetloc]

end PingGuard.Net
