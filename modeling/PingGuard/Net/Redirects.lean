import PingGuard.Net.Returns

/-!
# What a chain of redirects ends with

A chain of redirects that the probe can follow leads to a response that does not redirect. The loop
of `perform_http_probe` means to report that response: a response outside the 3xx range ends the
loop, and so does a 3xx response without a `Location`. The test of the redirect limit stands before
the test for a missing `Location`, though, so a 3xx response without one counts against the limit.

`performHttpProbe_reports_iff` says when the last response is reported: always, except when the
chain has used up the limit and its last response has a 3xx status.
-/

set_option autoImplicit false
set_option relaxedAutoImplicit false

namespace PingGuard.Net

open Library.PyText Library.UrlSplit Ssrf Status

/-! ### The chain -/

/-- The server answers one hop with a redirect that has a usable `Location`, and it leads to the
other hop. -/
def SendsTo (env : ProbeEnv) (config : ProbeConfig) (hop next : ℕ × PyStr) : Prop :=
  ∃ response location, IsAnswered env config hop.1 hop.2 response ∧
    response.isRedirect = true ∧ response.closeFailure = none ∧
      response.location = some location ∧ location ≠ [] ∧ next.1 = hop.1 + 1 ∧
        urljoin env.tables hop.2 (strip location) = some next.2 ∧
          ∃ parsed, urlsplit env.tables next.2 [] = some parsed ∧
            lower env.tables parsed.scheme ∈ allowedSchemes

/-- A response that does not redirect: its status is not 3xx, or it has no `Location`. -/
def Response.IsTerminal (response : Response) : Prop :=
  ¬ (300 ≤ response.statusCode ∧ response.statusCode ≤ 399) ∨ response.location = none

/-- No network error occurs once the response has arrived, neither reading nor closing it. -/
def Response.IsReceived (config : ProbeConfig) (response : Response) : Prop :=
  ∃ step, handleResponse config response = .ok step

/-- A run reports a status at a URL: with the outcome of that status, which is down outside the
standard range, and without an error. -/
def ProbeRun.Reports (run : ProbeRun) (statusCode : ℤ) (lastUrl : PyStr) : Prop :=
  ∃ result, run.result = .ok result ∧ result.statusCode = some statusCode ∧
    result.outcome = (classifyStatusCode statusCode).getD .down ∧ result.errorDetail = none ∧
      result.finalUrl = some lastUrl

/-- The probe goes on where the server sends it, within the limit. -/
theorem redirectsTo_iff_sendsTo (env : ProbeEnv) (config : ProbeConfig) (hop next : ℕ × PyStr) :
    RedirectsTo env config hop next ↔
      SendsTo env config hop next ∧ hop.1 < config.maxRedirects := by
  constructor
  · rintro ⟨response, location, hanswered, ⟨hredirect, hclose, hlimit, hlocation, hne⟩, hcount,
      htarget⟩
    exact ⟨⟨response, location, hanswered, hredirect, hclose, hlocation, hne, hcount, htarget⟩,
      hlimit⟩
  · rintro ⟨⟨response, location, hanswered, hredirect, hclose, hlocation, hne, hcount, htarget⟩,
      hlimit⟩
    exact ⟨response, location, hanswered, ⟨hredirect, hclose, hlimit, hlocation, hne⟩, hcount,
      htarget⟩

/-! ### Along the chain -/

/-- The loop follows a redirect to the next hop. -/
theorem probeLoop_of_redirectsTo {env : ProbeEnv} {config : ProbeConfig} {url : PyStr}
    {hop next : ℕ × PyStr} (hstep : RedirectsTo env config hop next) (remaining : ℕ) :
    (probeLoop env config url (remaining + 1) hop.1 hop.2).2 =
      (probeLoop env config url remaining next.1 next.2).2 := by
  obtain ⟨statusCode, location, hredirected, -, hcount, hnext⟩ :=
    (redirectsTo_iff env config url hop.1 hop.2 next).mp hstep
  rcases hround : probeHop env config url hop.1 hop.2 with ⟨made, outcome⟩
  rw [hround] at hredirected
  obtain rfl : outcome = .ok (.redirected statusCode location) := hredirected
  rw [probeLoop, hround, hcount]
  dsimp only
  rw [hnext]

/-- The loop ends as it does from the end of a chain on, with as many redirects less as the chain is
long. -/
theorem probeLoop_of_chain {env : ProbeEnv} {config : ProbeConfig} {url : PyStr}
    {hop : ℕ × PyStr} (hchain : Relation.ReflTransGen (SendsTo env config) (0, url) hop)
    (hlimit : hop.1 ≤ config.maxRedirects) :
    (probeLoop env config url config.maxRedirects 0 url).2 =
      (probeLoop env config url (config.maxRedirects - hop.1) hop.1 hop.2).2 := by
  induction hchain with
  | refl => rfl
  | @tail hop next _ hsends ih =>
    have hcount : next.1 = hop.1 + 1 := by
      obtain ⟨_, _, -, -, -, -, -, hcount, -⟩ := hsends
      exact hcount
    have hwithin : hop.1 < config.maxRedirects := by omega
    have hstep := (redirectsTo_iff_sendsTo env config hop next).mpr ⟨hsends, hwithin⟩
    have hleft : config.maxRedirects - hop.1 = config.maxRedirects - next.1 + 1 := by omega
    rw [ih hwithin.le, hleft, probeLoop_of_redirectsTo hstep]

/-! ### At its end -/

/-- The client takes exactly the 3xx responses for redirects. -/
theorem isRedirect_eq_true_iff (response : Response) :
    response.isRedirect = true ↔ 300 ≤ response.statusCode ∧ response.statusCode ≤ 399 := by
  have hcodes : ∀ code ∈ redirectStatusCodes, 300 ≤ code ∧ code ≤ 399 := by decide
  unfold Response.isRedirect
  simp only [Bool.or_eq_true, Bool.and_eq_true, decide_eq_true_eq]
  exact ⟨fun h ↦ h.elim id fun ⟨hmem, _⟩ ↦ hcodes _ hmem, Or.inl⟩

/-- The last response of a chain: a hop that ends with it, or with a redirect that leads nowhere. -/
theorem handleResponse_of_isTerminal {config : ProbeConfig} {response : Response}
    (hterminal : response.IsTerminal) (hreceived : response.IsReceived config) :
    handleResponse config response = if response.isRedirect then
      .ok (.redirected response.statusCode none) else .ok (.answered response.statusCode) := by
  obtain ⟨step, hstep⟩ := hreceived
  rw [hstep]
  unfold handleResponse at hstep
  by_cases hredirect : response.isRedirect = true
  · have hlocation : response.location = none :=
      hterminal.resolve_left (not_not.mpr ((isRedirect_eq_true_iff response).mp hredirect))
    rw [if_pos hredirect] at hstep ⊢
    split at hstep
    · nomatch hstep
    · rw [← hstep, hlocation]
  · rw [if_neg hredirect] at hstep ⊢
    split at hstep
    · nomatch hstep
    · nomatch hstep
    · exact hstep.symm

/-- The loop at the last response of a chain: the response is classified, unless it is a redirect
and none is left. -/
theorem probeLoop_of_isTerminal {env : ProbeEnv} {config : ProbeConfig} {url currentUrl : PyStr}
    {redirectCount : ℕ} {response : Response} (remaining : ℕ)
    (hanswered : IsAnswered env config redirectCount currentUrl response)
    (hterminal : response.IsTerminal) (hreceived : response.IsReceived config) :
    (probeLoop env config url remaining redirectCount currentUrl).2 =
      if remaining = 0 ∧ response.isRedirect = true then
        .error (.requestError (tooManyRedirects config))
      else .ok (classifiedResult url currentUrl response.statusCode
        (latencyMs env redirectCount)) := by
  have hhop := probeHop_of_isAnswered url hanswered
  rw [handleResponse_of_isTerminal hterminal hreceived] at hhop
  unfold probeLoop
  rcases hround : probeHop env config url redirectCount currentUrl with ⟨made, outcome⟩
  rw [hround] at hhop
  dsimp only at hhop
  subst hhop
  by_cases hredirect : response.isRedirect = true
  · cases remaining <;> simp [hredirect, nextUrl]
  · simp [hredirect]

/-! ### The report -/

/-- After a chain of redirects within the limit, a last response that does not redirect is reported
exactly when the limit is not used up or the status of the response is not 3xx. -/
theorem performHttpProbe_reports_iff {env : ProbeEnv} {config : ProbeConfig} {url lastUrl : PyStr}
    {redirectCount : ℕ} {response : Response}
    (hchain : Relation.ReflTransGen (SendsTo env config) (0, url) (redirectCount, lastUrl))
    (hlimit : redirectCount ≤ config.maxRedirects)
    (hanswered : IsAnswered env config redirectCount lastUrl response)
    (hterminal : response.IsTerminal) (hreceived : response.IsReceived config) :
    (performHttpProbe env config url).Reports response.statusCode lastUrl ↔
      redirectCount < config.maxRedirects ∨
        ¬ (300 ≤ response.statusCode ∧ response.statusCode ≤ 399) := by
  have hloop := (probeLoop_of_chain hchain hlimit).trans
    (probeLoop_of_isTerminal (config.maxRedirects - redirectCount) hanswered hterminal hreceived)
  rw [← isRedirect_eq_true_iff]
  unfold ProbeRun.Reports performHttpProbe
  dsimp only
  rw [hloop]
  by_cases hused : config.maxRedirects - redirectCount = 0 ∧ response.isRedirect = true
  · -- the run ends with the error of a limit that is exceeded
    rw [if_pos hused]
    constructor
    · rintro ⟨result, hresult, hstatus, -⟩
      obtain rfl := Except.ok.inj hresult
      nomatch hstatus
    · rintro (hleft | hother)
      · omega
      · exact absurd hused.2 hother
  · rw [if_neg hused]
    refine ⟨fun _ ↦ ?_, fun _ ↦ ⟨_, rfl, rfl, rfl, rfl, rfl⟩⟩
    rcases not_and_or.mp hused with hleft | hother
    · exact Or.inl (by omega)
    · exact Or.inr hother

/-- A server that sends every request on to `/end` and answers there that the page is not
modified. -/
def notModifiedEnv : ProbeEnv :=
  { steadyEnv (.response ⟨302, some "/end".toList, [], none, none⟩) with
    server := fun redirectCount ↦ if redirectCount = 0 then
      .response ⟨302, some "/end".toList, [], none, none⟩
    else .response ⟨304, none, [], none, none⟩ }

/-- The server sends the first hop on. -/
theorem sendsTo_notModifiedEnv (config : ProbeConfig) :
    SendsTo notModifiedEnv config (0, "http://93.184.216.34/".toList)
      (1, "http://93.184.216.34/end".toList) :=
  ⟨⟨302, some "/end".toList, [], none, none⟩, "/end".toList, ⟨_, _, _, rfl, rfl, rfl, rfl⟩, rfl,
    rfl, rfl, List.cons_ne_nil _ _, rfl, rfl, _, rfl, by decide⟩

/-- The server answers the second hop with the status `304`. -/
theorem isAnswered_notModifiedEnv (config : ProbeConfig) :
    IsAnswered notModifiedEnv config 1 "http://93.184.216.34/end".toList
      ⟨304, none, [], none, none⟩ :=
  ⟨_, _, _, rfl, rfl, rfl, rfl⟩

/-- With a limit of two redirects, the status `304` at the end of one redirect is reported. -/
theorem performHttpProbe_reports_notModified :
    (performHttpProbe notModifiedEnv { oneRedirectConfig with maxRedirects := 2 }
      "http://93.184.216.34/".toList).Reports 304 "http://93.184.216.34/end".toList :=
  (performHttpProbe_reports_iff (.single (sendsTo_notModifiedEnv _)) (Nat.le_succ 1)
    (isAnswered_notModifiedEnv _) (Or.inr rfl) ⟨_, rfl⟩).mpr (Or.inl Nat.one_lt_two)

/-- With a limit of one redirect, the status `304` at the end of one redirect is not reported: the
probe counts it as a redirect over the limit. -/
theorem performHttpProbe_hides_notModified :
    Relation.ReflTransGen (SendsTo notModifiedEnv oneRedirectConfig)
        (0, "http://93.184.216.34/".toList) (1, "http://93.184.216.34/end".toList) ∧
      1 ≤ oneRedirectConfig.maxRedirects ∧
      IsAnswered notModifiedEnv oneRedirectConfig 1 "http://93.184.216.34/end".toList
        ⟨304, none, [], none, none⟩ ∧
      Response.IsTerminal ⟨304, none, [], none, none⟩ ∧
      Response.IsReceived oneRedirectConfig ⟨304, none, [], none, none⟩ ∧
      ¬ (performHttpProbe notModifiedEnv oneRedirectConfig "http://93.184.216.34/".toList).Reports
        304 "http://93.184.216.34/end".toList := by
  refine ⟨.single (sendsTo_notModifiedEnv _), le_rfl, isAnswered_notModifiedEnv _, Or.inr rfl,
    ⟨_, rfl⟩, ?_⟩
  rintro ⟨result, hresult, hstatus, -⟩
  have hended : (performHttpProbe notModifiedEnv oneRedirectConfig
      "http://93.184.216.34/".toList).result = .ok (buildProbeErrorResult
        "http://93.184.216.34/".toList .redirectError (some (elapsedMs notModifiedEnv))
          .unreachable) := rfl
  obtain rfl := Except.ok.inj (hended.symm.trans hresult)
  nomatch hstatus

end PingGuard.Net
