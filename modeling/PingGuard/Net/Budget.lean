import PingGuard.Library.WhileLoop
import PingGuard.Net.Redirects

/-!
# The requests of a probe

The loop of `perform_http_probe` is a `while True`. `probeRound` is its body, with the test of the
redirect limit as the body makes it, and `probeLoop` is what the rounds of this loop come to. The
redirects that are left are a budget of the loop, so it stops whatever the servers answer.

A round sends at most one request. Where the servers keep sending the probe on, every round up to
the limit sends one, and so does the round that runs into it.
-/

set_option autoImplicit false
set_option relaxedAutoImplicit false

namespace PingGuard.Net

open Library.PyText Library.UrlSplit Library.WhileLoop Ssrf Status

/-! ### The rounds of the loop -/

/-- The body of the loop: its hop, and the result or the exception with which it leaves the loop or
the hop at which it continues. -/
def probeRound (env : ProbeEnv) (config : ProbeConfig) (url : PyStr) (hop : ℕ × PyStr) :
    Hop × (Except ProbeException PingResultDTO ⊕ ℕ × PyStr) :=
  match probeHop env config url hop.1 hop.2 with
  | (made, .error error) => (made, .inl (.error error))
  | (made, .ok (.returned result)) => (made, .inl (.ok result))
  | (made, .ok (.answered statusCode)) =>
    (made, .inl (.ok (classifiedResult url hop.2 statusCode (latencyMs env hop.1))))
  | (made, .ok (.redirected statusCode location)) =>
    if config.maxRedirects ≤ hop.1 then
      (made, .inl (.error (.requestError (tooManyRedirects config))))
    else
      match nextUrl env.tables hop.2 location with
      | .error error => (made, .inl (.error error))
      | .ok none =>
        (made, .inl (.ok (classifiedResult url hop.2 statusCode (latencyMs env hop.1))))
      | .ok (some next) => (made, .inr (hop.1 + 1, next))

/-- The requests that are sent on some hops. -/
def requestsSent (hops : List Hop) : List Request := hops.filterMap Hop.request

/-- A hop with a request adds one. -/
theorem length_requestsSent_append {made : Hop} (hrequest : made.request.isSome = true)
    (hops : List Hop) :
    (requestsSent (hops ++ [made])).length = (requestsSent hops).length + 1 := by
  obtain ⟨request, hrequest⟩ := Option.isSome_iff_exists.mp hrequest
  unfold requestsSent
  rw [List.filterMap_append, List.filterMap_cons_some hrequest, List.filterMap_nil,
    List.length_append]
  rfl

/-- A round that continues has counted one redirect more, within the limit. -/
theorem probeRound_count {env : ProbeEnv} {config : ProbeConfig} {url : PyStr}
    {hop next : ℕ × PyStr} {made : Hop}
    (hround : probeRound env config url hop = (made, .inr next)) :
    next.1 = hop.1 + 1 ∧ hop.1 < config.maxRedirects := by
  have hcontinues := congrArg Prod.snd hround
  unfold probeRound at hcontinues
  split at hcontinues
  · nomatch hcontinues
  · nomatch hcontinues
  · nomatch hcontinues
  · split at hcontinues
    · nomatch hcontinues
    · rename_i hlimit
      split at hcontinues
      · nomatch hcontinues
      · nomatch hcontinues
      · obtain rfl := Sum.inr.inj hcontinues
        exact ⟨rfl, Nat.lt_of_not_le hlimit⟩

/-- The redirects that are left are a budget of the loop. -/
theorem spends_probeRound (env : ProbeEnv) (config : ProbeConfig) (url : PyStr) :
    Spends (probeRound env config url) fun hop ↦ config.maxRedirects - hop.1 := by
  intro hop made next hround
  obtain ⟨hcount, hlimit⟩ := probeRound_count hround
  dsimp only
  omega

/-- `probeLoop` unfolds by the rounds of the loop. -/
theorem probeLoop_eq (env : ProbeEnv) (config : ProbeConfig) (url : PyStr)
    {remaining redirectCount : ℕ} (hcount : redirectCount + remaining = config.maxRedirects)
    (currentUrl : PyStr) :
    probeLoop env config url remaining redirectCount currentUrl =
      match probeRound env config url (redirectCount, currentUrl) with
      | (made, .inl result) => ([made], result)
      | (made, .inr next) =>
        (made :: (probeLoop env config url (remaining - 1) next.1 next.2).1,
          (probeLoop env config url (remaining - 1) next.1 next.2).2) := by
  unfold probeRound
  rw [probeLoop]
  dsimp only
  rcases probeHop env config url redirectCount currentUrl with
    ⟨made, error | result | statusCode | ⟨statusCode, location⟩⟩
  · rfl
  · rfl
  · rfl
  · dsimp only
    cases remaining with
    | zero =>
      have hlimit : config.maxRedirects ≤ redirectCount := hcount.ge
      rw [if_pos hlimit]
    | succ remaining =>
      have hlimit : ¬ config.maxRedirects ≤ redirectCount := by omega
      rw [if_neg hlimit]
      rcases nextUrl env.tables currentUrl location with error | next | next <;> rfl

/-- `probeLoop` is what the rounds of the loop come to. -/
theorem rounds_probeRound (env : ProbeEnv) (config : ProbeConfig) (url : PyStr)
    {remaining redirectCount : ℕ} (hcount : redirectCount + remaining = config.maxRedirects)
    (currentUrl : PyStr) :
    rounds (probeRound env config url) (remaining + 1) (redirectCount, currentUrl) =
      ((probeLoop env config url remaining redirectCount currentUrl).1,
        .inl (probeLoop env config url remaining redirectCount currentUrl).2) := by
  induction remaining generalizing redirectCount currentUrl with
  | zero =>
    rw [probeLoop_eq env config url hcount]
    rcases hround : probeRound env config url (redirectCount, currentUrl) with ⟨made, result | next⟩
    · exact rounds_of_leaves hround 0
    · obtain ⟨-, hlimit⟩ := probeRound_count hround
      exact absurd hcount hlimit.ne
  | succ remaining ih =>
    rw [probeLoop_eq env config url hcount]
    rcases hround : probeRound env config url (redirectCount, currentUrl) with ⟨made, result | next⟩
    · exact rounds_of_leaves hround _
    · obtain ⟨hnext, -⟩ := probeRound_count hround
      rw [rounds_of_continues hround, ih (by omega) next.2]
      rfl

/-! ### Where the servers keep sending the probe on -/

/-- A hop that is answered has sent its request. -/
theorem probeHop_request_of_isAnswered {env : ProbeEnv} {config : ProbeConfig} (url : PyStr)
    {currentUrl : PyStr} {redirectCount : ℕ} {response : Response}
    (hanswered : IsAnswered env config redirectCount currentUrl response) :
    (probeHop env config url redirectCount currentUrl).1.request.isSome = true := by
  obtain ⟨parsed, pinnedIp, port, hresult, hport, hbuild, hserver⟩ := hanswered
  unfold probeHop
  dsimp only
  rw [hresult]
  dsimp only [sendPinned]
  rw [hport]
  dsimp only
  rw [if_pos hbuild, hserver]
  rfl

/-- A round that meets a redirect sends its request. It runs into the limit or continues. -/
theorem probeRound_of_sendsTo {env : ProbeEnv} {config : ProbeConfig} (url : PyStr)
    {hop next : ℕ × PyStr} (hsends : SendsTo env config hop next) :
    ∃ made : Hop, made.request.isSome = true ∧
      probeRound env config url hop = (made, if config.maxRedirects ≤ hop.1 then
        .inl (.error (.requestError (tooManyRedirects config))) else .inr next) := by
  obtain ⟨response, location, hanswered, hredirect, hclose, hlocation, hne, hcount, hjoin,
    htarget⟩ := hsends
  have hhop : (probeHop env config url hop.1 hop.2).2 =
      .ok (.redirected response.statusCode (some location)) :=
    (probeHop_redirected_iff env config url hop.1 hop.2 _ _).mpr
      ⟨response, hanswered, hredirect, hclose, rfl, hlocation⟩
  have hnext : nextUrl env.tables hop.2 (some location) = .ok (some next.2) :=
    (nextUrl_eq_ok_some_iff env.tables hop.2 _ _).mpr ⟨location, rfl, hne, hjoin, htarget⟩
  refine ⟨_, probeHop_request_of_isAnswered url hanswered, ?_⟩
  unfold probeRound
  rcases hround : probeHop env config url hop.1 hop.2 with ⟨made, outcome⟩
  rw [hround] at hhop
  obtain rfl : outcome = .ok (.redirected response.statusCode (some location)) := hhop
  dsimp only
  split_ifs with hlimit
  · rfl
  · rw [hnext, ← hcount]

/-- Along a chain of redirects within the limit, the loop goes on, and every round sends its
request. -/
theorem rounds_of_chain {env : ProbeEnv} {config : ProbeConfig} {url : PyStr} {hop : ℕ × PyStr}
    (hchain : Relation.ReflTransGen (SendsTo env config) (0, url) hop)
    (hlimit : hop.1 ≤ config.maxRedirects) :
    ∃ hops, rounds (probeRound env config url) hop.1 (0, url) = (hops, .inr hop) ∧
      (requestsSent hops).length = hop.1 := by
  induction hchain with
  | refl => exact ⟨[], rfl, rfl⟩
  | @tail hop next _ hsends ih =>
    have hcount : next.1 = hop.1 + 1 := by
      obtain ⟨_, _, -, -, -, -, -, hcount, -⟩ := hsends
      exact hcount
    have hwithin : ¬ config.maxRedirects ≤ hop.1 := by omega
    obtain ⟨hops, hrounds, hlength⟩ := ih (by omega)
    obtain ⟨made, hrequest, hround⟩ := probeRound_of_sendsTo url hsends
    rw [if_neg hwithin] at hround
    refine ⟨hops ++ [made], ?_, ?_⟩
    · rw [hcount, rounds_add hrounds, rounds_of_continues hround]
      rfl
    · rw [length_requestsSent_append hrequest, hlength, hcount]

/-! ### The budget -/

/-- The loop of a probe stops after one request more than its redirect limit at most. When all of
these are answered with redirects that can be followed, it has sent them all and reports a redirect
error. -/
structure KeepsBudget (env : ProbeEnv) (config : ProbeConfig) (url : PyStr) : Prop where
  bounded : ∀ count, (requestsSent (rounds (probeRound env config url) count (0, url)).1).length ≤
    config.maxRedirects + 1
  stops : ∃ result, (rounds (probeRound env config url) (config.maxRedirects + 1) (0, url)) =
    ((performHttpProbe env config url).hops, .inl result)
  exhausted : ∀ next, Relation.ReflTransGen (SendsTo env config) (0, url) next →
    next.1 = config.maxRedirects + 1 →
      (requestsSent (performHttpProbe env config url).hops).length = config.maxRedirects + 1 ∧
        ∃ dto, (performHttpProbe env config url).result = .ok dto ∧ dto.outcome = .unreachable ∧
          dto.errorDetail = some .redirectError

/-- A probe keeps the budget of its redirect limit. -/
theorem keepsBudget_performHttpProbe (env : ProbeEnv) (config : ProbeConfig) (url : PyStr) :
    KeepsBudget env config url := by
  have hspends := spends_probeRound env config url
  have hstopped := rounds_probeRound env config url (Nat.zero_add config.maxRedirects) url
  refine ⟨fun count ↦ ?_, ⟨_, hstopped⟩, ?_⟩
  · exact (List.length_filterMap_le _ _).trans
      (length_rounds_le_of_spends hspends count (0, url))
  · intro next hchain hcount
    -- the round that runs into the limit is the one before the end of the chain
    rcases Relation.ReflTransGen.cases_tail hchain with hstart | ⟨hop, hbefore, hsends⟩
    · rw [hstart] at hcount
      nomatch hcount
    · have hlast : hop.1 = config.maxRedirects := by
        obtain ⟨_, _, -, -, -, -, -, hnext, -⟩ := hsends
        omega
      obtain ⟨hops, hrounds, hlength⟩ := rounds_of_chain hbefore hlast.le
      obtain ⟨made, hrequest, hround⟩ := probeRound_of_sendsTo url hsends
      rw [if_pos hlast.ge] at hround
      rw [hlast] at hrounds hlength
      rw [rounds_add hrounds, rounds_of_leaves hround] at hstopped
      obtain ⟨hhops, hresult⟩ := Prod.mk.inj hstopped
      unfold performHttpProbe
      dsimp only
      rw [← hhops, ← Sum.inl.inj hresult]
      refine ⟨?_, _, rfl, rfl, rfl⟩
      rw [length_requestsSent_append hrequest, hlength]

/-- With a limit of one redirect, a server that redirects without end gets two requests. -/
example : (requestsSent (performHttpProbe
    (steadyEnv (.response ⟨302, some "/end".toList, [], none, none⟩)) oneRedirectConfig
      "http://93.184.216.34/".toList).hops).length = 2 := rfl

end PingGuard.Net
