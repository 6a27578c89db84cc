import PingGuard.Net.Probe

/-!
# The fields of a probe result

The worker reads a probe result by its fields: the stored status comes from the outcome, the stored
row from the status code and the latency, and the decision to retry from the error detail. The
fields are set in many places: where a response is classified, where a hop refuses its target, and
in every handler.

Wherever a result comes from, its fields agree. This includes the results of the two failures that
`performHttpProbe` leaves out, those of the `async with` block of the client.
-/

set_option autoImplicit false
set_option relaxedAutoImplicit false

namespace PingGuard.Net

open Library.PyText Library.UrlSplit Ssrf Status

/-! ### The client block -/

/-- How the `async with` block of the client can fail: where it is entered, and where it is left.
The total deadline can pass at both. -/
structure ClientFaults where
  entering : Option SendFailure
  leaving : Option SendFailure

/-- `perform_http_probe` with the `async with` block of its client. A failure to enter the block
keeps the loop from running, and a failure to leave it takes the place of what the loop ended
with. -/
def performHttpProbeWithClient (faults : ClientFaults) (env : ProbeEnv) (config : ProbeConfig)
    (url : PyStr) : ProbeRun :=
  match faults.entering, faults.leaving with
  | some failure, _ => ⟨[], handleException env url failure.exception⟩
  | none, some failure =>
    ⟨(performHttpProbe env config url).hops, handleException env url failure.exception⟩
  | none, none => performHttpProbe env config url

/-! ### Coherent results -/

/-- The fields of a result for a URL agree. -/
structure PingResultDTO.IsCoherent (dto : PingResultDTO) (url : PyStr) : Prop where
  statusCode_iff_errorDetail : dto.statusCode ≠ none ↔ dto.errorDetail = none
  errorDetail_iff_finalUrl : dto.errorDetail = none ↔ dto.finalUrl ≠ none
  finalUrl_iff_outcome : dto.finalUrl ≠ none ↔ dto.outcome ≠ .unreachable
  outcome_of_standard : ∀ code, dto.statusCode = some code → 100 ≤ code ∧ code ≤ 599 →
    classifyStatusCode code = some dto.outcome
  outcome_of_other : ∀ code, dto.statusCode = some code → ¬ (100 ≤ code ∧ code ≤ 599) →
    dto.outcome = .down
  latencyMs_iff : dto.latencyMs = none ↔ dto.errorDetail = some .ssrfBlocked
  originalUrl : dto.originalUrl = url

/-- The result for a final response is coherent. -/
theorem isCoherent_classifiedResult (url currentUrl : PyStr) (statusCode latency : ℤ) :
    (classifiedResult url currentUrl statusCode latency).IsCoherent url := by
  have hsome := classifyStatusCode_isSome_iff statusCode
  have hreached : (classifiedResult url currentUrl statusCode latency).outcome ≠ .unreachable := by
    have hclassified := classifyStatusCode_ne_unreachable statusCode
    unfold classifiedResult
    dsimp only
    cases houtcome : classifyStatusCode statusCode with
    | none => exact PingOutcome.noConfusion
    | some outcome =>
      rintro rfl
      exact hclassified houtcome
  refine ⟨⟨fun _ ↦ rfl, fun _ ↦ Option.some_ne_none _⟩,
    ⟨fun _ ↦ Option.some_ne_none _, fun _ ↦ rfl⟩,
    ⟨fun _ ↦ hreached, fun _ ↦ Option.some_ne_none _⟩, ?_, ?_,
    ⟨fun hnone ↦ absurd hnone (Option.some_ne_none _),
      fun hdetail ↦ absurd hdetail.symm (Option.some_ne_none _)⟩, rfl⟩
  · rintro code hcode ⟨hlow, hhigh⟩
    obtain rfl : statusCode = code := Option.some.inj hcode
    obtain ⟨outcome, houtcome⟩ :=
      Option.isSome_iff_exists.mp (hsome.mpr ⟨hlow, Int.lt_of_le_sub_one hhigh⟩)
    unfold classifiedResult
    rw [houtcome]
    rfl
  · intro code hcode hother
    obtain rfl : statusCode = code := Option.some.inj hcode
    have hnone : classifyStatusCode statusCode = none := by
      rw [← Option.not_isSome_iff_eq_none, hsome]
      omega
    unfold classifiedResult
    rw [hnone]
    rfl

/-- The result for an error is coherent if it leaves out the latency exactly for a refused
target. -/
theorem isCoherent_buildProbeErrorResult (url : PyStr) {detail : ErrorDetail} {latency : Option ℚ}
    (hlatency : latency = none ↔ detail = .ssrfBlocked) :
    (buildProbeErrorResult url detail latency .unreachable).IsCoherent url where
  statusCode_iff_errorDetail :=
    ⟨fun hcode ↦ absurd rfl hcode, fun hnone ↦ absurd hnone (Option.some_ne_none _)⟩
  errorDetail_iff_finalUrl :=
    ⟨fun hnone ↦ absurd hnone (Option.some_ne_none _), fun hfinal ↦ absurd rfl hfinal⟩
  finalUrl_iff_outcome := ⟨fun hfinal ↦ absurd rfl hfinal, fun hreached ↦ absurd rfl hreached⟩
  outcome_of_standard := fun _ hcode ↦ absurd hcode.symm (Option.some_ne_none _)
  outcome_of_other := fun _ hcode ↦ absurd hcode.symm (Option.some_ne_none _)
  latencyMs_iff := hlatency.trans (Option.some_inj).symm
  originalUrl := rfl

/-- A refused target has no latency. -/
theorem isCoherent_ssrfBlocked (url : PyStr) :
    (buildProbeErrorResult url .ssrfBlocked none .unreachable).IsCoherent url :=
  isCoherent_buildProbeErrorResult url ⟨fun _ ↦ rfl, fun _ ↦ rfl⟩

/-- Every other error has one. -/
theorem isCoherent_elapsed (url : PyStr) {detail : ErrorDetail} (latency : ℚ)
    (hdetail : detail ≠ .ssrfBlocked) :
    (buildProbeErrorResult url detail (some latency) .unreachable).IsCoherent url :=
  isCoherent_buildProbeErrorResult url
    ⟨fun hnone ↦ absurd hnone (Option.some_ne_none _), fun hblocked ↦ absurd hblocked hdetail⟩

/-! ### Where results come from -/

/-- The handlers give coherent results. -/
theorem isCoherent_handleException {env : ProbeEnv} {url : PyStr} {error : ProbeException}
    {dto : PingResultDTO} (hhandled : handleException env url error = .ok dto) :
    dto.IsCoherent url := by
  cases error with
  | ssrfBlocked reason =>
    obtain rfl := Except.ok.inj hhandled
    exact isCoherent_ssrfBlocked url
  | requestError error =>
    obtain rfl := Except.ok.inj hhandled
    obtain ⟨houtcome, hmem⟩ := requestErrorOutcome_spec env.tables error
    have hdetail : (requestErrorOutcome env.tables error).2 ≠ .ssrfBlocked := by
      intro hblocked
      rw [hblocked] at hmem
      exact absurd hmem (by decide)
    rw [houtcome]
    exact isCoherent_elapsed url _ hdetail
  | timeout =>
    obtain rfl := Except.ok.inj hhandled
    exact isCoherent_elapsed url _ ErrorDetail.noConfusion
  | dnsResolution reason => nomatch hhandled
  | unhandled error => nomatch hhandled

/-- A hop that ends the probe gives a coherent result. -/
theorem isCoherent_probeHop {env : ProbeEnv} {config : ProbeConfig} {url currentUrl : PyStr}
    {redirectCount : ℕ} {dto : PingResultDTO}
    (hreturned : (probeHop env config url redirectCount currentUrl).2 = .ok (.returned dto)) :
    dto.IsCoherent url := by
  unfold probeHop at hreturned
  dsimp only at hreturned
  split at hreturned
  · obtain rfl := HopStep.returned.inj (Except.ok.inj hreturned)
    exact isCoherent_ssrfBlocked url
  · obtain rfl := HopStep.returned.inj (Except.ok.inj hreturned)
    exact isCoherent_elapsed url _ ErrorDetail.noConfusion
  · nomatch hreturned
  · exact absurd hreturned (sendPinned_ne_returned _ _ _ _ _ _)

/-- Every result that a probe returns is coherent. -/
theorem isCoherent_performHttpProbeWithClient (faults : ClientFaults) (env : ProbeEnv)
    (config : ProbeConfig) (url : PyStr) {dto : PingResultDTO}
    (hprobe : (performHttpProbeWithClient faults env config url).result = .ok dto) :
    dto.IsCoherent url := by
  unfold performHttpProbeWithClient at hprobe
  split at hprobe
  · exact isCoherent_handleException hprobe
  · exact isCoherent_handleException hprobe
  · exact performHttpProbe_ok (motive := (PingResultDTO.IsCoherent · url))
      (fun _ _ _ ↦ isCoherent_probeHop) (fun _ _ _ ↦ isCoherent_classifiedResult url _ _ _)
      (fun _ _ ↦ isCoherent_handleException) hprobe

/-- A server that answers with a status out of the standard range. -/
def oddStatusEnv : ProbeEnv := steadyEnv (.response ⟨999, none, [], none, none⟩)

/-- Its answer gives a coherent result, and so does the total deadline when it passes while the
client is left. -/
theorem isCoherent_oddStatusEnv :
    (classifiedResult "http://93.184.216.34/".toList "http://93.184.216.34/".toList 999
        (latencyMs oddStatusEnv 0)).IsCoherent "http://93.184.216.34/".toList ∧
      (buildProbeErrorResult "http://93.184.216.34/".toList .totalTimeout
        (some (elapsedMs oddStatusEnv)) .unreachable).IsCoherent "http://93.184.216.34/".toList :=
  ⟨isCoherent_performHttpProbeWithClient ⟨none, none⟩ oddStatusEnv oneRedirectConfig _ rfl,
    isCoherent_performHttpProbeWithClient ⟨none, some .timeout⟩ oddStatusEnv oneRedirectConfig _
      rfl⟩

end PingGuard.Net
