import Mathlib.Data.Rat.Floor
import PingGuard.Net.Validate
import PingGuard.Status

/-!
# The HTTP probe

`perform_http_probe` of `app/net.py`: a loop over hops, each of which validates its URL, sends one
request to the pinned address and either follows a redirect or ends the probe, and the handlers
around the loop.

What the probe meets is an environment: a resolver and a server reply for every hop, whether the
client accepts a request it is asked to build, and the readings of the monotonic clock. The total
deadline can pass wherever the probe awaits something, and then appears as a timeout there. Times
are exact rationals in place of floats.

`performHttpProbe` returns the hops it made, with the resolver answers obtained and the request
sent on each, and a result or the exception that no handler catches.
-/

set_option autoImplicit false
set_option relaxedAutoImplicit false

namespace PingGuard.Net

open Library.IpAddress Library.IpText Library.PyText Library.UrlSplit Ssrf Status

/-! ### Results -/

/-- `PingResultDTO`. -/
structure PingResultDTO where
  outcome : PingOutcome
  statusCode : Option ℤ
  latencyMs : Option ℚ
  errorDetail : Option ErrorDetail
  originalUrl : PyStr
  finalUrl : Option PyStr
  deriving DecidableEq

/-- `_build_probe_error_result`. -/
def buildProbeErrorResult (url : PyStr) (errorDetail : ErrorDetail) (latencyMs : Option ℚ)
    (outcome : PingOutcome) : PingResultDTO where
  outcome := outcome
  statusCode := none
  latencyMs := latencyMs
  errorDetail := some errorDetail
  originalUrl := url
  finalUrl := none

/-! ### The environment of a probe -/

/-- How sending a request or reading a body fails. The passing of the total deadline is a
`TimeoutError`. -/
inductive SendFailure
  | requestError (error : RequestError)
  | timeout

/-- The exception that a failure raises. -/
def SendFailure.exception : SendFailure → ProbeException
  | .requestError error => .requestError error
  | .timeout => .timeout

/-- A response: its status, its `Location` header, the sizes of its decoded chunks and how the body
ends, and whether closing it fails. -/
structure Response where
  statusCode : ℤ
  location : Option PyStr
  chunks : List ℕ
  bodyFailure : Option SendFailure
  closeFailure : Option SendFailure

/-- What `client.send` gives. -/
inductive ServerReply
  | response (response : Response)
  | failure (failure : SendFailure)

/-- A request as `client.build_request` receives it. -/
structure Request where
  url : PyStr
  host : PyStr
  userAgent : PyStr
  accept : PyStr
  sniHostname : Option PyStr

/-- What a probe meets, hop by hop. -/
structure ProbeEnv where
  tables : UnicodeTables
  /-- The resolver that a hop calls. -/
  resolver : ℕ → Resolver
  /-- Whether the total deadline passes while a hop awaits its resolver. -/
  lookupDeadline : ℕ → Bool
  /-- Whether the client builds a request. -/
  buildRequest : Request → Bool
  /-- The reply to the request of a hop. -/
  server : ℕ → ServerReply
  /-- The clock when the probe starts. -/
  startMono : ℚ
  /-- The clock before the request of a hop. -/
  sentAt : ℕ → ℚ
  /-- The clock after the response of a hop. -/
  receivedAt : ℕ → ℚ
  /-- The clock where an error is handled. -/
  handledAt : ℚ

/-- The arguments of a probe after its defaults are filled in. -/
structure ProbeConfig where
  userAgent : PyStr
  maxResponseBytes : ℕ
  maxRedirects : ℕ
  allowLoopback : Bool

/-! ### Rounding -/

/-- Python's `round`: to the nearest integer, ties to the even one. -/
def roundHalfEven (x : ℚ) : ℤ :=
  let fraction := x - ⌊x⌋
  if fraction < 1 / 2 then ⌊x⌋
  else if 1 / 2 < fraction then ⌊x⌋ + 1
  else if ⌊x⌋ % 2 = 0 then ⌊x⌋
  else ⌊x⌋ + 1

/-- `elapsed_ms` of the handlers: milliseconds to two decimals. -/
def elapsedMs (env : ProbeEnv) : ℚ :=
  roundHalfEven ((env.handledAt - env.startMono) * 1000 * 100) / 100

/-- `latency_ms` of a hop. -/
def latencyMs (env : ProbeEnv) (redirectCount : ℕ) : ℤ :=
  roundHalfEven ((env.receivedAt redirectCount - env.sentAt redirectCount) * 1000)

/-! ### Exception handlers -/

/-- Whether a text is part of another. -/
def isSubtext (part text : PyStr) : Bool := text.tails.any (part.isPrefixOf ·)

/-- `is_tls_exception`: along the chain of causes, an `ssl` error or one whose name or text says
so. -/
def isTlsException (tables : UnicodeTables) (error : RequestError) : Bool :=
  error.chain.any fun current ↦
    current.isSslError || isSubtext "ssl".toList (lower tables current.name) ||
      isSubtext "certificate".toList (lower tables current.text) ||
        isSubtext "tls".toList (lower tables current.text)

/-- `HTTPX_EXCEPTION_TABLE`. -/
def httpxExceptionTable : List (RequestErrorKind × PingOutcome × ErrorDetail) :=
  [(.connectTimeout, .unreachable, .connectTimeout), (.readTimeout, .unreachable, .readTimeout),
    (.writeTimeout, .unreachable, .writeTimeout), (.poolTimeout, .unreachable, .poolTimeout),
    (.tooManyRedirects, .unreachable, .redirectError), (.connectError, .unreachable, .connectError),
    (.requestError, .unreachable, .requestError)]

/-- `isinstance(exc, exc_type)`: every class of the table is its own only subclass there, except
for the common base class. -/
def RequestErrorKind.isInstance (kind excType : RequestErrorKind) : Bool :=
  excType == .requestError || kind == excType

/-- The outcome and the error detail of an `httpx.RequestError`. -/
def requestErrorOutcome (tables : UnicodeTables) (error : RequestError) :
    PingOutcome × ErrorDetail :=
  match httpxExceptionTable.find? (error.kind.isInstance ·.1) with
  | some (excType, outcome, detail) =>
    (outcome, if excType = .connectError ∧ isTlsException tables error then .tlsError else detail)
  | none => (.unreachable, .requestError)

/-- The handlers around the loop. An exception that none of them names is raised again. -/
def handleException (env : ProbeEnv) (url : PyStr) :
    ProbeException → Except ProbeException PingResultDTO
  | .ssrfBlocked _ => .ok (buildProbeErrorResult url .ssrfBlocked none .unreachable)
  | .requestError error =>
    .ok (buildProbeErrorResult url (requestErrorOutcome env.tables error).2 (some (elapsedMs env))
      (requestErrorOutcome env.tables error).1)
  | .timeout => .ok (buildProbeErrorResult url .totalTimeout (some (elapsedMs env)) .unreachable)
  | .dnsResolution reason => .error (.dnsResolution reason)
  | .unhandled error => .error (.unhandled error)

/-! ### One hop -/

/-- The authority of the pinned URL: the address, in brackets if it is an IPv6 one, and the port if
the URL has one. -/
def rewrittenNetloc (pinnedIp : PyStr) (port : Option ℕ) : PyStr :=
  let hostLiteral := if ':' ∈ pinnedIp then '[' :: pinnedIp ++ [']'] else pinnedIp
  match port with
  | some (n + 1) => hostLiteral ++ ':' :: Nat.toDigits 10 (n + 1)
  | _ => hostLiteral

/-- `pinned_url`. -/
def pinnedUrl (parsed : SplitResult) (pinnedIp : PyStr) (port : Option ℕ) : PyStr :=
  urlunsplit { parsed with
    netloc := rewrittenNetloc pinnedIp port
    path := if parsed.path = [] then ['/'] else parsed.path }

/-- The request of a hop: the pinned URL, the headers, and the server name for TLS. -/
def pinnedRequest (tables : UnicodeTables) (config : ProbeConfig) (parsed : SplitResult)
    (pinnedIp : PyStr) (port : Option ℕ) : Request where
  url := pinnedUrl parsed pinnedIp port
  host := parsed.netloc
  userAgent := config.userAgent
  accept := "*/*".toList
  sniHostname :=
    if lower tables parsed.scheme = "https".toList ∧ isTruthy (parsed.hostname tables) then
      parsed.hostname tables
    else none

/-- The statuses that count as redirects with a `Location` header. -/
def redirectStatusCodes : List ℤ := [301, 302, 303, 307, 308]

/-- The test for the redirect branch. `is_redirect` of the client is true for every 3xx status. -/
def Response.isRedirect (response : Response) : Bool :=
  (300 ≤ response.statusCode && response.statusCode ≤ 399) ||
    (response.statusCode ∈ redirectStatusCodes && response.location.isSome)

/-- The loop over the chunks of a body: the bytes taken in, and the failure that ends the body if
reading gets there. -/
def readBody (maxBytes : ℕ) (ending : Option SendFailure) (bytesRead : ℕ) :
    List ℕ → ℕ × Option SendFailure
  | [] => (bytesRead, ending)
  | chunk :: rest =>
    if maxBytes < bytesRead + chunk then (bytesRead + chunk, none)
    else readBody maxBytes ending (bytesRead + chunk) rest

/-- How a hop that raises nothing ends: with a result of its own, with a response that is no
redirect, or with a redirect. -/
inductive HopStep
  | returned (result : PingResultDTO)
  | answered (statusCode : ℤ)
  | redirected (statusCode : ℤ) (location : Option PyStr)

/-- What follows the response of a hop, up to the redirect limit. A failure to close the response
replaces one to read it. -/
def handleResponse (config : ProbeConfig) (response : Response) : Except ProbeException HopStep :=
  if response.isRedirect then
    match response.closeFailure with
    | some failure => .error failure.exception
    | none => .ok (.redirected response.statusCode response.location)
  else
    match response.closeFailure,
      (readBody config.maxResponseBytes response.bodyFailure 0 response.chunks).2 with
    | some failure, _ => .error failure.exception
    | none, some failure => .error failure.exception
    | none, none => .ok (.answered response.statusCode)

/-- A hop: its number, its URL, the resolver answers it obtained and the request it sent. -/
structure Hop where
  redirectCount : ℕ
  url : PyStr
  answers : List Answer
  request : Option Request

/-- From a validated target to the response: the port is read, the request is built and sent. -/
def sendPinned (env : ProbeEnv) (config : ProbeConfig) (redirectCount : ℕ) (parsed : SplitResult)
    (pinnedIp : PyStr) : Option Request × Except ProbeException HopStep :=
  match parsed.port with
  | none => (none, .error (.unhandled .invalidPort))
  | some port =>
    let request := pinnedRequest env.tables config parsed pinnedIp port
    if env.buildRequest request then
      match env.server redirectCount with
      | .failure failure => (some request, .error failure.exception)
      | .response response => (some request, handleResponse config response)
    else (none, .error (.unhandled .invalidRequest))

/-- The validation of a hop. Loopback addresses are allowed on the first hop at most. -/
def validateHop (env : ProbeEnv) (config : ProbeConfig) (redirectCount : ℕ) (currentUrl : PyStr) :
    Validation (SplitResult × PyStr) :=
  asyncResolveAndValidateTarget env.tables
    (if redirectCount = 0 then config.allowLoopback else false) (env.resolver redirectCount)
    (env.lookupDeadline redirectCount) currentUrl

/-- One round of the loop. A refused target and a failed name resolution end the probe here. -/
def probeHop (env : ProbeEnv) (config : ProbeConfig) (url : PyStr) (redirectCount : ℕ)
    (currentUrl : PyStr) : Hop × Except ProbeException HopStep :=
  let validation := validateHop env config redirectCount currentUrl
  match validation.result with
  | .error (.ssrfBlocked _) =>
    (⟨redirectCount, currentUrl, validation.answers, none⟩,
      .ok (.returned (buildProbeErrorResult url .ssrfBlocked none .unreachable)))
  | .error (.dnsResolution _) =>
    (⟨redirectCount, currentUrl, validation.answers, none⟩,
      .ok (.returned (buildProbeErrorResult url .dnsError (some (elapsedMs env)) .unreachable)))
  | .error error => (⟨redirectCount, currentUrl, validation.answers, none⟩, .error error)
  | .ok (parsed, pinnedIp) =>
    let sent := sendPinned env config redirectCount parsed pinnedIp
    (⟨redirectCount, currentUrl, validation.answers, sent.1⟩, sent.2)

/-! ### The loop -/

/-- The result for a final response. A status outside the standard range counts as down. -/
def classifiedResult (url currentUrl : PyStr) (statusCode latency : ℤ) : PingResultDTO where
  outcome := (classifyStatusCode statusCode).getD .down
  statusCode := some statusCode
  latencyMs := some latency
  errorDetail := none
  originalUrl := url
  finalUrl := some currentUrl

/-- The URL a redirect leads to. Without a usable `Location` there is none. -/
def nextUrl (tables : UnicodeTables) (currentUrl : PyStr) (location : Option PyStr) :
    Except ProbeException (Option PyStr) :=
  match location with
  | none | some [] => .ok none
  | some text =>
    match urljoin tables currentUrl (strip text) with
    | none => .error (.unhandled .malformedRedirect)
    | some next =>
      match urlsplit tables next [] with
      | none => .error (.unhandled .malformedRedirect)
      | some parsed =>
        if lower tables parsed.scheme ∈ allowedSchemes then .ok (some next)
        else .error (.ssrfBlocked (.unsupportedRedirectScheme parsed.scheme))

/-- `httpx.TooManyRedirects`, as the loop raises it. -/
def tooManyRedirects (config : ProbeConfig) : RequestError where
  kind := .tooManyRedirects
  chain := [⟨false, "TooManyRedirects".toList, "Exceeded maximum allowed redirects (".toList ++
    Nat.toDigits 10 config.maxRedirects ++ [')']⟩]

/-- The loop from a hop on. The first number is how many redirects are left, the maximum less the
count of those followed. -/
def probeLoop (env : ProbeEnv) (config : ProbeConfig) (url : PyStr) :
    ℕ → ℕ → PyStr → List Hop × Except ProbeException PingResultDTO
  | remaining, redirectCount, currentUrl =>
    match probeHop env config url redirectCount currentUrl with
    | (hop, .error error) => ([hop], .error error)
    | (hop, .ok (.returned result)) => ([hop], .ok result)
    | (hop, .ok (.answered statusCode)) =>
      ([hop], .ok (classifiedResult url currentUrl statusCode (latencyMs env redirectCount)))
    | (hop, .ok (.redirected statusCode location)) =>
      match remaining with
      | 0 => ([hop], .error (.requestError (tooManyRedirects config)))
      | remaining + 1 =>
        match nextUrl env.tables currentUrl location with
        | .error error => ([hop], .error error)
        | .ok none =>
          ([hop], .ok (classifiedResult url currentUrl statusCode (latencyMs env redirectCount)))
        | .ok (some next) =>
          let rest := probeLoop env config url remaining (redirectCount + 1) next
          (hop :: rest.1, rest.2)

/-- A run of the probe: its hops, and its result or the exception that escapes. -/
structure ProbeRun where
  hops : List Hop
  result : Except ProbeException PingResultDTO

/-- `perform_http_probe`. -/
def performHttpProbe (env : ProbeEnv) (config : ProbeConfig) (url : PyStr) : ProbeRun :=
  let run := probeLoop env config url config.maxRedirects 0 url
  ⟨run.1, match run.2 with
    | .ok result => .ok result
    | .error error => handleException env url error⟩

/-! ### What is returned -/

/-- A request error means that the target was not reached. Its detail is one of the table. -/
theorem requestErrorOutcome_spec (tables : UnicodeTables) (error : RequestError) :
    (requestErrorOutcome tables error).1 = .unreachable ∧
      (requestErrorOutcome tables error).2 ∈
        ErrorDetail.tlsError :: httpxExceptionTable.map (·.2.2) := by
  have htable : ∀ entry ∈ httpxExceptionTable, entry.2.1 = .unreachable := by decide
  unfold requestErrorOutcome
  split
  · rename_i excType outcome detail hfind
    have hmem := List.mem_of_find?_eq_some hfind
    refine ⟨htable _ hmem, ?_⟩
    dsimp only
    split_ifs
    · exact List.mem_cons_self
    · exact List.mem_cons_of_mem _ (List.mem_map_of_mem hmem)
  · exact ⟨rfl, by decide⟩

/-- What follows a validated target is no result yet. -/
theorem sendPinned_ne_returned (env : ProbeEnv) (config : ProbeConfig) (redirectCount : ℕ)
    (parsed : SplitResult) (pinnedIp : PyStr) (result : PingResultDTO) :
    (sendPinned env config redirectCount parsed pinnedIp).2 ≠ .ok (.returned result) := by
  have hresponse : ∀ response, handleResponse config response ≠ .ok (.returned result) := by
    intro response hreturned
    unfold handleResponse at hreturned
    split_ifs at hreturned
    · split at hreturned <;> nomatch hreturned
    · split at hreturned <;> nomatch hreturned
  intro hreturned
  unfold sendPinned at hreturned
  split at hreturned
  · nomatch hreturned
  · dsimp only at hreturned
    split_ifs at hreturned
    · split at hreturned
      · nomatch hreturned
      · exact hresponse _ hreturned

/-- A hop that ends the probe itself reports a refused target or a failed name resolution. -/
theorem probeHop_returned {env : ProbeEnv} {config : ProbeConfig} {url currentUrl : PyStr}
    {redirectCount : ℕ} {result : PingResultDTO}
    (hreturned : (probeHop env config url redirectCount currentUrl).2 = .ok (.returned result)) :
    result.errorDetail = some .ssrfBlocked ∨ result.errorDetail = some .dnsError := by
  unfold probeHop at hreturned
  dsimp only at hreturned
  split at hreturned
  · obtain rfl := HopStep.returned.inj (Except.ok.inj hreturned)
    exact Or.inl rfl
  · obtain rfl := HopStep.returned.inj (Except.ok.inj hreturned)
    exact Or.inr rfl
  · nomatch hreturned
  · exact absurd hreturned (sendPinned_ne_returned _ _ _ _ _ _)

/-- What holds of the results that a hop returns and of every classified response holds of the
result of the loop. -/
theorem probeLoop_ok {env : ProbeEnv} {config : ProbeConfig} {url currentUrl : PyStr}
    {motive : PingResultDTO → Prop} {remaining redirectCount : ℕ} {dto : PingResultDTO}
    (hreturned : ∀ redirectCount currentUrl dto,
      (probeHop env config url redirectCount currentUrl).2 = .ok (.returned dto) → motive dto)
    (hclassified : ∀ currentUrl statusCode latency,
      motive (classifiedResult url currentUrl statusCode latency))
    (hloop : (probeLoop env config url remaining redirectCount currentUrl).2 = .ok dto) :
    motive dto := by
  induction remaining generalizing redirectCount currentUrl with
  | zero =>
    unfold probeLoop at hloop
    split at hloop
    · nomatch hloop
    · rename_i hop result hhop
      obtain rfl := Except.ok.inj hloop
      exact hreturned _ _ _ (congrArg Prod.snd hhop)
    · obtain rfl := Except.ok.inj hloop
      exact hclassified _ _ _
    · nomatch hloop
  | succ remaining ih =>
    unfold probeLoop at hloop
    split at hloop
    · nomatch hloop
    · rename_i hop result hhop
      obtain rfl := Except.ok.inj hloop
      exact hreturned _ _ _ (congrArg Prod.snd hhop)
    · obtain rfl := Except.ok.inj hloop
      exact hclassified _ _ _
    · dsimp only at hloop
      split at hloop
      · nomatch hloop
      · obtain rfl := Except.ok.inj hloop
        exact hclassified _ _ _
      · exact ih hloop

/-- What also holds of the results of the handlers holds of the result of a probe. -/
theorem performHttpProbe_ok {env : ProbeEnv} {config : ProbeConfig} {url : PyStr}
    {motive : PingResultDTO → Prop} {dto : PingResultDTO}
    (hreturned : ∀ redirectCount currentUrl dto,
      (probeHop env config url redirectCount currentUrl).2 = .ok (.returned dto) → motive dto)
    (hclassified : ∀ currentUrl statusCode latency,
      motive (classifiedResult url currentUrl statusCode latency))
    (hhandled : ∀ error dto, handleException env url error = .ok dto → motive dto)
    (hprobe : (performHttpProbe env config url).result = .ok dto) : motive dto := by
  unfold performHttpProbe at hprobe
  dsimp only at hprobe
  split at hprobe
  · rename_i result hloop
    obtain rfl := Except.ok.inj hprobe
    exact probeLoop_ok hreturned hclassified hloop
  · exact hhandled _ _ hprobe

/-- A probe reports no soft time limit of a task. -/
theorem performHttpProbe_ne_taskSoftTimeLimit {env : ProbeEnv} {config : ProbeConfig}
    {url : PyStr} {dto : PingResultDTO}
    (hprobe : (performHttpProbe env config url).result = .ok dto) :
    dto.errorDetail ≠ some .taskSoftTimeLimit := by
  refine performHttpProbe_ok (motive := fun dto ↦ dto.errorDetail ≠ some .taskSoftTimeLimit)
    (fun redirectCount currentUrl dto hreturned ↦ ?_) (fun _ _ _ ↦ nofun)
    (fun error dto hhandled ↦ ?_) hprobe
  · rcases probeHop_returned hreturned with hblocked | hdns
    · rw [hblocked]
      nofun
    · rw [hdns]
      nofun
  · cases error with
    | ssrfBlocked reason =>
      obtain rfl := Except.ok.inj hhandled
      nofun
    | requestError error =>
      obtain rfl := Except.ok.inj hhandled
      intro hdetail
      have hmem := (requestErrorOutcome_spec env.tables error).2
      rw [Option.some.inj hdetail] at hmem
      exact absurd hmem (by decide)
    | timeout =>
      obtain rfl := Except.ok.inj hhandled
      nofun
    | dnsResolution reason => nomatch hhandled
    | unhandled error => nomatch hhandled

/-! ### A steady environment -/

/-- A resolver that knows one IPv4 address. -/
def singleResolver : Resolver where
  withType := fun _ _ ↦ .answer [some "93.184.216.34".toList]
  withoutType := fun _ _ ↦ .otherError

/-- An environment in which every hop meets the same resolver and the same reply. -/
def steadyEnv (reply : ServerReply) : ProbeEnv where
  tables := .caseless
  resolver := fun _ ↦ singleResolver
  lookupDeadline := fun _ ↦ false
  buildRequest := fun _ ↦ true
  server := fun _ ↦ reply
  startMono := 0
  sentAt := fun _ ↦ 0
  receivedAt := fun _ ↦ 0
  handledAt := 0

/-- A configuration with one redirect. -/
def oneRedirectConfig : ProbeConfig where
  userAgent := "PingGuard".toList
  maxResponseBytes := 1
  maxRedirects := 1
  allowLoopback := false

end PingGuard.Net
