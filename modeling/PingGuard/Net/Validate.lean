import PingGuard.Library.UrlSplit
import PingGuard.Ssrf

/-!
# Validation of a probe target

`resolve_and_validate_target` and `async_resolve_and_validate_target` of `app/net.py`. Both take a
URL apart, refuse what is no plain HTTP target, and check every address behind the host against
the address policy. They differ in what they hand back: all addresses or the first one.

`parseTarget` is the part before name resolution, `lookup` the resolver call with its handlers,
and `checkAnswer` the check of the resolver's answer. A resolver is arbitrary: it may answer or
raise, and reading one of its entries may raise.

`PinsLiteral` and `PinsAnswer` describe the two ways in which a validation comes to an address,
and `asyncResolveAndValidateTarget_eq_ok` says that there is no third. A literal is read off the
URL; an answer is the only one obtained and has no refused address.
-/

set_option autoImplicit false
set_option relaxedAutoImplicit false

namespace PingGuard.Net

open Library.IpAddress Library.IpText Library.PyText Library.UrlSplit Ssrf

/-! ### Exceptions -/

/-- What an `SSRFBlockedError` reports. -/
inductive SsrfReason
  | malformedUrl
  | unsupportedScheme (scheme : PyStr)
  | missingHostname
  | embeddedCredentials
  | blockedLiteral (hostname : PyStr)
  | loopbackAlias (hostname : PyStr)
  | blockedAddress (hostname address : PyStr)
  | invalidAddress (address : PyStr)
  | unsupportedRedirectScheme (scheme : PyStr)

/-- What a `DNSResolutionError` reports. -/
inductive DnsReason
  | resolutionFailed (hostname : PyStr)
  | lookupError (hostname : PyStr)
  | noAddresses (hostname : PyStr)

/-- The classes of `httpx.RequestError` that the probe tells apart. -/
inductive RequestErrorKind
  | connectTimeout
  | readTimeout
  | writeTimeout
  | poolTimeout
  | tooManyRedirects
  | connectError
  | requestError
  deriving DecidableEq

/-- One exception of a chain of causes: whether it is an `ssl` error, its class name and its
text. -/
structure ChainedException where
  isSslError : Bool
  name : PyStr
  text : PyStr

/-- An `httpx.RequestError` with itself and its causes in order. -/
structure RequestError where
  kind : RequestErrorKind
  chain : List ChainedException

/-- The exceptions that the code has no handler for, by the statement that raises them. -/
inductive UnhandledError
  /-- `SplitResult.port`: a `ValueError`. -/
  | invalidPort
  /-- Reading the answer of the resolver: it is no iterable of address tuples. -/
  | malformedAnswer
  /-- `client.build_request`. -/
  | invalidRequest
  /-- `urljoin` or `urlsplit` on a redirect target: a `ValueError`. -/
  | malformedRedirect
  deriving DecidableEq

/-- The exceptions of a probe. -/
inductive ProbeException
  | ssrfBlocked (reason : SsrfReason)
  | dnsResolution (reason : DnsReason)
  | requestError (error : RequestError)
  | timeout
  | unhandled (error : UnhandledError)

/-! ### Name resolution -/

/-- The answer of a resolver, entry by entry: the text of `str(entry[4][0])`, or nothing where
reading the entry raises. An answer that cannot be iterated over is one unreadable entry. -/
abbrev Answer := List (Option PyStr)

/-- How a call of the resolver ends. -/
inductive ResolverReply
  | answer (entries : Answer)
  /-- The call itself raises `TypeError`. -/
  | typeError
  /-- `socket.gaierror`, raised by the call or while its result is awaited. -/
  | gaiError
  /-- Any other exception, raised by the call or while its result is awaited. -/
  | otherError

/-- A resolver, called with a host and a port, with or without the socket type. -/
structure Resolver where
  withType : PyStr → ℕ → ResolverReply
  withoutType : PyStr → ℕ → ResolverReply

/-- The handlers around a resolver call. -/
def settle (hostname : PyStr) : ResolverReply → Except ProbeException Answer
  | .answer entries => .ok entries
  | .gaiError => .error (.dnsResolution (.resolutionFailed hostname))
  | .typeError | .otherError => .error (.dnsResolution (.lookupError hostname))

/-- The resolver call: a `TypeError` of the first call leads to a second one without the socket
type. -/
def lookup (resolver : Resolver) (hostname : PyStr) (port : ℕ) : Except ProbeException Answer :=
  match resolver.withType hostname port with
  | .typeError => settle hostname (resolver.withoutType hostname port)
  | reply => settle hostname reply

/-! ### The target of a URL -/

/-- The schemes a probe may use. -/
def allowedSchemes : List PyStr := ["http".toList, "https".toList]

/-- The host names refused without resolving them. -/
def loopbackAliases : List PyStr := ["localhost".toList, "localhost.localdomain".toList]

/-- Truth of an optional text. -/
def isTruthy (text : Option PyStr) : Bool := text.any (· ≠ [])

/-- `hostname_clean`. -/
def hostnameClean (tables : UnicodeTables) (hostname : PyStr) : PyStr :=
  lower tables (strip hostname)

/-- The port a name is resolved for. -/
def resolverPort (tables : UnicodeTables) (parsed : SplitResult) (port : Option ℕ) : ℕ :=
  match port with
  | some (n + 1) => n + 1
  | _ => if lower tables parsed.scheme = "https".toList then 443 else 80

/-- Whether the address policy lets an address pass: it is not blocked, or loopback addresses are
allowed and it is one. -/
def isAdmitted (allowLoopback : Bool) (ip : IPAddress) : Bool :=
  !isIpBlocked ip || (allowLoopback && (ip.isLoopback || IPAddress.toText ip = "127.0.0.1".toList))

/-- What a URL points to before names are resolved. -/
inductive Target
  | literal (parsed : SplitResult) (ip : IPAddress)
  | name (parsed : SplitResult) (hostname : PyStr) (port : ℕ)

/-- The checks before name resolution: the URL and its scheme, its host, its credentials, an
address literal, the loopback aliases and the port. -/
def parseTarget (tables : UnicodeTables) (allowLoopback : Bool) (url : PyStr) :
    Except ProbeException Target :=
  match urlsplit tables url [] with
  | none => .error (.ssrfBlocked .malformedUrl)
  | some parsed =>
    if lower tables parsed.scheme ∉ allowedSchemes then
      .error (.ssrfBlocked (.unsupportedScheme parsed.scheme))
    else
      match parsed.hostname tables with
      | none => .error (.ssrfBlocked .missingHostname)
      | some hostname =>
        if hostname = [] then .error (.ssrfBlocked .missingHostname)
        else if isTruthy parsed.username || isTruthy parsed.password then
          .error (.ssrfBlocked .embeddedCredentials)
        else
          match ipAddress (hostnameClean tables hostname) with
          | some ip =>
            if isAdmitted allowLoopback ip then .ok (.literal parsed ip)
            else .error (.ssrfBlocked (.blockedLiteral (hostnameClean tables hostname)))
          | none =>
            if hostnameClean tables hostname ∈ loopbackAliases ∧ ¬ allowLoopback then
              .error (.ssrfBlocked (.loopbackAlias (hostnameClean tables hostname)))
            else
              match parsed.port with
              | none => .error (.unhandled .invalidPort)
              | some port =>
                .ok (.name parsed (hostnameClean tables hostname)
                  (resolverPort tables parsed port))

/-! ### The answer of the resolver -/

/-- The loop that collects the addresses of an answer without repetition. -/
def collectAddresses (resolvedIps : List PyStr) : Answer → Except ProbeException (List PyStr)
  | [] => .ok resolvedIps
  | none :: _ => .error (.unhandled .malformedAnswer)
  | some ip :: rest =>
    collectAddresses (if ip ∈ resolvedIps then resolvedIps else resolvedIps ++ [ip]) rest

/-- The loop that checks every address of an answer. -/
def checkAddresses (allowLoopback : Bool) (hostname : PyStr) :
    List PyStr → Except ProbeException Unit
  | [] => .ok ()
  | text :: rest =>
    match ipAddress text with
    | none => .error (.ssrfBlocked (.invalidAddress text))
    | some ip =>
      if isAdmitted allowLoopback ip then checkAddresses allowLoopback hostname rest
      else .error (.ssrfBlocked (.blockedAddress hostname text))

/-- The addresses of an answer, all of them checked. -/
def checkAnswer (allowLoopback : Bool) (hostname : PyStr) (entries : Answer) :
    Except ProbeException (List PyStr) := do
  let resolvedIps ← collectAddresses [] entries
  if resolvedIps = [] then throw (.dnsResolution (.noAddresses hostname))
  checkAddresses allowLoopback hostname resolvedIps
  return resolvedIps

/-! ### The validators -/

/-- A validation: the resolver answers it obtained and how it ended. -/
structure Validation (α : Type) where
  answers : List Answer
  result : Except ProbeException α

/-- The body that the two validators share, over the outcome of the resolver call. -/
def validateTarget (tables : UnicodeTables) (allowLoopback : Bool)
    (lookup : PyStr → ℕ → Except ProbeException Answer) (url : PyStr) :
    Validation (SplitResult × List PyStr) :=
  match parseTarget tables allowLoopback url with
  | .error error => ⟨[], .error error⟩
  | .ok (.literal parsed ip) => ⟨[], .ok (parsed, [IPAddress.toText ip])⟩
  | .ok (.name parsed hostname port) =>
    match lookup hostname port with
    | .error error => ⟨[], .error error⟩
    | .ok entries =>
      ⟨[entries], (checkAnswer allowLoopback hostname entries).map (parsed, ·)⟩

/-- `resolve_and_validate_target`: the parsed URL and all its addresses. -/
def resolveAndValidateTarget (tables : UnicodeTables) (allowLoopback : Bool)
    (resolver : Resolver) (url : PyStr) : Validation (SplitResult × List PyStr) :=
  validateTarget tables allowLoopback (lookup resolver) url

/-- `async_resolve_and_validate_target`: the parsed URL and its first address. The total deadline
of the probe may pass while the resolver is awaited. -/
def asyncResolveAndValidateTarget (tables : UnicodeTables) (allowLoopback : Bool)
    (resolver : Resolver) (deadline : Bool) (url : PyStr) : Validation (SplitResult × PyStr) :=
  let validation := validateTarget tables allowLoopback
    (fun hostname port ↦ if deadline then .error .timeout else lookup resolver hostname port) url
  ⟨validation.answers, validation.result.map fun target ↦ (target.1, target.2.headD [])⟩

/-- The answer of a lookup is a reply of the resolver. -/
theorem lookup_eq_ok {resolver : Resolver} {hostname : PyStr} {port : ℕ} {entries : Answer}
    (hlookup : lookup resolver hostname port = .ok entries) :
    resolver.withType hostname port = .answer entries ∨
      resolver.withoutType hostname port = .answer entries := by
  have hsettle : ∀ reply, settle hostname reply = .ok entries → reply = .answer entries := by
    intro reply hreply
    cases reply with
    | answer other => rw [Except.ok.inj hreply]
    | _ => simp [settle] at hreply
  unfold lookup at hlookup
  split at hlookup
  · exact Or.inr (hsettle _ hlookup)
  · exact Or.inl (hsettle _ hlookup)

/-! ### What passes the address policy -/

/-- An address passes when it is not blocked, or when loopback addresses are allowed and it is
one. -/
theorem isAdmitted_iff {allowLoopback : Bool} {ip : IPAddress} :
    isAdmitted allowLoopback ip = true ↔
      isIpBlocked ip = false ∨ (allowLoopback = true ∧ ip.isLoopback = true) := by
  -- the text `127.0.0.1` is that of a loopback address only
  have htext : IPAddress.toText ip = "127.0.0.1".toList → ip.isLoopback = true := by
    intro heq
    cases ip with
    | v4 address =>
      have hround := parseIPv4_toText address
      rw [IPAddress.toText] at heq
      rw [heq] at hround
      obtain rfl := Option.some.inj hround
      decide
    | v6 address =>
      have hcolon := colon_mem_toText address
      rw [IPAddress.toText] at heq
      rw [heq] at hcolon
      exact absurd hcolon (by decide)
  unfold isAdmitted
  simp only [Bool.or_eq_true, Bool.not_eq_true', Bool.and_eq_true, decide_eq_true_eq]
  constructor
  · rintro (hblocked | ⟨hallow, hloopback | heq⟩)
    · exact Or.inl hblocked
    · exact Or.inr ⟨hallow, hloopback⟩
    · exact Or.inr ⟨hallow, htext heq⟩
  · rintro (hblocked | ⟨hallow, hloopback⟩)
    · exact Or.inl hblocked
    · exact Or.inr ⟨hallow, Or.inl hloopback⟩

/-! ### What the checks before name resolution leave -/

/-- The host of a URL, stripped and in lower case, is the text of an address. -/
def IsLiteralOf (tables : UnicodeTables) (url : PyStr) (ip : IPAddress) : Prop :=
  ∃ parsed hostname, urlsplit tables url [] = some parsed ∧
    parsed.hostname tables = some hostname ∧ ipAddress (hostnameClean tables hostname) = some ip

/-- The URL of a hop passes all the checks before its port is read. -/
def ReadsPort (tables : UnicodeTables) (allowLoopback : Bool) (url : PyStr)
    (parsed : SplitResult) : Prop :=
  urlsplit tables url [] = some parsed ∧ lower tables parsed.scheme ∈ allowedSchemes ∧
    ∃ hostname, parsed.hostname tables = some hostname ∧ hostname ≠ [] ∧
      isTruthy parsed.username = false ∧ isTruthy parsed.password = false ∧
      ((∃ ip, ipAddress (hostnameClean tables hostname) = some ip ∧
          isAdmitted allowLoopback ip = true) ∨
        (ipAddress (hostnameClean tables hostname) = none ∧
          (hostnameClean tables hostname ∈ loopbackAliases → allowLoopback = true)))

/-- The checks before name resolution refuse the target, or come to a literal, or come to a name
and read the port. -/
theorem parseTarget_cases (tables : UnicodeTables) (allowLoopback : Bool) (url : PyStr) :
    ((∃ reason, parseTarget tables allowLoopback url = .error (.ssrfBlocked reason)) ∧
        ∀ parsed, ¬ ReadsPort tables allowLoopback url parsed) ∨
      ∃ parsed, ReadsPort tables allowLoopback url parsed ∧
        ((∃ ip, parseTarget tables allowLoopback url = .ok (.literal parsed ip) ∧
            IsLiteralOf tables url ip ∧ isAdmitted allowLoopback ip = true) ∨
          ∃ hostname, parseTarget tables allowLoopback url = match parsed.port with
            | none => .error (.unhandled .invalidPort)
            | some port => .ok (.name parsed hostname (resolverPort tables parsed port))) := by
  unfold parseTarget ReadsPort IsLiteralOf
  cases hsplit : urlsplit tables url [] with
  | none => exact Or.inl ⟨⟨_, rfl⟩, fun parsed h ↦ absurd h.1 (by simp)⟩
  | some parsed =>
    dsimp only
    by_cases hallowed : lower tables parsed.scheme ∈ allowedSchemes
    swap
    · rw [if_pos hallowed]
      refine Or.inl ⟨⟨_, rfl⟩, ?_⟩
      rintro _ ⟨⟨⟩, h, -⟩
      exact hallowed h
    rw [if_neg (not_not.mpr hallowed)]
    cases hhostname : parsed.hostname tables with
    | none =>
      refine Or.inl ⟨⟨_, rfl⟩, ?_⟩
      rintro _ ⟨⟨⟩, -, _, h, -⟩
      rw [hhostname] at h
      exact absurd h (by simp)
    | some hostname =>
      dsimp only
      by_cases hempty : hostname = []
      · rw [if_pos hempty]
        refine Or.inl ⟨⟨_, rfl⟩, ?_⟩
        rintro _ ⟨⟨⟩, -, _, h, hne, -⟩
        rw [hhostname] at h
        exact hne (Option.some.inj h ▸ hempty)
      rw [if_neg hempty]
      by_cases hcredentials : (isTruthy parsed.username || isTruthy parsed.password) = true
      · rw [if_pos hcredentials]
        refine Or.inl ⟨⟨_, rfl⟩, ?_⟩
        rintro _ ⟨⟨⟩, -, _, -, -, huser, hpassword, -⟩
        rw [huser, hpassword] at hcredentials
        exact absurd hcredentials (by simp)
      rw [if_neg hcredentials]
      obtain ⟨huser, hpassword⟩ := Bool.or_eq_false_iff.mp (Bool.not_eq_true _ ▸ hcredentials)
      cases hip : ipAddress (hostnameClean tables hostname) with
      | some ip =>
        dsimp only
        by_cases hadmitted : isAdmitted allowLoopback ip = true
        · rw [if_pos hadmitted]
          exact Or.inr ⟨parsed, ⟨rfl, hallowed, hostname, hhostname, hempty, huser, hpassword,
            Or.inl ⟨ip, hip, hadmitted⟩⟩, Or.inl ⟨ip, rfl, ⟨parsed, hostname, rfl, hhostname,
              hip⟩, hadmitted⟩⟩
        · rw [if_neg hadmitted]
          refine Or.inl ⟨⟨_, rfl⟩, ?_⟩
          rintro _ ⟨⟨⟩, -, _, h, -, -, -, hkind⟩
          rw [hhostname] at h
          obtain rfl := Option.some.inj h
          rcases hkind with ⟨other, hother, hpasses⟩ | ⟨hnone, -⟩
          · rw [hip] at hother
            exact hadmitted (Option.some.inj hother ▸ hpasses)
          · rw [hip] at hnone
            exact absurd hnone (by simp)
      | none =>
        dsimp only
        by_cases halias : hostnameClean tables hostname ∈ loopbackAliases ∧ ¬ allowLoopback
        · rw [if_pos halias]
          refine Or.inl ⟨⟨_, rfl⟩, ?_⟩
          rintro _ ⟨⟨⟩, -, _, h, -, -, -, hkind⟩
          rw [hhostname] at h
          obtain rfl := Option.some.inj h
          rcases hkind with ⟨other, hother, -⟩ | ⟨-, hallow⟩
          · rw [hip] at hother
            exact absurd hother (by simp)
          · exact halias.2 (hallow halias.1)
        · rw [if_neg halias]
          have hallow : hostnameClean tables hostname ∈ loopbackAliases → allowLoopback = true :=
            fun hmem ↦ by simpa using not_and.mp halias hmem
          exact Or.inr ⟨parsed, ⟨rfl, hallowed, hostname, hhostname, hempty, huser, hpassword,
            Or.inr ⟨hip, hallow⟩⟩, Or.inr ⟨hostnameClean tables hostname, rfl⟩⟩

/-- A target that passes comes from a URL with a scheme, and is either an admitted literal or a
name. -/
theorem parseTarget_eq_ok {tables : UnicodeTables} {allowLoopback : Bool} {url : PyStr}
    {target : Target} (htarget : parseTarget tables allowLoopback url = .ok target) :
    ∃ parsed, urlsplit tables url [] = some parsed ∧ IsScheme parsed.scheme ∧
      ((∃ ip, target = .literal parsed ip ∧ IsLiteralOf tables url ip ∧
          isAdmitted allowLoopback ip = true) ∨
        ∃ hostname port, target = .name parsed hostname port) := by
  rcases parseTarget_cases tables allowLoopback url with ⟨⟨reason, hrefused⟩, -⟩ |
    ⟨parsed, hreads, hkind⟩
  · simp [hrefused] at htarget
  · obtain ⟨hsplit, hallowed, -⟩ := hreads
    have hscheme : IsScheme parsed.scheme := by
      rcases (urlsplit_eq_some hsplit).1 with hempty | hscheme
      · rw [hempty] at hallowed
        have hnotAllowed : ([] : PyStr) ∉ allowedSchemes := by decide
        exact absurd hallowed hnotAllowed
      · exact hscheme
    refine ⟨parsed, hsplit, hscheme, ?_⟩
    rcases hkind with ⟨ip, hok, hliteral, hadmitted⟩ | ⟨hostname, hmatch⟩
    · rw [hok] at htarget
      exact Or.inl ⟨ip, (Except.ok.inj htarget).symm, hliteral, hadmitted⟩
    · rw [hmatch] at htarget
      cases hport : parsed.port with
      | none => simp [hport] at htarget
      | some port =>
        simp only [hport] at htarget
        exact Or.inr ⟨hostname, _, (Except.ok.inj htarget).symm⟩

/-! ### What the check of an answer leaves -/

/-- Collecting succeeds when every entry is readable, and then gathers the texts of the answer
without repetition. -/
theorem collectAddresses_eq_ok {resolvedIps collected : List PyStr} {entries : Answer}
    (hcollect : collectAddresses resolvedIps entries = .ok collected) :
    (∀ text, text ∈ collected ↔ text ∈ resolvedIps ∨ some text ∈ entries) ∧ none ∉ entries := by
  induction entries generalizing resolvedIps with
  | nil =>
    obtain rfl := Except.ok.inj hcollect
    exact ⟨fun text ↦ by simp, List.not_mem_nil⟩
  | cons entry rest ih =>
    cases entry with
    | none => simp [collectAddresses] at hcollect
    | some ip =>
      obtain ⟨hmem, hnone⟩ := ih hcollect
      refine ⟨fun text ↦ ?_, by simpa using hnone⟩
      rw [hmem]
      split_ifs with hknown
      · constructor
        · rintro (h | h)
          · exact Or.inl h
          · exact Or.inr (List.mem_cons_of_mem _ h)
        · rintro (h | h)
          · exact Or.inl h
          · rcases List.mem_cons.mp h with heq | h
            · exact Or.inl (Option.some.inj heq ▸ hknown)
            · exact Or.inr h
      · simp only [List.mem_append, List.mem_cons, List.not_mem_nil, or_false, Option.some.injEq,
          or_assoc]

/-- Every address that passes the loop of checks is admitted. -/
theorem checkAddresses_eq_ok {allowLoopback : Bool} {hostname : PyStr} {texts : List PyStr}
    (hcheck : checkAddresses allowLoopback hostname texts = .ok ()) :
    ∀ text ∈ texts, ∃ ip, ipAddress text = some ip ∧ isAdmitted allowLoopback ip = true := by
  induction texts with
  | nil => exact fun text htext ↦ absurd htext List.not_mem_nil
  | cons head rest ih =>
    unfold checkAddresses at hcheck
    cases hip : ipAddress head with
    | none => simp [hip] at hcheck
    | some ip =>
      simp only [hip] at hcheck
      split_ifs at hcheck with hadmitted
      intro text htext
      rcases List.mem_cons.mp htext with rfl | hrest
      · exact ⟨ip, hip, hadmitted⟩
      · exact ih hcheck text hrest

/-- Every entry of an answer is readable, denotes an address, and the address is admitted. -/
def AnswerAdmitted (allowLoopback : Bool) (entries : Answer) : Prop :=
  ∀ entry ∈ entries, ∃ text ip, entry = some text ∧ ipAddress text = some ip ∧
    isAdmitted allowLoopback ip = true

/-- The addresses that pass the check of an answer: there is a first one, it is in the answer, and
the whole answer is admitted. -/
theorem checkAnswer_eq_ok {allowLoopback : Bool} {hostname : PyStr} {entries : Answer}
    {texts : List PyStr} (hcheck : checkAnswer allowLoopback hostname entries = .ok texts) :
    AnswerAdmitted allowLoopback entries ∧ some (texts.headD []) ∈ entries := by
  unfold checkAnswer at hcheck
  cases hcollect : collectAddresses [] entries with
  | error error => simp [hcollect, bind, Except.bind] at hcheck
  | ok collected =>
    by_cases hempty : collected = []
    · simp [hcollect, hempty, bind, Except.bind, throw, throwThe, MonadExceptOf.throw] at hcheck
    cases hchecked : checkAddresses allowLoopback hostname collected with
    | error error => simp [hcollect, hempty, hchecked, bind, Except.bind] at hcheck
    | ok _ =>
      simp only [hcollect, hempty, hchecked, bind, Except.bind, pure, Except.pure, if_false,
        Except.ok.injEq] at hcheck
      subst hcheck
      obtain ⟨hmem, hnone⟩ := collectAddresses_eq_ok hcollect
      constructor
      · intro entry hentry
        cases entry with
        | none => exact absurd hentry hnone
        | some text =>
          obtain ⟨ip, hip, hadmitted⟩ :=
            checkAddresses_eq_ok hchecked text ((hmem text).mpr (Or.inr hentry))
          exact ⟨text, ip, rfl, hip, hadmitted⟩
      · obtain ⟨first, rest, rfl⟩ := List.exists_cons_of_ne_nil hempty
        exact ((hmem first).mp List.mem_cons_self).resolve_left List.not_mem_nil

/-! ### What a validation ends with -/

/-- The validation pinned the literal of the URL without asking the resolver. -/
def PinsLiteral (tables : UnicodeTables) (allowLoopback : Bool) (url : PyStr)
    (answers : List Answer) (pinnedIp : PyStr) : Prop :=
  answers = [] ∧ ∃ ip, IsLiteralOf tables url ip ∧ pinnedIp = IPAddress.toText ip ∧
    isAdmitted allowLoopback ip = true

/-- The validation pinned an address of the one answer it obtained, all of which is admitted. -/
def PinsAnswer (allowLoopback : Bool) (resolver : Resolver) (answers : List Answer)
    (pinnedIp : PyStr) : Prop :=
  ∃ hostname port entries, lookup resolver hostname port = .ok entries ∧ answers = [entries] ∧
    some pinnedIp ∈ entries ∧ AnswerAdmitted allowLoopback entries

/-- A validation that succeeds returns the parts of the URL and has pinned its literal or an
address of its answer. -/
theorem asyncResolveAndValidateTarget_eq_ok {tables : UnicodeTables} {allowLoopback : Bool}
    {resolver : Resolver} {deadline : Bool} {url : PyStr} {parsed : SplitResult}
    {pinnedIp : PyStr}
    (hresult : (asyncResolveAndValidateTarget tables allowLoopback resolver deadline url).result =
      .ok (parsed, pinnedIp)) :
    urlsplit tables url [] = some parsed ∧ IsScheme parsed.scheme ∧
      (PinsLiteral tables allowLoopback url
          (asyncResolveAndValidateTarget tables allowLoopback resolver deadline url).answers
          pinnedIp ∨
        PinsAnswer allowLoopback resolver
          (asyncResolveAndValidateTarget tables allowLoopback resolver deadline url).answers
          pinnedIp) := by
  unfold asyncResolveAndValidateTarget validateTarget at hresult ⊢
  cases htarget : parseTarget tables allowLoopback url with
  | error error => simp [htarget, Except.map] at hresult
  | ok target =>
    obtain ⟨parts, hsplit, hscheme, hkind⟩ := parseTarget_eq_ok htarget
    rcases hkind with ⟨ip, rfl, hliteral, hadmitted⟩ | ⟨hostname, port, rfl⟩
    · simp only [htarget, Except.map] at hresult ⊢
      obtain ⟨rfl, rfl⟩ := Prod.mk.inj (Except.ok.inj hresult)
      exact ⟨hsplit, hscheme, Or.inl ⟨rfl, ip, hliteral, rfl, hadmitted⟩⟩
    · simp only [htarget] at hresult ⊢
      cases deadline with
      | true => simp [Except.map] at hresult
      | false =>
        simp only [Bool.false_eq_true, if_false] at hresult ⊢
        cases hlookup : lookup resolver hostname port with
        | error error => simp [hlookup, Except.map] at hresult
        | ok entries =>
          cases hcheck : checkAnswer allowLoopback hostname entries with
          | error error => simp [hlookup, hcheck, Except.map] at hresult
          | ok texts =>
            simp only [hlookup, hcheck, Except.map] at hresult
            obtain ⟨rfl, rfl⟩ := Prod.mk.inj (Except.ok.inj hresult)
            obtain ⟨hadmitted, hmem⟩ := checkAnswer_eq_ok hcheck
            exact ⟨hsplit, hscheme,
              Or.inr ⟨_, _, entries, hlookup, rfl, hmem, hadmitted⟩⟩

/-- A validation that succeeds has passed all the checks before the port is read. -/
theorem readsPort_of_eq_ok {tables : UnicodeTables} {allowLoopback : Bool}
    {resolver : Resolver} {deadline : Bool} {url : PyStr} {parsed : SplitResult}
    {pinnedIp : PyStr}
    (hresult : (asyncResolveAndValidateTarget tables allowLoopback resolver deadline url).result =
      .ok (parsed, pinnedIp)) : ReadsPort tables allowLoopback url parsed := by
  have hsplit := (asyncResolveAndValidateTarget_eq_ok hresult).1
  rcases parseTarget_cases tables allowLoopback url with
    ⟨⟨reason, hrefused⟩, -⟩ | ⟨other, hreads, -⟩
  · unfold asyncResolveAndValidateTarget validateTarget at hresult
    simp [hrefused, Except.map] at hresult
  · obtain rfl : other = parsed := Option.some.inj (hreads.1.symm.trans hsplit)
    exact hreads

end PingGuard.Net
