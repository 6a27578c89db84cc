import PingGuard.Library.Exceptions
import PingGuard.Library.FirstOccurrence
import PingGuard.Net.Validate

/-!
# The two validators

`resolve_and_validate_target` and `async_resolve_and_validate_target` of `app/net.py`, statement by
statement, with their `try` statements. The two are written out separately, as the source has them.
A resolver may answer with any list of entries or raise any exception, and so may the reading of an
entry.

`validators_agree` says that they raise the same exception or return the same target, the second one
with the first of the addresses. The addresses are those of the answer, each once, in the order of
their first occurrences, and all of them admitted.
-/

set_option autoImplicit false
set_option relaxedAutoImplicit false

namespace PingGuard.Validators

open Library.Exceptions Library.FirstOccurrence Library.IpAddress Library.IpText Library.PyText
open Library.UrlSplit Net Ssrf

/-! ### Exceptions -/

/-- An exception of another class, by what its class derives from. -/
structure PyException where
  name : PyStr
  isTypeError : Bool
  isValueError : Bool
  isGaierror : Bool
  isException : Bool
  isException_of_subclass : (isTypeError || isValueError || isGaierror) = true → isException = true

/-- What a validator or a resolver raises. -/
inductive Raised
  | ssrfBlockedError (reason : SsrfReason)
  | dnsResolutionError (reason : DnsReason)
  | other (exception : PyException)

/-- The exceptions that `except Exception` handles. -/
def Raised.isException : Raised → Bool
  | .other exception => exception.isException
  | _ => true

/-- The exceptions that `except ValueError` handles. -/
def Raised.isValueError : Raised → Bool
  | .other exception => exception.isValueError
  | _ => false

/-- The exceptions that `except TypeError` handles. -/
def Raised.isTypeError : Raised → Bool
  | .other exception => exception.isTypeError
  | _ => false

/-- The exceptions that `except socket.gaierror` handles. -/
def Raised.isGaierror : Raised → Bool
  | .other exception => exception.isGaierror
  | _ => false

/-- `ValueError`. -/
def valueError : Raised := .other ⟨"ValueError".toList, false, true, false, true, fun _ ↦ rfl⟩

/-! ### Resolvers -/

/-- The answer of a resolver, entry by entry: the text of `str(entry[4][0])`, or what reading the
entry raises. -/
abbrev AddrInfo := List (Except Raised PyStr)

/-- A resolver, called with a host and a port, and with the socket type or without. -/
abbrev Resolver := PyStr → ℕ → Bool → Except Raised AddrInfo

/-- What a resolver returns to the asynchronous validator: an answer, or something to await. -/
inductive Returned
  | answer (addrInfo : AddrInfo)
  | awaitable (awaited : Except Raised AddrInfo)

/-- A resolver of the asynchronous validator. -/
abbrev AsyncResolver := PyStr → ℕ → Bool → Except Raised Returned

/-- A resolver that returns its answers, as the asynchronous validator calls it. -/
def Resolver.returning (resolver : Resolver) : AsyncResolver :=
  fun hostname port withType ↦ (resolver hostname port withType).map .answer

/-- A resolver whose answers are awaited. -/
def Resolver.awaiting (resolver : Resolver) : AsyncResolver :=
  fun hostname port withType ↦ .ok (.awaitable (resolver hostname port withType))

/-- `socket.getaddrinfo`, which has a parameter for the socket type. `getaddrinfo` of an event loop
gives what it gives. -/
structure Socket where
  getaddrinfo : Resolver
  acceptsType : ∀ hostname port raised,
    getaddrinfo hostname port true = .error raised → raised.isTypeError = false

/-! ### What the statements call -/

section Statements

variable (tables : UnicodeTables) (socket : Socket)

/-- `urllib.parse.urlsplit(url)`. -/
def urlsplit (url : PyStr) : Except Raised SplitResult :=
  match Library.UrlSplit.urlsplit tables url [] with
  | some parsed => .ok parsed
  | none => .error valueError

/-- `ipaddress.ip_address(text)`. -/
def ipAddress (text : PyStr) : Except Raised IPAddress :=
  match Library.IpText.ipAddress text with
  | some ip => .ok ip
  | none => .error valueError

/-- `parsed.port`. -/
def port (parsed : SplitResult) : Except Raised (Option ℕ) :=
  match parsed.port with
  | some port => .ok port
  | none => .error valueError

/-! ### The synchronous validator -/

/-- `resolve_and_validate_target`. -/
def resolveAndValidateTarget (url : PyStr) (allowLoopback : Bool)
    (dnsResolver : Option Resolver) : Except Raised (SplitResult × List PyStr) := do
  let parsed ← tryExcept Raised.isException (urlsplit tables url)
    fun _ ↦ throw (.ssrfBlockedError .malformedUrl)
  raiseIf (lower tables parsed.scheme ∉ ["http".toList, "https".toList])
    (.ssrfBlockedError (.unsupportedScheme parsed.scheme))
  let hostname := parsed.hostname tables
  raiseIf (!isTruthy hostname) (.ssrfBlockedError .missingHostname)
  let hostnameClean := lower tables (strip (hostname.getD []))
  raiseIf (isTruthy parsed.username || isTruthy parsed.password)
    (.ssrfBlockedError .embeddedCredentials)
  -- the `try` statement returns a literal, and goes on without one
  let literal ← tryExcept Raised.isValueError (do
      let literalIp ← ipAddress hostnameClean
      (if isIpBlocked literalIp then
        if allowLoopback && (literalIp.isLoopback ||
            IPAddress.toText literalIp = "127.0.0.1".toList) then pure ()
        else throw (.ssrfBlockedError (.blockedLiteral hostnameClean))
      else pure () : Except Raised Unit)
      return some [IPAddress.toText literalIp])
    fun _ ↦ return none
  match literal with
  | some ips => return (parsed, ips)
  | none =>
    raiseIf (hostnameClean ∈ ["localhost".toList, "localhost.localdomain".toList] &&
      !allowLoopback) (.ssrfBlockedError (.loopbackAlias hostnameClean))
    let parsedPort ← port parsed
    let port := resolverPort tables parsed parsedPort
    let resolver := dnsResolver.getD socket.getaddrinfo
    let addrInfo ← tryExcept Raised.isException
      (tryExcept Raised.isTypeError (resolver hostnameClean port true)
        fun _ ↦ resolver hostnameClean port false)
      fun raised ↦ if raised.isGaierror then
        throw (.dnsResolutionError (.resolutionFailed hostnameClean))
      else throw (.dnsResolutionError (.lookupError hostnameClean))
    let resolvedIps ← addrInfo.foldlM (fun resolvedIps entry ↦ do
      let ipStr ← entry
      return if ipStr ∈ resolvedIps then resolvedIps else resolvedIps ++ [ipStr]) []
    raiseIf resolvedIps.isEmpty (.dnsResolutionError (.noAddresses hostnameClean))
    resolvedIps.forM fun ipStr ↦ tryExcept Raised.isValueError (do
        let ipObj ← ipAddress ipStr
        (if isIpBlocked ipObj then
          if allowLoopback && (ipObj.isLoopback ||
              IPAddress.toText ipObj = "127.0.0.1".toList) then pure ()
          else throw (.ssrfBlockedError (.blockedAddress hostnameClean ipStr))
        else pure () : Except Raised Unit))
      fun _ ↦ throw (.ssrfBlockedError (.invalidAddress ipStr))
    return (parsed, resolvedIps)

/-! ### The asynchronous validator -/

/-- `async_resolve_and_validate_target`. -/
def asyncResolveAndValidateTarget (url : PyStr) (allowLoopback : Bool)
    (dnsResolver : Option AsyncResolver) : Except Raised (SplitResult × PyStr) := do
  let parsed ← tryExcept Raised.isException (urlsplit tables url)
    fun _ ↦ throw (.ssrfBlockedError .malformedUrl)
  raiseIf (lower tables parsed.scheme ∉ ["http".toList, "https".toList])
    (.ssrfBlockedError (.unsupportedScheme parsed.scheme))
  let hostname := parsed.hostname tables
  raiseIf (!isTruthy hostname) (.ssrfBlockedError .missingHostname)
  let hostnameClean := lower tables (strip (hostname.getD []))
  raiseIf (isTruthy parsed.username || isTruthy parsed.password)
    (.ssrfBlockedError .embeddedCredentials)
  let literal ← tryExcept Raised.isValueError (do
      let literalIp ← ipAddress hostnameClean
      (if isIpBlocked literalIp then
        if allowLoopback && (literalIp.isLoopback ||
            IPAddress.toText literalIp = "127.0.0.1".toList) then pure ()
        else throw (.ssrfBlockedError (.blockedLiteral hostnameClean))
      else pure () : Except Raised Unit)
      return some (IPAddress.toText literalIp))
    fun _ ↦ return none
  match literal with
  | some ip => return (parsed, ip)
  | none =>
    raiseIf (hostnameClean ∈ ["localhost".toList, "localhost.localdomain".toList] &&
      !allowLoopback) (.ssrfBlockedError (.loopbackAlias hostnameClean))
    let parsedPort ← port parsed
    let port := resolverPort tables parsed parsedPort
    let addrInfo ← tryExcept Raised.isException (match dnsResolver with
      | some resolver => do
        let res ← tryExcept Raised.isTypeError (resolver hostnameClean port true)
          fun _ ↦ resolver hostnameClean port false
        match res with
        | .awaitable awaited => awaited
        | .answer addrInfo => return addrInfo
      -- `loop.getaddrinfo`
      | none => socket.getaddrinfo hostnameClean port true)
      fun raised ↦ if raised.isGaierror then
        throw (.dnsResolutionError (.resolutionFailed hostnameClean))
      else throw (.dnsResolutionError (.lookupError hostnameClean))
    let resolvedIps ← addrInfo.foldlM (fun resolvedIps entry ↦ do
      let ipStr ← entry
      return if ipStr ∈ resolvedIps then resolvedIps else resolvedIps ++ [ipStr]) []
    raiseIf resolvedIps.isEmpty (.dnsResolutionError (.noAddresses hostnameClean))
    resolvedIps.forM fun ipStr ↦ tryExcept Raised.isValueError (do
        let ipObj ← ipAddress ipStr
        (if isIpBlocked ipObj then
          if allowLoopback && (ipObj.isLoopback ||
              IPAddress.toText ipObj = "127.0.0.1".toList) then pure ()
          else throw (.ssrfBlockedError (.blockedAddress hostnameClean ipStr))
        else pure () : Except Raised Unit))
      fun _ ↦ throw (.ssrfBlockedError (.invalidAddress ipStr))
    return (parsed, resolvedIps.headD [])

/-! ### Agreement -/

/-- The asynchronous validator gets the answer that the synchronous one gets. -/
def Delivers (dnsResolver : Option Resolver) (asyncResolver : Option AsyncResolver) : Prop :=
  ∀ hostname port, Agree Eq
    (tryExcept Raised.isTypeError (dnsResolver.getD socket.getaddrinfo hostname port true)
      fun _ ↦ dnsResolver.getD socket.getaddrinfo hostname port false)
    (match asyncResolver with
    | some resolver => do
      let res ← tryExcept Raised.isTypeError (resolver hostname port true)
        fun _ ↦ resolver hostname port false
      match res with
      | .awaitable awaited => awaited
      | .answer addrInfo => return addrInfo
    | none => socket.getaddrinfo hostname port true)

/-- A call that raises no `TypeError` is the only one. -/
theorem tryExcept_isTypeError_eq {α : Type} {call second : Except Raised α}
    (haccepted : ∀ raised, call = .error raised → raised.isTypeError = false) :
    tryExcept Raised.isTypeError call (fun _ ↦ second) = call := by
  cases call with
  | ok value => rfl
  | error raised =>
    rw [tryExcept_error, haccepted raised rfl, if_neg Bool.false_ne_true]

/-- The same resolver, or the default one, gives both validators the same answer. -/
theorem delivers_returning (dnsResolver : Option Resolver) :
    Delivers socket dnsResolver (dnsResolver.map Resolver.returning) := by
  intro hostname port
  cases dnsResolver with
  | none =>
    dsimp only [Option.map_none, Option.getD_none]
    rw [tryExcept_isTypeError_eq (socket.acceptsType hostname port)]
    exact agree_self _
  | some resolver =>
    dsimp only [Option.map_some, Option.getD_some]
    -- the answer of the resolver, returned and then taken as it is
    have hcall : ∀ withType, Agree (fun addrInfo returned ↦ returned = Returned.answer addrInfo)
        (resolver hostname port withType) (resolver.returning hostname port withType) := by
      intro withType
      unfold Resolver.returning
      cases resolver hostname port withType with
      | ok addrInfo => exact .returned rfl
      | error raised => exact .raised raised
    rw [← bind_pure (tryExcept Raised.isTypeError (resolver hostname port true) _)]
    refine ((hcall true).tryExcept fun _ ↦ hcall false).bind ?_
    rintro addrInfo _ rfl
    exact .returned rfl

/-- So does a resolver whose answer is awaited, if it accepts the socket type. -/
theorem delivers_awaiting (resolver : Resolver)
    (haccepts : ∀ hostname port raised,
      resolver hostname port true = .error raised → raised.isTypeError = false) :
    Delivers socket (some resolver) (some resolver.awaiting) := by
  intro hostname port
  dsimp only [Option.getD_some]
  rw [tryExcept_isTypeError_eq (haccepts hostname port)]
  exact agree_self _

/-- The two validators raise the same exception or return the same URL, the asynchronous one with
the first of the addresses. -/
theorem agree_validators {dnsResolver : Option Resolver} {asyncResolver : Option AsyncResolver}
    (hdelivers : Delivers socket dnsResolver asyncResolver) (url : PyStr) (allowLoopback : Bool) :
    Agree (fun target pinned ↦ pinned.1 = target.1 ∧ target.2.head? = some pinned.2)
      (resolveAndValidateTarget tables socket url allowLoopback dnsResolver)
      (asyncResolveAndValidateTarget tables socket url allowLoopback asyncResolver) := by
  unfold resolveAndValidateTarget asyncResolveAndValidateTarget
  refine agree_bind fun parsed _ ↦ agree_bind fun _ _ ↦ agree_bind fun _ _ ↦ agree_bind fun _ _ ↦ ?_
  refine Agree.bind (?_ : Agree (fun ips ip ↦ ips = Option.map ([·]) ip) _ _) ?_
  · refine Agree.tryExcept ?_ fun _ ↦ .returned rfl
    exact agree_bind fun literalIp _ ↦ agree_bind fun _ _ ↦ .returned rfl
  rintro _ (_ | ip) rfl
  swap
  · exact .returned ⟨rfl, rfl⟩
  refine agree_bind fun _ _ ↦ agree_bind fun parsedPort _ ↦ ?_
  refine Agree.bind (?_ : Agree Eq _ _) ?_
  · exact (hdelivers _ _).tryExcept fun _ ↦ agree_self _
  rintro addrInfo _ rfl
  refine agree_bind fun resolvedIps _ ↦ agree_bind fun _ hsome ↦ agree_bind fun _ _ ↦
    .returned ⟨rfl, ?_⟩
  -- there is a first address here
  cases resolvedIps with
  | nil => exact nomatch raiseIf_eq_ok_iff.mp hsome
  | cons ip rest => rfl

/-! ### The addresses -/

/-- What the addresses of a target are taken from: the literal of the URL, or what the resolver
answers for its host and its port. -/
def IsAnswerFor (url : PyStr) (resolver : Resolver) (answer : List PyStr) : Prop :=
  (∃ ip, IsLiteralOf tables url ip ∧ answer = [IPAddress.toText ip]) ∨
    ∃ parsed hostname port withType, Library.UrlSplit.urlsplit tables url [] = some parsed ∧
      parsed.hostname tables = some hostname ∧ parsed.port = some port ∧
        resolver (hostnameClean tables hostname) (resolverPort tables parsed port) withType =
          .ok (answer.map .ok)

/-- The addresses of an answer, each once and in the order of their first occurrences, if there is
one and each is admitted. -/
structure AdmittedAddresses (allowLoopback : Bool) (answer ips : List PyStr) : Prop where
  ne_nil : ips ≠ []
  keepsFirst : KeepsFirst answer ips
  admitted : ∀ text ∈ ips, ∃ ip, Library.IpText.ipAddress text = some ip ∧
    (isIpBlocked ip = false ∨
      (allowLoopback = true ∧ isIpBlocked ip = true ∧ ip.isLoopback = true))

/-- An address that passes the policy is not blocked, or is a loopback address that is allowed. -/
theorem blocked_cases_of_isAdmitted {allowLoopback : Bool} {ip : IPAddress}
    (hadmitted : isAdmitted allowLoopback ip = true) :
    isIpBlocked ip = false ∨
      (allowLoopback = true ∧ isIpBlocked ip = true ∧ ip.isLoopback = true) := by
  cases hblocked : isIpBlocked ip with
  | false => exact Or.inl rfl
  | true =>
    rcases isAdmitted_iff.mp hadmitted with hfree | ⟨hallow, hloopback⟩
    · exact absurd (hblocked.symm.trans hfree) Bool.noConfusion
    · exact Or.inr ⟨hallow, rfl, hloopback⟩

/-- The check of an address raises what the policy does not admit. -/
theorem check_eq_raiseIf (allowLoopback : Bool) (ip : IPAddress) (raised : Raised) :
    (if isIpBlocked ip then
        if allowLoopback && (ip.isLoopback || IPAddress.toText ip = "127.0.0.1".toList) then pure ()
        else throw raised
      else pure () : Except Raised Unit) = raiseIf (!isAdmitted allowLoopback ip) raised := by
  unfold isAdmitted raiseIf
  cases isIpBlocked ip with
  | false => rfl
  | true =>
    rw [if_pos rfl, Bool.not_true, Bool.false_or]
    cases allowLoopback && (ip.isLoopback || IPAddress.toText ip = "127.0.0.1".toList) with
    | false => rfl
    | true => rfl

/-- Parsing an address succeeds where the text denotes one. -/
theorem ipAddress_eq_ok_iff {text : PyStr} {ip : IPAddress} :
    ipAddress text = .ok ip ↔ Library.IpText.ipAddress text = some ip := by
  unfold ipAddress
  cases Library.IpText.ipAddress text <;> simp

/-- Splitting a URL succeeds where it is well formed. -/
theorem urlsplit_eq_ok_iff {url : PyStr} {parsed : SplitResult} :
    urlsplit tables url = .ok parsed ↔
      Library.UrlSplit.urlsplit tables url [] = some parsed := by
  unfold urlsplit
  cases Library.UrlSplit.urlsplit tables url [] <;> simp

/-- Reading a port succeeds where the URL has a valid one or none. -/
theorem port_eq_ok_iff {parsed : SplitResult} {parsedPort : Option ℕ} :
    port parsed = .ok parsedPort ↔ parsed.port = some parsedPort := by
  unfold port
  cases parsed.port <;> simp

/-- A host that is truthy is there. -/
theorem exists_of_isTruthy {hostname : Option PyStr} {done : Unit}
    (hpassed : raiseIf (!isTruthy hostname) (.ssrfBlockedError .missingHostname) =
      (.ok done : Except Raised Unit)) : ∃ text, hostname = some text := by
  have htruthy := raiseIf_eq_ok_iff.mp hpassed
  cases hostname with
  | none => nomatch htruthy
  | some text => exact ⟨text, rfl⟩

/-- The loop over an answer returns when every entry can be read, and keeps the first
occurrences. -/
theorem collect_eq_ok {addrInfo : AddrInfo} {kept ips : List PyStr}
    (hcollect : addrInfo.foldlM (fun resolvedIps entry ↦ do
      let ipStr ← entry
      return if ipStr ∈ resolvedIps then resolvedIps else resolvedIps ++ [ipStr]) kept =
        (.ok ips : Except Raised (List PyStr))) :
    ∃ answer : List PyStr, addrInfo = answer.map .ok ∧ ips = answer.foldl appendNew kept := by
  induction addrInfo generalizing kept with
  | nil => exact ⟨[], rfl, (Except.ok.inj hcollect).symm⟩
  | cons entry rest ih =>
    rw [List.foldlM_cons, bind_eq_ok_iff] at hcollect
    obtain ⟨next, hentry, hrest⟩ := hcollect
    obtain ⟨ipStr, rfl, hnext⟩ := bind_eq_ok_iff.mp hentry
    have hround : next = appendNew kept ipStr := by
      rw [← Except.ok.inj hnext]
      unfold appendNew
      split_ifs <;> rfl
    obtain ⟨answer, rfl, rfl⟩ := ih hrest
    exact ⟨ipStr :: answer, rfl, by rw [hround, List.foldl_cons]⟩

/-- The addresses that the synchronous validator returns. -/
theorem admittedAddresses_of_returned {url : PyStr} {allowLoopback : Bool}
    {dnsResolver : Option Resolver} {target : SplitResult × List PyStr}
    (hreturned : resolveAndValidateTarget tables socket url allowLoopback dnsResolver =
      .ok target) :
    ∃ answer, IsAnswerFor tables url (dnsResolver.getD socket.getaddrinfo) answer ∧
      AdmittedAddresses allowLoopback answer target.2 := by
  unfold resolveAndValidateTarget at hreturned
  obtain ⟨parsed, hparsed, hreturned⟩ := bind_eq_ok_iff.mp hreturned
  obtain ⟨_, -, hreturned⟩ := bind_eq_ok_iff.mp hreturned
  obtain ⟨_, hhostname, hreturned⟩ := bind_eq_ok_iff.mp hreturned
  obtain ⟨_, -, hreturned⟩ := bind_eq_ok_iff.mp hreturned
  obtain ⟨literal, hliteral, hreturned⟩ := bind_eq_ok_iff.mp hreturned
  have hsplit := (urlsplit_eq_ok_iff tables).mp
    (eq_ok_of_tryExcept_eq_ok hparsed fun _ h ↦ nomatch h)
  obtain ⟨hostname, hhostname⟩ := exists_of_isTruthy hhostname
  rw [hhostname, Option.getD_some] at hliteral hreturned
  cases literal with
  | some ips =>
    obtain rfl := Except.ok.inj hreturned
    rcases tryExcept_eq_ok_iff.mp hliteral with hbody | ⟨_, -, -, hnone⟩
    swap
    · nomatch hnone
    obtain ⟨ip, hip, hbody⟩ := bind_eq_ok_iff.mp hbody
    obtain ⟨_, hcheck, hbody⟩ := bind_eq_ok_iff.mp hbody
    obtain rfl := Option.some.inj (Except.ok.inj hbody)
    have hip := ipAddress_eq_ok_iff.mp hip
    rw [check_eq_raiseIf] at hcheck
    have hadmitted := blocked_cases_of_isAdmitted (by simpa using raiseIf_eq_ok_iff.mp hcheck)
    refine ⟨_, Or.inl ⟨ip, ⟨parsed, hostname, hsplit, hhostname, hip⟩, rfl⟩,
      List.cons_ne_nil _ _, keepsFirst_foldl _, fun text htext ↦ ?_⟩
    obtain rfl := List.mem_singleton.mp htext
    exact ⟨ip, ipAddress_toText (hasZone_of_ipAddress hip), hadmitted⟩
  | none =>
    dsimp only at hreturned
    obtain ⟨_, -, hreturned⟩ := bind_eq_ok_iff.mp hreturned
    obtain ⟨parsedPort, hport, hreturned⟩ := bind_eq_ok_iff.mp hreturned
    obtain ⟨addrInfo, hlookup, hreturned⟩ := bind_eq_ok_iff.mp hreturned
    obtain ⟨ips, hcollect, hreturned⟩ := bind_eq_ok_iff.mp hreturned
    obtain ⟨_, hsome, hreturned⟩ := bind_eq_ok_iff.mp hreturned
    obtain ⟨_, hchecks, hreturned⟩ := bind_eq_ok_iff.mp hreturned
    obtain rfl := Except.ok.inj hreturned
    obtain ⟨answer, rfl, rfl⟩ := collect_eq_ok hcollect
    have hcalled := eq_ok_of_tryExcept_eq_ok hlookup fun raised hhandler ↦ by
      split_ifs at hhandler
    refine ⟨answer, Or.inr ?_, ?_, keepsFirst_foldl _, fun text htext ↦ ?_⟩
    · have hport := port_eq_ok_iff.mp hport
      rcases tryExcept_eq_ok_iff.mp hcalled with hfirst | ⟨_, -, -, hsecond⟩
      · exact ⟨parsed, hostname, parsedPort, true, hsplit, hhostname, hport, hfirst⟩
      · exact ⟨parsed, hostname, parsedPort, false, hsplit, hhostname, hport, hsecond⟩
    · exact List.isEmpty_eq_false_iff.mp (raiseIf_eq_ok_iff.mp hsome)
    · have hround := forM_eq_ok_iff.mp hchecks text htext
      have hcheck := eq_ok_of_tryExcept_eq_ok hround fun _ h ↦ nomatch h
      obtain ⟨ip, hip, hcheck⟩ := bind_eq_ok_iff.mp hcheck
      rw [check_eq_raiseIf] at hcheck
      exact ⟨ip, ipAddress_eq_ok_iff.mp hip,
        blocked_cases_of_isAdmitted (by simpa using raiseIf_eq_ok_iff.mp hcheck)⟩

/-- The two validators raise the same exception, or return the same URL, the asynchronous one with
the first of the addresses. These are the addresses of the answer, each once and in the order of
their first occurrences, and all of them are admitted. -/
theorem validators_agree (url : PyStr) (allowLoopback : Bool) (dnsResolver : Option Resolver) :
    Agree (fun target pinned ↦ (pinned.1 = target.1 ∧ target.2.head? = some pinned.2) ∧
        ∃ answer, IsAnswerFor tables url (dnsResolver.getD socket.getaddrinfo) answer ∧
          AdmittedAddresses allowLoopback answer target.2)
      (resolveAndValidateTarget tables socket url allowLoopback dnsResolver)
      (asyncResolveAndValidateTarget tables socket url allowLoopback
        (dnsResolver.map Resolver.returning)) := by
  have hagree := agree_validators tables socket (delivers_returning socket dnsResolver) url
    allowLoopback
  exact hagree.returning fun _ ↦ admittedAddresses_of_returned tables socket

/-- The asynchronous validator returns the first address of what the synchronous one returns. -/
theorem asyncResolveAndValidateTarget_eq_map {dnsResolver : Option Resolver}
    {asyncResolver : Option AsyncResolver}
    (hdelivers : Delivers socket dnsResolver asyncResolver) (url : PyStr) (allowLoopback : Bool) :
    asyncResolveAndValidateTarget tables socket url allowLoopback asyncResolver =
      (resolveAndValidateTarget tables socket url allowLoopback dnsResolver).map
        fun target ↦ (target.1, target.2.headD []) := by
  refine (agree_validators tables socket hdelivers url allowLoopback).eq_map ?_
  rintro ⟨parsed, ips⟩ ⟨other, ip⟩ ⟨hparsed, hfirst⟩
  rw [List.headD_eq_head?_getD, hfirst]
  exact congrArg (·, ip) hparsed

end Statements

end PingGuard.Validators
