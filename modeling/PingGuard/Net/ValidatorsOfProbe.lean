import PingGuard.Net.Validators

/-!
# The validators of the probe

The validators of `Net.Validate`, which the probe uses, are those of `Net.Validators` with a
resolver that raises one of three classes of exceptions. What the reading of an entry raises is left
open there; here it is a parameter.

`resolveAndValidateTarget_ofResolver` and `asyncResolveAndValidateTarget_ofResolver` compare the two
for every URL, with the exceptions that they raise.
-/

set_option autoImplicit false
set_option relaxedAutoImplicit false

namespace PingGuard.Validators

open Library.Exceptions Library.IpAddress Library.IpText Library.PyText Library.UrlSplit Net Ssrf

/-! ### Resolvers and exceptions of a probe -/

/-- `TypeError`. -/
def typeError : Raised := .other ⟨"TypeError".toList, true, false, false, true, fun _ ↦ rfl⟩

/-- `socket.gaierror`. -/
def gaierror : Raised := .other ⟨"gaierror".toList, false, false, true, true, fun _ ↦ rfl⟩

/-- `OSError`, for the exceptions of a resolver that no handler names. -/
def osError : Raised := .other ⟨"OSError".toList, false, false, false, true, fun _ ↦ rfl⟩

/-- The entries of an answer. What reading an entry raises is left open. -/
def ofEntry (unreadable : Raised) : Option PyStr → Except Raised PyStr
  | some text => .ok text
  | none => .error unreadable

/-- A reply of the resolver of a probe. -/
def ofReply (unreadable : Raised) : ResolverReply → Except Raised AddrInfo
  | .answer entries => .ok (entries.map (ofEntry unreadable))
  | .typeError => .error typeError
  | .gaiError => .error gaierror
  | .otherError => .error osError

/-- The resolver of a probe. -/
def ofResolver (unreadable : Raised) (resolver : Net.Resolver) : Resolver :=
  fun hostname port withType ↦
    ofReply unreadable (if withType then resolver.withType hostname port
      else resolver.withoutType hostname port)

/-- The exceptions of a validation. -/
def ofException (unreadable : Raised) : ProbeException → Raised
  | .ssrfBlocked reason => .ssrfBlockedError reason
  | .dnsResolution reason => .dnsResolutionError reason
  | .unhandled .invalidPort => valueError
  | .unhandled _ | .requestError _ | .timeout => unreadable

/-! ### The loops -/

/-- The loop over an answer. -/
theorem collect_ofEntry (unreadable : Raised) (entries : Answer) (kept : List PyStr) :
    (entries.map (ofEntry unreadable)).foldlM (fun resolvedIps entry ↦ do
      let ipStr ← entry
      return if ipStr ∈ resolvedIps then resolvedIps else resolvedIps ++ [ipStr]) kept =
        (collectAddresses kept entries).mapError (ofException unreadable) := by
  induction entries generalizing kept with
  | nil => rfl
  | cons entry rest ih =>
    cases entry with
    | none => rfl
    | some text => exact ih _

/-- The loop over the addresses. -/
theorem forM_checkAddresses (unreadable : Raised) (allowLoopback : Bool) (hostname : PyStr)
    (texts : List PyStr) :
    (texts.forM fun ipStr ↦ tryExcept Raised.isValueError (do
        let ipObj ← ipAddress ipStr
        (if isIpBlocked ipObj then
          if allowLoopback && (ipObj.isLoopback ||
              IPAddress.toText ipObj = "127.0.0.1".toList) then pure ()
          else throw (.ssrfBlockedError (.blockedAddress hostname ipStr))
        else pure () : Except Raised Unit))
      fun _ ↦ throw (.ssrfBlockedError (.invalidAddress ipStr))) =
        (checkAddresses allowLoopback hostname texts).mapError (ofException unreadable) := by
  induction texts with
  | nil => rfl
  | cons text rest ih =>
    have hround : ∀ round : PyStr → Except Raised Unit,
        (text :: rest).forM round = round text >>= fun _ ↦ rest.forM round := fun _ ↦ rfl
    rw [hround, ih, checkAddresses]
    unfold ipAddress
    cases Library.IpText.ipAddress text with
    | none => rfl
    | some ip =>
      change (tryExcept _ (if _ then _ else _ : Except Raised Unit) _ >>= _) = _
      rw [check_eq_raiseIf]
      dsimp only
      cases isAdmitted allowLoopback ip with
      | true => rfl
      | false => rfl

/-- What follows the answer of the resolver. -/
theorem checkAnswer_ofEntry (unreadable : Raised) (parsed : SplitResult) (allowLoopback : Bool)
    (hostname : PyStr) (entries : Answer) :
    (do
      let resolvedIps ← (entries.map (ofEntry unreadable)).foldlM (fun resolvedIps entry ↦ do
        let ipStr ← entry
        return if ipStr ∈ resolvedIps then resolvedIps else resolvedIps ++ [ipStr]) []
      raiseIf resolvedIps.isEmpty (.dnsResolutionError (.noAddresses hostname))
      resolvedIps.forM fun ipStr ↦ tryExcept Raised.isValueError (do
          let ipObj ← ipAddress ipStr
          (if isIpBlocked ipObj then
            if allowLoopback && (ipObj.isLoopback ||
                IPAddress.toText ipObj = "127.0.0.1".toList) then pure ()
            else throw (.ssrfBlockedError (.blockedAddress hostname ipStr))
          else pure () : Except Raised Unit))
        fun _ ↦ throw (.ssrfBlockedError (.invalidAddress ipStr))
      return (parsed, resolvedIps)) =
    ((checkAnswer allowLoopback hostname entries).map (parsed, ·)).mapError
      (ofException unreadable) := by
  rw [collect_ofEntry]
  unfold checkAnswer
  cases collectAddresses [] entries with
  | error error => rfl
  | ok collected =>
    cases collected with
    | nil => rfl
    | cons text rest =>
      change (List.forM (text :: rest) _ >>= _ : Except Raised (SplitResult × List PyStr)) = _
      rw [forM_checkAddresses unreadable]
      change _ = Except.mapError _ (Except.map _
        (checkAddresses allowLoopback hostname (text :: rest) >>= fun _ ↦ pure (text :: rest)))
      cases checkAddresses allowLoopback hostname (text :: rest) with
      | error error => rfl
      | ok _ => rfl

/-! ### The validators -/

/-- The check of a literal, whatever is made of its text. -/
theorem literal_eq {β : Type} (make : PyStr → β) (allowLoopback : Bool) (hostname : PyStr) :
    (tryExcept Raised.isValueError (do
      let literalIp ← ipAddress hostname
      (if isIpBlocked literalIp then
        if allowLoopback && (literalIp.isLoopback ||
            IPAddress.toText literalIp = "127.0.0.1".toList) then pure ()
        else throw (.ssrfBlockedError (.blockedLiteral hostname))
      else pure () : Except Raised Unit)
      return some (make (IPAddress.toText literalIp)))
    fun _ ↦ return none : Except Raised (Option β)) =
      match Library.IpText.ipAddress hostname with
      | none => .ok none
      | some ip => if isAdmitted allowLoopback ip then .ok (some (make (IPAddress.toText ip)))
        else .error (.ssrfBlockedError (.blockedLiteral hostname)) := by
  unfold ipAddress
  cases Library.IpText.ipAddress hostname with
  | none => rfl
  | some ip =>
    change tryExcept _ ((if _ then _ else _ : Except Raised Unit) >>= _) _ = _
    rw [check_eq_raiseIf, raiseIf_bind]
    dsimp only
    cases isAdmitted allowLoopback ip with
    | true => rfl
    | false => rfl

/-- What the resolver call gives. -/
theorem tryExcept_ofResolver (unreadable : Raised) (resolver : Net.Resolver) (hostname : PyStr)
    (port : ℕ) :
    tryExcept Raised.isException
      (tryExcept Raised.isTypeError (ofResolver unreadable resolver hostname port true)
        fun _ ↦ ofResolver unreadable resolver hostname port false)
      (fun raised ↦ if raised.isGaierror then
        throw (.dnsResolutionError (.resolutionFailed hostname))
      else throw (.dnsResolutionError (.lookupError hostname))) =
    ((lookup resolver hostname port).mapError (ofException unreadable)).map
      (List.map (ofEntry unreadable)) := by
  unfold ofResolver lookup
  rw [if_pos rfl, if_neg Bool.false_ne_true]
  cases resolver.withType hostname port with
  | typeError => cases resolver.withoutType hostname port <;> rfl
  | answer entries => rfl
  | gaiError => rfl
  | otherError => rfl

/-- The synchronous validator of the probe. -/
theorem resolveAndValidateTarget_ofResolver (tables : UnicodeTables) (socket : Socket)
    (unreadable : Raised) (url : PyStr) (allowLoopback : Bool) (resolver : Net.Resolver) :
    resolveAndValidateTarget tables socket url allowLoopback
        (some (ofResolver unreadable resolver)) =
      (Net.resolveAndValidateTarget tables allowLoopback resolver url).result.mapError
        (ofException unreadable) := by
  unfold resolveAndValidateTarget Net.resolveAndValidateTarget validateTarget parseTarget urlsplit
  cases Library.UrlSplit.urlsplit tables url [] with
  | none => rfl
  | some parsed =>
    change (raiseIf _ _ >>= _ : Except Raised (SplitResult × List PyStr)) = _
    rw [raiseIf_bind]
    dsimp only
    by_cases hallowed : lower tables parsed.scheme ∈ ["http".toList, "https".toList]
    swap
    · rw [if_pos (decide_eq_true hallowed), if_pos (show _ ∉ allowedSchemes from hallowed)]
      rfl
    have hknown : ¬ lower tables parsed.scheme ∉ ["http".toList, "https".toList] :=
      not_not.mpr hallowed
    rw [decide_eq_false hknown, if_neg Bool.false_ne_true,
      if_neg (show ¬ _ ∉ allowedSchemes from hknown), raiseIf_bind]
    cases hhostname : parsed.hostname tables with
    | none => rfl
    | some hostname =>
      dsimp only [Option.getD_some]
      by_cases hempty : hostname = []
      · rw [if_pos hempty, hempty]
        rfl
      have htruthy : (!isTruthy (some hostname)) = false := by simpa [isTruthy] using hempty
      rw [if_neg hempty, htruthy, if_neg Bool.false_ne_true, raiseIf_bind]
      cases isTruthy parsed.username || isTruthy parsed.password with
      | true => rfl
      | false =>
        rw [if_neg Bool.false_ne_true, if_neg Bool.false_ne_true, literal_eq ([·])]
        unfold hostnameClean
        cases Library.IpText.ipAddress (lower tables (strip hostname)) with
        | some ip =>
          dsimp only
          cases isAdmitted allowLoopback ip with
          | true => rfl
          | false => rfl
        | none =>
          change (raiseIf _ _ >>= _ : Except Raised (SplitResult × List PyStr)) = _
          dsimp only
          rw [raiseIf_bind]
          have hrefused : (decide (lower tables (strip hostname) ∈
              ["localhost".toList, "localhost.localdomain".toList]) && !allowLoopback) =
                decide (lower tables (strip hostname) ∈ loopbackAliases ∧ ¬ allowLoopback) := by
            simp [loopbackAliases]
          rw [hrefused]
          by_cases halias : lower tables (strip hostname) ∈ loopbackAliases ∧ ¬ allowLoopback
          · rw [decide_eq_true halias, if_pos rfl, if_pos halias]
            rfl
          rw [decide_eq_false halias, if_neg Bool.false_ne_true, if_neg halias]
          unfold port
          cases parsed.port with
          | none => rfl
          | some parsedPort =>
            change (tryExcept _ _ _ >>= _ : Except Raised (SplitResult × List PyStr)) = _
            rw [tryExcept_ofResolver]
            dsimp only
            cases lookup resolver (lower tables (strip hostname))
              (resolverPort tables parsed parsedPort) with
            | error error => rfl
            | ok entries =>
              exact checkAnswer_ofEntry unreadable parsed allowLoopback _ entries

/-- The asynchronous validator of the probe, when its deadline does not pass. -/
theorem asyncResolveAndValidateTarget_ofResolver (tables : UnicodeTables) (socket : Socket)
    (unreadable : Raised) (url : PyStr) (allowLoopback : Bool) (resolver : Net.Resolver) :
    asyncResolveAndValidateTarget tables socket url allowLoopback
        (some (ofResolver unreadable resolver).returning) =
      (Net.asyncResolveAndValidateTarget tables allowLoopback resolver false url).result.mapError
        (ofException unreadable) := by
  have hdelivers := delivers_returning socket (some (ofResolver unreadable resolver))
  rw [Option.map_some] at hdelivers
  rw [asyncResolveAndValidateTarget_eq_map tables socket hdelivers,
    resolveAndValidateTarget_ofResolver]
  change _ = ((Net.resolveAndValidateTarget tables allowLoopback resolver url).result.map
    fun target ↦ (target.1, target.2.headD [])).mapError (ofException unreadable)
  cases (Net.resolveAndValidateTarget tables allowLoopback resolver url).result <;> rfl

end PingGuard.Validators
