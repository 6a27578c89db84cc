import PingGuard.Library.IpCase
import PingGuard.Net.Probe
import PingGuard.Net.ValidatorsOfProbe
import PingGuard.Schemas

/-!
# Registering an address

`validate_url_scheme_and_safety` of `app/schemas.py`, statement by statement, against the validator
of the probe, on URLs whose host is an address. The two read the host with different libraries:
`HttpUrl.host` keeps the brackets around an IPv6 address, and `urlsplit` removes them. With its
brackets the text is no address for `ip_address`, so the registration lets it pass.

`accepted_only_if_admitted_iff` says when the registration refuses what the probe refuses: when the
address is an IPv4 one, or is not blocked. Every spelling of an address is covered.
-/

set_option autoImplicit false
set_option relaxedAutoImplicit false

namespace PingGuard.Registration

open Library.Exceptions Library.IpAddress Library.IpText Library.PyText Library.UrlSplit Net Schemas
open Ssrf

/-! ### The validator of the registration -/

/-- `repr` of a text: its characters, quoted and escaped. An escape has no capital S. -/
structure Repr where
  repr : PyStr → PyStr
  capital_mem : ∀ text, 'S' ∈ repr text → 'S' ∈ text

section Validator

variable (tables : UnicodeTables) (python : Repr)

/-- `ipaddress.ip_address(text)`, with the text of its `ValueError`. -/
def ipAddressOrError (text : PyStr) : Except PyStr IPAddress :=
  match ipAddress text with
  | some ip => .ok ip
  | none => .error (python.repr text ++ " does not appear to be an IPv4 or IPv6 address".toList)

/-- `validate_url_scheme_and_safety`. Every exception is a `ValueError`, given by its text. -/
def validateUrlSchemeAndSafety (v : HttpUrl) : Except PyStr HttpUrl := do
  let scheme := lower tables v.scheme
  raiseIf (scheme ∉ ["http".toList, "https".toList])
    ("URL scheme '".toList ++ scheme ++
      "' is forbidden. Only 'http' and 'https' are allowed.".toList)
  raiseIf (isTruthy v.username || isTruthy v.password)
    "Credential-bearing URLs (user:password@) are forbidden for security reasons.".toList
  let host := lower tables (strip (v.host.getD []))
  raiseIf (host ∈ ["localhost".toList, "localhost.localdomain".toList])
    ("SSRF security violation: '".toList ++ host ++
      "' is a forbidden loopback destination.".toList)
  tryExcept (fun _ ↦ true) (do
      let ipObj ← ipAddressOrError python host
      raiseIf (isIpBlocked ipObj)
        ("SSRF security violation: IP literal '".toList ++ host ++
          "' is private or restricted.".toList))
    fun err ↦ raiseIf (isSubtext "SSRF security violation".toList err) err
  return v

end Validator

/-! ### Rejections and other errors -/

/-- A text is part of what it begins. -/
theorem isSubtext_append (part rest : PyStr) : isSubtext part (part ++ rest) = true := by
  refine List.any_eq_true.mpr ⟨part ++ rest, (List.mem_tails _ _).mpr (List.suffix_refl _), ?_⟩
  exact List.isPrefixOf_iff_prefix.mpr (List.prefix_append part rest)

/-- The characters of a part are characters of the text. -/
theorem mem_of_isSubtext {part text : PyStr} (hpart : isSubtext part text = true) {c : Char}
    (hc : c ∈ part) : c ∈ text := by
  obtain ⟨suffix, hsuffix, hprefix⟩ := List.any_eq_true.mp hpart
  exact ((List.mem_tails _ _).mp hsuffix).subset
    ((List.isPrefixOf_iff_prefix.mp hprefix).subset hc)

/-- The error of `ip_address` on a host without a capital S does not look like a rejection. -/
theorem isSubtext_repr {python : Repr} {host : PyStr} (hcapital : 'S' ∉ host) :
    isSubtext "SSRF security violation".toList
      (python.repr host ++ " does not appear to be an IPv4 or IPv6 address".toList) = false := by
  rw [← Bool.not_eq_true]
  intro hpart
  have hmem := mem_of_isSubtext hpart (show 'S' ∈ "SSRF security violation".toList by decide)
  rcases List.mem_append.mp hmem with hrepr | hrest
  · exact hcapital (python.capital_mem host hrepr)
  · exact absurd hrest (by decide)

/-- The `try` statement raises a rejection again and passes over the error of `ip_address`. -/
theorem checkHost_eq {python : Repr} {host : PyStr} (hcapital : 'S' ∉ host) :
    (tryExcept (fun _ ↦ true) (do
        let ipObj ← ipAddressOrError python host
        raiseIf (isIpBlocked ipObj)
          ("SSRF security violation: IP literal '".toList ++ host ++
            "' is private or restricted.".toList))
      fun err ↦ raiseIf (isSubtext "SSRF security violation".toList err) err) =
    raiseIf ((ipAddress host).any isIpBlocked)
      ("SSRF security violation: IP literal '".toList ++ host ++
        "' is private or restricted.".toList) := by
  unfold ipAddressOrError
  cases ipAddress host with
  | none =>
    change tryExcept _ (Except.error _) _ = _
    rw [tryExcept_error, if_pos rfl, isSubtext_repr hcapital]
    rfl
  | some ip =>
    rw [Option.any_some]
    change tryExcept _ (raiseIf (isIpBlocked ip) _) _ = _
    cases isIpBlocked ip with
    | false => rfl
    | true =>
      change tryExcept _ (Except.error _) _ = _
      have hpart : isSubtext "SSRF security violation".toList
          ("SSRF security violation: IP literal '".toList ++ host ++
            "' is private or restricted.".toList) = true :=
        isSubtext_append "SSRF security violation".toList (": IP literal '".toList ++ host ++
          "' is private or restricted.".toList)
      rw [tryExcept_error, if_pos rfl, hpart]

/-- The validator returns where that of the request contracts does. A host in lower case has no
capital S. -/
theorem validateUrlSchemeAndSafety_eq_ok_iff_schemas {tables : UnicodeTables} {python : Repr}
    {v : HttpUrl} (hcapital : 'S' ∉ lower tables (strip (v.host.getD []))) :
    validateUrlSchemeAndSafety tables python v = .ok v ↔
      Schemas.validateUrlSchemeAndSafety tables v = true := by
  unfold validateUrlSchemeAndSafety Schemas.validateUrlSchemeAndSafety
  dsimp only
  rw [checkHost_eq hcapital]
  simp only [bind_eq_ok_iff, raiseIf_eq_ok_iff]
  have hreturned : (pure v : Except PyStr HttpUrl) = .ok v := rfl
  generalize "http".toList = http, "https".toList = https, "localhost".toList = localhost,
    "localhost.localdomain".toList = localdomain, ipAddress _ = ip
  simp [isTruthy, hreturned, and_assoc, or_iff_not_imp_left]

/-! ### URLs of an address -/

/-- The host of a URL whose host is an address: the text of the address, in brackets for an IPv6
one. -/
def hostOf (literal : PyStr) : IPAddress → PyStr
  | .v4 _ => literal
  | .v6 _ => '[' :: literal ++ [']']

/-- Whether an address is an IPv4 one. -/
def isIPv4 : IPAddress → Bool
  | .v4 _ => true
  | .v6 _ => false

/-- What follows the host: a port if there is one, and the path, the query or the fragment. -/
structure IsUrlEnd (port rest : PyStr) : Prop where
  port : port = [] ∨ ∃ digits, port = ':' :: digits ∧ digits.all Char.isDigit = true
  rest : ∀ c, rest.head? = some c → isNetlocEnd c = true

/-- An `HttpUrl` without credentials whose host is an address, in any spelling. The syntax of URLs
has no zones. -/
structure IsAddressUrl (url : HttpUrl) (ip : IPAddress) : Prop where
  scheme : url.scheme = "http".toList ∨ url.scheme = "https".toList
  username : url.username = none
  password : url.password = none
  host : ∃ literal port rest, ipAddress literal = some ip ∧ '%' ∉ literal ∧
    url.host = some (hostOf literal ip) ∧ IsUrlEnd port rest ∧
      url.text = url.scheme ++ "://".toList ++ hostOf literal ip ++ port ++ rest

/-! ### What the probe reads -/

/-- A character that is no space and has no meaning in an authority. -/
structure IsPlain (c : Char) : Prop where
  ascii : c.toNat < 0x80
  space : isSpace c = false
  netlocEnd : isNetlocEnd c = false
  unsafeCharacter : c ∉ unsafeCharacters
  delimiter : c ∉ ['@', '[', ']', '%', 'v', 'S']

/-- The characters of an address are plain. -/
theorem isPlain_of_mem {c : Char} (hc : c ∈ literalCharacters) : IsPlain c := by
  have hascii : ∀ c ∈ literalCharacters, c.toNat < 0x80 :=
    List.forall_iff_forall_mem.mp (by decide)
  have hspace : ∀ c ∈ literalCharacters, isSpace c = false :=
    List.forall_iff_forall_mem.mp (by decide)
  have hend : ∀ c ∈ literalCharacters, isNetlocEnd c = false :=
    List.forall_iff_forall_mem.mp (by decide)
  have hunsafe : ∀ c ∈ literalCharacters, c ∉ unsafeCharacters :=
    List.forall_iff_forall_mem.mp (by decide)
  have hdelimiter : ∀ c ∈ literalCharacters, c ∉ ['@', '[', ']', '%', 'v', 'S'] :=
    List.forall_iff_forall_mem.mp (by decide)
  exact ⟨hascii c hc, hspace c hc, hend c hc, hunsafe c hc, hdelimiter c hc⟩

/-- They stay among themselves in lower case. -/
theorem toLower_mem_literalCharacters {c : Char} (hc : c ∈ literalCharacters) :
    c.toLower ∈ literalCharacters := by
  have hall : ∀ c ∈ literalCharacters, c.toLower ∈ literalCharacters :=
    List.forall_iff_forall_mem.mp (by decide)
  exact hall c hc

/-- The characters of the authority. -/
theorem mem_authority {literal port rest : PyStr} {ip : IPAddress}
    (hparse : ipAddress literal = some ip) (hzone : '%' ∉ literal) (hend : IsUrlEnd port rest) :
    (∀ c ∈ port, c ∈ literalCharacters) ∧
      ∀ c ∈ hostOf literal ip ++ port, c ∈ literalCharacters ∨ c = '[' ∨ c = ']' := by
  have hliteral := mem_literalCharacters hparse hzone
  have hport : ∀ c ∈ port, c ∈ literalCharacters := by
    intro c hc
    rcases hend.port with rfl | ⟨digits, rfl, hdigits⟩
    · exact absurd hc List.not_mem_nil
    · rcases List.mem_cons.mp hc with rfl | hdigit
      · decide
      · exact mem_literalCharacters_of_hexDigit
          (hexDigit_isSome_of_isDigit (List.all_eq_true.mp hdigits c hdigit))
  refine ⟨hport, fun c hc ↦ ?_⟩
  rcases List.mem_append.mp hc with hhost | hrest
  · cases ip with
    | v4 _ => exact Or.inl (hliteral c hhost)
    | v6 _ =>
      rcases List.mem_cons.mp hhost with rfl | hhost
      · exact Or.inr (Or.inl rfl)
      rcases List.mem_append.mp hhost with hmem | hlast
      · exact Or.inl (hliteral c hmem)
      · exact Or.inr (Or.inr (List.mem_singleton.mp hlast))
  · exact Or.inl (hport c hrest)

/-- The brackets of the authority pass the checks of `urlsplit`, and what is read off it is the
address, without them. -/
theorem hostinfo_authority {literal port rest : PyStr} {ip : IPAddress}
    (hparse : ipAddress literal = some ip) (hzone : '%' ∉ literal) (hend : IsUrlEnd port rest) :
    checkBrackets (hostOf literal ip ++ port) = true ∧
      (hostinfo (hostOf literal ip ++ port)).1 = literal := by
  have hliteral := mem_literalCharacters hparse hzone
  have hport := (mem_authority hparse hzone hend).1
  have hnot : ∀ d ∈ ['@', '[', ']', '%', 'v', 'S'], d ∉ literal ∧ d ∉ port := fun d hd ↦
    ⟨fun hmem ↦ (isPlain_of_mem (hliteral d hmem)).delimiter hd,
      fun hmem ↦ (isPlain_of_mem (hport d hmem)).delimiter hd⟩
  obtain ⟨hat, hatPort⟩ := hnot '@' (by decide)
  obtain ⟨hopen, hopenPort⟩ := hnot '[' (by decide)
  obtain ⟨hclose, hclosePort⟩ := hnot ']' (by decide)
  have hcolon : ∀ c, port.head? = some c → c = ':' := by
    intro c hc
    rcases hend.port with rfl | ⟨digits, rfl, -⟩
    · nomatch hc
    · exact (Option.some.inj hc).symm
  cases ip with
  | v4 address =>
    have hv4 : ':' ∉ literal := by
      rw [colon_mem_iff_of_ipAddress hparse]
      exact fun ⟨_, h⟩ ↦ nomatch h
    refine ⟨?_, congrArg Prod.fst (hostinfo_plain hat hopen hv4 hatPort hopenPort hcolon)⟩
    unfold checkBrackets hostOf
    rw [if_neg (by simp [hopen, hopenPort])]
    simp [hclose, hclosePort]
  | v6 address =>
    have hform : hostOf literal (.v6 address) ++ port = '[' :: literal ++ ']' :: port := by
      simp [hostOf]
    rw [hform]
    refine ⟨?_, congrArg Prod.fst (hostinfo_bracketed hat hclose hatPort)⟩
    have hnoAt : '@' ∉ '[' :: literal ++ ']' :: port := by simp [hat, hatPort]
    have hcut : partition '[' ('[' :: literal ++ ']' :: port) =
        ([], true, literal ++ ']' :: port) :=
      rfl
    have hmem : '[' ∈ '[' :: literal ++ ']' :: port := List.mem_cons_self
    have hfuture : literal.head? ≠ some 'v' := fun h ↦
      (hnot 'v' (by decide)).1 (List.mem_of_head? h)
    unfold checkBrackets checkBracketedNetloc checkBracketedHost
    rw [if_pos hmem, rpartition_of_notMem hnoAt]
    dsimp only
    rw [hcut]
    dsimp only
    rw [partition_append_cons hclose]
    dsimp only
    rw [if_neg hfuture, hparse]
    rcases hend.port with rfl | ⟨digits, rfl, -⟩ <;> simp

/-- What `urlsplit` makes of the URL of an address. -/
theorem urlsplit_of_isAddressUrl {tables : UnicodeTables} {url : HttpUrl} {ip : IPAddress}
    (haddress : IsAddressUrl url ip) :
    ∃ parsed, urlsplit tables url.text [] = some parsed ∧
      lower tables parsed.scheme ∈ allowedSchemes ∧ parsed.username = none ∧
        parsed.password = none ∧ ∃ literal, ipAddress literal = some ip ∧ '%' ∉ literal ∧
          parsed.hostname tables = some (lower tables literal) := by
  obtain ⟨literal, port, rest, hparse, hzone, -, hend, htext⟩ := haddress.host
  obtain ⟨hbrackets, hhost⟩ := hostinfo_authority hparse hzone hend
  have hauthority := (mem_authority hparse hzone hend).2
  have hplain : ∀ c ∈ hostOf literal ip ++ port,
      c.toNat < 0x80 ∧ isNetlocEnd c = false ∧ c ∉ unsafeCharacters ∧ c ≠ '@' := by
    intro c hc
    rcases hauthority c hc with hmem | rfl | rfl
    · have hplain := isPlain_of_mem hmem
      exact ⟨hplain.ascii, hplain.netlocEnd, hplain.unsafeCharacter,
        fun h ↦ hplain.delimiter (h ▸ List.mem_cons_self)⟩
    · decide
    · decide
  have hat : '@' ∉ hostOf literal ip ++ port := fun hmem ↦ (hplain '@' hmem).2.2.2 rfl
  have hcheck : checkNetloc tables (hostOf literal ip ++ port) = true := by
    unfold checkNetloc
    rw [List.all_eq_true.mpr fun c hc ↦ decide_eq_true (hplain c hc).1, Bool.true_or]
  have hscheme : IsScheme url.scheme ∧ lower tables (url.scheme.map Char.toLower) ∈
      allowedSchemes := by
    rcases haddress.scheme with hhttp | hhttps
    · rw [hhttp]
      exact ⟨⟨⟨'h', _, rfl, by decide⟩, List.forall_iff_forall_mem.mp (by decide)⟩,
        List.mem_cons_self⟩
    · rw [hhttps]
      exact ⟨⟨⟨'h', _, rfl, by decide⟩, List.forall_iff_forall_mem.mp (by decide)⟩,
        List.mem_cons_of_mem _ List.mem_cons_self⟩
  obtain ⟨path, query, fragment, hsplit⟩ := urlsplit_append hscheme.1
    (fun c hc ↦ (hplain c hc).2.2.1) (fun c hc ↦ (hplain c hc).2.1) hend.rest hbrackets hcheck
  have hform : url.text =
      url.scheme ++ ':' :: ('/' :: '/' :: (hostOf literal ip ++ port) ++ rest) := by
    rw [htext]
    simp
  rw [← hform] at hsplit
  have hinfo : userinfo (hostOf literal ip ++ port) = (none, none) := by
    rw [userinfo, rpartition_of_notMem hat]
  refine ⟨_, hsplit, hscheme.2, congrArg Prod.fst hinfo, congrArg Prod.snd hinfo, literal, hparse,
    hzone, ?_⟩
  have hne : literal ≠ [] := by
    rintro rfl
    nomatch hparse
  unfold SplitResult.hostname
  dsimp only
  rw [hhost, if_neg hne, partition_of_notMem hzone]

/-- The address that the probe reads off the URL. -/
theorem ipAddress_hostnameClean (tables : UnicodeTables) {literal : PyStr} {ip : IPAddress}
    (hparse : ipAddress literal = some ip) (hzone : '%' ∉ literal) :
    ipAddress (hostnameClean tables (lower tables literal)) = some ip := by
  have hliteral := mem_literalCharacters hparse hzone
  have hlowered : ∀ c ∈ literal.map Char.toLower, c ∈ literalCharacters := by
    intro c hc
    obtain ⟨original, horiginal, rfl⟩ := List.mem_map.mp hc
    exact toLower_mem_literalCharacters (hliteral original horiginal)
  have hpercent : '%' ∉ literal.map Char.toLower := fun hmem ↦
    (isPlain_of_mem (hlowered '%' hmem)).delimiter (by decide)
  unfold hostnameClean
  rw [lower_of_ascii fun c hc ↦ (isPlain_of_mem (hliteral c hc)).ascii,
    strip_of_forall fun c hc ↦ (isPlain_of_mem (hlowered c hc)).space,
    lower_of_ascii fun c hc ↦ (isPlain_of_mem (hlowered c hc)).ascii,
    ipAddress_map_toLower hpercent, ipAddress_map_toLower hzone, hparse]

/-- The probe refuses the URL of an address exactly when the address is blocked. -/
theorem ssrfBlockedError_iff {tables : UnicodeTables} {url : HttpUrl} {ip : IPAddress}
    (haddress : IsAddressUrl url ip) (socket : Validators.Socket)
    (dnsResolver : Option Validators.AsyncResolver) :
    (∃ reason, Validators.asyncResolveAndValidateTarget tables socket url.text false dnsResolver =
      .error (.ssrfBlockedError reason)) ↔ isIpBlocked ip = true := by
  obtain ⟨parsed, hsplit, hallowed, husername, hpassword, literal, hparse, hzone, hhostname⟩ :=
    urlsplit_of_isAddressUrl haddress
  have hread := ipAddress_hostnameClean tables hparse hzone
  have hne : lower tables literal ≠ [] := by
    intro hempty
    rw [hempty] at hread
    nomatch hread
  have hknown : ¬ lower tables parsed.scheme ∉ ["http".toList, "https".toList] :=
    not_not.mpr hallowed
  have htruthy : (!isTruthy (some (lower tables literal))) = false := by simpa [isTruthy] using hne
  unfold Validators.asyncResolveAndValidateTarget Validators.urlsplit
  rw [hsplit]
  change (∃ reason, (raiseIf _ _ >>= _ : Except Validators.Raised (SplitResult × PyStr)) = _) ↔ _
  rw [raiseIf_bind, decide_eq_false hknown, if_neg Bool.false_ne_true, raiseIf_bind, hhostname]
  dsimp only [Option.getD_some]
  rw [htruthy, if_neg Bool.false_ne_true, raiseIf_bind, husername, hpassword]
  change (∃ reason,
    (tryExcept _ _ _ >>= _ : Except Validators.Raised (SplitResult × PyStr)) = _) ↔ _
  unfold hostnameClean at hread
  rw [Validators.literal_eq fun text ↦ text, hread]
  dsimp only
  have hadmitted : isAdmitted false ip = !isIpBlocked ip := by simp [isAdmitted]
  rw [hadmitted]
  cases isIpBlocked ip with
  | false =>
    refine iff_of_false ?_ Bool.false_ne_true
    rintro ⟨reason, heq⟩
    cases heq
  | true => exact iff_of_true ⟨_, rfl⟩ rfl

/-! ### What the registration reads -/

/-- The host as the registration checks it, and its characters. -/
theorem lower_strip_hostOf (tables : UnicodeTables) {literal : PyStr} {ip : IPAddress}
    (hparse : ipAddress literal = some ip) (hzone : '%' ∉ literal) :
    lower tables (strip (hostOf literal ip)) = (hostOf literal ip).map Char.toLower ∧
      ∀ c ∈ (hostOf literal ip).map Char.toLower, c ∈ literalCharacters ∨ c = '[' ∨ c = ']' := by
  have hend : IsUrlEnd [] [] := ⟨Or.inl rfl, fun _ h ↦ nomatch h⟩
  have hhost := (mem_authority hparse hzone hend).2
  rw [List.append_nil] at hhost
  have hfacts : ∀ c ∈ hostOf literal ip, isSpace c = false ∧ c.toNat < 0x80 ∧
      (c.toLower ∈ literalCharacters ∨ c.toLower = '[' ∨ c.toLower = ']') := by
    intro c hc
    rcases hhost c hc with hmem | rfl | rfl
    · have hplain := isPlain_of_mem hmem
      exact ⟨hplain.space, hplain.ascii, Or.inl (toLower_mem_literalCharacters hmem)⟩
    · decide
    · decide
  constructor
  · rw [strip_of_forall fun c hc ↦ (hfacts c hc).1, lower_of_ascii fun c hc ↦ (hfacts c hc).2.1]
  · intro c hc
    obtain ⟨original, horiginal, rfl⟩ := List.mem_map.mp hc
    exact (hfacts original horiginal).2.2

/-- The registration reads an IPv4 address off its host. With brackets around it a host is no
address. -/
theorem ipAddress_map_toLower_hostOf {literal : PyStr} {ip : IPAddress}
    (hparse : ipAddress literal = some ip) (hzone : '%' ∉ literal) :
    ipAddress ((hostOf literal ip).map Char.toLower) = if isIPv4 ip then some ip else none := by
  cases ip with
  | v4 address =>
    rw [hostOf, ipAddress_map_toLower hzone, hparse]
    rfl
  | v6 address =>
    have hnot : '%' ∉ hostOf literal (.v6 address) := by simp [hostOf, hzone]
    rw [ipAddress_map_toLower hnot]
    cases hread : ipAddress (hostOf literal (.v6 address)) with
    | none => rfl
    | some other =>
      have hbracket := mem_literalCharacters hread hnot '[' List.mem_cons_self
      exact absurd hbracket (by decide)

/-- The registration accepts the URL of an IPv6 address, and that of an IPv4 address unless it is
blocked. -/
theorem validateUrlSchemeAndSafety_of_isAddressUrl {tables : UnicodeTables} {python : Repr}
    {url : HttpUrl} {ip : IPAddress} (haddress : IsAddressUrl url ip) :
    validateUrlSchemeAndSafety tables python url = .ok url ↔
      isIPv4 ip = false ∨ isIpBlocked ip = false := by
  obtain ⟨literal, port, rest, hparse, hzone, hhost, -, -⟩ := haddress.host
  obtain ⟨hlowered, hcharacters⟩ := lower_strip_hostOf tables hparse hzone
  have hletters : ∀ d ∈ ['S', 'l'], d ∉ (hostOf literal ip).map Char.toLower := by
    intro d hd hmem
    have hnone : ∀ d ∈ ['S', 'l'], d ∉ literalCharacters ∧ d ≠ '[' ∧ d ≠ ']' :=
      List.forall_iff_forall_mem.mp (by decide)
    obtain ⟨hliteral, hopen, hclose⟩ := hnone d hd
    rcases hcharacters d hmem with h | h | h
    · exact hliteral h
    · exact hopen h
    · exact hclose h
  have hcapital : 'S' ∉ lower tables (strip (url.host.getD [])) := by
    rw [hhost, Option.getD_some, hlowered]
    exact hletters 'S' (by decide)
  rw [validateUrlSchemeAndSafety_eq_ok_iff_schemas hcapital]
  unfold Schemas.validateUrlSchemeAndSafety
  rw [haddress.username, haddress.password, hhost, Option.getD_some, hlowered]
  have hscheme : (lower tables url.scheme = "http".toList || lower tables url.scheme =
      "https".toList) = true := by
    rcases haddress.scheme with h | h <;> rw [h] <;> rfl
  have halias : ∀ name ∈ ["localhost".toList, "localhost.localdomain".toList],
      (hostOf literal ip).map Char.toLower ≠ name := by
    have hletter : ∀ name ∈ ["localhost".toList, "localhost.localdomain".toList], 'l' ∈ name := by
      decide
    exact fun name hname heq ↦ hletters 'l' (by decide) (heq ▸ hletter name hname)
  dsimp only
  rw [hscheme, decide_eq_false (halias _ List.mem_cons_self),
    decide_eq_false (halias _ (List.mem_cons_of_mem _ List.mem_cons_self)),
    ipAddress_map_toLower_hostOf hparse hzone]
  cases isIPv4 ip with
  | false => simp
  | true => simp

/-! ### Agreement -/

/-- What the registration accepts is not refused by the probe, exactly for IPv4 addresses and for
addresses that are not blocked. -/
theorem accepted_only_if_admitted_iff {tables : UnicodeTables} {python : Repr} {url : HttpUrl}
    {ip : IPAddress} (haddress : IsAddressUrl url ip) (socket : Validators.Socket)
    (dnsResolver : Option Validators.AsyncResolver) :
    (validateUrlSchemeAndSafety tables python url = .ok url →
        ¬ ∃ reason, Validators.asyncResolveAndValidateTarget tables socket url.text false
          dnsResolver = .error (.ssrfBlockedError reason)) ↔
      isIPv4 ip = true ∨ isIpBlocked ip = false := by
  rw [validateUrlSchemeAndSafety_of_isAddressUrl haddress, ssrfBlockedError_iff haddress]
  cases isIPv4 ip <;> cases isIpBlocked ip <;> simp

/-- `repr` of a text that needs no escapes. -/
def plainRepr : Repr where
  repr := fun text ↦ '\'' :: text ++ ['\'']
  capital_mem := fun text hcapital ↦ by simpa using hcapital

/-- A network without names. -/
def namelessSocket : Validators.Socket where
  getaddrinfo := fun _ _ _ ↦ .error Validators.gaierror
  acceptsType := fun _ _ _ hraised ↦ Except.error.inj hraised ▸ rfl

/-- The URL of a host, without a port and with the root as its path. -/
def rootUrl (host : PyStr) : HttpUrl where
  text := "http://".toList ++ host ++ "/".toList
  scheme := "http".toList
  username := none
  password := none
  host := some host

/-- The URL of an address. -/
theorem isAddressUrl_rootUrl {literal : PyStr} {ip : IPAddress}
    (hparse : ipAddress literal = some ip) (hzone : '%' ∉ literal) :
    IsAddressUrl (rootUrl (hostOf literal ip)) ip where
  scheme := Or.inl rfl
  username := rfl
  password := rfl
  host := by
    have hend : IsUrlEnd [] "/".toList := ⟨Or.inl rfl, fun c hc ↦ Option.some.inj hc ▸ rfl⟩
    refine ⟨literal, [], "/".toList, hparse, hzone, rfl, hend, ?_⟩
    rw [List.append_nil]
    rfl

/-- `http://93.184.216.34/` is accepted, and the probe does not refuse it. -/
theorem accepted_only_if_admitted_ipv4 :
    validateUrlSchemeAndSafety .caseless plainRepr (rootUrl "93.184.216.34".toList) =
        .ok (rootUrl "93.184.216.34".toList) ∧
      ¬ ∃ reason, Validators.asyncResolveAndValidateTarget .caseless namelessSocket
        (rootUrl "93.184.216.34".toList).text false none = .error (.ssrfBlockedError reason) := by
  have hparse : ipAddress "93.184.216.34".toList = some (.v4 ⟨1572395042, by decide⟩) := by decide
  have haddress := isAddressUrl_rootUrl hparse (by decide)
  have haccepted : validateUrlSchemeAndSafety .caseless plainRepr (rootUrl "93.184.216.34".toList) =
      .ok (rootUrl "93.184.216.34".toList) :=
    (validateUrlSchemeAndSafety_of_isAddressUrl haddress).mpr (Or.inr (by decide))
  exact ⟨haccepted,
    (accepted_only_if_admitted_iff haddress namelessSocket none).mpr (Or.inl rfl) haccepted⟩

/-- `http://[::1]/` is accepted, and the probe refuses it. -/
theorem accepts_blocked_ipv6 :
    ∃ ip, IsAddressUrl (rootUrl "[::1]".toList) ip ∧
      validateUrlSchemeAndSafety .caseless plainRepr (rootUrl "[::1]".toList) =
        .ok (rootUrl "[::1]".toList) ∧
      ∃ reason, Validators.asyncResolveAndValidateTarget .caseless namelessSocket
        (rootUrl "[::1]".toList).text false none = .error (.ssrfBlockedError reason) := by
  have hparse : ipAddress "::1".toList = some (.v6 ⟨1, by decide, none⟩) := by decide
  have haddress := isAddressUrl_rootUrl hparse (by decide)
  refine ⟨_, haddress, ?_, ?_⟩
  · exact (validateUrlSchemeAndSafety_of_isAddressUrl haddress).mpr (Or.inl rfl)
  · exact (ssrfBlockedError_iff haddress namelessSocket none).mpr (by decide)

end PingGuard.Registration
