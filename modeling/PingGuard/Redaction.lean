import PingGuard.Library.AuthorityUrl
import PingGuard.Net.Validate

/-!
# Redacting URLs

`redact_url_credentials` of `app/ssrf.py` replaces the user information of a URL by asterisks and
puts the URL together again from its parts, for logging.

Nothing of the user information reaches the result: for URLs of printable ASCII characters the
result is a function of the scheme and of what follows the at sign
(`redactUrlCredentials_credentialUrl`).
-/

set_option autoImplicit false
set_option relaxedAutoImplicit false

namespace PingGuard.Ssrf

open Library.PyText Library.UrlSplit Net

/-- The text that stands for a URL that cannot be redacted. -/
def redactedUrl : PyStr := "[redacted_url]".toList

/-- The authority of a redacted URL. -/
def redactedNetloc (tables : UnicodeTables) (parsed : SplitResult) (port : Option ℕ) : PyStr :=
  let netloc := (parsed.hostname tables).getD []
  let netloc := match port with
    | some (n + 1) => netloc ++ ':' :: Nat.toDigits 10 (n + 1)
    | _ => netloc
  "***:***@".toList ++ netloc

/-- `redact_url_credentials`. -/
def redactUrlCredentials (tables : UnicodeTables) (url : PyStr) : PyStr :=
  match urlsplit tables url [] with
  | none => redactedUrl
  | some parsed =>
    if isTruthy parsed.username || isTruthy parsed.password then
      match parsed.port with
      | none => redactedUrl
      | some port => urlunsplit { parsed with netloc := redactedNetloc tables parsed port }
    else url

/-- A URL has a user name or a password that is not empty. -/
def HasCredentials (parsed : SplitResult) : Prop :=
  (isTruthy parsed.username || isTruthy parsed.password) = true

/-- What a URL that is split into some parts with credentials becomes. -/
def redactedParts (tables : UnicodeTables) (parsed : SplitResult) : PyStr :=
  match parsed.port with
  | none => redactedUrl
  | some port => urlunsplit { parsed with netloc := redactedNetloc tables parsed port }

/-- A URL with credentials is redacted. -/
theorem redactUrlCredentials_of_split {tables : UnicodeTables} {url : PyStr}
    {parsed : SplitResult} (hsplit : urlsplit tables url [] = some parsed)
    (hcredentials : HasCredentials parsed) :
    redactUrlCredentials tables url = redactedParts tables parsed := by
  rw [redactUrlCredentials, hsplit]
  exact if_pos hcredentials

/-- The parts but the authority, and the host and the port of the authority, decide what a URL
becomes. -/
theorem redactedParts_congr {tables : UnicodeTables} {parsed : SplitResult} {netloc : PyStr}
    (hinfo : hostinfo netloc = hostinfo parsed.netloc) :
    redactedParts tables { parsed with netloc := netloc } = redactedParts tables parsed := by
  have hport : ({ parsed with netloc := netloc } : SplitResult).port = parsed.port := by
    unfold SplitResult.port
    rw [hinfo]
  have hhostname : ({ parsed with netloc := netloc } : SplitResult).hostname tables =
      parsed.hostname tables := by
    unfold SplitResult.hostname
    rw [hinfo]
  unfold redactedParts redactedNetloc
  rw [hport, hhostname]

/-! ### What the result is made from -/

/-- The characters from space to tilde. -/
def isPrintableAscii (c : Char) : Bool := 0x20 ≤ c.toNat && c.toNat ≤ 0x7e

/-- User information in printable ASCII, with a user name or a password that is not empty. -/
structure IsCredentials (info : PyStr) : Prop where
  printable : ∀ c ∈ info, isPrintableAscii c = true
  excluded : ∀ c ∈ info, c ∉ ['/', '?', '#', '[', ']']
  nonempty : (partition ':' info).1 ≠ [] ∨ (partition ':' info).2.2 ≠ []

/-- A URL with user information: the tail is its host and whatever follows the host. -/
def credentialUrl (scheme info tail : PyStr) : PyStr :=
  scheme ++ ':' :: '/' :: '/' :: (info ++ '@' :: tail)

/-- The parts that are read off the tail of a URL, and its scheme. -/
def tailParts (scheme tail : PyStr) : SplitResult :=
  let written := writtenTail (tail.dropWhile (!isNetlocEnd ·))
  ⟨scheme.map Char.toLower, tail.takeWhile (!isNetlocEnd ·), written.1, written.2.1, written.2.2⟩

/-- What a URL with credentials becomes, computed without these. -/
def redactedTail (tables : UnicodeTables) (parts : SplitResult) : PyStr :=
  if checkBrackets parts.netloc then redactedParts tables parts else redactedUrl

/-- A printable character is an ASCII character that cleaning up keeps. -/
theorem isPrintableAscii_safe {c : Char} (hprintable : isPrintableAscii c = true) :
    c.toNat < 0x80 ∧ c ∉ unsafeCharacters := by
  have hbounds := Bool.and_eq_true_iff.mp hprintable
  refine ⟨Nat.lt_of_le_of_lt (of_decide_eq_true hbounds.2) (by decide), fun hunsafe ↦ ?_⟩
  have hnone : ∀ d ∈ unsafeCharacters, isPrintableAscii d = false :=
    List.forall_iff_forall_mem.mp (by decide)
  exact Bool.noConfusion ((hnone c hunsafe).symm.trans hprintable)

/-- User information in front of an authority is found there. -/
theorem hasCredentials_of_append {info : PyStr} (hinfo : IsCredentials info) {netloc : PyStr}
    {parsed : SplitResult} (hnetloc : parsed.netloc = info ++ '@' :: netloc) :
    HasCredentials parsed := by
  have htruthy {text : Option PyStr} (hsome : ∃ value, text = some value ∧ value ≠ []) :
      isTruthy text = true := by
    obtain ⟨value, rfl, hne⟩ := hsome
    exact decide_eq_true hne
  unfold HasCredentials SplitResult.username SplitResult.password
  rw [hnetloc, Bool.or_eq_true_iff]
  exact (userinfo_append hinfo.nonempty netloc).imp htruthy htruthy

/-- A URL with credentials has them in its authority. -/
theorem exists_authorityUrl {scheme info : PyStr} (hscheme : IsScheme scheme)
    (hinfo : IsCredentials info) (tail : PyStr) :
    ∃ url : AuthorityUrl, url.text = credentialUrl scheme info tail ∧ url.scheme = scheme ∧
      url.authority = info ++ '@' :: tail.takeWhile (!isNetlocEnd ·) ∧
      url.rest = tail.dropWhile (!isNetlocEnd ·) := by
  have hends : ∀ c ∈ info ++ '@' :: tail.takeWhile (!isNetlocEnd ·), isNetlocEnd c = false := by
    intro c hc
    rcases List.mem_append.mp hc with hc | hc
    · refine isNetlocEnd_eq_false ?_ ?_ ?_ <;> rintro rfl <;>
        exact hinfo.excluded _ hc (by decide)
    · rcases List.mem_cons.mp hc with rfl | hc
      · rfl
      · simpa using List.mem_takeWhile_imp hc
  have hhead : ∀ c, (tail.dropWhile (!isNetlocEnd ·)).head? = some c → isNetlocEnd c = true := by
    intro c hc
    have hnot := List.head?_dropWhile_not (!isNetlocEnd ·) tail
    rw [hc] at hnot
    simpa using hnot
  refine ⟨⟨scheme, _, _, hscheme, by simp, hends, hhead⟩, ?_, rfl, rfl, rfl⟩
  simp [AuthorityUrl.text, credentialUrl]

/-- The result for a URL with credentials does not depend on them. -/
theorem redactUrlCredentials_credentialUrl {tables : UnicodeTables} {scheme info tail : PyStr}
    (hscheme : IsScheme scheme) (hinfo : IsCredentials info)
    (htail : ∀ c ∈ tail, isPrintableAscii c = true) :
    redactUrlCredentials tables (credentialUrl scheme info tail) =
      redactedTail tables (tailParts scheme tail) := by
  obtain ⟨url, htext, hurlScheme, hauthority, hrest⟩ := exists_authorityUrl hscheme hinfo tail
  have hprintable : ∀ c ∈ url.authority, isPrintableAscii c = true := by
    intro c hc
    rw [hauthority, List.mem_append, List.mem_cons] at hc
    rcases hc with hc | rfl | hc
    · exact hinfo.printable c hc
    · rfl
    · exact htail c ((List.takeWhile_prefix _).subset hc)
  have hauthorityClean : cleaned url.authority = url.authority :=
    cleaned_of_forall fun c hc ↦ (isPrintableAscii_safe (hprintable c hc)).2
  have hrestClean : cleaned url.rest = url.rest := cleaned_of_forall fun c hc ↦ by
    rw [hrest] at hc
    exact (isPrintableAscii_safe (htail c ((List.dropWhile_suffix _).subset hc))).2
  have hcheck : checkNetloc tables url.authority = true := by
    rw [checkNetloc, Bool.or_eq_true_iff]
    exact Or.inl (List.all_eq_true.mpr fun c hc ↦
      decide_eq_true (isPrintableAscii_safe (hprintable c hc)).1)
  have hbrackets : checkBrackets url.authority =
      checkBrackets (tailParts scheme tail).netloc := by
    rw [hauthority]
    exact checkBrackets_userinfo (fun hc ↦ hinfo.excluded _ hc (by decide))
      (fun hc ↦ hinfo.excluded _ hc (by decide)) _
  have hhost : hostinfo url.authority = hostinfo (tailParts scheme tail).netloc := by
    rw [hauthority]
    exact hostinfo_userinfo _ _
  have hsplit := url.urlsplit_text tables
  rw [hauthorityClean, hrestClean, hcheck, hbrackets, hurlScheme, hrest, htext] at hsplit
  rw [redactedTail]
  split_ifs with hchecks
  · rw [if_pos ⟨hchecks, rfl⟩] at hsplit
    rw [redactUrlCredentials_of_split hsplit (hasCredentials_of_append hinfo hauthority)]
    exact @redactedParts_congr tables (tailParts scheme tail) _ hhost
  · rw [if_neg fun h ↦ hchecks h.1] at hsplit
    rw [redactUrlCredentials, hsplit]

/-- Two URLs that differ in their credentials alone are redacted alike. -/
theorem redactUrlCredentials_congr {tables : UnicodeTables} {scheme tail : PyStr}
    (hscheme : IsScheme scheme) (htail : ∀ c ∈ tail, isPrintableAscii c = true)
    {info other : PyStr} (hinfo : IsCredentials info) (hother : IsCredentials other) :
    redactUrlCredentials tables (credentialUrl scheme info tail) =
      redactUrlCredentials tables (credentialUrl scheme other tail) := by
  rw [redactUrlCredentials_credentialUrl hscheme hinfo htail,
    redactUrlCredentials_credentialUrl hscheme hother htail]

/-- A password with an at sign and a colon is redacted like any other. -/
theorem redactUrlCredentials_congr_example :
    redactUrlCredentials .caseless
        (credentialUrl "https".toList "user:pass".toList "example.com:8443/a?b#c".toList) =
      redactUrlCredentials .caseless
        (credentialUrl "https".toList ":p@ss:word".toList "example.com:8443/a?b#c".toList) := by
  apply redactUrlCredentials_congr
  · exact ⟨⟨'h', "ttps".toList, rfl, rfl⟩, List.forall_iff_forall_mem.mp (by decide)⟩
  · exact List.forall_iff_forall_mem.mp (by decide)
  · exact ⟨List.forall_iff_forall_mem.mp (by decide), List.forall_iff_forall_mem.mp (by decide),
      by decide⟩
  · exact ⟨List.forall_iff_forall_mem.mp (by decide), List.forall_iff_forall_mem.mp (by decide),
      by decide⟩

end PingGuard.Ssrf
