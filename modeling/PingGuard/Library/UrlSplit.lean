import PingGuard.Library.IpText

/-!
# Splitting and joining URLs

Python's `urllib.parse` as CPython 3.12 ships it: `urlsplit` and `urlunsplit`, the accessors of a
`SplitResult`, and `urljoin`. Where the library raises `ValueError` the functions here return
nothing: a bracketed authority that is no IPv6 literal, an authority that compatibility
normalisation would split, and a port that is no number below 65536.

`writtenHost` is the host that a URL text names, read off its authority. `writtenHost_urlunsplit`
says that a URL put together from parts names the host of its authority, and
`hostinfo_bracketed` and `hostinfo_plain` read that host off an authority rebuilt from an address.
-/

set_option autoImplicit false
set_option relaxedAutoImplicit false

namespace PingGuard.Library.UrlSplit

open IpAddress IpText PyText

/-! ### Splitting -/

/-- A `SplitResult`. -/
structure SplitResult where
  scheme : PyStr
  netloc : PyStr
  path : PyStr
  query : PyStr
  fragment : PyStr
  deriving DecidableEq

/-- The characters of `_WHATWG_C0_CONTROL_OR_SPACE`. -/
def isC0ControlOrSpace (c : Char) : Bool := c.toNat ≤ 0x20

/-- The characters of `_UNSAFE_URL_BYTES_TO_REMOVE`. -/
def unsafeCharacters : List Char := ['\t', '\r', '\n']

/-- The clean-up at the start of `urlsplit`. -/
def sanitize (url : PyStr) : PyStr :=
  (url.dropWhile isC0ControlOrSpace).filter (· ∉ unsafeCharacters)

/-- The characters of `scheme_chars`. -/
def isSchemeChar (c : Char) : Bool := c.isAlphanum || c == '+' || c == '-' || c == '.'

/-- The scheme of a URL, or the default one, and the rest of the URL. -/
def splitScheme (defaultScheme url : PyStr) : PyStr × PyStr :=
  match partition ':' url with
  | (c :: scheme, true, rest) =>
    if c.isAlpha ∧ (c :: scheme).all isSchemeChar then ((c :: scheme).map Char.toLower, rest)
    else (defaultScheme, url)
  | _ => (defaultScheme, url)

/-- The characters that end an authority. -/
def isNetlocEnd (c : Char) : Bool := c == '/' || c == '?' || c == '#'

/-- `_splitnetloc` behind a double slash: the authority and the rest. A URL without a double slash
has an empty authority. -/
def splitNetloc (url : PyStr) : PyStr × PyStr :=
  match url with
  | '/' :: '/' :: rest => (rest.takeWhile (!isNetlocEnd ·), rest.dropWhile (!isNetlocEnd ·))
  | _ => ([], url)

/-- The pattern `\Av[a-fA-F0-9]+\..+\Z` of a future address form. -/
def isIPvFuture (host : PyStr) : Bool :=
  match host with
  | 'v' :: rest =>
    rest.takeWhile (hexDigit · |>.isSome) ≠ [] &&
      match rest.dropWhile (hexDigit · |>.isSome) with
      | '.' :: _ :: _ => true
      | _ => false
  | _ => false

/-- `_check_bracketed_host`: whether it returns. -/
def checkBracketedHost (host : PyStr) : Bool :=
  if host.head? = some 'v' then isIPvFuture host
  else match ipAddress host with
    | some (.v6 _) => true
    | _ => false

/-- `_check_bracketed_netloc`: whether it returns. -/
def checkBracketedNetloc (netloc : PyStr) : Bool :=
  let hostnameAndPort := (rpartition '@' netloc).2.2
  match partition '[' hostnameAndPort with
  | (before, true, bracketed) =>
    let (hostname, _, port) := partition ']' bracketed
    before = [] && (port = [] || port.head? = some ':') && checkBracketedHost hostname
  | (_, false, _) => checkBracketedHost (partition ':' hostnameAndPort).1

/-- The bracket checks of `urlsplit`: whether they pass. -/
def checkBrackets (netloc : PyStr) : Bool :=
  if '[' ∈ netloc then decide (']' ∈ netloc) && checkBracketedNetloc netloc
  else decide (']' ∉ netloc)

/-- `_checknetloc`: whether it returns. -/
def checkNetloc (tables : UnicodeTables) (netloc : PyStr) : Bool :=
  netloc.all (·.toNat < 0x80) ||
    let kept := netloc.filter (· ∉ ['@', ':', '#', '?'])
    kept = tables.nfkc kept || !(tables.nfkc kept).any (· ∈ ['/', '?', '#', '@', ':'])

/-- `urlsplit(url, defaultScheme)`; nothing stands for its `ValueError`. -/
def urlsplit (tables : UnicodeTables) (url : PyStr) (defaultScheme : PyStr) : Option SplitResult :=
  let (scheme, afterScheme) := splitScheme defaultScheme (sanitize url)
  let (netloc, afterNetloc) := splitNetloc afterScheme
  if ¬ checkBrackets netloc then none
  else
    let (beforeFragment, _, fragment) := partition '#' afterNetloc
    let (path, _, query) := partition '?' beforeFragment
    if ¬ checkNetloc tables netloc then none else some ⟨scheme, netloc, path, query, fragment⟩

/-! ### The accessors of an authority -/

/-- `_userinfo`: the user name and the password. -/
def userinfo (netloc : PyStr) : Option PyStr × Option PyStr :=
  match rpartition '@' netloc with
  | (_, false, _) => (none, none)
  | (info, true, _) =>
    match partition ':' info with
    | (username, false, _) => (some username, none)
    | (username, true, password) => (some username, some password)

/-- `_hostinfo`: the host as written and the text of the port. -/
def hostinfo (netloc : PyStr) : PyStr × Option PyStr :=
  let (hostname, port) : PyStr × PyStr :=
    match partition '[' (rpartition '@' netloc).2.2 with
    | (_, true, bracketed) =>
      let (hostname, _, afterBracket) := partition ']' bracketed
      (hostname, (partition ':' afterBracket).2.2)
    | (_, false, _) =>
      let (hostname, _, port) := partition ':' (rpartition '@' netloc).2.2
      (hostname, port)
  (hostname, if port = [] then none else some port)

namespace SplitResult

/-- `SplitResult.username`. -/
def username (parsed : SplitResult) : Option PyStr := (userinfo parsed.netloc).1

/-- `SplitResult.password`. -/
def password (parsed : SplitResult) : Option PyStr := (userinfo parsed.netloc).2

/-- `SplitResult.hostname`: the host in lower case, a zone aside. -/
def hostname (tables : UnicodeTables) (parsed : SplitResult) : Option PyStr :=
  let host := (hostinfo parsed.netloc).1
  if host = [] then none
  else match partition '%' host with
    | (name, false, _) => some (lower tables name)
    | (name, true, zone) => some (lower tables name ++ '%' :: zone)

/-- `SplitResult.port`: nothing for its `ValueError`, else the port if there is one. That `int` also
refuses a text of more than 4300 digits is left out: it differs for leading zeros only. -/
def port (parsed : SplitResult) : Option (Option ℕ) :=
  match (hostinfo parsed.netloc).2 with
  | none => some none
  | some text =>
    if text.all Char.isDigit then
      if Nat.ofDigitChars 10 text 0 ≤ 65535 then some (some (Nat.ofDigitChars 10 text 0)) else none
    else none

end SplitResult

/-! ### Putting a URL together -/

/-- The entries of `uses_netloc`. -/
def usesNetloc : List PyStr :=
  ["", "ftp", "http", "gopher", "nntp", "telnet", "imap", "wais", "file", "mms", "https", "shttp",
    "snews", "prospero", "rtsp", "rtsps", "rtspu", "rsync", "svn", "svn+ssh", "sftp", "nfs", "git",
    "git+ssh", "ws", "wss"].map String.toList

/-- The entries of `uses_relative`. -/
def usesRelative : List PyStr :=
  ["", "ftp", "http", "gopher", "nntp", "imap", "wais", "file", "https", "shttp", "mms",
    "prospero", "rtsp", "rtsps", "rtspu", "sftp", "svn", "svn+ssh", "ws", "wss"].map String.toList

/-- The entries of `uses_params`. -/
def usesParams : List PyStr :=
  ["", "ftp", "hdl", "prospero", "http", "imap", "https", "shttp", "rtsp", "rtsps", "rtspu", "sip",
    "sips", "mms", "sftp", "tel"].map String.toList

/-- The authority and the path of a URL, with their slashes. -/
def joinNetloc (scheme netloc path : PyStr) : PyStr :=
  if netloc ≠ [] then
    '/' :: '/' :: netloc ++ if path ≠ [] ∧ path.head? ≠ some '/' then '/' :: path else path
  else if path.take 2 = ['/', '/'] then '/' :: '/' :: path
  else if scheme ≠ [] ∧ scheme ∈ usesNetloc ∧ (path = [] ∨ path.head? = some '/') then
    '/' :: '/' :: path
  else path

/-- `urlunsplit`. -/
def urlunsplit (parts : SplitResult) : PyStr :=
  (if parts.scheme ≠ [] then parts.scheme ++ [':'] else []) ++
    joinNetloc parts.scheme parts.netloc parts.path ++
    (if parts.query ≠ [] then '?' :: parts.query else []) ++
    (if parts.fragment ≠ [] then '#' :: parts.fragment else [])

/-! ### Joining a reference to a base -/

/-- `_splitparams`: the path and the parameters of its last segment. -/
def splitParams (path : PyStr) : PyStr × PyStr :=
  let (before, slash, last) := rpartition '/' path
  let (segment, _, params) := partition ';' last
  (before ++ (if slash then ['/'] else []) ++ segment, params)

/-- `urlparse`: the parts of `urlsplit` with the parameters cut off the path. -/
def urlparse (tables : UnicodeTables) (url defaultScheme : PyStr) :
    Option (SplitResult × PyStr) := do
  let parsed ← urlsplit tables url defaultScheme
  if parsed.scheme ∈ usesParams ∧ ';' ∈ parsed.path then
    return ({ parsed with path := (splitParams parsed.path).1 }, (splitParams parsed.path).2)
  else return (parsed, [])

/-- `urlunparse`. -/
def urlunparse (parts : SplitResult) (params : PyStr) : PyStr :=
  urlunsplit { parts with path := if params ≠ [] then parts.path ++ ';' :: params else parts.path }

/-- The loop over the path segments: `.` is dropped and `..` drops the segment before it. -/
def resolveSegments (resolved : List PyStr) : List PyStr → List PyStr
  | [] => resolved
  | segment :: rest =>
    if segment = ['.', '.'] then resolveSegments resolved.dropLast rest
    else if segment = ['.'] then resolveSegments resolved rest
    else resolveSegments (resolved ++ [segment]) rest

/-- The segments of the joined path before `.` and `..` are resolved. -/
def joinSegments (basePath path : PyStr) : List PyStr :=
  if path.head? = some '/' then path.splitOn '/'
  else
    let baseParts := basePath.splitOn '/'
    let baseParts := if baseParts.getLast? ≠ some [] then baseParts.dropLast else baseParts
    let segments := baseParts ++ path.splitOn '/'
    if segments.length < 2 then segments
    else segments.take 1 ++ (segments.drop 1).dropLast.filter (· ≠ []) ++ [segments.getLastD []]

/-- The path of a reference resolved against the path of its base. -/
def joinPath (basePath path : PyStr) : PyStr :=
  let segments := joinSegments basePath path
  let resolved := resolveSegments [] segments
  let resolved :=
    if segments.getLast? = some ['.'] ∨ segments.getLast? = some ['.', '.'] then resolved ++ [[]]
    else resolved
  let joined := ['/'].intercalate resolved
  if joined = [] then ['/'] else joined

/-- `urljoin(base, url)`; nothing stands for its `ValueError`. -/
def urljoin (tables : UnicodeTables) (base url : PyStr) : Option PyStr :=
  if base = [] then some url
  else if url = [] then some base
  else do
    let (baseParts, baseParams) ← urlparse tables base []
    let (parts, params) ← urlparse tables url baseParts.scheme
    if parts.scheme ≠ baseParts.scheme ∨ parts.scheme ∉ usesRelative then return url
    else if parts.scheme ∈ usesNetloc ∧ parts.netloc ≠ [] then return urlunparse parts params
    else
      let netloc := if parts.scheme ∈ usesNetloc then baseParts.netloc else parts.netloc
      if parts.path = [] ∧ params = [] then
        return urlunparse { parts with
          netloc := netloc, path := baseParts.path,
          query := if parts.query = [] then baseParts.query else parts.query } baseParams
      else
        return urlunparse { parts with
          netloc := netloc, path := joinPath baseParts.path parts.path } params

/-! ### What splitting guarantees -/

/-- A scheme: it starts with a letter and consists of scheme characters. -/
def IsScheme (scheme : PyStr) : Prop :=
  (∃ c rest, scheme = c :: rest ∧ c.isAlpha = true) ∧ ∀ c ∈ scheme, isSchemeChar c = true

/-- A colon is no scheme character. -/
theorem IsScheme.colon_notMem {scheme : PyStr} (hscheme : IsScheme scheme) : ':' ∉ scheme :=
  fun hmem ↦ absurd (hscheme.2 ':' hmem) (by decide)

/-- A scheme character is an ASCII character. -/
theorem isSchemeChar_ascii {c : Char} (hscheme : isSchemeChar c = true) : c.toNat < 0x80 := by
  delta isSchemeChar Char.isAlphanum Char.isAlpha Char.isUpper Char.isLower
    Char.isDigit at hscheme
  simp only [Bool.or_eq_true, Bool.and_eq_true, decide_eq_true_eq, beq_iff_eq,
    UInt32.le_iff_toNat_le] at hscheme
  rcases hscheme with (((((_ | _) | _) | rfl) | rfl) | rfl)
  all_goals first | decide | exact Nat.lt_of_le_of_lt (And.right ‹_›) (by decide)

/-- Lowering an ASCII letter gives a letter, and lowering a scheme character a scheme
character. -/
theorem isAlpha_isSchemeChar_toLower {c : Char} (hscheme : isSchemeChar c = true) :
    (c.isAlpha = true → c.toLower.isAlpha = true) ∧ isSchemeChar c.toLower = true :=
  of_forall_ascii (fun c ↦ isSchemeChar c = true →
    (c.isAlpha = true → c.toLower.isAlpha = true) ∧ isSchemeChar c.toLower = true) (by decide)
      (isSchemeChar_ascii hscheme) hscheme

/-- The scheme that splitting finds is the default one or a scheme. -/
theorem splitScheme_fst (defaultScheme url : PyStr) :
    (splitScheme defaultScheme url).1 = defaultScheme ∨
      IsScheme (splitScheme defaultScheme url).1 := by
  unfold splitScheme
  split
  case h_1 c scheme rest _ =>
    split_ifs with hscheme
    · obtain ⟨halpha, hchars⟩ := hscheme
      have hchars : ∀ d ∈ c :: scheme, isSchemeChar d = true := List.all_eq_true.mp hchars
      refine Or.inr ⟨⟨c.toLower, scheme.map Char.toLower, rfl, ?_⟩, ?_⟩
      · exact (isAlpha_isSchemeChar_toLower (hchars c List.mem_cons_self)).1 halpha
      · intro d hd
        obtain ⟨original, horiginal, rfl⟩ := List.mem_map.mp hd
        exact (isAlpha_isSchemeChar_toLower (hchars original horiginal)).2
    · exact Or.inl rfl
  case h_2 => exact Or.inl rfl

/-- A URL whose scheme is written in front of it is split there. -/
theorem splitScheme_append {scheme : PyStr} (hscheme : IsScheme scheme)
    (defaultScheme rest : PyStr) :
    splitScheme defaultScheme (scheme ++ ':' :: rest) = (scheme.map Char.toLower, rest) := by
  obtain ⟨⟨c, others, rfl, halpha⟩, hchars⟩ := id hscheme
  rw [splitScheme, partition_append_cons hscheme.colon_notMem]
  exact if_pos ⟨halpha, List.all_eq_true.mpr hchars⟩

/-- A character that is none of three does not end an authority. -/
theorem isNetlocEnd_eq_false {c : Char} (hslash : c ≠ '/') (hquestion : c ≠ '?')
    (hhash : c ≠ '#') : isNetlocEnd c = false := by
  simp only [isNetlocEnd, Bool.or_eq_false_iff, beq_eq_false_iff_ne]
  exact ⟨⟨hslash, hquestion⟩, hhash⟩

/-- The authority that splitting finds ends before the first slash, question mark or hash. -/
theorem isNetlocEnd_of_mem_splitNetloc {url : PyStr} {c : Char}
    (hmem : c ∈ (splitNetloc url).1) : isNetlocEnd c = false := by
  unfold splitNetloc at hmem
  split at hmem
  · simpa using List.mem_takeWhile_imp hmem
  · exact absurd hmem List.not_mem_nil

/-- The parts that splitting returns: the scheme is the default one or a scheme, and the authority
holds no character that ends it. -/
theorem urlsplit_eq_some {tables : UnicodeTables} {url defaultScheme : PyStr}
    {parsed : SplitResult} (hsplit : urlsplit tables url defaultScheme = some parsed) :
    (parsed.scheme = defaultScheme ∨ IsScheme parsed.scheme) ∧
      ∀ c ∈ parsed.netloc, isNetlocEnd c = false := by
  unfold urlsplit at hsplit
  dsimp only at hsplit
  split_ifs at hsplit
  obtain rfl := Option.some.inj hsplit
  exact ⟨splitScheme_fst defaultScheme (sanitize url), fun c ↦ isNetlocEnd_of_mem_splitNetloc⟩

/-! ### The host of a URL text -/

/-- The host that a URL text names: the host of the authority behind its double slash. -/
def writtenHost (url : PyStr) : PyStr := (hostinfo (splitNetloc (splitScheme [] url).2).1).1

/-- The authority of a text that starts with a double slash. -/
theorem splitNetloc_append {netloc rest : PyStr} (hnetloc : ∀ c ∈ netloc, isNetlocEnd c = false)
    (hrest : ∀ c, rest.head? = some c → isNetlocEnd c = true) :
    splitNetloc ('/' :: '/' :: netloc ++ rest) = (netloc, rest) := by
  have hkept : ∀ c ∈ netloc, (!isNetlocEnd c) = true := fun c hc ↦ by simp [hnetloc c hc]
  have htake : rest.takeWhile (!isNetlocEnd ·) = [] ∧ rest.dropWhile (!isNetlocEnd ·) = rest := by
    cases rest with
    | nil => exact ⟨rfl, rfl⟩
    | cons c tail => simp [hrest c rfl]
  simp only [List.cons_append, splitNetloc, List.takeWhile_append_of_pos hkept,
    List.dropWhile_append_of_pos hkept, htake, List.append_nil]

/-- A URL put together with a scheme and an authority names the host of the authority. -/
theorem writtenHost_urlunsplit {scheme netloc : PyStr} (hscheme : IsScheme scheme)
    (hne : netloc ≠ []) (hnetloc : ∀ c ∈ netloc, isNetlocEnd c = false)
    (path query fragment : PyStr) :
    writtenHost (urlunsplit ⟨scheme, netloc, path, query, fragment⟩) = (hostinfo netloc).1 := by
  obtain ⟨c, others, hcons, -⟩ := hscheme.1
  have hschemeNe : scheme ≠ [] := hcons ▸ List.cons_ne_nil c others
  -- what follows the authority is empty or starts with a character that ends it
  have htext : ∃ rest,
      urlunsplit ⟨scheme, netloc, path, query, fragment⟩ =
        scheme ++ ':' :: ('/' :: '/' :: netloc ++ rest)
      ∧ ∀ d, rest.head? = some d → isNetlocEnd d = true := by
    refine ⟨(if path ≠ [] ∧ path.head? ≠ some '/' then '/' :: path
      else path) ++ ((if query ≠ [] then '?' :: query else []) ++
        if fragment ≠ [] then '#' :: fragment else []), ?_, ?_⟩
    · simp only [urlunsplit, joinNetloc, if_pos hschemeNe, if_pos hne, List.append_assoc,
        List.cons_append, List.nil_append]
    · intro d hd
      rw [List.head?_append, List.head?_append, Option.or_eq_some_iff, Option.or_eq_some_iff] at hd
      have hdelimiter : d = '/' ∨ d = '?' ∨ d = '#' := by
        rcases hd with hpath | ⟨-, hquery | ⟨-, hfragment⟩⟩
        · refine Or.inl ?_
          split_ifs at hpath with hslash
          · exact (Option.some.inj hpath).symm
          · by_cases hempty : path = []
            · rw [hempty] at hpath
              exact absurd hpath (Option.some_ne_none d).symm
            · by_contra hother
              exact hslash ⟨hempty, fun hhead ↦ hother (Option.some.inj (hpath.symm.trans hhead))⟩
        · split_ifs at hquery
          · exact Or.inr (Or.inl (Option.some.inj hquery).symm)
          · exact absurd hquery (Option.some_ne_none d).symm
        · split_ifs at hfragment
          · exact Or.inr (Or.inr (Option.some.inj hfragment).symm)
          · exact absurd hfragment (Option.some_ne_none d).symm
      rcases hdelimiter with rfl | rfl | rfl <;> rfl
  obtain ⟨rest, htext, hrest⟩ := htext
  rw [writtenHost, htext, splitScheme_append hscheme, splitNetloc_append hnetloc hrest]

/-- Sanitizing a text that starts with a scheme and an authority removes characters behind these
only. -/
theorem sanitize_append {scheme netloc : PyStr} (hscheme : IsScheme scheme)
    (hsafe : ∀ c ∈ netloc, c ∉ unsafeCharacters) (rest : PyStr) :
    sanitize (scheme ++ ':' :: ('/' :: '/' :: netloc ++ rest)) =
      scheme ++ ':' :: ('/' :: '/' :: netloc ++ rest.filter (· ∉ unsafeCharacters)) := by
  have hschemeSafe : ∀ c ∈ scheme, c ∉ unsafeCharacters := by
    intro c hc hunsafe
    have hnone : ∀ d ∈ unsafeCharacters, isSchemeChar d = false :=
      List.forall_iff_forall_mem.mp (by decide)
    exact absurd (hscheme.2 c hc) (by rw [hnone c hunsafe]; exact Bool.false_ne_true)
  have hkept : ∀ {text : PyStr}, (∀ c ∈ text, c ∉ unsafeCharacters) →
      text.filter (· ∉ unsafeCharacters) = text :=
    fun htext ↦ List.filter_eq_self.mpr fun c hc ↦ decide_eq_true (htext c hc)
  obtain ⟨⟨c, others, rfl, halpha⟩, -⟩ := id hscheme
  have hletter : ¬ isC0ControlOrSpace c = true := by
    intro hcontrol
    have hascii : c.toNat < 0x80 := Nat.lt_of_le_of_lt (of_decide_eq_true hcontrol) (by decide)
    exact of_forall_ascii (fun c ↦ c.isAlpha = true → ¬ isC0ControlOrSpace c = true) (by decide)
      hascii halpha hcontrol
  have hmiddle : ∀ d ∈ ':' :: '/' :: '/' :: netloc, d ∉ unsafeCharacters := by
    have hdelimiters : ∀ d ∈ [':', '/'], d ∉ unsafeCharacters :=
      List.forall_iff_forall_mem.mp (by decide)
    intro d hd
    rcases List.mem_cons.mp hd with rfl | hd
    · exact hdelimiters ':' (by decide)
    rcases List.mem_cons.mp hd with rfl | hd
    · exact hdelimiters '/' (by decide)
    rcases List.mem_cons.mp hd with rfl | hd
    · exact hdelimiters '/' (by decide)
    exact hsafe d hd
  unfold sanitize
  rw [List.cons_append, List.dropWhile_cons_of_neg hletter, ← List.cons_append,
    List.filter_append, hkept hschemeSafe]
  change _ ++ ((':' :: '/' :: '/' :: netloc) ++ rest).filter _ = _
  rw [List.filter_append, hkept hmiddle]
  rfl

/-- Splitting a URL that starts with a scheme and an authority: the authority is found if it passes
the checks. -/
theorem urlsplit_append {tables : UnicodeTables} {scheme netloc rest : PyStr}
    (hscheme : IsScheme scheme) (hsafe : ∀ c ∈ netloc, c ∉ unsafeCharacters)
    (hnetloc : ∀ c ∈ netloc, isNetlocEnd c = false)
    (hrest : ∀ c, rest.head? = some c → isNetlocEnd c = true)
    (hbrackets : checkBrackets netloc = true) (hcheck : checkNetloc tables netloc = true) :
    ∃ path query fragment, urlsplit tables (scheme ++ ':' :: ('/' :: '/' :: netloc ++ rest)) [] =
      some ⟨scheme.map Char.toLower, netloc, path, query, fragment⟩ := by
  have hkept : ∀ c, (rest.filter (· ∉ unsafeCharacters)).head? = some c → isNetlocEnd c = true := by
    cases rest with
    | nil => exact fun c hc ↦ nomatch hc
    | cons first others =>
      have hfirst := hrest first rfl
      have hstays : first ∉ unsafeCharacters := by
        have hnone : ∀ d ∈ unsafeCharacters, isNetlocEnd d = false :=
          List.forall_iff_forall_mem.mp (by decide)
        exact fun hunsafe ↦ absurd hfirst (by rw [hnone first hunsafe]; exact Bool.false_ne_true)
      intro c hc
      rw [List.filter_cons, if_pos (decide_eq_true hstays), List.head?_cons] at hc
      exact Option.some.inj hc ▸ hfirst
  unfold urlsplit
  rw [sanitize_append hscheme hsafe, splitScheme_append hscheme]
  dsimp only
  rw [splitNetloc_append hnetloc hkept]
  dsimp only
  rw [if_neg (not_not.mpr hbrackets), if_neg (not_not.mpr hcheck)]
  exact ⟨_, _, _, rfl⟩

/-- The text of the port in what follows the host of an authority. -/
def portText (afterHost : PyStr) : Option PyStr :=
  if (partition ':' afterHost).2.2 = [] then none else some (partition ':' afterHost).2.2

/-- The host and the port of an authority with a bracketed host. -/
theorem hostinfo_bracketed {host rest : PyStr} (hhost : '@' ∉ host) (hbracket : ']' ∉ host)
    (hrest : '@' ∉ rest) : hostinfo ('[' :: host ++ ']' :: rest) = (host, portText rest) := by
  have hat : '@' ∉ '[' :: host ++ ']' :: rest := by simp [hhost, hrest]
  have hopen : partition '[' ('[' :: host ++ ']' :: rest) = ([], true, host ++ ']' :: rest) := rfl
  simp only [hostinfo, rpartition_of_notMem hat, hopen, partition_append_cons hbracket, portText]

/-- The host and the port of an authority without brackets: what stands before a colon and behind
it. -/
theorem hostinfo_plain {host rest : PyStr} (hhost : '@' ∉ host) (hbracket : '[' ∉ host)
    (hcolon : ':' ∉ host) (hat : '@' ∉ rest) (hopen : '[' ∉ rest)
    (hrest : ∀ c, rest.head? = some c → c = ':') :
    hostinfo (host ++ rest) = (host, portText rest) := by
  have hwholeAt : '@' ∉ host ++ rest := by simp [hhost, hat]
  have hwholeOpen : '[' ∉ host ++ rest := by simp [hbracket, hopen]
  simp only [hostinfo, rpartition_of_notMem hwholeAt, partition_of_notMem hwholeOpen, portText]
  cases rest with
  | nil => rw [List.append_nil, partition_of_notMem hcolon]; rfl
  | cons c tail =>
    obtain rfl := hrest c rfl
    rw [partition_append_cons hcolon]
    rfl

/-- The host of an authority holds neither an at sign nor a closing bracket behind an opening one,
and it holds a colon only in brackets. -/
theorem hostinfo_fst (netloc : PyStr) :
    (∀ c ∈ (hostinfo netloc).1, c ∈ netloc) ∧ '@' ∉ (hostinfo netloc).1 ∧
      (':' ∈ (hostinfo netloc).1 → ']' ∉ (hostinfo netloc).1) := by
  have hat := notMem_rpartition_snd '@' netloc
  have hsub : ∀ c ∈ (rpartition '@' netloc).2.2, c ∈ netloc :=
    fun c ↦ mem_of_mem_rpartition_snd
  unfold hostinfo
  generalize (rpartition '@' netloc).2.2 = hostAndPort at hat hsub ⊢
  rcases partition_cases '[' hostAndPort with ⟨-, heq⟩ | ⟨before, after, rfl, -, heq⟩
  · simp only [heq]
    refine ⟨fun c hc ↦ hsub c (mem_of_mem_partition_fst hc),
      fun hc ↦ hat (mem_of_mem_partition_fst hc), fun hcolon ↦ ?_⟩
    exact absurd hcolon (notMem_partition_fst ':' hostAndPort)
  · simp only [heq]
    have hafter : ∀ c ∈ (partition ']' after).1, c ∈ before ++ '[' :: after := fun c hc ↦
      List.mem_append_right _ (List.mem_cons_of_mem _ (mem_of_mem_partition_fst hc))
    exact ⟨fun c hc ↦ hsub c (hafter c hc), fun hc ↦ hat (hafter _ hc),
      fun _ ↦ notMem_partition_fst ']' after⟩

end PingGuard.Library.UrlSplit
