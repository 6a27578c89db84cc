import PingGuard.Library.AuthorityUrl
import PingGuard.Schemas

/-!
# Joining a URL and a path

`safe_join_url` of `app/urls.py` works on the texts: it strips slashes off the end of the base URL
and puts the path behind. On a URL with an authority it is an operation on what follows the
authority (`safeJoinUrl_text`), so the joined URL has the scheme and the authority of the base,
whatever the path.

Its path is the one asked for if the base URL has neither a query nor a fragment. Behind one of
these the path becomes part of it, and the request goes to the path of the base URL. Tabs and line
breaks in the path are no characters to `urlsplit`: it sees two slashes where they stand between
two (`safeJoinUrl_addresses_iff`).
-/

set_option autoImplicit false
set_option relaxedAutoImplicit false

namespace PingGuard.Urls

open Library.PyText Library.UrlSplit Models Schemas

/-- `text.rstrip("/")`. -/
def rstripSlash (text : PyStr) : PyStr := text.rdropWhile (· == '/')

/-- `text.lstrip("/")`. -/
def lstripSlash (text : PyStr) : PyStr := text.dropWhile (· == '/')

/-- `safe_join_url`. -/
def safeJoinUrl (baseUrl : PyStr) (path : Option PyStr) : PyStr :=
  match path with
  | none => baseUrl
  | some path =>
    if path = [] ∨ strip path = [] then baseUrl
    else rstripSlash baseUrl ++ '/' :: lstripSlash (strip path)

/-! ### Joining keeps the authority -/

/-- Stripping slashes off the end stops at another character. -/
theorem rstripSlash_append_cons {c : Char} (hslash : c ≠ '/') (before after : PyStr) :
    rstripSlash (before ++ c :: after) = before ++ c :: rstripSlash after := by
  have hkept : (c == '/') = false := beq_eq_false_iff_ne.mpr hslash
  exact @rdropWhile_append_cons (· == '/') c hkept before after

/-- What is left of a text starts it. -/
theorem rstripSlash_isPrefix (text : PyStr) : rstripSlash text <+: text :=
  List.rdropWhile_prefix _ _

/-- What follows the authority of a joined URL. -/
def joinRest (rest path : PyStr) : PyStr := rstripSlash rest ++ '/' :: lstripSlash (strip path)

/-- What follows the authority of a joined URL starts with a character that ends it. -/
theorem isNetlocEnd_of_head?_joinRest {rest path : PyStr}
    (hrest : ∀ c, rest.head? = some c → isNetlocEnd c = true) (c : Char)
    (hhead : (joinRest rest path).head? = some c) : isNetlocEnd c = true := by
  rw [joinRest, List.head?_append, Option.or_eq_some_iff] at hhead
  rcases hhead with hstripped | ⟨-, hslash⟩
  · obtain ⟨dropped, hdropped⟩ := rstripSlash_isPrefix rest
    refine hrest c ?_
    rw [← hdropped, List.head?_append, hstripped]
    rfl
  · obtain rfl := Option.some.inj hslash
    rfl

/-- The URL with a path joined to it. -/
def joinedUrl (base : AuthorityUrl) (path : PyStr) : AuthorityUrl :=
  { base with
    rest := joinRest base.rest path
    rest_head := isNetlocEnd_of_head?_joinRest base.rest_head }

/-- Slashes are stripped off the end of what follows the authority. -/
theorem rstripSlash_text (base : AuthorityUrl) :
    rstripSlash base.text =
      base.scheme ++ ':' :: ('/' :: '/' :: base.authority ++ rstripSlash base.rest) := by
  obtain ⟨others, last, hauthority⟩ :=
    (List.eq_nil_or_concat' base.authority).resolve_left base.authority_ne
  have hslash : last ≠ '/' := by
    rintro rfl
    have hend := base.authority_end '/' (by rw [hauthority]; simp)
    exact Bool.noConfusion hend
  have hcut (after : PyStr) : base.scheme ++ ':' :: ('/' :: '/' :: base.authority ++ after) =
      (base.scheme ++ ':' :: '/' :: '/' :: others) ++ last :: after := by
    rw [hauthority]
    simp
  rw [AuthorityUrl.text, hcut, hcut, rstripSlash_append_cons hslash]

/-- On a URL with an authority, joining changes what follows the authority only. -/
theorem safeJoinUrl_text (base : AuthorityUrl) (path : PyStr) :
    safeJoinUrl base.text (some path) =
      if path = [] ∨ strip path = [] then base.text else (joinedUrl base path).text := by
  have hjoined : rstripSlash base.text ++ '/' :: lstripSlash (strip path) =
      (joinedUrl base path).text := by
    rw [rstripSlash_text, List.append_assoc, List.cons_append, List.append_assoc]
    rfl
  rw [safeJoinUrl, hjoined]

/-- Whatever the path, the joined URL is one with the scheme and the authority of the base. -/
theorem exists_joined (base : AuthorityUrl) (path : Option PyStr) :
    ∃ joined : AuthorityUrl, safeJoinUrl base.text path = joined.text ∧
      joined.scheme = base.scheme ∧ joined.authority = base.authority := by
  cases path with
  | none => exact ⟨base, rfl, rfl, rfl⟩
  | some path =>
    rw [safeJoinUrl_text]
    split_ifs
    · exact ⟨base, rfl, rfl, rfl⟩
    · exact ⟨joinedUrl base path, rfl, rfl, rfl⟩

/-- Whatever the path, the joined URL is accepted exactly when the base is, with the same scheme
and the same authority. -/
theorem safeJoinUrl_keeps_authority (tables : UnicodeTables) (base : AuthorityUrl)
    (path : Option PyStr) :
    (urlsplit tables (safeJoinUrl base.text path) []).map
        (fun parsed ↦ (parsed.scheme, parsed.netloc)) =
      (urlsplit tables base.text []).map fun parsed ↦ (parsed.scheme, parsed.netloc) := by
  obtain ⟨joined, hjoined, hscheme, hauthority⟩ := exists_joined base path
  rw [hjoined]
  exact AuthorityUrl.urlsplit_text_congr hscheme hauthority

/-! ### The endpoint that is addressed -/

/-- The path of a URL text, as `urlsplit` reads it (`urlsplit_eq_written`). -/
def pathOf (url : PyStr) : PyStr := (written (sanitize url)).path

/-- The path part of a relative reference, as `urlsplit` reads it. -/
def pathPart (path : PyStr) : PyStr := (writtenTail (cleaned path)).1

/-- A joined URL addresses the path asked for below the path of the base URL: its path is put
together from the two with one slash in between. -/
structure AddressesEndpoint (baseUrl path joined : PyStr) : Prop where
  path_eq : pathOf joined = rstripSlash (pathOf baseUrl) ++ pathPart (strip path)
  front : (rstripSlash (pathOf baseUrl)).getLast? ≠ some '/'
  back : ∃ below, pathPart (strip path) = '/' :: below ∧ below.head? ≠ some '/'

/-- A path that `validate_relative_path` accepts has one slash in front. -/
theorem validateRelativePath_eq_none {path : PyStr}
    (haccepted : validateRelativePath (some path) = none) :
    ∃ below, path = '/' :: below ∧ below.head? ≠ some '/' := by
  unfold validateRelativePath at haccepted
  dsimp only at haccepted
  split_ifs at haccepted with hhead hrelative
  cases path with
  | nil => exact absurd hhead (by simp)
  | cons c below =>
    obtain rfl : c = '/' := by simpa using hhead
    refine ⟨below, rfl, fun hslash ↦ (not_or.mp hrelative).1 ?_⟩
    cases below with
    | nil => exact absurd hslash (by simp)
    | cons d rest =>
      obtain rfl : d = '/' := by simpa using hslash
      rfl

/-- Nor does it get another slash there by being stripped. -/
theorem strip_of_accepted {path : PyStr} (haccepted : validateRelativePath (some path) = none) :
    ∃ below, strip path = '/' :: below ∧ below.head? ≠ some '/' := by
  obtain ⟨below, rfl, hhead⟩ := validateRelativePath_eq_none haccepted
  refine ⟨below.rdropWhile isSpace, strip_cons rfl below, fun hslash ↦ hhead ?_⟩
  obtain ⟨dropped, hdropped⟩ := List.rdropWhile_prefix isSpace below
  rw [← hdropped, List.head?_append, hslash]
  rfl

/-- What is left of a text without slashes at its end does not end with one. -/
theorem getLast?_rstripSlash (text : PyStr) : (rstripSlash text).getLast? ≠ some '/' := by
  intro hlast
  have hne : text.rdropWhile (· == '/') ≠ [] := by
    intro hempty
    rw [rstripSlash, hempty] at hlast
    exact absurd hlast (by simp)
  have hnot := List.rdropWhile_last_not (· == '/') text hne
  rw [rstripSlash, List.getLast?_eq_some_getLast hne] at hlast
  exact hnot (beq_iff_eq.mpr (Option.some.inj hlast))

/-- A text is put together from what is left without the slashes at its end, and slashes. -/
theorem eq_rstripSlash_append (text : PyStr) :
    ∃ slashes, text = rstripSlash text ++ slashes ∧ ∀ c ∈ slashes, c = '/' := by
  refine ⟨text.rtakeWhile (· == '/'), List.rdropWhile_append_rtakeWhile.symm, ?_⟩
  intro c hc
  have hslash := List.mem_rtakeWhile_imp hc
  exact beq_iff_eq.mp hslash

/-- A path that is accepted is joined as it is stripped. -/
theorem safeJoinUrl_of_accepted (base : AuthorityUrl) {path : PyStr}
    (haccepted : validateRelativePath (some path) = none) :
    safeJoinUrl base.text (some path) = (joinedUrl base path).text ∧
      (joinedUrl base path).rest = rstripSlash base.rest ++ strip path := by
  obtain ⟨below, hstrip, hhead⟩ := strip_of_accepted haccepted
  have hne : ¬ (path = [] ∨ strip path = []) := by
    rintro (rfl | hempty)
    · exact absurd hstrip (by simp [strip])
    · rw [hempty] at hstrip
      exact absurd hstrip (by simp)
  have hlstrip : lstripSlash (strip path) = below := by
    rw [hstrip, lstripSlash, List.dropWhile_cons_of_pos (by simp)]
    cases below with
    | nil => rfl
    | cons c rest =>
      have hslash : c ≠ '/' := fun heq ↦ hhead (by rw [heq, List.head?_cons])
      exact List.dropWhile_cons_of_neg (by simpa using hslash)
  refine ⟨(safeJoinUrl_text base path).trans (if_neg hne), ?_⟩
  change rstripSlash base.rest ++ '/' :: lstripSlash (strip path) = _
  rw [hlstrip, hstrip]

/-- The path of a URL with an authority. -/
theorem pathOf_text (url : AuthorityUrl) :
    pathOf url.text = (cleaned url.rest).takeWhile (!isPathEnd ·) := by
  rw [pathOf, AuthorityUrl.written_sanitize_text]
  exact writtenTail_fst (cleaned url.rest)

/-- The path of a joined URL, for a base without tabs and line breaks behind its authority. -/
theorem pathOf_joined {base : AuthorityUrl} (hclean : ∀ c ∈ base.rest, c ∉ unsafeCharacters)
    {path : PyStr} (haccepted : validateRelativePath (some path) = none) :
    pathOf (safeJoinUrl base.text (some path)) =
      (rstripSlash base.rest ++ cleaned (strip path)).takeWhile (!isPathEnd ·) := by
  obtain ⟨hjoined, hrest⟩ := safeJoinUrl_of_accepted base haccepted
  have hkept : cleaned (rstripSlash base.rest) = rstripSlash base.rest :=
    cleaned_of_forall fun c hc ↦ hclean c ((rstripSlash_isPrefix _).subset hc)
  rw [hjoined, pathOf_text, hrest, cleaned, List.filter_append]
  exact congrArg (fun rest ↦ (rest ++ cleaned (strip path)).takeWhile (!isPathEnd ·)) hkept

/-- The path of a joined URL whose base has neither a query nor a fragment. -/
theorem pathOf_joined_of_plain {base : AuthorityUrl}
    (hclean : ∀ c ∈ base.rest, c ∉ unsafeCharacters) {path : PyStr}
    (haccepted : validateRelativePath (some path) = none)
    (hplain : ∀ c ∈ base.rest, isPathEnd c = false) :
    pathOf (safeJoinUrl base.text (some path)) =
      rstripSlash (pathOf base.text) ++ pathPart (strip path) := by
  have hkept : ∀ c ∈ base.rest, (!isPathEnd c) = true := fun c hc ↦ by simp [hplain c hc]
  have hpath : base.rest.takeWhile (!isPathEnd ·) = base.rest :=
    List.takeWhile_eq_self_iff.mpr hkept
  rw [pathOf_joined hclean haccepted, pathOf_text, cleaned_of_forall hclean, hpath, pathPart,
    writtenTail_fst]
  exact List.takeWhile_append_of_pos fun c hc ↦ hkept c ((rstripSlash_isPrefix _).subset hc)

/-- The path of a joined URL whose base has a query or a fragment is the path of the base. -/
theorem pathOf_joined_of_end {base : AuthorityUrl}
    (hclean : ∀ c ∈ base.rest, c ∉ unsafeCharacters) {path : PyStr}
    (haccepted : validateRelativePath (some path) = none) {before after : PyStr} {c : Char}
    (hsplit : base.rest = before ++ c :: after) (hbefore : ∀ d ∈ before, isPathEnd d = false)
    (hend : isPathEnd c = true) :
    pathOf (safeJoinUrl base.text (some path)) = pathOf base.text := by
  have hkept : ∀ d ∈ before, (!isPathEnd d) = true := fun d hd ↦ by simp [hbefore d hd]
  have hslash : c ≠ '/' := by
    rintro rfl
    exact Bool.noConfusion hend
  have htake (rest : PyStr) : (before ++ c :: rest).takeWhile (!isPathEnd ·) = before := by
    rw [List.takeWhile_append_of_pos hkept, List.takeWhile_cons_of_neg (by simp [hend]),
      List.append_nil]
  rw [pathOf_joined hclean haccepted, pathOf_text, cleaned_of_forall hclean, hsplit,
    rstripSlash_append_cons hslash, List.append_assoc, List.cons_append, htake, htake]

/-- Cleaning up keeps a slash in front. -/
theorem cleaned_slash (text : PyStr) : cleaned ('/' :: text) = '/' :: cleaned text := rfl

/-- A text starts with two slashes if what follows the first one starts with the second. -/
theorem slashes_isPrefix_iff (text : PyStr) :
    "//".toList <+: '/' :: text ↔ text.head? = some '/' := by
  change '/' :: ['/'] <+: '/' :: text ↔ _
  cases text with
  | nil => simp
  | cons c tail => simp [List.cons_prefix_cons, eq_comm]

/-- Blanks at the end of a text do not make a slash its first character. -/
theorem head?_cleaned_rdropWhile (text : PyStr) :
    (cleaned (text.rdropWhile isSpace)).head? = some '/' ↔ (cleaned text).head? = some '/' := by
  have hcut : cleaned text =
      cleaned (text.rdropWhile isSpace) ++ cleaned (text.rtakeWhile isSpace) := by
    rw [cleaned, cleaned, cleaned, ← List.filter_append, List.rdropWhile_append_rtakeWhile]
  have hblank : (cleaned (text.rtakeWhile isSpace)).head? ≠ some '/' := fun hslash ↦
    have hspace : isSpace '/' = true :=
      List.mem_rtakeWhile_imp (List.mem_of_mem_filter (List.mem_of_head? hslash))
    Bool.noConfusion hspace
  rw [hcut, List.head?_append, Option.or_eq_some_iff]
  exact (or_iff_left fun hnone ↦ hblank hnone.2).symm

/-- The path part of an accepted path has a slash in front, and a second one exactly if the path
does once it is cleaned up. -/
theorem pathPart_of_accepted {path : PyStr}
    (haccepted : validateRelativePath (some path) = none) :
    ∃ below, pathPart (strip path) = '/' :: below ∧
      (below.head? = some '/' ↔ "//".toList <+: cleaned path) := by
  obtain ⟨tail, rfl, -⟩ := validateRelativePath_eq_none haccepted
  refine ⟨(cleaned (tail.rdropWhile isSpace)).takeWhile (!isPathEnd ·), ?_, ?_⟩
  · rw [pathPart, writtenTail_fst, strip_cons rfl, cleaned_slash]
    exact List.takeWhile_cons_of_pos rfl
  · have hpath : (!isPathEnd '/') = true := rfl
    rw [cleaned_slash, slashes_isPrefix_iff, ← head?_cleaned_rdropWhile, List.head?_takeWhile,
      Option.filter_eq_some_iff]
    exact and_iff_left hpath

/-- A text is a slash longer than without the slashes at its end, if it is put together from what is
left and a text that starts with one slash. -/
theorem eq_slash_of_append {text below : PyStr} (hhead : below.head? ≠ some '/')
    (heq : text = rstripSlash text ++ '/' :: below) : below = [] := by
  obtain ⟨slashes, happend, hall⟩ := eq_rstripSlash_append text
  have hslashes : '/' :: below = slashes := List.append_cancel_left (heq.symm.trans happend)
  cases below with
  | nil => rfl
  | cons c rest =>
    obtain rfl := hall c (hslashes ▸ List.mem_cons_of_mem _ List.mem_cons_self)
    exact absurd rfl hhead

/-- A joined URL addresses the endpoint exactly when the path that is joined has one slash in front,
also without its tabs and line breaks, and either the base URL has neither a query nor a fragment,
or its path is only a slash longer than without slashes at its end and the path that is joined is
that slash. The text of a base URL, as it is normalised, has no tabs and line breaks. -/
theorem safeJoinUrl_addresses_iff (base : AuthorityUrl)
    (hclean : ∀ c ∈ base.rest, c ∉ unsafeCharacters) {path : PyStr}
    (haccepted : validateRelativePath (some path) = none) :
    AddressesEndpoint base.text path (safeJoinUrl base.text (some path)) ↔
      ¬ "//".toList <+: cleaned path ∧
        (('?' ∉ base.rest ∧ '#' ∉ base.rest) ∨
          (pathOf base.text = rstripSlash (pathOf base.text) ++ ['/'] ∧
            pathPart (strip path) = ['/'])) := by
  obtain ⟨below, hbelow, hslashes⟩ := pathPart_of_accepted haccepted
  have hpath : AddressesEndpoint base.text path (safeJoinUrl base.text (some path)) ↔
      ¬ "//".toList <+: cleaned path ∧ pathOf (safeJoinUrl base.text (some path)) =
        rstripSlash (pathOf base.text) ++ pathPart (strip path) := by
    constructor
    · rintro ⟨heq, -, below', hbelow', hhead⟩
      obtain rfl := (List.cons.inj (hbelow.symm.trans hbelow')).2
      exact ⟨fun hprefix ↦ hhead (hslashes.mpr hprefix), heq⟩
    · rintro ⟨hone, heq⟩
      exact ⟨heq, getLast?_rstripSlash _, below, hbelow, fun hhead ↦ hone (hslashes.mp hhead)⟩
  rw [hpath]
  refine and_congr_right fun hone ↦ ?_
  by_cases hplain : ∃ c ∈ base.rest, isPathEnd c = true
  · obtain ⟨d, hd, hdEnd⟩ := hplain
    obtain ⟨c, hfind⟩ := Option.isSome_iff_exists.mp (List.find?_isSome.mpr ⟨d, hd, hdEnd⟩)
    obtain ⟨hend, before, after, hsplit, hbefore⟩ := List.find?_eq_some_iff_append.mp hfind
    have hnot : ¬ ('?' ∉ base.rest ∧ '#' ∉ base.rest) := by
      rintro ⟨hquestion, hhash⟩
      rcases Bool.or_eq_true_iff.mp hdEnd with heq | heq
      · exact hquestion (beq_iff_eq.mp heq ▸ hd)
      · exact hhash (beq_iff_eq.mp heq ▸ hd)
    rw [pathOf_joined_of_end hclean haccepted hsplit (fun e he ↦ by simpa using hbefore e he) hend,
      or_iff_right hnot]
    constructor
    · intro heq
      -- the slashes at the end of the path of the base are the path that is joined
      rw [hbelow] at heq
      have hnil := eq_slash_of_append (fun hhead ↦ hone (hslashes.mp hhead)) heq
      rw [hnil] at heq hbelow
      exact ⟨heq, hbelow⟩
    · rintro ⟨heq, hslash⟩
      rw [hslash]
      exact heq
  · have hnone : ∀ c ∈ base.rest, isPathEnd c = false := fun c hc ↦
      Bool.eq_false_iff.mpr fun hend ↦ hplain ⟨c, hc, hend⟩
    refine iff_of_true (pathOf_joined_of_plain hclean haccepted hnone)
      (Or.inl ⟨fun h ↦ ?_, fun h ↦ ?_⟩)
    · exact Bool.noConfusion (hnone _ h)
    · exact Bool.noConfusion (hnone _ h)

/-! ### Two base URLs -/

/-- A base URL with a path and nothing behind. -/
def apiUrl : AuthorityUrl where
  scheme := "https".toList
  authority := "example.com".toList
  rest := "/api/".toList
  isScheme := ⟨⟨'h', "ttps".toList, rfl, rfl⟩, List.forall_iff_forall_mem.mp (by decide)⟩
  authority_ne := by decide
  authority_end := List.forall_iff_forall_mem.mp (by decide)
  rest_head := fun _ hc ↦ Option.some.inj hc ▸ rfl

/-- A path is joined to it below its path. -/
theorem safeJoinUrl_addresses_apiUrl :
    AddressesEndpoint apiUrl.text "/health".toList
        (safeJoinUrl apiUrl.text (some "/health".toList)) ↔
      ¬ "//".toList <+: cleaned "/health".toList ∧
        (('?' ∉ apiUrl.rest ∧ '#' ∉ apiUrl.rest) ∨
          (pathOf apiUrl.text = rstripSlash (pathOf apiUrl.text) ++ ['/'] ∧
            pathPart (strip "/health".toList) = ['/'])) :=
  safeJoinUrl_addresses_iff apiUrl (List.forall_iff_forall_mem.mp (by decide)) (by decide)

/-- A payload with a keep-alive path. -/
def keepAliveMonitor (url path : PyStr) : MonitorCreate where
  name := "site".toList
  url := ⟨url, "https".toList, none, none, some "example.com".toList⟩
  checkIntervalSeconds := 60
  mode := .monitorAndKeepAlive
  keepAliveEnabled := true
  keepAliveIntervalSeconds := some 60
  keepAlivePath := some path

/-- Two payloads that are accepted, one with a query in its URL and one with a tab in its path. The
keep-alive requests of the first go to the path of its URL, those of the second to a path with two
slashes in the middle. -/
theorem safeJoinUrl_misses_endpoint :
    (keepAliveMonitor "https://example.com/api?x=1".toList "/health".toList).isAccepted
        .caseless = true ∧
      pathOf (safeJoinUrl "https://example.com/api?x=1".toList (some "/health".toList)) =
        "/api".toList ∧
      ¬ AddressesEndpoint "https://example.com/api?x=1".toList "/health".toList
        (safeJoinUrl "https://example.com/api?x=1".toList (some "/health".toList)) ∧
      (keepAliveMonitor "https://example.com/api".toList "/\t/health".toList).isAccepted
        .caseless = true ∧
      pathOf (safeJoinUrl "https://example.com/api".toList (some "/\t/health".toList)) =
        "/api//health".toList ∧
      ¬ AddressesEndpoint "https://example.com/api".toList "/\t/health".toList
        (safeJoinUrl "https://example.com/api".toList (some "/\t/health".toList)) := by
  refine ⟨by decide, by decide, fun haddresses ↦ ?_, by decide, by decide, fun haddresses ↦ ?_⟩
  · exact absurd haddresses.path_eq (by decide)
  · obtain ⟨below, hbelow, hhead⟩ := haddresses.back
    have hpart : pathPart (strip "/\t/health".toList) = '/' :: "/health".toList := by decide
    obtain rfl := (List.cons.inj (hpart.symm.trans hbelow)).2
    exact absurd hhead (by decide)

end PingGuard.Urls
