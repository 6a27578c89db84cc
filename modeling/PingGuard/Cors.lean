import PingGuard.Library.Exceptions
import PingGuard.Library.FirstOccurrence
import PingGuard.Urls

/-!
# Allowed origins

`parse_and_validate_cors_origins` of `app/config.py`. Every entry is trimmed, loses its slashes at
the end, is split as a URL, and is put together again from its scheme and its authority.

The authority is not looked at: it may have a wildcard in it, a user, or blanks, also at its end,
where a slash has hidden them from the trimming. `origins_canonical_iff` says that the result is a
list of canonical origins, which the validator leaves as it is, exactly if no entry has one of
these.
-/

set_option autoImplicit false
set_option relaxedAutoImplicit false

namespace PingGuard.Cors

open Library.Exceptions Library.FirstOccurrence Library.PyText Library.UrlSplit Urls

/-! ### The validator -/

/-- A `ValueError`, given by its text, or the one that `urlsplit` raises. -/
inductive OriginError
  | valueError (text : PyStr)
  | urlsplit
  deriving DecidableEq

/-- The value of the setting. A tuple or a set is a list here, in the order of its iteration. -/
inductive Setting
  | none
  | text (v : PyStr)
  | list (v : List PyStr)
  | other

variable (tables : UnicodeTables)

/-- `urllib.parse.urlsplit(text)`. -/
def urlsplitOrError (text : PyStr) : Except OriginError SplitResult :=
  match urlsplit tables text [] with
  | some parsed => .ok parsed
  | none => .error .urlsplit

/-- One round of the loop: the normalised entry. -/
def validateOrigin (origin : PyStr) : Except OriginError PyStr := do
  raiseIf (origin ∈ ["*".toList, "'*'".toList, "\"*\"".toList])
    (.valueError ("Wildcard origin '*' is not allowed in CORS_ALLOWED_ORIGINS. ".toList ++
      "Specify explicit origin URLs (e.g. http://localhost:3000).".toList))
  let parsed ← urlsplitOrError tables (rstripSlash origin)
  raiseIf (lower tables parsed.scheme ∉ ["http".toList, "https".toList])
    (.valueError ("Invalid CORS origin scheme: '".toList ++ origin ++
      "'. Only HTTP and HTTPS origins are permitted.".toList))
  raiseIf (parsed.netloc = [])
    (.valueError ("Invalid CORS origin: '".toList ++ origin ++
      "'. Must include a host/authority (e.g. http://localhost:3000).".toList))
  raiseIf (parsed.path ≠ [])
    (.valueError ("CORS origin '".toList ++ origin ++
      "' must not contain a path. Specify origin only (e.g. ".toList ++ parsed.scheme ++
      "://".toList ++ parsed.netloc ++ ").".toList))
  raiseIf (parsed.query ≠ [] || parsed.fragment ≠ [])
    (.valueError ("CORS origin '".toList ++ origin ++
      "' must not contain query parameters or fragments.".toList))
  return lower tables parsed.scheme ++ "://".toList ++ parsed.netloc

/-- The loop over the entries. -/
def validateOrigins (rawOrigins : List PyStr) : Except OriginError (List PyStr) :=
  rawOrigins.foldlM
    (fun validated origin ↦ validateOrigin tables origin >>= fun normalized ↦
      pure (appendNew validated normalized)) []

/-- `[item.strip() for item in items if item.strip()]`. -/
def trimmed (items : List PyStr) : List PyStr := (items.map strip).filter (· ≠ [])

/-- `raw_origins`: the entries of a setting. -/
def rawOrigins : Setting → List PyStr
  | .text v => trimmed (v.splitOn ',')
  | .list v => trimmed v
  | .none | .other => []

/-- `parse_and_validate_cors_origins`. -/
def parseAndValidateCorsOrigins (v : Setting) : Except OriginError (List PyStr) :=
  match v with
  | .none | .text [] => .ok []
  | .text _ | .list _ => validateOrigins tables (rawOrigins v)
  | .other =>
    .error (.valueError
      "CORS_ALLOWED_ORIGINS must be a comma-separated string or list of origins".toList)

/-- A setting that is accepted is the outcome of the loop. -/
theorem validateOrigins_of_parse {v : Setting} {origins : List PyStr}
    (hparse : parseAndValidateCorsOrigins tables v = .ok origins) :
    validateOrigins tables (rawOrigins v) = .ok origins := by
  unfold parseAndValidateCorsOrigins at hparse
  split at hparse
  · exact hparse
  · exact hparse
  · exact hparse
  · exact hparse
  · cases hparse

/-! ### One entry -/

variable {tables}

/-- Splitting returns what `urlsplit` finds. -/
theorem urlsplitOrError_eq_ok_iff {text : PyStr} {parsed : SplitResult} :
    urlsplitOrError tables text = .ok parsed ↔ urlsplit tables text [] = some parsed := by
  unfold urlsplitOrError
  split <;> simp [*]

/-- An entry is accepted if it is no wildcard and splits into one of two schemes and an authority
alone. -/
theorem validateOrigin_eq_ok_iff {origin normalized : PyStr} :
    validateOrigin tables origin = .ok normalized ↔
      origin ∉ ["*".toList, "'*'".toList, "\"*\"".toList] ∧
        ∃ parsed, urlsplit tables (rstripSlash origin) [] = some parsed ∧
          lower tables parsed.scheme ∈ ["http".toList, "https".toList] ∧ parsed.netloc ≠ [] ∧
          parsed.path = [] ∧ parsed.query = [] ∧ parsed.fragment = [] ∧
          lower tables parsed.scheme ++ "://".toList ++ parsed.netloc = normalized := by
  unfold validateOrigin
  simp only [bind_eq_ok_iff, raiseIf_eq_ok_iff, urlsplitOrError_eq_ok_iff, pure_eq_ok_iff,
    exists_const, decide_eq_false_iff_not, not_not, Bool.or_eq_false_iff, and_assoc, ne_eq]

/-- The scheme of an accepted text is in lower case. -/
theorem lower_scheme {text : PyStr} {parsed : SplitResult}
    (hsplit : urlsplit tables text [] = some parsed) (hne : parsed.netloc ≠ []) :
    lower tables parsed.scheme = parsed.scheme := by
  have hwritable := isWritable_of_urlsplit hsplit hne
  rcases hwritable.scheme with hempty | hscheme
  · rw [hempty]
    rfl
  · rw [lower_of_ascii fun c hc ↦ isSchemeChar_ascii (hscheme.2 c hc), hwritable.lowercase]

/-- What an entry is accepted as: the text of the parts that it splits into. -/
theorem parts_of_validateOrigin {origin normalized : PyStr}
    (hvalid : validateOrigin tables origin = .ok normalized) :
    ∃ parsed, urlsplit tables (rstripSlash origin) [] = some parsed ∧
      parsed.scheme ∈ ["http".toList, "https".toList] ∧ parsed.netloc ≠ [] ∧
      parsed.path = [] ∧ parsed.query = [] ∧ parsed.fragment = [] ∧
      normalized = parsed.scheme ++ "://".toList ++ parsed.netloc := by
  obtain ⟨-, parsed, hsplit, hscheme, hne, hpath, hquery, hfragment, hnormalized⟩ :=
    validateOrigin_eq_ok_iff.mp hvalid
  rw [lower_scheme hsplit hne] at hscheme hnormalized
  exact ⟨parsed, hsplit, hscheme, hne, hpath, hquery, hfragment, hnormalized.symm⟩

/-- A text that ends in an authority has no slashes at its end. -/
theorem rstripSlash_append {netloc : PyStr} (hne : netloc ≠ [])
    (hnetloc : ∀ c ∈ netloc, isNetlocEnd c = false) (before : PyStr) :
    rstripSlash (before ++ netloc) = before ++ netloc := by
  refine List.rdropWhile_eq_self_iff.mpr fun hlast hslash ↦ ?_
  rw [List.getLast_append_of_ne_nil hlast hne, beq_iff_eq] at hslash
  have hend := hnetloc _ (List.getLast_mem hne)
  rw [hslash] at hend
  exact Bool.noConfusion hend

/-- A normalised entry is normalised to itself. -/
theorem validateOrigin_normalized {origin normalized : PyStr}
    (hvalid : validateOrigin tables origin = .ok normalized) :
    validateOrigin tables normalized = .ok normalized := by
  obtain ⟨parsed, hsplit, hscheme, hne, hpath, hquery, hfragment, rfl⟩ :=
    parts_of_validateOrigin hvalid
  have hwritable := isWritable_of_urlsplit hsplit hne
  obtain ⟨-, hbrackets, hcheck⟩ := urlsplit_eq_written hsplit
  have htext : urlunsplit parsed = parsed.scheme ++ "://".toList ++ parsed.netloc := by
    have hschemeNe : parsed.scheme ≠ [] := by
      rintro hempty
      rw [hempty] at hscheme
      exact absurd hscheme (by decide)
    rw [hwritable.urlunsplit_eq, schemePrefix, if_pos hschemeNe, queryAndFragment, hpath, hquery,
      hfragment]
    simp
  have hagain := urlsplit_urlunsplit hwritable (isClean_of_urlsplit hsplit) hbrackets hcheck
  rw [htext] at hagain
  refine validateOrigin_eq_ok_iff.mpr ⟨?_, parsed, ?_, ?_, hne, hpath, hquery, hfragment, ?_⟩
  · rcases List.mem_pair.mp hscheme with heq | heq <;> rw [heq] <;> simp
  · rw [rstripSlash_append hne hwritable.netloc, hagain]
  · rwa [lower_scheme hsplit hne]
  · rw [lower_scheme hsplit hne]

/-! ### Canonical origins -/

/-- A character that is no blank, no wildcard and not the end of a user name. -/
def isPlain (c : Char) : Bool := !isSpace c && c != '@' && c != '*'

/-- A scheme in lower case, `://`, and an authority without a blank, a user or a wildcard. Neither a
path nor a query nor a fragment follows. -/
def IsCanonicalOrigin (origin : PyStr) : Prop :=
  ∃ scheme netloc : PyStr, scheme ∈ ["http".toList, "https".toList] ∧ netloc ≠ [] ∧
    (∀ c ∈ netloc, isPlain c = true ∧ isNetlocEnd c = false) ∧
    origin = scheme ++ "://".toList ++ netloc

/-- An origin is written with one scheme and one authority. -/
theorem origin_injective {scheme scheme' netloc netloc' : PyStr}
    (hscheme : scheme ∈ ["http".toList, "https".toList])
    (hscheme' : scheme' ∈ ["http".toList, "https".toList])
    (heq : scheme ++ "://".toList ++ netloc = scheme' ++ "://".toList ++ netloc') :
    netloc = netloc' := by
  rcases List.mem_pair.mp hscheme with rfl | rfl
  · rcases List.mem_pair.mp hscheme' with rfl | rfl
    · exact List.append_cancel_left heq
    · simp at heq
  · rcases List.mem_pair.mp hscheme' with rfl | rfl
    · simp at heq
    · exact List.append_cancel_left heq

/-- Scheme characters and delimiters are plain. -/
theorem isPlain_of_isSchemeChar {c : Char}
    (hchar : isSchemeChar c = true ∨ c ∈ [':', '/', '?', '#']) : isPlain c = true := by
  rcases hchar with hscheme | hdelimiter
  · exact of_forall_ascii (fun c ↦ isSchemeChar c = true → isPlain c = true) (by decide)
      (isSchemeChar_ascii hscheme) hscheme
  · have hall : ∀ d ∈ [':', '/', '?', '#'], isPlain d = true :=
      List.forall_iff_forall_mem.mp (by decide)
    exact hall c hdelimiter

/-- A normalised entry is a canonical origin exactly if the entry, as `urlsplit` cleans it up, has
plain characters only. -/
theorem isCanonicalOrigin_iff {origin normalized : PyStr}
    (hvalid : validateOrigin tables origin = .ok normalized) :
    IsCanonicalOrigin normalized ↔ ∀ c ∈ sanitize (rstripSlash origin), isPlain c = true := by
  obtain ⟨parsed, hsplit, hscheme, hne, hpath, hquery, hfragment, rfl⟩ :=
    parts_of_validateOrigin hvalid
  have hwritten := (urlsplit_eq_written hsplit).1
  constructor
  · rintro ⟨scheme, netloc, hscheme', -, hchars, heq⟩ c hc
    obtain rfl := origin_injective hscheme hscheme' heq
    rcases mem_written_of_mem (hwritten ▸ hne) hc with hchar | hchar | hpart
    · exact isPlain_of_isSchemeChar (Or.inl hchar)
    · exact isPlain_of_isSchemeChar (Or.inr hchar)
    · rw [← hwritten, hpath, hquery, hfragment, List.nil_append, List.nil_append,
        List.append_nil] at hpart
      exact (hchars c hpart).1
  · intro hplain
    refine ⟨parsed.scheme, parsed.netloc, hscheme, hne, fun c hc ↦ ⟨hplain c ?_, ?_⟩, rfl⟩
    · exact mem_of_mem_written (List.mem_append_left _ (hwritten ▸ hc))
    · exact (isWritable_of_urlsplit hsplit hne).netloc c hc

/-- Trimming leaves a list of canonical origins as it is. -/
theorem trimmed_of_canonical {origins : List PyStr}
    (hcanonical : ∀ origin ∈ origins, IsCanonicalOrigin origin) : trimmed origins = origins := by
  have hplain : ∀ origin ∈ origins, strip origin = origin ∧ origin ≠ [] := by
    intro origin horigin
    obtain ⟨scheme, netloc, hscheme, hne, hchars, rfl⟩ := hcanonical origin horigin
    refine ⟨strip_of_forall fun c hc ↦ ?_, by simp⟩
    rcases List.mem_append.mp hc with hhead | hnetloc
    · have hall : ∀ scheme ∈ ["http".toList, "https".toList],
          (scheme ++ "://".toList).all (!isSpace ·) = true := by decide
      exact Bool.not_eq_true' _ |>.mp (List.all_eq_true.mp (hall scheme hscheme) c hhead)
    · have hplain := (hchars c hnetloc).1
      simp only [isPlain, Bool.and_eq_true, Bool.not_eq_true'] at hplain
      exact hplain.1.1
  have hstrip : origins.map strip = origins :=
    (List.map_congr_left fun origin horigin ↦ (hplain origin horigin).1).trans (List.map_id _)
  rw [trimmed, hstrip]
  exact List.filter_eq_self.mpr fun origin horigin ↦ decide_eq_true (hplain origin horigin).2

/-! ### The whole setting -/

/-- A property that passes from every value to its result and back holds of all or of none. -/
theorem forall_mem_iff_of_forall₂ {α β : Type} {related : α → β → Prop} {p : α → Prop}
    {q : β → Prop} (hiff : ∀ value result, related value result → (q result ↔ p value))
    {values : List α} {results : List β} (hrelated : List.Forall₂ related values results) :
    (∀ result ∈ results, q result) ↔ ∀ value ∈ values, p value := by
  induction hrelated with
  | nil => simp
  | cons hfirst _ ih => rw [List.forall_mem_cons, List.forall_mem_cons, ih, hiff _ _ hfirst]

/-- A list of different origins that are canonical, and normalised entries, is accepted as it is. -/
theorem parse_of_canonical {origins : List PyStr}
    (hcanonical : ∀ origin ∈ origins, IsCanonicalOrigin origin) (hnodup : origins.Nodup)
    (hnormalized : ∀ origin ∈ origins, validateOrigin tables origin = .ok origin) :
    parseAndValidateCorsOrigins tables (.list origins) = .ok origins := by
  change validateOrigins tables (trimmed origins) = .ok origins
  rw [trimmed_of_canonical hcanonical]
  exact foldlM_eq_ok_iff.mpr ⟨origins, List.forall₂_same.mpr hnormalized,
    foldl_appendNew_of_nodup hnodup⟩

/-- Every origin of an accepted setting is canonical, none occurs twice and the validator leaves
them as they are, exactly if every entry has plain characters only, as `urlsplit` cleans it up. -/
theorem origins_canonical_iff (tables : UnicodeTables) (v : Setting) (origins : List PyStr)
    (hparse : parseAndValidateCorsOrigins tables v = .ok origins) :
    ((∀ origin ∈ origins, IsCanonicalOrigin origin) ∧ origins.Nodup ∧
        parseAndValidateCorsOrigins tables (.list origins) = .ok origins) ↔
      ∀ entry ∈ rawOrigins v, ∀ c ∈ sanitize (rstripSlash entry), isPlain c = true := by
  obtain ⟨normalized, hnormalized, hkept⟩ :=
    foldlM_eq_ok_iff.mp (validateOrigins_of_parse tables hparse)
  have hkeeps : KeepsFirst normalized origins := hkept ▸ keepsFirst_foldl normalized
  have hcanonical : (∀ origin ∈ origins, IsCanonicalOrigin origin) ↔
      ∀ entry ∈ rawOrigins v, ∀ c ∈ sanitize (rstripSlash entry), isPlain c = true := by
    simp only [hkeeps.mem_iff]
    exact forall_mem_iff_of_forall₂ (fun _ _ hvalid ↦ isCanonicalOrigin_iff hvalid) hnormalized
  have hagain : ∀ origin ∈ origins, validateOrigin tables origin = .ok origin := by
    simp only [hkeeps.mem_iff]
    exact (forall_mem_iff_of_forall₂ (fun _ _ hvalid ↦
      iff_true_intro (validateOrigin_normalized hvalid)) hnormalized).mpr fun _ _ ↦ trivial
  rw [← hcanonical]
  exact and_iff_left_of_imp fun hall ↦
    ⟨hkeeps.nodup, parse_of_canonical hall hkeeps.nodup hagain⟩

/-- The theorem on a setting with blanks between its entries and a slash behind one. -/
theorem origins_canonical_example :
    (∀ origin ∈ ["http://localhost:3000".toList, "https://app.example.com".toList],
        IsCanonicalOrigin origin) ∧
      parseAndValidateCorsOrigins .caseless
          (.list ["http://localhost:3000".toList, "https://app.example.com".toList]) =
        .ok ["http://localhost:3000".toList, "https://app.example.com".toList] := by
  have hplain : ∀ entry ∈
      rawOrigins (.text "http://localhost:3000, https://app.example.com/".toList),
        (sanitize (rstripSlash entry)).all isPlain = true := by decide
  have hcanonical := (origins_canonical_iff .caseless
    (.text "http://localhost:3000, https://app.example.com/".toList)
    ["http://localhost:3000".toList, "https://app.example.com".toList] (by rfl)).mpr
      fun entry hentry ↦ List.all_eq_true.mp (hplain entry hentry)
  exact ⟨hcanonical.1, hcanonical.2.2⟩

/-- Three settings that are accepted: with a wildcard in the host, with a user, and with a blank in
front of the slash at the end. The validator changes the result of the last one. -/
theorem origins_not_canonical :
    parseAndValidateCorsOrigins .caseless (.text "http://*.example.com".toList) =
        .ok ["http://*.example.com".toList] ∧
      ¬ IsCanonicalOrigin "http://*.example.com".toList ∧
      parseAndValidateCorsOrigins .caseless (.text "http://user@example.com".toList) =
        .ok ["http://user@example.com".toList] ∧
      ¬ IsCanonicalOrigin "http://user@example.com".toList ∧
      parseAndValidateCorsOrigins .caseless (.text "http://example.com /".toList) =
        .ok ["http://example.com ".toList] ∧
      parseAndValidateCorsOrigins .caseless (.list ["http://example.com ".toList]) =
        .ok ["http://example.com".toList] := by
  have hwildcard : validateOrigin .caseless "http://*.example.com".toList =
      .ok "http://*.example.com".toList := rfl
  have huser : validateOrigin .caseless "http://user@example.com".toList =
      .ok "http://user@example.com".toList := rfl
  refine ⟨rfl, fun hcanonical ↦ ?_, rfl, fun hcanonical ↦ ?_, rfl, rfl⟩
  · have hplain := (isCanonicalOrigin_iff hwildcard).mp hcanonical
    exact absurd (hplain '*' (by decide)) (by decide)
  · have hplain := (isCanonicalOrigin_iff huser).mp hcanonical
    exact absurd (hplain '@' (by decide)) (by decide)

end PingGuard.Cors
