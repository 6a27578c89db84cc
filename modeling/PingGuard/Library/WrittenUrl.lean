import PingGuard.Library.IpCase
import PingGuard.Library.UrlSplit

/-!
# The parts that a URL text is written with

`written` reads a URL text by the generic syntax alone: a scheme, an authority behind a double
slash, a path, a query and a fragment. It is what `urlsplit` finds in a text that it has cleaned up
and accepted (`urlsplit_eq_written`).

Parts with an authority in which no delimiter stands out of place are `IsWritable`. `urlunsplit`
writes them down so that they are read again (`written_urlunsplit`), by `urlsplit` too if the
authority passes its checks (`urlsplit_urlunsplit`). The parts of an accepted text with an authority
are of this kind (`isWritable_of_urlsplit`).
-/

set_option autoImplicit false
set_option relaxedAutoImplicit false

namespace PingGuard.Library.UrlSplit

open IpText PyText

/-! ### Reading a text -/

/-- The path, the query and the fragment that follow an authority. -/
def writtenTail (afterNetloc : PyStr) : PyStr × PyStr × PyStr :=
  let beforeFragment := (partition '#' afterNetloc).1
  ((partition '?' beforeFragment).1, (partition '?' beforeFragment).2.2,
    (partition '#' afterNetloc).2.2)

/-- The parts of a URL text by the generic syntax. -/
def written (url : PyStr) : SplitResult :=
  let afterScheme := splitScheme [] url
  let afterNetloc := splitNetloc afterScheme.2
  let tail := writtenTail afterNetloc.2
  ⟨afterScheme.1, afterNetloc.1, tail.1, tail.2.1, tail.2.2⟩

/-- A text that is accepted is read as it is written. -/
theorem urlsplit_eq_written {tables : UnicodeTables} {url : PyStr} {parsed : SplitResult}
    (hsplit : urlsplit tables url [] = some parsed) :
    parsed = written (sanitize url) ∧ checkBrackets parsed.netloc = true ∧
      checkNetloc tables parsed.netloc = true := by
  unfold urlsplit at hsplit
  dsimp only at hsplit
  split_ifs at hsplit with hbrackets hcheck
  obtain rfl := Option.some.inj hsplit
  exact ⟨rfl, hbrackets, hcheck⟩

/-- Splitting a text whose authority passes the checks gives its written parts. -/
theorem urlsplit_of_written {tables : UnicodeTables} {url : PyStr}
    (hbrackets : checkBrackets (written (sanitize url)).netloc = true)
    (hcheck : checkNetloc tables (written (sanitize url)).netloc = true) :
    urlsplit tables url [] = some (written (sanitize url)) := by
  unfold urlsplit
  dsimp only
  exact (if_neg (not_not.mpr hbrackets)).trans (if_neg (not_not.mpr hcheck))

/-- The characters that end a path. -/
def isPathEnd (c : Char) : Bool := c == '?' || c == '#'

/-- A path ends before the first question mark or hash. -/
theorem writtenTail_fst (afterNetloc : PyStr) :
    (writtenTail afterNetloc).1 = afterNetloc.takeWhile (!isPathEnd ·) := by
  change (partition '?' (partition '#' afterNetloc).1).1 = _
  rw [partition_fst_eq_takeWhile, partition_fst_eq_takeWhile, List.takeWhile_takeWhile]
  refine congrArg (List.takeWhile · afterNetloc) (funext fun c ↦ ?_)
  rw [isPathEnd, Bool.not_or, Bool.eq_iff_iff, Bool.and_eq_true, decide_eq_true_eq]
  rfl

/-- A tail put together from its parts is read as these parts. -/
theorem writtenTail_append {path query fragment : PyStr} (hquestion : '?' ∉ path)
    (hpath : '#' ∉ path) (hquery : '#' ∉ query) :
    writtenTail (path ++ ((if query ≠ [] then '?' :: query else []) ++
      if fragment ≠ [] then '#' :: fragment else [])) = (path, query, fragment) := by
  have hbefore : '#' ∉ path ++ if query ≠ [] then '?' :: query else [] := by
    split_ifs <;> simp [hpath, hquery]
  have hfragment : partition '#' (path ++ ((if query ≠ [] then '?' :: query else []) ++
      if fragment ≠ [] then '#' :: fragment else [])) =
        (path ++ (if query ≠ [] then '?' :: query else []), decide (fragment ≠ []), fragment) := by
    rw [← List.append_assoc]
    by_cases hempty : fragment = []
    · rw [if_neg (not_not.mpr hempty), List.append_nil, partition_of_notMem hbefore, hempty]
      rfl
    · rw [if_pos hempty, partition_append_cons hbefore, decide_eq_true hempty]
  have hsplit : partition '?' (path ++ if query ≠ [] then '?' :: query else []) =
      (path, decide (query ≠ []), query) := by
    by_cases hempty : query = []
    · rw [if_neg (not_not.mpr hempty), List.append_nil, partition_of_notMem hquestion, hempty]
      rfl
    · rw [if_pos hempty, partition_append_cons hquestion, decide_eq_true hempty]
  simp only [writtenTail, hfragment, hsplit]

/-- What a tail is read as: neither the path nor the query holds the delimiter that ends it. -/
theorem writtenTail_spec (afterNetloc : PyStr) :
    '?' ∉ (writtenTail afterNetloc).1 ∧ '#' ∉ (writtenTail afterNetloc).1 ∧
      '#' ∉ (writtenTail afterNetloc).2.1 := by
  have hbefore := notMem_partition_fst '#' afterNetloc
  refine ⟨notMem_partition_fst '?' _, fun hmem ↦ hbefore (mem_of_mem_partition_fst hmem),
    fun hmem ↦ hbefore ?_⟩
  rcases partition_cases '?' (partition '#' afterNetloc).1 with
    ⟨-, heq⟩ | ⟨before, after, htext, -, heq⟩
  · simp only [writtenTail, heq, List.not_mem_nil] at hmem
  · simp only [writtenTail, heq] at hmem
    rw [htext]
    exact List.mem_append_right _ (List.mem_cons_of_mem _ hmem)

/-! ### Writing parts down -/

/-- Parts with an authority that can be written down and read again. -/
structure IsWritable (parts : SplitResult) : Prop where
  scheme : parts.scheme = [] ∨ IsScheme parts.scheme
  lowercase : parts.scheme.map Char.toLower = parts.scheme
  netloc_ne : parts.netloc ≠ []
  netloc : ∀ c ∈ parts.netloc, isNetlocEnd c = false
  path_head : ∀ c, parts.path.head? = some c → c = '/'
  path_question : '?' ∉ parts.path
  path_hash : '#' ∉ parts.path
  query_hash : '#' ∉ parts.query

/-- What `urlunsplit` writes for the query and the fragment. -/
def queryAndFragment (parts : SplitResult) : PyStr :=
  (if parts.query ≠ [] then '?' :: parts.query else []) ++
    if parts.fragment ≠ [] then '#' :: parts.fragment else []

/-- What `urlunsplit` writes in front of the double slash. -/
def schemePrefix (scheme : PyStr) : PyStr := if scheme ≠ [] then scheme ++ [':'] else []

/-- A text that starts with a slash has no scheme. -/
theorem splitScheme_slash (defaultScheme rest : PyStr) :
    splitScheme defaultScheme ('/' :: rest) = (defaultScheme, '/' :: rest) := by
  have hcut : partition ':' ('/' :: rest) =
      ('/' :: (partition ':' rest).1, (partition ':' rest).2) := if_neg (by decide)
  rw [splitScheme, hcut]
  split
  · rename_i heq
    obtain ⟨rfl, -⟩ := List.cons.inj (congrArg Prod.fst heq)
    exact if_neg fun h ↦ absurd h.1 (by decide)
  · rfl

/-- The scheme written in front of a double slash is the scheme of the text. -/
theorem splitScheme_schemePrefix {scheme : PyStr} (hscheme : scheme = [] ∨ IsScheme scheme)
    (rest : PyStr) :
    splitScheme [] (schemePrefix scheme ++ '/' :: rest) =
      (scheme.map Char.toLower, '/' :: rest) := by
  rcases hscheme with rfl | hscheme
  · exact splitScheme_slash [] rest
  · obtain ⟨c, others, rfl, -⟩ := hscheme.1
    rw [schemePrefix, if_pos (List.cons_ne_nil c others), List.append_assoc]
    exact splitScheme_append hscheme [] _

namespace IsWritable

variable {parts : SplitResult}

/-- The text of the parts. -/
theorem urlunsplit_eq (hparts : IsWritable parts) :
    urlunsplit parts = schemePrefix parts.scheme ++
      ('/' :: '/' :: parts.netloc ++ (parts.path ++ queryAndFragment parts)) := by
  have hpath : ¬ (parts.path ≠ [] ∧ parts.path.head? ≠ some '/') := by
    rintro ⟨hne, hhead⟩
    obtain ⟨c, others, hcons⟩ := List.exists_cons_of_ne_nil hne
    rw [hcons, List.head?_cons] at hhead
    exact hhead (congrArg some (hparts.path_head c (by rw [hcons, List.head?_cons])))
  simp only [urlunsplit, joinNetloc, if_pos hparts.netloc_ne, if_neg hpath, queryAndFragment,
    schemePrefix, List.append_assoc]

/-- What follows the authority is empty or starts with a character that ends it. -/
theorem isNetlocEnd_tail (hparts : IsWritable parts) (c : Char)
    (hhead : (parts.path ++ queryAndFragment parts).head? = some c) : isNetlocEnd c = true := by
  have htail : ∀ c, (queryAndFragment parts).head? = some c → c = '?' ∨ c = '#' := by
    intro c hc
    unfold queryAndFragment at hc
    split_ifs at hc
    · exact Or.inl (Option.some.inj hc).symm
    · exact Or.inl (Option.some.inj hc).symm
    · exact Or.inr (Option.some.inj hc).symm
    · exact absurd hc (Option.some_ne_none c).symm
  rw [List.head?_append, Option.or_eq_some_iff] at hhead
  rcases hhead with hpath | ⟨-, hquery⟩
  · rw [hparts.path_head c hpath]
    rfl
  · rcases htail c hquery with rfl | rfl <;> rfl

/-- Parts that are written down are read again. -/
theorem written_urlunsplit (hparts : IsWritable parts) : written (urlunsplit parts) = parts := by
  have hscheme : splitScheme [] (urlunsplit parts) =
      (parts.scheme, '/' :: '/' :: parts.netloc ++ (parts.path ++ queryAndFragment parts)) := by
    rw [hparts.urlunsplit_eq, List.cons_append, splitScheme_schemePrefix hparts.scheme,
      hparts.lowercase]
  have hnetloc := splitNetloc_append hparts.netloc hparts.isNetlocEnd_tail
  have htail : writtenTail (parts.path ++ queryAndFragment parts) = _ :=
    writtenTail_append hparts.path_question hparts.path_hash hparts.query_hash
  simp only [written, hscheme, hnetloc, htail]

end IsWritable

/-- Cleaning up leaves a text alone that has no character to remove. -/
theorem sanitize_of_forall {url : PyStr} (hsafe : ∀ c ∈ url, c ∉ unsafeCharacters)
    (hhead : ∀ c, url.head? = some c → isC0ControlOrSpace c = false) : sanitize url = url := by
  have hkept : url.filter (· ∉ unsafeCharacters) = url :=
    List.filter_eq_self.mpr fun c hc ↦ decide_eq_true (hsafe c hc)
  cases url with
  | nil => rfl
  | cons c rest =>
    rw [sanitize, List.dropWhile_cons_of_neg (by simp [hhead c rfl]), hkept]

/-- Parts without a character that cleaning up removes. -/
def IsClean (parts : SplitResult) : Prop :=
  ∀ c ∈ parts.netloc ++ (parts.path ++ (parts.query ++ parts.fragment)), c ∉ unsafeCharacters

/-- The characters of the text of the parts: those of the parts, and delimiters. -/
theorem IsWritable.mem_urlunsplit {parts : SplitResult} (hparts : IsWritable parts) {c : Char}
    (hmem : c ∈ urlunsplit parts) :
    c ∈ parts.scheme ∨ c ∈ [':', '/', '?', '#'] ∨
      c ∈ parts.netloc ++ (parts.path ++ (parts.query ++ parts.fragment)) := by
  rw [hparts.urlunsplit_eq] at hmem
  simp only [List.mem_append, List.mem_cons, List.not_mem_nil, or_false]
  rcases List.mem_append.mp hmem with hprefix | hrest
  · unfold schemePrefix at hprefix
    split_ifs at hprefix
    · simp only [List.mem_append, List.mem_singleton] at hprefix
      tauto
    · exact absurd hprefix List.not_mem_nil
  · unfold queryAndFragment at hrest
    split_ifs at hrest <;>
      simp only [List.mem_append, List.mem_cons, List.not_mem_nil, or_false] at hrest <;> tauto

/-- No scheme character and no delimiter is removed by cleaning up, nor is one dropped from the
start of a text. -/
theorem isSchemeChar_safe {c : Char} (hchar : isSchemeChar c = true ∨ c ∈ [':', '/', '?', '#']) :
    c ∉ unsafeCharacters := by
  intro hunsafe
  have hnone : ∀ d ∈ unsafeCharacters, isSchemeChar d = false ∧ d ∉ [':', '/', '?', '#'] :=
    List.forall_iff_forall_mem.mp (by decide)
  obtain ⟨hscheme, hdelimiter⟩ := hnone c hunsafe
  rcases hchar with hchar | hchar
  · rw [hscheme] at hchar
    exact Bool.noConfusion hchar
  · exact hdelimiter hchar

/-- A letter or a slash is no blank. -/
theorem isC0ControlOrSpace_eq_false {c : Char} (hchar : c.isAlpha = true ∨ c = '/') :
    isC0ControlOrSpace c = false := by
  rcases hchar with hletter | rfl
  · by_contra hcontrol
    have hcontrol : isC0ControlOrSpace c = true := by simpa using hcontrol
    have hascii : c.toNat < 0x80 :=
      Nat.lt_of_le_of_lt (of_decide_eq_true hcontrol) (by decide)
    exact of_forall_ascii (fun c ↦ c.isAlpha = true → ¬ isC0ControlOrSpace c = true) (by decide)
      hascii hletter hcontrol
  · rfl

/-- The text of clean parts needs no cleaning up. -/
theorem IsWritable.sanitize_urlunsplit {parts : SplitResult} (hparts : IsWritable parts)
    (hclean : IsClean parts) : sanitize (urlunsplit parts) = urlunsplit parts := by
  refine sanitize_of_forall (fun c hc ↦ ?_) (fun c hhead ↦ isC0ControlOrSpace_eq_false ?_)
  · rcases hparts.mem_urlunsplit hc with hscheme | hdelimiter | hpart
    · rcases hparts.scheme with hempty | hvalid
      · rw [hempty] at hscheme
        exact absurd hscheme List.not_mem_nil
      · exact isSchemeChar_safe (Or.inl (hvalid.2 c hscheme))
    · exact isSchemeChar_safe (Or.inr hdelimiter)
    · exact hclean c hpart
  · rw [hparts.urlunsplit_eq] at hhead
    rcases hparts.scheme with hempty | ⟨⟨d, others, hcons, hletter⟩, -⟩
    · rw [hempty] at hhead
      exact Or.inr (Option.some.inj hhead).symm
    · rw [hcons] at hhead
      exact Or.inl (Option.some.inj hhead ▸ hletter)

/-- Clean parts that are written down are split again, if their authority passes the checks. -/
theorem urlsplit_urlunsplit {tables : UnicodeTables} {parts : SplitResult}
    (hparts : IsWritable parts) (hclean : IsClean parts)
    (hbrackets : checkBrackets parts.netloc = true)
    (hcheck : checkNetloc tables parts.netloc = true) :
    urlsplit tables (urlunsplit parts) [] = some parts := by
  have hread : written (sanitize (urlunsplit parts)) = parts := by
    rw [hparts.sanitize_urlunsplit hclean, hparts.written_urlunsplit]
  have hsplit : urlsplit tables (urlunsplit parts) [] =
      some (written (sanitize (urlunsplit parts))) := by
    apply urlsplit_of_written
    · rwa [hread]
    · rwa [hread]
  rwa [hread] at hsplit

/-! ### The parts of an accepted text -/

/-- Lowering an ASCII character twice is lowering it once. -/
theorem toLower_toLower (c : Char) : c.toLower.toLower = c.toLower := by
  by_cases hascii : c.toNat < 0x80
  · exact of_forall_ascii (fun c ↦ c.toLower.toLower = c.toLower) (by decide) hascii
  · rw [toLower_of_not_ascii hascii, toLower_of_not_ascii hascii]

/-- What follows an authority that is not empty starts with a character that ends it. -/
theorem isNetlocEnd_of_head?_splitNetloc {url : PyStr} (hne : (splitNetloc url).1 ≠ []) {c : Char}
    (hhead : (splitNetloc url).2.head? = some c) : isNetlocEnd c = true := by
  unfold splitNetloc at hne hhead
  split at hne
  · rename_i rest
    have hfirst : (rest.dropWhile (!isNetlocEnd ·)).head? = some c := hhead
    have hnot := List.head?_dropWhile_not (!isNetlocEnd ·) rest
    rw [hfirst] at hnot
    simpa using hnot
  · exact absurd rfl hne

/-- The parts that a text with an authority is written with can be written down. -/
theorem isWritable_written {text : PyStr} (hne : (written text).netloc ≠ []) :
    IsWritable (written text) := by
  obtain ⟨hquestion, hpathHash, hqueryHash⟩ :=
    writtenTail_spec (splitNetloc (splitScheme [] text).2).2
  refine ⟨splitScheme_fst [] text, ?_, hne, fun c ↦ isNetlocEnd_of_mem_splitNetloc, ?_, hquestion,
    hpathHash, hqueryHash⟩
  · change (splitScheme [] text).1.map Char.toLower = (splitScheme [] text).1
    unfold splitScheme
    split
    · split_ifs
      · rw [List.map_map]
        exact List.map_congr_left fun c _ ↦ toLower_toLower c
      · rfl
    · rfl
  · intro c hhead
    -- the path starts what follows the authority, so it starts with a character that ends this
    have hprefix : (written text).path <+: (splitNetloc (splitScheme [] text).2).2 :=
      (partition_fst_isPrefix '?' _).trans (partition_fst_isPrefix '#' _)
    obtain ⟨rest, hrest⟩ := hprefix
    have hend := isNetlocEnd_of_head?_splitNetloc hne
      (by rw [← hrest, List.head?_append, hhead]; rfl)
    have hin : c ∈ (written text).path := List.mem_of_mem_head? hhead
    by_contra hslash
    refine absurd hend (Bool.not_eq_true _ ▸ isNetlocEnd_eq_false hslash ?_ ?_)
    · exact fun heq ↦ hquestion (heq ▸ hin)
    · exact fun heq ↦ hpathHash (heq ▸ hin)

/-- The characters of the written parts come out of the text. -/
theorem mem_of_mem_written {text : PyStr} {c : Char}
    (hmem : c ∈ (written text).netloc ++
      ((written text).path ++ ((written text).query ++ (written text).fragment))) : c ∈ text := by
  have hscheme : (splitScheme [] text).2 <:+ text := by
    unfold splitScheme
    split
    · rename_i heq
      split_ifs
      · have hsuffix := partition_snd_isSuffix ':' text
        rwa [heq] at hsuffix
      · exact List.suffix_refl text
    · exact List.suffix_refl text
  have hnetloc : (splitNetloc (splitScheme [] text).2).1 ⊆ text ∧
      (splitNetloc (splitScheme [] text).2).2 ⊆ text := by
    generalize (splitScheme [] text).2 = afterScheme at hscheme
    unfold splitNetloc
    split
    · rename_i rest
      have hrest : rest ⊆ text := fun d hd ↦
        hscheme.subset (List.mem_cons_of_mem _ (List.mem_cons_of_mem _ hd))
      exact ⟨fun d hd ↦ hrest ((List.takeWhile_prefix _).subset hd),
        fun d hd ↦ hrest ((List.dropWhile_suffix _).subset hd)⟩
    · exact ⟨List.nil_subset _, hscheme.subset⟩
  simp only [List.mem_append] at hmem
  rcases hmem with hmem | hmem | hmem | hmem
  · exact hnetloc.1 hmem
  · exact hnetloc.2
      ((partition_fst_isPrefix '#' _).subset ((partition_fst_isPrefix '?' _).subset hmem))
  · exact hnetloc.2
      ((partition_fst_isPrefix '#' _).subset ((partition_snd_isSuffix '?' _).subset hmem))
  · exact hnetloc.2 ((partition_snd_isSuffix '#' _).subset hmem)

/-- The characters of a text with an authority: scheme characters, delimiters, and those of the
written parts. -/
theorem mem_written_of_mem {text : PyStr} {c : Char} (hne : (written text).netloc ≠ [])
    (hmem : c ∈ text) :
    isSchemeChar c = true ∨ c ∈ [':', '/', '?', '#'] ∨ c ∈ (written text).netloc ++
      ((written text).path ++ ((written text).query ++ (written text).fragment)) := by
  have hscheme : isSchemeChar c = true ∨ c = ':' ∨ c ∈ (splitScheme [] text).2 := by
    unfold splitScheme
    split
    · rename_i heq
      split_ifs with hvalid
      · have hcut := @mem_partition ':' text c hmem
        rw [heq] at hcut
        exact hcut.imp_left (List.all_eq_true.mp hvalid.2 c)
      · exact Or.inr (Or.inr hmem)
    · exact Or.inr (Or.inr hmem)
  have hnetloc : c ∈ (splitScheme [] text).2 → c = '/' ∨ c ∈ (written text).netloc ∨
      c ∈ (splitNetloc (splitScheme [] text).2).2 := by
    change (splitNetloc (splitScheme [] text).2).1 ≠ [] at hne
    change _ → c = '/' ∨ c ∈ (splitNetloc (splitScheme [] text).2).1 ∨ _
    generalize (splitScheme [] text).2 = afterScheme at hne
    unfold splitNetloc at hne ⊢
    split at hne
    · rename_i rest
      intro hmem
      rw [← List.mem_append, List.takeWhile_append_dropWhile]
      simpa using hmem
    · exact absurd rfl hne
  have htail : c ∈ (splitNetloc (splitScheme [] text).2).2 → c ∈ (written text).path ∨ c = '?' ∨
      c ∈ (written text).query ∨ c = '#' ∨ c ∈ (written text).fragment := by
    intro hmem
    rcases @mem_partition '#' _ c hmem with hbefore | hhash | hfragment
    · rcases @mem_partition '?' _ c hbefore with hpath | hquestion | hquery
      · exact Or.inl hpath
      · exact Or.inr (Or.inl hquestion)
      · exact Or.inr (Or.inr (Or.inl hquery))
    · exact Or.inr (Or.inr (Or.inr (Or.inl hhash)))
    · exact Or.inr (Or.inr (Or.inr (Or.inr hfragment)))
  rcases hscheme with hchar | rfl | hrest
  · exact Or.inl hchar
  · exact Or.inr (Or.inl (by decide))
  rcases hnetloc hrest with rfl | hin | hafter
  · exact Or.inr (Or.inl (by decide))
  · exact Or.inr (Or.inr (List.mem_append_left _ hin))
  rcases htail hafter with hpath | rfl | hquery | rfl | hfragment
  · exact Or.inr (Or.inr (List.mem_append_right _ (List.mem_append_left _ hpath)))
  · exact Or.inr (Or.inl (by decide))
  · refine Or.inr (Or.inr (List.mem_append_right _ (List.mem_append_right _ ?_)))
    exact List.mem_append_left _ hquery
  · exact Or.inr (Or.inl (by decide))
  · refine Or.inr (Or.inr (List.mem_append_right _ (List.mem_append_right _ ?_)))
    exact List.mem_append_right _ hfragment

/-- The parts of an accepted text hold no character that cleaning up removes. -/
theorem isClean_of_urlsplit {tables : UnicodeTables} {url : PyStr} {parsed : SplitResult}
    (hsplit : urlsplit tables url [] = some parsed) : IsClean parsed := by
  intro c hc
  rw [(urlsplit_eq_written hsplit).1] at hc
  exact of_decide_eq_true (List.mem_filter.mp (mem_of_mem_written hc)).2

/-- The parts of an accepted text with an authority can be written down. -/
theorem isWritable_of_urlsplit {tables : UnicodeTables} {url : PyStr} {parsed : SplitResult}
    (hsplit : urlsplit tables url [] = some parsed) (hne : parsed.netloc ≠ []) :
    IsWritable parsed := by
  rw [(urlsplit_eq_written hsplit).1] at hne ⊢
  exact isWritable_written hne

/-! ### Ports -/

/-- A port as it is written behind a host. Port 0 is not written, nor is no port. -/
def portSuffix : Option ℕ → PyStr
  | some (n + 1) => ':' :: Nat.toDigits 10 (n + 1)
  | _ => []

/-- A port is written with a colon in front. -/
theorem eq_colon_of_head?_portSuffix {port : Option ℕ} {c : Char}
    (hhead : (portSuffix port).head? = some c) : c = ':' := by
  unfold portSuffix at hhead
  split at hhead
  · exact (Option.some.inj hhead).symm
  · exact absurd hhead (Option.some_ne_none c).symm

/-- A written port consists of a colon and digits. -/
theorem notMem_portSuffix {port : Option ℕ} {c : Char} (hcolon : c ≠ ':')
    (hdigit : c.isDigit = false) : c ∉ portSuffix port := by
  intro hmem
  unfold portSuffix at hmem
  split at hmem
  · rcases List.mem_cons.mp hmem with heq | hdigits
    · exact hcolon heq
    · rw [Nat.isDigit_of_mem_toDigits (by decide) (by decide) hdigits] at hdigit
      exact Bool.noConfusion hdigit
  · exact absurd hmem List.not_mem_nil

/-- A port that is read is below 65536. -/
theorem SplitResult.port_le {parsed : SplitResult} {n : ℕ}
    (hport : parsed.port = some (some n)) : n ≤ 65535 := by
  unfold SplitResult.port at hport
  split at hport
  · exact absurd (Option.some.inj hport) (Option.some_ne_none n).symm
  · split_ifs at hport with hdigits hbound
    exact Option.some.inj (Option.some.inj hport) ▸ hbound

/-- The port of an authority that ends with a written port. -/
theorem SplitResult.port_eq {parsed : SplitResult} {port : Option ℕ}
    (hbound : ∀ n, port = some n → n ≤ 65535)
    (hinfo : (hostinfo parsed.netloc).2 = portText (portSuffix port)) :
    parsed.port = some (port.filter (· ≠ 0)) := by
  unfold SplitResult.port
  rw [hinfo]
  match port with
  | none => rfl
  | some 0 => rfl
  | some (n + 1) =>
    have hdigits : portText (portSuffix (some (n + 1))) = some (Nat.toDigits 10 (n + 1)) :=
      if_neg (Nat.toDigits_ne_nil)
    have hall : (Nat.toDigits 10 (n + 1)).all Char.isDigit = true :=
      List.all_eq_true.mpr fun c ↦ Nat.isDigit_of_mem_toDigits (by decide) (by decide)
    rw [hdigits]
    dsimp only
    rw [if_pos hall, Nat.ofDigitChars_ten_toDigits, if_pos (hbound (n + 1) rfl)]
    rfl

end PingGuard.Library.UrlSplit
