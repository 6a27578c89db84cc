import PingGuard.Library.WrittenUrl

/-!
# URLs with an authority

An `AuthorityUrl` is a URL text cut where its authority begins and ends. `urlsplit` finds the same
authority in it whatever follows (`urlsplit_text`): what it finds, and whether it accepts the text,
depends on what follows for the path, the query and the fragment alone.
-/

set_option autoImplicit false
set_option relaxedAutoImplicit false

namespace PingGuard.Library.UrlSplit

open PyText

/-- A URL of the form `scheme://authority`, followed by nothing or by a path, a query or a
fragment. -/
structure AuthorityUrl where
  scheme : PyStr
  authority : PyStr
  rest : PyStr
  isScheme : IsScheme scheme
  authority_ne : authority ≠ []
  authority_end : ∀ c ∈ authority, isNetlocEnd c = false
  rest_head : ∀ c, rest.head? = some c → isNetlocEnd c = true

/-- What cleaning up keeps of a text. -/
def cleaned (text : PyStr) : PyStr := text.filter (· ∉ unsafeCharacters)

/-- Cleaning up keeps a text that has no character to remove. -/
theorem cleaned_of_forall {text : PyStr} (hsafe : ∀ c ∈ text, c ∉ unsafeCharacters) :
    cleaned text = text :=
  List.filter_eq_self.mpr fun c hc ↦ decide_eq_true (hsafe c hc)

/-- Cleaning up keeps a character that ends an authority in front. -/
theorem isNetlocEnd_of_head?_cleaned {rest : PyStr}
    (hrest : ∀ c, rest.head? = some c → isNetlocEnd c = true) {c : Char}
    (hhead : (cleaned rest).head? = some c) : isNetlocEnd c = true := by
  cases rest with
  | nil => exact absurd hhead (Option.some_ne_none c).symm
  | cons first others =>
    have hfirst := hrest first rfl
    have hnone : ∀ d ∈ unsafeCharacters, isNetlocEnd d = false :=
      List.forall_iff_forall_mem.mp (by decide)
    have hstays : first ∉ unsafeCharacters := fun hunsafe ↦
      Bool.noConfusion ((hnone first hunsafe).symm.trans hfirst)
    rw [cleaned, List.filter_cons, if_pos (decide_eq_true hstays), List.head?_cons] at hhead
    exact Option.some.inj hhead ▸ hfirst

namespace AuthorityUrl

/-- The text of the URL. -/
def text (url : AuthorityUrl) : PyStr :=
  url.scheme ++ ':' :: ('/' :: '/' :: url.authority ++ url.rest)

/-- Cleaning up removes characters of the authority and of what follows it only. -/
theorem sanitize_text (url : AuthorityUrl) :
    sanitize url.text =
      url.scheme ++ ':' :: ('/' :: '/' :: cleaned url.authority ++ cleaned url.rest) := by
  have hempty : ∀ c ∈ ([] : PyStr), c ∉ unsafeCharacters := List.forall_mem_nil _
  have hsanitize := sanitize_append url.isScheme hempty (url.authority ++ url.rest)
  rw [List.filter_append] at hsanitize
  exact hsanitize

/-- The parts that the text is written with once it is cleaned up. -/
theorem written_sanitize_text (url : AuthorityUrl) :
    written (sanitize url.text) = ⟨url.scheme.map Char.toLower, cleaned url.authority,
      (writtenTail (cleaned url.rest)).1, (writtenTail (cleaned url.rest)).2.1,
      (writtenTail (cleaned url.rest)).2.2⟩ := by
  have hauthority : ∀ c ∈ cleaned url.authority, isNetlocEnd c = false :=
    fun c hc ↦ url.authority_end c (List.mem_of_mem_filter hc)
  rw [sanitize_text]
  simp only [written, splitScheme_append url.isScheme,
    splitNetloc_append hauthority fun c ↦ isNetlocEnd_of_head?_cleaned url.rest_head]

/-- What splitting finds in the text. -/
theorem urlsplit_text (tables : UnicodeTables) (url : AuthorityUrl) :
    urlsplit tables url.text [] =
      if checkBrackets (cleaned url.authority) = true ∧
          checkNetloc tables (cleaned url.authority) = true then
        some ⟨url.scheme.map Char.toLower, cleaned url.authority,
          (writtenTail (cleaned url.rest)).1, (writtenTail (cleaned url.rest)).2.1,
          (writtenTail (cleaned url.rest)).2.2⟩
      else none := by
  have hread := written_sanitize_text url
  split_ifs with hchecks
  · rw [← hread]
    apply urlsplit_of_written
    · rw [hread]
      exact hchecks.1
    · rw [hread]
      exact hchecks.2
  · cases hsplit : urlsplit tables url.text [] with
    | none => rfl
    | some parsed =>
      obtain ⟨rfl, hbrackets, hcheck⟩ := urlsplit_eq_written hsplit
      rw [hread] at hbrackets hcheck
      exact absurd ⟨hbrackets, hcheck⟩ hchecks

/-- Two URLs with the same scheme and the same authority are accepted alike, and with the same
scheme and authority. -/
theorem urlsplit_text_congr {tables : UnicodeTables} {url other : AuthorityUrl}
    (hscheme : url.scheme = other.scheme) (hauthority : url.authority = other.authority) :
    (urlsplit tables url.text []).map (fun parsed ↦ (parsed.scheme, parsed.netloc)) =
      (urlsplit tables other.text []).map fun parsed ↦ (parsed.scheme, parsed.netloc) := by
  rw [urlsplit_text, urlsplit_text, hscheme, hauthority]
  split_ifs <;> rfl

end AuthorityUrl

/-! ### User information -/

/-- User information in front of an authority changes neither its host nor its port. -/
theorem hostinfo_userinfo (info netloc : PyStr) :
    hostinfo (info ++ '@' :: netloc) = hostinfo netloc := by
  obtain ⟨between, hcut⟩ := rpartition_append_cons '@' info netloc
  unfold hostinfo
  rw [hcut]

/-- A host holds an opening bracket, or a colon, only if the authority has brackets around it, and
then no closing one. -/
theorem hostinfo_brackets (netloc : PyStr) :
    ('[' ∈ (hostinfo netloc).1 → ']' ∉ (hostinfo netloc).1) ∧
      ('[' ∉ netloc → ':' ∉ (hostinfo netloc).1) := by
  have hsub : ∀ c ∈ (rpartition '@' netloc).2.2, c ∈ netloc :=
    fun c ↦ mem_of_mem_rpartition_snd
  unfold hostinfo
  generalize (rpartition '@' netloc).2.2 = hostAndPort at hsub ⊢
  rcases partition_cases '[' hostAndPort with ⟨hnot, heq⟩ | ⟨before, after, rfl, -, heq⟩
  · simp only [heq]
    exact ⟨fun hopen ↦ absurd (mem_of_mem_partition_fst hopen) hnot,
      fun _ ↦ notMem_partition_fst ':' hostAndPort⟩
  · simp only [heq]
    exact ⟨fun _ ↦ notMem_partition_fst ']' after, fun hopen ↦ absurd (hsub '[' (by simp)) hopen⟩

/-- User information without brackets in front of an authority does not change whether its brackets
are accepted. -/
theorem checkBrackets_userinfo {info : PyStr} (hopen : '[' ∉ info) (hclose : ']' ∉ info)
    (netloc : PyStr) : checkBrackets (info ++ '@' :: netloc) = checkBrackets netloc := by
  obtain ⟨between, hcut⟩ := rpartition_append_cons '@' info netloc
  have hbracketed : checkBracketedNetloc (info ++ '@' :: netloc) = checkBracketedNetloc netloc := by
    unfold checkBracketedNetloc
    rw [hcut]
  unfold checkBrackets
  simp [hbracketed, hopen, hclose]

/-- An authority has a user name or a password that is not empty if the text in front of an at sign
in it has one. -/
theorem userinfo_append {info : PyStr}
    (hne : (partition ':' info).1 ≠ [] ∨ (partition ':' info).2.2 ≠ []) (netloc : PyStr) :
    (∃ user, (userinfo (info ++ '@' :: netloc)).1 = some user ∧ user ≠ []) ∨
      ∃ password, (userinfo (info ++ '@' :: netloc)).2 = some password ∧ password ≠ [] := by
  obtain ⟨between, hcut⟩ := rpartition_append_cons '@' info netloc
  unfold userinfo
  rw [hcut]
  dsimp only
  rcases partition_cases ':' info with ⟨hcolon, heq⟩ | ⟨user, password, rfl, hcolon, heq⟩
  · rw [heq] at hne
    have hinfo : info ≠ [] := hne.resolve_right (not_not.mpr rfl)
    left
    rcases partition_cases ':' (info ++ between) with
      ⟨-, hwhole⟩ | ⟨user, password, htext, -, hwhole⟩
    · rw [hwhole]
      exact ⟨_, rfl, List.append_ne_nil_of_left_ne_nil hinfo between⟩
    · rw [hwhole]
      refine ⟨user, rfl, ?_⟩
      rintro rfl
      obtain ⟨first, others, rfl⟩ := List.exists_cons_of_ne_nil hinfo
      rw [List.cons_append, List.nil_append] at htext
      exact hcolon ((List.cons.inj htext).1 ▸ List.mem_cons_self)
  · rw [heq] at hne
    rw [List.append_assoc, List.cons_append, partition_append_cons hcolon]
    exact hne.imp (fun hne ↦ ⟨user, rfl, hne⟩) fun hne ↦
      ⟨_, rfl, List.append_ne_nil_of_left_ne_nil hne between⟩

end PingGuard.Library.UrlSplit
