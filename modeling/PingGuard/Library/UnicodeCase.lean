import PingGuard.Library.WrittenUrl

/-!
# Lower case and compatibility normalisation

What is documented of the Unicode tables, as far as authorities of URLs depend on it. A text in
lower case is not changed by lowering it again (`lower_lower`), and lowering the host of an
authority does not make compatibility normalisation split it (`staysWhole_of_mem_lowerChar`).
-/

set_option autoImplicit false
set_option relaxedAutoImplicit false

namespace PingGuard.Library.UrlSplit

open IpText PyText

/-- The delimiters that `_checknetloc` looks for in a normalised authority. -/
def netlocDelimiters : List Char := ['/', '?', '#', '@', ':']

/-- What is documented of the Unicode tables. -/
structure AreUnicode (tables : UnicodeTables) : Prop where
  /-- A lower-case mapping is not empty. -/
  lowercase_ne : ∀ c, 0x80 ≤ c.toNat → tables.lowercase c ≠ []
  /-- A lower-case mapping consists of ASCII letters and of characters outside ASCII. -/
  lowercase_char : ∀ c, 0x80 ≤ c.toNat → ∀ d ∈ tables.lowercase c, d.isAlpha = true ∨ 0x80 ≤ d.toNat
  /-- The characters of a lower-case mapping are in lower case. -/
  lowercase_lower : ∀ c, 0x80 ≤ c.toNat → ∀ d ∈ tables.lowercase c, lowerChar tables d = [d]
  /-- A delimiter in a normalised text comes out of one character, since it is not composed with
  another. -/
  nfkc_delimiter : ∀ text, ∀ d ∈ netlocDelimiters,
    d ∈ tables.nfkc text ↔ ∃ c ∈ text, d ∈ tables.nfkc [c]
  /-- An ASCII character is normalised to itself. -/
  nfkc_ascii : ∀ c, c.toNat < 0x80 → tables.nfkc [c] = [c]
  /-- A character whose normalisation holds a delimiter is no lower-case mapping of another. -/
  nfkc_lowercase : ∀ c, 0x80 ≤ c.toNat → ∀ e ∈ tables.lowercase c, ∀ d ∈ netlocDelimiters,
    d ∈ tables.nfkc [e] → d ∈ tables.nfkc [c]

/-- The tables without cased or compatibility characters outside ASCII are as documented. -/
theorem areUnicode_caseless : AreUnicode .caseless where
  lowercase_ne := fun c _ ↦ List.cons_ne_nil c []
  lowercase_char := fun c hc d hd ↦ Or.inr (List.mem_singleton.mp hd ▸ hc)
  lowercase_lower := fun c hc d hd ↦ by
    obtain rfl := List.mem_singleton.mp hd
    exact if_neg (Nat.not_lt.mpr hc)
  nfkc_delimiter := fun text d _ ↦ by simp [UnicodeTables.caseless]
  nfkc_ascii := fun _ _ ↦ rfl
  nfkc_lowercase := fun c _ e he d _ hd ↦ List.mem_singleton.mp he ▸ hd

variable {tables : UnicodeTables}

/-! ### Lowering -/

/-- Lowering a text lowers its characters one by one. -/
theorem lower_cons (c : Char) (rest : PyStr) :
    lower tables (c :: rest) = lowerChar tables c ++ lower tables rest := List.flatMap_cons

/-- Lowering an ASCII character gives one. -/
theorem toLower_ascii {c : Char} (hascii : c.toNat < 0x80) : c.toLower.toNat < 0x80 :=
  of_forall_ascii (fun c ↦ c.toLower.toNat < 0x80) (by decide) hascii

/-- A character of a text in lower case is lowered to itself. -/
theorem lowerChar_of_mem_lower (htables : AreUnicode tables) {text : PyStr} {d : Char}
    (hmem : d ∈ lower tables text) : lowerChar tables d = [d] := by
  obtain ⟨c, -, hd⟩ := List.mem_flatMap.mp hmem
  unfold lowerChar at hd
  split_ifs at hd with hascii
  · obtain rfl := List.mem_singleton.mp hd
    rw [lowerChar, if_pos (toLower_ascii hascii), toLower_toLower]
  · exact htables.lowercase_lower c (Nat.not_lt.mp hascii) d hd

/-- Lowering a text twice is lowering it once. -/
theorem lower_lower (htables : AreUnicode tables) (text : PyStr) :
    lower tables (lower tables text) = lower tables text := by
  have hfixed : ∀ d ∈ lower tables text, lowerChar tables d = [d] :=
    fun d ↦ lowerChar_of_mem_lower htables
  generalize lower tables text = lowered at hfixed
  induction lowered with
  | nil => rfl
  | cons d rest ih =>
    obtain ⟨hd, hrest⟩ := List.forall_mem_cons.mp hfixed
    rw [lower_cons, hd, ih hrest]
    rfl

/-- Lowering a text that is not empty leaves one. -/
theorem lower_ne_nil (htables : AreUnicode tables) {text : PyStr} (hne : text ≠ []) :
    lower tables text ≠ [] := by
  obtain ⟨c, rest, rfl⟩ := List.exists_cons_of_ne_nil hne
  rw [lower_cons]
  refine List.append_ne_nil_of_left_ne_nil ?_ _
  unfold lowerChar
  split_ifs with hascii
  · exact List.cons_ne_nil _ []
  · exact htables.lowercase_ne c (Nat.not_lt.mp hascii)

/-- Lowering a text without characters that cleaning up removes introduces none. -/
theorem lower_safe (htables : AreUnicode tables) {text : PyStr}
    (hsafe : ∀ c ∈ text, c ∉ unsafeCharacters) : ∀ d ∈ lower tables text, d ∉ unsafeCharacters := by
  intro d hmem hunsafe
  obtain ⟨c, hc, hd⟩ := List.mem_flatMap.mp hmem
  have hnone : ∀ e ∈ unsafeCharacters, e.isAlpha = false ∧ e.toNat < 0x80 :=
    List.forall_iff_forall_mem.mp (by decide)
  obtain ⟨hletter, hbelow⟩ := hnone d hunsafe
  unfold lowerChar at hd
  split_ifs at hd with hascii
  · obtain rfl := List.mem_singleton.mp hd
    have hsame : c.toLower ∈ unsafeCharacters → c.toLower = c :=
      of_forall_ascii (fun c ↦ c.toLower ∈ unsafeCharacters → c.toLower = c) (by decide) hascii
    exact hsafe c hc (hsame hunsafe ▸ hunsafe)
  · rcases htables.lowercase_char c (Nat.not_lt.mp hascii) d hd with hother | hother
    · exact Bool.noConfusion (hletter.symm.trans hother)
    · exact absurd hbelow (Nat.not_lt.mpr hother)

/-! ### Compatibility normalisation -/

/-- A character whose normalisation holds no delimiter of an authority. -/
def StaysWhole (tables : UnicodeTables) (c : Char) : Prop :=
  ∀ d ∈ netlocDelimiters, d ∉ tables.nfkc [c]

/-- An ASCII character stays whole if it is no delimiter itself. -/
theorem staysWhole_of_ascii (htables : AreUnicode tables) {c : Char} (hascii : c.toNat < 0x80)
    (hnot : c ∉ netlocDelimiters) : StaysWhole tables c := by
  intro d hd hmem
  rw [htables.nfkc_ascii c hascii, List.mem_singleton] at hmem
  exact hnot (hmem ▸ hd)

/-- Lowering a character keeps it whole. -/
theorem staysWhole_of_mem_lowerChar (htables : AreUnicode tables) {c d : Char}
    (hwhole : StaysWhole tables c) (hmem : d ∈ lowerChar tables c) : StaysWhole tables d := by
  unfold lowerChar at hmem
  split_ifs at hmem with hascii
  · obtain rfl := List.mem_singleton.mp hmem
    refine staysWhole_of_ascii htables (toLower_ascii hascii) fun hdelimiter ↦ ?_
    have hurl : ∀ e ∈ netlocDelimiters, e ∈ urlDelimiters :=
      List.forall_iff_forall_mem.mp (by decide)
    have hsame := eq_of_toLower_mem_urlDelimiters hascii (hurl _ hdelimiter)
    refine hwhole c (hsame ▸ hdelimiter) ?_
    rw [htables.nfkc_ascii c hascii]
    exact List.mem_cons_self
  · exact fun e he hin ↦ hwhole e he
      (htables.nfkc_lowercase c (Nat.not_lt.mp hascii) d hmem e he hin)

/-- The characters of an accepted authority stay whole, its delimiters aside. -/
theorem staysWhole_of_checkNetloc (htables : AreUnicode tables) {netloc : PyStr}
    (hcheck : checkNetloc tables netloc = true) (hends : ∀ c ∈ netloc, isNetlocEnd c = false)
    {c : Char} (hmem : c ∈ netloc) (hnot : c ∉ netlocDelimiters) : StaysWhole tables c := by
  rw [checkNetloc, Bool.or_eq_true_iff] at hcheck
  rcases hcheck with hascii | hkept
  · exact staysWhole_of_ascii htables (of_decide_eq_true (List.all_eq_true.mp hascii c hmem)) hnot
  have hin : c ∈ netloc.filter (· ∉ ['@', ':', '#', '?']) := by
    refine List.mem_filter.mpr ⟨hmem, decide_eq_true fun hdelimiter ↦ hnot ?_⟩
    have hsub : ∀ d ∈ ['@', ':', '#', '?'], d ∈ netlocDelimiters :=
      List.forall_iff_forall_mem.mp (by decide)
    exact hsub c hdelimiter
  intro d hd hnfkc
  have hnormalised := (htables.nfkc_delimiter _ d hd).mpr ⟨c, hin, hnfkc⟩
  rcases Bool.or_eq_true_iff.mp hkept with hsame | hnone
  · rw [← of_decide_eq_true hsame] at hnormalised
    obtain ⟨hnetloc, hexcluded⟩ := List.mem_filter.mp hnormalised
    have hslash : ∀ e ∈ netlocDelimiters, e = '/' ∨ e ∈ ['@', ':', '#', '?'] :=
      List.forall_iff_forall_mem.mp (by decide)
    rcases hslash d hd with rfl | hother
    · exact Bool.noConfusion (hends '/' hnetloc)
    · exact of_decide_eq_true hexcluded hother
  · rw [Bool.not_eq_true', List.any_eq_false] at hnone
    refine hnone d hnormalised (decide_eq_true ?_)
    have hsub : ∀ e ∈ netlocDelimiters, e ∈ ['/', '?', '#', '@', ':'] := fun _ h ↦ h
    exact hsub d hd

/-- A digit stays whole. -/
theorem staysWhole_of_isDigit (htables : AreUnicode tables) {c : Char} (hdigit : c.isDigit = true) :
    StaysWhole tables c := by
  have hbounds := Bool.and_eq_true_iff.mp hdigit
  have hnone : ∀ d ∈ netlocDelimiters, d.isDigit = false :=
    List.forall_iff_forall_mem.mp (by decide)
  refine staysWhole_of_ascii htables ?_ fun hdelimiter ↦
    Bool.noConfusion ((hnone c hdelimiter).symm.trans hdigit)
  exact Nat.lt_of_le_of_lt (UInt32.le_iff_toNat_le.mp (of_decide_eq_true hbounds.2)) (by decide)

/-- An authority whose characters stay whole, its delimiters aside, is accepted. -/
theorem checkNetloc_of_staysWhole (htables : AreUnicode tables) {netloc : PyStr}
    (hwhole : ∀ c ∈ netloc, c ∈ ['@', ':'] ∨ StaysWhole tables c) :
    checkNetloc tables netloc = true := by
  rw [checkNetloc, Bool.or_eq_true_iff]
  refine Or.inr (Bool.or_eq_true_iff.mpr (Or.inr ?_))
  rw [Bool.not_eq_true', List.any_eq_false]
  intro d hnormalised hdelimiter
  have hd : d ∈ netlocDelimiters := of_decide_eq_true hdelimiter
  obtain ⟨c, hc, hnfkc⟩ := (htables.nfkc_delimiter _ d hd).mp hnormalised
  obtain ⟨hnetloc, hexcluded⟩ := List.mem_filter.mp hc
  rcases hwhole c hnetloc with hmark | hwhole
  · have hsub : ∀ e ∈ ['@', ':'], e ∈ ['@', ':', '#', '?'] :=
      List.forall_iff_forall_mem.mp (by decide)
    exact of_decide_eq_true hexcluded (hsub c hmark)
  · exact hwhole d hd hnfkc

/-! ### Hosts -/

/-- A host as `hostname` gives it: in lower case, a zone aside. -/
def lowerHost (tables : UnicodeTables) (host : PyStr) : PyStr :=
  match partition '%' host with
  | (name, false, _) => lower tables name
  | (name, true, zone) => lower tables name ++ '%' :: zone

/-- The accessor of the host. -/
theorem SplitResult.hostname_eq (tables : UnicodeTables) (parsed : SplitResult) :
    parsed.hostname tables =
      if (hostinfo parsed.netloc).1 = [] then none
      else some (lowerHost tables (hostinfo parsed.netloc).1) := by
  unfold SplitResult.hostname lowerHost
  dsimp only
  split_ifs with hempty
  · rfl
  · rcases partition_cases '%' (hostinfo parsed.netloc).1 with ⟨-, heq⟩ | ⟨_, _, -, -, heq⟩ <;>
      rw [heq]

/-- A host without a zone is lowered, and one with a zone is lowered in front of it. -/
theorem lowerHost_cases (tables : UnicodeTables) (host : PyStr) :
    ('%' ∉ host ∧ lowerHost tables host = lower tables host) ∨
      ∃ name zone, host = name ++ '%' :: zone ∧ '%' ∉ name ∧
        lowerHost tables host = lower tables name ++ '%' :: zone := by
  unfold lowerHost
  rcases partition_cases '%' host with ⟨hnot, heq⟩ | ⟨name, zone, htext, hnot, heq⟩
  · exact Or.inl ⟨hnot, by rw [heq]⟩
  · exact Or.inr ⟨name, zone, htext, hnot, by rw [heq]⟩

/-- Lowering a text keeps the delimiters of URLs. -/
theorem mem_lower_iff {d : Char} (hdelimiter : d ∈ urlDelimiters) (text : PyStr) :
    d ∈ lower tables text ↔ d ∈ text := by
  refine ⟨mem_of_mem_lower hdelimiter, fun hmem ↦ List.mem_flatMap.mpr ⟨d, hmem, ?_⟩⟩
  have hsame : ∀ e ∈ urlDelimiters, e.toNat < 0x80 ∧ e.toLower = e :=
    List.forall_iff_forall_mem.mp (by decide)
  obtain ⟨hascii, hlower⟩ := hsame d hdelimiter
  rw [lowerChar, if_pos hascii, hlower]
  exact List.mem_cons_self

/-- Lowering a host keeps the delimiters of URLs. -/
theorem mem_lowerHost_iff {d : Char} (hdelimiter : d ∈ urlDelimiters) (host : PyStr) :
    d ∈ lowerHost tables host ↔ d ∈ host := by
  rcases lowerHost_cases tables host with ⟨-, heq⟩ | ⟨name, zone, rfl, -, heq⟩
  · rw [heq, mem_lower_iff hdelimiter]
  · rw [heq, List.mem_append, List.mem_append, mem_lower_iff hdelimiter]

/-- What holds of the characters of a host, and is kept by lowering, holds of the host as it is
given. -/
theorem forall_mem_lowerHost {property : Char → Prop} {host : PyStr}
    (hlower : ∀ text, (∀ c ∈ text, property c) → ∀ d ∈ lower tables text, property d)
    (hhost : ∀ c ∈ host, property c) : ∀ d ∈ lowerHost tables host, property d := by
  rcases lowerHost_cases tables host with ⟨-, heq⟩ | ⟨name, zone, rfl, -, heq⟩
  · rw [heq]
    exact hlower host hhost
  · rw [heq]
    intro d hd
    rcases List.mem_append.mp hd with hname | hzone
    · exact hlower name (fun c hc ↦ hhost c (List.mem_append_left _ hc)) d hname
    · exact hhost d (List.mem_append_right _ hzone)

/-- Lowering a host twice is lowering it once. -/
theorem lowerHost_lowerHost (htables : AreUnicode tables) (host : PyStr) :
    lowerHost tables (lowerHost tables host) = lowerHost tables host := by
  have hpercent : '%' ∈ urlDelimiters := by decide
  rcases lowerHost_cases tables host with ⟨hnot, heq⟩ | ⟨name, zone, -, hnot, heq⟩
  · rw [heq, lowerHost, partition_of_notMem ((mem_lower_iff hpercent host).not.mpr hnot)]
    exact lower_lower htables host
  · rw [heq, lowerHost, partition_append_cons ((mem_lower_iff hpercent name).not.mpr hnot)]
    dsimp only
    rw [lower_lower htables]

/-- A host that is not empty is not lowered to nothing. -/
theorem lowerHost_eq_nil_iff (htables : AreUnicode tables) (host : PyStr) :
    lowerHost tables host = [] ↔ host = [] := by
  constructor
  · intro hempty
    rcases lowerHost_cases tables host with ⟨-, heq⟩ | ⟨name, zone, -, -, heq⟩
    · by_contra hne
      exact lower_ne_nil htables hne (heq ▸ hempty)
    · rw [heq] at hempty
      exact absurd hempty (by simp)
  · rintro rfl
    rfl

end PingGuard.Library.UrlSplit
