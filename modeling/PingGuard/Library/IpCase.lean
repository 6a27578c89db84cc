import PingGuard.Library.IpText

/-!
# The case of an address text

Lowering the letters of a text changes neither whether it is accepted as an address nor which
address it denotes. The zone of an IPv6 address keeps its case, so the text is one without a zone.
-/

set_option autoImplicit false
set_option relaxedAutoImplicit false

namespace PingGuard.Library.IpText

open IpAddress PyText

/-! ### Characters -/

/-- Lowering changes ASCII characters only. -/
theorem toLower_of_not_ascii {c : Char} (hascii : ¬ c.toNat < 0x80) : c.toLower = c := by
  unfold Char.toLower
  split_ifs with hupper
  · exact absurd (Nat.lt_of_le_of_lt hupper.2 (by decide)) hascii
  · rfl

/-- Lowering a character keeps its value as a hexadecimal digit. -/
theorem hexDigit_toLower (c : Char) : hexDigit c.toLower = hexDigit c := by
  by_cases hascii : c.toNat < 0x80
  · exact of_forall_ascii (fun c ↦ hexDigit c.toLower = hexDigit c) (by decide) hascii
  · rw [toLower_of_not_ascii hascii]

/-- Lowering a character leaves the decimal digits. -/
theorem isDigit_toLower (c : Char) :
    c.toLower.isDigit = c.isDigit ∧ (c.isDigit = true → c.toLower = c) := by
  by_cases hascii : c.toNat < 0x80
  · exact of_forall_ascii (fun c ↦ c.toLower.isDigit = c.isDigit ∧
      (c.isDigit = true → c.toLower = c)) (by decide) hascii
  · rw [toLower_of_not_ascii hascii]
    exact ⟨rfl, fun _ ↦ rfl⟩

/-- The delimiters of an address text. -/
def ipDelimiters : List Char := ['.', ':', '/', '%']

/-- Lowering a character leaves the delimiters. -/
theorem toLower_eq_iff {delimiter : Char} (hdelimiter : delimiter ∈ ipDelimiters) (c : Char) :
    c.toLower = delimiter ↔ c = delimiter := by
  by_cases hascii : c.toNat < 0x80
  · have hall : ipDelimiters.Forall fun d ↦ (c.toLower = d ↔ c = d) :=
      of_forall_ascii (fun c ↦ ipDelimiters.Forall fun d ↦ (c.toLower = d ↔ c = d)) (by decide)
        hascii
    exact List.forall_iff_forall_mem.mp hall delimiter hdelimiter
  · rw [toLower_of_not_ascii hascii]

/-- A delimiter is in a lowered text where it is in the text. -/
theorem mem_map_toLower_iff {delimiter : Char} (hdelimiter : delimiter ∈ ipDelimiters)
    (text : PyStr) : delimiter ∈ text.map Char.toLower ↔ delimiter ∈ text := by
  simp only [List.mem_map, toLower_eq_iff hdelimiter, exists_eq_right]

/-- A lowered text is cut at the same places. -/
theorem splitOn_map_toLower {delimiter : Char} (hdelimiter : delimiter ∈ ipDelimiters)
    (text : PyStr) :
    (text.map Char.toLower).splitOn delimiter =
      (text.splitOn delimiter).map (List.map Char.toLower) := by
  induction text with
  | nil => rfl
  | cons c rest ih =>
    rw [List.map_cons, List.splitOn_cons_eq_if_modifyHead, List.splitOn_cons_eq_if_modifyHead, ih]
    have hsame : (c.toLower == delimiter) = (c == delimiter) := by
      rw [Bool.eq_iff_iff, beq_iff_eq, beq_iff_eq, toLower_eq_iff hdelimiter]
    rw [hsame]
    by_cases hc : (c == delimiter) = true
    · rw [if_pos hc, if_pos hc]
      rfl
    · rw [if_neg hc, if_neg hc]
      obtain ⟨head, tail, hcons⟩ := List.exists_cons_of_ne_nil (List.splitOn_ne_nil delimiter rest)
      rw [hcons]
      rfl

/-! ### Numbers -/

/-- A text of decimal digits has no letter to lower. -/
theorem map_toLower_of_digits {text : PyStr} (hdigits : text.all Char.isDigit = true) :
    text.map Char.toLower = text := by
  have hsame : ∀ c ∈ text, c.toLower = id c :=
    fun c hc ↦ (isDigit_toLower c).2 (List.all_eq_true.mp hdigits c hc)
  rw [List.map_congr_left hsame, List.map_id]

/-- A lowered text has the same decimal digits. -/
theorem all_isDigit_map_toLower (text : PyStr) :
    (text.map Char.toLower).all Char.isDigit = text.all Char.isDigit := by
  rw [List.all_map]
  exact congrArg text.all (funext fun c ↦ (isDigit_toLower c).1)

/-- A lowered octet is the same octet. -/
theorem parseOctet_map_toLower (text : PyStr) :
    parseOctet (text.map Char.toLower) = parseOctet text := by
  by_cases hdigits : text.all Char.isDigit = true
  · rw [map_toLower_of_digits hdigits]
  · have hlowered : ¬ (text.map Char.toLower).all Char.isDigit = true := by
      rwa [all_isDigit_map_toLower]
    unfold parseOctet
    rw [if_pos hdigits, if_pos hlowered, ite_self, ite_self]

/-- A lowered hexadecimal number is the same number. -/
theorem readHex_map_toLower (sofar : ℕ) (text : PyStr) :
    readHex sofar (text.map Char.toLower) = readHex sofar text := by
  induction text generalizing sofar with
  | nil => rfl
  | cons c rest ih =>
    rw [List.map_cons, readHex, readHex, hexDigit_toLower]
    exact congrArg _ (funext fun digit ↦ ih _)

/-- A lowered hextet is the same hextet. -/
theorem parseHextet_map_toLower (text : PyStr) :
    parseHextet (text.map Char.toLower) = parseHextet text := by
  unfold parseHextet
  simp only [readHex_map_toLower, List.length_map, List.map_eq_nil_iff]

/-- The hexadecimal digits of a number are in lower case. -/
theorem map_toLower_toDigits (value : ℕ) :
    (Nat.toDigits 16 value).map Char.toLower = Nat.toDigits 16 value := by
  have hdigit : ∀ digit : Fin 16, (Nat.digitChar digit).toLower = Nat.digitChar digit := by decide
  induction value using Nat.strong_induction_on with
  | _ value ih =>
    by_cases hsmall : value < 16
    · rw [Nat.toDigits_of_lt_base hsmall, List.map_singleton]
      exact congrArg (fun c ↦ [c]) (hdigit ⟨value, hsmall⟩)
    · rw [Nat.toDigits_of_base_le (by norm_num) (Nat.not_lt.mp hsmall), List.map_append,
        ih _ (Nat.div_lt_self (by omega) (by norm_num)), List.map_singleton]
      exact congrArg (fun c ↦ _ ++ [c]) (hdigit ⟨value % 16, Nat.mod_lt _ (by norm_num)⟩)

/-! ### Addresses -/

/-- A lowered IPv4 text denotes the same address. -/
theorem parseIPv4_map_toLower (text : PyStr) :
    parseIPv4 (text.map Char.toLower) = parseIPv4 text := by
  have hslash : '/' ∈ ipDelimiters := by decide
  have hdot : '.' ∈ ipDelimiters := by decide
  unfold parseIPv4
  rw [splitOn_map_toLower hdot]
  simp only [mem_map_toLower_iff hslash]
  generalize text.splitOn '.' = parts
  match parts with
  | [a, b, c, d] => simp only [List.map_cons, List.map_nil, parseOctet_map_toLower]
  | [] | [_] | [_, _] | [_, _, _] => rfl
  | _ :: _ :: _ :: _ :: _ :: _ => rfl

/-- The lowered parts of a text. -/
abbrev lowerParts (parts : List PyStr) : List PyStr := parts.map (List.map Char.toLower)

/-- Rewriting an IPv4 suffix of lowered parts. -/
theorem expandIPv4Suffix_lowerParts (parts : List PyStr) :
    expandIPv4Suffix (lowerParts parts) = (expandIPv4Suffix parts).map lowerParts := by
  have hdot : '.' ∈ ipDelimiters := by decide
  have hlast : (lowerParts parts).getLastD [] = (parts.getLastD []).map Char.toLower := by
    rw [List.getLastD_eq_getLast?, List.getLastD_eq_getLast?, List.getLast?_map]
    cases parts.getLast? <;> rfl
  unfold expandIPv4Suffix
  rw [hlast, parseIPv4_map_toLower]
  simp only [mem_map_toLower_iff hdot]
  by_cases hmem : '.' ∈ parts.getLastD []
  · rw [if_pos hmem, if_pos hmem]
    cases parseIPv4 (parts.getLastD []) with
    | none => rfl
    | some suffix => simp [lowerParts, map_toLower_toDigits, List.map_dropLast]
  · rw [if_neg hmem, if_neg hmem]
    rfl

/-- Empty parts stay empty. -/
theorem skipIndexes_lowerParts (parts : List PyStr) :
    skipIndexes (lowerParts parts) = skipIndexes parts := by
  unfold skipIndexes
  rw [List.length_map]
  refine List.filter_congr fun i _ ↦ ?_
  simp [List.getElem?_map]

/-- The parts before `::`. -/
theorem partsHi_lowerParts (parts : List PyStr) :
    partsHi (lowerParts parts) = (partsHi parts).map lowerParts := by
  match parts with
  | [] => rfl
  | [[]] => rfl
  | [] :: _ :: _ => rfl
  | (_ :: _) :: _ => rfl

/-- The parts after `::`. -/
theorem partsLo_lowerParts (parts : List PyStr) :
    partsLo (lowerParts parts) = (partsLo parts).map lowerParts := by
  unfold partsLo
  have hsingle : lowerParts parts = [[]] ↔ parts = [[]] := by
    simp [lowerParts, List.map_eq_cons_iff]
  have hlast : (lowerParts parts).getLast? = some [] ↔ parts.getLast? = some [] := by
    simp [lowerParts, List.getLast?_map]
  simp only [hsingle, hlast]
  split_ifs <;> rfl

/-- Lowered hextets are the same hextets. -/
theorem mapM_parseHextet_lowerParts (parts : List PyStr) :
    (lowerParts parts).mapM parseHextet = parts.mapM parseHextet := by
  rw [List.mapM_map]
  exact congrArg (parts.mapM ·) (funext parseHextet_map_toLower)

/-- A lowered text has the same hextets. -/
theorem hextetsOfText_map_toLower (text : PyStr) :
    hextetsOfText (text.map Char.toLower) = hextetsOfText text := by
  have hcolon : ':' ∈ ipDelimiters := by decide
  unfold hextetsOfText
  rw [splitOn_map_toLower hcolon]
  dsimp only
  rw [List.length_map, expandIPv4Suffix_lowerParts]
  by_cases hshort : (text.splitOn ':').length < 3
  · rw [if_pos hshort, if_pos hshort]
  rw [if_neg hshort, if_neg hshort]
  cases expandIPv4Suffix (text.splitOn ':') with
  | none => rfl
  | some parts =>
    change (if 9 < (lowerParts parts).length then none else _) =
      (if 9 < parts.length then none else _)
    rw [List.length_map, skipIndexes_lowerParts]
    by_cases hlong : 9 < parts.length
    · rw [if_pos hlong, if_pos hlong]
    rw [if_neg hlong, if_neg hlong]
    match skipIndexes parts with
    | [] => simp only [mapM_parseHextet_lowerParts]
    | [skip] =>
      dsimp only
      rw [← List.map_take, ← List.map_drop, partsHi_lowerParts, partsLo_lowerParts]
      cases partsHi (parts.take skip) with
      | none => rfl
      | some hi =>
        cases partsLo (parts.drop (skip + 1)) with
        | none => simp only [Option.bind_eq_bind, Option.map_some, Option.map_none,
            Option.bind_some, Option.bind_none, mapM_parseHextet_lowerParts]
        | some lo => simp only [Option.bind_eq_bind, Option.map_some, Option.bind_some,
            mapM_parseHextet_lowerParts]
    | _ :: _ :: _ => rfl

/-- A lowered text without a zone denotes the same address. -/
theorem ipAddress_map_toLower {text : PyStr} (hzone : '%' ∉ text) :
    ipAddress (text.map Char.toLower) = ipAddress text := by
  have hslash : '/' ∈ ipDelimiters := by decide
  have hpercent : '%' ∈ ipDelimiters := by decide
  have hlowered : '%' ∉ text.map Char.toLower := by rwa [mem_map_toLower_iff hpercent]
  have hv6 : parseIPv6 (text.map Char.toLower) = parseIPv6 text := by
    unfold parseIPv6 splitScopeId
    rw [partition_of_notMem hzone, partition_of_notMem hlowered]
    simp only [mem_map_toLower_iff hslash, Option.bind_eq_bind, Option.bind_some,
      hextetsOfText_map_toLower]
  unfold ipAddress
  rw [parseIPv4_map_toLower, hv6]

/-! ### The characters of a text without a zone -/

/-- The characters of an address text without a zone. -/
def literalCharacters : List Char := "0123456789abcdefABCDEF.:".toList

/-- A hexadecimal digit is one of them. -/
theorem mem_literalCharacters_of_hexDigit {c : Char} (hhex : (hexDigit c).isSome = true) :
    c ∈ literalCharacters := by
  have hascii : c.toNat < 0x80 := by
    unfold hexDigit at hhex
    split_ifs at hhex with hdigit hlower hupper
    · exact Nat.lt_of_le_of_lt hdigit.2 (by decide)
    · exact Nat.lt_of_le_of_lt hlower.2 (by decide)
    · exact Nat.lt_of_le_of_lt hupper.2 (by decide)
    · nomatch hhex
  exact of_forall_ascii (fun c ↦ (hexDigit c).isSome = true → c ∈ literalCharacters) (by decide)
    hascii hhex

/-- An accepted text without a zone consists of them. -/
theorem mem_literalCharacters {text : PyStr} {address : IPAddress}
    (hparse : ipAddress text = some address) (hzone : '%' ∉ text) :
    ∀ c ∈ text, c ∈ literalCharacters := by
  have hdot : '.' ∈ literalCharacters := by decide
  have hcolon : ':' ∈ literalCharacters := by decide
  intro c hc
  unfold ipAddress at hparse
  split at hparse
  case h_1 ipv4 hv4 =>
    rcases eq_dot_or_isDigit_of_parseIPv4 hv4 c hc with rfl | hdigit
    · exact hdot
    · exact mem_literalCharacters_of_hexDigit (hexDigit_isSome_of_isDigit hdigit)
  case h_2 =>
    obtain ⟨ipv6, hv6, rfl⟩ := Option.map_eq_some_iff.mp hparse
    unfold parseIPv6 splitScopeId at hv6
    rw [partition_of_notMem hzone] at hv6
    split_ifs at hv6
    simp only [Option.bind_eq_bind, Option.bind_some, Option.bind_eq_some_iff] at hv6
    obtain ⟨hextets, hhextets, -⟩ := hv6
    rcases mem_of_hextetsOfText hhextets hc with rfl | rfl | hhex
    · exact hcolon
    · exact hdot
    · exact mem_literalCharacters_of_hexDigit hhex

end PingGuard.Library.IpText
