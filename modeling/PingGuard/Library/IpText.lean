import Mathlib.Data.List.Nodup
import Mathlib.Tactic.NormNum
import PingGuard.Library.IpAddress
import PingGuard.Library.PyText

/-!
# The text of an internet address

The textual half of Python's `ipaddress` module. `ipAddress` is `ipaddress.ip_address` on text: it
accepts the dotted form of an IPv4 address and the forms of an IPv6 address with at most one `::`,
with an IPv4 suffix, and with a zone. `IPAddress.toText` is `str`: the dotted form, or the
compressed form in which the first longest run of at least two zero hextets becomes `::`.

`ipAddress_toText` is the round trip: the text of an address is accepted and denotes that address,
for every address whose zone is one that parsing can produce. `colon_mem_iff_of_ipAddress` says
which family a text belongs to.
-/

set_option autoImplicit false
set_option relaxedAutoImplicit false

namespace PingGuard.Library.IpText

open IpAddress PyText

/-! ### Reading an address -/

/-- `IPv4Address._parse_octet`; nothing stands for its `ValueError`. -/
def parseOctet (text : PyStr) : Option (Fin 256) :=
  if text = [] then none
  else if ¬ text.all Char.isDigit then none
  else if 3 < text.length then none
  else if text ≠ ['0'] ∧ text.head? = some '0' then none
  else if h : Nat.ofDigitChars 10 text 0 < 256 then some ⟨Nat.ofDigitChars 10 text 0, h⟩
  else none

/-- The IPv4 address with the given octets. -/
def ofOctets (a b c d : Fin 256) : IPv4Address where
  value := a * 2 ^ 24 + b * 2 ^ 16 + c * 2 ^ 8 + d
  value_lt := by omega

/-- `IPv4Address(text)`; nothing stands for its `AddressValueError`. -/
def parseIPv4 (text : PyStr) : Option IPv4Address :=
  if '/' ∈ text then none
  else match text.splitOn '.' with
    | [a, b, c, d] => do
      return ofOctets (← parseOctet a) (← parseOctet b) (← parseOctet c) (← parseOctet d)
    | _ => none

/-- The value of a hexadecimal digit. -/
def hexDigit (c : Char) : Option ℕ :=
  if '0' ≤ c ∧ c ≤ '9' then some (c.toNat - '0'.toNat)
  else if 'a' ≤ c ∧ c ≤ 'f' then some (c.toNat - 'a'.toNat + 10)
  else if 'A' ≤ c ∧ c ≤ 'F' then some (c.toNat - 'A'.toNat + 10)
  else none

/-- The number that a text of hexadecimal digits denotes after the digits read so far. -/
def readHex : ℕ → PyStr → Option ℕ
  | sofar, [] => some sofar
  | sofar, c :: rest => do readHex (sofar * 16 + (← hexDigit c)) rest

/-- `IPv6Address._parse_hextet`; nothing stands for its `ValueError`. -/
def parseHextet (text : PyStr) : Option ℕ :=
  if text = [] ∨ 4 < text.length then none else readHex 0 text

/-- The integer with the given hextets, the first one most significant. -/
def ofHextets (hextets : List ℕ) : ℕ := hextets.foldl (fun value hextet ↦ value * 2 ^ 16 + hextet) 0

/-- The parts of an IPv6 text, an IPv4 suffix rewritten as two hextets. -/
def expandIPv4Suffix (parts : List PyStr) : Option (List PyStr) :=
  if '.' ∈ parts.getLastD [] then do
    let suffix ← parseIPv4 (parts.getLastD [])
    return parts.dropLast ++
      [Nat.toDigits 16 (suffix.value / 2 ^ 16), Nat.toDigits 16 (suffix.value % 2 ^ 16)]
  else some parts

/-- The positions of the empty parts, the first and the last part aside. -/
def skipIndexes (parts : List PyStr) : List ℕ :=
  (List.range (parts.length - 1)).filter fun i ↦ 0 < i ∧ parts[i]? = some []

/-- The parts before `::`: an empty first part is allowed only directly before `::`. -/
def partsHi : List PyStr → Option (List PyStr)
  | [[]] => some []
  | [] :: _ => none
  | parts => some parts

/-- The parts after `::`: an empty last part is allowed only directly after `::`. -/
def partsLo (parts : List PyStr) : Option (List PyStr) :=
  if parts = [[]] then some []
  else if parts.getLast? = some [] then none
  else some parts

/-- `IPv6Address._ip_int_from_string` up to the hextets, zero hextets standing for `::`. -/
def hextetsOfText (text : PyStr) : Option (List ℕ) :=
  let split := text.splitOn ':'
  if split.length < 3 then none
  else do
    let parts ← expandIPv4Suffix split
    if 9 < parts.length then none
    else match skipIndexes parts with
      | [] => if parts.length = 8 then parts.mapM parseHextet else none
      | [skip] => do
        let hi ← (← partsHi (parts.take skip)).mapM parseHextet
        let lo ← (← partsLo (parts.drop (skip + 1))).mapM parseHextet
        if 8 ≤ hi.length + lo.length then none
        else some (hi ++ List.replicate (8 - (hi.length + lo.length)) 0 ++ lo)
      | _ => none

/-- `IPv6Address._split_scope_id`: the text before `%` and the zone after it. -/
def splitScopeId (text : PyStr) : Option (PyStr × Option PyStr) :=
  match partition '%' text with
  | (address, false, _) => some (address, none)
  | (address, true, scopeId) =>
    if scopeId = [] ∨ '%' ∈ scopeId then none else some (address, some scopeId)

/-- `IPv6Address(text)`; nothing stands for its `AddressValueError`. The bound on the value holds
of any eight hextets. -/
def parseIPv6 (text : PyStr) : Option IPv6Address :=
  if '/' ∈ text then none
  else do
    let (address, scopeId) ← splitScopeId text
    let hextets ← hextetsOfText address
    if h : ofHextets hextets < 2 ^ 128 then some ⟨ofHextets hextets, h, scopeId⟩ else none

/-- `ipaddress.ip_address(text)`; nothing stands for its `ValueError`. -/
def ipAddress (text : PyStr) : Option IPAddress :=
  match parseIPv4 text with
  | some address => some (.v4 address)
  | none => (parseIPv6 text).map .v6

/-! ### Writing an address -/

/-- `str` of an IPv4 address. -/
def IPv4Address.toText (address : IPv4Address) : PyStr :=
  ['.'].intercalate
    [Nat.toDigits 10 (address.value / 2 ^ 24), Nat.toDigits 10 (address.value / 2 ^ 16 % 2 ^ 8),
      Nat.toDigits 10 (address.value / 2 ^ 8 % 2 ^ 8), Nat.toDigits 10 (address.value % 2 ^ 8)]

/-- The eight hextets of an IPv6 address, the first one most significant. -/
def hextetsOf (value : ℕ) : List ℕ :=
  (List.range 8).map fun i ↦ value / 2 ^ (112 - 16 * i) % 2 ^ 16

/-- The accumulators of `_compress_hextets`: the current run of zeros and the best one so far, each
with its start and its length. -/
structure ZeroRuns where
  start : ℕ
  length : ℕ
  bestStart : ℕ
  bestLength : ℕ

/-- One turn of the loop of `_compress_hextets`. A run of length zero has no start; the `-1` of the
source is never read. -/
def ZeroRuns.advance (runs : ZeroRuns) (index hextet : ℕ) : ZeroRuns :=
  if hextet = 0 then
    let start := if runs.length = 0 then index else runs.start
    let length := runs.length + 1
    if runs.bestLength < length then ⟨start, length, start, length⟩
    else ⟨start, length, runs.bestStart, runs.bestLength⟩
  else ⟨0, 0, runs.bestStart, runs.bestLength⟩

/-- The loop of `_compress_hextets` from an index on. -/
def zeroRuns (runs : ZeroRuns) (index : ℕ) : List ℕ → ZeroRuns
  | [] => runs
  | hextet :: rest => zeroRuns (runs.advance index hextet) (index + 1) rest

/-- `IPv6Address._compress_hextets` on the hexadecimal texts of the hextets. -/
def compressHextets (hextets : List ℕ) : List PyStr :=
  let texts := hextets.map (Nat.toDigits 16)
  let runs := zeroRuns ⟨0, 0, 0, 0⟩ 0 hextets
  let stop := runs.bestStart + runs.bestLength
  if 1 < runs.bestLength then
    (if runs.bestStart = 0 then [[]] else []) ++ texts.take runs.bestStart ++ [[]] ++
      texts.drop stop ++ (if stop = texts.length then [[]] else [])
  else texts

/-- `str` of an IPv6 address. -/
def IPv6Address.toText (address : IPv6Address) : PyStr :=
  [':'].intercalate (compressHextets (hextetsOf address.value)) ++
    match address.scopeId with
    | some scopeId => if scopeId = [] then [] else '%' :: scopeId
    | none => []

/-- `str` of an address of either family. -/
def IPAddress.toText : IPAddress → PyStr
  | .v4 address => IPv4Address.toText address
  | .v6 address => IPv6Address.toText address

/-! ### Digits -/

/-- Reading hexadecimal digits one after the other. -/
theorem readHex_append (sofar : ℕ) (first second : PyStr) :
    readHex sofar (first ++ second) = (readHex sofar first).bind (readHex · second) := by
  induction first generalizing sofar with
  | nil => rfl
  | cons c rest ih =>
    rw [List.cons_append, readHex, readHex]
    cases hexDigit c with
    | none => rfl
    | some digit => exact ih _

/-- Text that reads as a hexadecimal number consists of hexadecimal digits. -/
theorem hexDigit_isSome_of_readHex {sofar value : ℕ} {text : PyStr}
    (hread : readHex sofar text = some value) : ∀ c ∈ text, (hexDigit c).isSome = true := by
  induction text generalizing sofar with
  | nil => exact fun c hc ↦ absurd hc List.not_mem_nil
  | cons head rest ih =>
    rw [readHex] at hread
    cases hhead : hexDigit head with
    | none => simp [hhead] at hread
    | some digit =>
      simp only [hhead, Option.bind_eq_bind, Option.bind_some] at hread
      intro c hc
      rcases List.mem_cons.mp hc with rfl | hc
      · rw [hhead]
        rfl
      · exact ih hread c hc

/-- The hexadecimal digits of a number read back as the number. -/
theorem readHex_toDigits (value : ℕ) : readHex 0 (Nat.toDigits 16 value) = some value := by
  have hdigit : ∀ digit : Fin 16, readHex 0 [Nat.digitChar digit] = some digit.val := by decide
  have hlast : ∀ (sofar : ℕ) (digit : Fin 16),
      readHex sofar [Nat.digitChar digit] = some (sofar * 16 + digit) := fun sofar digit ↦ by
    have := hdigit digit
    rw [readHex] at this ⊢
    cases hc : hexDigit (Nat.digitChar digit) with
    | none => simp [hc] at this
    | some read =>
      simp only [hc, Option.bind_eq_bind, Option.bind_some, readHex, Nat.zero_mul, Nat.zero_add,
        Option.some.injEq] at this ⊢
      rw [this]
  induction value using Nat.strong_induction_on with
  | _ value ih =>
    by_cases hsmall : value < 16
    · rw [Nat.toDigits_of_lt_base hsmall]
      exact hdigit ⟨value, hsmall⟩
    · rw [Nat.toDigits_of_base_le (by norm_num) (Nat.not_lt.mp hsmall), readHex_append,
        ih _ (Nat.div_lt_self (by omega) (by norm_num)), Option.bind_some,
        hlast (value / 16) ⟨value % 16, Nat.mod_lt _ (by norm_num)⟩]
      congr 1
      exact Nat.div_add_mod' value 16

/-- A delimiter is not a hexadecimal digit. -/
theorem notMem_toDigits_hex {c : Char} (hc : hexDigit c = none) (value : ℕ) :
    c ∉ Nat.toDigits 16 value := fun hmem ↦ by
  have := hexDigit_isSome_of_readHex (readHex_toDigits value) c hmem
  rw [hc] at this
  exact Bool.noConfusion this

/-- The hexadecimal text of a hextet is parsed as the hextet. -/
theorem parseHextet_toDigits {hextet : ℕ} (hlt : hextet < 2 ^ 16) :
    parseHextet (Nat.toDigits 16 hextet) = some hextet := by
  have hlength : (Nat.toDigits 16 hextet).length ≤ 4 :=
    (Nat.length_toDigits_le_iff (by norm_num) (by norm_num)).mpr (by omega)
  rw [parseHextet, if_neg (not_or.mpr ⟨Nat.toDigits_ne_nil, Nat.not_lt.mpr hlength⟩),
    readHex_toDigits]

/-- The decimal text of an octet is parsed as the octet. -/
theorem parseOctet_toDigits (octet : Fin 256) :
    parseOctet (Nat.toDigits 10 octet) = some octet := by
  revert octet
  decide +kernel

/-- The hexadecimal texts of hextets are parsed as the hextets. -/
theorem mapM_parseHextet_toDigits {hextets : List ℕ} (hlt : ∀ hextet ∈ hextets, hextet < 2 ^ 16) :
    (hextets.map (Nat.toDigits 16)).mapM parseHextet = some hextets := by
  induction hextets with
  | nil => rfl
  | cons head rest ih =>
    rw [List.map_cons, List.mapM_cons, parseHextet_toDigits (hlt head List.mem_cons_self),
      ih fun hextet hmem ↦ hlt hextet (List.mem_cons_of_mem _ hmem)]
    rfl

/-! ### The dotted form -/

/-- What is accepted as an octet consists of decimal digits. -/
theorem isDigit_of_parseOctet {text : PyStr} {octet : Fin 256}
    (hparse : parseOctet text = some octet) : ∀ c ∈ text, c.isDigit = true := by
  unfold parseOctet at hparse
  split_ifs at hparse with hempty hdigits
  exact List.all_eq_true.mp hdigits

/-- What is accepted as an IPv4 address has four octets and no slash. -/
theorem parseIPv4_eq_some {text : PyStr} {address : IPv4Address}
    (hparse : parseIPv4 text = some address) :
    '/' ∉ text ∧ ∃ parts : List PyStr, text.splitOn '.' = parts ∧
      ∀ part ∈ parts, ∃ octet, parseOctet part = some octet := by
  unfold parseIPv4 at hparse
  split_ifs at hparse with hslash
  refine ⟨hslash, _, rfl, ?_⟩
  split at hparse
  case h_1 a b c d hsplit =>
    simp only [Option.bind_eq_bind, Option.bind_eq_some_iff, Option.pure_def] at hparse
    obtain ⟨octetA, ha, octetB, hb, octetC, hc, octetD, hd, -⟩ := hparse
    rw [hsplit]
    intro part hpart
    simp only [List.mem_cons, List.not_mem_nil, or_false] at hpart
    rcases hpart with rfl | rfl | rfl | rfl
    · exact ⟨_, ha⟩
    · exact ⟨_, hb⟩
    · exact ⟨_, hc⟩
    · exact ⟨_, hd⟩
  case h_2 => exact absurd hparse (by simp)

/-- What is accepted as an IPv4 address consists of decimal digits and dots. -/
theorem eq_dot_or_isDigit_of_parseIPv4 {text : PyStr} {address : IPv4Address}
    (hparse : parseIPv4 text = some address) : ∀ c ∈ text, c = '.' ∨ c.isDigit = true := by
  obtain ⟨-, parts, hsplit, hparts⟩ := parseIPv4_eq_some hparse
  have hjoin : ['.'].intercalate (text.splitOn '.') = text := List.intercalate_splitOn '.'
  intro c hc
  rw [← hjoin, hsplit] at hc
  rcases eq_or_mem_of_mem_intercalate hc with hdot | ⟨part, hpart, hmem⟩
  · exact Or.inl hdot
  · obtain ⟨octet, hoctet⟩ := hparts part hpart
    exact Or.inr (isDigit_of_parseOctet hoctet c hmem)

/-- The dotted form of an IPv4 address is parsed as the address. -/
theorem parseIPv4_toText (address : IPv4Address) :
    parseIPv4 (IPv4Address.toText address) = some address := by
  have hlt := address.value_lt
  have hdot : ∀ value, '.' ∉ Nat.toDigits 10 value := fun value hmem ↦
    absurd (Nat.isDigit_of_mem_toDigits (by norm_num) (by norm_num) hmem) (by decide)
  have hslash : '/' ∉ IPv4Address.toText address := fun hmem ↦ by
    rcases eq_or_mem_of_mem_intercalate hmem with heq | ⟨part, hpart, hc⟩
    · exact absurd heq (by decide)
    · simp only [List.mem_cons, List.not_mem_nil, or_false] at hpart
      rcases hpart with rfl | rfl | rfl | rfl <;>
        exact absurd (Nat.isDigit_of_mem_toDigits (by norm_num) (by norm_num) hc) (by decide)
  have hsplit : (IPv4Address.toText address).splitOn '.' =
      [Nat.toDigits 10 (address.value / 2 ^ 24), Nat.toDigits 10 (address.value / 2 ^ 16 % 2 ^ 8),
        Nat.toDigits 10 (address.value / 2 ^ 8 % 2 ^ 8),
        Nat.toDigits 10 (address.value % 2 ^ 8)] :=
    List.splitOn_intercalate '.' (by simp [hdot]) (by simp)
  have hoctet : ∀ value, value < 256 → ∃ octet : Fin 256, octet.val = value ∧
      parseOctet (Nat.toDigits 10 value) = some octet := fun value h ↦
    ⟨⟨value, h⟩, rfl, parseOctet_toDigits ⟨value, h⟩⟩
  obtain ⟨a, ha, hparseA⟩ := hoctet (address.value / 2 ^ 24) (by omega)
  obtain ⟨b, hb, hparseB⟩ := hoctet (address.value / 2 ^ 16 % 2 ^ 8) (by omega)
  obtain ⟨c, hc, hparseC⟩ := hoctet (address.value / 2 ^ 8 % 2 ^ 8) (by omega)
  obtain ⟨d, hd, hparseD⟩ := hoctet (address.value % 2 ^ 8) (by omega)
  have hvalue : ofOctets a b c d = address := by
    cases address
    simp only [ofOctets, IPv4Address.mk.injEq] at ha hb hc hd ⊢
    omega
  rw [parseIPv4, if_neg hslash, hsplit]
  simp only [hparseA, hparseB, hparseC, hparseD, Option.bind_eq_bind, Option.bind_some,
    Option.pure_def, hvalue]

/-! ### The compressed form -/

/-- The accumulators describe the hextets read so far: the current run is their last zeros, and the
best run is a stretch of zeros inside them. -/
structure ZeroRuns.Describes (runs : ZeroRuns) (seen : List ℕ) : Prop where
  current : ∃ before, seen = before ++ List.replicate runs.length 0 ∧
    (runs.length ≠ 0 → before.length = runs.start)
  best : ∃ before after, seen = before ++ List.replicate runs.bestLength 0 ++ after ∧
    (runs.bestLength ≠ 0 → before.length = runs.bestStart)

/-- A turn of the loop keeps the accumulators a description of what has been read. -/
theorem ZeroRuns.Describes.advance {runs : ZeroRuns} {seen : List ℕ} (hruns : runs.Describes seen)
    (hextet : ℕ) : (runs.advance seen.length hextet).Describes (seen ++ [hextet]) := by
  obtain ⟨⟨before, hseen, hstart⟩, ⟨bestBefore, bestAfter, hbest, hbestStart⟩⟩ := hruns
  have hkept : ∃ before after, seen ++ [hextet] =
      before ++ List.replicate runs.bestLength 0 ++ after ∧
        (runs.bestLength ≠ 0 → before.length = runs.bestStart) :=
    ⟨bestBefore, bestAfter ++ [hextet], by simp [hbest], hbestStart⟩
  by_cases hzero : hextet = 0
  · subst hzero
    have hlonger : seen ++ [0] = before ++ List.replicate (runs.length + 1) 0 := by
      rw [List.replicate_succ', ← List.append_assoc, ← hseen]
    have hbefore : before.length = if runs.length = 0 then seen.length else runs.start := by
      split_ifs with hnone
      · rw [hseen, hnone]
        simp
      · exact hstart hnone
    rw [ZeroRuns.advance, if_pos rfl]
    dsimp only
    rw [← hbefore]
    split_ifs with hbetter
    · exact ⟨⟨before, hlonger, fun _ ↦ rfl⟩, ⟨before, [], by simpa using hlonger, fun _ ↦ rfl⟩⟩
    · exact ⟨⟨before, hlonger, fun _ ↦ rfl⟩, hkept⟩
  · rw [ZeroRuns.advance, if_neg hzero]
    exact ⟨⟨seen ++ [hextet], by simp, fun h ↦ absurd rfl h⟩, hkept⟩

/-- After the loop the accumulators describe all hextets. -/
theorem ZeroRuns.Describes.zeroRuns {runs : ZeroRuns} {seen : List ℕ}
    (hruns : runs.Describes seen) (rest : List ℕ) :
    (zeroRuns runs seen.length rest).Describes (seen ++ rest) := by
  induction rest generalizing runs seen with
  | nil => simpa [IpText.zeroRuns] using hruns
  | cons hextet rest ih =>
    have hstep := ih (hruns.advance hextet)
    rwa [List.length_append, List.length_singleton, List.append_assoc, List.singleton_append]
      at hstep

/-- The parts on one side of `::`: the texts of the hextets there, or one empty part where there
are none. -/
def sideOfSkip (hextets : List ℕ) : List PyStr :=
  if hextets = [] then [[]] else hextets.map (Nat.toDigits 16)

/-- The compressed form is the plain form, or it replaces at least two zero hextets by `::`. -/
theorem compressHextets_cases (hextets : List ℕ) :
    compressHextets hextets = hextets.map (Nat.toDigits 16) ∨
      ∃ before skipped after, 2 ≤ skipped ∧
        hextets = before ++ List.replicate skipped 0 ++ after ∧
          compressHextets hextets = sideOfSkip before ++ [] :: sideOfSkip after := by
  have hstart : (⟨0, 0, 0, 0⟩ : ZeroRuns).Describes [] :=
    ⟨⟨[], rfl, fun h ↦ absurd rfl h⟩, ⟨[], [], rfl, fun h ↦ absurd rfl h⟩⟩
  obtain ⟨-, before, after, hsplit, hbefore⟩ := hstart.zeroRuns hextets
  rw [List.nil_append, List.length_nil] at hsplit
  rw [List.length_nil] at hbefore
  unfold compressHextets
  generalize zeroRuns ⟨0, 0, 0, 0⟩ 0 hextets = runs at hsplit hbefore
  dsimp only
  by_cases hlong : 1 < runs.bestLength
  · have hstartLength : before.length = runs.bestStart := hbefore (by omega)
    have htake : (hextets.map (Nat.toDigits 16)).take runs.bestStart =
        before.map (Nat.toDigits 16) := by
      rw [hsplit, ← hstartLength, List.append_assoc, List.map_append,
        List.take_left' (List.length_map _)]
    have hdrop : (hextets.map (Nat.toDigits 16)).drop (runs.bestStart + runs.bestLength) =
        after.map (Nat.toDigits 16) := by
      rw [hsplit, List.map_append, List.drop_left' (by simp [hstartLength])]
    have hfirst : (if runs.bestStart = 0 then [[]] else []) ++ before.map (Nat.toDigits 16) =
        sideOfSkip before := by
      rw [← hstartLength, sideOfSkip]
      cases before <;> simp
    have hlast : after.map (Nat.toDigits 16) ++
        (if runs.bestStart + runs.bestLength = (hextets.map (Nat.toDigits 16)).length then [[]]
          else []) = sideOfSkip after := by
      rw [List.length_map, hsplit, sideOfSkip]
      cases after <;> simp [hstartLength]
    refine Or.inr ⟨before, runs.bestLength, after, hlong, hsplit, ?_⟩
    rw [if_pos hlong, htake, hdrop, hfirst, List.append_assoc _ _ (ite _ _ _), hlast,
      List.append_assoc, List.singleton_append]
  · exact Or.inl (if_neg hlong)

/-- One empty part strictly inside the parts is the only position of `::`. -/
theorem skipIndexes_append {before after : List PyStr} (hbefore : before ≠ [])
    (hafter : after ≠ []) (hfirst : ∀ i, 0 < i → before[i]? ≠ some [])
    (hlast : ∀ i, i + 1 < after.length → after[i]? ≠ some []) :
    skipIndexes (before ++ [] :: after) = [before.length] := by
  have hpos : 0 < before.length := List.length_pos_of_ne_nil hbefore
  have hpos' : 0 < after.length := List.length_pos_of_ne_nil hafter
  have hiff : ∀ i ∈ List.range ((before ++ [] :: after).length - 1),
      (decide (0 < i ∧ (before ++ [] :: after)[i]? = some [])) = (i == before.length) := by
    intro i hi
    rw [List.mem_range, List.length_append, List.length_cons] at hi
    rw [Bool.eq_iff_iff, decide_eq_true_eq, beq_iff_eq]
    constructor
    · rintro ⟨hipos, hempty⟩
      by_contra hne
      rcases Nat.lt_or_gt_of_ne hne with hlt | hgt
      · rw [List.getElem?_append_left hlt] at hempty
        exact hfirst i hipos hempty
      · obtain ⟨k, rfl⟩ := Nat.exists_eq_add_of_lt hgt
        rw [List.getElem?_append_right (by omega)] at hempty
        have hindex : before.length + k + 1 - before.length = k + 1 := by omega
        rw [hindex, List.getElem?_cons_succ] at hempty
        exact hlast k (by omega) hempty
    · rintro rfl
      exact ⟨hpos, by simp⟩
  rw [skipIndexes, List.filter_congr hiff, List.filter_beq]
  have hcount : (List.range ((before ++ [] :: after).length - 1)).count before.length = 1 :=
    List.count_eq_one_of_mem List.nodup_range
      (List.mem_range.mpr (by rw [List.length_append, List.length_cons]; omega))
  rw [hcount, List.replicate_one]

/-- No hextet has an empty text. -/
theorem map_toDigits_getElem?_ne (hextets : List ℕ) (i : ℕ) :
    (hextets.map (Nat.toDigits 16))[i]? ≠ some [] := fun hempty ↦ by
  rw [List.getElem?_map, Option.map_eq_some_iff] at hempty
  obtain ⟨hextet, -, hdigits⟩ := hempty
  exact Nat.toDigits_ne_nil hdigits

/-- The parts on one side of `::` are parsed as its hextets, before `::`. -/
theorem partsHi_sideOfSkip (hextets : List ℕ) :
    partsHi (sideOfSkip hextets) = some (hextets.map (Nat.toDigits 16)) := by
  cases hextets with
  | nil => rfl
  | cons head rest =>
    have hne : Nat.toDigits 16 head ≠ [] := Nat.toDigits_ne_nil
    rw [sideOfSkip, if_neg (List.cons_ne_nil _ _), List.map_cons]
    cases hdigits : Nat.toDigits 16 head with
    | nil => exact absurd hdigits hne
    | cons c digits => rfl

/-- The parts on one side of `::` are parsed as its hextets, after `::`. -/
theorem partsLo_sideOfSkip (hextets : List ℕ) :
    partsLo (sideOfSkip hextets) = some (hextets.map (Nat.toDigits 16)) := by
  cases hextets with
  | nil => rfl
  | cons head rest =>
    have hne : (head :: rest).map (Nat.toDigits 16) ≠ [[]] := fun heq ↦
      map_toDigits_getElem?_ne (head :: rest) 0 (by rw [heq]; rfl)
    have hlast : ((head :: rest).map (Nat.toDigits 16)).getLast? ≠ some [] := fun heq ↦ by
      rw [List.getLast?_eq_getElem?] at heq
      exact map_toDigits_getElem?_ne _ _ heq
    rw [sideOfSkip, if_neg (List.cons_ne_nil _ _), partsLo, if_neg hne, if_neg hlast]

/-- A side of `::` is never without parts. -/
theorem sideOfSkip_ne_nil (hextets : List ℕ) : sideOfSkip hextets ≠ [] := by
  cases hextets <;> simp [sideOfSkip]

/-- Only a side without hextets has an empty part, and then it has no other part. -/
theorem sideOfSkip_getElem?_ne {hextets : List ℕ} {i : ℕ}
    (hi : 0 < i ∨ i + 1 < (sideOfSkip hextets).length) : (sideOfSkip hextets)[i]? ≠ some [] := by
  cases hextets with
  | nil =>
    have hpos : 0 < i := hi.resolve_right (by simp [sideOfSkip])
    rw [sideOfSkip, if_pos rfl, List.getElem?_eq_none (Nat.succ_le_of_lt hpos)]
    exact Option.some_ne_none _ |>.symm
  | cons head rest =>
    rw [sideOfSkip, if_neg (List.cons_ne_nil _ _)]
    exact map_toDigits_getElem?_ne _ _

/-- A side of `::` has one part more than hextets exactly when it has no hextet. -/
theorem length_sideOfSkip (hextets : List ℕ) :
    (sideOfSkip hextets).length = max 1 hextets.length := by
  cases hextets <;> simp [sideOfSkip]

/-- A character that is no hexadecimal digit occurs in no part of a side of `::`. -/
theorem notMem_sideOfSkip {c : Char} (hc : hexDigit c = none) (hextets : List ℕ) :
    ∀ part ∈ sideOfSkip hextets, c ∉ part := by
  intro part hpart
  unfold sideOfSkip at hpart
  split_ifs at hpart with hnil
  · rw [List.mem_singleton.mp hpart]
    exact List.not_mem_nil
  · obtain ⟨hextet, -, rfl⟩ := List.mem_map.mp hpart
    exact notMem_toDigits_hex hc hextet

/-- A character that is no hexadecimal digit occurs in no part of the compressed form. -/
theorem notMem_compressHextets {c : Char} (hc : hexDigit c = none) (hextets : List ℕ) :
    ∀ part ∈ compressHextets hextets, c ∉ part := by
  intro part hpart
  rcases compressHextets_cases hextets with hplain | ⟨before, _, after, _, _, hskip⟩
  · rw [hplain] at hpart
    obtain ⟨hextet, -, rfl⟩ := List.mem_map.mp hpart
    exact notMem_toDigits_hex hc hextet
  · rw [hskip, List.mem_append, List.mem_cons] at hpart
    rcases hpart with hpart | rfl | hpart
    · exact notMem_sideOfSkip hc before part hpart
    · exact List.not_mem_nil
    · exact notMem_sideOfSkip hc after part hpart

/-- Parts without a dot are not rewritten. -/
theorem expandIPv4Suffix_of_notMem {parts : List PyStr} (hdot : ∀ part ∈ parts, '.' ∉ part) :
    expandIPv4Suffix parts = some parts := by
  refine if_neg fun hmem ↦ ?_
  rcases List.eq_nil_or_concat parts with rfl | ⟨rest, last, rfl⟩
  · exact absurd hmem List.not_mem_nil
  · rw [List.concat_eq_append, List.getLastD_concat] at hmem
    exact hdot last (by simp) hmem

/-- The compressed form of eight hextets is read as these hextets. -/
theorem hextetsOfText_compressHextets {hextets : List ℕ} (hlength : hextets.length = 8)
    (hlt : ∀ hextet ∈ hextets, hextet < 2 ^ 16) :
    hextetsOfText ([':'].intercalate (compressHextets hextets)) = some hextets := by
  have hexpand := expandIPv4Suffix_of_notMem
    (notMem_compressHextets (by decide : hexDigit '.' = none) hextets)
  have hsplit : compressHextets hextets ≠ [] →
      ([':'].intercalate (compressHextets hextets)).splitOn ':' = compressHextets hextets :=
    List.splitOn_intercalate ':' (notMem_compressHextets (by decide) hextets)
  unfold hextetsOfText
  rcases compressHextets_cases hextets with hplain | ⟨before, skipped, after, htwo, hwhole, hskip⟩
  · have hparts : (compressHextets hextets).length = 8 := by rw [hplain, List.length_map, hlength]
    have hnone : skipIndexes (compressHextets hextets) = [] :=
      List.filter_eq_nil_iff.mpr fun i _ hi ↦
        map_toDigits_getElem?_ne hextets i (hplain ▸ (of_decide_eq_true hi).2)
    rw [hsplit (List.ne_nil_of_length_pos (by omega))]
    simp only [hexpand, hnone, hparts, Option.bind_eq_bind, Option.bind_some]
    rw [if_neg (by norm_num), if_neg (by norm_num), if_pos trivial, hplain]
    exact mapM_parseHextet_toDigits hlt
  · have hlengths : before.length + skipped + after.length = 8 := by
      rw [← hlength, hwhole, List.length_append, List.length_append, List.length_replicate]
    have hparts : (compressHextets hextets).length =
        max 1 before.length + 1 + max 1 after.length := by
      rw [hskip, List.length_append, List.length_cons, length_sideOfSkip, length_sideOfSkip]
      omega
    have hindexes : skipIndexes (compressHextets hextets) = [(sideOfSkip before).length] := by
      rw [hskip]
      exact skipIndexes_append (sideOfSkip_ne_nil _) (sideOfSkip_ne_nil _)
        (fun i hi ↦ sideOfSkip_getElem?_ne (Or.inl hi))
        (fun i hi ↦ sideOfSkip_getElem?_ne (Or.inr hi))
    have htake : (compressHextets hextets).take (sideOfSkip before).length =
        sideOfSkip before := by
      rw [hskip, List.take_left' rfl]
    have hdrop : (compressHextets hextets).drop ((sideOfSkip before).length + 1) =
        sideOfSkip after := by
      rw [hskip, ← List.singleton_append, ← List.append_assoc, List.drop_left' (by simp)]
    have hbefore : (before.map (Nat.toDigits 16)).mapM parseHextet = some before :=
      mapM_parseHextet_toDigits fun hextet hmem ↦ hlt hextet (by simp [hwhole, hmem])
    have hafter : (after.map (Nat.toDigits 16)).mapM parseHextet = some after :=
      mapM_parseHextet_toDigits fun hextet hmem ↦ hlt hextet (by simp [hwhole, hmem])
    rw [hsplit (List.ne_nil_of_length_pos (by omega))]
    simp only [hexpand, hindexes, htake, hdrop, partsHi_sideOfSkip, partsLo_sideOfSkip, hbefore,
      hafter, Option.bind_eq_bind, Option.bind_some]
    rw [if_neg (by omega), if_neg (by omega), if_neg (by omega), hwhole]
    congr 4
    omega

/-! ### The round trip -/

/-- The hextets of a value are eight numbers below two to the 16. -/
theorem hextetsOf_lt (value : ℕ) : ∀ hextet ∈ hextetsOf value, hextet < 2 ^ 16 := by
  intro hextet hmem
  obtain ⟨i, -, rfl⟩ := List.mem_map.mp hmem
  exact Nat.mod_lt _ (by norm_num)

/-- The hextets of a value make up the value. -/
theorem ofHextets_hextetsOf {value : ℕ} (hlt : value < 2 ^ 128) :
    ofHextets (hextetsOf value) = value := by
  have hhextets : hextetsOf value =
      [value / 2 ^ 112 % 2 ^ 16, value / 2 ^ 96 % 2 ^ 16, value / 2 ^ 80 % 2 ^ 16,
        value / 2 ^ 64 % 2 ^ 16, value / 2 ^ 48 % 2 ^ 16, value / 2 ^ 32 % 2 ^ 16,
        value / 2 ^ 16 % 2 ^ 16, value / 2 ^ 0 % 2 ^ 16] := rfl
  have hstep : ∀ k, value / 2 ^ (k + 16) * 2 ^ 16 + value / 2 ^ k % 2 ^ 16 = value / 2 ^ k := by
    intro k
    rw [pow_add, ← Nat.div_div_eq_div_mul, Nat.div_add_mod']
  have htop : value / 2 ^ 112 % 2 ^ 16 = value / 2 ^ 112 :=
    Nat.mod_eq_of_lt (Nat.div_lt_of_lt_mul (by rwa [← pow_add]))
  rw [hhextets]
  simp only [ofHextets, List.foldl_cons, List.foldl_nil]
  rw [Nat.zero_mul, Nat.zero_add, htop, hstep 96, hstep 80, hstep 64, hstep 48, hstep 32,
    hstep 16, hstep 0, pow_zero, Nat.div_one]

/-- A zone that parsing can produce: not empty, and without a slash or a percent sign. -/
def IsZone (scopeId : PyStr) : Prop := scopeId ≠ [] ∧ '/' ∉ scopeId ∧ '%' ∉ scopeId

/-- The address has no zone or one that parsing can produce. -/
def IPv6Address.HasZone (address : IPv6Address) : Prop :=
  ∀ scopeId, address.scopeId = some scopeId → IsZone scopeId

/-- The text of an IPv6 address without its zone holds colons and hexadecimal digits only. -/
theorem eq_colon_of_mem_intercalate {c : Char} (hc : hexDigit c = none) {hextets : List ℕ}
    (hmem : c ∈ [':'].intercalate (compressHextets hextets)) : c = ':' := by
  rcases eq_or_mem_of_mem_intercalate hmem with heq | ⟨part, hpart, hmem⟩
  · exact heq
  · exact absurd hmem (notMem_compressHextets hc hextets part hpart)

/-- A text is parsed through its zone and its hextets. -/
theorem parseIPv6_of_splitScopeId {text before : PyStr} {scopeId : Option PyStr}
    {hextets : List ℕ} {value : ℕ} (hlt : value < 2 ^ 128) (hslash : '/' ∉ text)
    (hsplit : splitScopeId text = some (before, scopeId))
    (hhextets : hextetsOfText before = some hextets) (hvalue : ofHextets hextets = value) :
    parseIPv6 text = some ⟨value, hlt, scopeId⟩ := by
  subst hvalue
  rw [parseIPv6, if_neg hslash, hsplit, Option.bind_eq_bind, Option.bind_some]
  dsimp only
  rw [hhextets, Option.bind_eq_bind, Option.bind_some, dif_pos hlt]

/-- The compressed form of an IPv6 address is parsed as the address. -/
theorem parseIPv6_toText {address : IPv6Address} (hzone : IPv6Address.HasZone address) :
    parseIPv6 (IPv6Address.toText address) = some address := by
  have hhextets := hextetsOfText_compressHextets rfl (hextetsOf_lt address.value)
  have hround := ofHextets_hextetsOf address.value_lt
  have hnotMem : ∀ c, hexDigit c = none → c ≠ ':' →
      c ∉ [':'].intercalate (compressHextets (hextetsOf address.value)) :=
    fun c hc hne hmem ↦ hne (eq_colon_of_mem_intercalate hc hmem)
  have hslash := hnotMem '/' (by decide) (by decide)
  have hpercent := hnotMem '%' (by decide) (by decide)
  unfold IPv6Address.toText
  generalize [':'].intercalate (compressHextets (hextetsOf address.value)) = text at *
  cases hscope : address.scopeId with
  | none =>
    have hsplit : splitScopeId (text ++ []) = some (text, none) := by
      rw [splitScopeId, List.append_nil, partition_of_notMem hpercent]
    have hparse := parseIPv6_of_splitScopeId address.value_lt (by rwa [List.append_nil]) hsplit
      hhextets hround
    rwa [← hscope] at hparse
  | some zone =>
    obtain ⟨hne, hzoneSlash, hzonePercent⟩ := hzone zone hscope
    have hsplit : splitScopeId (text ++ '%' :: zone) = some (text, some zone) := by
      rw [splitScopeId, partition_append_cons hpercent]
      exact if_neg (not_or.mpr ⟨hne, hzonePercent⟩)
    have hwhole : '/' ∉ text ++ '%' :: zone := by simp [hslash, hzoneSlash]
    have hparse := parseIPv6_of_splitScopeId address.value_lt hwhole hsplit hhextets hround
    rw [← hscope] at hparse
    simp only [if_neg hne, hparse]

/-- What is accepted as an IPv6 address holds a colon, and its zone is a zone. -/
theorem parseIPv6_eq_some {text : PyStr} {address : IPv6Address}
    (hparse : parseIPv6 text = some address) :
    ':' ∈ text ∧ IPv6Address.HasZone address ∧
      ∀ scopeId, address.scopeId = some scopeId → ∀ c ∈ scopeId, c ∈ text := by
  unfold parseIPv6 at hparse
  split_ifs at hparse with hslash
  simp only [Option.bind_eq_bind, Option.bind_eq_some_iff] at hparse
  obtain ⟨⟨before, scopeId⟩, hscope, hextets, hhextets, hvalue⟩ := hparse
  split_ifs at hvalue
  obtain rfl : _ = address := Option.some.inj hvalue
  have hcolon : ':' ∈ before := by
    by_contra hnone
    have hjoin : ([':'].intercalate [before]).splitOn ':' = [before] :=
      List.splitOn_intercalate ':' (by simpa using hnone) (List.cons_ne_nil _ _)
    have hsplit : before.splitOn ':' = [before] := by rwa [List.intercalate_singleton] at hjoin
    rw [hextetsOfText, hsplit] at hhextets
    simp at hhextets
  unfold splitScopeId at hscope
  rcases partition_cases '%' text with ⟨hnot, heq⟩ | ⟨first, zone, rfl, hnot, heq⟩
  · rw [heq] at hscope
    obtain ⟨rfl, rfl⟩ := Prod.mk.inj (Option.some.inj hscope)
    refine ⟨hcolon, ?_, ?_⟩
    · rintro scopeId ⟨⟩
    · rintro scopeId ⟨⟩
  · rw [heq] at hscope
    dsimp only at hscope
    split_ifs at hscope with hzone
    obtain ⟨rfl, rfl⟩ := Prod.mk.inj (Option.some.inj hscope)
    obtain ⟨hne, hpercent⟩ := not_or.mp hzone
    have hmem : ∀ c ∈ zone, c ∈ first ++ '%' :: zone := fun c hc ↦
      List.mem_append_right _ (List.mem_cons_of_mem _ hc)
    refine ⟨List.mem_append_left _ hcolon, ?_, ?_⟩
    · rintro scopeId ⟨⟩
      exact ⟨hne, fun h ↦ hslash (hmem _ h), hpercent⟩
    · rintro scopeId ⟨⟩
      exact hmem

/-- The address has no zone, or one that parsing can produce. -/
def IPAddress.HasZone : IPAddress → Prop
  | .v4 _ => True
  | .v6 address => IPv6Address.HasZone address

/-- What is accepted as an IPv4 address holds no colon. -/
theorem colon_notMem_of_parseIPv4 {text : PyStr} {address : IPv4Address}
    (hparse : parseIPv4 text = some address) : ':' ∉ text := fun hmem ↦ by
  rcases eq_dot_or_isDigit_of_parseIPv4 hparse ':' hmem with hdot | hdigit
  · exact absurd hdot (by decide)
  · exact absurd hdigit (by decide)

/-- An address that parsing returns has a zone that parsing can produce. -/
theorem hasZone_of_ipAddress {text : PyStr} {address : IPAddress}
    (hparse : ipAddress text = some address) : IPAddress.HasZone address := by
  unfold ipAddress at hparse
  split at hparse
  · obtain rfl := Option.some.inj hparse
    exact trivial
  · obtain ⟨address, hv6, rfl⟩ := Option.map_eq_some_iff.mp hparse
    exact (parseIPv6_eq_some hv6).2.1

/-- The text of an IPv6 address holds a colon. -/
theorem colon_mem_toText (address : IPv6Address) : ':' ∈ IPv6Address.toText address := by
  refine List.mem_append_left _ (mem_intercalate_of_two_le ?_)
  rcases compressHextets_cases (hextetsOf address.value) with hplain | ⟨_, _, _, _, _, hskip⟩
  · rw [hplain, List.length_map]
    exact (by decide : 2 ≤ 8)
  · rw [hskip, List.length_append, List.length_cons, length_sideOfSkip, length_sideOfSkip]
    omega

/-- The round trip: the text of an address is accepted and denotes the address. -/
theorem ipAddress_toText {address : IPAddress} (hzone : IPAddress.HasZone address) :
    ipAddress (IPAddress.toText address) = some address := by
  cases address with
  | v4 address => simp only [IPAddress.toText, ipAddress, parseIPv4_toText]
  | v6 address =>
    have hnone : parseIPv4 (IPv6Address.toText address) = none := by
      cases hv4 : parseIPv4 (IPv6Address.toText address) with
      | none => rfl
      | some other => exact absurd (colon_mem_toText address) (colon_notMem_of_parseIPv4 hv4)
    simp only [IPAddress.toText, ipAddress, hnone, parseIPv6_toText hzone, Option.map_some]

/-- A text that is accepted holds a colon exactly when it denotes an IPv6 address. -/
theorem colon_mem_iff_of_ipAddress {text : PyStr} {address : IPAddress}
    (hparse : ipAddress text = some address) :
    ':' ∈ text ↔ ∃ ipv6, address = .v6 ipv6 := by
  unfold ipAddress at hparse
  split at hparse
  case h_1 ipv4 hv4 =>
    obtain rfl := Option.some.inj hparse
    exact ⟨fun hmem ↦ absurd hmem (colon_notMem_of_parseIPv4 hv4), fun ⟨_, h⟩ ↦ nomatch h⟩
  case h_2 =>
    obtain ⟨ipv6, hv6, rfl⟩ := Option.map_eq_some_iff.mp hparse
    exact ⟨fun _ ↦ ⟨ipv6, rfl⟩, fun _ ↦ (parseIPv6_eq_some hv6).1⟩

/-! ### What an accepted text is made of -/

/-- A decimal digit is a hexadecimal digit. -/
theorem hexDigit_isSome_of_isDigit {c : Char} (hdigit : c.isDigit = true) :
    (hexDigit c).isSome = true := by
  have hrange : '0' ≤ c ∧ c ≤ '9' := by simpa [Char.isDigit, Char.le_def] using hdigit
  rw [hexDigit, if_pos hrange]
  rfl

/-- Where every part of a list is parsed, each single part is. -/
theorem exists_parseHextet_of_mapM {parts : List PyStr} {hextets : List ℕ}
    (hparse : parts.mapM parseHextet = some hextets) :
    ∀ part ∈ parts, ∃ hextet, parseHextet part = some hextet := by
  induction parts generalizing hextets with
  | nil => exact fun part hpart ↦ absurd hpart List.not_mem_nil
  | cons head rest ih =>
    simp only [List.mapM_cons, Option.bind_eq_bind, Option.bind_eq_some_iff] at hparse
    obtain ⟨hextet, hhead, others, hothers, -⟩ := hparse
    intro part hpart
    rcases List.mem_cons.mp hpart with rfl | hrest
    · exact ⟨hextet, hhead⟩
    · exact ih hothers part hrest

/-- The parts kept before `::` are all but an empty one. -/
theorem mem_partsHi {parts kept : List PyStr} (hkept : partsHi parts = some kept) :
    ∀ part ∈ parts, part = [] ∨ part ∈ kept := by
  unfold partsHi at hkept
  split at hkept
  · exact fun part hpart ↦ Or.inl (by simpa using hpart)
  · exact absurd hkept (by simp)
  · obtain rfl := Option.some.inj hkept
    exact fun part hpart ↦ Or.inr hpart

/-- The parts kept after `::` are all but an empty one. -/
theorem mem_partsLo {parts kept : List PyStr} (hkept : partsLo parts = some kept) :
    ∀ part ∈ parts, part = [] ∨ part ∈ kept := by
  unfold partsLo at hkept
  split_ifs at hkept with hempty hlast
  · exact fun part hpart ↦ Or.inl (by simpa [hempty] using hpart)
  · obtain rfl := Option.some.inj hkept
    exact fun part hpart ↦ Or.inr hpart

/-- The parts of an accepted text, its IPv4 suffix rewritten, are hextets or empty. -/
theorem exists_expanded_of_hextetsOfText {text : PyStr} {hextets : List ℕ}
    (hparse : hextetsOfText text = some hextets) :
    ∃ parts, expandIPv4Suffix (text.splitOn ':') = some parts ∧
      ∀ part ∈ parts, part = [] ∨ ∃ hextet, parseHextet part = some hextet := by
  unfold hextetsOfText at hparse
  dsimp only at hparse
  split_ifs at hparse with hshort
  simp only [Option.bind_eq_bind, Option.bind_eq_some_iff] at hparse
  obtain ⟨parts, hexpand, hparse⟩ := hparse
  refine ⟨parts, hexpand, ?_⟩
  by_cases hlong : 9 < parts.length
  · rw [if_pos hlong] at hparse
    exact absurd hparse (by simp)
  rw [if_neg hlong] at hparse
  split at hparse
  · split_ifs at hparse with height
    exact fun part hpart ↦ Or.inr (exists_parseHextet_of_mapM hparse part hpart)
  · rename_i skip hskip
    simp only [Option.bind_eq_some_iff] at hparse
    obtain ⟨hi, hhi, hiHextets, hiParse, lo, hlo, loHextets, loParse, -⟩ := hparse
    -- the part at the skip position is the empty one that stands for the zero hextets
    have hempty : parts[skip]? = some [] := by
      have hmem : skip ∈ skipIndexes parts := hskip ▸ List.mem_cons_self
      exact (of_decide_eq_true (List.mem_filter.mp hmem).2).2
    intro part hpart
    obtain ⟨i, hi', hget⟩ := List.mem_iff_getElem.mp hpart
    rcases Nat.lt_trichotomy i skip with hbefore | heq | hafter
    · have hmem : part ∈ parts.take skip := hget ▸ List.mem_take_iff_getElem.mpr
        ⟨i, by omega, rfl⟩
      exact (mem_partsHi hhi part hmem).imp_right (exists_parseHextet_of_mapM hiParse part)
    · subst heq
      rw [List.getElem?_eq_getElem hi', hget] at hempty
      exact Or.inl (Option.some.inj hempty)
    · have hmem : part ∈ parts.drop (skip + 1) := by
        refine hget ▸ List.mem_drop_iff_getElem.mpr ⟨i - (skip + 1), by omega, ?_⟩
        congr 1
        omega
      exact (mem_partsLo hlo part hmem).imp_right (exists_parseHextet_of_mapM loParse part)
  · exact absurd hparse (by simp)

/-- What is accepted as hextets consists of hexadecimal digits, colons and dots. -/
theorem mem_of_hextetsOfText {text : PyStr} {hextets : List ℕ}
    (hparse : hextetsOfText text = some hextets) {c : Char} (hmem : c ∈ text) :
    c = ':' ∨ c = '.' ∨ (hexDigit c).isSome = true := by
  obtain ⟨parts, hexpand, hparts⟩ := exists_expanded_of_hextetsOfText hparse
  have hpart : ∀ part ∈ parts, ∀ c ∈ part, (hexDigit c).isSome = true := by
    intro part hpart c hc
    rcases hparts part hpart with rfl | ⟨hextet, hhextet⟩
    · exact absurd hc List.not_mem_nil
    · unfold parseHextet at hhextet
      split_ifs at hhextet
      exact hexDigit_isSome_of_readHex hhextet c hc
  have hjoin : [':'].intercalate (text.splitOn ':') = text := List.intercalate_splitOn ':'
  rw [← hjoin] at hmem
  rcases eq_or_mem_of_mem_intercalate hmem with hcolon | ⟨part, hsplit, hc⟩
  · exact Or.inl hcolon
  · unfold expandIPv4Suffix at hexpand
    split_ifs at hexpand with hdot
    · simp only [Option.bind_eq_bind, Option.bind_eq_some_iff] at hexpand
      obtain ⟨suffix, hsuffix, hexpand⟩ := hexpand
      obtain rfl := Option.some.inj hexpand
      -- the part is the dotted suffix or one of the parts before it
      have hne : text.splitOn ':' ≠ [] := List.splitOn_ne_nil ':' text
      rw [← List.dropLast_append_getLast hne, List.mem_append, List.mem_singleton] at hsplit
      rcases hsplit with hfront | hlast
      · exact Or.inr (Or.inr (hpart part (List.mem_append_left _ hfront) c hc))
      · rw [List.getLastD_eq_getLast?, List.getLast?_eq_some_getLast hne, Option.getD_some,
          ← hlast] at hsuffix
        rcases eq_dot_or_isDigit_of_parseIPv4 hsuffix c hc with heq | hdigit
        · exact Or.inr (Or.inl heq)
        · exact Or.inr (Or.inr (hexDigit_isSome_of_isDigit hdigit))
    · obtain rfl := Option.some.inj hexpand
      exact Or.inr (Or.inr (hpart part hsplit c hc))

/-- Apart from hexadecimal digits, dots, colons and the percent sign, a text that is accepted
holds only characters of the zone. -/
theorem mem_zone_of_ipAddress {text : PyStr} {address : IPAddress}
    (hparse : ipAddress text = some address) {c : Char} (hmem : c ∈ text)
    (hhex : hexDigit c = none) (hdot : c ≠ '.') (hcolon : c ≠ ':') (hpercent : c ≠ '%') :
    ∃ ipv6 scopeId, address = .v6 ipv6 ∧ ipv6.scopeId = some scopeId ∧ c ∈ scopeId := by
  have hnotHex : ¬ (hexDigit c).isSome = true := by simp [hhex]
  unfold ipAddress at hparse
  split at hparse
  case h_1 ipv4 hv4 =>
    rcases eq_dot_or_isDigit_of_parseIPv4 hv4 c hmem with heq | hdigit
    · exact absurd heq hdot
    · exact absurd (hexDigit_isSome_of_isDigit hdigit) hnotHex
  case h_2 =>
    obtain ⟨ipv6, hv6, rfl⟩ := Option.map_eq_some_iff.mp hparse
    unfold parseIPv6 at hv6
    split_ifs at hv6 with hslash
    simp only [Option.bind_eq_bind, Option.bind_eq_some_iff] at hv6
    obtain ⟨⟨before, scopeId⟩, hscope, hextets, hhextets, hvalue⟩ := hv6
    split_ifs at hvalue
    obtain rfl : _ = ipv6 := Option.some.inj hvalue
    have hbefore : c ∉ before := by
      intro hin
      rcases mem_of_hextetsOfText hhextets hin with heq | heq | hsome
      · exact hcolon heq
      · exact hdot heq
      · exact hnotHex hsome
    unfold splitScopeId at hscope
    rcases partition_cases '%' text with ⟨hnot, heq⟩ | ⟨first, zone, rfl, hnot, heq⟩
    · rw [heq] at hscope
      obtain ⟨rfl, rfl⟩ := Prod.mk.inj (Option.some.inj hscope)
      exact absurd hmem hbefore
    · rw [heq] at hscope
      dsimp only at hscope
      split_ifs at hscope with hzone
      obtain ⟨rfl, rfl⟩ := Prod.mk.inj (Option.some.inj hscope)
      rcases List.mem_append.mp hmem with hin | hin
      · exact absurd hin hbefore
      · exact ⟨_, zone, rfl, rfl, (List.mem_cons.mp hin).resolve_left hpercent⟩

end PingGuard.Library.IpText
