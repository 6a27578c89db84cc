import Mathlib.Data.List.DropRight
import Mathlib.Tactic.Common

/-!
# Python text

Python `str` values as lists of characters, with the methods that text-handling code is built from:
`partition` and `rpartition` at a single character, `strip`, `lower`, and decimal digits.
`str.split` and `str.join` at one character are `List.splitOn` and `List.intercalate`. The texts are
those of Unicode scalar values: a Python `str` may also hold lone surrogates, which are left out.

Case mapping and compatibility normalisation of non-ASCII text follow the Unicode tables.
`UnicodeTables` stands for the two tables and for the one fact about them that parsing rests on:
lowering a non-ASCII character does not produce a delimiter of the URL syntax.
-/

set_option autoImplicit false
set_option relaxedAutoImplicit false

namespace PingGuard.Library.PyText

/-- A Python `str` without lone surrogates. -/
abbrev PyStr := List Char

/-- Texts are compared by their characters. -/
instance instLawfulBEqPyStr : LawfulBEq PyStr := inferInstance

/-! ### Cutting text at a character -/

/-- `text.partition(separator)`: the text before the first separator, whether there is one, and
the text after it. -/
def partition (separator : Char) : PyStr → PyStr × Bool × PyStr
  | [] => ([], false, [])
  | c :: rest =>
    if c = separator then ([], true, rest)
    else (c :: (partition separator rest).1, (partition separator rest).2)

/-- `text.rpartition(separator)`: the text before the last separator, whether there is one, and
the text after it. Without a separator the whole text is the last part. -/
def rpartition (separator : Char) (text : PyStr) : PyStr × Bool × PyStr :=
  match partition separator text.reverse with
  | (_, false, _) => ([], false, text)
  | (after, true, before) => (before.reverse, true, after.reverse)

/-- A text without the separator is all before it. -/
theorem partition_of_notMem {separator : Char} {text : PyStr} (hnot : separator ∉ text) :
    partition separator text = (text, false, []) := by
  induction text with
  | nil => rfl
  | cons c rest ih =>
    obtain ⟨hne, hrest⟩ := not_or.mp (List.mem_cons.not.mp hnot)
    rw [partition, if_neg (Ne.symm hne), ih hrest]

/-- A text is cut at its first separator. -/
theorem partition_append_cons {separator : Char} {before : PyStr} (hnot : separator ∉ before)
    (after : PyStr) :
    partition separator (before ++ separator :: after) = (before, true, after) := by
  induction before with
  | nil => rw [List.nil_append, partition, if_pos rfl]
  | cons c rest ih =>
    obtain ⟨hne, hrest⟩ := not_or.mp (List.mem_cons.not.mp hnot)
    rw [List.cons_append, partition, if_neg (Ne.symm hne), ih hrest]

/-- Cutting a text either finds no separator or splits the text around the first one. -/
theorem partition_cases (separator : Char) (text : PyStr) :
    (separator ∉ text ∧ partition separator text = (text, false, [])) ∨
      ∃ before after, text = before ++ separator :: after ∧ separator ∉ before ∧
        partition separator text = (before, true, after) := by
  by_cases hmem : separator ∈ text
  · obtain ⟨before, after, rfl, hnot⟩ := List.eq_append_cons_of_mem hmem
    exact Or.inr ⟨before, after, rfl, hnot, partition_append_cons hnot after⟩
  · exact Or.inl ⟨hmem, partition_of_notMem hmem⟩

/-- The part before the first separator holds no separator. -/
theorem notMem_partition_fst (separator : Char) (text : PyStr) :
    separator ∉ (partition separator text).1 := by
  rcases partition_cases separator text with ⟨hnot, heq⟩ | ⟨before, after, -, hnot, heq⟩
  · rwa [heq]
  · rwa [heq]

/-- The part before the first separator is made of characters of the text. -/
theorem mem_of_mem_partition_fst {separator : Char} {text : PyStr} {c : Char}
    (hmem : c ∈ (partition separator text).1) : c ∈ text := by
  rcases partition_cases separator text with ⟨-, heq⟩ | ⟨before, after, rfl, -, heq⟩
  · rwa [heq] at hmem
  · rw [heq] at hmem
    exact List.mem_append_left _ hmem

/-- A character of a text is the separator or stands on one side of the first one. -/
theorem mem_partition {separator : Char} {text : PyStr} {c : Char} (hmem : c ∈ text) :
    c ∈ (partition separator text).1 ∨ c = separator ∨ c ∈ (partition separator text).2.2 := by
  rcases partition_cases separator text with ⟨-, heq⟩ | ⟨before, after, rfl, -, heq⟩
  · rw [heq]
    exact Or.inl hmem
  · rw [heq]
    exact (List.mem_append.mp hmem).imp_right List.mem_cons.mp

/-- The part before the first separator starts the text. -/
theorem partition_fst_isPrefix (separator : Char) (text : PyStr) :
    (partition separator text).1 <+: text := by
  rcases partition_cases separator text with ⟨-, heq⟩ | ⟨before, after, rfl, -, heq⟩
  · exact ⟨[], by rw [heq, List.append_nil]⟩
  · exact ⟨separator :: after, by rw [heq]⟩

/-- The part before the first separator is what is taken up to it. -/
theorem partition_fst_eq_takeWhile (separator : Char) (text : PyStr) :
    (partition separator text).1 = text.takeWhile (· != separator) := by
  induction text with
  | nil => rfl
  | cons c rest ih =>
    rw [partition, List.takeWhile_cons]
    by_cases heq : c = separator <;> simp [heq, ih]

/-- The part after the first separator ends the text. -/
theorem partition_snd_isSuffix (separator : Char) (text : PyStr) :
    (partition separator text).2.2 <:+ text := by
  rcases partition_cases separator text with ⟨-, heq⟩ | ⟨before, after, rfl, -, heq⟩ <;> rw [heq]
  · exact List.nil_suffix
  · exact ⟨before ++ [separator], by simp⟩

/-- A text without the separator is all after it. -/
theorem rpartition_of_notMem {separator : Char} {text : PyStr} (hnot : separator ∉ text) :
    rpartition separator text = ([], false, text) := by
  rw [rpartition, partition_of_notMem (by simpa using hnot)]

/-- Cutting at the last separator is cutting the reversed text at the first. -/
theorem rpartition_of_reverse {separator : Char} {text before after : PyStr}
    (hcut : partition separator text.reverse = (after, true, before)) :
    rpartition separator text = (before.reverse, true, after.reverse) := by
  rw [rpartition, hcut]

/-- A text is cut at its last separator. -/
theorem rpartition_append_of_notMem {separator : Char} {after : PyStr} (hnot : separator ∉ after)
    (before : PyStr) : rpartition separator (before ++ separator :: after) =
      (before, true, after) := by
  have hreverse : (before ++ separator :: after).reverse =
      after.reverse ++ separator :: before.reverse := by simp
  have hcut := partition_append_cons (List.mem_reverse.not.mpr hnot) before.reverse
  rw [← hreverse] at hcut
  simpa using rpartition_of_reverse hcut

/-- A separator that is not the last one stays before the cut, with what stands before it. -/
theorem rpartition_append_cons (separator : Char) (before after : PyStr) :
    ∃ between, rpartition separator (before ++ separator :: after) =
      (before ++ between, true, (rpartition separator after).2.2) := by
  by_cases hmem : separator ∈ after
  · obtain ⟨last, others, hafter, hnot⟩ :=
      List.eq_append_cons_of_mem (List.mem_reverse.mpr hmem)
    obtain rfl : after = others.reverse ++ separator :: last.reverse := by
      rw [← List.reverse_reverse after, hafter]
      simp
    have hlast : separator ∉ last.reverse := List.mem_reverse.not.mpr hnot
    refine ⟨separator :: others.reverse, ?_⟩
    rw [rpartition_append_of_notMem hlast, ← List.cons_append, ← List.append_assoc,
      rpartition_append_of_notMem hlast]
  · exact ⟨[], by rw [rpartition_append_of_notMem hmem, rpartition_of_notMem hmem,
      List.append_nil]⟩

/-- The part after the last separator holds no separator. -/
theorem notMem_rpartition_snd (separator : Char) (text : PyStr) :
    separator ∉ (rpartition separator text).2.2 := by
  rcases partition_cases separator text.reverse with ⟨hnot, heq⟩ | ⟨before, after, -, hnot, heq⟩
  · simpa only [rpartition, heq, List.mem_reverse] using hnot
  · simpa only [rpartition, heq, List.mem_reverse] using hnot

/-- The part after the last separator is made of characters of the text. -/
theorem mem_of_mem_rpartition_snd {separator : Char} {text : PyStr} {c : Char}
    (hmem : c ∈ (rpartition separator text).2.2) : c ∈ text := by
  rcases partition_cases separator text.reverse with ⟨-, heq⟩ | ⟨before, after, htext, -, heq⟩
  · simpa only [rpartition, heq] using hmem
  · simp only [rpartition, heq, List.mem_reverse] at hmem
    exact List.mem_reverse.mp (htext ▸ List.mem_append_left _ hmem)

/-! ### Joining -/

/-- A character of joined text is the separator or a character of a part. -/
theorem eq_or_mem_of_mem_intercalate {separator c : Char} {parts : List PyStr}
    (hmem : c ∈ [separator].intercalate parts) : c = separator ∨ ∃ part ∈ parts, c ∈ part := by
  induction parts with
  | nil => exact absurd hmem List.not_mem_nil
  | cons head rest ih =>
    by_cases hrest : rest = []
    · subst hrest
      rw [List.intercalate_singleton] at hmem
      exact Or.inr ⟨head, List.mem_cons_self, hmem⟩
    · rw [List.intercalate_cons_of_ne_nil hrest, List.mem_append, List.mem_append,
        List.mem_singleton] at hmem
      rcases hmem with (hmem | hmem) | hmem
      · exact Or.inr ⟨head, List.mem_cons_self, hmem⟩
      · exact Or.inl hmem
      · rcases ih hmem with hsep | ⟨part, hpart, hc⟩
        · exact Or.inl hsep
        · exact Or.inr ⟨part, List.mem_cons_of_mem _ hpart, hc⟩

/-- Text joined from at least two parts holds the separator. -/
theorem mem_intercalate_of_two_le {separator : Char} {parts : List PyStr}
    (htwo : 2 ≤ parts.length) : separator ∈ [separator].intercalate parts := by
  match parts, htwo with
  | first :: second :: rest, _ =>
    rw [List.intercalate_cons_cons]
    exact List.mem_append_left _ (List.mem_append_right _ List.mem_cons_self)

/-! ### Stripping and case -/

/-- `c.isspace()`: the characters that `str.strip()` removes. -/
def isSpace (c : Char) : Bool :=
  let n := c.toNat
  (0x09 ≤ n && n ≤ 0x0d) || (0x1c ≤ n && n ≤ 0x20) || n == 0x85 || n == 0xa0 || n == 0x1680 ||
    (0x2000 ≤ n && n ≤ 0x200a) || n == 0x2028 || n == 0x2029 || n == 0x202f || n == 0x205f ||
    n == 0x3000

/-- `text.strip()`. -/
def strip (text : PyStr) : PyStr := (text.dropWhile isSpace).rdropWhile isSpace

/-- Stripping keeps only characters of the text. -/
theorem mem_of_mem_strip {text : PyStr} {c : Char} (hmem : c ∈ strip text) : c ∈ text :=
  (List.dropWhile_suffix _).subset ((List.rdropWhile_prefix _ _).subset hmem)

/-- The delimiters of the URL syntax: they end an authority or separate its parts. -/
def urlDelimiters : List Char := ['/', '?', '#', '@', ':', '[', ']', '%']

/-- The Unicode tables behind `str.lower` and `unicodedata.normalize`, for non-ASCII text. -/
structure UnicodeTables where
  /-- The lower-case mapping of a non-ASCII character. -/
  lowercase : Char → PyStr
  /-- `unicodedata.normalize('NFKC', text)`. -/
  nfkc : PyStr → PyStr
  /-- A lower-case mapping consists of letters and marks. -/
  lowercase_delimiter : ∀ c, 0x80 ≤ c.toNat → ∀ d ∈ lowercase c, d ∉ urlDelimiters

/-- The tables that leave every character as it is, correct for text without cased or compatibility
characters outside ASCII. -/
def UnicodeTables.caseless : UnicodeTables where
  lowercase := fun c ↦ [c]
  nfkc := id
  lowercase_delimiter := fun c hc d hd hdelimiter ↦ by
    obtain rfl : d = c := by simpa using hd
    have hascii : ∀ e ∈ urlDelimiters, e.toNat < 0x80 := List.forall_iff_forall_mem.mp (by decide)
    exact absurd (hascii d hdelimiter) (Nat.not_lt.mpr hc)

/-- The lower-case mapping of one character. -/
def lowerChar (tables : UnicodeTables) (c : Char) : PyStr :=
  if c.toNat < 0x80 then [c.toLower] else tables.lowercase c

/-- `text.lower()`. -/
def lower (tables : UnicodeTables) (text : PyStr) : PyStr := text.flatMap (lowerChar tables)

/-- Dropping from the end stops at a character that is kept. -/
theorem rdropWhile_append_cons {dropped : Char → Bool} {c : Char} (hkept : dropped c = false)
    (before after : PyStr) :
    (before ++ c :: after).rdropWhile dropped = before ++ c :: after.rdropWhile dropped := by
  have hreverse : (before ++ c :: after).reverse = after.reverse ++ c :: before.reverse := by simp
  unfold List.rdropWhile
  rw [hreverse, List.dropWhile_append, List.dropWhile_cons_of_neg (by simp [hkept])]
  split_ifs with hempty
  · rw [List.isEmpty_iff.mp hempty]
    simp
  · simp

/-- A text that starts with no space is stripped behind its first character. -/
theorem strip_cons {c : Char} (hspace : isSpace c = false) (rest : PyStr) :
    strip (c :: rest) = c :: rest.rdropWhile isSpace := by
  rw [strip, List.dropWhile_cons_of_neg (by simp [hspace])]
  exact rdropWhile_append_cons hspace [] rest

/-- A text without spaces is not stripped. -/
theorem strip_of_forall {text : PyStr} (hspace : ∀ c ∈ text, isSpace c = false) :
    strip text = text := by
  unfold strip
  rw [List.dropWhile_eq_self_iff.mpr, List.rdropWhile_eq_self_iff.mpr]
  · intro hne
    simp [hspace _ (List.getLast_mem hne)]
  · intro hpos
    simp [hspace _ (List.getElem_mem hpos)]

/-- Lowering an ASCII text lowers its characters. -/
theorem lower_of_ascii {tables : UnicodeTables} {text : PyStr}
    (hascii : ∀ c ∈ text, c.toNat < 0x80) : lower tables text = text.map Char.toLower := by
  induction text with
  | nil => rfl
  | cons c rest ih =>
    obtain ⟨hc, hrest⟩ := List.forall_mem_cons.mp hascii
    change lowerChar tables c ++ lower tables rest = _
    rw [ih hrest, lowerChar, if_pos hc]
    rfl

/-- What holds of the first 128 code points holds of every ASCII character. -/
theorem of_forall_ascii (property : Char → Prop)
    (hall : ∀ n : Fin 0x80, property (Char.ofNat n)) {c : Char} (hascii : c.toNat < 0x80) :
    property c := by
  have hproperty := hall ⟨c.toNat, hascii⟩
  rwa [Char.ofNat_toNat] at hproperty

/-- Lowering an ASCII character never produces a URL delimiter it was not. -/
theorem eq_of_toLower_mem_urlDelimiters {c : Char} (hascii : c.toNat < 0x80)
    (hmem : c.toLower ∈ urlDelimiters) : c.toLower = c :=
  of_forall_ascii (fun c ↦ c.toLower ∈ urlDelimiters → c.toLower = c) (by decide) hascii hmem

/-- Lowering a text never introduces a URL delimiter. -/
theorem mem_of_mem_lower {tables : UnicodeTables} {text : PyStr} {d : Char}
    (hdelimiter : d ∈ urlDelimiters) (hmem : d ∈ lower tables text) : d ∈ text := by
  obtain ⟨c, hc, hd⟩ := List.mem_flatMap.mp hmem
  unfold lowerChar at hd
  split at hd
  · obtain rfl : d = c.toLower := by simpa using hd
    rwa [eq_of_toLower_mem_urlDelimiters ‹_› hdelimiter]
  · exact absurd hdelimiter (tables.lowercase_delimiter c (Nat.not_lt.mp ‹_›) d hd)

end PingGuard.Library.PyText
