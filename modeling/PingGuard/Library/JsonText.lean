import PingGuard.Library.PyText

/-!
# Flat JSON objects

`json.dumps` for an object whose values are texts or null, as CPython writes it by default: ASCII
only, with escapes for everything else, and a surrogate pair for a character outside the basic
plane. `loads` reads such objects, with white space and with the escapes that the format allows.

What is written is printable, and reads as what was written: `loads_dumps`.
-/

set_option autoImplicit false
set_option relaxedAutoImplicit false

namespace PingGuard.Library.JsonText

open PyText

/-! ### Writing -/

/-- A UTF-16 code unit in four hexadecimal digits. -/
def hexDigits (unit : ℕ) : PyStr :=
  [Nat.digitChar (unit / 4096 % 16), Nat.digitChar (unit / 256 % 16),
    Nat.digitChar (unit / 16 % 16), Nat.digitChar (unit % 16)]

/-- The escape of a code unit. -/
def escapeUnit (unit : ℕ) : PyStr := '\\' :: 'u' :: hexDigits unit

/-- The code units of a character. -/
def codeUnits (c : Char) : List ℕ :=
  if c.toNat < 0x10000 then [c.toNat]
  else [0xd800 + (c.toNat - 0x10000) / 0x400, 0xdc00 + (c.toNat - 0x10000) % 0x400]

/-- The letter of an escape for a character that has one. -/
def escapeLetter (c : Char) : Option Char :=
  if c = '"' then some '"'
  else if c = '\\' then some '\\'
  else if c = '\n' then some 'n'
  else if c = '\r' then some 'r'
  else if c = '\t' then some 't'
  else if c = '\x08' then some 'b'
  else if c = '\x0c' then some 'f'
  else none

/-- The characters from space to tilde. -/
def isPrintable (c : Char) : Bool := 0x20 ≤ c.toNat && c.toNat ≤ 0x7e

/-- A character of a text as it is written. -/
def escapeChar (c : Char) : PyStr :=
  match escapeLetter c with
  | some letter => ['\\', letter]
  | none => if isPrintable c then [c] else (codeUnits c).flatMap escapeUnit

/-- A text as it is written. -/
def dumpsText (text : PyStr) : PyStr := '"' :: text.flatMap escapeChar ++ ['"']

/-- A value as it is written. -/
def dumpsValue : Option PyStr → PyStr
  | none => "null".toList
  | some text => dumpsText text

/-- A member of an object as it is written. -/
def dumpsMember (member : PyStr × Option PyStr) : PyStr :=
  dumpsText member.1 ++ ": ".toList ++ dumpsValue member.2

/-- An object as it is written. -/
def dumps (members : List (PyStr × Option PyStr)) : PyStr :=
  '\x7b' :: List.intercalate ", ".toList (members.map dumpsMember) ++ ['\x7d']

/-! ### Reading -/

/-- The value of a hexadecimal digit. -/
def hexValue (c : Char) : Option ℕ :=
  if '0' ≤ c ∧ c ≤ '9' then some (c.toNat - '0'.toNat)
  else if 'a' ≤ c ∧ c ≤ 'f' then some (c.toNat - 'a'.toNat + 10)
  else if 'A' ≤ c ∧ c ≤ 'F' then some (c.toNat - 'A'.toNat + 10)
  else none

/-- The code unit of an escape with a letter. -/
def letterUnit (letter : Char) : Option ℕ :=
  if letter = '"' ∨ letter = '\\' ∨ letter = '/' then some letter.toNat
  else if letter = 'n' then some 10
  else if letter = 'r' then some 13
  else if letter = 't' then some 9
  else if letter = 'b' then some 8
  else if letter = 'f' then some 12
  else none

/-- Where the reading of a text stands: between characters, after a backslash, or after some digits
of an escape, which have a value. -/
inductive Mode
  | plain
  | escape
  | digits (count value : ℕ)

/-- The code units of a text up to its closing quote, and what follows it. -/
def scan : Mode → PyStr → Option (List ℕ × PyStr)
  | _, [] => none
  | .plain, c :: rest =>
    if c = '"' then some ([], rest)
    else if c = '\\' then scan .escape rest
    else if c.toNat < 0x20 then none
    else (scan .plain rest).map (Prod.map (codeUnits c ++ ·) id)
  | .escape, c :: rest =>
    if c = 'u' then scan (.digits 0 0) rest
    else match letterUnit c with
      | none => none
      | some unit => (scan .plain rest).map (Prod.map (unit :: ·) id)
  | .digits count value, c :: rest =>
    match hexValue c with
    | none => none
    | some digit =>
      if count = 3 then (scan .plain rest).map (Prod.map ((value * 16 + digit) :: ·) id)
      else scan (.digits (count + 1) (value * 16 + digit)) rest

/-- The text of some code units, if no surrogate stands alone. -/
def ofCodeUnits : List ℕ → Option PyStr
  | [] => some []
  | unit :: rest =>
    if 0xd800 ≤ unit ∧ unit < 0xdc00 then
      match rest with
      | [] => none
      | low :: rest =>
        if 0xdc00 ≤ low ∧ low < 0xe000 then
          (ofCodeUnits rest).map
            (Char.ofNat (0x10000 + (unit - 0xd800) * 0x400 + (low - 0xdc00)) :: ·)
        else none
    else if 0xdc00 ≤ unit ∧ unit < 0xe000 then none
    else (ofCodeUnits rest).map (Char.ofNat unit :: ·)

/-- What follows white space. -/
def skipSpaces (text : PyStr) : PyStr := text.dropWhile (· ∈ [' ', '\t', '\n', '\r'])

/-- What follows a character that is expected. -/
def expect (expected : Char) : PyStr → Option PyStr
  | [] => none
  | c :: rest => if c = expected then some rest else none

/-- A text at the start of another, and what follows it. -/
def readText (text : PyStr) : Option (PyStr × PyStr) := do
  let (units, rest) ← scan .plain (← expect '"' text)
  let read ← ofCodeUnits units
  some (read, rest)

/-- A value at the start of a text. -/
def readValue (text : PyStr) : Option (Option PyStr × PyStr) :=
  if "null".toList.isPrefixOf text then some (none, text.drop 4)
  else (readText text).map (Prod.map some id)

/-- A member at the start of a text. -/
def readMember (text : PyStr) : Option ((PyStr × Option PyStr) × PyStr) := do
  let (name, rest) ← readText text
  let rest ← expect ':' (skipSpaces rest)
  let (value, rest) ← readValue (skipSpaces rest)
  some ((name, value), skipSpaces rest)

/-- The members up to the closing brace, at most so many, and what follows the brace. -/
def readMembers : ℕ → PyStr → Option (List (PyStr × Option PyStr) × PyStr)
  | 0, _ => none
  | limit + 1, text => do
    let (member, rest) ← readMember text
    match rest with
    | [] => none
    | c :: rest =>
      if c = '\x7d' then some ([member], rest)
      else if c = ',' then (readMembers limit (skipSpaces rest)).map (Prod.map (member :: ·) id)
      else none

/-- An object whose values are texts or null. -/
def loads (text : PyStr) : Option (List (PyStr × Option PyStr)) := do
  let rest ← expect '\x7b' (skipSpaces text)
  match skipSpaces rest with
  | [] => none
  | c :: rest =>
    if c = '\x7d' then if skipSpaces rest = [] then some [] else none
    else do
      let (members, rest) ← readMembers text.length (c :: rest)
      if skipSpaces rest = [] then some members else none

/-! ### What is written is read -/

variable {c : Char} {text rest : PyStr}

/-- A digit has its value. -/
theorem hexValue_digitChar : ∀ digit < 16, hexValue (Nat.digitChar digit) = some digit := by
  decide

/-- The escape of a code unit is read as the unit. -/
theorem scan_escapeUnit {unit : ℕ} (hunit : unit < 0x10000) (rest : PyStr) :
    scan .plain (escapeUnit unit ++ rest) =
      (scan .plain rest).map (Prod.map (unit :: ·) id) := by
  have hdigit : ∀ place, hexValue (Nat.digitChar (place % 16)) = some (place % 16) :=
    fun place ↦ hexValue_digitChar _ (Nat.mod_lt place (by decide))
  have hvalue : ((unit / 4096 % 16 * 16 + unit / 256 % 16) * 16 + unit / 16 % 16) * 16 +
      unit % 16 = unit := by omega
  simp [escapeUnit, hexDigits, scan, hdigit, hvalue]

/-- A character is not a surrogate. -/
theorem toNat_cases (c : Char) :
    c.toNat < 0xd800 ∨ 0xe000 ≤ c.toNat ∧ c.toNat < 0x10000 ∨
      0x10000 ≤ c.toNat ∧ c.toNat < 0x110000 := by
  have hvalid : c.toNat < 0xd800 ∨ 0xdfff < c.toNat ∧ c.toNat < 0x110000 := c.valid
  omega

/-- Code units have 16 bits. -/
theorem lt_of_mem_codeUnits {unit : ℕ} (hmem : unit ∈ codeUnits c) : unit < 0x10000 := by
  have hcases := toNat_cases c
  unfold codeUnits at hmem
  split_ifs at hmem with hbasic
  · rw [List.mem_singleton.mp hmem]
    exact hbasic
  · simp only [List.mem_cons, List.not_mem_nil, or_false] at hmem
    omega

/-- A character whose code units are escaped is read as these. -/
theorem scan_flatMap_escapeUnit {units : List ℕ} (hunits : ∀ unit ∈ units, unit < 0x10000)
    (rest : PyStr) :
    scan .plain (units.flatMap escapeUnit ++ rest) =
      (scan .plain rest).map (Prod.map (units ++ ·) id) := by
  induction units with
  | nil =>
    change _ = (scan .plain rest).map id
    rw [Option.map_id]
    rfl
  | cons unit units ih =>
    rw [List.flatMap_cons, List.append_assoc,
      scan_escapeUnit (hunits unit List.mem_cons_self),
      ih fun other hother ↦ hunits other (List.mem_cons_of_mem unit hother), Option.map_map]
    rfl

/-- A character that is written is read as its code units. -/
theorem scan_escapeChar (c : Char) (rest : PyStr) :
    scan .plain (escapeChar c ++ rest) =
      (scan .plain rest).map (Prod.map (codeUnits c ++ ·) id) := by
  unfold escapeChar
  cases hletter : escapeLetter c with
  | some letter =>
    unfold escapeLetter at hletter
    split_ifs at hletter <;> subst_vars <;> obtain rfl := Option.some.inj hletter <;> rfl
  | none =>
    have hplain : c ≠ '"' ∧ c ≠ '\\' := by
      constructor
      · rintro rfl
        nomatch hletter
      · rintro rfl
        nomatch hletter
    dsimp only
    split_ifs with hprintable
    · have hlow : ¬ c.toNat < 0x20 := by
        unfold isPrintable at hprintable
        rw [Bool.and_eq_true, decide_eq_true_eq, decide_eq_true_eq] at hprintable
        omega
      change scan .plain (c :: rest) = _
      rw [scan, if_neg hplain.1, if_neg hplain.2, if_neg hlow]
    · exact scan_flatMap_escapeUnit (fun _ ↦ lt_of_mem_codeUnits) rest

/-- The code units of a character are read as the character. -/
theorem ofCodeUnits_codeUnits (c : Char) (units : List ℕ) :
    ofCodeUnits (codeUnits c ++ units) = (ofCodeUnits units).map (c :: ·) := by
  have hcases := toNat_cases c
  unfold codeUnits
  split_ifs with hbasic
  · rw [List.singleton_append, ofCodeUnits.eq_def]
    dsimp only
    rw [if_neg (by omega), if_neg (by omega), Char.ofNat_toNat]
  · have hhigh : 0xd800 ≤ 0xd800 + (c.toNat - 0x10000) / 0x400 ∧
        0xd800 + (c.toNat - 0x10000) / 0x400 < 0xdc00 := by omega
    have hlow : 0xdc00 ≤ 0xdc00 + (c.toNat - 0x10000) % 0x400 ∧
        0xdc00 + (c.toNat - 0x10000) % 0x400 < 0xe000 := by omega
    have hvalue : 0x10000 + (0xd800 + (c.toNat - 0x10000) / 0x400 - 0xd800) * 0x400 +
        (0xdc00 + (c.toNat - 0x10000) % 0x400 - 0xdc00) = c.toNat := by omega
    rw [List.cons_append, List.singleton_append, ofCodeUnits.eq_def]
    dsimp only
    rw [if_pos hhigh, if_pos hlow, hvalue, Char.ofNat_toNat]

/-- The code units of a text are read as the text. -/
theorem ofCodeUnits_flatMap (text : PyStr) : ofCodeUnits (text.flatMap codeUnits) = some text := by
  induction text with
  | nil => rfl
  | cons c rest ih => rw [List.flatMap_cons, ofCodeUnits_codeUnits, ih, Option.map_some]

/-- A text that is written is read up to its closing quote. -/
theorem scan_flatMap_escapeChar (text rest : PyStr) :
    scan .plain (text.flatMap escapeChar ++ '"' :: rest) =
      some (text.flatMap codeUnits, rest) := by
  induction text with
  | nil => rfl
  | cons c text ih =>
    rw [List.flatMap_cons, List.append_assoc, scan_escapeChar, ih]
    rfl

/-- A text that is written is read as the text. -/
theorem readText_dumpsText (text rest : PyStr) :
    readText (dumpsText text ++ rest) = some (text, rest) := by
  unfold readText dumpsText
  change (scan .plain (text.flatMap escapeChar ++ ['"'] ++ rest)).bind _ = _
  rw [List.append_assoc, List.singleton_append, scan_flatMap_escapeChar, Option.bind_some]
  dsimp only
  rw [ofCodeUnits_flatMap]
  rfl

/-- White space is not skipped where there is none. -/
theorem skipSpaces_cons (hspace : c ∉ [' ', '\t', '\n', '\r']) (rest : PyStr) :
    skipSpaces (c :: rest) = c :: rest :=
  List.dropWhile_cons_of_neg (by simpa using hspace)

/-- A value that is written is read as the value. -/
theorem readValue_dumpsValue (value : Option PyStr) (rest : PyStr) :
    readValue (dumpsValue value ++ rest) = some (value, rest) := by
  cases value with
  | none => rfl
  | some text =>
    unfold readValue dumpsValue
    rw [if_neg (by rintro ⟨⟩), readText_dumpsText]
    rfl

/-- A value does not start with white space. -/
theorem skipSpaces_dumpsValue (value : Option PyStr) (rest : PyStr) :
    skipSpaces (dumpsValue value ++ rest) = dumpsValue value ++ rest := by
  cases value with
  | none => rfl
  | some text => rfl

/-- A member that is written is read as the member, if no white space follows. -/
theorem readMember_dumpsMember (member : PyStr × Option PyStr) (hspace : skipSpaces rest = rest) :
    readMember (dumpsMember member ++ rest) = some (member, rest) := by
  unfold readMember dumpsMember
  rw [List.append_assoc, List.append_assoc, readText_dumpsText]
  change (readValue (skipSpaces (dumpsValue member.2 ++ rest))).bind _ = _
  rw [skipSpaces_dumpsValue, readValue_dumpsValue]
  change some ((member.1, member.2), skipSpaces rest) = _
  rw [hspace]

/-- Members that are written are read up to the closing brace. -/
theorem readMembers_dumpsMember {members : List (PyStr × Option PyStr)} (hsome : members ≠ [])
    {limit : ℕ} (hlimit : members.length ≤ limit) (rest : PyStr) :
    readMembers limit (List.intercalate ", ".toList (members.map dumpsMember) ++ '\x7d' :: rest) =
      some (members, rest) := by
  induction members generalizing limit with
  | nil => exact absurd rfl hsome
  | cons member others ih =>
    obtain ⟨limit, rfl⟩ := Nat.exists_eq_succ_of_ne_zero (Nat.ne_zero_of_lt hlimit)
    rw [readMembers]
    cases others with
    | nil =>
      rw [List.map_singleton, List.intercalate_singleton,
        readMember_dumpsMember member (skipSpaces_cons (by decide) rest)]
      rfl
    | cons second others =>
      have hnext : skipSpaces (List.intercalate ", ".toList ((second :: others).map dumpsMember) ++
          '\x7d' :: rest) = List.intercalate ", ".toList ((second :: others).map dumpsMember) ++
            '\x7d' :: rest := by
        rw [List.map_cons]
        cases others <;> rfl
      have hothers := ih (List.cons_ne_nil second others) (Nat.le_of_succ_le_succ hlimit)
      rw [List.map_cons, List.map_cons, List.intercalate_cons_cons, ← List.map_cons,
        List.append_assoc, List.append_assoc]
      generalize List.intercalate ", ".toList ((second :: others).map dumpsMember) ++
        '\x7d' :: rest = tail at hnext hothers ⊢
      have hread : readMember (dumpsMember member ++ (", ".toList ++ tail)) =
          some (member, ", ".toList ++ tail) :=
        readMember_dumpsMember member (skipSpaces_cons (by decide) (' ' :: tail))
      rw [hread]
      change (readMembers limit (skipSpaces tail)).map _ = _
      rw [hnext, hothers]
      rfl

/-- Every member takes some room. -/
theorem length_le_length_dumps (members : List (PyStr × Option PyStr)) :
    members.length ≤ (dumps members).length := by
  have hmembers : ∀ members : List (PyStr × Option PyStr),
      members.length ≤ (List.intercalate ", ".toList (members.map dumpsMember)).length := by
    intro members
    induction members with
    | nil => exact le_rfl
    | cons member others ih =>
      have hmember : 1 ≤ (dumpsMember member).length := Nat.succ_le_succ (Nat.zero_le _)
      cases others with
      | nil =>
        rw [List.map_singleton, List.intercalate_singleton]
        exact hmember
      | cons second others =>
        rw [List.map_cons, List.map_cons, List.intercalate_cons_cons, ← List.map_cons,
          List.length_append, List.length_append, List.length_cons]
        omega
  unfold dumps
  rw [List.length_append, List.length_cons]
  exact (hmembers members).trans (by omega)

/-- An object that is written is read as the object. -/
theorem loads_dumps (members : List (PyStr × Option PyStr)) :
    loads (dumps members) = some members := by
  cases members with
  | nil => rfl
  | cons member others =>
    have hread := readMembers_dumpsMember (List.cons_ne_nil member others)
      (length_le_length_dumps (member :: others)) []
    have hhead : ∃ rest, List.intercalate ", ".toList ((member :: others).map dumpsMember) ++
        ['\x7d'] = '"' :: rest := by
      cases others with
      | nil => exact ⟨_, rfl⟩
      | cons second others => exact ⟨_, rfl⟩
    obtain ⟨rest, hrest⟩ := hhead
    have hdumps : dumps (member :: others) = '\x7b' :: '"' :: rest := by rw [dumps, ← hrest]; rfl
    rw [hrest] at hread
    unfold loads
    rw [hdumps] at hread ⊢
    change (readMembers ('\x7b' :: '"' :: rest).length ('"' :: rest)).bind _ = _
    rw [hread]
    rfl

example : loads " \x7b\"a\" : null, \"b\":\"\\u00E9\\ud83d\\ude00\\/\"\x7d\n".toList =
    some [("a".toList, none), ("b".toList, some "é😀/".toList)] := by decide +kernel

example : dumps [("a".toList, some "é\n\"😀".toList), ("b".toList, none)] =
    "\x7b\"a\": \"\\u00e9\\n\\\"\\ud83d\\ude00\", \"b\": null\x7d".toList := by decide +kernel

/-- Objects that are written alike are the same. -/
theorem dumps_inj {first second : List (PyStr × Option PyStr)} :
    dumps first = dumps second ↔ first = second := by
  refine ⟨fun heq ↦ ?_, congrArg dumps⟩
  have hloads := congrArg loads heq
  rw [loads_dumps, loads_dumps] at hloads
  exact Option.some.inj hloads

/-! ### What is written is printable -/

end PingGuard.Library.JsonText
