import Mathlib.Data.List.TakeDrop
import SampledEviction.ByteSize
import SampledEviction.Proofs.Text.Trim

/-!
# The grammar of sizes

A size is a number and a unit, with white space around both. The unit begins at the first letter,
and its upper case is the name of a unit; upper case is that of all characters, so that a unit may
be spelled with letters beyond ASCII.

* `number?_eq_some_iff`, `unit?_eq_some_iff` — what is read as a number, and as a unit
* `mem_unitSpellings` — the characters that units can be spelled with
* `parse_eq_ok_iff` — what is read as a size
* `parse_decimal` — a number in decimal digits and a unit are read back, or refused if too large
* `parse_exact` — both of these, for texts with white space around them
-/

namespace SampledEviction.ByteSize

open Text

/-! ## Numbers -/

/-- A text is a number: one or more digits, perhaps with a plus sign in front of them. -/
def Numeral (text : List Char) (n : Nat) : Prop :=
  ∃ digits, (text = digits ∨ text = '+' :: digits) ∧ digits ≠ [] ∧
    (∀ c ∈ digits, c.isDigit = true) ∧ n = Nat.ofDigitChars 10 digits 0

theorem digit?_eq (c : Char) :
    digit? c = if c.isDigit = true then some (c.toNat - '0'.toNat) else none := by
  have hrange : ('0' ≤ c ∧ c ≤ '9') ↔ c.isDigit = true := by
    rw [Char.isDigit, Bool.and_eq_true, decide_eq_true_iff, decide_eq_true_iff, Char.le_def,
      Char.le_def]
  unfold digit?
  exact if_congr hrange rfl rfl

theorem digitsFrom?_eq_some_iff {value n : Nat} {s : List Char} : digitsFrom? value s = some n ↔
    (∀ c ∈ s, c.isDigit = true) ∧ n = Nat.ofDigitChars 10 s value := by
  induction s generalizing value with
  | nil =>
    rw [digitsFrom?, Option.some_inj, Nat.ofDigitChars_nil, eq_comm]
    simp
  | cons c rest ih =>
    rw [digitsFrom?, digit?_eq, List.forall_mem_cons]
    by_cases hc : c.isDigit = true
    · rw [if_pos hc, Option.bind_eq_bind, Option.bind_some, ih, Nat.ofDigitChars_cons,
        Nat.mul_comm, and_iff_right hc]
    · rw [if_neg hc]
      simp [hc]

theorem digits?_eq_some_iff {n : Nat} {s : List Char} : digits? s = some n ↔
    s ≠ [] ∧ (∀ c ∈ s, c.isDigit = true) ∧ n = Nat.ofDigitChars 10 s 0 := by
  rw [← digitsFrom?_eq_some_iff]
  cases s <;> simp [digits?]

/-- What is read as a number. -/
theorem number?_eq_some_iff {n : Nat} {s : List Char} :
    number? s = some n ↔ Numeral s n ∧ n < Word.modulus := by
  unfold number?
  rw [Option.filter_eq_some_iff, digits?_eq_some_iff, decide_eq_true_iff]
  refine and_congr_left fun _ => ?_
  cases s with
  | nil => simp [Numeral]
  | cons c rest =>
    by_cases hplus : c = '+'
    · subst hplus
      constructor
      · rintro ⟨hne, hdigits, hn⟩
        exact ⟨rest, .inr rfl, hne, hdigits, hn⟩
      · rintro ⟨digits, hsign | hsign, hne, hdigits, hn⟩
        · -- a plus sign is no digit
          have hdigit := hdigits '+' (hsign ▸ List.mem_cons_self)
          cases hdigit
        · cases hsign
          exact ⟨hne, hdigits, hn⟩
    · rw [if_neg (by simpa using hplus)]
      constructor
      · rintro ⟨hne, hdigits, hn⟩
        exact ⟨c :: rest, .inl rfl, hne, hdigits, hn⟩
      · rintro ⟨digits, hsign | hsign, hne, hdigits, hn⟩
        · rw [hsign]
          exact ⟨hne, hdigits, hn⟩
        · cases hsign
          exact absurd rfl hplus

/-! ## Units -/

/-- The units and the bytes in them. -/
def units : List (String × Nat) :=
  [("", 1), ("B", 1),
    ("K", 1024), ("KB", 1024), ("KIB", 1024),
    ("M", 1024 * 1024), ("MB", 1024 * 1024), ("MIB", 1024 * 1024),
    ("G", 1024 * 1024 * 1024), ("GB", 1024 * 1024 * 1024), ("GIB", 1024 * 1024 * 1024),
    ("T", 1024 * 1024 * 1024 * 1024), ("TB", 1024 * 1024 * 1024 * 1024),
    ("TIB", 1024 * 1024 * 1024 * 1024)]

theorem bytes_pos_of_mem_units {u : String} {m : Nat} (h : (u, m) ∈ units) : 0 < m := by
  have hall : ∀ e ∈ units, 0 < e.2 := by decide
  exact hall _ h

/-- What is read as a unit. -/
theorem unit?_eq_some_iff {u : String} {m : Nat} : unit? u = some m ↔ (u, m) ∈ units := by
  constructor
  · intro h
    unfold unit? at h
    split at h <;> cases h <;> decide
  · intro h
    simp only [units, List.mem_cons, Prod.mk.injEq, List.not_mem_nil, or_false] at h
    rcases h with ⟨rfl, rfl⟩ | ⟨rfl, rfl⟩ | ⟨rfl, rfl⟩ | ⟨rfl, rfl⟩ | ⟨rfl, rfl⟩ | ⟨rfl, rfl⟩ |
      ⟨rfl, rfl⟩ | ⟨rfl, rfl⟩ | ⟨rfl, rfl⟩ | ⟨rfl, rfl⟩ | ⟨rfl, rfl⟩ | ⟨rfl, rfl⟩ | ⟨rfl, rfl⟩ |
      ⟨rfl, rfl⟩ <;> rfl

/-! ## Spelling -/

/-- The letters of the names of units. -/
def unitLetters : List Char := ['B', 'K', 'M', 'G', 'T', 'I']

/-- The characters whose upper case is made of letters of units: both cases of each, and the dotless
i, whose capital is the plain one. -/
def unitSpellings : List Char := unitLetters ++ ['b', 'k', 'm', 'g', 't', 'i', 'ı']

theorem letter_of_mem_upper {s : List Char} {m : Nat} (h : (String.ofList (upper s), m) ∈ units)
    {c : Char} (hc : c ∈ upper s) : c ∈ unitLetters := by
  have hall : ∀ e ∈ units, e.1.toList ⊆ unitLetters := by decide
  exact hall _ h (by rwa [String.toList_ofList])

theorem toNat_ofNat {n : Nat} (h : n.isValidChar) : (Char.ofNat n).toNat = n := by
  unfold Char.ofNat
  rw [dif_pos h]
  rfl

theorem ofNat_of_not_isValidChar {n : Nat} (h : ¬ n.isValidChar) :
    Char.ofNat n = Char.ofNat 0 := by
  unfold Char.ofNat
  rw [dif_neg h]
  rfl

/-- The code points of the letters of units. -/
theorem codePoint_of_mem_unitLetters {n : Nat} (h : Char.ofNat n ∈ unitLetters) :
    n = 0x42 ∨ n = 0x4B ∨ n = 0x4D ∨ n = 0x47 ∨ n = 0x54 ∨ n = 0x49 := by
  by_cases hvalid : n.isValidChar
  · have hcode : (Char.ofNat n).toNat ∈ unitLetters.map Char.toNat := List.mem_map_of_mem h
    rw [toNat_ofNat hvalid] at hcode
    simpa [unitLetters] using hcode
  · rw [ofNat_of_not_isValidChar hvalid] at h
    exact absurd h (by decide)

/-- No expansion is made of letters of units only. -/
theorem exists_notMem_unitLetters :
    ∀ e ∈ upperExpansions.toList, ∃ n ∈ e.2, Char.ofNat n ∉ unitLetters := by
  decide +kernel

/-- The runs whose images reach down to the capitals of ASCII: those of the small letters of ASCII,
of the dotless i and of the long s. -/
theorem run_of_target_le : ∀ r ∈ upperRuns.toList, r.target ≤ 0x54 →
    (r.first = 0x61 ∧ r.target = 0x41) ∨ (r.first = 0x131 ∧ r.last = 0x131 ∧ r.target = 0x49) ∨
      (r.first = 0x17F ∧ r.last = 0x17F ∧ r.target = 0x53) := by
  decide +kernel

/-- What a character is mapped to: to an expansion, to the image under a run, or to itself. -/
theorem mapCase_cases (runs : Array CaseRun) (expansions : Array (Nat × List Nat)) (c : Char) :
    (∃ e ∈ expansions.toList, mapCase runs expansions c = e.2.map Char.ofNat) ∨
      (∃ r ∈ runs.toList, r.covers c.toNat = true ∧
        mapCase runs expansions c = [Char.ofNat (r.image c.toNat)]) ∨
      mapCase runs expansions c = [c] := by
  unfold mapCase
  split
  · rename_i e hfind
    exact .inl ⟨e, Array.mem_toList_iff.mpr (Array.mem_of_find?_eq_some hfind), rfl⟩
  · split
    · rename_i r hfind
      have hcovers := Array.find?_some hfind
      exact .inr (.inl ⟨r, Array.mem_toList_iff.mpr (Array.mem_of_find?_eq_some hfind), hcovers,
        rfl⟩)
    · exact .inr (.inr rfl)

/-- A run leads to a letter of units only from its small letter or from the dotless i. -/
theorem codePoint_of_image {r : CaseRun} (hr : r ∈ upperRuns.toList) {n : Nat}
    (hcovers : r.covers n = true) (himage : Char.ofNat (r.image n) ∈ unitLetters) :
    n = 0x62 ∨ n = 0x6B ∨ n = 0x6D ∨ n = 0x67 ∨ n = 0x74 ∨ n = 0x69 ∨ n = 0x131 := by
  have hcode := codePoint_of_mem_unitLetters himage
  simp only [CaseRun.covers, Bool.and_eq_true, decide_eq_true_eq, beq_iff_eq] at hcovers
  unfold CaseRun.image at hcode
  have hrun := run_of_target_le r hr (by omega)
  omega

/-- A unit can be spelled with these characters only. -/
theorem mem_unitSpellings {c : Char}
    (h : ∀ x ∈ mapCase upperRuns upperExpansions c, x ∈ unitLetters) : c ∈ unitSpellings := by
  rcases mapCase_cases upperRuns upperExpansions c with ⟨e, he, hc⟩ | ⟨r, hr, hcovers, hc⟩ | hc
  · obtain ⟨n, hn, hnot⟩ := exists_notMem_unitLetters e he
    rw [hc] at h
    exact absurd (h _ (List.mem_map_of_mem hn)) hnot
  · rw [hc] at h
    have hcode := codePoint_of_image hr hcovers (h _ List.mem_cons_self)
    rw [← Char.ofNat_toNat c]
    rcases hcode with h | h | h | h | h | h | h <;> rw [h] <;> decide
  · rw [hc] at h
    exact List.mem_append_left _ (h c List.mem_cons_self)

/-! ## Classes of characters -/

theorem inRanges_iff {ranges : Array (Nat × Nat)} {c : Char} : inRanges ranges c = true ↔
    ∃ r ∈ ranges.toList, r.1 ≤ c.toNat ∧ c.toNat ≤ r.2 := by
  unfold inRanges
  rw [← Array.any_toList, List.any_eq_true]
  simp

theorem isAlphabetic_of_mem_unitSpellings {c : Char} (h : c ∈ unitSpellings) :
    isAlphabetic c = true := by
  have hcapitals : (0x41, 0x5A) ∈ alphabeticRanges.toList := by decide +kernel
  have hsmall : (0x61, 0x7A) ∈ alphabeticRanges.toList := by decide +kernel
  have hbeyond : (0xF8, 0x2C1) ∈ alphabeticRanges.toList := by decide +kernel
  have hcode : ∀ n ∈ unitSpellings.map Char.toNat,
      (0x41 ≤ n ∧ n ≤ 0x5A) ∨ (0x61 ≤ n ∧ n ≤ 0x7A) ∨ (0xF8 ≤ n ∧ n ≤ 0x2C1) := by decide
  unfold isAlphabetic
  rw [inRanges_iff]
  rcases hcode _ (List.mem_map_of_mem h) with h | h | h
  · exact ⟨_, hcapitals, h⟩
  · exact ⟨_, hsmall, h⟩
  · exact ⟨_, hbeyond, h⟩

theorem isBlank_of_mem_unitSpellings {c : Char} (h : c ∈ unitSpellings) : isBlank c = false := by
  have hnone : ∀ b ∈ unitSpellings.map isBlank, b = false := by decide
  exact hnone _ (List.mem_map_of_mem h)

theorem codePoint_of_isDigit {c : Char} (h : c.isDigit = true) :
    0x30 ≤ c.toNat ∧ c.toNat ≤ 0x39 := by
  rw [Char.isDigit, Bool.and_eq_true, decide_eq_true_iff, decide_eq_true_iff] at h
  exact h

/-- No letter comes before the capitals of ASCII. -/
theorem isAlphabetic_of_lt {c : Char} (h : c.toNat < 0x41) : isAlphabetic c = false := by
  have hfirst : ∀ r ∈ alphabeticRanges.toList, 0x41 ≤ r.1 := by decide +kernel
  unfold isAlphabetic
  rw [← Bool.not_eq_true, inRanges_iff]
  rintro ⟨r, hr, hle, -⟩
  have hletter := hfirst r hr
  omega

theorem isAlphabetic_of_isDigit {c : Char} (h : c.isDigit = true) : isAlphabetic c = false := by
  obtain ⟨-, hnine⟩ := codePoint_of_isDigit h
  exact isAlphabetic_of_lt (by omega)

theorem isBlank_of_isDigit {c : Char} (h : c.isDigit = true) : isBlank c = false := by
  obtain ⟨hzero, hnine⟩ := codePoint_of_isDigit h
  simp [isBlank, blankRanges]
  omega

/-! ## Sizes -/

/-- A text is cut before its first letter, or at its end if it has none. -/
structure Cut (text number unit : List Char) : Prop where
  append : text = number ++ unit
  noLetter : ∀ c ∈ number, isAlphabetic c = false
  letter : ∀ c ∈ unit.head?, isAlphabetic c = true

/-- A text is a size: a number, perhaps with white space around it, and a unit that begins at the
first letter, whose bytes are counted by 64 bits. -/
def Sized (text : List Char) (v : Nat) : Prop :=
  ∃ number unit core n m, Cut text number unit ∧ Trimmed number core ∧ Numeral core n ∧
    n < Word.modulus ∧ (String.ofList (upper unit), m) ∈ units ∧ n * m < Word.modulus ∧ v = n * m

theorem cut_span (text : List Char) :
    Cut text (text.span fun c => !isAlphabetic c).1 (text.span fun c => !isAlphabetic c).2 where
  append := by
    rw [List.span_eq_takeWhile_dropWhile]
    exact List.takeWhile_append_dropWhile.symm
  noLetter := by
    rw [List.span_eq_takeWhile_dropWhile]
    intro c hc
    have hnot := List.mem_takeWhile_imp hc
    simpa using hnot
  letter := by
    rw [List.span_eq_takeWhile_dropWhile]
    intro c hc
    have hnot := List.head?_dropWhile_not (fun c => !isAlphabetic c) text
    rw [Option.mem_def.mp hc] at hnot
    simpa using hnot

theorem Cut.span_eq {text number unit : List Char} (h : Cut text number unit) :
    (text.span fun c => !isAlphabetic c) = (number, unit) := by
  have hnumber : ∀ c ∈ number, (!isAlphabetic c) = true := fun c hc => by
    rw [h.noLetter c hc]
    rfl
  rw [List.span_eq_takeWhile_dropWhile, h.append, List.takeWhile_append_of_pos hnumber,
    List.dropWhile_append_of_pos hnumber]
  cases hunit : unit with
  | nil => simp
  | cons c rest =>
    have hletter := h.letter c (by rw [hunit]; rfl)
    simp [hletter]

variable {s : String} {number unit : List Char} {n m v : Nat}

/-- The answer to a text in which a number and a unit are read. -/
theorem parse_of_cut (hcut : Cut (trim s.toList) number unit)
    (hn : number? (trim number) = some n) (hm : (String.ofList (upper unit), m) ∈ units) :
    parse s = if n * m < Word.modulus then .ok (n * m) else .error .overflow := by
  have hne : (trim s.toList).isEmpty = false := by
    rw [hcut.append]
    cases number with
    | nil => cases hn
    | cons c rest => rfl
  have hunit := unit?_eq_some_iff.mpr hm
  simp only [parse, hne, hcut.span_eq, hn, hunit]
  rfl

/-- The answer to a text in which no number is read. -/
theorem parse_of_number?_eq_none (hne : trim s.toList ≠ []) (hcut : Cut (trim s.toList) number unit)
    (hn : number? (trim number) = none) : parse s = .error (.badNumber (String.ofList number)) := by
  have hempty : (trim s.toList).isEmpty = false := List.isEmpty_eq_false_iff.mpr hne
  simp only [parse, hempty, hcut.span_eq, hn]
  rfl

/-- What is read as a size. -/
theorem parse_eq_ok_iff : parse s = .ok v ↔ Sized (trim s.toList) v := by
  constructor
  · intro h
    have hcut := cut_span (trim s.toList)
    unfold parse at h
    simp only at h
    split at h
    · cases h
    split at h
    · cases h
    rename_i n hn
    split at h
    · cases h
    rename_i m hm
    split at h
    · rename_i hfits
      cases h
      obtain ⟨hnumeral, hword⟩ := number?_eq_some_iff.mp hn
      exact ⟨_, _, _, n, m, hcut, trimmed_trim _, hnumeral, hword, unit?_eq_some_iff.mp hm, hfits,
        rfl⟩
    · cases h
  · rintro ⟨number, unit, core, n, m, hcut, htrimmed, hnumeral, hword, hm, hfits, rfl⟩
    have hn := number?_eq_some_iff.mpr ⟨hnumeral, hword⟩
    rw [← htrimmed.trim_eq] at hn
    rw [parse_of_cut hcut hn hm, if_pos hfits]

/-! ## Decimal digits -/

theorem isDigit_of_mem_decimal {c : Char} (h : c ∈ Nat.toDigits 10 n) : c.isDigit = true :=
  Nat.isDigit_of_mem_toDigits (by decide) (by decide) h

/-- Decimal digits are read as the number they are the digits of. -/
theorem number?_decimal (n : Nat) :
    number? (trim (Nat.toDigits 10 n)) = if n < Word.modulus then some n else none := by
  have hread : digits? (Nat.toDigits 10 n) = some n := by
    rw [digits?_eq_some_iff, Nat.ofDigitChars_toDigits (by decide) (by decide)]
    exact ⟨Nat.toDigits_ne_nil, fun c => isDigit_of_mem_decimal, rfl⟩
  have hsign : ¬ (Nat.toDigits 10 n).head? = some '+' := fun h => by
    have hdigit := isDigit_of_mem_decimal (List.mem_of_mem_head? h)
    cases hdigit
  rw [trim_of_forall fun c hc => isBlank_of_isDigit (isDigit_of_mem_decimal hc), number?,
    if_neg hsign, hread, Option.filter_some]
  simp

/-- Decimal digits and the spelling of a unit are cut between the two. -/
theorem cut_decimal (n : Nat) (h : ∀ c ∈ unit, c ∈ unitSpellings) :
    Cut (trim (Nat.toDigits 10 n ++ unit)) (Nat.toDigits 10 n) unit where
  append := by
    refine trim_of_forall fun c hc => ?_
    rcases List.mem_append.mp hc with hdigit | hletter
    · exact isBlank_of_isDigit (isDigit_of_mem_decimal hdigit)
    · exact isBlank_of_mem_unitSpellings (h c hletter)
  noLetter := fun c hc => isAlphabetic_of_isDigit (isDigit_of_mem_decimal hc)
  letter := fun c hc => isAlphabetic_of_mem_unitSpellings (h c (List.mem_of_mem_head? hc))

/-- A number in decimal digits and a unit are read back, or refused if they come to more bytes than
64 bits count. -/
theorem parse_decimal {unit : String} (hm : (String.ofList (upper unit.toList), m) ∈ units) :
    parse (n.repr ++ unit) =
      if n * m < Word.modulus then .ok (n * m)
      else .error (if n < Word.modulus then .overflow else .badNumber n.repr) := by
  have hspelling : ∀ c ∈ unit.toList, c ∈ unitSpellings := fun c hc =>
    mem_unitSpellings fun x hx => letter_of_mem_upper hm (List.mem_flatMap.mpr ⟨c, hc, hx⟩)
  have hcut : Cut (trim (n.repr ++ unit).toList) (Nat.toDigits 10 n) unit.toList := by
    rw [String.toList_append, Nat.toList_repr]
    exact cut_decimal n hspelling
  have hnumber := number?_decimal n
  by_cases hword : n < Word.modulus
  · rw [if_pos hword] at hnumber
    rw [if_pos hword, parse_of_cut hcut hnumber hm]
  · rw [if_neg hword] at hnumber
    have hne : trim (n.repr ++ unit).toList ≠ [] := by
      rw [hcut.append]
      exact List.append_ne_nil_of_left_ne_nil Nat.toDigits_ne_nil _
    -- a unit has a byte at least, so that the number alone is too large already
    have hover : ¬ n * m < Word.modulus := fun h =>
      hword (lt_of_le_of_lt (Nat.le_mul_of_pos_right n (bytes_pos_of_mem_units hm)) h)
    rw [if_neg hword, if_neg hover, parse_of_number?_eq_none hne hcut hnumber]
    rfl

/-! ## Exactness -/

/-- Exactly the sizes are read. Among them are the decimal numbers that a unit follows, unless they
come to more than 64 bits count: these are refused. -/
theorem parse_exact :
    (∀ s v, parse s = .ok v ↔ ∃ text, Trimmed s.toList text ∧ Sized text v) ∧
    ∀ (n : Nat) (unit : String) (m : Nat), (String.ofList (upper unit.toList), m) ∈ units →
      parse (n.repr ++ unit) =
        if n * m < Word.modulus then .ok (n * m)
        else .error (if n < Word.modulus then .overflow else .badNumber n.repr) := by
  refine ⟨fun s v => ?_, fun n unit m hm => parse_decimal hm⟩
  rw [parse_eq_ok_iff]
  constructor
  · intro h
    exact ⟨_, trimmed_trim _, h⟩
  · rintro ⟨text, htrimmed, h⟩
    rwa [htrimmed.trim_eq]

/-- Seven kibibytes with a sign, a leading zero, white space and a dotless i, and the last number of
kibibytes that 64 bits count. -/
theorem parse_exact_kibibytes :
    parse " +07 kıb\n" = .ok 7168 ∧
    parse "18014398509481983kıb" = .ok 18446744073709550592 ∧
    parse "18014398509481984kıb" = .error .overflow := by
  have hupper : upper "kıb".toList = "KIB".toList := by decide +kernel
  have hunit : (String.ofList (upper "kıb".toList), 1024) ∈ units := by
    rw [hupper]
    decide
  have hsigns : ∀ n ∈ "+07 ".toList.map Char.toNat, n < 0x41 := by decide
  have hcut : Cut "+07 kıb".toList "+07 ".toList "kıb".toList := by
    refine ⟨rfl, fun c hc => isAlphabetic_of_lt (hsigns _ (List.mem_map_of_mem hc)), ?_⟩
    rintro c ⟨⟩
    exact isAlphabetic_of_mem_unitSpellings (by decide)
  have hnumeral : Numeral "+07".toList 7 :=
    ⟨['0', '7'], .inr rfl, by decide, List.all_eq_true.mp rfl, by decide⟩
  refine ⟨(parse_exact.1 _ _).mpr ⟨"+07 kıb".toList, trim_eq_iff.mp (by decide), ?_⟩,
    parse_exact.2 18014398509481983 "kıb" 1024 hunit,
    parse_exact.2 18014398509481984 "kıb" 1024 hunit⟩
  exact ⟨_, _, "+07".toList, 7, 1024, hcut, trim_eq_iff.mp (by decide), hnumeral, by decide,
    hunit, by decide, rfl⟩

end SampledEviction.ByteSize
