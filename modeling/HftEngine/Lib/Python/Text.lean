import HftEngine.Lib.Binary64
import Mathlib.Data.List.TakeDrop
import Mathlib.Data.List.TakeWhile

/-!
# Numbers in Python text

`str.isdigit` and the readings of a text by `int` and `float`, with the decimal
digits and the spaces of Unicode 14.  A float is the `Float` of Lean, which is
the same IEEE binary64.  The interpreter's limit on the digits of an `int` is
not modelled.
-/

namespace Py

open Binary64

/-! ## Characters -/

/-- The zeros of the runs of ten decimal digits. -/
def decimalZeros : List ℕ :=
  [0x30, 0x660, 0x6f0, 0x7c0, 0x966, 0x9e6, 0xa66, 0xae6, 0xb66, 0xbe6, 0xc66,
   0xce6, 0xd66, 0xde6, 0xe50, 0xed0, 0xf20, 0x1040, 0x1090, 0x17e0, 0x1810,
   0x1946, 0x19d0, 0x1a80, 0x1a90, 0x1b50, 0x1bb0, 0x1c40, 0x1c50, 0xa620,
   0xa8d0, 0xa900, 0xa9d0, 0xa9f0, 0xaa50, 0xabf0, 0xff10, 0x104a0, 0x10d30,
   0x11066, 0x110f0, 0x11136, 0x111d0, 0x112f0, 0x11450, 0x114d0, 0x11650,
   0x116c0, 0x11730, 0x118e0, 0x11950, 0x11c50, 0x11d50, 0x11da0, 0x16a60,
   0x16ac0, 0x16b50, 0x1d7ce, 0x1d7d8, 0x1d7e2, 0x1d7ec, 0x1d7f6, 0x1e140,
   0x1e2f0, 0x1e950, 0x1fbf0]

/-- The digits that are not decimal, such as superscripts: first and last of
each run. -/
def otherDigits : List (ℕ × ℕ) :=
  [(0xb2, 0xb3), (0xb9, 0xb9), (0x1369, 0x1371), (0x19da, 0x19da),
   (0x2070, 0x2070), (0x2074, 0x2079), (0x2080, 0x2089), (0x2460, 0x2468),
   (0x2474, 0x247c), (0x2488, 0x2490), (0x24ea, 0x24ea), (0x24f5, 0x24fd),
   (0x24ff, 0x24ff), (0x2776, 0x277e), (0x2780, 0x2788), (0x278a, 0x2792),
   (0x10a40, 0x10a43), (0x10e60, 0x10e68), (0x11052, 0x1105a),
   (0x1f100, 0x1f10a)]

/-- The spaces outside ASCII. -/
def wideSpaces : List ℕ :=
  [0x85, 0xa0, 0x1680, 0x2000, 0x2001, 0x2002, 0x2003, 0x2004, 0x2005, 0x2006,
   0x2007, 0x2008, 0x2009, 0x200a, 0x2028, 0x2029, 0x202f, 0x205f, 0x3000]

def decimal? (c : Char) : Option ℕ :=
  (decimalZeros.find? (fun base => base ≤ c.toNat && c.toNat < base + 10)).map
    (fun base => c.toNat - base)

def isDigitChar (c : Char) : Bool :=
  (decimal? c).isSome ||
    otherDigits.any (fun run => run.1 ≤ c.toNat && c.toNat ≤ run.2)

def isdigit (text : String) : Bool :=
  !text.isEmpty && text.toList.all isDigitChar

/-- Blank to `int` and `float`, once the wide spaces are replaced. -/
def isBlank (c : Char) : Bool :=
  c = ' ' || (9 ≤ c.toNat && c.toNat ≤ 13)

/-! ## Digits -/

/-- Decimal digits and spaces in ASCII; what has no such form becomes a
question mark, which no number contains. -/
def toAscii (c : Char) : Char :=
  if c.toNat < 127 then c
  else if wideSpaces.contains c.toNat then ' '
  else
    match decimal? c with
    | some digit => Nat.digitChar digit
    | none => '?'

def strip (cs : List Char) : List Char :=
  ((cs.dropWhile isBlank).reverse.dropWhile isBlank).reverse

/-- Take out the underscores, each of which must stand between two digits;
`before` is the character before the text. -/
def dropUnderscores (before : Char) : List Char → Option (List Char)
  | [] => if before = '_' then none else some []
  | c :: rest =>
      if c = '_' then
        if before.isDigit then dropUnderscores c rest else none
      else if before = '_' && !c.isDigit then none
      else (dropUnderscores c rest).map (c :: ·)

theorem dropUnderscores_cons (before c : Char) (rest : List Char) :
    dropUnderscores before (c :: rest) =
      if c = '_' then
        if before.isDigit then dropUnderscores c rest else none
      else if before = '_' && !c.isDigit then none
      else (dropUnderscores c rest).map (c :: ·) := rfl

def digits (text : String) : Option (List Char) :=
  dropUnderscores ' ' (strip (text.toList.map toAscii))

/-- Whether there is a minus sign, and the text after the sign. -/
def splitSign : List Char → Bool × List Char
  | '-' :: rest => (true, rest)
  | '+' :: rest => (false, rest)
  | rest => (false, rest)

def natural? (cs : List Char) : Option ℕ :=
  if cs.isEmpty || cs.any (fun c => !c.isDigit) then none
  else some (Nat.ofDigitChars 10 cs 0)

def integer? (cs : List Char) : Option ℤ :=
  let (negative, magnitude) := splitSign cs
  (natural? magnitude).map (fun n => if negative then -(n : ℤ) else n)

/-- `int(text)`; none is a `ValueError`. -/
def int? (text : String) : Option ℤ :=
  (digits text).bind integer?

/-! ## Floats -/

/-- The exponent part of a number, which may be missing. -/
def exponent? : List Char → Option ℤ
  | [] => some 0
  | c :: rest => if c = 'e' || c = 'E' then integer? rest else none

/-- Digits with a point and an exponent. -/
def decimalFloat? (negative : Bool) (cs : List Char) : Option Float :=
  let (whole, rest) := cs.span Char.isDigit
  let (fraction, rest) :=
    match rest with
    | '.' :: rest => rest.span Char.isDigit
    | rest => ([], rest)
  if (whole ++ fraction).isEmpty then none
  else (exponent? rest).map (fun exponent =>
    ofDecimal negative (Nat.ofDigitChars 10 (whole ++ fraction) 0)
      (exponent - fraction.length))

def signedFloat? (negative : Bool) (cs : List Char) : Option Float :=
  let lower := String.ofList (cs.map Char.toLower)
  if lower = "inf" || lower = "infinity" then
    some (if negative then -infinity else infinity)
  else if lower = "nan" then some notANumber
  else decimalFloat? negative cs

/-- `float(text)`; none is a `ValueError`. -/
def float? (text : String) : Option Float :=
  (digits text).bind (fun cs =>
    let (negative, magnitude) := splitSign cs
    signedFloat? negative magnitude)

/-! ## Texts that are no numbers -/

theorem decimal_bases : ∀ base ∈ decimalZeros,
    (base = 48 ∨ 127 ≤ base) ∧
      ∀ space ∈ wideSpaces, ¬(base ≤ space ∧ space < base + 10) := by
  decide

theorem isDigit_toAscii {c : Char} (decimal : (decimal? c).isSome) :
    (toAscii c).isDigit = true := by
  obtain ⟨digit, read⟩ := Option.isSome_iff_exists.mp decimal
  obtain ⟨base, found, rfl⟩ := Option.map_eq_some_iff.mp read
  have within := List.find?_some found
  simp only [Bool.and_eq_true, decide_eq_true_eq] at within
  obtain ⟨ascii, notSpace⟩ := decimal_bases base (List.mem_of_find?_eq_some found)
  by_cases short : c.toNat < 127
  · rw [toAscii, if_pos short]
    rcases ascii with rfl | wide
    · exact Char.isDigit_iff_toNat.mpr ⟨within.1, Nat.lt_succ_iff.mp within.2⟩
    · omega
  · have plain : ¬ wideSpaces.contains c.toNat = true := by
      rw [List.contains_iff_mem]
      intro space
      exact notSpace _ space within
    rw [toAscii, if_neg short, if_neg plain, read, Nat.isDigit_digitChar]
    exact decide_eq_true (by omega)

theorem isBlank_of_isDigit {c : Char} (digit : c.isDigit = true) :
    isBlank c = false := by
  have range := Char.isDigit_iff_toNat.mp digit
  have lower : 48 ≤ c.toNat := range.1
  have other : c ≠ ' ' := by
    rintro rfl
    exact absurd lower (by decide)
  simp only [isBlank, other, decide_false, Bool.false_or, Bool.and_eq_false_iff,
    decide_eq_false_iff_not]
  omega

/-- Stripping leaves what stands before a character that is not blank. -/
theorem strip_before {first last : Char} {middle rest : List Char}
    (starts : isBlank first = false) (ends : isBlank last = false) :
    ∃ kept, strip (first :: middle ++ last :: rest) =
      first :: middle ++ last :: kept := by
  have start : (first :: middle ++ last :: rest).dropWhile isBlank =
      first :: middle ++ last :: rest := by
    rw [List.cons_append, List.dropWhile_cons_of_neg (by simp [starts])]
  have reversed : (first :: middle ++ last :: rest).reverse =
      rest.reverse ++ last :: (first :: middle).reverse := by
    simp
  refine ⟨(rest.reverse.dropWhile isBlank).reverse, ?_⟩
  rw [strip, start, reversed, List.dropWhile_append]
  split
  case isTrue blank =>
    have none_left : rest.reverse.dropWhile isBlank = [] := List.isEmpty_iff.mp blank
    rw [List.dropWhile_cons_of_neg (by simp [ends]), none_left]
    simp
  case isFalse => simp

theorem dropUnderscores_digits {ds : List Char} (digits : ∀ c ∈ ds, c.isDigit = true)
    (rest : List Char) : ∀ {before : Char}, before ≠ '_' → ∃ last, last ≠ '_' ∧
      dropUnderscores before (ds ++ rest) =
        (dropUnderscores last rest).map (ds ++ ·) := by
  induction ds with
  | nil =>
      intro before plain
      exact ⟨before, plain, by simp⟩
  | cons d ds ih =>
      intro before plain
      obtain ⟨digit, others⟩ := List.forall_mem_cons.mp digits
      have own : d ≠ '_' := by
        rintro rfl
        exact absurd digit (by decide)
      obtain ⟨last, ends, dropped⟩ := ih others own
      refine ⟨last, ends, ?_⟩
      rw [List.cons_append, dropUnderscores_cons, if_neg own, if_neg (by simp [plain]),
        dropped, Option.map_map]
      rfl

/-- A dash after digits stays where it is. -/
theorem digits_dash {text : String} {ds rest : List Char} (long : ds ≠ [])
    (decimal : ∀ c ∈ ds, (decimal? c).isSome)
    (spelled : text.toList = ds ++ '-' :: rest)
    {cs : List Char} (read : digits text = some cs) :
    ∃ ascii others : List Char, ascii ≠ [] ∧ (∀ c ∈ ascii, c.isDigit = true) ∧
      cs = ascii ++ '-' :: others := by
  obtain ⟨d, ds, rfl⟩ := List.exists_cons_of_ne_nil long
  have ascii : ∀ c ∈ (d :: ds).map toAscii, c.isDigit = true := by
    intro c member
    obtain ⟨original, among, rfl⟩ := List.mem_map.mp member
    exact isDigit_toAscii (decimal original among)
  have mapped : text.toList.map toAscii =
      toAscii d :: ds.map toAscii ++ '-' :: rest.map toAscii := by
    rw [spelled, List.map_append]
    rfl
  obtain ⟨kept, stripped⟩ : ∃ kept,
      strip (toAscii d :: ds.map toAscii ++ '-' :: rest.map toAscii) =
        toAscii d :: ds.map toAscii ++ '-' :: kept :=
    strip_before (isBlank_of_isDigit (ascii _ List.mem_cons_self)) rfl
  rw [digits, mapped, stripped] at read
  obtain ⟨last, ends, dropped⟩ :=
    dropUnderscores_digits ascii ('-' :: kept) (show ' ' ≠ '_' by decide)
  rw [List.map_cons] at dropped
  rw [dropped, Option.map_eq_some_iff] at read
  obtain ⟨left, continued, rfl⟩ := read
  rw [dropUnderscores_cons, if_neg (by decide), if_neg (by simp [ends])] at continued
  obtain ⟨others, -, rfl⟩ := Option.map_eq_some_iff.mp continued
  exact ⟨_, others, List.cons_ne_nil _ _, ascii, rfl⟩

theorem splitSign_digit {c : Char} (digit : c.isDigit = true) (rest : List Char) :
    splitSign (c :: rest) = (false, c :: rest) := by
  unfold splitSign
  split
  case h_1 same =>
    obtain ⟨rfl, -⟩ := List.cons.inj same
    exact absurd digit (by decide)
  case h_2 same =>
    obtain ⟨rfl, -⟩ := List.cons.inj same
    exact absurd digit (by decide)
  case h_3 => rfl

theorem span_digits {ds rest : List Char} (digits : ∀ c ∈ ds, c.isDigit = true)
    (ended : ∀ c ∈ rest.head?, c.isDigit = false) :
    (ds ++ rest).span Char.isDigit = (ds, rest) := by
  rw [List.span_eq_takeWhile_dropWhile, List.takeWhile_append_of_pos digits,
    List.dropWhile_append_of_pos digits]
  cases rest with
  | nil => simp
  | cons c rest =>
      have other : c.isDigit = false := ended c (by simp)
      simp [other]

theorem int?_dash {text : String} {ds rest : List Char} (long : ds ≠ [])
    (decimal : ∀ c ∈ ds, (decimal? c).isSome)
    (spelled : text.toList = ds ++ '-' :: rest) :
    int? text = none := by
  rw [int?, Option.bind_eq_none_iff]
  intro cs read
  obtain ⟨ascii, others, some_digit, all_digits, rfl⟩ :=
    digits_dash long decimal spelled read
  obtain ⟨c, ascii, rfl⟩ := List.exists_cons_of_ne_nil some_digit
  have unsigned := splitSign_digit (all_digits c List.mem_cons_self)
    (ascii ++ '-' :: others)
  have dash : natural? (c :: (ascii ++ '-' :: others)) = none := by
    rw [natural?, if_pos]
    simp
  rw [List.cons_append, integer?, unsigned]
  simp only [dash]
  rfl

theorem float?_dash {text : String} {ds rest : List Char} (long : ds ≠ [])
    (decimal : ∀ c ∈ ds, (decimal? c).isSome)
    (spelled : text.toList = ds ++ '-' :: rest) :
    float? text = none := by
  rw [float?, Option.bind_eq_none_iff]
  intro cs read
  obtain ⟨ascii, others, some_digit, all_digits, rfl⟩ :=
    digits_dash long decimal spelled read
  obtain ⟨c, ascii, rfl⟩ := List.exists_cons_of_ne_nil some_digit
  have unsigned := splitSign_digit (all_digits c List.mem_cons_self)
    (ascii ++ '-' :: others)
  rw [List.cons_append, unsigned]
  have dashed : '-' ∈ (String.ofList
      ((c :: (ascii ++ '-' :: others)).map Char.toLower)).toList := by
    rw [String.toList_ofList]
    exact List.mem_map.mpr ⟨'-', by simp, rfl⟩
  have not_word : ∀ word : String, '-' ∉ word.toList →
      String.ofList ((c :: (ascii ++ '-' :: others)).map Char.toLower) ≠ word := by
    rintro word plain rfl
    exact plain dashed
  have spanned : (c :: (ascii ++ '-' :: others)).span Char.isDigit =
      (c :: ascii, '-' :: others) :=
    span_digits all_digits (by simp)
  simp only [signedFloat?, not_word "inf" (by decide), not_word "infinity" (by decide),
    not_word "nan" (by decide), decide_false, Bool.or_false, Bool.false_eq_true,
      if_false]
  simp only [decimalFloat?, spanned]
  rfl

example : int? " 1_000\u2028" = some 1000 := by decide
example : float? "-1_0.5e-1" = some (-1.05) := by decide
example : float? "1._5" = none := by decide

end Py
