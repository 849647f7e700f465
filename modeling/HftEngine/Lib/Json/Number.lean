import HftEngine.Lib.Python.Value

/-!
# Numbers in JSON

The numbers of JSON, the texts that Python gives to ints and to floats, and
that these read back.  The text of a float has the fewest digits that read back
as it, the nearer ones first; the exact decimal, which is never needed, stands
last.
-/

namespace Json

open Py Binary64

/-! ## Reading -/

/-- Only a minus is a sign. -/
def splitMinus : List Char → Bool × List Char
  | '-' :: rest => (true, rest)
  | rest => (false, rest)

/-- The digits before the point: no zero stands before another digit. -/
def isWhole : List Char → Bool
  | [] => false
  | ['0'] => true
  | c :: _ => c ≠ '0'

/-- The number whose digits before the point are given. -/
def continue? (negative : Bool) (whole : List Char) : List Char → Option Value
  | [] =>
      let n := Nat.ofDigitChars 10 whole 0
      some (.int (if negative then -(n : ℤ) else n))
  | '.' :: rest =>
      let (fraction, rest) := rest.span Char.isDigit
      if fraction = [] then none
      else (exponent? rest).map (fun exponent =>
        .float (ofDecimal negative (Nat.ofDigitChars 10 (whole ++ fraction) 0)
          (exponent - fraction.length)))
  | rest =>
      (exponent? rest).map (fun exponent =>
        .float (ofDecimal negative (Nat.ofDigitChars 10 whole 0) exponent))

def number? (text : List Char) : Option Value :=
  let (negative, magnitude) := splitMinus text
  let (whole, rest) := magnitude.span Char.isDigit
  if isWhole whole then continue? negative whole rest else none

/-! ## Writing -/

def signText (negative : Bool) : List Char :=
  if negative then ['-'] else []

def intText (n : ℤ) : List Char :=
  signText (n < 0) ++ Nat.toDigits 10 n.natAbs

/-- An exponent has a sign and two digits or more. -/
def exponentText (exponent : ℤ) : List Char :=
  let digits := Nat.toDigits 10 exponent.natAbs
  (if exponent < 0 then '-' else '+') ::
    (if digits.length < 2 then '0' :: digits else digits)

/-- The digits `ds` with the point after the first `point` of them. -/
def layout (ds : List Char) (point : ℤ) : List Char :=
  if -4 < point ∧ point ≤ 16 then
    if point ≤ 0 then '0' :: '.' :: (List.replicate (-point).toNat '0' ++ ds)
    else if ds.length ≤ point then
      ds ++ List.replicate (point.toNat - ds.length) '0' ++ ['.', '0']
    else ds.take point.toNat ++ '.' :: ds.drop point.toNat
  else
    let fraction := if ds.length = 1 then [] else '.' :: ds.drop 1
    ds.take 1 ++ fraction ++ 'e' :: exponentText (point - 1)

/-- Leave out the last zeros. -/
def shorten (digits : ℕ) : List Char :=
  ((Nat.toDigits 10 digits).reverse.dropWhile (· = '0')).reverse

/-- The two numbers of `count` digits next to a decimal, the nearer one first. -/
def roundings (digits : ℕ) (exponent : ℤ) (count : ℕ) : List (ℕ × ℤ) :=
  let length := (Nat.toDigits 10 digits).length
  if length ≤ count then [(digits, exponent)]
  else
    let unit := 10 ^ (length - count)
    let below := (digits / unit, exponent + (length - count : ℕ))
    let above := (digits / unit + 1, exponent + (length - count : ℕ))
    if 2 * (digits % unit) < unit ∨
        (2 * (digits % unit) = unit ∧ digits / unit % 2 = 0) then [below, above]
    else [above, below]

def decimalText (digits : ℕ) (exponent : ℤ) : List Char :=
  layout (shorten digits) ((Nat.toDigits 10 digits).length + exponent)

def exactText (digits : ℕ) (exponent : ℤ) : List Char :=
  Nat.toDigits 10 digits ++ 'e' :: exponentText exponent

def finiteText (x : Float) (negative : Bool) (mantissa : ℕ) (exponent : ℤ) :
    List Char :=
  let decimal := expand mantissa exponent
  let candidates := (List.range 17).flatMap (fun count =>
    (roundings decimal.1 decimal.2 (count + 1)).map (fun rounding =>
      signText negative ++ decimalText rounding.1 rounding.2))
  (candidates.find? (fun text => number? text = some (.float x))).getD
    (signText negative ++ exactText decimal.1 decimal.2)

/-- `json.dumps` of a float. -/
def floatText (x : Float) : List Char :=
  match x.toModel.unpack with
  | .notANumber => ['N', 'a', 'N']
  | .infinity sign => signText (isNegative sign) ++ "Infinity".toList
  | .zero sign => signText (isNegative sign) ++ ['0', '.', '0']
  | .finite sign mantissa exponent _ =>
      finiteText x (isNegative sign) mantissa exponent

example : floatText (-1e22) = "-1e+22".toList := by decide
example : floatText 5e-324 = "5e-324".toList := by decide +kernel

/-! ## Reading back -/

theorem isDigit_toDigits {n : ℕ} {c : Char} (digit : c ∈ Nat.toDigits 10 n) :
    c.isDigit = true :=
  Nat.isDigit_of_mem_toDigits (by decide) (by decide) digit

theorem toDigits_head {n : ℕ} (positive : 0 < n) :
    ∃ c rest, Nat.toDigits 10 n = c :: rest ∧ c ≠ '0' := by
  induction n using Nat.strong_induction_on with
  | _ n ih =>
      rw [Nat.toDigits_eq_if (by decide)]
      by_cases single : n < 10
      · rw [if_pos single]
        exact ⟨_, _, rfl, by simpa using positive.ne'⟩
      · rw [if_neg single]
        obtain ⟨c, rest, digits, nonzero⟩ := ih (n / 10) (by omega) (by omega)
        exact ⟨c, _, by rw [digits, List.cons_append], nonzero⟩

theorem isWhole_toDigits (n : ℕ) : isWhole (Nat.toDigits 10 n) = true := by
  rcases Nat.eq_zero_or_pos n with rfl | positive
  · rfl
  · obtain ⟨c, rest, digits, nonzero⟩ := toDigits_head positive
    rw [digits, isWhole.eq_3 _ _ (by simp [nonzero])]
    simpa using nonzero

theorem splitMinus_digit {c : Char} (digit : c.isDigit = true) (rest : List Char) :
    splitMinus (c :: rest) = (false, c :: rest) := by
  apply splitMinus.eq_2
  intro rest minus
  cases minus
  exact absurd digit (by decide)

theorem splitMinus_signText (negative : Bool) {c : Char} (digit : c.isDigit = true)
    (rest : List Char) :
    splitMinus (signText negative ++ c :: rest) = (negative, c :: rest) := by
  cases negative with
  | false => exact splitMinus_digit digit rest
  | true => rfl

/-- The digits before the point are read as they are written. -/
theorem number?_toDigits (negative : Bool) (n : ℕ) {rest : List Char}
    (ended : ∀ c ∈ rest.head?, c.isDigit = false) :
    number? (signText negative ++ (Nat.toDigits 10 n ++ rest)) =
      continue? negative (Nat.toDigits 10 n) rest := by
  have spanned := span_digits (fun c => isDigit_toDigits (n := n)) ended
  obtain ⟨c, more, digits⟩ :=
    List.exists_cons_of_ne_nil (Nat.toDigits_ne_nil (n := n) (b := 10))
  have digit : c.isDigit = true := isDigit_toDigits (digits ▸ List.mem_cons_self)
  have signed : splitMinus (signText negative ++ (Nat.toDigits 10 n ++ rest)) =
      (negative, Nat.toDigits 10 n ++ rest) := by
    rw [digits, List.cons_append]
    exact splitMinus_signText negative digit _
  simp only [number?, signed, spanned, isWhole_toDigits, if_true]

/-- A number from its sign and its magnitude. -/
theorem signed_natAbs (n : ℤ) :
    (if decide (n < 0) = true then -(n.natAbs : ℤ) else n.natAbs) = n := by
  by_cases negative : n < 0
  · rw [if_pos (by simpa using negative)]
    omega
  · rw [if_neg (by simpa using negative)]
    omega

theorem number?_intText (n : ℤ) : number? (intText n) = some (.int n) := by
  have ended : ∀ c ∈ ([] : List Char).head?, c.isDigit = false := by simp
  have read := number?_toDigits (n < 0) n.natAbs ended
  rw [List.append_nil] at read
  rw [intText, read, continue?, Nat.ofDigitChars_ten_toDigits]
  simp only [signed_natAbs]

theorem integer?_exponentText (exponent : ℤ) :
    integer? (exponentText exponent) = some exponent := by
  have magnitude : natural? (if (Nat.toDigits 10 exponent.natAbs).length < 2
      then '0' :: Nat.toDigits 10 exponent.natAbs
      else Nat.toDigits 10 exponent.natAbs) = some exponent.natAbs := by
    have digits : (Nat.toDigits 10 exponent.natAbs).any (fun c => !c.isDigit) =
        false := by
      simpa using fun c => isDigit_toDigits
    split
    · simp [natural?, digits, Nat.ofDigitChars_cons, Nat.ofDigitChars_ten_toDigits]
    · simp [natural?, digits, Nat.ofDigitChars_ten_toDigits]
  have signed := signed_natAbs exponent
  by_cases negative : exponent < 0
  · simp only [exponentText, negative, if_true, integer?, splitSign, magnitude]
    simpa [negative] using signed
  · simp only [exponentText, negative, if_false, integer?, splitSign, magnitude]
    simpa [negative] using signed

theorem number?_exactText (negative : Bool) (digits : ℕ) (exponent : ℤ) :
    number? (signText negative ++ exactText digits exponent) =
      some (.float (ofDecimal negative digits exponent)) := by
  have ended : ∀ c ∈ ('e' :: exponentText exponent).head?, c.isDigit = false := by
    simp
  rw [exactText, number?_toDigits negative digits ended]
  simp [continue?, exponent?, integer?_exponentText, Nat.ofDigitChars_ten_toDigits]

/-- Whatever the candidates are, the text that is taken reads back. -/
theorem number?_finiteText {x : Float} {sign : Float.Model.UnpackedFloat.Sign}
    {mantissa : ℕ} {exponent : ℤ} {positive : 0 < mantissa}
    (unpacked : x.toModel.unpack = .finite sign mantissa exponent positive) :
    number? (finiteText x (isNegative sign) mantissa exponent) = some (.float x) := by
  rw [finiteText]
  generalize List.flatMap _ _ = candidates
  cases chosen : candidates.find? (fun text => number? text = some (.float x)) with
  | some text => simpa using List.find?_some chosen
  | none =>
      apply (number?_exactText _ _ _).trans
      rw [ofDecimal_expand unpacked]

theorem number?_zeroText (negative : Bool) :
    number? (signText negative ++ ['0', '.', '0']) =
      some (.float (ofDecimal negative 0 (-1))) := by
  cases negative <;> decide

/-! ## The characters of a number -/

def isNumberChar (c : Char) : Bool :=
  c.isDigit || c = '-' || c = '+' || c = '.' || c = 'e' || c = 'E'

theorem isNumberChar_of_span {cs : List Char}
    (later : ∀ c ∈ (cs.span Char.isDigit).2, isNumberChar c = true) :
    ∀ c ∈ cs, isNumberChar c = true := by
  intro c member
  rw [List.span_eq_takeWhile_dropWhile] at later
  rw [← List.takeWhile_append_dropWhile (p := Char.isDigit) (l := cs),
    List.mem_append] at member
  rcases member with digit | rest
  · have isDigit : c.isDigit = true := List.mem_takeWhile_imp digit
    simp [isNumberChar, isDigit]
  · exact later c rest

theorem isNumberChar_of_integer? {cs : List Char} {n : ℤ}
    (read : integer? cs = some n) : ∀ c ∈ cs, isNumberChar c = true := by
  have magnitude : ∀ c ∈ (splitSign cs).2, isNumberChar c = true := by
    intro c member
    simp only [integer?, Option.map_eq_some_iff] at read
    obtain ⟨_, natural, -⟩ := read
    simp only [natural?, Bool.or_eq_true, List.isEmpty_iff, List.any_eq_true] at natural
    split at natural
    case isTrue => cases natural
    case isFalse digits =>
      have digit : c.isDigit = true := by
        by_contra other
        exact digits (.inr ⟨c, member, by simpa using other⟩)
      simp [isNumberChar, digit]
  intro c member
  fun_cases splitSign cs with
  | case1 rest =>
      rcases List.mem_cons.mp member with rfl | inside
      · rfl
      · exact magnitude c inside
  | case2 rest =>
      rcases List.mem_cons.mp member with rfl | inside
      · rfl
      · exact magnitude c inside
  | case3 rest unsigned notMinus =>
      apply magnitude
      rw [splitSign.eq_3 _ unsigned notMinus]
      exact member

theorem exponent?_cons {first : Char} {rest : List Char} {exponent : ℤ} :
    exponent? (first :: rest) = some exponent ↔
      (first = 'e' ∨ first = 'E') ∧ integer? rest = some exponent := by
  simp [exponent?]

theorem isNumberChar_of_exponent? {cs : List Char} {exponent : ℤ}
    (read : exponent? cs = some exponent) : ∀ c ∈ cs, isNumberChar c = true := by
  cases cs with
  | nil => simp
  | cons first rest =>
      obtain ⟨marked, read⟩ := exponent?_cons.mp read
      intro c member
      rcases List.mem_cons.mp member with rfl | inside
      · rcases marked with rfl | rfl <;> rfl
      · exact isNumberChar_of_integer? read c inside

def IsNumber (value : Value) : Prop :=
  (∃ n, value = .int n) ∨ ∃ x, value = .float x

theorem continue?_some {negative : Bool} {whole rest : List Char} {value : Value}
    (read : continue? negative whole rest = some value) :
    IsNumber value ∧ ∀ c ∈ rest, isNumberChar c = true := by
  fun_cases continue? negative whole rest with
  | case1 =>
      simp only [continue?, Option.some.injEq] at read
      exact ⟨.inl ⟨_, read.symm⟩, by simp⟩
  | case2 rest after spanned =>
      simp only [continue?, spanned, if_true] at read
      cases read
  | case3 rest fraction after spanned nonempty =>
      simp only [continue?, spanned, if_neg nonempty, Option.map_eq_some_iff] at read
      obtain ⟨exponent, found, same⟩ := read
      refine ⟨.inr ⟨_, same.symm⟩, ?_⟩
      intro c member
      rcases List.mem_cons.mp member with rfl | inside
      · rfl
      · apply isNumberChar_of_span _ c inside
        rw [spanned]
        exact isNumberChar_of_exponent? found
  | case4 rest nonempty noPoint =>
      rw [continue?.eq_3 _ _ _ nonempty noPoint, Option.map_eq_some_iff] at read
      obtain ⟨exponent, found, same⟩ := read
      exact ⟨.inr ⟨_, same.symm⟩, isNumberChar_of_exponent? found⟩

theorem number?_some {text : List Char} {value : Value}
    (read : number? text = some value) :
    IsNumber value ∧ ∀ c ∈ text, isNumberChar c = true := by
  simp only [number?] at read
  split at read
  case isFalse => cases read
  case isTrue =>
    have continued := continue?_some read
    have magnitude := isNumberChar_of_span continued.2
    refine ⟨continued.1, ?_⟩
    intro c member
    fun_cases splitMinus text with
    | case1 rest =>
        rcases List.mem_cons.mp member with rfl | inside
        · rfl
        · exact magnitude c inside
    | case2 rest unsigned =>
        apply magnitude
        rw [splitMinus.eq_2 _ unsigned]
        exact member

end Json
