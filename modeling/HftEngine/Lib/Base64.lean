import Mathlib.Data.Nat.Basic
import Mathlib.Data.List.Basic

/-!
# Base64

The standard alphabet.  Reading is lenient, as in `binascii.a2b_base64`: what is not
in the alphabet is skipped, and the padding that completes a group ends the text.
-/

namespace Base64

def alphabet : List Char :=
  "ABCDEFGHIJKLMNOPQRSTUVWXYZabcdefghijklmnopqrstuvwxyz0123456789+/".toList

def digit (n : ℕ) : Char :=
  alphabet.getD n '='

def value? (c : Char) : Option ℕ :=
  alphabet.idxOf? c

/-- Three bytes are four digits. -/
def encode : List ℕ → List Char
  | a :: b :: c :: rest =>
      digit (a / 4) :: digit (a % 4 * 16 + b / 16) :: digit (b % 16 * 4 + c / 64) ::
        digit (c % 64) :: encode rest
  | [a, b] => [digit (a / 4), digit (a % 4 * 16 + b / 16), digit (b % 16 * 4), '=']
  | [a] => [digit (a / 4), digit (a % 4 * 16), '=', '=']
  | [] => []

/-- From a position in a group of digits, with the bits that are left of the digit
before and the paddings seen in the group. -/
def decodeFrom? (quad_pos leftchar pads : ℕ) : List Char → Option (List ℕ)
  | [] => if quad_pos = 0 then some [] else none
  | c :: rest =>
      if c = '=' then
        if quad_pos < 2 then decodeFrom? quad_pos leftchar pads rest
        else if 4 ≤ quad_pos + (pads + 1) then some []
        else decodeFrom? quad_pos leftchar (pads + 1) rest
      else
        match value? c with
        | none => decodeFrom? quad_pos leftchar pads rest
        | some v =>
            match quad_pos with
            | 0 => decodeFrom? 1 v 0 rest
            | 1 => (decodeFrom? 2 (v % 16) 0 rest).map ((leftchar * 4 + v / 16) :: ·)
            | 2 => (decodeFrom? 3 (v % 4) 0 rest).map ((leftchar * 16 + v / 4) :: ·)
            | _ => (decodeFrom? 0 0 0 rest).map ((leftchar * 64 + v) :: ·)

def decode? : List Char → Option (List ℕ) :=
  decodeFrom? 0 0 0

theorem value?_digit : ∀ n < 64, value? (digit n) = some n ∧ digit n ≠ '=' := by
  decide +kernel

/-- A digit is read at its place in the group. -/
theorem decodeFrom?_digit (quad_pos leftchar pads : ℕ) {n : ℕ} (below : n < 64)
    (rest : List Char) :
    decodeFrom? quad_pos leftchar pads (digit n :: rest) =
      match quad_pos with
      | 0 => decodeFrom? 1 n 0 rest
      | 1 => (decodeFrom? 2 (n % 16) 0 rest).map ((leftchar * 4 + n / 16) :: ·)
      | 2 => (decodeFrom? 3 (n % 4) 0 rest).map ((leftchar * 16 + n / 4) :: ·)
      | _ => (decodeFrom? 0 0 0 rest).map ((leftchar * 64 + n) :: ·) := by
  obtain ⟨value, apart⟩ := value?_digit n below
  rw [decodeFrom?, if_neg apart, value]

/-- What is written is read back. -/
theorem decode?_encode (bytes : List ℕ) (small : ∀ byte ∈ bytes, byte < 256) :
    decode? (encode bytes) = some bytes := by
  unfold decode?
  fun_induction encode bytes with
  | case1 a b c rest ih =>
      have ha : a < 256 := small a (by simp)
      have hb : b < 256 := small b (by simp)
      have hc : c < 256 := small c (by simp)
      rw [decodeFrom?_digit 0 _ _ (by omega), decodeFrom?_digit 1 _ _ (by omega),
        decodeFrom?_digit 2 _ _ (by omega), decodeFrom?_digit 3 _ _ (by omega),
        ih (fun byte member => small byte (by simp [member]))]
      have first : a / 4 * 4 + (a % 4 * 16 + b / 16) / 16 = a := by omega
      have second : (a % 4 * 16 + b / 16) % 16 * 16 + (b % 16 * 4 + c / 64) / 4 = b := by
        omega
      have third : (b % 16 * 4 + c / 64) % 4 * 64 + c % 64 = c := by omega
      simp only [Option.map_some, first, second, third]
  | case2 a b =>
      have ha : a < 256 := small a (by simp)
      have hb : b < 256 := small b (by simp)
      rw [decodeFrom?_digit 0 _ _ (by omega), decodeFrom?_digit 1 _ _ (by omega),
        decodeFrom?_digit 2 _ _ (by omega)]
      have first : a / 4 * 4 + (a % 4 * 16 + b / 16) / 16 = a := by omega
      have second : (a % 4 * 16 + b / 16) % 16 * 16 + b % 16 * 4 / 4 = b := by omega
      have padding : decodeFrom? 3 (b % 16 * 4 % 4) 0 ['='] = some [] := rfl
      simp only [padding, Option.map_some, first, second]
  | case3 a =>
      have ha : a < 256 := small a (by simp)
      rw [decodeFrom?_digit 0 _ _ (by omega), decodeFrom?_digit 1 _ _ (by omega)]
      have first : a / 4 * 4 + a % 4 * 16 / 16 = a := by omega
      have padding : decodeFrom? 2 (a % 4 * 16 % 16) 0 ['=', '='] = some [] := rfl
      simp only [padding, Option.map_some, first]
  | case4 => rfl

/-! ## Texts -/

/-- `base64.b64encode(text.encode()).decode()`. -/
def encodeText (text : String) : String :=
  String.ofList (encode (text.toUTF8.data.toList.map UInt8.toNat))

/-- `base64.b64decode(text.encode()).decode()`, with none for an exception. -/
def decodeText? (text : String) : Option String := do
  String.fromUTF8? ⟨((← decode? text.toList).map UInt8.ofNat).toArray⟩

theorem decodeText?_encodeText (text : String) : decodeText? (encodeText text) = some text := by
  have small : ∀ byte ∈ text.toUTF8.data.toList.map UInt8.toNat, byte < 256 := by
    intro byte member
    obtain ⟨unit, -, rfl⟩ := List.mem_map.mp member
    exact unit.toNat_lt
  have bytes : ((text.toUTF8.data.toList.map UInt8.toNat).map UInt8.ofNat).toArray =
      text.toUTF8.data := by
    have same : UInt8.ofNat ∘ UInt8.toNat = id := funext (fun unit => UInt8.ofNat_toNat)
    rw [List.map_map, same, List.map_id, Array.toArray_toList]
  rw [decodeText?, encodeText, String.toList_ofList, decode?_encode _ small]
  simp only [Option.bind_eq_bind, Option.bind_some, bytes]
  exact dif_pos text.isValidUTF8

example : encodeText "\x7b\"id\": 7\x7d" = "eyJpZCI6IDd9" := by decide
example : decodeText? "eyJp\nZCI6IDd9" = some "\x7b\"id\": 7\x7d" := by decide

end Base64
