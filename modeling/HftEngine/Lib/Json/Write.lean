import HftEngine.Lib.Json.Read
import Mathlib.Tactic.IntervalCases

/-!
# Writing JSON text

`json.dumps` with its defaults: a comma and a colon are followed by a space,
and every character outside printable ASCII is escaped.  Whatever is written
is read back as the same value, but for a key that occurs more than once in a
dictionary; a float that is not a number is read back as the same datum.
-/

namespace Json

open Py Binary64

/-! ## Texts -/

def unitText (unit : ℕ) : List Char :=
  ['\x5c', 'u', Nat.digitChar (unit / 4096), Nat.digitChar (unit / 256 % 16),
   Nat.digitChar (unit / 16 % 16), Nat.digitChar (unit % 16)]

def escapeChar (c : Char) : List Char :=
  if c = '\x22' then ['\x5c', '\x22']
  else if c = '\x5c' then ['\x5c', '\x5c']
  else if c = '\n' then ['\x5c', 'n']
  else if c = '\r' then ['\x5c', 'r']
  else if c = '\t' then ['\x5c', 't']
  else if c = '\x0c' then ['\x5c', 'f']
  else if c = '\x08' then ['\x5c', 'b']
  else if 32 ≤ c.toNat ∧ c.toNat < 127 then [c]
  else if c.toNat < 0x10000 then unitText c.toNat
  else
    let offset := c.toNat - 0x10000
    unitText (0xd800 + offset / 1024) ++ unitText (0xdc00 + offset % 1024)

def quote (text : String) : List Char :=
  '\x22' :: (text.toList.flatMap escapeChar ++ ['\x22'])

/-! ## Values -/

mutual

def write : Value → List Char
  | .null => "null".toList
  | .bool true => "true".toList
  | .bool false => "false".toList
  | .int n => intText n
  | .float x => floatText x
  | .str s => quote s
  | .list [] => ['[', ']']
  | .list (first :: items) => '[' :: (write first ++ writeItems items)
  | .dict [] => ['\x7b', '\x7d']
  | .dict (first :: entries) => '\x7b' :: (writeEntry first ++ writeEntries entries)
termination_by structural value => value

/-- The items after the first one, and the bracket. -/
def writeItems : List Value → List Char
  | [] => [']']
  | item :: items => ',' :: ' ' :: (write item ++ writeItems items)
termination_by structural items => items

def writeEntry : String × Value → List Char
  | (key, value) => quote key ++ ':' :: ' ' :: write value
termination_by structural entry => entry

def writeEntries : List (String × Value) → List Char
  | [] => ['\x7d']
  | entry :: entries => ',' :: ' ' :: (writeEntry entry ++ writeEntries entries)
termination_by structural entries => entries

end

def dumps (value : Value) : String :=
  String.ofList (write value)

mutual

/-- The text with `gap` after each comma and colon between values. -/
def writeWith (gap : List Char) : Value → List Char
  | .null => "null".toList
  | .bool true => "true".toList
  | .bool false => "false".toList
  | .int n => intText n
  | .float x => floatText x
  | .str s => quote s
  | .list [] => ['[', ']']
  | .list (first :: items) => '[' :: (writeWith gap first ++ writeItemsWith gap items)
  | .dict [] => ['\x7b', '\x7d']
  | .dict (first :: entries) =>
      '\x7b' :: (writeEntryWith gap first ++ writeEntriesWith gap entries)
termination_by structural value => value

def writeItemsWith (gap : List Char) : List Value → List Char
  | [] => [']']
  | item :: items => ',' :: (gap ++ (writeWith gap item ++ writeItemsWith gap items))
termination_by structural items => items

def writeEntryWith (gap : List Char) : String × Value → List Char
  | (key, value) => quote key ++ ':' :: (gap ++ writeWith gap value)
termination_by structural entry => entry

def writeEntriesWith (gap : List Char) : List (String × Value) → List Char
  | [] => ['\x7d']
  | entry :: entries =>
      ',' :: (gap ++ (writeEntryWith gap entry ++ writeEntriesWith gap entries))
termination_by structural entries => entries

end

/-- `json.dumps(value, separators=(',', ':'))`. -/
def dumpsCompact (value : Value) : String :=
  String.ofList (writeWith [] value)

/-- `json.dumps(v) if not isinstance(v, str) else v`. -/
def asText : Value → Value
  | .str text => .str text
  | value => .str (dumps value)

example : dumps (.dict [("a\n\u03c0", .list [.null, .float 0.5]), ("b", .str "😀")]) =
    "\x7b\"a\\n\\u03c0\": [null, 0.5], \"b\": \"\\ud83d\\ude00\"\x7d" :=
      by decide

/-! ## Reading texts back -/

theorem run_cons (state : State) (c : Char) (rest : List Char) :
    state.run (c :: rest) = (state.step c).run rest := rfl

theorem hexValue?_digitChar {n : ℕ} (below : n < 16) :
    hexValue? (Nat.digitChar n) = some n := by
  interval_cases n <;> rfl

/-- A character is escaped by a letter, kept, or written as one unit or two. -/
theorem escapeChar_cases (c : Char) :
    (∃ escape, escape ≠ 'u' ∧ simpleEscape? escape = some c ∧
      escapeChar c = ['\x5c', escape]) ∨
    (c ≠ '\x22' ∧ c ≠ '\x5c' ∧ 32 ≤ c.toNat ∧ escapeChar c = [c]) ∨
    (c.toNat < 0x10000 ∧ escapeChar c = unitText c.toNat) ∨
    (0x10000 ≤ c.toNat ∧ escapeChar c =
      unitText (0xd800 + (c.toNat - 0x10000) / 1024) ++
        unitText (0xdc00 + (c.toNat - 0x10000) % 1024)) := by
  have special : ∀ escape letter : Char, escape ≠ 'u' → simpleEscape? escape = some letter →
      ['\x5c', escape] = escapeChar letter → c = letter →
      ∃ escape, escape ≠ 'u' ∧ simpleEscape? escape = some c ∧
        escapeChar c = ['\x5c', escape] := by
    rintro escape letter notUnit escaped written rfl
    exact ⟨escape, notUnit, escaped, written.symm⟩
  by_cases quoted : c = '\x22'
  · exact .inl (special '\x22' _ (by decide) rfl rfl quoted)
  by_cases backslash : c = '\x5c'
  · exact .inl (special '\x5c' _ (by decide) rfl rfl backslash)
  by_cases newline : c = '\n'
  · exact .inl (special 'n' _ (by decide) rfl rfl newline)
  by_cases carriage : c = '\r'
  · exact .inl (special 'r' _ (by decide) rfl rfl carriage)
  by_cases tab : c = '\t'
  · exact .inl (special 't' _ (by decide) rfl rfl tab)
  by_cases feed : c = '\x0c'
  · exact .inl (special 'f' _ (by decide) rfl rfl feed)
  by_cases backspace : c = '\x08'
  · exact .inl (special 'b' _ (by decide) rfl rfl backspace)
  right
  rw [escapeChar, if_neg quoted, if_neg backslash, if_neg newline, if_neg carriage,
    if_neg tab, if_neg feed, if_neg backspace]
  by_cases printable : 32 ≤ c.toNat ∧ c.toNat < 127
  · exact .inl ⟨quoted, backslash, printable.1, if_pos printable⟩
  right
  rw [if_neg printable]
  by_cases below : c.toNat < 0x10000
  · exact .inl ⟨below, if_pos below⟩
  · exact .inr ⟨Nat.le_of_not_lt below, if_neg below⟩

section Text

variable (stack : List Frame) (lone isKey : Bool)

/-- The machine inside a text, after the characters `text` of it. -/
def inText (text : List Char) (high : Option ℕ) : State :=
  ⟨.text ⟨text, .none, high⟩ isKey, stack, lone⟩

theorem run_unitText (text : List Char) (high : Option ℕ) {unit : ℕ}
    (below : unit < 0x10000) (rest : List Char) :
    (inText stack lone isKey text high).run (unitText unit ++ rest) =
      ((inText stack lone isKey text high).pushUnit ⟨text, .none, high⟩ isKey
        unit).run rest := by
  have first := hexValue?_digitChar (show unit / 4096 < 16 by omega)
  have second := hexValue?_digitChar (show unit / 256 % 16 < 16 by omega)
  have third := hexValue?_digitChar (show unit / 16 % 16 < 16 by omega)
  have fourth := hexValue?_digitChar (show unit % 16 < 16 by omega)
  have value : ((unit / 4096 * 16 + unit / 256 % 16) * 16 + unit / 16 % 16) * 16 +
      unit % 16 = unit := by omega
  simp [unitText, run_cons, inText, State.step, State.stepText, first, second, third,
    fourth, value]
  rfl

theorem run_unit (text : List Char) {c : Char} (below : c.toNat < 0x10000)
    (rest : List Char) :
    (inText stack lone isKey text none).run (unitText c.toNat ++ rest) =
      (inText stack lone isKey (text ++ [c]) none).run rest := by
  have scalar : c.toNat < 0xd800 ∨ 0xdfff < c.toNat := by
    rcases c.valid with low | ⟨high, -⟩
    · exact .inl low
    · exact .inr high
  have notLow : isLow c.toNat = false := by
    simp only [isLow, Bool.and_eq_false_iff, decide_eq_false_iff_not]
    omega
  have notHigh : isHigh c.toNat = false := by
    simp only [isHigh, Bool.and_eq_false_iff, decide_eq_false_iff_not]
    omega
  rw [run_unitText stack lone isKey text none below]
  simp [inText, State.pushUnit, State.push, notLow, notHigh]

theorem run_pair (text : List Char) {c : Char} (above : 0x10000 ≤ c.toNat)
    (rest : List Char) :
    (inText stack lone isKey text none).run
        (unitText (0xd800 + (c.toNat - 0x10000) / 1024) ++
          (unitText (0xdc00 + (c.toNat - 0x10000) % 1024) ++ rest)) =
      (inText stack lone isKey (text ++ [c]) none).run rest := by
  have bound : c.toNat < 0x110000 := by
    rcases c.valid with low | ⟨-, high⟩
    · exact lt_trans low (by decide)
    · exact high
  have high_notLow : isLow (0xd800 + (c.toNat - 0x10000) / 1024) = false := by
    simp only [isLow, Bool.and_eq_false_iff, decide_eq_false_iff_not]
    omega
  have high : isHigh (0xd800 + (c.toNat - 0x10000) / 1024) = true := by
    simp only [isHigh, Bool.and_eq_true, decide_eq_true_eq]
    omega
  have low : isLow (0xdc00 + (c.toNat - 0x10000) % 1024) = true := by
    simp only [isLow, Bool.and_eq_true, decide_eq_true_eq]
    omega
  have joined : join (0xd800 + (c.toNat - 0x10000) / 1024)
      (0xdc00 + (c.toNat - 0x10000) % 1024) = c := by
    have position : 0x10000 + (0xd800 + (c.toNat - 0x10000) / 1024 - 0xd800) * 1024 +
        (0xdc00 + (c.toNat - 0x10000) % 1024 - 0xdc00) = c.toNat := by omega
    rw [join, position, Char.ofNat_toNat]
  rw [run_unitText stack lone isKey text none (by omega)]
  have first : (inText stack lone isKey text none).pushUnit ⟨text, .none, none⟩ isKey
      (0xd800 + (c.toNat - 0x10000) / 1024) =
        inText stack lone isKey text (some (0xd800 + (c.toNat - 0x10000) / 1024)) := by
    simp [inText, State.pushUnit, high_notLow, high]
  rw [first, run_unitText stack lone isKey text _ (by omega)]
  simp [inText, State.pushUnit, low, joined]

/-- What `escapeChar` writes is read as the character. -/
theorem run_escapeChar (text : List Char) (c : Char) (rest : List Char) :
    (inText stack lone isKey text none).run (escapeChar c ++ rest) =
      (inText stack lone isKey (text ++ [c]) none).run rest := by
  rcases escapeChar_cases c with ⟨escape, notUnit, escaped, written⟩ |
    ⟨quoted, backslash, visible, written⟩ | ⟨below, written⟩ | ⟨above, written⟩
  · rw [written]
    simp [run_cons, inText, State.step, State.stepText, State.push, notUnit, escaped]
  · rw [written]
    have control : ¬ c.toNat < 32 := Nat.not_lt_of_le visible
    simp [run_cons, inText, State.step, State.stepText, State.push, quoted, backslash,
      control]
  · rw [written]
    exact run_unit stack lone isKey text below rest
  · rw [written, List.append_assoc]
    exact run_pair stack lone isKey text above rest

theorem run_escaped (text more : List Char) (rest : List Char) :
    (inText stack lone isKey text none).run (more.flatMap escapeChar ++ rest) =
      (inText stack lone isKey (text ++ more) none).run rest := by
  induction more generalizing text with
  | nil => simp
  | cons c more ih =>
      rw [List.flatMap_cons, List.append_assoc, run_escapeChar, ih, List.append_assoc]
      rfl

end Text

theorem run_quoted (state : State) (text : String) (isKey : Bool) (rest : List Char) :
    (inText state.stack state.lone isKey [] none).run
        (text.toList.flatMap escapeChar ++ '\x22' :: rest) =
      (if isKey then { state with mode := .colon text }
        else State.deliver (.str text) state.lone state.stack).run rest := by
  rw [run_escaped, run_cons]
  simp only [inText, State.step, State.stepText, State.endText, if_true,
    List.nil_append, String.ofList_toList, Option.isSome_none, Bool.or_false]

theorem run_quote (stack : List Frame) (lone : Bool) (text : String)
    (rest : List Char) :
    (State.mk .value stack lone).run (quote text ++ rest) =
      (State.deliver (.str text) lone stack).run rest := by
  rw [quote, List.cons_append, List.append_assoc]
  exact run_quoted ⟨.value, stack, lone⟩ text false rest

theorem run_key (stack : List Frame) (lone : Bool) (key : String) (rest : List Char) :
    (State.mk .key stack lone).run (quote key ++ rest) =
      (State.mk (.colon key) stack lone).run rest := by
  rw [quote, List.cons_append, List.append_assoc]
  exact run_quoted ⟨.key, stack, lone⟩ key true rest

/-! ## Reading numbers and names back -/

theorem notDelimiter_of_isNumberChar {c : Char} (numeric : isNumberChar c = true) :
    isDelimiter c = false := by
  by_contra delimiter
  simp only [Bool.not_eq_false, isDelimiter, isSpace, Bool.or_eq_true,
    decide_eq_true_eq] at delimiter
  rcases delimiter with
    (((((((((rfl | rfl) | rfl) | rfl) | rfl) | rfl) | rfl) | rfl) | rfl) | rfl) | rfl
  all_goals exact absurd numeric (by decide)

theorem atom?_of_number? {text : List Char} {value : Value}
    (read : number? text = some value) : atom? text = some value := by
  have other : ∀ name : List Char, number? name = none → text ≠ name := by
    intro name unread same
    rw [same, unread] at read
    cases read
  simp only [atom?, other _ (show number? "null".toList = none by decide),
    other _ (show number? "true".toList = none by decide),
    other _ (show number? "false".toList = none by decide),
    other _ (show number? "NaN".toList = none by decide),
    other _ (show number? "Infinity".toList = none by decide),
    other _ (show number? "-Infinity".toList = none by decide), if_false, read]

theorem atom?_floatText (x : Float) : atom? (floatText x) = some (.float x) := by
  unfold floatText
  split
  case h_1 unpacked =>
    rw [eq_notANumber unpacked]
    rfl
  case h_2 sign unpacked =>
    rw [eq_infinity unpacked]
    cases sign <;> rfl
  case h_3 sign unpacked =>
    apply atom?_of_number?
    rw [number?_zeroText, ofDecimal_zero unpacked]
  case h_4 sign mantissa exponent positive unpacked =>
    exact atom?_of_number? (number?_finiteText unpacked)

theorem notDelimiter_of_all {text : List Char}
    (plain : text.all (fun c => !isDelimiter c) = true) :
    ∀ c ∈ text, isDelimiter c = false := by
  simpa using plain

theorem atom?_chars {text : List Char} {value : Value}
    (read : atom? text = some value) : ∀ c ∈ text, isDelimiter c = false := by
  unfold atom? at read
  split_ifs at read with null true_ false_ nan infinite negative
  · rw [null]
    exact notDelimiter_of_all rfl
  · rw [true_]
    exact notDelimiter_of_all rfl
  · rw [false_]
    exact notDelimiter_of_all rfl
  · rw [nan]
    exact notDelimiter_of_all rfl
  · rw [infinite]
    exact notDelimiter_of_all rfl
  · rw [negative]
    exact notDelimiter_of_all rfl
  · intro c member
    exact notDelimiter_of_isNumberChar ((number?_some read).2 c member)

theorem atom?_head {text : List Char} {value : Value} (read : atom? text = some value) :
    ∃ c rest, text = c :: rest ∧ isDelimiter c = false := by
  cases text with
  | nil => exact absurd read (by simp [show atom? [] = none by decide])
  | cons c rest => exact ⟨c, rest, rfl, atom?_chars read c List.mem_cons_self⟩

theorem flush_deliver (value : Value) (lone : Bool) (stack : List Frame) :
    (State.deliver value lone stack).flush = State.deliver value lone stack := by
  fun_cases State.deliver value lone stack <;> rfl

theorem step_deliver (value : Value) (lone : Bool) (stack : List Frame) (c : Char) :
    (State.deliver value lone stack).step c =
      (State.deliver value lone stack).settle c := by
  fun_cases State.deliver value lone stack <;> rfl

theorem run_atom_chars (stack : List Frame) (lone : Bool) (text : List Char)
    {more : List Char} (inside : ∀ c ∈ more, isDelimiter c = false)
    (rest : List Char) :
    (State.mk (.atom text) stack lone).run (more ++ rest) =
      (State.mk (.atom (text ++ more)) stack lone).run rest := by
  induction more generalizing text with
  | nil => simp
  | cons c more ih =>
      have first : isDelimiter c = false := inside c List.mem_cons_self
      rw [List.cons_append, run_cons]
      simp only [State.step, first]
      rw [if_neg (by simp),
        ih _ (fun c member => inside c (List.mem_cons_of_mem _ member)),
        List.append_assoc]
      rfl

/-- A number or a name is read up to the character after it. -/
theorem finish_atom {text : List Char} {value : Value} (read : atom? text = some value)
    (stack : List Frame) (lone : Bool) {rest : List Char}
    (ended : ∀ c ∈ rest.head?, isDelimiter c = true) :
    ((State.mk .value stack lone).run (text ++ rest)).finish =
      ((State.deliver value lone stack).run rest).finish := by
  obtain ⟨c, more, rfl, first⟩ := atom?_head read
  have inside := atom?_chars read
  have later : ∀ c ∈ more, isDelimiter c = false :=
    fun c member => inside c (List.mem_cons_of_mem _ member)
  have entered : (State.mk .value stack lone).step c = ⟨.atom [c], stack, lone⟩ := by
    have kinds := first
    simp only [isDelimiter, Bool.or_eq_false_iff, decide_eq_false_iff_not] at kinds
    simp [State.step, State.enter, kinds, first]
  rw [List.cons_append, run_cons, entered, run_atom_chars stack lone [c] later]
  have flushed : (State.mk (.atom ([c] ++ more)) stack lone).flush =
      State.deliver value lone stack := by
    simp only [State.flush, List.singleton_append, read]
  cases rest with
  | nil =>
      simp only [State.run, List.foldl_nil, State.finish, flushed, flush_deliver]
  | cons d rest =>
      have delimiter : isDelimiter d = true := ended d (by simp)
      rw [run_cons, run_cons, step_deliver, ← flushed]
      simp only [State.step, delimiter, if_true]

/-! ## Reading values back -/

mutual

/-- What holds of every Python value: a key occurs once in a dictionary. -/
def DistinctKeys : Value → Prop
  | .null | .bool _ | .int _ | .float _ | .str _ => True
  | .list items => DistinctKeysItems items
  | .dict entries => (entries.map Prod.fst).Nodup ∧ DistinctKeysEntries entries
termination_by structural value => value

def DistinctKeysItems : List Value → Prop
  | [] => True
  | item :: items => DistinctKeys item ∧ DistinctKeysItems items
termination_by structural items => items

def DistinctKeysEntry : String × Value → Prop
  | (_, value) => DistinctKeys value
termination_by structural entry => entry

def DistinctKeysEntries : List (String × Value) → Prop
  | [] => True
  | entry :: entries => DistinctKeysEntry entry ∧ DistinctKeysEntries entries
termination_by structural entries => entries

end

mutual

/-- A value as it is read: a dictionary keeps the last value of a key. -/
def normal : Value → Value
  | .null => .null
  | .bool b => .bool b
  | .int n => .int n
  | .float x => .float x
  | .str s => .str s
  | .list items => .list (normalItems items)
  | .dict entries => .dict (normalEntries [] entries)
termination_by structural value => value

def normalItems : List Value → List Value
  | [] => []
  | item :: items => normal item :: normalItems items
termination_by structural items => items

def normalEntry (before : Dict) : String × Value → Dict
  | (key, value) => setItem key (normal value) before
termination_by structural entry => entry

def normalEntries (before : Dict) : List (String × Value) → Dict
  | [] => before
  | entry :: entries => normalEntries (normalEntry before entry) entries
termination_by structural entries => entries

end

theorem setItem_fresh {key : String} {entries : Dict}
    (fresh : key ∉ entries.map Prod.fst) (value : Value) :
    setItem key value entries = entries ++ [(key, value)] := by
  induction entries with
  | nil => rfl
  | cons entry entries ih =>
      rw [List.map_cons, List.mem_cons, not_or] at fresh
      rw [setItem, if_neg (Ne.symm fresh.1), ih fresh.2]
      rfl

mutual

theorem write_eq (value : Value) : write value = writeWith [' '] value := by
  cases value with
  | null => rfl
  | bool b => cases b <;> rfl
  | int n => rfl
  | float x => rfl
  | str s => rfl
  | list items =>
      cases items with
      | nil => rfl
      | cons first items => rw [write, writeWith, write_eq first, writeItems_eq items]
  | dict entries =>
      cases entries with
      | nil => rfl
      | cons first entries =>
          rw [write, writeWith, writeEntry_eq first, writeEntries_eq entries]
termination_by structural value

theorem writeItems_eq (items : List Value) : writeItems items = writeItemsWith [' '] items := by
  cases items with
  | nil => rfl
  | cons item items =>
      rw [writeItems, writeItemsWith, write_eq item, writeItems_eq items]
      rfl
termination_by structural items

theorem writeEntry_eq (entry : String × Value) :
    writeEntry entry = writeEntryWith [' '] entry := by
  obtain ⟨key, value⟩ := entry
  rw [writeEntry, writeEntryWith, write_eq value]
  rfl
termination_by structural entry

theorem writeEntries_eq (entries : Dict) :
    writeEntries entries = writeEntriesWith [' '] entries := by
  cases entries with
  | nil => rfl
  | cons entry entries =>
      rw [writeEntries, writeEntriesWith, writeEntry_eq entry, writeEntries_eq entries]
      rfl
termination_by structural entries

end

section Gap

variable {gap : List Char}

theorem isDelimiter_writeItemsWith (items : List Value) (rest : List Char) :
    ∀ c ∈ (writeItemsWith gap items ++ rest).head?, isDelimiter c = true := by
  cases items <;> simp [writeItemsWith] <;> decide

theorem isDelimiter_writeEntriesWith (entries : Dict) (rest : List Char) :
    ∀ c ∈ (writeEntriesWith gap entries ++ rest).head?, isDelimiter c = true := by
  cases entries <;> simp [writeEntriesWith] <;> decide

/-- A value does not start like a space or like the end of a list. -/
theorem writeWith_head (gap : List Char) (value : Value) :
    ∃ c rest, writeWith gap value = c :: rest ∧ isSpace c = false ∧ c ≠ ']' := by
  have of_atom : atom? (writeWith gap value) = some value →
      ∃ c rest, writeWith gap value = c :: rest ∧ isSpace c = false ∧ c ≠ ']' := by
    intro read
    obtain ⟨c, rest, text, other⟩ := atom?_head read
    simp only [isDelimiter, Bool.or_eq_false_iff, decide_eq_false_iff_not] at other
    exact ⟨c, rest, text, by simp [other], by simp [other]⟩
  cases value with
  | null => exact of_atom rfl
  | bool b =>
      cases b
      · exact of_atom rfl
      · exact of_atom rfl
  | int n => exact of_atom (atom?_of_number? (number?_intText n))
  | float x => exact of_atom (atom?_floatText x)
  | str s => exact ⟨_, _, rfl, by decide, by decide⟩
  | list items => cases items <;> exact ⟨_, _, rfl, by decide, by decide⟩
  | dict entries => cases entries <;> exact ⟨_, _, rfl, by decide, by decide⟩

theorem run_firstItem (stack : List Frame) (lone : Bool) (value : Value)
    (rest : List Char) :
    (State.mk .firstItem stack lone).run (writeWith gap value ++ rest) =
      (State.mk .value stack lone).run (writeWith gap value ++ rest) := by
  obtain ⟨c, more, text, space, bracket⟩ := writeWith_head gap value
  rw [text, List.cons_append, run_cons, run_cons]
  simp only [State.step, space, if_neg bracket]
  rfl

theorem run_firstKey (stack : List Frame) (lone : Bool) (entry : String × Value)
    (rest : List Char) :
    (State.mk .firstKey stack lone).run (writeEntryWith gap entry ++ rest) =
      (State.mk .key stack lone).run (writeEntryWith gap entry ++ rest) := by
  obtain ⟨key, value⟩ := entry
  rw [writeEntryWith, quote, List.cons_append, List.cons_append, run_cons, run_cons]
  rfl

/-- Spaces before a value or a key are passed over. -/
theorem run_gap (spaces : ∀ c ∈ gap, isSpace c = true) {mode : Mode}
    (before : mode = .value ∨ mode = .key) (stack : List Frame) (lone : Bool)
    (rest : List Char) :
    (State.mk mode stack lone).run (gap ++ rest) = (State.mk mode stack lone).run rest := by
  induction gap with
  | nil => rfl
  | cons c gap ih =>
      obtain ⟨space, others⟩ := List.forall_mem_cons.mp spaces
      have stays : (State.mk mode stack lone).step c = State.mk mode stack lone := by
        rcases before with rfl | rfl
        · simp only [State.step, space, if_true]
        · simp only [State.step, space, if_true]
      rw [List.cons_append, run_cons, stays, ih others]

mutual

theorem finish_write (spaces : ∀ c ∈ gap, isSpace c = true) (value : Value)
    (stack : List Frame) (lone : Bool) {rest : List Char}
    (ended : ∀ c ∈ rest.head?, isDelimiter c = true) :
    ((State.mk .value stack lone).run (writeWith gap value ++ rest)).finish =
      ((State.deliver (normal value) lone stack).run rest).finish := by
  cases value with
  | null => exact finish_atom rfl stack lone ended
  | bool b =>
      cases b
      · exact finish_atom rfl stack lone ended
      · exact finish_atom rfl stack lone ended
  | int n =>
      exact finish_atom (atom?_of_number? (number?_intText n)) stack lone ended
  | float x => exact finish_atom (atom?_floatText x) stack lone ended
  | str s => rw [writeWith, run_quote, normal]
  | list items =>
      cases items with
      | nil => rfl
      | cons first items =>
          rw [writeWith, List.cons_append, List.append_assoc, run_cons]
          change ((State.mk .firstItem (.items [] :: stack) lone).run _).finish = _
          rw [run_firstItem,
            finish_write spaces first _ lone (isDelimiter_writeItemsWith items rest)]
          exact finish_writeItems spaces items [normal first] stack lone
  | dict entries =>
      cases entries with
      | nil => rfl
      | cons first entries =>
          rw [writeWith, List.cons_append, List.append_assoc, run_cons]
          change ((State.mk .firstKey (.entries [] :: stack) lone).run _).finish = _
          rw [run_firstKey, finish_writeEntry spaces first [] stack lone
            (isDelimiter_writeEntriesWith entries rest)]
          exact finish_writeEntries spaces entries (normalEntry [] first) stack lone
termination_by structural value

theorem finish_writeItems (spaces : ∀ c ∈ gap, isSpace c = true) (items : List Value)
    (before : List Value) (stack : List Frame) (lone : Bool) {rest : List Char} :
    ((State.mk .after (.items before :: stack) lone).run
        (writeItemsWith gap items ++ rest)).finish =
      ((State.deliver (.list (before ++ normalItems items)) lone stack).run
        rest).finish := by
  cases items with
  | nil =>
      rw [normalItems, List.append_nil]
      rfl
  | cons item items =>
      rw [writeItemsWith, List.cons_append, List.append_assoc, List.append_assoc, run_cons]
      change ((State.mk .value (.items before :: stack) lone).run _).finish = _
      rw [run_gap spaces (.inl rfl),
        finish_write spaces item _ lone (isDelimiter_writeItemsWith items rest)]
      change ((State.mk .after (.items (before ++ [normal item]) :: stack)
        lone).run _).finish = _
      rw [finish_writeItems spaces items, List.append_assoc]
      rfl
termination_by structural items

theorem finish_writeEntry (spaces : ∀ c ∈ gap, isSpace c = true) (entry : String × Value)
    (before : Dict) (stack : List Frame) (lone : Bool) {rest : List Char}
    (ended : ∀ c ∈ rest.head?, isDelimiter c = true) :
    ((State.mk .key (.entries before :: stack) lone).run
        (writeEntryWith gap entry ++ rest)).finish =
      ((State.mk .after (.entries (normalEntry before entry) :: stack) lone).run
        rest).finish := by
  obtain ⟨key, value⟩ := entry
  rw [writeEntryWith, List.append_assoc, run_key, List.cons_append, List.append_assoc,
    run_cons]
  change ((State.mk .value (.entry before key :: stack) lone).run _).finish = _
  rw [run_gap spaces (.inl rfl), finish_write spaces value _ lone ended, State.deliver, normalEntry]
termination_by structural entry

theorem finish_writeEntries (spaces : ∀ c ∈ gap, isSpace c = true) (entries before : Dict)
    (stack : List Frame) (lone : Bool) {rest : List Char} :
    ((State.mk .after (.entries before :: stack) lone).run
        (writeEntriesWith gap entries ++ rest)).finish =
      ((State.deliver (.dict (normalEntries before entries)) lone stack).run
        rest).finish := by
  cases entries with
  | nil => rfl
  | cons entry entries =>
      rw [writeEntriesWith, List.cons_append, List.append_assoc, List.append_assoc, run_cons]
      change ((State.mk .key (.entries before :: stack) lone).run _).finish = _
      rw [run_gap spaces (.inr rfl),
        finish_writeEntry spaces entry before stack lone
          (isDelimiter_writeEntriesWith entries rest)]
      rw [finish_writeEntries spaces entries _, normalEntries]
termination_by structural entries

end

theorem loads_writeWith (spaces : ∀ c ∈ gap, isSpace c = true) (value : Value) :
    loads (String.ofList (writeWith gap value)) = .ok (normal value) := by
  have ended : ∀ c ∈ ([] : List Char).head?, isDelimiter c = true := by simp
  have read := finish_write spaces value [] false ended
  rw [List.append_nil] at read
  rw [loads, String.toList_ofList, read]
  rfl

end Gap

/-- What `dumps` writes, `loads` reads. -/
theorem loads_dumps_normal (value : Value) : loads (dumps value) = .ok (normal value) := by
  rw [dumps, write_eq, loads_writeWith (by simp [isSpace])]

/-! ## Values with distinct keys -/

mutual

theorem normal_of_distinct (value : Value) (distinct : DistinctKeys value) :
    normal value = value := by
  cases value with
  | null => rfl
  | bool b => rfl
  | int n => rfl
  | float x => rfl
  | str s => rfl
  | list items => rw [normal, normalItems_of_distinct items distinct]
  | dict entries =>
      have keys : (([] ++ entries).map Prod.fst).Nodup := distinct.1
      rw [normal, normalEntries_of_distinct entries distinct.2 [] keys, List.nil_append]
termination_by structural value

theorem normalItems_of_distinct (items : List Value) (distinct : DistinctKeysItems items) :
    normalItems items = items := by
  cases items with
  | nil => rfl
  | cons item items =>
      rw [normalItems, normal_of_distinct item distinct.1,
        normalItems_of_distinct items distinct.2]
termination_by structural items

theorem normalEntry_of_distinct (entry : String × Value)
    (distinct : DistinctKeysEntry entry) (before : Dict)
    (fresh : entry.1 ∉ before.map Prod.fst) :
    normalEntry before entry = before ++ [entry] := by
  obtain ⟨key, value⟩ := entry
  rw [normalEntry, normal_of_distinct value distinct, setItem_fresh fresh]
termination_by structural entry

theorem normalEntries_of_distinct (entries : Dict) (distinct : DistinctKeysEntries entries)
    (before : Dict) (keys : ((before ++ entries).map Prod.fst).Nodup) :
    normalEntries before entries = before ++ entries := by
  cases entries with
  | nil => rw [normalEntries, List.append_nil]
  | cons entry entries =>
      have fresh : entry.1 ∉ before.map Prod.fst := by
        rw [List.map_append, List.nodup_append] at keys
        intro member
        exact keys.2.2 _ member entry.1 (by simp) rfl
      rw [normalEntries, normalEntry_of_distinct entry distinct.1 before fresh,
        normalEntries_of_distinct entries distinct.2 _ (by simpa using keys),
        List.append_assoc]
      rfl
termination_by structural entries

end

theorem distinctKeysItems_iff {items : List Value} :
    DistinctKeysItems items ↔ ∀ item ∈ items, DistinctKeys item := by
  induction items with
  | nil => simp [DistinctKeysItems]
  | cons item items ih => rw [DistinctKeysItems, ih, List.forall_mem_cons]

theorem distinctKeysEntries_iff {entries : Dict} :
    DistinctKeysEntries entries ↔ ∀ entry ∈ entries, DistinctKeys entry.2 := by
  induction entries with
  | nil => simp [DistinctKeysEntries]
  | cons entry entries ih =>
      obtain ⟨key, value⟩ := entry
      rw [DistinctKeysEntries, ih, List.forall_mem_cons, DistinctKeysEntry]

/-- Items left out of a dictionary leave a dictionary. -/
theorem distinct_sublist {entries fewer : Dict} (among : fewer.Sublist entries)
    (distinct : DistinctKeys (.dict entries)) : DistinctKeys (.dict fewer) := by
  refine ⟨distinct.1.sublist (among.map Prod.fst), distinctKeysEntries_iff.mpr ?_⟩
  intro entry member
  exact distinctKeysEntries_iff.mp distinct.2 entry (among.subset member)

theorem distinct_get {entries : Dict} (distinct : DistinctKeys (.dict entries)) (key : String)
    {default : Value} (other : DistinctKeys default) :
    DistinctKeys (Dict.get entries key default) := by
  have values := distinct.2
  rw [Dict.get]
  clear distinct
  induction entries with
  | nil => exact other
  | cons entry entries ih =>
      obtain ⟨first, value⟩ := entry
      obtain ⟨here, later⟩ := values
      rw [lookup?]
      split
      · exact here
      · exact ih later

theorem keys_setItem_subset {key other : String} {value : Value} {entries : Dict}
    (member : other ∈ (setItem key value entries).map Prod.fst) :
    other = key ∨ other ∈ entries.map Prod.fst := by
  induction entries with
  | nil => exact .inl (List.mem_singleton.mp member)
  | cons entry entries ih =>
      rw [setItem] at member
      rw [List.map_cons, List.mem_cons]
      split at member
      case isTrue =>
          rcases List.mem_cons.mp member with same | later
          · exact .inl same
          · exact .inr (.inr later)
      case isFalse =>
          rcases List.mem_cons.mp member with same | later
          · exact .inr (.inl same)
          · exact (ih later).imp_right .inr

/-- Setting an item keeps the keys of a dictionary distinct. -/
theorem distinct_setItem {key : String} {value : Value} {entries : Dict}
    (new : DistinctKeys value) (distinct : DistinctKeys (.dict entries)) :
    DistinctKeys (.dict (setItem key value entries)) := by
  induction entries with
  | nil => exact ⟨List.nodup_singleton key, new, trivial⟩
  | cons entry entries ih =>
      obtain ⟨keys, first, others⟩ := distinct
      obtain ⟨fresh, rest⟩ := List.nodup_cons.mp keys
      rw [setItem]
      split
      case isTrue same => exact ⟨same ▸ keys, new, others⟩
      case isFalse different =>
          obtain ⟨later, settled⟩ := ih ⟨rest, others⟩
          refine ⟨List.nodup_cons.mpr ⟨?_, later⟩, first, settled⟩
          intro member
          rcases keys_setItem_subset member with same | before
          · exact different same
          · exact fresh before

mutual

theorem distinct_normal (value : Value) : DistinctKeys (normal value) := by
  cases value with
  | null => trivial
  | bool b => trivial
  | int n => trivial
  | float x => trivial
  | str s => trivial
  | list items => exact distinct_normalItems items
  | dict entries => exact distinct_normalEntries entries [] ⟨List.nodup_nil, trivial⟩
termination_by structural value

theorem distinct_normalItems (items : List Value) :
    DistinctKeysItems (normalItems items) := by
  cases items with
  | nil => trivial
  | cons item items => exact ⟨distinct_normal item, distinct_normalItems items⟩
termination_by structural items

theorem distinct_normalEntry (entry : String × Value) (before : Dict)
    (distinct : DistinctKeys (.dict before)) :
    DistinctKeys (.dict (normalEntry before entry)) := by
  obtain ⟨key, value⟩ := entry
  exact distinct_setItem (distinct_normal value) distinct
termination_by structural entry

theorem distinct_normalEntries (entries before : Dict)
    (distinct : DistinctKeys (.dict before)) :
    DistinctKeys (.dict (normalEntries before entries)) := by
  cases entries with
  | nil => exact distinct
  | cons entry entries =>
      exact distinct_normalEntries entries _ (distinct_normalEntry entry before distinct)
termination_by structural entries

end

/-- What `dumps` writes of a Python value, `loads` reads back. -/
theorem loads_dumps (value : Value) (distinct : DistinctKeys value) :
    loads (dumps value) = .ok value := by
  rw [loads_dumps_normal, normal_of_distinct value distinct]

theorem loads_dumpsCompact (value : Value) (distinct : DistinctKeys value) :
    loads (dumpsCompact value) = .ok value := by
  rw [dumpsCompact, loads_writeWith (by simp), normal_of_distinct value distinct]

end Json
