import HftEngine.Lib.Json.Number

/-!
# Reading JSON text

`json.loads` as a machine that takes one character at a time: what it is in the
middle of, and the lists and dictionaries that are open around it.  A `\u`
escape may leave a surrogate alone; Python has such texts but `String` has not,
and reading one ends in `.surrogate`.  The interpreter's limits on digits and
on nesting are not modelled.
-/

namespace Json

open Py Binary64

inductive Error where
  /-- A `JSONDecodeError`. -/
  | decode
  | surrogate
  deriving DecidableEq, Repr

/-- A list, a dictionary between two entries, or a dictionary whose last key has
no value yet. -/
inductive Frame where
  | items (before : List Value)
  | entries (before : Dict)
  | entry (before : Dict) (key : String)

/-- The part of an escape that has been read; of a `\u` escape, the number of
its digits and their value. -/
inductive Escape where
  | none
  | backslash
  | unit (digits value : ℕ)

/-- A text up to the place being read.  A high surrogate at its end waits for a
low one. -/
structure Reading where
  text : List Char
  escape : Escape := .none
  high : Option ℕ := none

inductive Mode where
  | value
  | firstItem
  | firstKey
  | key
  | colon (key : String)
  | after
  | done (value : Value)
  | atom (text : List Char)
  | text (reading : Reading) (isKey : Bool)
  | failed

/-- `lone` records that a text had a surrogate alone. -/
structure State where
  mode : Mode
  stack : List Frame
  lone : Bool

/-! ## Characters -/

def isSpace (c : Char) : Bool :=
  c = ' ' || c = '\t' || c = '\n' || c = '\r'

/-- A character that ends a number or a name. -/
def isDelimiter (c : Char) : Bool :=
  isSpace c || c = ',' || c = ':' || c = '[' || c = ']' || c = '\x7b' ||
    c = '\x7d' || c = '\x22'

def simpleEscape? (c : Char) : Option Char :=
  if c = '\x22' || c = '\x5c' || c = '/' then some c
  else if c = 'b' then some '\x08'
  else if c = 'f' then some '\x0c'
  else if c = 'n' then some '\n'
  else if c = 'r' then some '\r'
  else if c = 't' then some '\t'
  else none

def hexValue? (c : Char) : Option ℕ :=
  if c.isDigit then some (c.toNat - 48)
  else if 97 ≤ c.toNat && c.toNat ≤ 102 then some (c.toNat - 87)
  else if 65 ≤ c.toNat && c.toNat ≤ 70 then some (c.toNat - 55)
  else none

def isHigh (unit : ℕ) : Bool :=
  0xd800 ≤ unit && unit < 0xdc00

def isLow (unit : ℕ) : Bool :=
  0xdc00 ≤ unit && unit < 0xe000

/-- The character of a pair of surrogates. -/
def join (high low : ℕ) : Char :=
  Char.ofNat (0x10000 + (high - 0xd800) * 1024 + (low - 0xdc00))

/-- What is written without quotes and brackets. -/
def atom? (text : List Char) : Option Value :=
  if text = "null".toList then some .null
  else if text = "true".toList then some (.bool true)
  else if text = "false".toList then some (.bool false)
  else if text = "NaN".toList then some (.float notANumber)
  else if text = "Infinity".toList then some (.float infinity)
  else if text = "-Infinity".toList then some (.float (-infinity))
  else number? text

/-! ## The machine -/

namespace State

def fail (state : State) : State :=
  { state with mode := .failed }

/-- A value has ended inside the given frames. -/
def deliver (value : Value) (lone : Bool) : List Frame → State
  | [] => ⟨.done value, [], lone⟩
  | .items before :: rest => ⟨.after, .items (before ++ [value]) :: rest, lone⟩
  | .entry before key :: rest =>
      ⟨.after, .entries (setItem key value before) :: rest, lone⟩
  | .entries before :: rest => ⟨.failed, .entries before :: rest, lone⟩

/-- The first character of a value. -/
def enter (state : State) (c : Char) : State :=
  if c = '\x22' then { state with mode := .text ⟨[], .none, none⟩ false }
  else if c = '[' then ⟨.firstItem, .items [] :: state.stack, state.lone⟩
  else if c = '\x7b' then ⟨.firstKey, .entries [] :: state.stack, state.lone⟩
  else if isDelimiter c then state.fail
  else { state with mode := .atom [c] }

def close (state : State) (c : Char) : State :=
  match state.stack with
  | .items before :: rest =>
      if c = ']' then deliver (.list before) state.lone rest else state.fail
  | .entries before :: rest =>
      if c = '\x7d' then deliver (.dict before) state.lone rest else state.fail
  | _ => state.fail

/-- A character after a value. -/
def settle (state : State) (c : Char) : State :=
  match state.mode with
  | .after =>
      if isSpace c then state
      else if c = ',' then
        match state.stack with
        | .items _ :: _ => { state with mode := .value }
        | .entries _ :: _ => { state with mode := .key }
        | _ => state.fail
      else state.close c
  | .done _ => if isSpace c then state else state.fail
  | _ => state.fail

/-- End a number or a name. -/
def flush (state : State) : State :=
  match state.mode with
  | .atom text =>
      match atom? text with
      | some value => deliver value state.lone state.stack
      | none => state.fail
  | _ => state

/-- A character of the text itself. -/
def push (state : State) (reading : Reading) (isKey : Bool) (c : Char) : State :=
  { state with
    mode := .text ⟨reading.text ++ [c], .none, none⟩ isKey
    lone := state.lone || reading.high.isSome }

/-- The UTF-16 unit of a complete `\u` escape. -/
def pushUnit (state : State) (reading : Reading) (isKey : Bool) (unit : ℕ) : State :=
  if isLow unit then
    match reading.high with
    | some high =>
        { state with
          mode := .text ⟨reading.text ++ [join high unit], .none, none⟩ isKey }
    | none =>
        { state with mode := .text ⟨reading.text, .none, none⟩ isKey, lone := true }
  else if isHigh unit then
    { state with
      mode := .text ⟨reading.text, .none, some unit⟩ isKey
      lone := state.lone || reading.high.isSome }
  else state.push reading isKey (Char.ofNat unit)

def endText (state : State) (reading : Reading) (isKey : Bool) : State :=
  let text := String.ofList reading.text
  let lone := state.lone || reading.high.isSome
  if isKey then { state with mode := .colon text, lone }
  else deliver (.str text) lone state.stack

def stepText (state : State) (reading : Reading) (isKey : Bool) (c : Char) : State :=
  match reading.escape with
  | .none =>
      if c = '\x22' then state.endText reading isKey
      else if c = '\x5c' then
        { state with mode := .text { reading with escape := .backslash } isKey }
      else if c.toNat < 32 then state.fail
      else state.push reading isKey c
  | .backslash =>
      if c = 'u' then
        { state with mode := .text { reading with escape := .unit 0 0 } isKey }
      else
        match simpleEscape? c with
        | some escaped => state.push reading isKey escaped
        | none => state.fail
  | .unit digits value =>
      match hexValue? c with
      | some digit =>
          if digits = 3 then state.pushUnit reading isKey (value * 16 + digit)
          else
            { state with
              mode := .text
                { reading with escape := .unit (digits + 1) (value * 16 + digit) }
                isKey }
      | none => state.fail

def step (state : State) (c : Char) : State :=
  match state.mode with
  | .value => if isSpace c then state else state.enter c
  | .firstItem =>
      if isSpace c then state
      else if c = ']' then state.close c
      else state.enter c
  | .firstKey =>
      if isSpace c then state
      else if c = '\x22' then { state with mode := .text ⟨[], .none, none⟩ true }
      else state.close c
  | .key =>
      if isSpace c then state
      else if c = '\x22' then { state with mode := .text ⟨[], .none, none⟩ true }
      else state.fail
  | .colon key =>
      if isSpace c then state
      else if c = ':' then
        match state.stack with
        | .entries before :: rest => ⟨.value, .entry before key :: rest, state.lone⟩
        | _ => state.fail
      else state.fail
  | .after | .done _ => state.settle c
  | .atom text =>
      if isDelimiter c then state.flush.settle c
      else { state with mode := .atom (text ++ [c]) }
  | .text reading isKey => state.stepText reading isKey c
  | .failed => state

def run (state : State) (text : List Char) : State :=
  text.foldl step state

def finish (state : State) : Except Error Value :=
  match state.flush.mode with
  | .done value => if state.flush.lone then .error .surrogate else .ok value
  | _ => .error .decode

end State

def loads (text : String) : Except Error Value :=
  (State.run ⟨.value, [], false⟩ text.toList).finish

example : loads " [1, \x7b\"a\\u00e9\": -2.5e1\x7d, null]" =
    .ok (.list [.int 1, .dict [("aé", .float (-25))], .null]) := by decide +kernel
example : loads "\"\\ud83d\\ude00\"" = .ok (.str "😀") := by decide +kernel
example : loads "[1,]" = .error .decode := by decide

/-! ## A text that is read is shorter than what it is read from -/

/-- A text that is being read, or that was read, is shorter than `read`. -/
def ShorterThan (read : ℕ) : Mode → Prop
  | .text reading _ => reading.text.length < read
  | .done (.str text) => text.length < read
  | _ => True

theorem atom?_ne_str {text : List Char} {value : Value}
    (found : atom? text = some value)
    (s : String) : value ≠ .str s := by
  intro same
  subst value
  unfold atom? at found
  split_ifs at found
  all_goals try cases found
  rcases (number?_some found).1 with ⟨n, same⟩ | ⟨x, same⟩
  · cases same
  · cases same

theorem deliver_shorter {value : Value} {read : ℕ}
    (short : ∀ s, value = .str s → s.length < read) (lone : Bool)
    (stack : List Frame) : ShorterThan read (State.deliver value lone stack).mode := by
  fun_cases State.deliver value lone stack with
  | case1 =>
      cases value with
      | str s => exact short s rfl
      | _ => trivial
  | _ => trivial

theorem close_shorter (state : State) (c : Char) (read : ℕ) :
    ShorterThan read (state.close c).mode := by
  fun_cases State.close state c with
  | case1 => exact deliver_shorter (by simp) _ _
  | case3 => exact deliver_shorter (by simp) _ _
  | _ => trivial

theorem enter_shorter (state : State) (c : Char) (read : ℕ) :
    ShorterThan (read + 1) (state.enter c).mode := by
  fun_cases State.enter state c with
  | case1 => exact Nat.succ_pos read
  | _ => trivial

theorem settle_shorter {state : State} {read : ℕ}
    (short : ShorterThan read state.mode) (c : Char) :
    ShorterThan read (state.settle c).mode := by
  fun_cases State.settle state c with
  | case5 => exact close_shorter state c read
  | _ => first | exact short | trivial

theorem flush_shorter {state : State} {read : ℕ}
    (short : ShorterThan read state.mode) : ShorterThan read state.flush.mode := by
  fun_cases State.flush state with
  | case1 text atom value found =>
      exact deliver_shorter (fun s same => absurd same (atom?_ne_str found s)) _ _
  | case2 => trivial
  | case3 => exact short

theorem stepText_shorter {state : State} {reading : Reading} {read : ℕ}
    (short : reading.text.length < read) (isKey : Bool) (c : Char) :
    ShorterThan (read + 1) (state.stepText reading isKey c).mode := by
  have more : reading.text.length + 1 < read + 1 := Nat.succ_lt_succ short
  have same : reading.text.length < read + 1 := Nat.lt_succ_of_lt short
  have pushed : ∀ d, ShorterThan (read + 1) (state.push reading isKey d).mode := by
    intro d
    simpa [ShorterThan, State.push] using more
  fun_cases State.stepText state reading isKey c with
  | case1 =>
      unfold State.endText
      split
      · trivial
      · apply deliver_shorter
        intro s text
        obtain rfl : String.ofList reading.text = s := Value.str.inj text
        simpa using same
  | case4 => exact pushed c
  | case6 => exact pushed _
  | case8 =>
      fun_cases State.pushUnit state reading isKey _ with
      | case1 => simpa [ShorterThan] using more
      | case2 => exact same
      | case3 => exact same
      | case4 => exact pushed _
  | _ => first | exact same | trivial

theorem ShorterThan.mono {mode : Mode} {read more : ℕ} (short : ShorterThan read mode)
    (le : read ≤ more) : ShorterThan more mode := by
  cases mode with
  | text reading isKey => exact lt_of_lt_of_le short le
  | done value =>
      cases value with
      | str s => exact lt_of_lt_of_le short le
      | _ => trivial
  | _ => trivial

theorem step_shorter {state : State} {read : ℕ} (short : ShorterThan read state.mode)
    (c : Char) : ShorterThan (read + 1) (state.step c).mode := by
  have later := short.mono (Nat.le_succ read)
  fun_cases State.step state c with
  | case4 | case8 => exact close_shorter state c _
  | case2 | case5 => exact enter_shorter state c read
  | case7 | case10 => exact Nat.succ_pos read
  | case16 | case17 => exact settle_shorter later c
  | case18 => exact settle_shorter (flush_shorter later) c
  | case20 reading isKey inside =>
      rw [inside] at short
      exact stepText_shorter short isKey c
  | _ => first | exact later | trivial

theorem run_shorter {state : State} {read : ℕ} (short : ShorterThan read state.mode)
    (text : List Char) : ShorterThan (read + text.length) (state.run text).mode := by
  induction text generalizing state read with
  | nil => exact short
  | cons c text ih =>
      have stepped := ih (step_shorter short c)
      rwa [Nat.add_right_comm] at stepped

theorem length_of_loads {text result : String} (read : loads text = .ok (.str result)) :
    result.length < text.length := by
  have start : ShorterThan 0 (State.mk .value [] false).mode := trivial
  have short := flush_shorter (run_shorter start text.toList)
  simp only [loads, State.finish] at read
  split at read
  case h_1 value ended =>
    split at read
    case isTrue => cases read
    case isFalse =>
      obtain rfl : value = .str result := by simpa using read
      rw [ended] at short
      simpa [ShorterThan, String.length_toList] using short
  case h_2 => cases read

end Json
