import HftEngine.Lib.Python.Text
import Mathlib.Data.List.Infix

/-!
# Python values

The values that JSON and Avro carry, their truth, the operations on
dictionaries, and the numeric operations with the exceptions they raise.
-/

namespace Py

inductive Value where
  | null
  | bool (b : Bool)
  | int (n : ℤ)
  | float (x : Float)
  | str (s : String)
  | list (items : List Value)
  | dict (entries : List (String × Value))

inductive Error where
  | typeError
  | valueError
  | keyError
  | attributeError
  | overflowError
  | validationError
  deriving DecidableEq, Repr

abbrev Result := Except Error

theorem bind_eq_ok {α β : Type} {first : Result α} {next : α → Result β} {b : β} :
    (first >>= next) = .ok b ↔ ∃ a, first = .ok a ∧ next a = .ok b := by
  cases first <;> simp [bind, Except.bind]

theorem isOk_iff {α : Type} {result : Result α} :
    result.isOk = true ↔ ∃ a, result = .ok a := by
  cases result <;> simp [Except.isOk, Except.toBool]

theorem toOption_eq_some {α : Type} {result : Result α} {a : α} :
    result.toOption = some a ↔ result = .ok a := by
  cases result <;> simp [Except.toOption]

/-- None as null. -/
def orNull {α : Type} (value : α → Value) : Option α → Value
  | none => .null
  | some a => value a

/-- One step of a computation that returns. -/
theorem bind_step {α β : Type} {first : Result α} {next : α → Result β} {a : α}
    {result : Result β} (returns : first = .ok a) (rest : next a = result) :
    (first >>= next) = result := by
  rw [returns]
  exact rest

/-! ## Equality of values as data -/

mutual

def Value.decEq : (left right : Value) → Decidable (left = right)
  | .null, .null => isTrue rfl
  | .bool a, .bool b => decidable_of_iff (a = b) (by simp)
  | .int a, .int b => decidable_of_iff (a = b) (by simp)
  | .float a, .float b => decidable_of_iff (a = b) (by simp)
  | .str a, .str b => decidable_of_iff (a = b) (by simp)
  | .list a, .list b =>
      match Value.decEqList a b with
      | isTrue same => isTrue (same ▸ rfl)
      | isFalse different => isFalse (fun same => different (Value.list.inj same))
  | .dict a, .dict b =>
      match Value.decEqEntries a b with
      | isTrue same => isTrue (same ▸ rfl)
      | isFalse different => isFalse (fun same => different (Value.dict.inj same))
  | .null, .bool _ | .null, .int _ | .null, .float _ | .null, .str _
  | .null, .list _ | .null, .dict _ | .bool _, .null | .bool _, .int _
  | .bool _, .float _ | .bool _, .str _ | .bool _, .list _ | .bool _, .dict _
  | .int _, .null | .int _, .bool _ | .int _, .float _ | .int _, .str _
  | .int _, .list _ | .int _, .dict _ | .float _, .null | .float _, .bool _
  | .float _, .int _ | .float _, .str _ | .float _, .list _ | .float _, .dict _
  | .str _, .null | .str _, .bool _ | .str _, .int _ | .str _, .float _
  | .str _, .list _ | .str _, .dict _ | .list _, .null | .list _, .bool _
  | .list _, .int _ | .list _, .float _ | .list _, .str _ | .list _, .dict _
  | .dict _, .null | .dict _, .bool _ | .dict _, .int _ | .dict _, .float _
  | .dict _, .str _ | .dict _, .list _ => isFalse (by simp)
termination_by structural left => left

def Value.decEqList : (left right : List Value) → Decidable (left = right)
  | [], [] => isTrue rfl
  | [], _ :: _ => isFalse (by simp)
  | _ :: _, [] => isFalse (by simp)
  | a :: left, b :: right =>
      match Value.decEq a b, Value.decEqList left right with
      | isTrue head, isTrue tail => isTrue (by rw [head, tail])
      | isFalse head, _ => isFalse (fun same => head (List.cons.inj same).1)
      | _, isFalse tail => isFalse (fun same => tail (List.cons.inj same).2)
termination_by structural left => left

def Value.decEqEntry : (left right : String × Value) → Decidable (left = right)
  | (key, a), (other, b) =>
      match String.decEq key other, Value.decEq a b with
      | isTrue keys, isTrue values => isTrue (by rw [keys, values])
      | isFalse keys, _ => isFalse (fun same => keys (Prod.mk.inj same).1)
      | _, isFalse values => isFalse (fun same => values (Prod.mk.inj same).2)
termination_by structural left => left

def Value.decEqEntries :
    (left right : List (String × Value)) → Decidable (left = right)
  | [], [] => isTrue rfl
  | [], _ :: _ => isFalse (by simp)
  | _ :: _, [] => isFalse (by simp)
  | a :: left, b :: right =>
      match Value.decEqEntry a b, Value.decEqEntries left right with
      | isTrue head, isTrue tail => isTrue (by rw [head, tail])
      | isFalse head, _ => isFalse (fun same => head (List.cons.inj same).1)
      | _, isFalse tail => isFalse (fun same => tail (List.cons.inj same).2)
termination_by structural left => left

end

instance : DecidableEq Value := Value.decEq

/-! ## Dictionaries -/

abbrev Dict := List (String × Value)

def lookup? (key : String) : Dict → Option Value
  | [] => none
  | (other, value) :: rest => if other = key then some value else lookup? key rest

theorem lookup_eq_none {key : String} {entries : Dict}
    (missing : ∀ entry ∈ entries, entry.1 ≠ key) : lookup? key entries = none := by
  induction entries with
  | nil => rfl
  | cons entry entries ih =>
      obtain ⟨other, value⟩ := entry
      obtain ⟨first, rest⟩ := List.forall_mem_cons.mp missing
      simp only [lookup?, if_neg first]
      exact ih rest

/-- `entries[key] = value`: a key keeps its place. -/
def setItem (key : String) (value : Value) : Dict → Dict
  | [] => [(key, value)]
  | (other, old) :: rest =>
      if other = key then (key, value) :: rest
      else (other, old) :: setItem key value rest

theorem lookup_setItem (key other : String) (value : Value) (entries : Dict) :
    lookup? other (setItem key value entries) =
      if key = other then some value else lookup? other entries := by
  induction entries with
  | nil => rfl
  | cons entry entries ih =>
      obtain ⟨first, old⟩ := entry
      by_cases here : first = key
      · subst here
        by_cases same : first = other
        · simp [setItem, lookup?, same]
        · simp [setItem, lookup?, same]
      · by_cases same : first = other
        · have apart : key ≠ other := fun equal => here (same.trans equal.symm)
          simp [setItem, lookup?, same, apart, Ne.symm apart]
        · simp only [setItem, if_neg here, lookup?, if_neg same, ih]

/-- `entries.get(key, default)` of a dictionary. -/
def Dict.get (entries : Dict) (key : String) (default : Value) : Value :=
  (lookup? key entries).getD default

/-- `entries.pop(key, default)`: the value and what is left. -/
def Dict.pop (entries : Dict) (key : String) (default : Value) : Value × Dict :=
  (Dict.get entries key default, entries.filter (fun entry => entry.1 ≠ key))

namespace Value

/-- `value.get(key, default)`: only dictionaries have `get`. -/
def get (value : Value) (key : String) (default : Value) : Result Value :=
  match value with
  | .dict entries => .ok (Dict.get entries key default)
  | _ => .error .attributeError

def truthy : Value → Bool
  | .null => false
  | .bool b => b
  | .int n => n ≠ 0
  | .float x => !(x == 0)
  | .str s => !s.isEmpty
  | .list items => !items.isEmpty
  | .dict entries => !entries.isEmpty

/-- `value or other`. -/
def or (value other : Value) : Value :=
  if value.truthy then value else other

/-- `key in value`. -/
def contains (value : Value) (key : String) : Result Bool :=
  match value with
  | .dict entries => .ok (lookup? key entries).isSome
  | .list items => .ok (items.contains (.str key))
  | .str text => .ok (decide (key.toList <:+: text.toList))
  | _ => .error .typeError

/-- What `for item in value` goes through. -/
def iterate : Value → Result (List Value)
  | .list items => .ok items
  | .dict entries => .ok (entries.map (fun entry => .str entry.1))
  | .str text => .ok (text.toList.map (fun c => .str (String.ofList [c])))
  | _ => .error .typeError

/-- `value[key]` with a string for the key. -/
def getItem (value : Value) (key : String) : Result Value :=
  match value with
  | .dict entries =>
      match lookup? key entries with
      | some item => .ok item
      | none => .error .keyError
  | _ => .error .typeError

end Value

@[simp] theorem get_dict (entries : Dict) (key : String) (default : Value) :
    (Value.dict entries).get key default = .ok (Dict.get entries key default) := rfl

theorem get_of_lookup {entries : Dict} {name : String} {value : Value}
    (found : lookup? name entries = some value) (default : Value) :
    (Value.dict entries).get name default = .ok value := by
  simp [Value.get, Dict.get, found]

theorem get_of_lookup_none {entries : Dict} {name : String}
    (missing : lookup? name entries = none) (default : Value) :
    (Value.dict entries).get name default = .ok default := by
  simp [Value.get, Dict.get, missing]

end Py
