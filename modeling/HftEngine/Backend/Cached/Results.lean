import HftEngine.Lib.Json.Write

/-!
# Results in the cache

A result is stored as JSON with `str` for what JSON does not know, and a hit returns
what is read from this text.
-/

namespace HftEngine.Cached

open Py Json

/-- The key of a dictionary; tuples and other objects are refused by JSON. -/
inductive Key where
  | str (s : String)
  | int (n : ℤ)
  | float (x : Float)
  | bool (b : Bool)
  | none
  | other

/-- What a function may return.  Another object is known by its `str`. -/
inductive Object where
  | none
  | bool (b : Bool)
  | int (n : ℤ)
  | float (x : Float)
  | str (s : String)
  | list (items : List Object)
  | tuple (items : List Object)
  | dict (entries : List (Key × Object))
  | other (text : String)

/-- A key as `json.dumps` writes it. -/
def Key.text : Key → Option String
  | .str s => some s
  | .int n => some (String.ofList (intText n))
  | .float x => some (String.ofList (floatText x))
  | .bool true => some "true"
  | .bool false => some "false"
  | .none => some "null"
  | .other => Option.none

mutual

/-- The JSON value that `json.dumps(result, default=str)` writes, with none where it
raises an exception. -/
def encode : Object → Option Value
  | .none => some .null
  | .bool b => some (.bool b)
  | .int n => some (.int n)
  | .float x => some (.float x)
  | .str s => some (.str s)
  | .list items => (encodeItems items).map .list
  | .tuple items => (encodeItems items).map .list
  | .dict entries => (encodeEntries entries).map .dict
  | .other text => some (.str text)
termination_by structural object => object

def encodeItems : List Object → Option (List Value)
  | [] => some []
  | item :: items =>
      (encode item).bind (fun first => (encodeItems items).map (first :: ·))
termination_by structural items => items

def encodeEntry : Key × Object → Option (String × Value)
  | (key, object) => key.text.bind (fun text => (encode object).map (Prod.mk text))
termination_by structural entry => entry

def encodeEntries : List (Key × Object) → Option Dict
  | [] => some []
  | entry :: entries =>
      (encodeEntry entry).bind (fun first => (encodeEntries entries).map (first :: ·))
termination_by structural entries => entries

end

mutual

/-- The object that a JSON value is. -/
def Object.of : Value → Object
  | .null => .none
  | .bool b => .bool b
  | .int n => .int n
  | .float x => .float x
  | .str s => .str s
  | .list items => .list (Object.ofItems items)
  | .dict entries => .dict (Object.ofEntries entries)
termination_by structural value => value

def Object.ofItems : List Value → List Object
  | [] => []
  | item :: items => Object.of item :: Object.ofItems items
termination_by structural items => items

def Object.ofEntry : String × Value → Key × Object
  | (key, value) => (.str key, Object.of value)
termination_by structural entry => entry

def Object.ofEntries : List (String × Value) → List (Key × Object)
  | [] => []
  | entry :: entries => Object.ofEntry entry :: Object.ofEntries entries
termination_by structural entries => entries

end

/-- The text that is stored for a result: none for `None`, and where the encoding
raises an exception. -/
def stored : Object → Option String
  | .none => Option.none
  | result => (encode result).map dumps

/-- What a hit returns, with none where the text is not JSON. -/
def hit (text : String) : Option Object :=
  (loads text).toOption.map Object.of

/-- A result that is made of JSON values alone, with each key of a dictionary once. -/
def Plain (result : Object) : Prop :=
  ∃ value, DistinctKeys value ∧ Object.of value = result

mutual

theorem encode_of (value : Value) : encode (Object.of value) = some value := by
  cases value with
  | null => rfl
  | bool b => rfl
  | int n => rfl
  | float x => rfl
  | str s => rfl
  | list items => rw [Object.of, encode, encodeItems_of items, Option.map_some]
  | dict entries => rw [Object.of, encode, encodeEntries_of entries, Option.map_some]
termination_by structural value

theorem encodeItems_of (items : List Value) :
    encodeItems (Object.ofItems items) = some items := by
  cases items with
  | nil => rfl
  | cons item items =>
      rw [Object.ofItems, encodeItems, encode_of item, encodeItems_of items]
      rfl
termination_by structural items

theorem encodeEntry_of (entry : String × Value) :
    encodeEntry (Object.ofEntry entry) = some entry := by
  obtain ⟨key, value⟩ := entry
  rw [Object.ofEntry, encodeEntry, Key.text, encode_of value]
  rfl
termination_by structural entry

theorem encodeEntries_of (entries : List (String × Value)) :
    encodeEntries (Object.ofEntries entries) = some entries := by
  cases entries with
  | nil => rfl
  | cons entry entries =>
      rw [Object.ofEntries, encodeEntries, encodeEntry_of entry, encodeEntries_of entries]
      rfl
termination_by structural entries

end

/-- A hit returns the JSON form of the result. -/
theorem hit_of_stored {result : Object} {text : String} (fill : stored result = some text) :
    ∃ value, encode result = some value ∧ hit text = some (Object.of (normal value)) := by
  have encoded : (encode result).map dumps = some text := by
    cases result <;> first | exact fill | contradiction
  obtain ⟨value, found, rfl⟩ := Option.map_eq_some_iff.mp encoded
  refine ⟨value, found, ?_⟩
  rw [hit, loads_dumps_normal]
  rfl

/-- The JSON form of a result is the result itself exactly where it is plain. -/
theorem of_normal_eq_iff {result : Object} {value : Value}
    (encoded : encode result = some value) :
    Object.of (normal value) = result ↔ Plain result := by
  constructor
  · intro same
    exact ⟨normal value, distinct_normal value, same⟩
  · rintro ⟨plain, distinct, rfl⟩
    obtain rfl := Option.some.inj ((encode_of plain).symm.trans encoded)
    rw [normal_of_distinct plain distinct]

end HftEngine.Cached
