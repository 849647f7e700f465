import HftEngine.Backend.Cached.Results
import HftEngine.Lib.Transition
import Mathlib.Data.String.Basic

/-!
# Keys of the cache

The key of a call joins the prefix of the function with the texts of the arguments by
colons.  Calls with one key share what the first of them has stored.
-/

namespace HftEngine.Cached

open Transition Py Json

/-- What the key reads of an argument: `str`, the formatting of an f-string, whether it
has a `__dict__` and whether it is `None`. -/
structure Reading (Arg : Type) where
  str : Arg → String
  format : Arg → String
  has_dict : Arg → Bool
  is_none : Arg → Bool

/-- A call of a function that is decorated with a prefix and a number of positional
arguments to skip; the names of the keyword arguments are distinct. -/
structure Call (Arg : Type) where
  prefix_text : String
  skip_args : ℤ
  args : List Arg
  kwargs : List (String × Arg)

/-- `items[start:]`. -/
def slice_from {α : Type} (start : ℤ) (items : List α) : List α :=
  if 0 ≤ start then items.drop start.toNat
  else items.drop (items.length - start.natAbs)

section Keys

variable {Arg : Type} (reading : Reading Arg) (md5 : String → String)

/-- The texts of the arguments: complex objects are left out, and keyword arguments
that are `None`. -/
def arg_parts (args : List Arg) (kwargs : List (String × Arg)) : List String :=
  (args.filter (fun arg => !reading.has_dict arg)).map reading.str ++
    ((kwargs.mergeSort (fun first second => first.1 ≤ second.1)).filter
      (fun entry => !reading.is_none entry.2 && !reading.has_dict entry.2)).map
        (fun entry => entry.1 ++ "=" ++ reading.format entry.2)

def raw_key (prefix_text : String) (parts : List String) : String :=
  String.intercalate ":" (prefix_text :: parts)

/-- `md5` gives the hexadecimal digits of the hash. -/
def cache_key_from_args (prefix_text : String) (args : List Arg)
    (kwargs : List (String × Arg)) : String :=
  let raw := raw_key prefix_text (arg_parts reading args kwargs)
  if raw.length > 200 then
    prefix_text ++ ":" ++ String.ofList ((md5 raw).toList.take 12)
  else raw

def Call.parts (call : Call Arg) : List String :=
  arg_parts reading (slice_from call.skip_args call.args) call.kwargs

def Call.raw_key (call : Call Arg) : String :=
  Cached.raw_key call.prefix_text (call.parts reading)

def Call.key (call : Call Arg) : String :=
  cache_key_from_args reading md5 call.prefix_text
    (slice_from call.skip_args call.args) call.kwargs

end Keys

/-! ## Calls -/

/-- The texts that are stored, each with the call and the result that it is of. -/
structure Store (Arg : Type) where
  redis : String → Option String := fun _ => none
  filled : String → Option (Call Arg × Object) := fun _ => none

inductive StoreLabel (Arg : Type) where
  | fill (call : Call Arg) (result : Object)
  | expire (key : String)

section Calls

variable {Arg : Type} (reading : Reading Arg) (md5 : String → String)

/-- What a call returns from the cache, with none on a miss: an empty text counts as
one.  The inner none is an exception. -/
def from_cache (call : Call Arg) (store : Store Arg) : Option (Option Object) :=
  match store.redis (call.key reading md5) with
  | some text => if text = "" then none else some (hit text)
  | none => none

/-- A call that has missed runs the function and stores the result; in the meantime
others may have done so. -/
def fill (call : Call Arg) (result : Object) (store : Store Arg) : Store Arg :=
  match stored result with
  | some text =>
      { redis := Function.update store.redis (call.key reading md5) (some text)
        filled := Function.update store.filled (call.key reading md5)
          (some (call, result)) }
  | none => store

def cache : System (Store Arg) (StoreLabel Arg) where
  start := {}
  step := fun store label =>
    match label with
    | .fill call result => some (fill reading md5 call result store)
    | .expire key =>
        some { store with redis := Function.update store.redis key none }

/-- A hit returns the JSON form of the result of the miss that has filled the key; this
is the result itself exactly where it is plain. -/
def Transparent (store : Store Arg) : Prop :=
  ∀ call returned, from_cache reading md5 call store = some returned →
    ∃ filler result value, store.filled (call.key reading md5) = some (filler, result) ∧
      filler.key reading md5 = call.key reading md5 ∧ encode result = some value ∧
      returned = some (Object.of (normal value)) ∧ (returned = some result ↔ Plain result)

/-- The number of fields that the colons of a text separate. -/
def fields (text : String) : ℕ :=
  (text.toList.splitOn ':').length

/-- Calls with short keys and without colons in the texts of their arguments share a key
only if they agree in the prefix and in these texts. -/
def Separated : Prop :=
  ∀ first second : Call Arg,
    (first.raw_key reading).length ≤ 200 → (second.raw_key reading).length ≤ 200 →
    (∀ part ∈ first.parts reading, ':' ∉ part.toList) →
    (∀ part ∈ second.parts reading, ':' ∉ part.toList) →
    fields first.prefix_text = fields second.prefix_text →
    first.key reading md5 = second.key reading md5 →
      first.prefix_text = second.prefix_text ∧
        first.parts reading = second.parts reading

/-! ## Splitting keys -/

theorem splitOn_intercalate_cons {first : List Char} {rest : List (List Char)}
    (free : ∀ part ∈ rest, ':' ∉ part) :
    ([':'].intercalate (first :: rest)).splitOn ':' = first.splitOn ':' ++ rest := by
  cases rest with
  | nil => rw [List.intercalate_singleton, List.append_nil]
  | cons part parts =>
      rw [List.intercalate_cons_cons, List.append_assoc, List.singleton_append,
        List.splitOn_append_cons_self,
        List.splitOn_intercalate ':' free (List.cons_ne_nil part parts)]

theorem splitOn_raw_key {prefix_text : String} {parts : List String}
    (free : ∀ part ∈ parts, ':' ∉ part.toList) :
    (raw_key prefix_text parts).toList.splitOn ':' =
      prefix_text.toList.splitOn ':' ++ parts.map String.toList := by
  rw [raw_key, String.toList_intercalate, List.map_cons]
  apply splitOn_intercalate_cons
  intro text member
  obtain ⟨part, listed, rfl⟩ := List.mem_map.mp member
  exact free part listed

/-- A raw key without colons in the parts, and the number of fields of its prefix, tell
the prefix and the parts. -/
theorem raw_key_injective {prefix_text other : String} {parts others : List String}
    (free : ∀ part ∈ parts, ':' ∉ part.toList)
    (also_free : ∀ part ∈ others, ':' ∉ part.toList)
    (aligned : fields prefix_text = fields other)
    (same : raw_key prefix_text parts = raw_key other others) :
    prefix_text = other ∧ parts = others := by
  have split : (raw_key prefix_text parts).toList.splitOn ':' =
      prefix_text.toList.splitOn ':' ++ parts.map String.toList := splitOn_raw_key free
  rw [same, splitOn_raw_key also_free] at split
  obtain ⟨prefixes, texts⟩ := List.append_inj split aligned.symm
  constructor
  · have whole := congrArg ([':'].intercalate) prefixes
    rw [List.intercalate_splitOn, List.intercalate_splitOn] at whole
    exact (String.ext whole).symm
  · exact ((List.map_inj_right (fun _ _ => String.ext)).mp texts).symm

theorem key_of_short {call : Call Arg} (short : (call.raw_key reading).length ≤ 200) :
    call.key reading md5 = call.raw_key reading :=
  if_neg (Nat.not_lt_of_le short)

theorem separated : Separated reading md5 := by
  intro first second short also_short free also_free aligned same
  rw [key_of_short reading md5 short, key_of_short reading md5 also_short] at same
  exact raw_key_injective free also_free aligned same

/-! ## Runs -/

/-- What is stored under a key is the text of the result that has filled it. -/
def Filled (store : Store Arg) : Prop :=
  ∀ key text, store.redis key = some text →
    ∃ filler result, store.filled key = some (filler, result) ∧
      filler.key reading md5 = key ∧ stored result = some text

variable {reading : Reading Arg} {md5 : String → String} {store : Store Arg}

theorem Filled.fill (filled : Filled reading md5 store) (call : Call Arg)
    (result : Object) : Filled reading md5 (fill reading md5 call result store) := by
  unfold Cached.fill
  split
  case h_1 text fill =>
      intro key other found
      by_cases same : key = call.key reading md5
      · subst same
        simp only [Function.update_self] at found ⊢
        obtain rfl := Option.some.inj found
        exact ⟨call, result, rfl, rfl, fill⟩
      · simp only [Function.update_of_ne same] at found ⊢
        exact filled key other found
  case h_2 => exact filled

theorem filled_fill {call : Call Arg} {result : Object} {text : String}
    (stores : stored result = some text) :
    (Cached.fill reading md5 call result store).filled (call.key reading md5) =
      some (call, result) := by
  simp only [Cached.fill, stores, Function.update_self]

/-- A call hits what has been stored under its key. -/
theorem from_cache_fill {call : Call Arg} {result : Object} {text : String}
    (stores : stored result = some text) (some_text : text ≠ "") :
    from_cache reading md5 call (Cached.fill reading md5 call result store) =
      some (hit text) := by
  simp only [from_cache, Cached.fill, stores, Function.update_self, if_neg some_text]

theorem Filled.expire (filled : Filled reading md5 store) (gone : String) :
    Filled reading md5 { store with redis := Function.update store.redis gone none } := by
  intro key text found
  by_cases same : key = gone
  · simp only [same, Function.update_self] at found
    contradiction
  · simp only [Function.update_of_ne same] at found
    exact filled key text found

theorem Filled.transparent (filled : Filled reading md5 store) :
    Transparent reading md5 store := by
  intro call returned found
  unfold from_cache at found
  split at found
  case h_1 text present =>
      obtain ⟨_, found⟩ := Option.ite_none_left_eq_some.mp found
      obtain ⟨filler, result, known, shared, fill⟩ := filled _ text present
      obtain ⟨value, encoded, read⟩ := hit_of_stored fill
      have is_form : returned = some (Object.of (normal value)) :=
        (Option.some.inj found).symm.trans read
      refine ⟨filler, result, value, known, shared, encoded, is_form, ?_⟩
      rw [is_form, Option.some.injEq]
      exact of_normal_eq_iff encoded
  case h_2 => contradiction

end Calls

/-- On every run a hit returns the JSON form of the result that has filled its key, and
calls with different prefixes or texts do not share a short key without further
colons. -/
theorem cache_transparent {Arg : Type} {reading : Reading Arg} {md5 : String → String}
    {store : Store Arg} (reached : Reachable (cache reading md5) store) :
    Transparent reading md5 store ∧ Separated reading md5 := by
  have filled : Filled reading md5 store := by
    apply reached.invariant
    · exact nofun
    · intro before label after filled _ taken
      cases label with
      | fill call result => exact Option.some.inj taken ▸ filled.fill call result
      | expire key => exact Option.some.inj taken ▸ filled.expire key
  exact ⟨filled.transparent, separated reading md5⟩

/-- Arguments that are strings. -/
def strings : Reading String where
  str := id
  format := id
  has_dict := fun _ => false
  is_none := fun _ => false

def snapshot (args : List String) : Call String where
  prefix_text := "hist:snap"
  skip_args := 0
  args := args
  kwargs := []

def filled_with (result : Object) : Store String :=
  fill strings id (snapshot ["a"]) result {}

theorem reachable_filled_with (result : Object) :
    Reachable (cache strings id) (filled_with result) := by
  have taken : (cache strings id).step {} (.fill (snapshot ["a"]) result) =
      some (filled_with result) := rfl
  exact .step .start trivial taken

theorem list_transparent : Transparent strings id (filled_with (.list [.int 1, .int 2])) :=
  (cache_transparent (reachable_filled_with (.list [.int 1, .int 2]))).1

/-- A tuple comes back as a list, and a text with a colon counts as two arguments. -/
theorem tuple_and_colon_not_transparent :
    (∃ store : Store String, Reachable (cache strings id) store ∧
      store.filled ((snapshot ["a"]).key strings id) =
        some (snapshot ["a"], .tuple [.int 1, .int 2]) ∧
      from_cache strings id (snapshot ["a"]) store =
        some (some (.list [.int 1, .int 2]))) ∧
    ["a:b"] ≠ ["a", "b"] ∧
      (snapshot ["a:b"]).key strings id = (snapshot ["a", "b"]).key strings id := by
  have stores : stored (.tuple [.int 1, .int 2]) = some "[1, 2]" := by rfl
  have read : hit "[1, 2]" = some (.list [.int 1, .int 2]) := by rfl
  refine ⟨?_, by decide, ?_⟩
  · refine ⟨filled_with (.tuple [.int 1, .int 2]), reachable_filled_with _, ?_, ?_⟩
    · exact filled_fill stores
    · rw [filled_with, from_cache_fill stores (by decide), read]
  · simp [Call.key, snapshot, strings, cache_key_from_args, arg_parts, slice_from, raw_key]

end HftEngine.Cached
