import Mathlib.Data.List.AList

/-!
# Ordered dictionaries, and when their keys were used

An ordered dictionary keeps its keys in an order that `move_to_end` changes; here the
last key of the order comes first in the list.  `Since` is the operator of temporal logic
over a finite history.  A dictionary whose keys are moved to the end when they are used
lists them by their last use.
-/

universe u v

/-! ## Histories -/

namespace Recency

variable {Event : Type u}

/-- An event of a history is the last one, or one of those before. -/
theorem snoc_eq_append_cons {history old rest : List Event} {last event : Event}
    (split : history ++ [last] = old ++ event :: rest) :
    (rest = [] ∧ old = history ∧ event = last) ∨
      ∃ before, rest = before ++ [last] ∧ history = old ++ event :: before := by
  rcases List.eq_nil_or_concat rest with none | ⟨before, final, more⟩
  · subst none
    obtain ⟨same, ends⟩ := List.append_inj' split rfl
    exact .inl ⟨rfl, same.symm, (List.singleton_inj.mp ends).symm⟩
  · subst more
    rw [List.concat_eq_append, ← List.cons_append, ← List.append_assoc] at split
    obtain ⟨same, ends⟩ := List.append_inj' split rfl
    cases ends
    exact .inr ⟨before, List.concat_eq_append, same⟩

/-- The one thing happened, and the other one has held ever since. -/
def Since (happened kept : Event → Prop) (history : List Event) : Prop :=
  ∃ old event rest, history = old ++ event :: rest ∧ happened event ∧
    ∀ later ∈ rest, kept later

theorem since_snoc {happened kept : Event → Prop} {history : List Event} {event : Event} :
    Since happened kept (history ++ [event]) ↔
      happened event ∨ (Since happened kept history ∧ kept event) := by
  constructor
  · intro ⟨old, first, rest, split, begun, held⟩
    rcases snoc_eq_append_cons split with ⟨-, -, rfl⟩ | ⟨before, rfl, same⟩
    · exact .inl begun
    · exact .inr ⟨⟨old, first, before, same, begun,
        fun later member => held later (List.mem_append_left _ member)⟩, held _ (by simp)⟩
  · rintro (begun | ⟨⟨old, first, rest, same, begun, held⟩, still⟩)
    · exact ⟨history, event, [], rfl, begun, by simp⟩
    · refine ⟨old, first, rest ++ [event], ?_, begun, ?_⟩
      · rw [same, List.append_assoc, List.cons_append]
      · intro later member
        rcases List.mem_append.mp member with earlier | last
        · exact held later earlier
        · rw [List.mem_singleton.mp last]
          exact still

variable {Key : Type v} (uses : Event → Key → Prop)

/-- The last use of one key comes after every use of another one. -/
def UsedAfter (history : List Event) (newer older : Key) : Prop :=
  Since (fun event => uses event newer ∧ ¬uses event older)
    (fun event => ¬uses event older) history

/-- Keys by their last use, the latest one first. -/
def Ranked (history : List Event) (keys : List Key) : Prop :=
  keys.Pairwise (UsedAfter uses history)

variable {uses} {history : List Event} {keys : List Key} {event : Event}

theorem Ranked.idle (ranked : Ranked uses history keys)
    (unused : ∀ key ∈ keys, ¬uses event key) : Ranked uses (history ++ [event]) keys :=
  ranked.imp_of_mem (fun _ older after => since_snoc.mpr (.inr ⟨after, unused _ older⟩))

theorem Ranked.use [DecidableEq Key] {key : Key} (ranked : Ranked uses history keys)
    (distinct : keys.Nodup) (used : uses event key)
    (alone : ∀ other, other ≠ key → ¬uses event other) :
    Ranked uses (history ++ [event]) (key :: keys.erase key) := by
  have others : ∀ other ∈ keys.erase key, ¬uses event other :=
    fun other member => alone other (distinct.mem_erase_iff.mp member).1
  refine List.pairwise_cons.mpr ⟨?_, ?_⟩
  · intro older member
    exact since_snoc.mpr (.inl ⟨used, others older member⟩)
  · exact Ranked.idle (ranked.sublist List.erase_sublist) others

end Recency

/-! ## Ordered dictionaries -/

abbrev OrderedDict (Key : Type u) (Value : Type v) := AList (fun _ : Key => Value)

namespace OrderedDict

variable {Key : Type u} {Value : Type v} [DecidableEq Key] {key other : Key} {value : Value}
  {dict : OrderedDict Key Value}

/-- `dict[key] = value`: a key that is present keeps its place, a new one is the last. -/
def setItem (key : Key) (value : Value) (dict : OrderedDict Key Value) :
    OrderedDict Key Value :=
  if key ∈ dict then dict.replace key value else dict.insert key value

/-- `del dict[key]`; none is a `KeyError`. -/
def delItem (key : Key) (dict : OrderedDict Key Value) : Option (OrderedDict Key Value) :=
  if key ∈ dict then some (dict.erase key) else none

/-- None is a `KeyError`. -/
def move_to_end (key : Key) (dict : OrderedDict Key Value) :
    Option (OrderedDict Key Value) :=
  (dict.lookup key).map (fun value => dict.insert key value)

omit [DecidableEq Key] in
/-- `next(iter(dict))`; none is a `StopIteration`. -/
def first (dict : OrderedDict Key Value) : Option Key :=
  dict.keys.getLast?

theorem delItem_of_mem (present : key ∈ dict) : delItem key dict = some (dict.erase key) :=
  if_pos present

theorem move_to_end_of_lookup (found : dict.lookup key = some value) :
    move_to_end key dict = some (dict.insert key value) := by
  rw [move_to_end, found, Option.map_some]

theorem kreplace_cons (entry : Sigma (fun _ : Key => Value))
    (entries : List (Sigma (fun _ : Key => Value))) :
    (entry :: entries).kreplace key value =
      if key = entry.1 then ⟨key, value⟩ :: entries
      else entry :: entries.kreplace key value := by
  rw [List.kreplace, List.lookmap_cons]
  by_cases same : key = entry.1
  · rw [if_pos same, if_pos same]
  · rw [if_neg same, if_neg same]

theorem kerase_kreplace (entries : List (Sigma (fun _ : Key => Value))) :
    (entries.kreplace key value).kerase key = entries.kerase key := by
  induction entries with
  | nil => rfl
  | cons entry entries ih =>
      rw [kreplace_cons]
      split
      · rename_i same
        have first : (⟨key, value⟩ : Sigma (fun _ : Key => Value)).1 = key := rfl
        rw [List.kerase_cons_eq first.symm, List.kerase_cons_eq same]
      · rename_i different
        rw [List.kerase_cons_ne different, List.kerase_cons_ne different, ih]

theorem dlookup_kreplace {entries : List (Sigma (fun _ : Key => Value))}
    (present : key ∈ entries.keys) :
    (entries.kreplace key value).dlookup key = some value := by
  induction entries with
  | nil => contradiction
  | cons entry entries ih =>
      rw [kreplace_cons]
      split
      · exact List.dlookup_cons_eq _ _ _
      · rename_i different
        rw [List.dlookup_cons_ne _ _ different]
        rw [List.keys_cons] at present
        exact ih ((List.mem_cons.mp present).resolve_left different)

theorem insert_setItem : (setItem key value dict).insert key value = dict.insert key value := by
  unfold setItem
  split
  · apply AList.ext
    rw [AList.entries_insert, AList.entries_insert]
    exact congrArg (⟨key, value⟩ :: ·) (kerase_kreplace dict.entries)
  · exact AList.insert_insert dict

theorem lookup_setItem : (setItem key value dict).lookup key = some value := by
  unfold setItem
  split
  · rename_i present
    exact dlookup_kreplace present
  · exact AList.lookup_insert dict

theorem lookup_setItem_ne (different : other ≠ key) :
    (setItem key value dict).lookup other = dict.lookup other := by
  have inserted : ((setItem key value dict).insert key value).lookup other =
      (dict.insert key value).lookup other := by
    rw [insert_setItem]
  rwa [AList.lookup_insert_ne different, AList.lookup_insert_ne different] at inserted

variable {found : Value}

theorem lookup_setItem_iff :
    (setItem key value dict).lookup other = some found ↔
      (other = key ∧ value = found) ∨ (other ≠ key ∧ dict.lookup other = some found) := by
  by_cases same : other = key
  · subst same
    simp [lookup_setItem]
  · simp [same, lookup_setItem_ne same]

theorem lookup_insert_iff :
    (dict.insert key value).lookup other = some found ↔
      (other = key ∧ value = found) ∨ (other ≠ key ∧ dict.lookup other = some found) := by
  by_cases same : other = key
  · subst same
    simp
  · simp [same, AList.lookup_insert_ne same]

theorem lookup_erase_iff :
    (dict.erase key).lookup other = some found ↔
      other ≠ key ∧ dict.lookup other = some found := by
  by_cases same : other = key
  · subst same
    simp
  · simp [same, AList.lookup_erase_ne same]

theorem mem_setItem : other ∈ setItem key value dict ↔ other = key ∨ other ∈ dict := by
  unfold setItem
  split
  · rename_i present
    rw [AList.mem_replace]
    constructor
    · exact .inr
    · rintro (same | member)
      · rwa [same]
      · exact member
  · exact AList.mem_insert dict

/-- To set a key and to move it makes it the last one. -/
theorem move_to_end_setItem :
    move_to_end key (setItem key value dict) = some (dict.insert key value) := by
  rw [move_to_end_of_lookup lookup_setItem, insert_setItem]

end OrderedDict
