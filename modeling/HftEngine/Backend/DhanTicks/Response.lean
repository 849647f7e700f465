import HftEngine.Backend.DhanTicks
import HftEngine.Lib.Traversal
import Mathlib.Algebra.Ring.Int.Defs

/-!
# The response of the ticks service

`_format_response` reads five arrays beside the list of timestamps.  An array
may be shorter than the timestamps and may hold nulls.
-/

namespace HftEngine.DhanTicks

variable {α : Type}

/-- What stands under a key of the data; an entry may be null. -/
inductive Field (α : Type) where
  | missing
  | null
  | array (items : List (Option α))

/-- `ohlcv.get(key, [])`, or none where that is no list. -/
def Field.items : Field α → Option (List (Option α))
  | .missing => some []
  | .null => none
  | .array items => some items

structure Ohlcv (α : Type) where
  o : Field α
  h : Field α
  l : Field α
  c : Field α
  v : Field α
  t : List ℤ

/-- The decoded body, where `data` is none without the key. -/
inductive Body (α : Type) where
  | other
  | dict (success : Bool) (data : Option (Ohlcv α))

inductive Response (α : Type) where
  | success (symbol : String) (candles : List (Candle α α)) (count : ℕ)
  | format_error

/-- `float(items[i]) if i < len(items) else 0`, or none where it raises. -/
def Field.read [Zero α] (field : Field α) (i : ℕ) : Option α :=
  match field.items with
  | none => none
  | some items =>
      match items[i]? with
      | none => some 0
      | some entry => entry

def Ohlcv.candle [Zero α] (ohlcv : Ohlcv α) (i : ℕ) (time : ℤ) : Option (Candle α α) := do
  let open_ ← ohlcv.o.read i
  let high ← ohlcv.h.read i
  let low ← ohlcv.l.read i
  let close ← ohlcv.c.read i
  let volume ← ohlcv.v.read i
  return { time, open_, high, low, close, volume := some volume }

def format_response [Zero α] (data : Body α) (symbol : String) : Response α :=
  match data with
  | .dict true (some ohlcv) =>
      match ohlcv.t.zipIdx.mapM (fun entry => ohlcv.candle entry.2 entry.1) with
      | some candles => .success symbol candles candles.length
      | none => .format_error
  | _ => .success symbol [] 0

/-! ## What a candle is made of -/

/-- The array has this entry. -/
def Field.Has (field : Field α) (i : ℕ) (value : α) : Prop :=
  ∃ items, field.items = some items ∧ items[i]? = some (some value)

/-- The value is the entry of the array, or zero beyond its end. -/
def Field.Padded [Zero α] (field : Field α) (i : ℕ) (value : α) : Prop :=
  field.Has i value ∨
    ∃ items, field.items = some items ∧ items.length ≤ i ∧ value = 0

/-- There is a list, and it has no null before this index. -/
def Field.Filled (field : Field α) (length : ℕ) : Prop :=
  ∃ items, field.items = some items ∧ ∀ i < length, items[i]? ≠ some none

@[simp] theorem Field.has_array {items : List (Option α)} {i : ℕ} {value : α} :
    (Field.array items).Has i value ↔ items[i]? = some (some value) := by
  simp [Has, Field.items]

@[simp] theorem Field.filled_array {items : List (Option α)} {length : ℕ} :
    (Field.array items).Filled length ↔ ∀ i < length, items[i]? ≠ some none := by
  simp [Filled, Field.items]

theorem Field.read_eq_some [Zero α] {field : Field α} {i : ℕ} {value : α} :
    field.read i = some value ↔ field.Padded i value := by
  cases found : field.items with
  | none => simp [read, Padded, Has, found]
  | some items =>
      cases inside : items[i]? with
      | none =>
          have beyond := List.getElem?_eq_none_iff.mp inside
          simp [read, Padded, Has, found, beyond, eq_comm]
      | some entry =>
          have within : ¬items.length ≤ i := by
            intro beyond
            rw [List.getElem?_eq_none_iff.mpr beyond] at inside
            exact nomatch inside
          simp [read, Padded, Has, found, inside, within]

theorem Field.Padded.of_has [Zero α] {field : Field α} {i : ℕ} {value other : α}
    (padded : field.Padded i value) (has : field.Has i other) : field.Has i value := by
  obtain read | ⟨items, found, beyond, _⟩ := padded
  · exact read
  · obtain ⟨items', found', entry⟩ := has
    obtain rfl := Option.some.inj (found.symm.trans found')
    rw [List.getElem?_eq_none_iff.mpr beyond] at entry
    exact nomatch entry

theorem Field.read_isSome [Zero α] {field : Field α} {length i : ℕ}
    (filled : field.Filled length) (inside : i < length) : (field.read i).isSome := by
  obtain ⟨items, found, entries⟩ := filled
  cases entry : items[i]? with
  | none => simp [read, found, entry]
  | some value =>
      cases value with
      | none => exact absurd entry (entries i inside)
      | some value => simp [read, found, entry]

namespace Ohlcv

variable [Zero α] {ohlcv : Ohlcv α}

theorem candle_eq_some {i : ℕ} {time : ℤ} {candle : Candle α α} :
    ohlcv.candle i time = some candle ↔
      candle.time = time ∧ ohlcv.o.Padded i candle.open_ ∧
        ohlcv.h.Padded i candle.high ∧ ohlcv.l.Padded i candle.low ∧
        ohlcv.c.Padded i candle.close ∧
        ∃ volume, candle.volume = some volume ∧ ohlcv.v.Padded i volume := by
  simp only [Ohlcv.candle, Option.bind_eq_bind, Option.bind_eq_some_iff,
    Field.read_eq_some, Option.pure_def, Option.some.injEq]
  constructor
  · rintro ⟨open_, o, high, h, low, l, close, c, volume, v, rfl⟩
    exact ⟨rfl, o, h, l, c, volume, rfl, v⟩
  · obtain ⟨time', open_, high, low, close, volume⟩ := candle
    rintro ⟨rfl, o, h, l, c, volume, rfl, v⟩
    exact ⟨open_, o, high, h, low, l, close, c, volume, v, rfl⟩

theorem candles_of_mapM {candles : List (Candle α α)}
    (mapped : ohlcv.t.zipIdx.mapM (fun entry => ohlcv.candle entry.2 entry.1) =
      some candles) :
    candles.length = ohlcv.t.length ∧ ∀ i time, ohlcv.t[i]? = some time →
      ∃ candle, candles[i]? = some candle ∧ ohlcv.candle i time = some candle := by
  have each := Traversal.mapM_eq_some.mp mapped
  have length : candles.length = ohlcv.t.length := by
    rw [← each.length_eq, List.length_zipIdx]
  refine ⟨length, fun i time stamped => ?_⟩
  obtain ⟨inside, stamp⟩ := List.getElem?_eq_some_iff.mp stamped
  have inside' : i < candles.length := length ▸ inside
  have made := each.get (i := i) (by simpa using inside) inside'
  simp only [List.get_eq_getElem, List.getElem_zipIdx, Nat.zero_add, stamp] at made
  exact ⟨candles[i], List.getElem?_eq_getElem inside', made⟩

end Ohlcv

/-! ## Responses -/

variable [Zero α] [LinearOrder α]

/-- Where all four prices are there, the low and the high enclose the others. -/
def Ohlcv.Ordered (ohlcv : Ohlcv α) : Prop :=
  ∀ i open_ high low close, ohlcv.o.Has i open_ → ohlcv.h.Has i high →
    ohlcv.l.Has i low → ohlcv.c.Has i close →
      low ≤ open_ ∧ low ≤ close ∧ open_ ≤ high ∧ close ≤ high

def Ohlcv.Priced (ohlcv : Ohlcv α) (i : ℕ) : Prop :=
  (∃ open_, ohlcv.o.Has i open_) ∧ (∃ high, ohlcv.h.Has i high) ∧
    (∃ low, ohlcv.l.Has i low) ∧ ∃ close, ohlcv.c.Has i close

def Ohlcv.Complete (ohlcv : Ohlcv α) (i : ℕ) : Prop :=
  ohlcv.Priced i ∧ ∃ volume, ohlcv.v.Has i volume

def Candle.Enclosed (candle : Candle α α) : Prop :=
  candle.low ≤ candle.open_ ∧ candle.low ≤ candle.close ∧
    candle.open_ ≤ candle.high ∧ candle.close ≤ candle.high

def Response.candles : Response α → List (Candle α α)
  | .success _ candles _ => candles
  | .format_error => []

/-- The candles are in order, none is padded, and none that is complete is
missing. -/
structure Isolated (ohlcv : Ohlcv α) (candles : List (Candle α α)) : Prop where
  enclosed : ∀ candle ∈ candles, candle.Enclosed
  unpadded : ∀ candle ∈ candles, ∃ i : ℕ, ohlcv.t[i]? = some candle.time ∧
    ohlcv.Complete i ∧ ohlcv.candle i candle.time = some candle
  kept : ∀ (i : ℕ) time, ohlcv.t[i]? = some time → ohlcv.Complete i →
    ∃ candle ∈ candles, ohlcv.candle i time = some candle

theorem Ohlcv.enclosed {ohlcv : Ohlcv α} (ordered : ohlcv.Ordered) {i : ℕ} {time : ℤ}
    {candle : Candle α α} (made : ohlcv.candle i time = some candle)
    (priced : ohlcv.Priced i) : candle.Enclosed := by
  obtain ⟨_, o, h, l, c, _⟩ := Ohlcv.candle_eq_some.mp made
  obtain ⟨⟨open_, has_o⟩, ⟨high, has_h⟩, ⟨low, has_l⟩, ⟨close, has_c⟩⟩ := priced
  exact ordered i _ _ _ _ (o.of_has has_o) (h.of_has has_h) (l.of_has has_l)
    (c.of_has has_c)

/-- Every array is a list without a null below this index. -/
def Ohlcv.Filled (ohlcv : Ohlcv α) (length : ℕ) : Prop :=
  ohlcv.o.Filled length ∧ ohlcv.h.Filled length ∧ ohlcv.l.Filled length ∧
    ohlcv.c.Filled length ∧ ohlcv.v.Filled length

omit [LinearOrder α] in
theorem Ohlcv.candle_isSome {ohlcv : Ohlcv α} {length i : ℕ}
    (filled : ohlcv.Filled length) (inside : i < length) (time : ℤ) :
    (ohlcv.candle i time).isSome := by
  obtain ⟨o, h, l, c, v⟩ := filled
  obtain ⟨open_, o⟩ := Option.isSome_iff_exists.mp (Field.read_isSome o inside)
  obtain ⟨high, h⟩ := Option.isSome_iff_exists.mp (Field.read_isSome h inside)
  obtain ⟨low, l⟩ := Option.isSome_iff_exists.mp (Field.read_isSome l inside)
  obtain ⟨close, c⟩ := Option.isSome_iff_exists.mp (Field.read_isSome c inside)
  obtain ⟨volume, v⟩ := Option.isSome_iff_exists.mp (Field.read_isSome v inside)
  simp [Ohlcv.candle, o, h, l, c, v]

/-- A response that succeeds has one candle for each timestamp, made of the
entries of the arrays and of zeros beyond their ends. -/
theorem format_response_padded (ohlcv : Ohlcv α) (symbol : String)
    (ordered : ohlcv.Ordered) :
    (∀ candles count,
      format_response (.dict true (some ohlcv)) symbol = .success symbol candles count →
        candles.length = ohlcv.t.length ∧ count = candles.length ∧
        ∀ i time, ohlcv.t[i]? = some time →
          ∃ candle, candles[i]? = some candle ∧
            (candle.time = time ∧ ohlcv.o.Padded i candle.open_ ∧
              ohlcv.h.Padded i candle.high ∧ ohlcv.l.Padded i candle.low ∧
              ohlcv.c.Padded i candle.close ∧
              ∃ volume, candle.volume = some volume ∧ ohlcv.v.Padded i volume) ∧
            (ohlcv.Priced i → candle.Enclosed)) ∧
      (ohlcv.Filled ohlcv.t.length → ∃ candles count,
        format_response (.dict true (some ohlcv)) symbol =
          .success symbol candles count) := by
  constructor
  · intro candles count formatted
    cases mapped : ohlcv.t.zipIdx.mapM (fun entry => ohlcv.candle entry.2 entry.1) with
    | none => simp [format_response, mapped] at formatted
    | some made =>
        simp only [format_response, mapped, Response.success.injEq, true_and] at formatted
        obtain ⟨rfl, rfl⟩ := formatted
        obtain ⟨length, each⟩ := Ohlcv.candles_of_mapM mapped
        refine ⟨length, rfl, fun i time stamped => ?_⟩
        obtain ⟨candle, found, made⟩ := each i time stamped
        exact ⟨candle, found, Ohlcv.candle_eq_some.mp made,
          fun priced => Ohlcv.enclosed ordered made priced⟩
  · intro filled
    obtain ⟨candles, mapped⟩ : ∃ candles,
        ohlcv.t.zipIdx.mapM (fun entry => ohlcv.candle entry.2 entry.1) = some candles := by
      refine Traversal.mapM_isSome.mpr fun entry listed => ?_
      have inside := List.snd_lt_of_mem_zipIdx listed
      exact Ohlcv.candle_isSome filled inside entry.1
    exact ⟨candles, candles.length, by simp [format_response, mapped]⟩

/-- Two candles; of the second one the upstream has these opens and highs. -/
def two (open_ high : List (Option ℤ)) : Ohlcv ℤ where
  o := .array (some 100 :: open_)
  h := .array (some 102 :: high)
  l := .array [some 99, some 101]
  c := .array [some 101, some 103]
  v := .array [some 7, some 8]
  t := [1764561600, 1764561660]

theorem two_ordered {open_ high : List (Option ℤ)}
    (second : ∀ o h, open_[0]? = some (some o) → high[0]? = some (some h) →
      101 ≤ o ∧ o ≤ h ∧ 103 ≤ h) : (two open_ high).Ordered := by
  intro i o h l c has_o has_h has_l has_c
  simp only [two, Field.has_array] at has_o has_h has_l has_c
  match i with
  | 0 =>
      simp only [List.getElem?_cons_zero, Option.some.injEq] at has_o has_h has_l has_c
      omega
  | 1 =>
      obtain ⟨low, middle, top⟩ := second o h (by simpa using has_o) (by simpa using has_h)
      simp only [List.getElem?_cons_succ, List.getElem?_cons_zero, Option.some.injEq]
        at has_l has_c
      omega
  | i + 2 => simp at has_l

theorem format_response_padded_two :
    (two [some 102] [some 104]).Ordered ∧ ∃ candles count,
      format_response (.dict true (some (two [some 102] [some 104]))) "NIFTY" =
        .success "NIFTY" candles count := by
  have ordered : (two [some 102] [some 104]).Ordered := two_ordered (by simp)
  refine ⟨ordered, (format_response_padded _ "NIFTY" ordered).2 ?_⟩
  simp only [Ohlcv.Filled, two, Field.filled_array]
  decide

/-- A missing high becomes zero, and a null takes the first candle with it. -/
theorem not_isolated :
    ((two [some 102] []).Ordered ∧ ¬Isolated (two [some 102] [])
        (format_response (.dict true (some (two [some 102] []))) "NIFTY").candles) ∧
      (two [none] [some 104]).Ordered ∧ ¬Isolated (two [none] [some 104])
        (format_response (.dict true (some (two [none] [some 104]))) "NIFTY").candles := by
  refine ⟨⟨two_ordered (by simp), fun isolated => ?_⟩, two_ordered (by simp), fun isolated => ?_⟩
  · have padded : (⟨1764561660, 102, 0, 101, 103, some 8⟩ : Candle ℤ ℤ) ∈
        (format_response (.dict true (some (two [some 102] []))) "NIFTY").candles := by
      decide
    have enclosed := isolated.enclosed _ padded
    simp [Candle.Enclosed] at enclosed
  · have lost :
        (format_response (.dict true (some (two [none] [some 104]))) "NIFTY").candles = [] :=
      rfl
    obtain ⟨candle, emitted, _⟩ := isolated.kept 0 1764561600 rfl (by
      simp [Ohlcv.Complete, Ohlcv.Priced, two])
    rw [lost] at emitted
    exact nomatch emitted

end HftEngine.DhanTicks
