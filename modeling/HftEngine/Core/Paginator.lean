import HftEngine.Lib.Base64
import HftEngine.Lib.Pages
import HftEngine.Backend.Cached.Results

/-!
# Pages by cursor

A page is asked for with the cursor of the page before: the query is cut by the
cursor, one row more than the page is fetched, and the response has the next
cursor.  `Cached.encode` is the JSON that `json.dumps` with `default=str` writes.
-/

namespace HftEngine.Paginator

open Py Json Cached

/-! ## Cursors -/

/-- None where `json.dumps` raises an exception. -/
def encode_cursor (value : Object) : Option String :=
  (encode value).map (fun json => Base64.encodeText (dumps json))

/-- Any exception gives the empty dictionary. -/
def decode_cursor (cursor : String) : Value :=
  ((Base64.decodeText? cursor).bind (fun text => (loads text).toOption)).getD (.dict [])

/-- The truth of a value that is no JSON is given by its text. -/
def truthy (truth : String → Bool) : Object → Bool
  | .none => false
  | .bool b => b
  | .int n => n ≠ 0
  | .float x => !(x == 0)
  | .str s => !s.isEmpty
  | .list items => !items.isEmpty
  | .tuple items => !items.isEmpty
  | .dict entries => !entries.isEmpty
  | .other text => truth text

/-! ## Queries -/

/-- How the column of a row compares to a value, with none for unknown. -/
abbrev Column (Row : Type) := Row → Value → Option Ordering

/-- What is listed: the rows in the order of the query, the attribute of an item that
is its cursor, and the columns of the model. -/
structure Listing (Row : Type) where
  rows : List Row
  cursor_field : String
  value : Row → Object
  truth : String → Bool
  model : String → Option (Column Row)
  ascending : Bool
  page_size : ℕ
  total : Option ℕ

structure Response (Row : Type) where
  items : List Row
  page_size : ℕ
  has_next : Bool
  next_cursor : Option String
  total : Option ℕ

variable {Row : Type}

namespace Listing

variable (listing : Listing Row)

/-- The cursor after an item, if its field has a value that counts as true. -/
def next_cursor (last_item : Row) : Option (Option String) :=
  let cursor_value := listing.value last_item
  if truthy listing.truth cursor_value then
    (encode_cursor (.dict [(.str listing.cursor_field, cursor_value)])).map some
  else some none

def create_cursor_response (items : List Row) : Option (Response Row) := do
  let has_next := decide (listing.page_size < items.length)
  let result_items := items.take listing.page_size
  let next_cursor ←
    match has_next, result_items.getLast? with
    | true, some last_item => listing.next_cursor last_item
    | _, _ => some none
  some
    { items := result_items
      page_size := result_items.length
      has_next
      next_cursor
      total := listing.total }

/-- `column > value`, or `column < value` for descending rows.  A field that the model
has not is passed over. -/
def selects (row : Row) (entry : String × Value) : Bool :=
  match listing.model entry.1 with
  | some column =>
      column row entry.2 = some (if listing.ascending then .gt else .lt)
  | none => true

/-- None for a cursor that is no dictionary, which has no items. -/
def apply_cursor_to_query (cursor_data : Value) : Option (List Row) :=
  if cursor_data.truthy then
    match cursor_data with
    | .dict entries => some (listing.rows.filter (fun row => entries.all (listing.selects row)))
    | _ => none
  else some listing.rows

/-- The rows that a cursor leaves. -/
def query (cursor : Option String) : Option (List Row) :=
  listing.apply_cursor_to_query ((cursor.map decode_cursor).getD (.dict []))

/-- The page for a cursor, with one row more fetched. -/
def request (cursor : Option String) : Option (Response Row) := do
  listing.create_cursor_response ((← listing.query cursor).take (listing.page_size + 1))

/-- What a client has seen when it has followed the cursors until there is no next
page. -/
def traverse : ℕ → Option String → Option (List Row)
  | 0, _ => none
  | fuel + 1, cursor => do
      let response ← listing.request cursor
      if response.has_next then
        (response.items ++ ·) <$> traverse fuel response.next_cursor
      else some response.items

end Listing

/-! ## What a client sees -/

/-- A client that follows the cursors sees every row once. -/
def Visits (listing : Listing Row) : Prop :=
  ∃ fuel visited, listing.traverse fuel none = some visited ∧ visited.Perm listing.rows

/-- The cursor of a value is read as this value. -/
def RoundTrips (cursor_field : String) (value : Object) : Prop :=
  ∃ cursor, encode_cursor (.dict [(.str cursor_field, value)]) = some cursor ∧
    Object.of (decode_cursor cursor) = .dict [(.str cursor_field, value)]

def Complete (listing : Listing Row) : Prop :=
  Visits listing ∧ ∀ row ∈ listing.rows, RoundTrips listing.cursor_field (listing.value row)

section Order

variable {K : Type} [LinearOrder K]

def precedes (ascending : Bool) (key : Row → K) (a b : Row) : Prop :=
  if ascending then key a < key b else key b < key a

instance (ascending : Bool) (key : Row → K) : DecidableRel (precedes ascending key) :=
  fun a b => inferInstanceAs
    (Decidable (if ascending then key a < key b else key b < key a))

/-- The rows are sorted by the cursor field, and the database compares its column to a
value that a row has as the two rows compare. -/
structure SortedBy (listing : Listing Row) (key : Row → K) : Prop where
  sorted : listing.rows.Pairwise (fun a b => ¬precedes listing.ascending key b a)
  compared : ∃ column, listing.model listing.cursor_field = some column ∧
    ∀ row ∈ listing.rows, ∀ last ∈ listing.rows, ∀ value, value.truthy = true →
      Object.of value = listing.value last →
        column row value = some (compare (key row) (key last))

/-- A page boundary at which the cursor goes on with the next row. -/
def GoesOn (listing : Listing Row) (key : Row → K) (last next : Row) : Prop :=
  truthy listing.truth (listing.value last) = true ∧
    precedes listing.ascending key last next

end Order

/-! ## Cursors are read back -/

theorem decode_encode {value : Object} {json : Value} (encoded : encode value = some json) :
    ∃ cursor, encode_cursor value = some cursor ∧ decode_cursor cursor = normal json := by
  refine ⟨_, congrArg (Option.map _) encoded, ?_⟩
  rw [decode_cursor, Base64.decodeText?_encodeText, Option.bind_some, loads_dumps_normal]
  rfl

theorem encode_field (name : String) {value : Object} {json : Value}
    (encoded : encode value = some json) :
    encode (.dict [(.str name, value)]) = some (.dict [(name, json)]) := by
  simp [encode, encodeEntries, encodeEntry, Key.text, encoded]

/-- A cursor is read back exactly where its value is plain. -/
theorem roundTrips_iff {name : String} {value : Object} :
    RoundTrips name value ↔ Plain value := by
  constructor
  · rintro ⟨cursor, encoded, read⟩
    obtain ⟨json, found, -⟩ := Option.map_eq_some_iff.mp encoded
    obtain ⟨same_cursor, again, decoded⟩ := decode_encode found
    obtain rfl := Option.some.inj (again.symm.trans encoded)
    rw [decoded] at read
    obtain ⟨plain, distinct, same⟩ := (of_normal_eq_iff found).mp read
    cases plain with
    | dict entries =>
        cases entries with
        | nil => simp [Object.of, Object.ofEntries] at same
        | cons entry entries =>
            obtain ⟨key, held⟩ := entry
            simp only [Object.of, Object.ofEntries, Object.ofEntry, Object.dict.injEq,
              List.cons.injEq, Prod.mk.injEq] at same
            simp only [DistinctKeys, DistinctKeysEntries, DistinctKeysEntry] at distinct
            exact ⟨held, distinct.2.1, same.1.2⟩
    | _ => simp [Object.of] at same
  · rintro ⟨plain, distinct, rfl⟩
    have encoded := encode_field name (encode_of plain)
    obtain ⟨cursor, written, decoded⟩ := decode_encode encoded
    refine ⟨cursor, written, ?_⟩
    have whole : DistinctKeys (.dict [(name, plain)]) := by
      simp [DistinctKeys, DistinctKeysEntries, DistinctKeysEntry, distinct]
    rw [decoded, normal_of_distinct _ whole]
    rfl

theorem truthy_of (truth : String → Bool) (value : Value) :
    truthy truth (Object.of value) = value.truthy := by
  cases value with
  | list items => cases items <;> rfl
  | dict entries => cases entries <;> rfl
  | _ => rfl

/-! ## Requests -/

section Requests

variable {listing : Listing Row} {cursor : Option String}

theorem query_none : listing.query none = some listing.rows := rfl

/-- A page with nothing behind it is the last one. -/
theorem traverse_last {rest : List Row} (asked : listing.query cursor = some rest)
    (short : rest.length ≤ listing.page_size) (fuel : ℕ) :
    listing.traverse (fuel + 1) cursor = some rest := by
  have all : rest.take (listing.page_size + 1) = rest := List.take_of_length_le (by omega)
  have items : rest.take listing.page_size = rest := List.take_of_length_le short
  have ended : ¬ listing.page_size < rest.length := by omega
  simp [Listing.traverse, Listing.request, Listing.create_cursor_response, asked, all,
    items, ended]

theorem create_full {page : List Row} {last next : Row}
    (full : (page ++ [last]).length = listing.page_size) :
    listing.create_cursor_response ((page ++ [last]) ++ [next]) =
      (listing.next_cursor last).map (fun found =>
        { items := page ++ [last]
          page_size := listing.page_size
          has_next := true
          next_cursor := found
          total := listing.total }) := by
  have items : ((page ++ [last]) ++ [next]).take listing.page_size = page ++ [last] := by
    rw [← full, List.take_left]
  have goes_on : listing.page_size < ((page ++ [last]) ++ [next]).length := by
    rw [List.length_append, full]
    simp
  rw [Listing.create_cursor_response, items, decide_eq_true goes_on, List.getLast?_concat,
    full]
  dsimp only
  cases listing.next_cursor last with
  | none => rfl
  | some found => rfl

/-- A full page is followed by what its cursor leads to. -/
theorem traverse_page {page more : List Row} {last next : Row}
    (asked : listing.query cursor = some (page ++ last :: next :: more))
    (full : (page ++ [last]).length = listing.page_size) (fuel : ℕ) :
    listing.traverse (fuel + 1) cursor = (listing.next_cursor last).bind
      (fun found => (listing.traverse fuel found).map ((page ++ [last]) ++ ·)) := by
  have split : page ++ last :: next :: more = (page ++ [last]) ++ next :: more := by simp
  have fetched : (page ++ last :: next :: more).take (listing.page_size + 1) =
      (page ++ [last]) ++ [next] := by
    rw [split, ← full, List.take_length_add_append]
    rfl
  have requested : listing.request cursor =
      listing.create_cursor_response ((page ++ [last]) ++ [next]) := by
    rw [Listing.request, asked]
    exact congrArg listing.create_cursor_response fetched
  rw [Listing.traverse, requested, create_full full]
  cases listing.next_cursor last with
  | none => rfl
  | some found => rfl

end Requests

/-! ## Following the cursors -/

section Follow

variable {K : Type} [LinearOrder K] {listing : Listing Row} {key : Row → K}

theorem ordered_precedes (ascending : Bool) (key : Row → K) :
    Pages.Ordered (precedes ascending key) where
  irrefl a := by simp [precedes]
  trans a b c := by
    cases ascending with
    | true => exact fun first second => first.trans_le (not_lt.mp second)
    | false => exact fun first second => (not_lt.mp second).trans_lt first

/-- The cursor of a plain value that counts as true leaves what comes after its row. -/
theorem next_cursor_query (sorted : SortedBy listing key) {last : Row}
    (member : last ∈ listing.rows) (plain : Plain (listing.value last))
    (counts : truthy listing.truth (listing.value last) = true) :
    ∃ cursor, listing.next_cursor last = some (some cursor) ∧
      listing.query (some cursor) =
        some (listing.rows.filter (fun row => precedes listing.ascending key last row)) := by
  obtain ⟨json, distinct, same⟩ := plain
  have value_true : json.truthy = true := by
    rw [← truthy_of listing.truth, same, counts]
  have encoded : encode (listing.value last) = some json := by
    rw [← same, encode_of]
  obtain ⟨cursor, written, decoded⟩ :=
    decode_encode (encode_field listing.cursor_field encoded)
  have whole : DistinctKeys (.dict [(listing.cursor_field, json)]) := by
    simp [DistinctKeys, DistinctKeysEntries, DistinctKeysEntry, distinct]
  rw [normal_of_distinct _ whole] at decoded
  obtain ⟨column, has_column, compared⟩ := sorted.compared
  refine ⟨cursor, ?_, ?_⟩
  · rw [Listing.next_cursor, if_pos counts, written]
    rfl
  · simp only [Listing.query, Option.map_some, Option.getD_some, decoded,
      Listing.apply_cursor_to_query]
    have filled : (Value.dict [(listing.cursor_field, json)]).truthy = true := rfl
    rw [if_pos filled]
    apply congrArg some
    apply List.filter_congr
    intro row present
    simp only [List.all_cons, List.all_nil, Bool.and_true, Listing.selects, has_column,
      compared row present last member json value_true same, precedes]
    cases listing.ascending with
    | true => simp [compare_gt_iff_gt]
    | false => simp [compare_lt_iff_lt]

/-- More steps change nothing about a client that is through. -/
theorem traverse_succ {fuel : ℕ} {cursor : Option String} {visited : List Row}
    (run : listing.traverse fuel cursor = some visited) :
    listing.traverse (fuel + 1) cursor = some visited := by
  induction fuel generalizing cursor visited with
  | zero => cases run
  | succ fuel ih =>
      rw [Listing.traverse] at run ⊢
      obtain ⟨response, asked, run⟩ := Option.bind_eq_some_iff.mp run
      apply Option.bind_eq_some_iff.mpr
      refine ⟨response, asked, ?_⟩
      split at run
      case isTrue goes_on =>
        obtain ⟨later, rest, rfl⟩ := Option.map_eq_some_iff.mp run
        rw [if_pos goes_on, ih rest]
        rfl
      case isFalse ended =>
        rw [if_neg ended]
        exact run

/-- A client that is through sees no more than the rows that its cursor leaves, and all
of them only when every page boundary goes on; or it was at the first page again. -/
theorem traverse_boundaries (sorted : SortedBy listing key) (positive : 0 < listing.page_size)
    (plain : ∀ row ∈ listing.rows, Plain (listing.value row)) {fuel : ℕ}
    {cursor : Option String} {rest visited : List Row}
    (asked : listing.query cursor = some rest) (tail : rest <:+ listing.rows)
    (run : listing.traverse fuel cursor = some visited) :
    (∃ less < fuel, (listing.traverse less none).isSome) ∨
      (visited.length ≤ rest.length ∧ (visited.length = rest.length →
        Pages.Boundaries (GoesOn listing key) listing.page_size rest)) := by
  induction fuel generalizing cursor rest visited with
  | zero => cases run
  | succ fuel ih =>
      obtain short | ⟨page, last, next, more, rfl, full⟩ := Pages.page_cases positive rest
      · rw [traverse_last asked short] at run
        obtain rfl := Option.some.inj run
        exact .inr ⟨le_rfl, fun _ => Pages.boundaries_short short⟩
      · rw [traverse_page asked full] at run
        obtain ⟨found, next_found, followed⟩ := Option.bind_eq_some_iff.mp run
        obtain ⟨later, later_run, rfl⟩ := Option.map_eq_some_iff.mp followed
        obtain ⟨done, rows⟩ := tail
        have member : last ∈ listing.rows := by
          rw [← rows]
          simp
        by_cases counts : truthy listing.truth (listing.value last) = true
        · obtain ⟨cursor, written, left⟩ :=
            next_cursor_query sorted member (plain last member) counts
          obtain rfl := Option.some.inj (written.symm.trans next_found)
          have behind : listing.rows.filter (fun row => precedes listing.ascending key last row) =
              (next :: more).filter (fun row => precedes listing.ascending key last row) := by
            have whole := sorted.sorted
            rw [← rows, ← List.append_assoc] at whole ⊢
            exact Pages.after_eq (ordered_precedes _ _) whole
          obtain ⟨less, fewer, again⟩ | ⟨bound, boundaries⟩ :=
            ih left (Pages.after_suffix (ordered_precedes _ _) last sorted.sorted) later_run
          · exact .inl ⟨less, by omega, again⟩
          · rw [behind] at bound boundaries
            have fewer := List.length_filter_le
              (fun row => decide (precedes listing.ascending key last row)) (next :: more)
            refine .inr ⟨by simp at bound fewer ⊢; omega, ?_⟩
            intro same
            have every : ((next :: more).filter
                (fun row => precedes listing.ascending key last row)).length =
                  (next :: more).length := by
              simp at same bound fewer ⊢
              omega
            have all := List.length_filter_eq_length_iff.mp every
            have kept := List.filter_eq_self.mpr all
            rw [kept] at boundaries
            rw [Pages.boundaries_page full]
            refine ⟨⟨counts, by simpa using all next List.mem_cons_self⟩, boundaries ?_⟩
            simp at same ⊢
            omega
        · rw [Listing.next_cursor, if_neg counts] at next_found
          obtain rfl := Option.some.inj next_found
          exact .inl ⟨fuel, by omega, by rw [later_run]; rfl⟩

/-- Where every page boundary goes on, a client sees the rows that its cursor leaves. -/
theorem traverse_all (sorted : SortedBy listing key) (positive : 0 < listing.page_size)
    (plain : ∀ row ∈ listing.rows, Plain (listing.value row)) {cursor : Option String}
    {rest : List Row} (asked : listing.query cursor = some rest)
    (tail : rest <:+ listing.rows)
    (boundaries : Pages.Boundaries (GoesOn listing key) listing.page_size rest) :
    ∃ fuel, listing.traverse fuel cursor = some rest := by
  induction length_eq : rest.length using Nat.strong_induction_on generalizing cursor rest with
  | _ length ih =>
      obtain short | ⟨page, last, next, more, rfl, full⟩ := Pages.page_cases positive rest
      · exact ⟨1, traverse_last asked short 0⟩
      · rw [Pages.boundaries_page full] at boundaries
        obtain ⟨⟨counts, behind⟩, later⟩ := boundaries
        have later_tail : next :: more <:+ listing.rows := by
          apply List.IsSuffix.trans _ tail
          exact ⟨page ++ [last], by simp⟩
        have member : last ∈ listing.rows := tail.subset (by simp)
        obtain ⟨cursor, written, left⟩ :=
          next_cursor_query sorted member (plain last member) counts
        obtain ⟨done, rows⟩ := tail
        have whole := sorted.sorted
        rw [← rows, ← List.append_assoc] at whole
        have ahead := (List.pairwise_append.mp whole).2.1
        have kept : listing.rows.filter (fun row => precedes listing.ascending key last row) =
            next :: more := by
          rw [← rows, ← List.append_assoc, Pages.after_eq (ordered_precedes _ _) whole]
          exact Pages.after_first (ordered_precedes _ _) behind (List.pairwise_cons.mp ahead).2
        rw [kept] at left
        have fewer : (next :: more).length < length := by
          simp only [← length_eq, List.length_append, List.length_cons]
          omega
        obtain ⟨fuel, run⟩ := ih _ fewer left later_tail later rfl
        refine ⟨fuel + 1, ?_⟩
        rw [traverse_page asked full, written, Option.bind_some, run]
        simp

theorem boundaries_of_complete (sorted : SortedBy listing key)
    (positive : 0 < listing.page_size) (complete : Complete listing) :
    (∀ row ∈ listing.rows, Plain (listing.value row)) ∧
      Pages.Boundaries (GoesOn listing key) listing.page_size listing.rows := by
  obtain ⟨⟨fuel, visited, run, every⟩, read⟩ := complete
  have plain : ∀ row ∈ listing.rows, Plain (listing.value row) :=
    fun row member => roundTrips_iff.mp (read row member)
  refine ⟨plain, ?_⟩
  -- in the fewest steps the client has not been at the first page again
  have through : ∃ fuel, (listing.traverse fuel none).isSome := ⟨fuel, by rw [run]; rfl⟩
  obtain ⟨least, found⟩ := Option.isSome_iff_exists.mp (Nat.find_spec through)
  obtain ⟨less, fewer, again⟩ | ⟨-, boundaries⟩ :=
    traverse_boundaries sorted positive plain query_none List.suffix_rfl found
  · exact absurd again (Nat.find_min through fewer)
  · have still : ∀ more, listing.traverse (Nat.find through + more) none = some least := by
      intro more
      induction more with
      | zero => exact found
      | succ more ih => exact traverse_succ ih
    have enough : Nat.find through ≤ fuel := Nat.find_min' through (by rw [run]; rfl)
    have same := still (fuel - Nat.find through)
    rw [Nat.add_sub_cancel' enough, run] at same
    obtain rfl := Option.some.inj same
    exact boundaries every.length_eq

/-- The cursors lead through all rows exactly when the values are plain and every page
boundary goes on. -/
theorem complete_iff (sorted : SortedBy listing key) (positive : 0 < listing.page_size) :
    Complete listing ↔ (∀ row ∈ listing.rows, Plain (listing.value row)) ∧
      Pages.Boundaries (GoesOn listing key) listing.page_size listing.rows := by
  constructor
  · exact boundaries_of_complete sorted positive
  · rintro ⟨plain, boundaries⟩
    obtain ⟨fuel, run⟩ :=
      traverse_all sorted positive plain query_none List.suffix_rfl boundaries
    exact ⟨⟨fuel, _, run, .rfl⟩, fun row member => roundTrips_iff.mpr (plain row member)⟩

end Follow

def integer_column : Column ℤ := fun row value =>
  match value with
  | .int n => some (compare row n)
  | _ => none

/-- A listing of integers, which are their own cursors. -/
def integers (rows : List ℤ) (page_size : ℕ) : Listing ℤ where
  rows
  cursor_field := "id"
  value := .int
  truth _ := true
  model name := if name = "id" then some integer_column else none
  ascending := true
  page_size
  total := none

theorem sortedBy_integers {rows : List ℤ} {page_size : ℕ} (sorted : rows.Pairwise (· ≤ ·)) :
    SortedBy (integers rows page_size) id where
  sorted := sorted.imp (fun le => by simpa [precedes, integers] using le)
  compared := by
    refine ⟨integer_column, by simp [integers], ?_⟩
    intro row _ last _ value _ same
    cases value with
    | int n =>
        obtain rfl : n = last := Object.int.inj same
        rfl
    | _ => simp [Object.of, integers] at same

theorem complete_iff_three : Complete (integers [1, 2, 3] 2) := by
  apply (complete_iff (sortedBy_integers (by decide)) (by decide)).mpr
  constructor
  · intro row _
    exact ⟨.int row, trivial, rfl⟩
  · have first : GoesOn (integers [1, 2, 3] 2) id 2 3 := ⟨rfl, by decide⟩
    have full : ([1] ++ [2] : List ℤ).length = 2 := rfl
    exact (Pages.boundaries_page full).mpr ⟨first, Pages.boundaries_short (by decide)⟩

/-- A row whose value is 0 ends a page without a cursor, and the second of two rows with
one value is passed over. -/
theorem not_complete_zero_and_tie :
    ¬Complete (integers [0, 1] 1) ∧ ¬Complete (integers [1, 1] 1) := by
  constructor
  · intro complete
    have goes_on := (boundaries_of_complete (sortedBy_integers (by decide)) (by decide)
      complete).2 1 0 1 (by decide) rfl rfl
    exact absurd goes_on.1 (by decide)
  · intro complete
    have goes_on := (boundaries_of_complete (sortedBy_integers (by decide)) (by decide)
      complete).2 1 1 1 (by decide) rfl rfl
    exact absurd goes_on.2 (by decide)

end HftEngine.Paginator
