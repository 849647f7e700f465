import HftEngine.Lib.Json.Write

/-!
# JSON lines

Values written compactly, one on each line.  No line break stands within what is
written of a value, so that the lines are the values again.
-/

namespace Json

open Py Binary64

/-- Each value on a line of its own. -/
def dumpLines (values : List Value) : String :=
  String.ofList (values.flatMap (fun value => writeWith [] value ++ ['\n']))

/-- The values of the lines; an empty line is passed over. -/
def loadLines (text : String) : Except Error (List Value) :=
  ((text.toList.splitOn '\n').filter (fun line => !line.isEmpty)).mapM
    (fun line => loads (String.ofList line))

/-! ## No line break within a value -/

theorem newline_not_mem_atom {text : List Char} {value : Value}
    (read : atom? text = some value) : '\n' ∉ text := by
  intro member
  have inside := atom?_chars read '\n' member
  exact absurd inside (by decide)

theorem newline_ne_digitChar (n : ℕ) : '\n' ≠ Nat.digitChar n := by
  by_cases digit : n < 16
  · interval_cases n <;> decide
  · rw [Nat.digitChar_eq_star.mpr (by omega)]
    decide

theorem newline_not_mem_unitText (unit : ℕ) : '\n' ∉ unitText unit := by
  simp [unitText, newline_ne_digitChar]

theorem newline_not_mem_escapeChar (c : Char) : '\n' ∉ escapeChar c := by
  rcases escapeChar_cases c with ⟨escape, -, escaped, written⟩ |
    ⟨-, -, visible, written⟩ | ⟨-, written⟩ | ⟨-, written⟩
  · rw [written, List.mem_pair, not_or]
    refine ⟨by decide, ?_⟩
    rintro rfl
    cases escaped
  · rw [written, List.mem_singleton]
    rintro rfl
    exact absurd visible (by decide)
  · rw [written]
    exact newline_not_mem_unitText _
  · rw [written, List.mem_append, not_or]
    exact ⟨newline_not_mem_unitText _, newline_not_mem_unitText _⟩

theorem newline_not_mem_quote (text : String) : '\n' ∉ quote text := by
  simp [quote, newline_not_mem_escapeChar]

section Gap

variable {gap : List Char}

mutual

theorem newline_not_mem_write (free : '\n' ∉ gap) (value : Value) :
    '\n' ∉ writeWith gap value := by
  cases value with
  | null => exact newline_not_mem_atom (show atom? "null".toList = some .null from rfl)
  | bool b =>
      cases b
      · exact newline_not_mem_atom (show atom? "false".toList = some (.bool false) from rfl)
      · exact newline_not_mem_atom (show atom? "true".toList = some (.bool true) from rfl)
  | int n => exact newline_not_mem_atom (atom?_of_number? (number?_intText n))
  | float x => exact newline_not_mem_atom (atom?_floatText x)
  | str s => exact newline_not_mem_quote s
  | list items =>
      cases items with
      | nil => simp [writeWith]
      | cons first items =>
          simp [writeWith, newline_not_mem_write free first,
            newline_not_mem_writeItems free items]
  | dict entries =>
      cases entries with
      | nil => simp [writeWith]
      | cons first entries =>
          simp [writeWith, newline_not_mem_writeEntry free first,
            newline_not_mem_writeEntries free entries]
termination_by structural value

theorem newline_not_mem_writeItems (free : '\n' ∉ gap) (items : List Value) :
    '\n' ∉ writeItemsWith gap items := by
  cases items with
  | nil => simp [writeItemsWith]
  | cons item items =>
      simp [writeItemsWith, free, newline_not_mem_write free item,
        newline_not_mem_writeItems free items]
termination_by structural items

theorem newline_not_mem_writeEntry (free : '\n' ∉ gap) (entry : String × Value) :
    '\n' ∉ writeEntryWith gap entry := by
  obtain ⟨key, value⟩ := entry
  simp [writeEntryWith, free, newline_not_mem_quote key, newline_not_mem_write free value]
termination_by structural entry

theorem newline_not_mem_writeEntries (free : '\n' ∉ gap) (entries : Dict) :
    '\n' ∉ writeEntriesWith gap entries := by
  cases entries with
  | nil => simp [writeEntriesWith]
  | cons entry entries =>
      simp [writeEntriesWith, free, newline_not_mem_writeEntry free entry,
        newline_not_mem_writeEntries free entries]
termination_by structural entries

end

end Gap

/-! ## Lines read back -/

/-- Closed lines are what their text is split into, but for the empty end. -/
theorem splitOn_closed {lines : List (List Char)} (free : ∀ line ∈ lines, '\n' ∉ line) :
    (lines.flatMap (fun line => line ++ ['\n'])).splitOn '\n' = lines ++ [[]] := by
  induction lines with
  | nil => rfl
  | cons line lines ih =>
      obtain ⟨first, others⟩ := List.forall_mem_cons.mp free
      rw [List.flatMap_cons, List.append_assoc, List.singleton_append,
        List.splitOn_append_cons_self_of_not_mem first, ih others]
      rfl

theorem mapM_loads {values : List Value} (distinct : ∀ value ∈ values, DistinctKeys value) :
    (values.map (writeWith [])).mapM (fun line => loads (String.ofList line)) =
      .ok values := by
  induction values with
  | nil => rfl
  | cons value values ih =>
      obtain ⟨first, others⟩ := List.forall_mem_cons.mp distinct
      have head : loads (String.ofList (writeWith [] value)) = .ok value :=
        loads_dumpsCompact value first
      rw [List.map_cons, List.mapM_cons, head, ih others]
      rfl

theorem loadLines_dumpLines {values : List Value}
    (distinct : ∀ value ∈ values, DistinctKeys value) :
    loadLines (dumpLines values) = .ok values := by
  have free : ∀ line ∈ values.map (writeWith []), '\n' ∉ line := by
    intro line member
    obtain ⟨value, -, rfl⟩ := List.mem_map.mp member
    exact newline_not_mem_write List.not_mem_nil value
  have split : (dumpLines values).toList.splitOn '\n' = values.map (writeWith []) ++ [[]] := by
    rw [dumpLines, String.toList_ofList, ← splitOn_closed free, List.flatMap_map]
  have kept : (values.map (writeWith [])).filter (fun line => !line.isEmpty) =
      values.map (writeWith []) := by
    rw [List.filter_eq_self]
    intro line member
    obtain ⟨value, -, rfl⟩ := List.mem_map.mp member
    obtain ⟨c, rest, text, -⟩ := writeWith_head [] value
    rw [text]
    rfl
  rw [loadLines, split, List.filter_append, kept]
  simpa using mapM_loads distinct

end Json
