import HftEngine.Lib.Python.Text
import HftEngine.Lib.Python.Value
import HftEngine.Lib.Removal

/-!
# Sanitising a text

`sanitize_sql_input`, whose loop removes each dangerous sequence in one turn.  A turn
can pull together a sequence whose turn has come before.
-/

namespace HftEngine.Core.Validation

open Py Removal

/-- `c.isspace()` -/
def isspace (c : Char) : Bool :=
  (9 ≤ c.toNat && c.toNat ≤ 13) || (28 ≤ c.toNat && c.toNat ≤ 32) ||
    wideSpaces.contains c.toNat

def dangerous_chars : List (List Char) :=
  [[';'], ['-', '-'], ['/', '*'], ['*', '/'], ['x', 'p', '_'], ['s', 'p', '_'], ['@', '@']]

def sanitize_sql_input : Value → Value
  | .str value =>
      .str (String.ofList (trim isspace (removeAll dangerous_chars value.toList)))
  | value => value

/-- No dangerous sequence is left and a second call changes nothing. -/
def Sanitized (value : String) : Prop :=
  ∃ output, sanitize_sql_input (.str value) = .str output ∧
    (∀ char ∈ dangerous_chars, ¬ char <:+: output.toList) ∧
    sanitize_sql_input (.str output) = .str output

/-! ## What one sequence can come from -/

theorem dangerous_filled : ∀ char ∈ dangerous_chars, char ≠ [] := by
  decide

theorem dangerous_solid {char : List Char} (dangerous : char ∈ dangerous_chars) :
    ∀ c ∈ char, isspace c = false := by
  have solid : dangerous_chars.all (fun char => char.all (fun c => !isspace c)) = true := by
    decide
  simpa using List.all_eq_true.mp solid char dangerous

/-- But for the two ends of a comment, no later sequence overlaps an earlier one. -/
theorem dangerous_apart :
    dangerous_chars.Pairwise (fun char later => char ≠ ['/', '*'] → Apart later char) := by
  decide

theorem comment_apart :
    dangerous_chars.Pairwise (fun char later => char = ['*', '/'] → Apart later ['/', '*']) := by
  decide

theorem sanitized_iff_free (value : String) :
    Sanitized value ↔
      ∀ char ∈ dangerous_chars, ¬ char <:+: removeAll dangerous_chars value.toList := by
  have trimmed : ∀ char ∈ dangerous_chars, ∀ text,
      char <:+: trim isspace text ↔ char <:+: text :=
    fun char dangerous text =>
      infix_trim_iff (dangerous_filled char dangerous) (dangerous_solid dangerous)
  constructor
  · rintro ⟨output, returned, free, -⟩ char dangerous
    have text : output.toList = trim isspace (removeAll dangerous_chars value.toList) := by
      simp only [sanitize_sql_input, Value.str.injEq] at returned
      rw [← returned, String.toList_ofList]
    have missing := free char dangerous
    rw [text, trimmed char dangerous] at missing
    exact missing
  · intro free
    refine ⟨_, rfl, fun char dangerous => ?_, ?_⟩
    · rw [String.toList_ofList, trimmed char dangerous]
      exact free char dangerous
    · have unchanged : removeAll dangerous_chars
          (trim isspace (removeAll dangerous_chars value.toList)) =
            trim isspace (removeAll dangerous_chars value.toList) :=
        removeAll_of_not_infix (fun char dangerous => by
          rw [trimmed char dangerous]
          exact free char dangerous)
      rw [sanitize_sql_input, String.toList_ofList, unchanged, trim_trim]

/-! ## Where the promise is kept -/

/-- No sequence is pulled together in its own turn or a later one; but a comment's start
counts from the turn of the comment's end on, which may take it apart. -/
def Harmless (value : String) : Prop :=
  (∀ earlier char later, dangerous_chars = earlier ++ char :: later → char ≠ ['/', '*'] →
    ¬ PulledTogether char (char :: later) (removeAll earlier value.toList)) ∧
  ∀ earlier later, dangerous_chars = earlier ++ ['*', '/'] :: later →
    ¬ [some '/', some '*'] <:+: cut ['*', '/'] (removeAll earlier value.toList) ∧
    ¬ PulledTogether ['/', '*'] (['*', '/'] :: later) (removeAll earlier value.toList)

section Turns

variable {earlier later : List (List Char)} {char : List Char}
  (turns : dangerous_chars = earlier ++ char :: later)
include turns

theorem forall_later {R : List Char → List Char → Prop} (pairs : dangerous_chars.Pairwise R) :
    ∀ next ∈ later, next ≠ [] ∧ R char next := by
  intro next member
  have dangerous : next ∈ dangerous_chars := by
    rw [turns]
    exact List.mem_append_right _ (List.mem_cons_of_mem _ member)
  rw [turns] at pairs
  exact ⟨dangerous_filled next dangerous,
    (List.pairwise_cons.mp (List.pairwise_append.mp pairs).2.1).1 next member⟩

theorem infix_removeAll_char_iff (other : char ≠ ['/', '*']) (text : List Char) :
    char <:+: removeAll dangerous_chars text ↔
      PulledTogether char (char :: later) (removeAll earlier text) := by
  have filled : char ≠ [] := dangerous_filled char (by simp [turns])
  have apart := forall_later turns dangerous_apart
  rw [turns]
  exact infix_removeAll_self_iff filled
    (fun next member => (apart next member).imp_right (fun apart => apart other)) earlier text

theorem infix_removeAll_comment_iff (ends : char = ['*', '/']) (text : List Char) :
    ['/', '*'] <:+: removeAll dangerous_chars text ↔
      [some '/', some '*'] <:+: cut char (removeAll earlier text) ∨
        PulledTogether ['/', '*'] (char :: later) (removeAll earlier text) := by
  have apart := forall_later turns comment_apart
  rw [turns]
  exact infix_removeAll_append_iff (List.cons_ne_nil _ _)
    (fun next member => (apart next member).imp_right (fun apart => apart ends)) earlier text

end Turns

/-- The promise is kept where the turns are harmless, and nowhere else. -/
theorem sanitized_iff_harmless (value : String) : Sanitized value ↔ Harmless value := by
  rw [sanitized_iff_free]
  constructor
  · intro free
    constructor
    · intro earlier char later turns other
      rw [← infix_removeAll_char_iff turns other]
      exact free char (by simp [turns])
    · intro earlier later turns
      rw [← not_or, ← infix_removeAll_comment_iff turns rfl]
      exact free ['/', '*'] (by decide)
  · rintro ⟨others, comment⟩ char dangerous
    by_cases start : char = ['/', '*']
    · have ending : ['*', '/'] ∈ dangerous_chars := by decide
      obtain ⟨earlier, later, turns⟩ := List.append_of_mem ending
      rw [start, infix_removeAll_comment_iff turns rfl, not_or]
      exact comment earlier later turns
    · obtain ⟨earlier, later, turns⟩ := List.append_of_mem dangerous
      rw [infix_removeAll_char_iff turns start]
      exact others earlier char later turns start

theorem not_sanitized_nested :
    sanitize_sql_input (.str "xsp_p_") = .str "xp_" ∧
      sanitize_sql_input (.str "xp_") = .str "" ∧ ¬ Sanitized "xsp_p_" := by
  refine ⟨by decide, by decide, ?_⟩
  rintro ⟨output, returned, free, -⟩
  have nested : sanitize_sql_input (.str "xsp_p_") = .str "xp_" := by decide
  obtain rfl := Value.str.inj (nested.symm.trans returned)
  exact free ['x', 'p', '_'] (by decide) (by decide)

-- A turn can also pull together a sequence that the first turns look for.
example : sanitize_sql_input (.str " -/*- drop//**table") = .str "-- drop/*table" := by
  decide

end HftEngine.Core.Validation
