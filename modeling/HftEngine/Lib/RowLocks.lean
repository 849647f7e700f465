import Mathlib.Logic.Function.Basic

/-!
# Rows under locks

A row that a transaction writes is locked until the transaction ends, and the others see
it as it was committed.  So what a transaction has found in a row that it locks is still
there when it commits.
-/

namespace RowLocks

variable {Id Key Row : Type*}

/-- The rows that have been committed, the holders of the locks and what they have
written. -/
structure Table (Id Key Row : Type*) where
  rows : Key → Option Row := fun _ => none
  holder : Key → Option Id := fun _ => none
  written : Key → Option Row := fun _ => none

namespace Table

section Operations

variable [DecidableEq Id] (table : Table Id Key Row) (id : Id)

/-- No other transaction has locked the row. -/
def Free (key : Key) : Prop :=
  table.holder key = none ∨ table.holder key = some id

instance (key : Key) : Decidable (table.Free id key) :=
  inferInstanceAs (Decidable (_ ∨ _))

/-- What the transaction sees. -/
def view (key : Key) : Option Row :=
  if table.holder key = some id then table.written key else table.rows key

def write [DecidableEq Key] (key : Key) (row : Option Row) : Table Id Key Row :=
  { table with
    holder := Function.update table.holder key (some id)
    written := Function.update table.written key row }

/-- The end of a transaction that is rolled back. -/
def release : Table Id Key Row :=
  { table with
    holder := fun key => if table.holder key = some id then none else table.holder key }

def commit : Table Id Key Row :=
  { table.release id with rows := table.view id }

end Operations

/-- The transaction has locked no row. -/
def Idle (table : Table Id Key Row) (id : Id) : Prop :=
  ∀ key, table.holder key ≠ some id

/-- The transaction has locked one row. -/
structure Holds (table : Table Id Key Row) (id : Id) (key : Key)
    (before after : Option Row) : Prop where
  holder : table.holder key = some id
  only : ∀ other, table.holder other = some id → other = key
  rows : table.rows key = before
  written : table.written key = after

/-- A step of a transaction leaves the others their locks, and the rows under them. -/
structure Spares (id : Id) (table next : Table Id Key Row) : Prop where
  holder : ∀ other key, other ≠ id →
    (next.holder key = some other ↔ table.holder key = some other)
  rows : ∀ other key, other ≠ id → table.holder key = some other →
    next.rows key = table.rows key ∧ next.written key = table.written key

variable {table next : Table Id Key Row} {id other : Id} {key : Key}
  {before after : Option Row}

theorem Spares.refl (id : Id) (table : Table Id Key Row) : Spares id table table where
  holder := fun _ _ _ => Iff.rfl
  rows := fun _ _ _ _ => ⟨rfl, rfl⟩

theorem Idle.spared (idle : table.Idle id) (spares : Spares other table next)
    (different : id ≠ other) : next.Idle id := by
  intro key held
  exact idle key ((spares.holder id key different).mp held)

theorem Holds.spared (holds : table.Holds id key before after)
    (spares : Spares other table next) (different : id ≠ other) :
    next.Holds id key before after := by
  obtain ⟨rows, written⟩ := spares.rows id key different holds.holder
  constructor
  · exact (spares.holder id key different).mpr holds.holder
  · intro own held
    exact holds.only own ((spares.holder id own different).mp held)
  · exact rows.trans holds.rows
  · exact written.trans holds.written

section Write

variable [DecidableEq Key]

theorem spares_write (free : table.Free id key) (row : Option Row) :
    Spares id table (table.write id key row) where
  holder := by
    intro other own different
    by_cases same : own = key
    · subst same
      have theirs : table.holder own ≠ some other := by
        rcases free with none | mine
        · simp [none]
        · rw [mine]
          exact fun equal => different (Option.some.inj equal).symm
      simp [write, theirs, Ne.symm different]
    · simp [write, Function.update_of_ne same]
  rows := by
    intro other own different held
    refine ⟨rfl, ?_⟩
    have same : own ≠ key := by
      rintro rfl
      rcases free with none | mine
      · rw [none] at held
        cases held
      · rw [mine] at held
        exact different (Option.some.inj held).symm
    exact Function.update_of_ne same ..

theorem holder_write {row : Option Row} {own : Key}
    (held : (table.write id key row).holder own = some other) :
    table.holder own = some other ∨ other = id := by
  by_cases same : own = key
  · subst same
    right
    simpa [write, eq_comm] using held
  · left
    simpa [write, Function.update_of_ne same] using held

theorem Idle.holds (idle : table.Idle id) (key : Key) (row : Option Row) :
    (table.write id key row).Holds id key (table.rows key) row where
  holder := Function.update_self ..
  only := by
    intro other held
    by_contra different
    have held : Function.update table.holder key (some id) other = some id := held
    rw [Function.update_of_ne different] at held
    exact idle other held
  rows := rfl
  written := Function.update_self ..

end Write

variable [DecidableEq Id]

theorem spares_release (id : Id) (table : Table Id Key Row) :
    Spares id table (table.release id) where
  holder := by
    intro other key different
    by_cases own : table.holder key = some id
    · simp [release, own, Ne.symm different]
    · simp [release, own]
  rows := fun _ _ _ _ => ⟨rfl, rfl⟩

theorem spares_commit (id : Id) (table : Table Id Key Row) :
    Spares id table (table.commit id) where
  holder := (spares_release id table).holder
  rows := by
    intro other key different held
    refine ⟨?_, rfl⟩
    have others : table.holder key ≠ some id := by
      rw [held]
      exact fun same => different (Option.some.inj same)
    exact if_neg others

theorem holder_release {key : Key} :
    (table.release id).holder key = some other ↔
      table.holder key = some other ∧ other ≠ id := by
  by_cases own : table.holder key = some id
  · simp only [release, own, if_true, reduceCtorEq, Option.some.injEq, false_iff, not_and,
      not_not]
    exact Eq.symm
  · simp only [release, own, if_false]
    constructor
    · intro held
      refine ⟨held, ?_⟩
      rintro rfl
      exact own held
    · exact And.left

theorem idle_release (id : Id) (table : Table Id Key Row) : (table.release id).Idle id :=
  fun _ held => (holder_release.mp held).2 rfl

theorem Idle.view (idle : table.Idle id) : table.view id = table.rows := by
  funext key
  exact if_neg (idle key)

theorem Idle.rows_commit (idle : table.Idle id) : (table.commit id).rows = table.rows :=
  idle.view

/-- What has been written takes the place of what was found. -/
theorem Holds.rows_commit [DecidableEq Key] (holds : table.Holds id key before after) :
    (table.commit id).rows = Function.update table.rows key after := by
  funext other
  by_cases same : other = key
  · subst same
    rw [Function.update_self]
    exact (if_pos holds.holder).trans holds.written
  · rw [Function.update_of_ne same]
    exact if_neg (fun held => same (holds.only other held))

end Table

end RowLocks
