import Mathlib.Logic.Function.Basic
import Mathlib.Order.MinMax
import Mathlib.Order.Nat
import Mathlib.Tactic.Common

/-!
# Entries computed from a table that changes

A cache keeps the states that its table has had.  The floor of a slot is the
first of them that an entry of the slot may be computed from: to invalidate a
slot for a state is to delete its entry and to raise its floor.  No operation
looks at a floor; they are there to say what has been invalidated.
-/

namespace Caching

structure Cache (Slot Value Table : Type) where
  version : ℕ
  tables : ℕ → Table
  entries : Slot → Option Value
  floor : Slot → ℕ

namespace Cache

variable {Slot Value Table : Type}

def current (cache : Cache Slot Value Table) : Table :=
  cache.tables cache.version

/-- A state of the table from a version on has the property. -/
def Since (cache : Cache Slot Value Table) (version : ℕ) (P : Table → Prop) : Prop :=
  ∃ state, version ≤ state ∧ state ≤ cache.version ∧ P (cache.tables state)

/-! ## Operations -/

def commit (table : Table) (cache : Cache Slot Value Table) : Cache Slot Value Table :=
  { cache with
    version := cache.version + 1
    tables := Function.update cache.tables (cache.version + 1) table }

def store [DecidableEq Slot] (slot : Slot) (value : Value)
    (cache : Cache Slot Value Table) : Cache Slot Value Table :=
  { cache with entries := Function.update cache.entries slot (some value) }

def evict (slots : Slot → Bool) (cache : Cache Slot Value Table) :
    Cache Slot Value Table :=
  { cache with entries := fun slot => if slots slot then none else cache.entries slot }

/-- Raise the floor of some slots. -/
def demand (slots : Slot → Bool) (version : ℕ) (cache : Cache Slot Value Table) :
    Cache Slot Value Table :=
  { cache with
    floor := fun slot =>
      if slots slot then max (cache.floor slot) version else cache.floor slot }

def invalidate (slots : Slot → Bool) (version : ℕ) (cache : Cache Slot Value Table) :
    Cache Slot Value Table :=
  (cache.evict slots).demand slots version

/-! ## What no operation takes back -/

structure Extends (before after : Cache Slot Value Table) : Prop where
  version : before.version ≤ after.version
  tables : ∀ state ≤ before.version, after.tables state = before.tables state
  floor : ∀ slot, before.floor slot ≤ after.floor slot

namespace Extends

theorem refl (cache : Cache Slot Value Table) : Extends cache cache :=
  ⟨le_rfl, fun _ _ => rfl, fun _ => le_rfl⟩

theorem commit (table : Table) (cache : Cache Slot Value Table) :
    Extends cache (cache.commit table) where
  version := Nat.le_succ _
  tables := by
    intro state old
    exact Function.update_of_ne (Nat.ne_of_lt (Nat.lt_succ_of_le old)) _ _
  floor := fun _ => le_rfl

theorem store [DecidableEq Slot] (slot : Slot) (value : Value)
    (cache : Cache Slot Value Table) : Extends cache (cache.store slot value) :=
  ⟨le_rfl, fun _ _ => rfl, fun _ => le_rfl⟩

theorem evict (slots : Slot → Bool) (cache : Cache Slot Value Table) :
    Extends cache (cache.evict slots) :=
  ⟨le_rfl, fun _ _ => rfl, fun _ => le_rfl⟩

theorem demand (slots : Slot → Bool) (version : ℕ) (cache : Cache Slot Value Table) :
    Extends cache (cache.demand slots version) where
  version := le_rfl
  tables := fun _ _ => rfl
  floor := by
    intro slot
    change _ ≤ if slots slot then _ else _
    split
    case isTrue => exact le_max_left _ _
    case isFalse => exact le_rfl

theorem invalidate (slots : Slot → Bool) (version : ℕ)
    (cache : Cache Slot Value Table) :
    Extends cache (cache.invalidate slots version) where
  version := le_rfl
  tables := fun _ _ => rfl
  floor := (demand slots version (cache.evict slots)).floor

end Extends

section Since

variable {cache after : Cache Slot Value Table} {P : Table → Prop}

theorem Since.extend {version : ℕ} (since : cache.Since version P)
    (grown : Extends cache after) : after.Since version P := by
  obtain ⟨state, recent, past, holds⟩ := since
  exact ⟨state, recent, past.trans grown.version,
    (grown.tables state past).symm ▸ holds⟩

theorem Since.mono {version other : ℕ} (since : cache.Since version P)
    (earlier : other ≤ version) : cache.Since other P := by
  obtain ⟨state, recent, past, holds⟩ := since
  exact ⟨state, earlier.trans recent, past, holds⟩

theorem since_current {version : ℕ} (past : version ≤ cache.version)
    (holds : P cache.current) : cache.Since version P :=
  ⟨cache.version, past, le_rfl, holds⟩

theorem since_version_iff : cache.Since cache.version P ↔ P cache.current := by
  constructor
  · rintro ⟨state, recent, past, holds⟩
    rwa [Nat.le_antisymm past recent] at holds
  · exact since_current le_rfl

theorem floor_demand {slots : Slot → Bool} {version : ℕ} {slot : Slot}
    (demanded : slots slot = true) :
    version ≤ (cache.demand slots version).floor slot := by
  simp only [Cache.demand, demanded, if_true]
  exact le_max_right _ _

theorem floor_invalidate {slots : Slot → Bool} {version : ℕ} {slot : Slot}
    (invalidated : slots slot = true) :
    version ≤ (cache.invalidate slots version).floor slot :=
  @floor_demand _ _ _ (cache.evict slots) _ _ _ invalidated

end Since

/-! ## Sound entries -/

/-- Every entry is computed from a state of the table that its floor allows. -/
structure Sound (Computed : Slot → Table → Value → Prop)
    (cache : Cache Slot Value Table) : Prop where
  floor_le : ∀ slot, cache.floor slot ≤ cache.version
  since_floor : ∀ slot value, cache.entries slot = some value →
    cache.Since (cache.floor slot) (Computed slot · value)

namespace Sound

variable {Computed : Slot → Table → Value → Prop} {cache : Cache Slot Value Table}

theorem commit (sound : cache.Sound Computed) (table : Table) :
    (cache.commit table).Sound Computed where
  floor_le := fun slot => (sound.floor_le slot).trans (Nat.le_succ _)
  since_floor := by
    intro slot value found
    exact (sound.since_floor slot value found).extend (.commit table cache)

theorem store [DecidableEq Slot] (sound : cache.Sound Computed)
    {slot : Slot} {value : Value}
    (since : cache.Since (cache.floor slot) (Computed slot · value)) :
    (cache.store slot value).Sound Computed where
  floor_le := sound.floor_le
  since_floor := by
    intro other found stored
    by_cases same : other = slot
    · subst same
      obtain rfl : value = found := by
        simpa only [Cache.store, Function.update_self, Option.some.injEq] using stored
      exact since.extend (.store other value cache)
    · simp only [Cache.store, Function.update_of_ne same] at stored
      exact (sound.since_floor other found stored).extend (.store slot value cache)

theorem evict (sound : cache.Sound Computed) (slots : Slot → Bool) :
    (cache.evict slots).Sound Computed where
  floor_le := sound.floor_le
  since_floor := by
    intro slot value found
    simp only [Cache.evict] at found
    split at found
    case isTrue => contradiction
    case isFalse =>
      exact (sound.since_floor slot value found).extend (.evict slots cache)

/-- Floors may be raised to what the entries meet already. -/
theorem demand (sound : cache.Sound Computed) {slots : Slot → Bool} {version : ℕ}
    (past : version ≤ cache.version)
    (met : ∀ slot value, slots slot = true → cache.entries slot = some value →
      cache.Since version (Computed slot · value)) :
    (cache.demand slots version).Sound Computed where
  floor_le := by
    intro slot
    change (if slots slot then _ else _) ≤ _
    split
    case isTrue => exact max_le (sound.floor_le slot) past
    case isFalse => exact sound.floor_le slot
  since_floor := by
    intro slot value found
    have since := sound.since_floor slot value found
    have raised : cache.Since (if slots slot then max (cache.floor slot) version
        else cache.floor slot) (Computed slot · value) := by
      split
      case isTrue demanded =>
        rcases max_choice (cache.floor slot) version with old | new
        · rwa [old]
        · rw [new]
          exact met slot value demanded found
      case isFalse => exact since
    exact raised.extend (.demand slots version cache)

theorem invalidate (sound : cache.Sound Computed) (slots : Slot → Bool) {version : ℕ}
    (past : version ≤ cache.version) :
    (cache.invalidate slots version).Sound Computed := by
  apply (sound.evict slots).demand past
  intro slot value evicted found
  simp [Cache.evict, evicted] at found

end Sound

end Cache

end Caching
