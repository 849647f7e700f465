import HftEngine.Lib.PiecewiseLinear
import HftEngine.Lib.Python.Exact
import HftEngine.Lib.Ranking
import Mathlib.Algebra.Order.BigOperators.Group.List
import Mathlib.Data.Prod.Lex

/-!
# Max pain

`calculate_max_pain` compares the payouts of option writers at the strikes.  The payout
falls up to the first strike, rises from the last one on and is a line between two
neighbours, so that no other settlement price has a smaller one.
-/

namespace HftEngine.MaxPain

open Py.Exact
open PiecewiseLinear

variable {α : Type} [Field α] [LinearOrder α]

/-- The open interest of a strike, 0 where it is missing. -/
structure OpenInterest (α : Type) [Zero α] where
  call_oi : α := 0
  put_oi : α := 0

/-- The items of a dictionary with the strikes as its keys. -/
abbrev StrikesOi (α : Type) [Zero α] :=
  List (α × OpenInterest α)

structure Pain (α : Type) where
  strike : α
  pain : ℤ
  deriving DecidableEq

structure Result (α : Type) where
  max_pain_strike : Option α
  max_pain_value : Option ℤ
  pain_distribution : List (Pain α)
  deriving DecidableEq

/-- The loop over the strikes, for one price. -/
def total_pain (strikes_oi : StrikesOi α) (test_strike : α) : α :=
  strikes_oi.foldl (fun total_pain (strike, oi) =>
    let total_pain :=
      if strike < test_strike then total_pain + oi.call_oi * (test_strike - strike)
      else total_pain
    if test_strike < strike then total_pain + oi.put_oi * (strike - test_strike)
    else total_pain) 0

def pain_values (strikes_oi : StrikesOi α) : List (α × α) :=
  strikes_oi.map (fun (test_strike, _) => (test_strike, total_pain strikes_oi test_strike))

def calculate_max_pain [FloorRing α] (strikes_oi : StrikesOi α) : Result α :=
  match (pain_values strikes_oi).argmin Prod.snd with
  | none => ⟨none, none, []⟩
  | some (max_pain_strike, pain) =>
      { max_pain_strike := some max_pain_strike
        max_pain_value := some (trunc pain)
        pain_distribution := (Ranking.ascending toLex (pain_values strikes_oi)).map
          (fun (strike, pain) => ⟨strike, trunc pain⟩) }

/-! ## The payout of the writers -/

/-- What the writers of all options pay at a settlement price. -/
def payout (strikes_oi : StrikesOi α) (price : α) : α :=
  (strikes_oi.map (fun (strike, oi) =>
    oi.call_oi * max 0 (price - strike) + oi.put_oi * max 0 (strike - price))).sum

theorem payout_cons (strike : α) (oi : OpenInterest α) (strikes_oi : StrikesOi α) (price : α) :
    payout ((strike, oi) :: strikes_oi) price =
      oi.call_oi * max 0 (price - strike) + oi.put_oi * max 0 (strike - price) +
        payout strikes_oi price :=
  List.sum_cons

variable [IsStrictOrderedRing α]

theorem foldl_pain (strikes_oi : StrikesOi α) (price paid : α) :
    strikes_oi.foldl (fun total_pain (strike, oi) =>
      let total_pain :=
        if strike < price then total_pain + oi.call_oi * (price - strike) else total_pain
      if price < strike then total_pain + oi.put_oi * (strike - price) else total_pain)
        paid = paid + payout strikes_oi price := by
  induction strikes_oi generalizing paid with
  | nil => simp [payout]
  | cons entry strikes_oi ih =>
      obtain ⟨strike, oi⟩ := entry
      rw [List.foldl_cons, ih, payout_cons, ← add_assoc]
      congr 1
      dsimp only
      rcases lt_trichotomy strike price with below | rfl | above
      · rw [if_pos below, if_neg below.not_gt, max_eq_right (sub_pos.mpr below).le,
          max_eq_left (sub_neg.mpr below).le, mul_zero, add_zero]
      · simp
      · rw [if_neg above.not_gt, if_pos above, max_eq_left (sub_neg.mpr above).le,
          max_eq_right (sub_pos.mpr above).le, mul_zero, zero_add]

theorem total_pain_eq (strikes_oi : StrikesOi α) (price : α) :
    total_pain strikes_oi price = payout strikes_oi price :=
  (foldl_pain strikes_oi price 0).trans (zero_add _)

/-- The payout has its knots at the strikes. -/
theorem knotted_payout (strikes_oi : StrikesOi α) :
    Knotted (strikes_oi.map Prod.fst) (payout strikes_oi) := by
  induction strikes_oi with
  | nil => exact knotted_const 0
  | cons entry strikes_oi ih =>
      obtain ⟨strike, oi⟩ := entry
      have sum := funext (payout_cons strike oi strikes_oi)
      rw [sum]
      apply ((((knotted_rise strike).const_mul oi.call_oi).add
        ((knotted_fall strike).const_mul oi.put_oi)).add ih).mono
      intro k member
      simpa using member

section Bounds

variable {strikes_oi : StrikesOi α}
  (nonneg : ∀ entry ∈ strikes_oi, 0 ≤ entry.2.call_oi ∧ 0 ≤ entry.2.put_oi)

include nonneg

/-- Up to the first strike the payout does not rise. -/
theorem payout_le_of_below {first price : α} (below : price ≤ first)
    (least : ∀ strike ∈ strikes_oi.map Prod.fst, first ≤ strike) :
    payout strikes_oi first ≤ payout strikes_oi price := by
  apply List.sum_le_sum
  rintro ⟨strike, oi⟩ member
  obtain ⟨call_nonneg, put_nonneg⟩ := nonneg _ member
  have before : first ≤ strike := least strike (List.mem_map_of_mem member)
  dsimp only
  rw [max_eq_left (sub_nonpos.mpr before), max_eq_left (sub_nonpos.mpr (below.trans before))]
  gcongr

/-- From the last strike on it does not fall. -/
theorem payout_le_of_above {last price : α} (above : last ≤ price)
    (greatest : ∀ strike ∈ strikes_oi.map Prod.fst, strike ≤ last) :
    payout strikes_oi last ≤ payout strikes_oi price := by
  apply List.sum_le_sum
  rintro ⟨strike, oi⟩ member
  obtain ⟨call_nonneg, put_nonneg⟩ := nonneg _ member
  have after : strike ≤ last := greatest strike (List.mem_map_of_mem member)
  dsimp only
  rw [max_eq_left (sub_nonpos.mpr after), max_eq_left (sub_nonpos.mpr (after.trans above))]
  gcongr

/-- What the payout is not below at the strikes it is nowhere below. -/
theorem le_payout {bound : α} (nonempty : strikes_oi ≠ [])
    (at_strikes : ∀ strike ∈ strikes_oi.map Prod.fst, bound ≤ payout strikes_oi strike)
    (price : α) : bound ≤ payout strikes_oi price := by
  have some_strike : strikes_oi.map Prod.fst ≠ [] := by simpa using nonempty
  obtain ⟨first, first_member, least⟩ := Ranking.exists_least id some_strike
  obtain ⟨last, last_member, greatest⟩ := Ranking.exists_greatest id some_strike
  rcases le_total price first with below | after
  · exact (at_strikes first first_member).trans (payout_le_of_below nonneg below least)
  · rcases le_total last price with above | before
    · exact (at_strikes last last_member).trans (payout_le_of_above nonneg above greatest)
    · have negative := ((knotted_payout strikes_oi).const_mul (-1)).le (M := -bound) after
        before (by linarith [at_strikes first first_member])
        (by linarith [at_strikes last last_member])
        (fun k member _ _ => by linarith [at_strikes k member])
      linarith

end Bounds

/-! ## What is returned -/

variable [FloorRing α]

/-- The payouts at the strikes, in ascending order, without their fractions. -/
structure Distributed (strikes_oi : StrikesOi α) (distribution : List (Pain α)) : Prop where
  strikes : (distribution.map (·.strike)).Perm (strikes_oi.map Prod.fst)
  ascending : distribution.Pairwise (fun before after => before.strike < after.strike)
  pain : ∀ entry ∈ distribution, entry.pain = trunc (payout strikes_oi entry.strike)

/-- One of the strikes, where the payout is least among all prices, with the payouts. -/
structure IsMaxPain (strikes_oi : StrikesOi α) (result : Result α) : Prop where
  found : ∃ strike ∈ strikes_oi.map Prod.fst, result.max_pain_strike = some strike ∧
    (∀ price, payout strikes_oi strike ≤ payout strikes_oi price) ∧
    result.max_pain_value = some (trunc (payout strikes_oi strike))
  distributed : Distributed strikes_oi result.pain_distribution

omit [FloorRing α] [IsStrictOrderedRing α] in
theorem strikes_pain_values (strikes_oi : StrikesOi α) :
    (pain_values strikes_oi).map Prod.fst = strikes_oi.map Prod.fst := by
  rw [pain_values, List.map_map]
  rfl

omit [FloorRing α] in
theorem pain_of_mem {strikes_oi : StrikesOi α} {item : α × α}
    (member : item ∈ pain_values strikes_oi) : item.2 = payout strikes_oi item.1 := by
  obtain ⟨entry, -, rfl⟩ := List.mem_map.mp member
  exact total_pain_eq strikes_oi entry.1

theorem distributed_ascending {strikes_oi : StrikesOi α}
    (distinct : (strikes_oi.map Prod.fst).Nodup) :
    Distributed strikes_oi ((Ranking.ascending toLex (pain_values strikes_oi)).map
      (fun (strike, pain) => ⟨strike, trunc pain⟩)) := by
  have sorted := Ranking.perm_ascending toLex (pain_values strikes_oi)
  have strikes := sorted.map Prod.fst
  rw [strikes_pain_values] at strikes
  constructor
  case strikes =>
    rw [List.map_map]
    exact strikes
  case ascending =>
    rw [List.pairwise_map]
    have apart := List.pairwise_map.mp (strikes.nodup_iff.mpr distinct)
    apply (Ranking.pairwise_ascending.and apart).imp
    rintro before after ⟨ordered, different⟩
    rcases Prod.Lex.le_iff.mp ordered with below | ⟨same, -⟩
    · exact below
    · exact absurd same different
  case pain =>
    intro entry among
    obtain ⟨item, member, rfl⟩ := List.mem_map.mp among
    rw [← pain_of_mem (sorted.mem_iff.mp member)]

theorem calculate_max_pain_spec {strikes_oi : StrikesOi α} (nonempty : strikes_oi ≠ [])
    (distinct : (strikes_oi.map Prod.fst).Nodup)
    (nonneg : ∀ entry ∈ strikes_oi, 0 ≤ entry.2.call_oi ∧ 0 ≤ entry.2.put_oi) :
    IsMaxPain strikes_oi (calculate_max_pain strikes_oi) := by
  cases found : (pain_values strikes_oi).argmin Prod.snd with
  | none =>
      have none_there := List.argmin_eq_none.mp found
      rw [pain_values, List.map_eq_nil_iff] at none_there
      exact absurd none_there nonempty
  | some chosen =>
      have member := List.argmin_mem found
      have strike : chosen.1 ∈ strikes_oi.map Prod.fst :=
        strikes_pain_values strikes_oi ▸ List.mem_map_of_mem member
      have at_strikes : ∀ strike ∈ strikes_oi.map Prod.fst,
          payout strikes_oi chosen.1 ≤ payout strikes_oi strike := by
        intro strike among
        rw [← strikes_pain_values] at among
        obtain ⟨item, item_member, rfl⟩ := List.mem_map.mp among
        rw [← pain_of_mem member, ← pain_of_mem item_member]
        exact List.le_of_mem_argmin item_member found
      rw [calculate_max_pain, found]
      constructor
      case found =>
        refine ⟨chosen.1, strike, rfl, le_payout nonneg nonempty at_strikes, ?_⟩
        rw [← pain_of_mem member]
      case distributed => exact distributed_ascending distinct

def three_strikes : StrikesOi ℚ :=
  [(100, ⟨10, 40⟩), (110, ⟨30, 20⟩), (120, ⟨50, 5⟩)]

theorem calculate_max_pain_spec_three_strikes :
    IsMaxPain three_strikes (calculate_max_pain three_strikes) :=
  calculate_max_pain_spec (by decide) (by decide) (by decide)

example : calculate_max_pain three_strikes =
    ⟨some 110, some 150, [⟨100, 300⟩, ⟨110, 150⟩, ⟨120, 500⟩]⟩ := by
  with_unfolding_all decide

end HftEngine.MaxPain
