import HftEngine.Backend.StrategySimulation.Breakevens

/-!
# The probability of profit

`calculate_probability_of_profit` takes the probability of one side of the breakevens;
which one, it reads off the payoff at the spot price or in the middle.  It is compared
with the probability of the prices at which the payoff is positive.
-/

namespace HftEngine.Backend.StrategySimulation

open PiecewiseLinear
open Py.Exact

section Rounding

variable {Date : Type} (service : Service Date) (legs : List StrategyLeg)

/-- `std_dev` of the logarithm of the price, up to the earliest expiry. -/
def log_deviation (current_date : Date) (average_iv : Option ℚ) : Option ℚ := do
  let dtes ← legs.mapM (days_left service (1 / 1000) current_date)
  let min_dte ← dtes.min?
  let total_iv := (legs.map (·.iv)).sum
  let avg_iv :=
    match average_iv with
    | some iv => if iv = 0 then total_iv / legs.length else iv
    | none => total_iv / legs.length
  some (avg_iv * service.functions.sqrt (min_dte / 365))

/-- The entry `pop` before it is rounded. -/
def unrounded_pop (current_spot : ℚ) (current_date : Date) (average_iv : Option ℚ) :
    Option ℚ :=
  let breakevens := find_breakevens legs current_spot
  if breakevens = [] then
    (simulate_strategy_at_point service legs current_spot current_date 0 none).map
      (fun test_point => if 0 < test_point.pnl then 100 else 0)
  else
    (log_deviation service legs current_date average_iv).map (fun std_dev =>
      profit_probability service legs current_spot std_dev
        (breakevens.insertionSort (· ≤ ·)) * 100)

theorem lookup_pop {current_spot : ℚ} {current_date : Date} {average_iv : Option ℚ}
    {report : Report}
    (reported : calculate_probability_of_profit service legs current_spot current_date
      average_iv = some report) :
    ∃ pop, unrounded_pop service legs current_spot current_date average_iv = some pop ∧
      report.lookup "pop" = some (.number (roundTo 2 pop)) := by
  unfold calculate_probability_of_profit at reported
  unfold unrounded_pop
  dsimp only at reported ⊢
  split at reported
  case isTrue none_found =>
      obtain ⟨test_point, simulated, rfl⟩ := Option.map_eq_some_iff.mp reported
      rw [if_pos none_found, simulated]
      refine ⟨_, rfl, ?_⟩
      by_cases gains : 0 < test_point.pnl
      · simp only [flat_report, if_pos gains]
        with_unfolding_all decide
      · simp only [flat_report, if_neg gains]
        with_unfolding_all decide
  case isFalse some_found =>
      simp only [Option.bind_eq_bind, Option.bind_eq_some_iff] at reported
      obtain ⟨dtes, remaining, min_dte, least, same⟩ := reported
      obtain rfl := Option.some.inj same
      refine ⟨_, ?_, rfl⟩
      rw [if_neg some_found]
      cases average_iv with
      | none =>
          simp only [log_deviation, Option.bind_eq_bind, remaining, Option.bind_some, least,
            Option.map_some]
      | some iv =>
          simp only [log_deviation, Option.bind_eq_bind, remaining, Option.bind_some, least,
            Option.map_some]

end Rounding

/-! ## The prices with a profit -/

/-- The prices above 0 between two breakevens; where there is none there is no bound. -/
def between (low high : Option ℚ) : Set ℚ :=
  { price | 0 < price ∧ (∀ be ∈ low, be < price) ∧ ∀ be ∈ high, price < be }

theorem ordConnected_between (low high : Option ℚ) : (between low high).OrdConnected := by
  constructor
  rintro x ⟨positive, above, -⟩ y ⟨-, -, below⟩ z ⟨after, before⟩
  exact ⟨positive.trans_le after, fun be member => (above be member).trans_le after,
    fun be member => before.trans_lt (below be member)⟩

def ProfitBetween (legs : List StrategyLeg) (low high : Option ℚ) : Prop :=
  ∃ price ∈ between low high, 0 < calculate_expiry_payoff legs price

open Classical in
/-- The probability of a profit, when `price_below` is that of a price below another one:
it is summed over the stretches, between sorted breakevens, on which there is one. -/
noncomputable def probability_of_profit (price_below : ℚ → ℚ) (legs : List StrategyLeg) :
    Option ℚ → List ℚ → ℚ
  | low, [] =>
      if ProfitBetween legs low none then 1 - low.elim 0 price_below else 0
  | low, be :: rest =>
      (if ProfitBetween legs low (some be) then price_below be - low.elim 0 price_below
        else 0) + probability_of_profit price_below legs (some be) rest

section Stretches

variable {legs : List StrategyLeg}

/-- A stretch without a sign change that has a profit has a loss nowhere. -/
theorem ProfitBetween.no_loss {low high : Option ℚ} (profit : ProfitBetween legs low high)
    (still : ∀ z ∈ between low high, ¬SignChange (calculate_expiry_payoff legs) z)
    {price : ℚ} (member : price ∈ between low high) :
    0 ≤ calculate_expiry_payoff legs price := by
  obtain ⟨best, also, positive⟩ := profit
  exact (knotted_payoff legs).nonneg_of_still (ordConnected_between low high) still also
    member positive

/-- Of the two sides of a sign change one at most has a profit. -/
theorem ProfitBetween.one_side {low high : Option ℚ} {be : ℚ}
    (changes : SignChange (calculate_expiry_payoff legs) be)
    (before : ∀ z ∈ between low (some be), ¬SignChange (calculate_expiry_payoff legs) z)
    (after : ∀ z ∈ between (some be) high, ¬SignChange (calculate_expiry_payoff legs) z)
    (left : ProfitBetween legs low (some be)) (right : ProfitBetween legs (some be) high) :
    False := by
  obtain ⟨x, ⟨x_pos, above, x_lt⟩, gains⟩ := left
  obtain ⟨y, ⟨y_pos, lt_y, below⟩, also⟩ := right
  have x_before := x_lt be rfl
  have y_after := lt_y be rfl
  obtain ⟨s, t, different, into, out⟩ := changes
  have from_left : LeftSign (calculate_expiry_payoff legs) be 1 := by
    apply (knotted_payoff legs).leftSign_of_still x_before ?_ gains
    intro z low high
    apply before z ⟨x_pos.trans low, fun other member => (above other member).trans low, ?_⟩
    rintro other ⟨⟩
    exact high
  have to_right : RightSign (calculate_expiry_payoff legs) be 1 := by
    apply (knotted_payoff legs).rightSign_of_still y_after ?_ also
    intro z low high
    refine after z ⟨(x_pos.trans x_before).trans low, ?_,
      fun other member => high.trans (below other member)⟩
    rintro other ⟨⟩
    exact low
  exact different ((into.unique from_left).trans (to_right.unique out))

end Stretches

/-! ## Which region is taken -/

/-- What is known of a normal distribution and of the logarithm. -/
structure NormalLaw (functions : BlackScholes.Functions ℚ) : Prop where
  cdf_strictMono : StrictMono functions.cdf
  cdf_pos : ∀ x, 0 < functions.cdf x
  cdf_lt_one : ∀ x, functions.cdf x < 1
  cdf_zero : functions.cdf 0 = 1 / 2
  log_strictMonoOn : StrictMonoOn functions.log (Set.Ioi 0)
  log_one : functions.log 1 = 0

section Region

variable {Date : Type} (service : Service Date) (legs : List StrategyLeg)
  (current_spot std_dev : ℚ)

/-- The probability of a price below another one. -/
def price_below (price : ℚ) : ℚ :=
  service.functions.cdf (breakeven_deviation service current_spot std_dev price)

/-- When the region that is taken has the probability of the prices with a profit. -/
def RegionTaken (current_date : Date) : List ℚ → Prop
  | [] =>
      ∀ test_point, simulate_strategy_at_point service legs current_spot current_date 0
        none = some test_point → (0 < test_point.pnl ↔ ProfitBetween legs none none)
  | [be] =>
      calculate_expiry_payoff legs current_spot = 0 ∧
        ((current_spot ≤ be ∧ ProfitBetween legs none (some be)) ∨
          (be ≤ current_spot ∧ ProfitBetween legs (some be) none))
  | [be_low, be_high] =>
      (ProfitBetween legs (some be_low) (some be_high) ∧
        (0 < calculate_expiry_payoff legs ((be_low + be_high) / 2) ∨
          price_below service current_spot std_dev be_high -
            price_below service current_spot std_dev be_low = 1 / 2)) ∨
      (ProfitBetween legs none (some be_low) ∧ ProfitBetween legs (some be_high) none)
  | _ => False

variable {service legs current_spot std_dev}

theorem profit_probability_one (be : ℚ) :
    profit_probability service legs current_spot std_dev [be] =
      if 0 < calculate_expiry_payoff legs current_spot then
        if current_spot < be then 1 - price_below service current_spot std_dev be
        else price_below service current_spot std_dev be
      else if be < current_spot then 1 - price_below service current_spot std_dev be
      else price_below service current_spot std_dev be :=
  rfl

theorem profit_probability_two (be_low be_high : ℚ) :
    profit_probability service legs current_spot std_dev [be_low, be_high] =
      if 0 < calculate_expiry_payoff legs ((be_low + be_high) / 2) then
        price_below service current_spot std_dev be_high -
          price_below service current_spot std_dev be_low
      else price_below service current_spot std_dev be_low +
        (1 - price_below service current_spot std_dev be_high) :=
  rfl

theorem price_below_lt (law : NormalLaw service.functions) (positive : 0 < current_spot)
    (deviates : 0 < std_dev) {low high : ℚ} (low_pos : 0 < low) (apart : low < high) :
    price_below service current_spot std_dev low <
      price_below service current_spot std_dev high := by
  apply law.cdf_strictMono
  rw [breakeven_deviation, breakeven_deviation, if_pos deviates, if_pos deviates]
  apply div_lt_div_of_pos_right ?_ deviates
  apply law.log_strictMonoOn (div_pos low_pos positive)
    (div_pos (low_pos.trans apart) positive)
  exact div_lt_div_of_pos_right apart positive

theorem price_below_spot (law : NormalLaw service.functions) (positive : 0 < current_spot)
    (deviates : 0 < std_dev) :
    price_below service current_spot std_dev current_spot = 1 / 2 := by
  rw [price_below, breakeven_deviation, if_pos deviates, div_self positive.ne',
    law.log_one, zero_div, law.cdf_zero]

theorem price_below_eq_half (law : NormalLaw service.functions)
    (positive : 0 < current_spot) (deviates : 0 < std_dev) {be : ℚ} (be_pos : 0 < be) :
    price_below service current_spot std_dev be = 1 / 2 ↔ be = current_spot := by
  have at_spot := price_below_spot law positive deviates
  constructor
  · intro half
    rcases lt_trichotomy be current_spot with before | same | after
    · have apart := price_below_lt law positive deviates be_pos before
      rw [half, at_spot] at apart
      exact absurd apart (lt_irrefl _)
    · exact same
    · have apart := price_below_lt law positive deviates positive after
      rw [half, at_spot] at apart
      exact absurd apart (lt_irrefl _)
  · rintro rfl
    exact at_spot

theorem mem_between_below {be : ℚ} (positive : 0 < current_spot) (lower : current_spot < be) :
    current_spot ∈ between none (some be) := by
  refine ⟨positive, nofun, ?_⟩
  rintro _ ⟨⟩
  exact lower

theorem mem_between_above {be : ℚ} (positive : 0 < current_spot)
    (higher : be < current_spot) : current_spot ∈ between (some be) none := by
  refine ⟨positive, ?_, nofun⟩
  rintro _ ⟨⟩
  exact higher

/-! ### One breakeven -/

/-- The sign changes at a price and nowhere else. -/
structure OneChange (legs : List StrategyLeg) (be : ℚ) : Prop where
  positive : 0 < be
  changes : SignChange (calculate_expiry_payoff legs) be
  before : ∀ z ∈ between none (some be), ¬SignChange (calculate_expiry_payoff legs) z
  after : ∀ z ∈ between (some be) none, ¬SignChange (calculate_expiry_payoff legs) z

theorem OneChange.of_found {be : ℚ}
    (found : ∀ x, x ∈ [be] ↔ 0 < x ∧ SignChange (calculate_expiry_payoff legs) x) :
    OneChange legs be := by
  obtain ⟨be_pos, changes⟩ := (found be).mp (List.mem_singleton_self be)
  refine ⟨be_pos, changes, ?_, ?_⟩
  · rintro z ⟨z_pos, -, below⟩ also
    exact (below be rfl).ne (List.mem_singleton.mp ((found z).mpr ⟨z_pos, also⟩))
  · rintro z ⟨z_pos, above, -⟩ also
    exact (above be rfl).ne' (List.mem_singleton.mp ((found z).mpr ⟨z_pos, also⟩))

theorem OneChange.zero {be : ℚ} (change : OneChange legs be) :
    calculate_expiry_payoff legs be = 0 :=
  change.changes.zero (knotted_payoff legs)

theorem OneChange.one_side {be : ℚ} (change : OneChange legs be)
    (left : ProfitBetween legs none (some be)) : ¬ProfitBetween legs (some be) none :=
  ProfitBetween.one_side change.changes change.before change.after left

theorem OneChange.below_iff {be : ℚ} (change : OneChange legs be)
    (law : NormalLaw service.functions) (positive : 0 < current_spot)
    (deviates : 0 < std_dev) (left : ProfitBetween legs none (some be)) :
    profit_probability service legs current_spot std_dev [be] =
        price_below service current_spot std_dev be ↔
      calculate_expiry_payoff legs current_spot = 0 ∧ current_spot ≤ be := by
  have right := change.one_side left
  have half := price_below_eq_half law positive deviates change.positive
  rw [profit_probability_one]
  generalize price_below service current_spot std_dev be = p at half ⊢
  rcases lt_trichotomy current_spot be with lower | same | higher
  · have no_loss := left.no_loss change.before (mem_between_below positive lower)
    rcases no_loss.lt_or_eq with gains | zero
    · rw [if_pos gains, if_pos lower]
      refine iff_of_false (fun equal => ?_) (fun also => gains.ne' also.1)
      exact lower.ne' (half.mp (by linarith))
    · rw [if_neg zero.ge.not_gt, if_neg lower.not_gt]
      exact iff_of_true rfl ⟨zero.symm, lower.le⟩
  · rw [same, change.zero, if_neg (lt_irrefl _), if_neg (lt_irrefl _)]
    exact iff_of_true rfl ⟨rfl, le_rfl⟩
  · have no_gain : ¬0 < calculate_expiry_payoff legs current_spot :=
      fun gains => right ⟨_, mem_between_above positive higher, gains⟩
    rw [if_neg no_gain, if_pos higher]
    refine iff_of_false (fun equal => ?_) (fun also => also.2.not_gt higher)
    exact higher.ne (half.mp (by linarith))

theorem OneChange.above_iff {be : ℚ} (change : OneChange legs be)
    (law : NormalLaw service.functions) (positive : 0 < current_spot)
    (deviates : 0 < std_dev) (right : ProfitBetween legs (some be) none) :
    profit_probability service legs current_spot std_dev [be] =
        1 - price_below service current_spot std_dev be ↔
      calculate_expiry_payoff legs current_spot = 0 ∧ be ≤ current_spot := by
  have left : ¬ProfitBetween legs none (some be) :=
    fun left => change.one_side left right
  have half := price_below_eq_half law positive deviates change.positive
  rw [profit_probability_one]
  generalize price_below service current_spot std_dev be = p at half ⊢
  rcases lt_trichotomy current_spot be with lower | same | higher
  · have no_gain : ¬0 < calculate_expiry_payoff legs current_spot :=
      fun gains => left ⟨_, mem_between_below positive lower, gains⟩
    rw [if_neg no_gain, if_neg lower.not_gt]
    refine iff_of_false (fun equal => ?_) (fun also => also.2.not_gt lower)
    exact lower.ne' (half.mp (by linarith))
  · have middle := half.mpr same.symm
    rw [same, change.zero, if_neg (lt_irrefl _), if_neg (lt_irrefl _)]
    exact iff_of_true (by linarith) ⟨rfl, le_rfl⟩
  · have no_loss := right.no_loss change.after (mem_between_above positive higher)
    rcases no_loss.lt_or_eq with gains | zero
    · rw [if_pos gains, if_neg higher.not_gt]
      refine iff_of_false (fun equal => ?_) (fun also => gains.ne' also.1)
      exact higher.ne (half.mp (by linarith))
    · rw [if_neg zero.ge.not_gt, if_pos higher]
      exact iff_of_true rfl ⟨zero.symm, higher.le⟩

/-- With one breakeven the side is right only at a payoff of 0, on the side of the
profit. -/
theorem one_breakeven_iff (law : NormalLaw service.functions) (positive : 0 < current_spot)
    (deviates : 0 < std_dev) (current_date : Date) {be : ℚ} (change : OneChange legs be) :
    profit_probability service legs current_spot std_dev [be] =
        probability_of_profit (price_below service current_spot std_dev) legs none [be] ↔
      RegionTaken service legs current_spot std_dev current_date [be] := by
  simp only [probability_of_profit, RegionTaken, Option.elim_none, Option.elim_some,
    sub_zero]
  by_cases left : ProfitBetween legs none (some be)
  · simp only [left, change.one_side left, if_true, if_false, and_true, and_false, or_false,
      add_zero]
    exact change.below_iff law positive deviates left
  · by_cases right : ProfitBetween legs (some be) none
    · simp only [left, right, if_true, if_false, and_true, and_false, false_or, zero_add]
      exact change.above_iff law positive deviates right
    · -- neither side has a profit, and either one has a probability
      simp only [left, right, if_false, and_false, or_false, add_zero]
      have p_pos : 0 < price_below service current_spot std_dev be := law.cdf_pos _
      have p_lt : price_below service current_spot std_dev be < 1 := law.cdf_lt_one _
      refine iff_of_false ?_ not_false
      rw [profit_probability_one]
      split <;> split <;> linarith

/-! ### Two breakevens -/

structure TwoChanges (legs : List StrategyLeg) (be_low be_high : ℚ) : Prop where
  positive : 0 < be_low
  apart : be_low < be_high
  low_changes : SignChange (calculate_expiry_payoff legs) be_low
  high_changes : SignChange (calculate_expiry_payoff legs) be_high
  before : ∀ z ∈ between none (some be_low), ¬SignChange (calculate_expiry_payoff legs) z
  inside : ∀ z ∈ between (some be_low) (some be_high),
    ¬SignChange (calculate_expiry_payoff legs) z
  after : ∀ z ∈ between (some be_high) none, ¬SignChange (calculate_expiry_payoff legs) z

theorem TwoChanges.of_found {be_low be_high : ℚ} (apart : be_low < be_high)
    (found : ∀ x, x ∈ [be_low, be_high] ↔
      0 < x ∧ SignChange (calculate_expiry_payoff legs) x) :
    TwoChanges legs be_low be_high := by
  obtain ⟨low_pos, low_changes⟩ := (found be_low).mp (by simp)
  obtain ⟨-, high_changes⟩ := (found be_high).mp (by simp)
  have cases_of : ∀ z, 0 < z → SignChange (calculate_expiry_payoff legs) z →
      z = be_low ∨ z = be_high := by
    intro z z_pos also
    simpa using (found z).mpr ⟨z_pos, also⟩
  refine ⟨low_pos, apart, low_changes, high_changes, ?_, ?_, ?_⟩
  · rintro z ⟨z_pos, -, below⟩ also
    have := below be_low rfl
    rcases cases_of z z_pos also with rfl | rfl <;> linarith
  · rintro z ⟨z_pos, above, below⟩ also
    have := above be_low rfl
    have := below be_high rfl
    rcases cases_of z z_pos also with rfl | rfl <;> linarith
  · rintro z ⟨z_pos, above, -⟩ also
    have := above be_high rfl
    rcases cases_of z z_pos also with rfl | rfl <;> linarith

theorem TwoChanges.midpoint {be_low be_high : ℚ}
    (changes : TwoChanges legs be_low be_high) :
    (be_low + be_high) / 2 ∈ between (some be_low) (some be_high) := by
  refine ⟨?_, ?_, ?_⟩
  · linarith [changes.positive, changes.apart]
  · rintro _ ⟨⟩
    exact left_lt_add_div_two.mpr changes.apart
  · rintro _ ⟨⟩
    exact add_div_two_lt_right.mpr changes.apart

/-- With two breakevens the region is right where the profit shows in the middle, and
where there is one on both sides. -/
theorem two_breakevens_iff (law : NormalLaw service.functions)
    (positive : 0 < current_spot) (deviates : 0 < std_dev) (current_date : Date)
    {be_low be_high : ℚ} (changes : TwoChanges legs be_low be_high) :
    profit_probability service legs current_spot std_dev [be_low, be_high] =
        probability_of_profit (price_below service current_spot std_dev) legs none
          [be_low, be_high] ↔
      RegionTaken service legs current_spot std_dev current_date [be_low, be_high] := by
  have p_pos : 0 < price_below service current_spot std_dev be_low := law.cdf_pos _
  have q_lt : price_below service current_spot std_dev be_high < 1 := law.cdf_lt_one _
  have p_lt := price_below_lt law positive deviates changes.positive changes.apart
  rw [profit_probability_two]
  simp only [probability_of_profit, RegionTaken, Option.elim_none, Option.elim_some,
    sub_zero]
  generalize price_below service current_spot std_dev be_low = p at p_pos p_lt ⊢
  generalize price_below service current_spot std_dev be_high = q at q_lt p_lt ⊢
  by_cases inside : ProfitBetween legs (some be_low) (some be_high)
  · have left : ¬ProfitBetween legs none (some be_low) := fun left =>
      ProfitBetween.one_side changes.low_changes changes.before changes.inside left inside
    have right : ¬ProfitBetween legs (some be_high) none :=
      ProfitBetween.one_side changes.high_changes changes.inside changes.after inside
    simp only [inside, left, right, if_true, if_false, true_and, false_and, or_false,
      zero_add, add_zero]
    split
    case isTrue gains => exact iff_of_true rfl (.inl gains)
    case isFalse no_gain =>
        constructor
        · intro equal
          right
          linarith
        · rintro (gains | half)
          · exact absurd gains no_gain
          · linarith
  · have no_gain : ¬0 < calculate_expiry_payoff legs ((be_low + be_high) / 2) :=
      fun gains => inside ⟨_, changes.midpoint, gains⟩
    simp only [inside, if_neg no_gain, if_false, false_and, false_or, zero_add]
    by_cases left : ProfitBetween legs none (some be_low)
    · by_cases right : ProfitBetween legs (some be_high) none
      · simp only [left, right, if_true, and_self]
      · simp only [left, right, if_true, if_false, and_false, add_zero, iff_false]
        intro equal
        linarith
    · simp only [left, if_false, false_and, zero_add, iff_false]
      intro equal
      split at equal <;> linarith

/-! ### All of them -/

theorem sort_find_breakevens (positive : 0 < current_spot) :
    (find_breakevens legs current_spot).insertionSort (· ≤ ·) =
      find_breakevens legs current_spot :=
  ((find_breakevens_sorted positive).imp le_of_lt).insertionSort_eq

theorem percent_eq_iff {x y : ℚ} : x * 100 = 100 * y ↔ x = y := by
  rw [mul_comm, mul_right_inj' (show (100 : ℚ) ≠ 0 by norm_num)]

/-- The entry `pop` is, before it is rounded, the probability of the prices with a profit
exactly when their region is taken. -/
theorem pop_iff {current_date : Date} {average_iv : Option ℚ} {report : Report}
    (law : NormalLaw service.functions) (positive : 0 < current_spot)
    (found : ∀ x, x ∈ find_breakevens legs current_spot ↔
      0 < x ∧ SignChange (calculate_expiry_payoff legs) x)
    (few : (find_breakevens legs current_spot).length ≤ 2)
    (deviation : log_deviation service legs current_date average_iv = some std_dev)
    (deviates : 0 < std_dev)
    (reported : calculate_probability_of_profit service legs current_spot current_date
      average_iv = some report) :
    ∃ pop, unrounded_pop service legs current_spot current_date average_iv = some pop ∧
      report.lookup "pop" = some (.number (roundTo 2 pop)) ∧
      (pop = 100 * probability_of_profit (price_below service current_spot std_dev) legs
          none (find_breakevens legs current_spot) ↔
        RegionTaken service legs current_spot std_dev current_date
          (find_breakevens legs current_spot)) := by
  obtain ⟨pop, unrounded, looked_up⟩ := lookup_pop service legs reported
  refine ⟨pop, unrounded, looked_up, ?_⟩
  have sorted : (find_breakevens legs current_spot).Pairwise (· < ·) :=
    find_breakevens_sorted positive
  rw [unrounded_pop, sort_find_breakevens positive] at unrounded
  match same : find_breakevens legs current_spot with
  | [] =>
      rw [same, if_pos rfl] at unrounded
      obtain ⟨test_point, simulated, rfl⟩ := Option.map_eq_some_iff.mp unrounded
      simp only [RegionTaken, simulated, Option.some.injEq, forall_eq',
        probability_of_profit, Option.elim_none, sub_zero]
      split <;> split <;> simp_all
  | [be] =>
      rw [same, if_neg (List.cons_ne_nil _ _), deviation] at unrounded
      obtain rfl := Option.some.inj unrounded
      rw [same] at found
      rw [← one_breakeven_iff law positive deviates current_date (.of_found found)]
      exact percent_eq_iff
  | [be_low, be_high] =>
      rw [same, if_neg (List.cons_ne_nil _ _), deviation] at unrounded
      obtain rfl := Option.some.inj unrounded
      rw [same] at found sorted
      have apart : be_low < be_high := by simpa using sorted
      rw [← two_breakevens_iff law positive deviates current_date (.of_found apart found)]
      exact percent_eq_iff
  | _ :: _ :: _ :: _ =>
      rw [same] at few
      simp at few

end Region

/-! ### A call that is bought

The spot price is at its strike, a year before expiry. -/

def near_money : Service Unit where
  functions := near_functions
  risk_free_rate := 7 / 100
  total_seconds _ _ := some (365 * 24 * 3600)
  gauss _ _ := 0

theorem near_money_law : NormalLaw near_money.functions := by
  have width : ∀ x : ℚ, 0 < 5 + 4 * |x| := by
    intro x
    positivity
  refine ⟨?_, ?_, ?_, ?_, ?_, ?_⟩
  · intro x y apart
    change 1 / 2 + 2 * x / (5 + 4 * |x|) < 1 / 2 + 2 * y / (5 + 4 * |y|)
    rw [add_lt_add_iff_left, div_lt_div_iff₀ (width x) (width y)]
    rcases abs_cases x with ⟨left, sign⟩ | ⟨left, sign⟩ <;>
      rcases abs_cases y with ⟨right, other⟩ | ⟨right, other⟩ <;>
        rw [left, right] <;> nlinarith
  · intro x
    have low : -(1 / 2) < 2 * x / (5 + 4 * |x|) := by
      rw [lt_div_iff₀ (width x)]
      linarith [neg_abs_le x]
    change 0 < 1 / 2 + 2 * x / (5 + 4 * |x|)
    linarith
  · intro x
    have high : 2 * x / (5 + 4 * |x|) < 1 / 2 := by
      rw [div_lt_iff₀ (width x)]
      linarith [le_abs_self x]
    change 1 / 2 + 2 * x / (5 + 4 * |x|) < 1
    linarith
  · norm_num [near_money, near_functions]
  · intro x x_pos y y_pos apart
    change 2 * (x - 1) / (x + 1) < 2 * (y - 1) / (y + 1)
    rw [Set.mem_Ioi] at x_pos y_pos
    rw [div_lt_div_iff₀ (by linarith) (by linarith)]
    linarith
  · norm_num [near_money, near_functions]

def long_call : List StrategyLeg := [option_leg .CE .BUY 100 (21 / 4)]

theorem long_call_payoff (price : ℚ) :
    calculate_expiry_payoff long_call price = max 0 (price - 100) - 21 / 4 := by
  simp [long_call, option_leg, StrategyLeg.pnl, intrinsic]

theorem long_call_breakevens : find_breakevens long_call 100 = [421 / 4] := by
  with_unfolding_all decide

theorem long_call_found (x : ℚ) :
    x ∈ find_breakevens long_call 100 ↔
      0 < x ∧ SignChange (calculate_expiry_payoff long_call) x := by
  rw [long_call_breakevens, List.mem_singleton]
  constructor
  · rintro rfl
    refine ⟨by norm_num, -1, 1, by decide, ⟨1, one_pos, ?_⟩, ⟨1, one_pos, ?_⟩⟩
    · intro y above below
      rw [long_call_payoff, max_eq_right (by linarith)]
      exact sign_neg (by linarith)
    · intro y above below
      rw [long_call_payoff, max_eq_right (by linarith)]
      exact sign_pos (by linarith)
  · rintro ⟨-, changes⟩
    have zero := changes.zero (knotted_payoff long_call)
    rw [long_call_payoff] at zero
    rcases max_choice 0 (x - 100) with none | some
    · rw [none] at zero
      norm_num at zero
    · rw [some] at zero
      linarith

theorem long_call_deviation :
    log_deviation near_money long_call () none = some (15 / 100) := by
  with_unfolding_all decide

/-- There is a loss at the spot price, which is below the breakeven. -/
theorem unrounded_pop_long_call :
    unrounded_pop near_money long_call 100 () none =
      some (100 * price_below near_money 100 (15 / 100) (421 / 4)) := by
  have loses : ¬0 < calculate_expiry_payoff long_call 100 := by with_unfolding_all decide
  have computed : profit_probability near_money long_call 100 (15 / 100) [421 / 4] =
      price_below near_money 100 (15 / 100) (421 / 4) := by
    rw [profit_probability_one, if_neg loses, if_neg (by norm_num)]
  rw [unrounded_pop, long_call_breakevens, if_neg (List.cons_ne_nil _ _),
    long_call_deviation, Option.map_some, List.insertionSort_cons, List.insertionSort_nil,
    List.orderedInsert_nil, computed, mul_comm]

def long_call_report : Report :=
  (calculate_probability_of_profit near_money long_call 100 () none).getD []

theorem pop_iff_long_call :
    ∃ pop, unrounded_pop near_money long_call 100 () none = some pop ∧
      long_call_report.lookup "pop" = some (.number (roundTo 2 pop)) ∧
      (pop = 100 * probability_of_profit (price_below near_money 100 (15 / 100)) long_call
          none (find_breakevens long_call 100) ↔
        RegionTaken near_money long_call 100 (15 / 100) () (find_breakevens long_call 100)) :=
  pop_iff near_money_law (by norm_num) long_call_found (by with_unfolding_all decide)
    long_call_deviation (by norm_num) (by decide +kernel)

/-- The probability of a price below the breakeven is reported; the profit is above it. -/
theorem pop_reversed :
    (∀ x, x ∈ find_breakevens long_call 100 ↔
      0 < x ∧ SignChange (calculate_expiry_payoff long_call) x) ∧
    ∃ pop, unrounded_pop near_money long_call 100 () none = some pop ∧
      pop ≠ 100 * probability_of_profit (price_below near_money 100 (15 / 100)) long_call
        none (find_breakevens long_call 100) := by
  have below : ¬ProfitBetween long_call none (some (421 / 4)) := by
    rintro ⟨price, ⟨-, -, below⟩, gains⟩
    have lower := below _ rfl
    rw [long_call_payoff, sub_pos, lt_max_iff] at gains
    rcases gains with never | above
    · norm_num at never
    · linarith
  have above : ProfitBetween long_call (some (421 / 4)) none := by
    refine ⟨200, ⟨by norm_num, ?_, nofun⟩, by with_unfolding_all decide⟩
    rintro _ ⟨⟩
    norm_num
  refine ⟨long_call_found, 100 * price_below near_money 100 (15 / 100) (421 / 4),
    unrounded_pop_long_call, ?_⟩
  rw [long_call_breakevens]
  simp only [probability_of_profit, below, above, if_true, if_false, zero_add,
    Option.elim_some]
  with_unfolding_all decide

end HftEngine.Backend.StrategySimulation
