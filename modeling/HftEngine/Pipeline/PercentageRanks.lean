import HftEngine.Lib.Rounding
import HftEngine.Lib.Traversal
import HftEngine.Pipeline.Highlights
import HftEngine.Pipeline.VisibleRange

/-!
# The percentages and ranks of a chain

What each option of a chain is given: its share of the greatest count within the visible
range, and its rank by open interest among all options of its type.
-/

namespace HftEngine.Pipeline

open Py Processor Frontend
open Binary64 (Stands Signed)

/-! ## Percentages as numbers -/

theorem exact_of_stands {x : Float} {y : ℚ} (stands : Stands x y) : exact x = some y := by
  rw [Stands] at stands
  delta exact
  generalize x.toModel.unpack = u at stands ⊢
  cases stands with
  | zero same => rw [same]
  | finite _ same => rw [same]

theorem exact_nonpos {x : Float} (signed : Signed .negative x.toModel.unpack) {y : ℚ}
    (value : exact x = some y) : y ≤ 0 := by
  delta exact at value
  generalize x.toModel.unpack = u at signed value
  cases u with
  | notANumber => cases value
  | infinity => cases value
  | zero => exact (Option.some.inj value).ge
  | finite sign mantissa exponent positive =>
      obtain rfl : sign = .negative := signed
      rw [← Option.some.inj value]
      have : (0 : ℚ) ≤ mantissa * 2 ^ exponent := by positivity
      exact neg_nonpos.mpr this

/-- A count's share of a greatest count in percent, to two decimals. -/
structure PercentOf (value greatest : ℤ) (pct : Option Float) : Prop where
  share : Share value greatest pct
  at_most : ∀ x ∈ pct, ∀ y, exact x = some y → y ≤ 100
  close : 0 ≤ value → ∃ x ∈ pct, ∃ y, exact x = some y ∧
    |y - (value : ℚ) / greatest * 100| ≤ 1 / 200 + 2 ^ (-44 : ℤ)
  top : value = greatest → pct = some 100

theorem percentage_negative {value greatest : ℤ} (negative : value < 0)
    (positive : 0 < greatest) {x : Float} (computed : percentage value greatest = .ok x) :
    Signed .negative (roundTo 2 x).toModel.unpack := by
  rw [percentage, if_pos positive, bind_eq_ok] at computed
  obtain ⟨ratio, divided, computed⟩ := computed
  obtain rfl := Except.ok.inj computed
  rw [trueDivide, if_pos negative] at divided
  split at divided
  · cases divided
  · obtain rfl := Except.ok.inj divided
    apply Binary64.signed_roundTo
    exact Binary64.signed_mul (Binary64.signed_neg (Binary64.signed_ofRatio _ _)) rfl

theorem percentage_stands {value greatest : ℤ} (nonneg : 0 ≤ value)
    (bounded : value ≤ greatest) (positive : 0 < greatest) {x : Float}
    (computed : percentage value greatest = .ok x) :
    ∃ y, Stands (roundTo 2 x) y ∧ y ≤ 100 ∧
      |y - (value : ℚ) / greatest * 100| ≤ 1 / 200 + 2 ^ (-44 : ℤ) := by
  obtain ⟨n, rfl⟩ := Int.eq_ofNat_of_zero_le nonneg
  obtain ⟨d, rfl⟩ := Int.eq_ofNat_of_zero_le positive.le
  have quotient_eq := percentage_eq positive computed
  have same : x = ofRatio n d * 100 := by
    rw [quotient_eq, quotient]
    simp
  obtain ⟨product, product_stands, product_le, product_close⟩ :=
    Binary64.stands_percent (by exact_mod_cast positive : 0 < d)
      (by exact_mod_cast bounded : n ≤ d)
  rw [← same] at product_stands
  obtain ⟨y, stands, at_most, close⟩ := Binary64.stands_roundTo product_stands product_le
  refine ⟨y, stands, at_most, ?_⟩
  rw [abs_le] at close product_close ⊢
  push_cast
  norm_num at close product_close ⊢
  constructor <;> linarith

theorem percentOf {value greatest : ℤ} (bounded : value ≤ greatest) (positive : 0 < greatest)
    {pct : Option Float} (share : Share value greatest pct) :
    PercentOf value greatest pct := by
  have shared := share
  obtain ⟨x, computed, rfl⟩ := shared
  refine ⟨share, ?_, ?_, ?_⟩
  · rintro _ ⟨⟩ y read
    rcases lt_or_ge value 0 with negative | nonneg
    · have := exact_nonpos (percentage_negative negative positive computed) read
      linarith
    · obtain ⟨z, stands, at_most, -⟩ := percentage_stands nonneg bounded positive computed
      obtain rfl := Option.some.inj (read.symm.trans (exact_of_stands stands))
      exact at_most
  · intro nonneg
    obtain ⟨y, stands, -, close⟩ := percentage_stands nonneg bounded positive computed
    exact ⟨_, rfl, y, exact_of_stands stands, close⟩
  · rintro rfl
    rw [percentage_self positive] at computed
    obtain rfl := Except.ok.inj computed
    have rounded : roundTo 2 100 = 100 := by decide
    rw [rounded]

theorem finite_of_stands {x : Float} {y : ℚ} (stands : Stands x y) : x.isInf = false := by
  change x.toModel.unpack.isInf = false
  rw [Stands] at stands
  generalize x.toModel.unpack = u at stands
  cases stands with
  | zero => rfl
  | finite => rfl

theorem ofRatio_finite {n d : ℕ} (small : (n : ℚ) ≤ 2 ^ (1023 : ℤ)) :
    (ofRatio n d).isInf = false := by
  by_cases positive : 0 < n ∧ 0 < d
  case neg =>
      rw [ofRatio, dif_neg positive]
      decide
  case pos =>
      obtain ⟨n_pos, d_pos⟩ := positive
      have some_denominator : (1 : ℚ) ≤ d := by exact_mod_cast d_pos
      have top : (1 : ℕ) * (2 : ℚ) ^ (1023 : ℤ) < 2 ^ (1024 : ℤ) := by
        rw [Nat.cast_one, one_mul]
        exact zpow_lt_zpow_right₀ one_lt_two (by norm_num)
      have bounded : (n : ℚ) / d ≤ (1 : ℕ) * 2 ^ (1023 : ℤ) := by
        rw [Nat.cast_one, one_mul]
        exact (div_le_self n.cast_nonneg some_denominator).trans small
      have coarse := Binary64.target_le (k := 1023) (by positivity) (by norm_num)
        (bounded.trans_lt top)
      have at_most := Binary64.nearest_le bounded (by omega)
      exact finite_of_stands (Binary64.stands_ofRatio n_pos d_pos (at_most.trans_lt top))

/-- A count has a percentage, unless it is out of the range of doubles. -/
theorem percentage_returns {value : ℤ} (small : |(value : ℚ)| ≤ 2 ^ (1023 : ℤ))
    (reference : ℤ) : ∃ x, percentage value reference = .ok x := by
  unfold percentage
  split
  case isFalse => exact ⟨0, rfl⟩
  case isTrue =>
      have finite := ofRatio_finite (n := value.natAbs) (d := reference.toNat) (by
        rw [Nat.cast_natAbs, Int.cast_abs]
        exact small)
      have divided : ∃ ratio, trueDivide value reference.toNat = .ok ratio := by
        rw [trueDivide, finite]
        exact ⟨_, rfl⟩
      obtain ⟨ratio, divided⟩ := divided
      exact ⟨ratio * 100, bind_eq_ok.mpr ⟨ratio, divided, rfl⟩⟩

/-! ## Ranks -/

/-- One more than the number of greater counts, and 0 where there is no open interest. -/
def rank_of (side_options : List CleanedOptionData) (oi : ℤ) : ℕ :=
  if 0 < oi then side_options.countP (fun other => oi < other.oi) + 1 else 0

theorem exists_rank {side_options : List CleanedOptionData}
    (distinct : (side_options.map (·.strike)).Nodup) {d : CleanedOptionData}
    (member : d ∈ side_options) (positive : 0 < d.oi) :
    ∃ rank, last_written (rank_map side_options) d.strike = some rank := by
  have among : d ∈ (Ranking.ranks (·.oi) (side_options.filter (0 < ·.oi))).map Prod.fst := by
    rw [Ranking.map_fst_ranks, (Ranking.perm_descending _ _).mem_iff]
    exact List.mem_filter.mpr ⟨member, decide_eq_true positive⟩
  obtain ⟨⟨_, rank⟩, ranked, rfl⟩ := List.mem_map.mp among
  refine ⟨rank, last_written_of_mem ?_ (List.mem_map.mpr ⟨_, ranked, rfl⟩)⟩
  have strikes : (rank_map side_options).map Prod.fst =
      (Ranking.descending (·.oi) (side_options.filter (0 < ·.oi))).map (·.strike) := by
    rw [← Ranking.map_fst_ranks, rank_map, List.map_map, List.map_map]
    rfl
  rw [strikes, ((Ranking.perm_descending _ _).map _).nodup_iff]
  exact distinct.sublist (List.filter_sublist.map _)

theorem rank_eq_rank_of {side_options : List CleanedOptionData}
    (distinct : (side_options.map (·.strike)).Nodup) {d : CleanedOptionData}
    (member : d ∈ side_options) :
    (last_written (rank_map side_options) d.strike).getD 0 = rank_of side_options d.oi := by
  unfold rank_of
  split
  case isTrue positive =>
      obtain ⟨rank, read⟩ := exists_rank distinct member positive
      obtain ⟨opt, among, here, counted⟩ := oi_rank_eq read
      obtain rfl : opt = d := List.inj_on_of_nodup_map distinct among member here
      rw [read, Option.getD_some, counted]
      congr 2
      funext other
      exact decide_eq_decide.mpr (and_iff_left_of_imp positive.trans)
  case isFalse none_positive =>
      cases read : last_written (rank_map side_options) d.strike with
      | none => rfl
      | some rank =>
          obtain ⟨opt, among, here, -⟩ := Ranking.read_rank read
          obtain ⟨opt_member, positive⟩ := List.mem_filter.mp among
          obtain rfl : opt = d := List.inj_on_of_nodup_map distinct opt_member member here
          exact absurd (of_decide_eq_true positive) none_positive

/-! ## The annotated chain -/

/-- The counts within the visible range. -/
def visible_counts (column : Column) (valid : List CleanedOptionData) : Set ℤ :=
  {n | ∃ opt ∈ valid, count column opt = n}

theorem reference_of_greatest {column : Column} (plain : column ≠ .oichng)
    {valid : List CleanedOptionData} {greatest : ℤ}
    (is_greatest : IsGreatest (visible_counts column valid) greatest) :
    reference_of column (references valid) = if greatest = 0 then 1 else greatest := by
  obtain ⟨⟨opt, member, same⟩, bound⟩ := is_greatest
  have attained : greatest ∈ valid.map (count column) := List.mem_map.mpr ⟨opt, member, same⟩
  have upper : ∀ n ∈ valid.map (count column), n ≤ greatest := by
    intro n among
    obtain ⟨other, other_member, rfl⟩ := List.mem_map.mp among
    exact bound ⟨other, other_member, rfl⟩
  cases column with
  | volume => exact max_or_one_eq attained upper
  | oi => exact max_or_one_eq attained upper
  | oichng => exact absurd rfl plain

theorem max_or_one_congr {xs ys : List ℤ} (same : ∀ n, n ∈ xs ↔ n ∈ ys) :
    max_or_one xs = max_or_one ys := by
  cases found : xs.max? with
  | none =>
      obtain rfl := List.max?_eq_none_iff.mp found
      obtain rfl : ys = [] := List.eq_nil_iff_forall_not_mem.mpr
        (fun n member => List.not_mem_nil ((same n).mpr member))
      rfl
  | some greatest =>
      obtain ⟨member, bound⟩ := List.max?_eq_some_iff.mp found
      rw [max_or_one_eq member bound,
        max_or_one_eq ((same greatest).mp member) (fun n among => bound n ((same n).mpr among))]

theorem references_congr {few many : List CleanedOptionData}
    (same : ∀ opt, opt ∈ few ↔ opt ∈ many) : references few = references many := by
  have mapped : ∀ (f : CleanedOptionData → ℤ) n, n ∈ few.map f ↔ n ∈ many.map f := by
    intro f n
    simp only [List.mem_map, same]
  rw [references, references, max_or_one_congr (mapped _), max_or_one_congr (mapped _)]
  congr 1
  apply max_or_one_congr
  intro n
  rw [List.mem_filter, List.mem_filter, mapped]

/-- There is nothing that 100 percent could stand for. -/
def Unseen (options : List CleanedOptionData) (atm_strike step_size : Float)
    (option_type : OptionType) : Prop :=
  (atm_strike == 0) = true ∨ valid_data (side option_type options) atm_strike step_size = []

instance (options : List CleanedOptionData) (atm_strike step_size : Float)
    (option_type : OptionType) : Decidable (Unseen options atm_strike step_size option_type) :=
  inferInstanceAs (Decidable (_ ∨ _))

/-- The values that the analyzer has for an option. -/
def Given (options : List CleanedOptionData) (atm_strike step_size : Float)
    (original : CleanedOptionData) (pct_data : Percentages) : Prop :=
  if Unseen options atm_strike step_size original.option_type then pct_data = ⟨0, 0, 0, 0⟩
  else percentages_of
    (references (valid_data (side original.option_type options) atm_strike step_size))
    (rank_map (side original.option_type options)) original = .ok pct_data

/-- What an option is given in a chain. -/
structure Annotated (options : List CleanedOptionData) (atm_strike step_size : Float)
    (original opt : CleanedOptionData) : Prop where
  own : ∃ pct_data, opt = original.enriched (some pct_data)
  percentages : (atm_strike == 0) = false →
    in_visible_range atm_strike step_size original.strike →
    ∀ column ≠ .oichng, ∀ greatest, IsGreatest (visible_counts column
      (valid_data (side original.option_type options) atm_strike step_size)) greatest →
      if 0 < greatest then PercentOf (count column original) greatest (pct_of column opt)
      else count column original = greatest → pct_of column opt = some 0
  rank : opt.oi_rank = some (if Unseen options atm_strike step_size original.option_type then 0
    else rank_of (side original.option_type options) original.oi : ℕ)
  unseen : Unseen options atm_strike step_size original.option_type →
    ∀ column, pct_of column opt = some 0

/-- The chains have the same options of a type within the visible range. -/
def SameVisible (options others : List CleanedOptionData) (atm_strike step_size : Float)
    (option_type : OptionType) : Prop :=
  ∀ opt, opt.option_type = option_type → in_visible_range atm_strike step_size opt.strike →
    (opt ∈ options ↔ opt ∈ others)

section Chain

variable {options enriched : List CleanedOptionData} {atm_strike step_size : Float}

/-- Each option in its place. -/
theorem given_in_place
    (processed : enrich_options options atm_strike step_size = .ok enriched)
    (distinct : (options.map (fun opt => (opt.strike, opt.option_type))).Nodup) :
    List.Forall₂ (fun original opt => ∃ pct_data, opt = original.enriched (some pct_data) ∧
      Given options atm_strike step_size original pct_data) options enriched := by
  obtain ⟨percentages, analyzed, made⟩ := bind_eq_ok.mp processed
  obtain rfl := Except.ok.inj made
  rw [List.forall₂_map_right_iff, List.forall₂_same]
  intro original among
  cases zero : (atm_strike == 0) with
  | true =>
      rw [analyze_zero zero] at analyzed
      obtain rfl := Except.ok.inj analyzed
      have unseen : Unseen options atm_strike step_size original.option_type := .inl zero
      refine ⟨⟨0, 0, 0, 0⟩, rfl, ?_⟩
      rw [Given, if_pos unseen]
  | false =>
      obtain ⟨writes, calculated, written⟩ := analyze_side analyzed zero
        (List.ne_nil_of_mem among) original.option_type
      obtain ⟨pct_data, found, given⟩ := side_spec calculated
        (nodup_side distinct original.option_type) (mem_side.mpr ⟨among, rfl⟩)
      have unseen_iff : Unseen options atm_strike step_size original.option_type ↔
          valid_data (side original.option_type options) atm_strike step_size = [] :=
        or_iff_right (ne_true_of_eq_false zero)
      refine ⟨pct_data, by rw [written, found], ?_⟩
      rw [Given, if_congr unseen_iff rfl rfl]
      exact given

theorem percentage_of_count {references : References} {ranks : List (Float × ℕ)}
    {original : CleanedOptionData} {pct_data : Percentages}
    (computed : percentages_of references ranks original = .ok pct_data) {column : Column}
    (plain : column ≠ .oichng) :
    ∃ x, percentage (count column original) (reference_of column references) = .ok x ∧
      pct_of column (original.enriched (some pct_data)) = some (roundTo 2 x) := by
  have given := processor_pct computed column
  cases column with
  | volume => exact given
  | oi => exact given
  | oichng => exact absurd rfl plain

/-- The greatest count is given 0 where it is not above 0. -/
theorem percentage_of_greatest {greatest : ℤ} (not_positive : ¬0 < greatest) :
    percentage greatest (if greatest = 0 then 1 else greatest) = .ok 0 := by
  split
  case isTrue zero =>
      rw [zero]
      decide
  case isFalse => exact percentage_not_positive not_positive

theorem annotated_of_given
    (distinct : (options.map (fun opt => (opt.strike, opt.option_type))).Nodup)
    {original : CleanedOptionData} (among : original ∈ options) {pct_data : Percentages}
    (given : Given options atm_strike step_size original pct_data) :
    Annotated options atm_strike step_size original (original.enriched (some pct_data)) := by
  have on_side : original ∈ side original.option_type options := mem_side.mpr ⟨among, rfl⟩
  have in_range : in_visible_range atm_strike step_size original.strike →
      original ∈ valid_data (side original.option_type options) atm_strike step_size :=
    fun visible => List.mem_filter.mpr ⟨on_side, decide_eq_true visible⟩
  unfold Given at given
  split at given
  case isTrue unseen =>
      subst given
      refine ⟨⟨_, rfl⟩, ?_, ?_, ?_⟩
      · intro nonzero visible
        rcases unseen with zero | nothing
        · rw [zero] at nonzero
          cases nonzero
        · have seen := in_range visible
          rw [nothing] at seen
          cases seen
      · rw [if_pos unseen]
        rfl
      · intro _ column
        cases column <;> rfl
  case isFalse seen =>
      refine ⟨⟨_, rfl⟩, ?_, ?_, fun unseen => absurd unseen seen⟩
      · intro _ visible column plain greatest is_greatest
        obtain ⟨x, computed, pct⟩ := percentage_of_count given plain
        rw [reference_of_greatest plain is_greatest] at computed
        split
        case isTrue positive =>
            rw [if_neg positive.ne'] at computed
            apply percentOf (is_greatest.2 ⟨original, in_range visible, rfl⟩) positive
            exact ⟨x, computed, pct⟩
        case isFalse not_positive =>
            intro same
            have rounded : roundTo 2 0 = 0 := by decide
            rw [same, percentage_of_greatest not_positive] at computed
            obtain rfl := Except.ok.inj computed
            rw [pct, rounded]
      · rw [if_neg seen]
        obtain ⟨oi_pct, -, given⟩ := bind_eq_ok.mp given
        obtain ⟨volume_pct, -, given⟩ := bind_eq_ok.mp given
        obtain ⟨oichng_pct, -, given⟩ := bind_eq_ok.mp given
        obtain rfl := Except.ok.inj given
        rw [← rank_eq_rank_of (nodup_side distinct original.option_type) on_side]
        rfl

theorem annotated
    (processed : enrich_options options atm_strike step_size = .ok enriched)
    (distinct : (options.map (fun opt => (opt.strike, opt.option_type))).Nodup) :
    List.Forall₂ (Annotated options atm_strike step_size) options enriched := by
  have placed := given_in_place processed distinct
  rw [List.forall₂_iff_zip] at placed ⊢
  refine ⟨placed.1, ?_⟩
  intro original opt paired
  obtain ⟨pct_data, rfl, given⟩ := placed.2 paired
  exact annotated_of_given distinct (List.of_mem_zip paired).1 given

/-- Counts within the range of doubles. -/
def Moderate (opt : CleanedOptionData) : Prop :=
  ∀ column, |(count column opt : ℚ)| ≤ 2 ^ (1023 : ℤ)

theorem percentages_return {references : References} {ranks : List (Float × ℕ)}
    {d : CleanedOptionData} (moderate : Moderate d) :
    ∃ pct_data, percentages_of references ranks d = .ok pct_data := by
  have change : |((|d.oi_change| : ℤ) : ℚ)| ≤ 2 ^ (1023 : ℤ) := by
    rw [Int.cast_abs, abs_abs]
    exact moderate .oichng
  obtain ⟨oi_pct, oi⟩ := percentage_returns (moderate .oi) references.max_oi
  obtain ⟨volume_pct, volume⟩ := percentage_returns (moderate .volume) references.max_volume
  obtain ⟨oichng_pct, oichng⟩ := percentage_returns change references.max_oichng
  exact ⟨_, bind_eq_ok.mpr ⟨oi_pct, oi, bind_eq_ok.mpr ⟨volume_pct, volume,
    bind_eq_ok.mpr ⟨oichng_pct, oichng, rfl⟩⟩⟩⟩

theorem side_returns (moderate : ∀ opt ∈ options, Moderate opt) :
    ∃ writes, calculate_side_percentages options atm_strike step_size = .ok writes := by
  unfold calculate_side_percentages
  split
  case h_1 => exact ⟨_, rfl⟩
  case h_2 valid _ =>
      apply Traversal.mapM_returns_iff.mpr
      intro opt member
      obtain ⟨pct_data, computed⟩ := percentages_return (moderate opt member)
      exact ⟨_, bind_eq_ok.mpr ⟨pct_data, computed, rfl⟩⟩

/-- The analysis returns, unless a count is out of the range of doubles. -/
theorem enrich_returns (moderate : ∀ opt ∈ options, Moderate opt) :
    ∃ enriched, enrich_options options atm_strike step_size = .ok enriched := by
  have of_side : ∀ option_type, ∃ writes,
      calculate_side_percentages (side option_type options) atm_strike step_size =
        .ok writes := by
    intro option_type
    apply side_returns
    intro opt member
    exact moderate opt (mem_side.mp member).1
  obtain ⟨ce_percentages, ce⟩ := of_side .CE
  obtain ⟨pe_percentages, pe⟩ := of_side .PE
  have analyzed : ∃ percentages, analyze options atm_strike step_size = .ok percentages := by
    unfold analyze
    split
    · exact ⟨_, rfl⟩
    · exact ⟨_, bind_eq_ok.mpr ⟨ce_percentages, ce, bind_eq_ok.mpr ⟨pe_percentages, pe, rfl⟩⟩⟩
  obtain ⟨percentages, analyzed⟩ := analyzed
  exact ⟨_, bind_eq_ok.mpr ⟨percentages, analyzed, rfl⟩⟩

variable {others : List CleanedOptionData}

theorem valid_congr {option_type : OptionType}
    (visible : SameVisible options others atm_strike step_size option_type)
    (opt : CleanedOptionData) :
    opt ∈ valid_data (side option_type options) atm_strike step_size ↔
      opt ∈ valid_data (side option_type others) atm_strike step_size := by
  simp only [valid_data, List.mem_filter, mem_side, decide_eq_true_iff]
  have same := visible opt
  tauto

/-- The percentages depend on the visible options only. -/
theorem pct_of_congr {original : CleanedOptionData} {pct_data pct_data' : Percentages}
    (given : Given options atm_strike step_size original pct_data)
    (given' : Given others atm_strike step_size original pct_data')
    (visible : SameVisible options others atm_strike step_size original.option_type)
    (column : Column) :
    pct_of column (original.enriched (some pct_data)) =
      pct_of column (original.enriched (some pct_data')) := by
  have same := valid_congr visible
  have both : Unseen options atm_strike step_size original.option_type ↔
      Unseen others atm_strike step_size original.option_type := by
    simp only [Unseen, List.eq_nil_iff_forall_not_mem, same]
  unfold Given at given given'
  by_cases unseen : Unseen options atm_strike step_size original.option_type
  case pos =>
      rw [if_pos unseen] at given
      rw [if_pos (both.mp unseen)] at given'
      rw [given, given']
  case neg =>
      rw [if_neg unseen, references_congr same] at given
      rw [if_neg (mt both.mpr unseen)] at given'
      obtain ⟨x, computed, pct⟩ := processor_pct given column
      obtain ⟨x', computed', pct'⟩ := processor_pct given' column
      obtain rfl := Except.ok.inj (computed.symm.trans computed')
      rw [pct, pct']

/-- What a chain is given, and that only visible options matter for the percentages. -/
structure Analyzed (options : List CleanedOptionData) (atm_strike step_size : Float)
    (enriched : List CleanedOptionData) : Prop where
  each : List.Forall₂ (Annotated options atm_strike step_size) options enriched
  unaffected : ∀ others enriched', enrich_options others atm_strike step_size = .ok enriched' →
    (others.map (fun opt => (opt.strike, opt.option_type))).Nodup →
    ∀ original opt opt', (original, opt) ∈ options.zip enriched →
      (original, opt') ∈ others.zip enriched' →
      SameVisible options others atm_strike step_size original.option_type →
      ∀ column, pct_of column opt = pct_of column opt'

theorem unaffected {enriched' : List CleanedOptionData}
    (processed : enrich_options options atm_strike step_size = .ok enriched)
    (distinct : (options.map (fun opt => (opt.strike, opt.option_type))).Nodup)
    (processed' : enrich_options others atm_strike step_size = .ok enriched')
    (distinct' : (others.map (fun opt => (opt.strike, opt.option_type))).Nodup)
    {original opt opt' : CleanedOptionData} (paired : (original, opt) ∈ options.zip enriched)
    (paired' : (original, opt') ∈ others.zip enriched')
    (visible : SameVisible options others atm_strike step_size original.option_type)
    (column : Column) : pct_of column opt = pct_of column opt' := by
  have placed := List.forall₂_iff_zip.mp (given_in_place processed distinct)
  have placed' := List.forall₂_iff_zip.mp (given_in_place processed' distinct')
  obtain ⟨pct_data, rfl, given⟩ := placed.2 paired
  obtain ⟨pct_data', rfl, given'⟩ := placed'.2 paired'
  exact pct_of_congr given given' visible column

end Chain

/-- The percentages and ranks of every chain with one option of each type at a strike. -/
theorem percentages_and_ranks {options : List CleanedOptionData}
    (distinct : (options.map (fun opt => (opt.strike, opt.option_type))).Nodup)
    (atm_strike step_size : Float) :
    (∀ enriched, enrich_options options atm_strike step_size = .ok enriched →
      Analyzed options atm_strike step_size enriched) ∧
    ((∀ opt ∈ options, Moderate opt) →
      ∃ enriched, enrich_options options atm_strike step_size = .ok enriched) := by
  refine ⟨?_, enrich_returns⟩
  intro enriched processed
  refine ⟨annotated processed distinct, ?_⟩
  intro others enriched' processed' distinct' original opt opt' paired paired' visible
  exact unaffected processed distinct processed' distinct' paired paired' visible

theorem percentages_and_ranks_three_calls :
    ∃ enriched, enrich_options three_calls 24750 50 = .ok enriched ∧
      Analyzed three_calls 24750 50 enriched := by
  have distinct : (three_calls.map (fun opt => (opt.strike, opt.option_type))).Nodup := by
    decide
  exact ⟨_, rfl, (percentages_and_ranks distinct 24750 50).1 _ rfl⟩

/-- The greatest count within the range is 100 percent, and every open interest has a
rank. -/
structure Unconditional (options : List CleanedOptionData) (atm_strike step_size : Float)
    (original opt : CleanedOptionData) : Prop where
  top : in_visible_range atm_strike step_size original.strike →
    ∀ column ≠ .oichng, IsGreatest (visible_counts column
      (valid_data (side original.option_type options) atm_strike step_size))
        (count column original) → pct_of column opt = some 100
  rank : opt.oi_rank = some (rank_of (side original.option_type options) original.oi : ℕ)

/-- A chain without open interest, one of which nothing is visible, one at an ATM of 0,
and one with a count that is out of the range of doubles. -/
theorem not_unconditional :
    (∃ enriched, enrich_options [call 100 0] 100 50 = .ok enriched ∧
      ¬List.Forall₂ (Unconditional [call 100 0] 100 50) [call 100 0] enriched) ∧
    (∃ enriched, enrich_options [call 1000 5] 100 50 = .ok enriched ∧
      ¬List.Forall₂ (Unconditional [call 1000 5] 100 50) [call 1000 5] enriched) ∧
    (∃ enriched, enrich_options [call 100 5] 0 50 = .ok enriched ∧
      ¬List.Forall₂ (Unconditional [call 100 5] 0 50) [call 100 5] enriched) ∧
    (enrich_options [call 100 1, call 1000 (10 ^ 400)] 100 50).isOk = false := by
  refine ⟨⟨_, rfl, ?_⟩, ⟨_, rfl, ?_⟩, ⟨_, rfl, ?_⟩, ?_⟩
  · intro claimed
    obtain ⟨first, -⟩ := List.forall₂_cons.mp claimed
    have visible : valid_data (side .CE [call 100 0]) 100 50 = [call 100 0] := rfl
    have greatest : IsGreatest (visible_counts .oi (valid_data (side .CE [call 100 0]) 100 50))
        0 := by
      rw [visible]
      refine ⟨⟨call 100 0, List.mem_singleton_self _, rfl⟩, ?_⟩
      rintro _ ⟨opt, member, rfl⟩
      obtain rfl := List.mem_singleton.mp member
      exact le_rfl
    have top := first.top (by decide) .oi (by decide) greatest
    exact absurd top (by decide)
  · intro claimed
    obtain ⟨first, -⟩ := List.forall₂_cons.mp claimed
    exact absurd first.rank (by decide)
  · intro claimed
    obtain ⟨first, -⟩ := List.forall₂_cons.mp claimed
    exact absurd first.rank (by decide)
  · decide +kernel

end HftEngine.Pipeline
