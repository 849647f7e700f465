import HftEngine.Backend.ChartOfAccuracy
import Mathlib.Algebra.Order.Floor.Ring
import Mathlib.Data.Rat.Floor
import Mathlib.Tactic.Linarith

/-!
# The local chart of accuracy

What `useChartOfAccuracy` calculates itself when the API fails, with exact
numbers, beside the analysis of the same legs by the service.  A field that is
missing counts as 0 in both.
-/

namespace HftEngine.Frontend.ChartOfAccuracy

open Backend.ChartOfAccuracy

/-! ## The chain -/

structure SideData where
  OI : ℚ := 0
  oi : ℚ := 0
  oichng : ℚ := 0
  oi_change : ℚ := 0
  ltp : ℚ := 0
  volume : ℚ := 0
  gamma : ℚ := 0

/-- An entry of the chain: the number that its key reads as, whether the key is
the text of that number, and its sides. -/
structure Entry where
  strike : ℚ
  canonical : Bool := true
  ce : Option SideData := none
  pe : Option SideData := none

def Entry.side (entry : Entry) : OptionType → Option SideData
  | .CE => entry.ce
  | .PE => entry.pe

/-- `field || other`. -/
def orElse (field other : ℚ) : ℚ :=
  if field = 0 then other else field

/-! ## Strength -/

structure Strike where
  strike : ℚ
  oi : ℚ
  oiChng : ℚ
  ltp : ℚ
  itmDepth : ℤ
  isValid : Bool

/-- With `Math.round`, and steps of 50. -/
def getITMDepth (strike atmStrike : ℚ) (side : OptionType) : ℤ :=
  if atmStrike = 0 then 0
  else match side with
    | .CE => if strike < atmStrike then ⌊(atmStrike - strike) / 50 + 1 / 2⌋ else 0
    | .PE => if atmStrike < strike then ⌊(strike - atmStrike) / 50 + 1 / 2⌋ else 0

def strikeOf (atmStrike : ℚ) (side : OptionType) (entry : Entry) (sideData : SideData) :
    Strike :=
  let itmDepth := getITMDepth entry.strike atmStrike side
  { strike := entry.strike
    oi := orElse sideData.OI sideData.oi
    oiChng := orElse sideData.oichng sideData.oi_change
    ltp := sideData.ltp
    itmDepth
    isValid := itmDepth ≤ 2 }

def strikes (optionChain : List Entry) (atmStrike : ℚ) (side : OptionType) :
    List Strike :=
  (optionChain.filterMap (fun entry =>
    (entry.side side).map (strikeOf atmStrike side entry))).filter (fun s => 0 < s.oi)

structure ChosenStrikes where
  strike100 : Strike
  strike2nd : Option Strike
  maxOI : ℚ

/-- None where the function returns null. -/
def chosenStrikes (optionChain : List Entry) (atmStrike : ℚ) (side : OptionType) :
    Option ChosenStrikes :=
  let strikes := strikes optionChain atmStrike side
  match ((strikes.filter (·.isValid)).map (·.oi)).max? with
  | none => none
  | some maxOI =>
      if maxOI = 0 then none
      else match Ranking.descending (·.oi) strikes with
        | [] => none
        | strike100 :: rest => some { strike100, strike2nd := rest.head?, maxOI }

def ChosenStrikes.pct (chosen : ChosenStrikes) (s : Strike) : ℚ :=
  s.oi / chosen.maxOI * 100

/-- The second strike when it has 75 percent. -/
def ChosenStrikes.competitor (chosen : ChosenStrikes) : Option Strike :=
  chosen.strike2nd.filter (fun s => 75 ≤ chosen.pct s)

def competingStrength (side : OptionType) (strike100 strike2nd : Strike) : Strength :=
  let is100Weakening := strike100.oiChng < 0
  let is2ndStrengthening := 0 < strike2nd.oiChng
  if strike100.strike < strike2nd.strike ∧ is2ndStrengthening then .WTT
  else if is100Weakening ∨
      (strike2nd.strike < strike100.strike ∧ is2ndStrengthening) then .WTB
  else match side with
    | .CE => .WTT
    | .PE => .WTB

structure LocalStrength where
  strength : Strength
  strike100 : ℚ
  strike2nd : Option ℚ
  oi_pct100 : ℚ
  oi_pct2nd : ℚ
  oi100 : ℚ
  oi2nd : ℚ
  oichng100 : ℚ
  oichng2nd : ℚ

def ChosenStrikes.strength (chosen : ChosenStrikes) (side : OptionType) : Strength :=
  match chosen.competitor with
  | none => .Strong
  | some strike2nd => competingStrength side chosen.strike100 strike2nd

def calculateSideStrengthLocal (optionChain : List Entry) (atmStrike : ℚ)
    (side : OptionType) : Option LocalStrength :=
  (chosenStrikes optionChain atmStrike side).map (fun chosen =>
    { strength := chosen.strength side
      strike100 := chosen.strike100.strike
      -- `strike2nd?.strike || null`
      strike2nd := (chosen.strike2nd.map (·.strike)).filter (· ≠ 0)
      oi_pct100 := chosen.pct chosen.strike100
      oi_pct2nd := (chosen.strike2nd.map chosen.pct).getD 0
      oi100 := chosen.strike100.oi
      oi2nd := (chosen.strike2nd.map (·.oi)).getD 0
      oichng100 := chosen.strike100.oiChng
      oichng2nd := (chosen.strike2nd.map (·.oiChng)).getD 0 })

/-! ## Scenario and levels -/

def classifyScenarioLocal (s r : Strength) : ScenarioResult :=
  match s, r with
  | .Strong, .Strong => ⟨.s1_0, "Strong Both", .neutral, .both⟩
  | .Strong, .WTB => ⟨.s1_1, "Bearish Pressure", .bearish, .short⟩
  | .Strong, .WTT => ⟨.s1_2, "Bullish Pressure", .bullish, .long⟩
  | .WTB, .Strong => ⟨.s1_3, "Support Weakness", .bearish, .short⟩
  | .WTT, .Strong => ⟨.s1_4, "Support Strength", .bullish, .long⟩
  | .WTB, .WTB => ⟨.s1_5, "Blood Bath", .bearish, .short⟩
  | .WTT, .WTT => ⟨.s1_6, "Bull Run", .bullish, .long⟩
  | .WTB, .WTT => ⟨.s1_7, "Not Tradable", .unclear, .none⟩
  | .WTT, .WTB => ⟨.s1_8, "Not Tradable", .unclear, .none⟩
  | .Unknown, _ | _, .Unknown => ⟨.unknown, "Unknown", .unknown, .none⟩

/-- `optionChain[strike]?.side`. -/
def sideAt (optionChain : List Entry) (strike : ℚ) (side : OptionType) :
    Option SideData :=
  (optionChain.find? (fun entry => entry.canonical && entry.strike = strike)).bind
    (fun entry => entry.side side)

structure LocalCOA where
  scenario : ScenarioResult
  support : LocalStrength
  resistance : LocalStrength
  levels : TradingLevels

def localLevels (optionChain : List Entry) (support resistance : LocalStrength)
    (tradable : Tradable) : TradingLevels :=
  let eos :=
    match sideAt optionChain support.strike100 .PE with
    | some supportData => support.strike100 - supportData.ltp
    | none => support.strike100
  let eor :=
    match sideAt optionChain resistance.strike100 .CE with
    | some resistanceData => resistance.strike100 + resistanceData.ltp
    | none => resistance.strike100
  { eos, eor
    eos_plus1 := eos + 50
    eos_minus1 := eos - 50
    eor_plus1 := eor + 50
    eor_minus1 := eor - 50
    top := if tradable ≠ .long then some eor else none
    bottom := if tradable ≠ .short then some eos else none
    trade_at_eos := tradable = .both || tradable = .long
    trade_at_eor := tradable = .both || tradable = .short }

def calculateLocalCOA (optionChain : List Entry) (spotPrice atmStrike : ℚ) :
    Option LocalCOA :=
  if spotPrice = 0 ∨ atmStrike = 0 then none
  else do
    let support ← calculateSideStrengthLocal optionChain atmStrike .PE
    let resistance ← calculateSideStrengthLocal optionChain atmStrike .CE
    let scenario := classifyScenarioLocal support.strength resistance.strength
    some
      { scenario, support, resistance
        levels := localLevels optionChain support resistance scenario.tradable }

/-! ## The legs for the service -/

def contract (side : OptionType) (entry : Entry) (sideData : SideData) :
    OptionContract where
  strike := entry.strike
  option_type := side
  ltp := sideData.ltp
  oi := sideData.oi
  oi_change := sideData.oi_change
  volume := sideData.volume
  gamma := sideData.gamma

def contracts (optionChain : List Entry) : List OptionContract :=
  optionChain.flatMap (fun entry =>
    (entry.ce.map (contract .CE entry)).toList ++
      (entry.pe.map (contract .PE entry)).toList)

/-- The chain that the backend serves: one entry for each strike, the key its
text, and each figure under both of its names. -/
structure Served (optionChain : List Entry) : Prop where
  distinct : (optionChain.map (·.strike)).Nodup
  canonical : ∀ entry ∈ optionChain, entry.canonical = true
  positive : ∀ entry ∈ optionChain, 0 < entry.strike
  aliased : ∀ entry ∈ optionChain, ∀ side sideData, entry.side side = some sideData →
    sideData.OI = sideData.oi ∧ sideData.oichng = sideData.oi_change

/-! ## Legs of one strike -/

section Legs

variable {optionChain : List Entry}

theorem mem_strikes {atmStrike : ℚ} {side : OptionType} {s : Strike}
    (member : s ∈ strikes optionChain atmStrike side) :
    ∃ entry ∈ optionChain, ∃ sideData, entry.side side = some sideData ∧
      s = strikeOf atmStrike side entry sideData := by
  obtain ⟨entry, among, mapped⟩ := List.mem_filterMap.mp (List.mem_filter.mp member).1
  obtain ⟨sideData, present, rfl⟩ := Option.map_eq_some_iff.mp mapped
  exact ⟨entry, among, sideData, present, rfl⟩

theorem mem_contracts {o : OptionContract} :
    o ∈ contracts optionChain ↔ ∃ entry ∈ optionChain, ∃ sideData,
      entry.side o.option_type = some sideData ∧
        o = contract o.option_type entry sideData := by
  simp only [contracts, List.mem_flatMap, List.mem_append, Option.mem_toList,
    Option.map_eq_some_iff]
  constructor
  · rintro ⟨entry, among, ⟨sideData, present, rfl⟩ | ⟨sideData, present, rfl⟩⟩
    · exact ⟨entry, among, sideData, present, rfl⟩
    · exact ⟨entry, among, sideData, present, rfl⟩
  · rintro ⟨entry, among, sideData, present, built⟩
    refine ⟨entry, among, ?_⟩
    cases kind : o.option_type with
    | CE =>
        rw [kind] at present built
        exact .inl ⟨sideData, present, built.symm⟩
    | PE =>
        rw [kind] at present built
        exact .inr ⟨sideData, present, built.symm⟩

theorem Served.entry_eq (served : Served optionChain) {entry other : Entry}
    (among : entry ∈ optionChain) (present : other ∈ optionChain)
    (same : entry.strike = other.strike) : entry = other :=
  List.inj_on_of_nodup_map served.distinct among present same

/-- A strike of the hook and a leg of the service with one number. -/
structure SameLeg (s : Strike) (o : OptionContract) : Prop where
  strike : s.strike = o.strike
  oi : s.oi = o.oi
  oiChng : s.oiChng = o.oi_change
  ltp : s.ltp = o.ltp

theorem Served.same_leg (served : Served optionChain) {atmStrike : ℚ}
    {side : OptionType} {s : Strike} {o : OptionContract}
    (member : s ∈ strikes optionChain atmStrike side)
    (listed : o ∈ side_options side (contracts optionChain))
    (same : s.strike = o.strike) : SameLeg s o := by
  obtain ⟨entry, among, sideData, present, rfl⟩ := mem_strikes member
  obtain ⟨listed, kind⟩ := List.mem_filter.mp listed
  obtain ⟨other, present_too, otherData, found, built⟩ := mem_contracts.mp listed
  rw [of_decide_eq_true kind] at found built
  have strikes : entry.strike = other.strike := by rw [built] at same; exact same
  obtain rfl := served.entry_eq among present_too strikes
  obtain rfl := Option.some.inj (present.symm.trans found)
  obtain ⟨oi, oichng⟩ := served.aliased entry among side sideData present
  refine ⟨same, ?_, ?_, by rw [built]; rfl⟩
  · rw [built]
    simp [strikeOf, contract, oi, orElse]
  · rw [built]
    simp [strikeOf, contract, oichng, orElse]

/-- Two legs of one side at one strike are the same. -/
theorem Served.leg_eq (served : Served optionChain) {o other : OptionContract}
    (listed : o ∈ contracts optionChain) (present : other ∈ contracts optionChain)
    (kinds : other.option_type = o.option_type) (strikes : other.strike = o.strike) :
    other = o := by
  obtain ⟨entry, among, sideData, found, built⟩ := mem_contracts.mp listed
  obtain ⟨otherEntry, present, otherData, read, made⟩ := mem_contracts.mp present
  have same : otherEntry.strike = entry.strike := by
    rw [built, made] at strikes
    exact strikes
  obtain rfl := served.entry_eq present among same
  rw [kinds, found] at read
  obtain rfl := Option.some.inj read
  rw [made, kinds, ← built]

/-- The price of a side in the chain, at the strike of one of its entries. -/
theorem Served.sideAt_strike (served : Served optionChain) {atmStrike : ℚ}
    {side : OptionType} {s : Strike}
    (member : s ∈ strikes optionChain atmStrike side) :
    ∃ sideData, sideAt optionChain s.strike side = some sideData ∧
      sideData.ltp = s.ltp := by
  obtain ⟨entry, among, sideData, present, rfl⟩ := mem_strikes member
  refine ⟨sideData, ?_, rfl⟩
  have matched : (optionChain.find? (fun other =>
      other.canonical && other.strike = entry.strike)).isSome := by
    rw [List.find?_isSome]
    exact ⟨entry, among, by simp [served.canonical entry among]⟩
  obtain ⟨found, first⟩ := Option.isSome_iff_exists.mp matched
  have reads := List.find?_some first
  simp only [Bool.and_eq_true, decide_eq_true_eq] at reads
  obtain rfl := served.entry_eq (List.mem_of_find?_eq_some first) among reads.2
  change (optionChain.find? (fun other =>
    other.canonical && other.strike = found.strike)).bind _ = _
  rw [first, Option.bind_some, present]

theorem ltp_at_eq {options : List OptionContract} {o : OptionContract}
    (unique : ∀ other ∈ options, other.option_type = o.option_type →
      other.strike = o.strike → other = o) :
    ∀ ltp, ltp = o.ltp ∨ o ∈ options →
      options.foldl (fun ltp opt =>
        if opt.option_type = o.option_type ∧ some opt.strike = some o.strike then opt.ltp
        else ltp) ltp = o.ltp := by
  induction options with
  | nil =>
      rintro ltp (settled | absent)
      · exact settled
      · simp at absent
  | cons opt options ih =>
      obtain ⟨own, others⟩ := List.forall_mem_cons.mp unique
      intro ltp known
      rw [List.foldl_cons]
      apply ih others
      split
      case isTrue same =>
        exact .inl (congrArg _ (own same.1 (Option.some.inj same.2)))
      case isFalse different =>
        rcases known with settled | member
        · exact .inl settled
        · rcases List.mem_cons.mp member with rfl | later
          · exact absurd ⟨rfl, rfl⟩ different
          · exact .inr later

end Legs

/-! ## Chosen strikes -/

section Chosen

variable {optionChain : List Entry} {atmStrike : ℚ} {side : OptionType}

theorem chosenStrikes_mem {local_choice : ChosenStrikes}
    (taken : chosenStrikes optionChain atmStrike side = some local_choice) :
    local_choice.strike100 ∈ strikes optionChain atmStrike side ∧
      ∀ s, local_choice.strike2nd = some s →
        s ∈ strikes optionChain atmStrike side := by
  simp only [chosenStrikes] at taken
  split at taken
  case h_1 => contradiction
  case h_2 =>
      split at taken
      case isTrue => contradiction
      case isFalse =>
          split at taken
          case h_1 => contradiction
          case h_2 strike100 rest sorted =>
              obtain rfl := Option.some.inj taken
              have perm := Ranking.perm_descending (·.oi)
                (strikes optionChain atmStrike side)
              rw [sorted] at perm
              refine ⟨perm.mem_iff.mp List.mem_cons_self, ?_⟩
              intro s second
              apply perm.mem_iff.mp
              exact List.mem_cons_of_mem _ (List.mem_of_mem_head? second)

theorem primary_mem {options : List OptionContract} {opt : Scored}
    (taken : primary options = some opt) : opt.option ∈ options := by
  rw [primary] at taken
  split at taken
  · contradiction
  · have member := List.mem_of_mem_head? taken
    rw [(Ranking.perm_descending _ _).mem_iff, scores, List.mem_map] at member
    obtain ⟨o, among, rfl⟩ := member
    exact among

theorem top_competitor_mem {wtt_threshold strike100 : ℚ} {options : List OptionContract}
    {opt : Scored} (taken : top_competitor wtt_threshold strike100 options = some opt) :
    opt.option ∈ options ∧ opt.option.strike ≠ strike100 := by
  have member := List.mem_of_mem_head? taken
  rw [(Ranking.perm_descending _ _).mem_iff, List.mem_filter, decide_eq_true_eq]
    at member
  obtain ⟨o, among, rfl⟩ := List.mem_map.mp member.1
  exact ⟨among, member.2.1⟩

end Chosen

/-! ## Strengths -/

/-- Where the hook and the service read the changes of one pair apart. -/
def ReadApart (side : OptionType) (opt100 second : OptionContract) : Prop :=
  match side with
  | .CE =>
      (second.oi_change ≤ opt100.oi_change ∧ opt100.oi_change < 0) ∨
        (second.oi_change = 0 ∧ 0 ≤ opt100.oi_change ∧ second.strike < opt100.strike)
  | .PE =>
      second.oi_change = 0 ∧ 0 ≤ opt100.oi_change ∧ opt100.strike < second.strike

/-- A competitor that gains is read alike. -/
theorem competingStrength_gaining (side : OptionType) {strike100 strike2nd : Strike}
    (gaining : 0 < strike2nd.oiChng) (apart : strike2nd.strike ≠ strike100.strike) :
    competingStrength side strike100 strike2nd =
      shift strike100.strike strike2nd.strike := by
  rw [competingStrength.eq_def, shift]
  rcases lt_or_gt_of_ne apart with below | above
  · simp [gaining, below, below.not_gt]
  · simp [gaining, above]

/-- Without a gain the hook looks at the primary alone. -/
theorem competingStrength_idle (side : OptionType) {strike100 strike2nd : Strike}
    (idle : ¬ 0 < strike2nd.oiChng) :
    competingStrength side strike100 strike2nd =
      if strike100.oiChng < 0 ∨ side = .PE then .WTB else .WTT := by
  rw [competingStrength.eq_def]
  cases side <;> simp [idle]

theorem competingStrength_eq_iff (side : OptionType) {strike100 strike2nd : Strike}
    {opt100 second : OptionContract} (first : SameLeg strike100 opt100)
    (other : SameLeg strike2nd second) (apart : second.strike ≠ opt100.strike) :
    competingStrength side strike100 strike2nd = strength_of side opt100 second ↔
      ¬ ReadApart side opt100 second := by
  obtain ⟨strike, -, change⟩ := first
  obtain ⟨otherStrike, -, otherChange⟩ := other
  by_cases gaining : 0 < second.oi_change
  · rw [competingStrength_gaining side (otherChange ▸ gaining)
      (by rwa [strike, otherStrike]), strike, otherStrike, strength_of.eq_def,
      if_pos gaining]
    apply iff_of_true rfl
    cases side with
    | CE =>
        rintro (⟨less, losing⟩ | ⟨zero, -⟩)
        · linarith
        · exact gaining.ne' zero
    | PE =>
        rintro ⟨zero, -⟩
        exact gaining.ne' zero
  · rw [competingStrength_idle side (otherChange ▸ gaining), change,
      strength_of.eq_def, if_neg gaining]
    rcases (not_lt.mp gaining).lt_or_eq with losing | level
    · by_cases weak : opt100.oi_change < 0
      · by_cases faster : opt100.oi_change < second.oi_change
        · cases side <;> simp [losing, weak, faster, losing.ne, ReadApart]
        · cases side <;> simp [losing, weak, faster, not_lt.mp faster, losing.ne,
            ReadApart]
      · have slower : ¬ opt100.oi_change < second.oi_change := by linarith
        cases side <;> simp [losing, weak, slower, losing.ne, ReadApart]
    · by_cases weak : opt100.oi_change < 0
      · cases side <;> simp [level, weak, weak.not_ge, ReadApart]
      · rcases lt_or_gt_of_ne apart with below | above
        · cases side <;>
            simp [level, weak, not_lt.mp weak, shift, below, below.not_gt, ReadApart]
        · cases side <;>
            simp [level, weak, not_lt.mp weak, shift, above, above.not_gt, ReadApart]

/-! ## The two analyses -/

def visible (optionChain : List Entry) (atmStrike : ℚ) : List OptionContract :=
  filtered_options atmStrike 50 10 (contracts optionChain)

/-- The service on the legs of the chain, with its defaults. -/
def backend (optionChain : List Entry) (spotPrice atmStrike : ℚ) : Analysis :=
  analyze 75 (contracts optionChain) spotPrice atmStrike 50 10

/-- On this side the hook and the service choose the same 100 percent strike and
the same competitor, or none. -/
def SameChoice (optionChain : List Entry) (atmStrike : ℚ) (side : OptionType) : Prop :=
  ∃ local_choice opt100 second,
    chosenStrikes optionChain atmStrike side = some local_choice ∧
    chosen 75 side (visible optionChain atmStrike) = some (opt100, second) ∧
    local_choice.strike100.strike = opt100.option.strike ∧
    local_choice.competitor.map (·.strike) = second.map (·.option.strike)

/-- The changes of the chosen pair are not read apart. -/
def ReadAlike (optionChain : List Entry) (atmStrike : ℚ) (side : OptionType) : Prop :=
  ∀ opt100 second,
    chosen 75 side (visible optionChain atmStrike) = some (opt100, some second) →
      ¬ ReadApart side opt100.option second.option

section Sides

variable {optionChain : List Entry} {atmStrike : ℚ} {side : OptionType}

theorem visible_side {o : OptionContract}
    (member : o ∈ side_options side (visible optionChain atmStrike)) :
    o ∈ side_options side (contracts optionChain) := by
  obtain ⟨seen, kind⟩ := List.mem_filter.mp member
  exact List.mem_filter.mpr ⟨(List.mem_filter.mp seen).1, kind⟩

/-- One side of the two analyses. -/
structure SideAgrees (optionChain : List Entry) (atmStrike : ℚ) (side : OptionType)
    (found : LocalStrength) (result : StrengthResult) : Prop where
  strike100 : found.strike100 = result.strike100
  positive : 0 < result.strike100
  known : result.strength ≠ .Unknown
  strength : found.strength = result.strength ↔ ReadAlike optionChain atmStrike side
  price : ∃ sideData, sideAt optionChain found.strike100 side = some sideData ∧
    sideData.ltp =
      ltp_at (visible optionChain atmStrike) side (some result.strike100)

theorem chosen_cases {options : List OptionContract} {opt100 : Scored}
    {second : Option Scored} (taken : chosen 75 side options = some (opt100, second)) :
    opt100.option ∈ side_options side options ∧
      ∀ opt, second = some opt → opt.option ∈ side_options side options ∧
        opt.option.strike ≠ opt100.option.strike := by
  obtain ⟨first, found, same⟩ := Option.map_eq_some_iff.mp taken
  obtain ⟨rfl, rfl⟩ := Prod.mk.inj same
  exact ⟨primary_mem found, fun opt => top_competitor_mem⟩

theorem competitor_mem {local_choice : ChosenStrikes} {s : Strike}
    (taken : chosenStrikes optionChain atmStrike side = some local_choice)
    (competes : local_choice.competitor = some s) :
    s ∈ strikes optionChain atmStrike side :=
  (chosenStrikes_mem taken).2 s (Option.filter_eq_some_iff.mp competes).1

theorem Served.strength_eq_iff (served : Served optionChain)
    {local_choice : ChosenStrikes} {opt100 : Scored} {second : Option Scored}
    (locally : chosenStrikes optionChain atmStrike side = some local_choice)
    (taken : chosen 75 side (visible optionChain atmStrike) = some (opt100, second))
    (leg : SameLeg local_choice.strike100 opt100.option)
    (seconds : local_choice.competitor.map (·.strike) =
      second.map (·.option.strike)) :
    local_choice.strength side = (result_of side opt100 second).strength ↔
      ReadAlike optionChain atmStrike side := by
  rw [ReadAlike, taken, ChosenStrikes.strength]
  cases second with
  | none =>
      rw [Option.map_none, Option.map_eq_none_iff] at seconds
      rw [seconds]
      exact iff_of_true rfl (by simp)
  | some second =>
      obtain ⟨s, competes, same⟩ := Option.map_eq_some_iff.mp seconds
      obtain ⟨listed, apart⟩ := (chosen_cases taken).2 second rfl
      have other : SameLeg s second.option :=
        served.same_leg (competitor_mem locally competes) (visible_side listed) same
      rw [competes]
      have alike := competingStrength_eq_iff side leg other apart
      constructor
      · rintro same_strength _ _ ⟨⟩
        exact alike.mp same_strength
      · intro read
        exact alike.mpr (read opt100 second rfl)

theorem Served.side_agrees (served : Served optionChain)
    (same : SameChoice optionChain atmStrike side) :
    ∃ found, calculateSideStrengthLocal optionChain atmStrike side = some found ∧
      SideAgrees optionChain atmStrike side found
        (detect_strength 75 (visible optionChain atmStrike) side) := by
  obtain ⟨local_choice, opt100, second, locally, taken, primaries, seconds⟩ := same
  have member := (chosenStrikes_mem locally).1
  have listed := visible_side (chosen_cases taken).1
  have leg : SameLeg local_choice.strike100 opt100.option :=
    served.same_leg member listed primaries
  have strengths := served.strength_eq_iff locally taken leg seconds
  refine ⟨_, by rw [calculateSideStrengthLocal, locally, Option.map_some], ?_⟩
  rw [detect_strength, taken]
  refine ⟨leg.strike, ?_, result_of_ne_unknown side opt100 second, strengths, ?_⟩
  · obtain ⟨entry, among, _, -, made⟩ := mem_strikes member
    change 0 < opt100.option.strike
    rw [← leg.strike, made]
    exact served.positive entry among
  · obtain ⟨sideData, found, price⟩ := served.sideAt_strike member
    refine ⟨sideData, found, ?_⟩
    obtain ⟨seen, kind⟩ := List.mem_filter.mp (chosen_cases taken).1
    have contract_listed := (List.mem_filter.mp listed).1
    have unique : ∀ other ∈ visible optionChain atmStrike,
        other.option_type = opt100.option.option_type →
        other.strike = opt100.option.strike → other = opt100.option := by
      intro other present
      exact served.leg_eq contract_listed (List.mem_filter.mp present).1
    have priced := ltp_at_eq unique 0 (.inr seen)
    rw [of_decide_eq_true kind] at priced
    rw [price, leg.ltp]
    exact priced.symm

end Sides

/-- The scenarios whose top, and whose bottom, the hook gives as the service
does. -/
def TopShared (id : ScenarioId) : Prop :=
  id ∉ [.s1_2, .s1_4, .s1_7, .s1_8]

def BottomShared (id : ScenarioId) : Prop :=
  id ∉ [.s1_1, .s1_3, .s1_7, .s1_8]

/-- What the scenario decides, where the strengths are read alike. -/
structure ScenarioAgrees (coa : LocalCOA) (result : Analysis) : Prop where
  id : coa.scenario.id = result.scenario.id
  bias : coa.scenario.bias = result.scenario.bias
  tradable : coa.scenario.tradable = result.scenario.tradable
  trade_at_eos : coa.levels.trade_at_eos = result.levels.trade_at_eos
  trade_at_eor : coa.levels.trade_at_eor = result.levels.trade_at_eor
  top : coa.levels.top = result.levels.top ↔ TopShared result.scenario.id
  bottom : coa.levels.bottom = result.levels.bottom ↔ BottomShared result.scenario.id

structure Agrees (optionChain : List Entry) (atmStrike : ℚ) (coa : LocalCOA)
    (result : Analysis) : Prop where
  support : coa.support.strike100 = result.support.strike100
  resistance : coa.resistance.strike100 = result.resistance.strike100
  support_strength : coa.support.strength = result.support.strength ↔
    ReadAlike optionChain atmStrike .PE
  resistance_strength : coa.resistance.strength = result.resistance.strength ↔
    ReadAlike optionChain atmStrike .CE
  eos : coa.levels.eos = result.levels.eos
  eor : coa.levels.eor = result.levels.eor
  beside_eos : result.levels.eos ≠ 0 →
    coa.levels.eos_plus1 = result.levels.eos_plus1 ∧
      coa.levels.eos_minus1 = result.levels.eos_minus1
  beside_eor : result.levels.eor ≠ 0 →
    coa.levels.eor_plus1 = result.levels.eor_plus1 ∧
      coa.levels.eor_minus1 = result.levels.eor_minus1
  scenario : ReadAlike optionChain atmStrike .PE → ReadAlike optionChain atmStrike .CE →
    ScenarioAgrees coa result

section Analyses

variable {optionChain : List Entry} {spotPrice atmStrike : ℚ}

/-- EOS and EOR of the service at a strike that is not 0. -/
theorem calculate_levels_eos {options : List OptionContract}
    {support resistance : StrengthResult} {scenario : ScenarioResult} {step : ℚ}
    (positive : 0 < support.strike100) :
    (calculate_levels options support resistance scenario step).eos =
      support.strike100 - ltp_at options .PE (some support.strike100) :=
  if_neg positive.ne'

theorem calculate_levels_eor {options : List OptionContract}
    {support resistance : StrengthResult} {scenario : ScenarioResult} {step : ℚ}
    (positive : 0 < resistance.strike100) :
    (calculate_levels options support resistance scenario step).eor =
      resistance.strike100 + ltp_at options .CE (some resistance.strike100) :=
  if_neg positive.ne'

theorem classify_agrees {support resistance : StrengthResult} {s r : Strength}
    (supports : s = support.strength) (resists : r = resistance.strength) :
    (classifyScenarioLocal s r).id = (classify_scenario support resistance).id ∧
      (classifyScenarioLocal s r).bias = (classify_scenario support resistance).bias ∧
      (classifyScenarioLocal s r).tradable =
        (classify_scenario support resistance).tradable := by
  rw [supports, resists, classify_scenario]
  cases support.strength <;> cases resistance.strength <;> exact ⟨rfl, rfl, rfl⟩

/-- The tradable sides of a scenario in both tables. -/
def tradableOf : ScenarioId → Tradable
  | .s1_0 => .both
  | .s1_1 | .s1_3 | .s1_5 => .short
  | .s1_2 | .s1_4 | .s1_6 => .long
  | .s1_7 | .s1_8 | .unknown => .none

theorem classify_known {support resistance : StrengthResult}
    (supports : support.strength ≠ .Unknown)
    (resists : resistance.strength ≠ .Unknown) :
    (classify_scenario support resistance).id ≠ .unknown ∧
      (classify_scenario support resistance).tradable =
        tradableOf (classify_scenario support resistance).id := by
  rw [classify_scenario]
  cases strong : support.strength <;> cases weak : resistance.strength <;> simp_all [tradableOf]

/-- The tradable sides decide the levels of the hook, and the scenario those of
the service. -/
theorem levels_agree {options : List OptionContract}
    {support resistance : StrengthResult} {found other : LocalStrength} {step : ℚ}
    {scenario : ScenarioResult} (known : scenario.id ≠ .unknown)
    (sides : scenario.tradable = tradableOf scenario.id)
    (eos : (localLevels optionChain found other scenario.tradable).eos =
      (calculate_levels options support resistance scenario step).eos)
    (eor : (localLevels optionChain found other scenario.tradable).eor =
      (calculate_levels options support resistance scenario step).eor) :
    let local_levels := localLevels optionChain found other scenario.tradable
    let levels := calculate_levels options support resistance scenario step
    local_levels.trade_at_eos = levels.trade_at_eos ∧
      local_levels.trade_at_eor = levels.trade_at_eor ∧
      (local_levels.top = levels.top ↔ TopShared scenario.id) ∧
      (local_levels.bottom = levels.bottom ↔ BottomShared scenario.id) := by
  have top : (localLevels optionChain found other scenario.tradable).top =
      if scenario.tradable ≠ .long then
        some (localLevels optionChain found other scenario.tradable).eor
      else none := rfl
  have bottom : (localLevels optionChain found other scenario.tradable).bottom =
      if scenario.tradable ≠ .short then
        some (localLevels optionChain found other scenario.tradable).eos
      else none := rfl
  simp only [top, bottom, calculate_levels_top, calculate_levels_bottom, eos, eor,
    TopShared, BottomShared]
  obtain ⟨id, name, bias, tradable⟩ := scenario
  obtain rfl : tradable = tradableOf id := sides
  cases id with
  | unknown => contradiction
  | _ => refine ⟨rfl, rfl, ?_, ?_⟩ <;> simp [top_of, bottom_of, tradableOf]

/-- Where both choose the same strikes, the hook and the service agree. -/
theorem calculateLocalCOA_agrees (served : Served optionChain) (spot : spotPrice ≠ 0)
    (atm : atmStrike ≠ 0) (supports : SameChoice optionChain atmStrike .PE)
    (resists : SameChoice optionChain atmStrike .CE) :
    ∃ coa, calculateLocalCOA optionChain spotPrice atmStrike = some coa ∧
      Agrees optionChain atmStrike coa (backend optionChain spotPrice atmStrike) := by
  obtain ⟨support, support_found, s⟩ := served.side_agrees supports
  obtain ⟨resistance, resistance_found, r⟩ := served.side_agrees resists
  have present : ¬ (spotPrice = 0 ∨ atmStrike = 0) := by simp [spot, atm]
  refine ⟨_, by rw [calculateLocalCOA, if_neg present, support_found,
    resistance_found]; rfl, ?_⟩
  obtain ⟨supportData, support_side, support_price⟩ := s.price
  obtain ⟨resistanceData, resistance_side, resistance_price⟩ := r.price
  have eos : ∀ tradable, (localLevels optionChain support resistance tradable).eos =
      (backend optionChain spotPrice atmStrike).levels.eos := by
    intro tradable
    refine Eq.trans ?_ (calculate_levels_eos s.positive).symm
    rw [localLevels, support_side, s.strike100]
    exact congrArg (_ - ·) support_price
  have eor : ∀ tradable, (localLevels optionChain support resistance tradable).eor =
      (backend optionChain spotPrice atmStrike).levels.eor := by
    intro tradable
    refine Eq.trans ?_ (calculate_levels_eor r.positive).symm
    rw [localLevels, resistance_side, r.strike100]
    exact congrArg (_ + ·) resistance_price
  exact
    { support := s.strike100
      resistance := r.strike100
      support_strength := s.strength
      resistance_strength := r.strength
      eos := eos _
      eor := eor _
      beside_eos := by
        intro nonzero
        constructor
        · exact (congrArg (· + 50) (eos .none)).trans (if_neg nonzero).symm
        · exact (congrArg (· - 50) (eos .none)).trans (if_neg nonzero).symm
      beside_eor := by
        intro nonzero
        constructor
        · exact (congrArg (· + 50) (eor .none)).trans (if_neg nonzero).symm
        · exact (congrArg (· - 50) (eor .none)).trans (if_neg nonzero).symm
      scenario := by
        intro support_alike resistance_alike
        obtain ⟨id, bias, tradable⟩ := classify_agrees (s.strength.mpr support_alike)
          (r.strength.mpr resistance_alike)
        obtain ⟨known, sides⟩ := classify_known s.known r.known
        have levels := levels_agree known sides (eos _) (eor _)
        rw [← tradable] at levels
        exact ⟨id, bias, tradable, levels.1, levels.2.1, levels.2.2.1, levels.2.2.2⟩ }

end Analyses

theorem sameChoice_of {optionChain : List Entry} {atmStrike : ℚ} {side : OptionType}
    (locally : (chosenStrikes optionChain atmStrike side).isSome)
    (taken : (chosen 75 side (visible optionChain atmStrike)).isSome)
    (primaries : ((chosenStrikes optionChain atmStrike side).get locally).strike100.strike
      = ((chosen 75 side (visible optionChain atmStrike)).get taken).1.option.strike)
    (seconds :
      (((chosenStrikes optionChain atmStrike side).get locally).competitor.map
          (·.strike)) =
        ((chosen 75 side (visible optionChain atmStrike)).get taken).2.map
          (·.option.strike)) :
    SameChoice optionChain atmStrike side :=
  ⟨_, _, _, (Option.some_get locally).symm, (Option.some_get taken).symm, primaries,
    seconds⟩

/-- A put at 90 and a call at 110. -/
def two_legs : List Entry :=
  [{ strike := 90, pe := some { OI := 100, oi := 100, ltp := 2 } },
   { strike := 110, ce := some { OI := 100, oi := 100, ltp := 3 } }]

theorem served_two_legs : Served two_legs where
  distinct := by decide
  canonical := by simp [two_legs]
  positive := by simp [two_legs]
  aliased := by
    intro entry member side sideData found
    simp only [two_legs, List.mem_cons, List.not_mem_nil, or_false] at member
    rcases member with rfl | rfl <;> cases side <;>
      simp only [Entry.side, Option.some.injEq, reduceCtorEq] at found <;>
      subst found <;> exact ⟨rfl, rfl⟩

theorem calculateLocalCOA_agrees_two_legs :
    ∃ coa, calculateLocalCOA two_legs 100 100 = some coa ∧
      Agrees two_legs 100 coa (backend two_legs 100 100) :=
  calculateLocalCOA_agrees served_two_legs (by norm_num) (by norm_num)
    (sameChoice_of (by decide) (by with_unfolding_all decide) (by with_unfolding_all decide)
      (by with_unfolding_all decide))
    (sameChoice_of (by decide) (by with_unfolding_all decide) (by with_unfolding_all decide)
      (by with_unfolding_all decide))

/-- Of two calls the hook takes the one with more open interest, and the service
the one whose open interest changes. -/
theorem calculateLocalCOA_two_calls :
    (calculateLocalCOA
        [{ strike := 90, pe := some { OI := 100, oi := 100 } },
         { strike := 110, ce := some { OI := 100, oi := 100 } },
         { strike := 120, ce := some
            { OI := 90, oi := 90, oichng := 50, oi_change := 50 } }] 100 100).map
      (fun coa => (coa.resistance.strength, coa.scenario.id, coa.levels.eor)) =
        some (.WTT, .s1_2, 110) ∧
    (fun result : Analysis =>
      (result.resistance.strength, result.scenario.id, result.levels.eor))
      (backend
        [{ strike := 90, pe := some { OI := 100, oi := 100 } },
         { strike := 110, ce := some { OI := 100, oi := 100 } },
         { strike := 120, ce := some
            { OI := 90, oi := 90, oichng := 50, oi_change := 50 } }] 100 100) =
        (.WTB, .s1_1, 120) := by
  constructor
  · with_unfolding_all decide
  · with_unfolding_all decide

end HftEngine.Frontend.ChartOfAccuracy
