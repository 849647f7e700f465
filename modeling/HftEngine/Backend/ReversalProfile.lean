import HftEngine.Lib.Python.Exact
import HftEngine.Lib.Ranking
import HftEngine.Lib.Segments
import Mathlib.Data.Finset.Insert

/-!
# Reversal profiles

`ReversalProfileCalculator` collects the reversal points of an option chain, scores them,
puts points of one direction that are near to each other into clusters, and selects the
best cluster above and below the spot price.
-/

namespace HftEngine.Backend

namespace ReversalProfile

open Py.Exact

variable {α : Type} [Field α] [LinearOrder α]

/-! ## The option chain -/

/-- The open interest of a leg, under each of its two names; it can be null. -/
structure Leg (α : Type) where
  OI : Option (Option α) := none
  oi : Option (Option α) := none

/-- `leg.get('OI', leg.get('oi', 0)) or 0` -/
def Leg.open_interest (leg : Leg α) : α :=
  (leg.OI.getD (leg.oi.getD (some 0))).getD 0

/-- What is missing or null counts as 0. -/
structure StrikeData (α : Type) where
  ce : Leg α := {}
  pe : Leg α := {}
  reversal : Option α := none
  wkly_reversal : Option α := none
  fut_reversal : Option α := none

abbrev OptionChain (α : Type) :=
  List (α × StrikeData α)

inductive Timeframe where
  | Intraday
  | Weekly
  | Future
  deriving DecidableEq

def Timeframe.weight : Timeframe → α
  | .Intraday => 1
  | .Weekly => 1.5
  | .Future => 0.8

/-! ## Collecting -/

structure Point (α : Type) where
  price : α
  strike : α
  timeframe : Timeframe
  strength : α
  ce_oi : α
  pe_oi : α
  total_oi : α
  is_resistance : Bool
  deriving DecidableEq

section Collecting

variable (spot : α) (min_significant_oi : Option α)

def point (strike ce_oi pe_oi level_price : α) (timeframe : Timeframe) : Point α :=
  let is_resistance : Bool := spot < level_price
  { price := level_price
    strike
    timeframe
    strength := (if is_resistance then ce_oi else pe_oi) * timeframe.weight
    ce_oi
    pe_oi
    total_oi := ce_oi + pe_oi
    is_resistance }

def points_of_strike (strike : α) (strike_data : StrikeData α) : List (Point α) :=
  let reversal := strike_data.reversal.getD 0
  let wkly_reversal := strike_data.wkly_reversal.getD 0
  let fut_reversal := strike_data.fut_reversal.getD 0
  if reversal = 0 ∧ wkly_reversal = 0 ∧ fut_reversal = 0 then []
  else
    let ce_oi := strike_data.ce.open_interest
    let pe_oi := strike_data.pe.open_interest
    if ce_oi + pe_oi < min_significant_oi.getD 100.0 then []
    else
      [(reversal, Timeframe.Intraday), (wkly_reversal, .Weekly),
        (fut_reversal, .Future)].filterMap (fun (level_price, timeframe) =>
          if 0 < level_price then some (point spot strike ce_oi pe_oi level_price timeframe)
          else none)

def reversal_points (oc : OptionChain α) : List (Point α) :=
  oc.flatMap (fun (strike, strike_data) =>
    points_of_strike spot min_significant_oi strike strike_data)

end Collecting

/-! ## Scoring -/

structure ScoredPoint (α : Type) extends Point α where
  score : α
  z_score : α
  dir_bias : α

/-- With `statistics.stdev` as a parameter. -/
def scored (stdev : List α → α) (spot : α) (points : List (Point α)) :
    List (ScoredPoint α) :=
  let strengths := points.map Point.strength
  let max_strength := strengths.max?.getD 1
  let mean_strength := strengths.sum / strengths.length
  let stdev_strength := if 1 < strengths.length then stdev strengths else 1
  points.map (fun p =>
    let z_score :=
      if 0 < stdev_strength then (p.strength - mean_strength) / stdev_strength else 0
    let concentration := if 0 < max_strength then p.strength / max_strength else 0
    let proximity := max 0 (1 - |p.price - spot| / (spot * 0.02))
    let score :=
      min (max z_score 0) 3.0 / 3.0 * 0.40 + concentration * 0.35 + proximity * 0.25
    let dir_bias :=
      if 0 < p.total_oi then (if p.is_resistance then p.ce_oi else p.pe_oi) / p.total_oi
      else 0.5
    { p with
      score := score * (1 + (dir_bias - 0.5) * 0.3)
      z_score
      dir_bias })

/-! ## Clustering -/

def strike_step (oc : OptionChain α) : α :=
  let strikes := Ranking.ascending id (oc.map Prod.fst)
  let diffs := (List.zipWith (fun low high => high - low) strikes strikes.tail).take 10
  diffs.min?.getD 50.0

structure Cluster (α : Type) where
  points : List (ScoredPoint α)
  weighted_price : α
  total_strength : α
  total_ce_oi : α
  total_pe_oi : α
  total_oi : α
  max_score : α
  is_resistance : Bool
  timeframes : Finset Timeframe

def Cluster.new (p : ScoredPoint α) : Cluster α where
  points := [p]
  weighted_price := p.price * p.strength
  total_strength := p.strength
  total_ce_oi := p.ce_oi
  total_pe_oi := p.pe_oi
  total_oi := p.total_oi
  max_score := p.score
  is_resistance := p.is_resistance
  timeframes := {p.timeframe}

def Cluster.add (cluster : Cluster α) (p : ScoredPoint α) : Cluster α where
  points := cluster.points ++ [p]
  weighted_price := cluster.weighted_price + p.price * p.strength
  total_strength := cluster.total_strength + p.strength
  total_ce_oi := cluster.total_ce_oi + p.ce_oi
  total_pe_oi := cluster.total_pe_oi + p.pe_oi
  total_oi := cluster.total_oi + p.total_oi
  max_score := max cluster.max_score p.score
  is_resistance := cluster.is_resistance
  timeframes := insert p.timeframe cluster.timeframes

/-- The centre of the open cluster and the price of a closed one. -/
def Cluster.final_price (cluster : Cluster α) : α :=
  if 0 < cluster.total_strength then cluster.weighted_price / cluster.total_strength
  else (cluster.points.head?.map (·.price)).getD 0

def Cluster.Near (cluster_threshold : α) (cluster : Cluster α) (p : ScoredPoint α) : Prop :=
  |p.price - cluster.final_price| ≤ cluster_threshold ∧
    p.is_resistance = cluster.is_resistance

instance (cluster_threshold : α) (cluster : Cluster α) (p : ScoredPoint α) :
    Decidable (cluster.Near cluster_threshold p) :=
  inferInstanceAs (Decidable (_ ∧ _))

/-- None where there are fewer than two points. -/
def clusters (stdev : List α → α) (spot : α) (min_significant_oi : Option α)
    (oc : OptionChain α) : List (Cluster α) :=
  let reversal_points := reversal_points spot min_significant_oi oc
  if reversal_points.length < 2 then []
  else
    Segments.segments Cluster.new Cluster.add (Cluster.Near (strike_step oc * 1.5))
      (Ranking.ascending (fun p => p.price) (scored stdev spot reversal_points))

def Cluster.cluster_score (cluster : Cluster α) : α :=
  let multi_tf_bonus := 1 + ((cluster.timeframes.card : α) - 1) * 0.15
  cluster.max_score * multi_tf_bonus * (1 + cluster.points.length * 0.05)

def Cluster.dir_bias (cluster : Cluster α) : α :=
  if 0 < cluster.total_oi then
    (if cluster.is_resistance then cluster.total_ce_oi else cluster.total_pe_oi) /
      cluster.total_oi
  else 0.5

/-! ## Selecting -/

inductive ZoneType where
  | R
  | S
  deriving DecidableEq

def ZoneType.is_resistance : ZoneType → Bool
  | .R => true
  | .S => false

structure Zone (α : Type) where
  price : α
  type : ZoneType
  score : α
  ce_oi : α
  pe_oi : α
  total_oi : α
  timeframes : Finset Timeframe
  dir_bias : α
  point_count : ℕ

def zone (type : ZoneType) (best : Cluster α) : Zone α where
  price := best.final_price
  type
  score := best.cluster_score
  ce_oi := best.total_ce_oi
  pe_oi := best.total_pe_oi
  total_oi := best.total_oi
  timeframes := best.timeframes
  dir_bias := best.dir_bias
  point_count := best.points.length

/-- The best cluster of a side, where its score is large enough. -/
def best_zone (clusters : List (Cluster α)) (type : ZoneType) : Option (Zone α) :=
  let side := clusters.filter (fun c => c.is_resistance = type.is_resistance)
  match Ranking.descending Cluster.cluster_score side with
  | [] => none
  | best :: _ => if 0.10 < best.cluster_score then some (zone type best) else none

def selected (clusters : List (Cluster α)) : List (Zone α) :=
  (best_zone clusters .R).toList ++ (best_zone clusters .S).toList

/-! ## The profile -/

inductive Confidence where
  | HIGH
  | MEDIUM
  | LOW
  deriving DecidableEq

structure DataPoint (α : Type) where
  strike : α
  ce_val : α
  pe_val : α
  total : α
  opacity : α
  is_dominant : Bool
  zone_type : ZoneType
  confidence : Confidence
  timeframes : Finset Timeframe
  multi_timeframe : Bool
  cluster_size : ℕ
  score : α

structure Profile (α : Type) where
  data_points : List (DataPoint α)
  max_val : α
  name : String := "Reversal Zones"
  ce_label : Option String := none
  pe_label : Option String := none

def data_point [FloorRing α] (max_score : α) (zone : Zone α) : DataPoint α :=
  let conf_pct := if 0 < max_score then zone.score / max_score else 0
  let (confidence, opacity) :=
    if 0.8 ≤ conf_pct then (Confidence.HIGH, 1.0)
    else if 0.5 ≤ conf_pct then (Confidence.MEDIUM, 0.8)
    else (Confidence.LOW, 0.6)
  let is_r := zone.type = .R
  let is_dominant : Bool := 0.6 ≤ zone.dir_bias
  let (ce_val, pe_val) :=
    if is_dominant then (if is_r then zone.total_oi else 0, if is_r then 0 else zone.total_oi)
    else (zone.ce_oi, zone.pe_oi)
  { strike := zone.price
    ce_val
    pe_val
    total := zone.total_oi
    opacity
    is_dominant
    zone_type := zone.type
    confidence
    timeframes := zone.timeframes
    multi_timeframe := 1 < zone.timeframes.card
    cluster_size := zone.point_count
    score := roundTo 1 (zone.score * 100.0) }

def calculate [FloorRing α] (stdev : List α → α) (spot : α) (min_significant_oi : Option α)
    (oc : OptionChain α) : Profile α :=
  let selected := selected (clusters stdev spot min_significant_oi oc)
  if selected.isEmpty then { data_points := [], max_val := 0 }
  else
    let max_score := (selected.map Zone.score).foldl max 0
    let data_points := selected.map (data_point max_score)
    { data_points
      max_val := (data_points.map DataPoint.total).max?.getD 0
      ce_label := some "Resistance"
      pe_label := some "Support" }

/-! ## Collected and scored points -/

section Points

variable {spot : α} {min_significant_oi : Option α} {oc : OptionChain α}
  {stdev : List α → α}

/-- No leg of the chain has a negative open interest. -/
def Nonneg (oc : OptionChain α) : Prop :=
  ∀ entry ∈ oc, 0 ≤ entry.2.ce.open_interest ∧ 0 ≤ entry.2.pe.open_interest

instance (oc : OptionChain α) : Decidable (Nonneg oc) :=
  inferInstanceAs (Decidable (∀ entry ∈ oc, _ ∧ _))

/-- What is known of a collected point. -/
structure Collected (spot : α) (p : Point α) : Prop where
  direction : p.is_resistance = true ↔ spot < p.price
  strength_nonneg : 0 ≤ p.strength

theorem collected_of_mem [IsStrictOrderedRing α] (nonneg : Nonneg oc) {p : Point α}
    (member : p ∈ reversal_points spot min_significant_oi oc) : Collected spot p := by
  obtain ⟨⟨strike, strike_data⟩, entry, among⟩ := List.mem_flatMap.mp member
  obtain ⟨ce_nonneg, pe_nonneg⟩ := nonneg _ entry
  dsimp only [points_of_strike] at among
  split_ifs at among with missing small
  · cases among
  · cases among
  · obtain ⟨⟨level_price, timeframe⟩, -, made⟩ := List.mem_filterMap.mp among
    obtain ⟨-, made⟩ := Option.ite_none_right_eq_some.mp made
    obtain rfl := Option.some.inj made
    constructor
    case direction => exact decide_eq_true_iff
    case strength_nonneg =>
      have weight_nonneg : (0 : α) ≤ timeframe.weight := by
        cases timeframe with
        | Intraday => exact zero_le_one
        | Weekly => norm_num [Timeframe.weight]
        | Future => norm_num [Timeframe.weight]
      apply mul_nonneg _ weight_nonneg
      split_ifs
      · exact ce_nonneg
      · exact pe_nonneg

theorem map_scored (points : List (Point α)) :
    (scored stdev spot points).map ScoredPoint.toPoint = points := by
  rw [scored, List.map_map]
  exact List.map_id points

end Points

/-! ## Clusters -/

section Clusters

variable {spot : α} {cluster : Cluster α}

/-- One direction, and the sums over the points. -/
structure Cluster.Sound (cluster : Cluster α) : Prop where
  some_point : cluster.points ≠ []
  direction : ∀ p ∈ cluster.points, p.is_resistance = cluster.is_resistance
  weighted_price : cluster.weighted_price =
    (cluster.points.map (fun p => p.price * p.strength)).sum
  total_strength : cluster.total_strength = (cluster.points.map (fun p => p.strength)).sum
  total_ce_oi : cluster.total_ce_oi = (cluster.points.map (fun p => p.ce_oi)).sum
  total_pe_oi : cluster.total_pe_oi = (cluster.points.map (fun p => p.pe_oi)).sum
  total_oi : cluster.total_oi = (cluster.points.map (fun p => p.total_oi)).sum
  max_score : ∀ p ∈ cluster.points, p.score ≤ cluster.max_score
  timeframes : ∀ timeframe, timeframe ∈ cluster.timeframes ↔
    ∃ p ∈ cluster.points, p.timeframe = timeframe

theorem sound_new (p : ScoredPoint α) : (Cluster.new p).Sound := by
  constructor <;> simp [Cluster.new, eq_comm]

theorem sound_add {p : ScoredPoint α} (sound : cluster.Sound)
    (same : p.is_resistance = cluster.is_resistance) : (cluster.add p).Sound := by
  constructor
  case some_point => simp [Cluster.add]
  case direction =>
    intro other member
    rcases List.mem_append.mp member with old | new
    · exact sound.direction other old
    · rw [List.mem_singleton.mp new]
      exact same
  case weighted_price => simp [Cluster.add, sound.weighted_price]
  case total_strength => simp [Cluster.add, sound.total_strength]
  case total_ce_oi => simp [Cluster.add, sound.total_ce_oi]
  case total_pe_oi => simp [Cluster.add, sound.total_pe_oi]
  case total_oi => simp [Cluster.add, sound.total_oi]
  case max_score =>
    intro other member
    rcases List.mem_append.mp member with old | new
    · exact (sound.max_score other old).trans (le_max_left _ _)
    · rw [List.mem_singleton.mp new]
      exact le_max_right _ _
  case timeframes =>
    intro timeframe
    simp only [Cluster.add, Finset.mem_insert, sound.timeframes, List.mem_append,
      List.mem_singleton, or_and_right, exists_or, exists_eq_left]
    rw [or_comm, eq_comm]

/-- Between the lowest and the highest price of the points. -/
def Cluster.InRange (cluster : Cluster α) : Prop :=
  ∃ lowest ∈ cluster.points, ∃ highest ∈ cluster.points,
    (∀ p ∈ cluster.points, lowest.price ≤ p.price ∧ p.price ≤ highest.price) ∧
      lowest.price ≤ cluster.final_price ∧ cluster.final_price ≤ highest.price

theorem inRange_of_sound [IsStrictOrderedRing α] (sound : cluster.Sound)
    (nonneg : ∀ p ∈ cluster.points, 0 ≤ p.strength) : cluster.InRange := by
  obtain ⟨lowest, low_member, low⟩ :=
    Ranking.exists_least (fun p : ScoredPoint α => p.price) sound.some_point
  obtain ⟨highest, high_member, high⟩ :=
    Ranking.exists_greatest (fun p : ScoredPoint α => p.price) sound.some_point
  refine ⟨lowest, low_member, highest, high_member,
    fun p member => ⟨low p member, high p member⟩, ?_⟩
  rw [Cluster.final_price]
  split_ifs with positive
  · rw [le_div_iff₀ positive, div_le_iff₀ positive, sound.weighted_price,
      sound.total_strength, ← List.sum_map_mul_left, ← List.sum_map_mul_left]
    constructor
    · apply List.sum_le_sum
      intro p member
      exact mul_le_mul_of_nonneg_right (low p member) (nonneg p member)
    · apply List.sum_le_sum
      intro p member
      exact mul_le_mul_of_nonneg_right (high p member) (nonneg p member)
  · cases listed : cluster.points with
    | nil => exact absurd listed sound.some_point
    | cons first rest =>
        have member : first ∈ cluster.points := listed ▸ List.mem_cons_self
        exact ⟨low first member, high first member⟩

end Clusters

/-! ## The best clusters -/

section Best

variable {clusters : List (Cluster α)} {type : ZoneType} {zone : Zone α}

/-- The zone of a cluster with the greatest score of its side. -/
def IsBest (clusters : List (Cluster α)) (zone : Zone α) : Prop :=
  ∃ best ∈ clusters, best.is_resistance = zone.type.is_resistance ∧
    zone = ReversalProfile.zone zone.type best ∧
      ∀ other ∈ clusters, other.is_resistance = zone.type.is_resistance →
        other.cluster_score ≤ best.cluster_score

theorem isBest_of_best_zone (found : best_zone clusters type = some zone) :
    zone.type = type ∧ IsBest clusters zone := by
  dsimp only [best_zone] at found
  split at found
  case h_1 => cases found
  case h_2 best rest listed =>
    obtain ⟨-, found⟩ := Option.ite_none_right_eq_some.mp found
    obtain rfl := Option.some.inj found
    obtain ⟨first, greatest⟩ := Ranking.first_of_descending listed
    obtain ⟨member, side⟩ := List.mem_filter.mp first
    refine ⟨rfl, best, member, of_decide_eq_true side, rfl, ?_⟩
    intro other among same
    exact greatest other (List.mem_filter.mpr ⟨among, decide_eq_true same⟩)

theorem isBest_of_mem_selected (member : zone ∈ selected clusters) :
    IsBest clusters zone := by
  rcases List.mem_append.mp member with resistance | support
  · exact (isBest_of_best_zone (Option.mem_toList.mp resistance)).2
  · exact (isBest_of_best_zone (Option.mem_toList.mp support)).2

theorem selected_of_score {cluster : Cluster α} (member : cluster ∈ clusters)
    (large : 0.10 < cluster.cluster_score) :
    ∃ zone ∈ selected clusters, zone.type.is_resistance = cluster.is_resistance := by
  obtain ⟨type, side⟩ : ∃ type : ZoneType, cluster.is_resistance = type.is_resistance := by
    cases cluster.is_resistance with
    | true => exact ⟨.R, rfl⟩
    | false => exact ⟨.S, rfl⟩
  have found : ∃ zone, best_zone clusters type = some zone := by
    have among : cluster ∈ clusters.filter (fun c => c.is_resistance = type.is_resistance) :=
      List.mem_filter.mpr ⟨member, decide_eq_true side⟩
    dsimp only [best_zone]
    split
    case h_1 listed =>
      have listed_among := (Ranking.perm_descending Cluster.cluster_score _).mem_iff.mpr among
      rw [listed] at listed_among
      cases listed_among
    case h_2 best rest listed =>
      have greatest := (Ranking.first_of_descending listed).2 cluster among
      exact ⟨_, if_pos (large.trans_le greatest)⟩
  obtain ⟨zone, found⟩ := found
  have zone_type := (isBest_of_best_zone found).1
  refine ⟨zone, ?_, zone_type ▸ side.symm⟩
  cases type with
  | R => exact List.mem_append_left _ (Option.mem_toList.mpr found)
  | S => exact List.mem_append_right _ (Option.mem_toList.mpr found)

end Best

/-! ## The profile of a chain -/

section Profile

variable {oc : OptionChain α} (stdev : List α → α) (spot : α)
  (min_significant_oi : Option α)

/-- The points of the clusters, one cluster after the other, are the collected points in
the order of their prices. -/
theorem points_clusters
    (enough : 2 ≤ (reversal_points spot min_significant_oi oc).length) :
    let points := (clusters stdev spot min_significant_oi oc).flatMap Cluster.points
    (points.map ScoredPoint.toPoint).Perm (reversal_points spot min_significant_oi oc) ∧
      points.Pairwise (fun p q => p.price ≤ q.price) := by
  have flat : (clusters stdev spot min_significant_oi oc).flatMap Cluster.points =
      Ranking.ascending (fun p => p.price)
        (scored stdev spot (reversal_points spot min_significant_oi oc)) := by
    rw [clusters, if_neg (not_lt.mpr enough)]
    exact Segments.flatMap_segments (fun _ => rfl) (fun _ _ => rfl) _
  rw [flat]
  constructor
  · have perm := (Ranking.perm_ascending (fun p : ScoredPoint α => p.price)
      (scored stdev spot (reversal_points spot min_significant_oi oc))).map ScoredPoint.toPoint
    rwa [map_scored] at perm
  · exact Ranking.pairwise_ascending

theorem sound_of_mem {cluster : Cluster α}
    (member : cluster ∈ clusters stdev spot min_significant_oi oc) : cluster.Sound := by
  rw [clusters] at member
  split_ifs at member with few
  · cases member
  · exact Segments.forall_segments (fun p _ => sound_new p)
      (fun p _ segment near sound => sound_add sound near.2) cluster member

/-- The points of the profile are the selected zones. -/
theorem data_points_calculate [FloorRing α] :
    (calculate stdev spot min_significant_oi oc).data_points.map
        (fun d => (d.strike, d.zone_type)) =
      (selected (clusters stdev spot min_significant_oi oc)).map
        (fun zone => (zone.price, zone.type)) := by
  rw [calculate]
  split
  case isTrue none_selected =>
    rw [List.isEmpty_iff.mp none_selected]
    rfl
  case isFalse =>
    rw [List.map_map]
    rfl

variable [IsStrictOrderedRing α] {stdev spot min_significant_oi}

theorem collected_of_cluster (nonneg : Nonneg oc) {cluster : Cluster α}
    (member : cluster ∈ clusters stdev spot min_significant_oi oc) {p : ScoredPoint α}
    (inside : p ∈ cluster.points) : Collected spot p.toPoint := by
  have enough : 2 ≤ (reversal_points spot min_significant_oi oc).length := by
    by_contra few
    rw [clusters, if_pos (not_le.mp few)] at member
    cases member
  have perm := (points_clusters stdev spot min_significant_oi enough).1
  apply collected_of_mem nonneg
  exact perm.mem_iff.mp (List.mem_map_of_mem (List.mem_flatMap.mpr ⟨cluster, member, inside⟩))

theorem inRange_of_mem (nonneg : Nonneg oc) {cluster : Cluster α}
    (member : cluster ∈ clusters stdev spot min_significant_oi oc) : cluster.InRange :=
  inRange_of_sound (sound_of_mem stdev spot min_significant_oi member)
    (fun _ inside => (collected_of_cluster nonneg member inside).strength_nonneg)

/-- The price of a cluster is on its side of the spot price. -/
theorem final_price_side (nonneg : Nonneg oc) {cluster : Cluster α}
    (member : cluster ∈ clusters stdev spot min_significant_oi oc) :
    cluster.is_resistance = true ↔ spot < cluster.final_price := by
  have sound := sound_of_mem stdev spot min_significant_oi member
  obtain ⟨lowest, low_member, highest, high_member, -, low, high⟩ :=
    inRange_of_mem nonneg member
  have above := (collected_of_cluster nonneg member low_member).direction
  have below := (collected_of_cluster nonneg member high_member).direction
  rw [sound.direction _ low_member] at above
  rw [sound.direction _ high_member] at below
  constructor
  · intro resistance
    exact (above.mp resistance).trans_le low
  · intro beyond
    exact below.mpr (beyond.trans_le high)

theorem type_of_selected (nonneg : Nonneg oc) {zone : Zone α}
    (best : IsBest (clusters stdev spot min_significant_oi oc) zone) :
    zone.type = .R ↔ spot < zone.price := by
  obtain ⟨cluster, member, side, made, -⟩ := best
  have priced : zone.price = cluster.final_price := by rw [made]; rfl
  rw [priced, ← final_price_side nonneg member, side]
  cases zone.type with
  | R => exact iff_of_true rfl rfl
  | S => exact iff_of_false ZoneType.noConfusion Bool.noConfusion

/-- Where two points or more are collected the clusters hold them all; with fewer there is
no cluster.  The zones that are selected are those of the best clusters. -/
theorem profile_clusters [FloorRing α] (nonneg : Nonneg oc) :
    let collected := reversal_points spot min_significant_oi oc
    let clusters := clusters stdev spot min_significant_oi oc
    (collected.length < 2 → clusters = []) ∧
    (2 ≤ collected.length →
      ((clusters.flatMap Cluster.points).map ScoredPoint.toPoint).Perm collected ∧
        (clusters.flatMap Cluster.points).Pairwise (fun p q => p.price ≤ q.price)) ∧
    (∀ cluster ∈ clusters, cluster.Sound ∧ cluster.InRange) ∧
    (∀ zone ∈ selected clusters,
      IsBest clusters zone ∧ (zone.type = .R ↔ spot < zone.price)) ∧
    (∀ cluster ∈ clusters, 0.10 < cluster.cluster_score →
      ∃ zone ∈ selected clusters, zone.type.is_resistance = cluster.is_resistance) ∧
    (calculate stdev spot min_significant_oi oc).data_points.map
        (fun d => (d.strike, d.zone_type)) =
      (selected clusters).map (fun zone => (zone.price, zone.type)) := by
  intro collected clusters
  refine ⟨?_, ?_, ?_, ?_, ?_, ?_⟩
  · exact fun few => if_pos few
  · exact fun enough => points_clusters stdev spot min_significant_oi enough
  · intro cluster member
    exact ⟨sound_of_mem stdev spot min_significant_oi member, inRange_of_mem nonneg member⟩
  · intro zone member
    have best := isBest_of_mem_selected member
    exact ⟨best, type_of_selected nonneg best⟩
  · exact fun cluster member large => selected_of_score member large
  · exact data_points_calculate stdev spot min_significant_oi

/-- Two equal strengths, which have no deviation. -/
def two_strikes : OptionChain ℚ :=
  [(100, { ce := { OI := some (some 200) }, reversal := some 105 }),
    (110, { ce := { oi := some (some 200) }, reversal := some 115 })]

theorem nonneg_two_strikes : Nonneg two_strikes := by
  decide

theorem profile_clusters_two_strikes :
    let clusters := clusters (fun _ => 0) 90 none two_strikes
    ((clusters.flatMap Cluster.points).map ScoredPoint.toPoint).Perm
        (reversal_points 90 none two_strikes) ∧
      (clusters.flatMap Cluster.points).Pairwise (fun p q => p.price ≤ q.price) :=
  (profile_clusters nonneg_two_strikes).2.1 (by with_unfolding_all decide)

def one_strike : OptionChain ℚ :=
  [(100, { ce := { OI := some (some 200) }, reversal := some 105 })]

/-- A point that is collected alone is in no cluster. -/
theorem not_partition_one_strike :
    Nonneg one_strike ∧
      ¬((((clusters (fun _ => 0) 90 none one_strike).flatMap Cluster.points).map
        ScoredPoint.toPoint).Perm (reversal_points 90 none one_strike)) := by
  with_unfolding_all decide

end Profile

end ReversalProfile

end HftEngine.Backend
