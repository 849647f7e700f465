import Mathlib.Algebra.BigOperators.Group.List.Basic
import Mathlib.Algebra.Order.BigOperators.Group.List
import Mathlib.Algebra.Order.Field.Basic
import Mathlib.Tactic.FieldSimp
import Mathlib.Tactic.LinearCombination
import Mathlib.Tactic.Linarith
import Mathlib.Tactic.Ring

/-!
# Least squares

Curves that come closest to a list of points.  A curve whose residuals are orthogonal to
what another curve adds leaves no larger sum of squares than it.  The determinants of the
normal equations of a line and of a parabola are sums over the pairs and over the triples of points,
so they are positive where there are two, or three, abscissas.
-/

universe u

namespace LeastSquares

variable {α : Type u}

/-! ## Sums over points -/

structure Point (α : Type u) where
  x : α
  y : α
  deriving DecidableEq

section Totals

variable [CommRing α] {ι : Type*}

def total (f : ι → α) (points : List ι) : α :=
  (points.map f).sum

@[simp] theorem total_nil (f : ι → α) : total f [] = 0 := rfl

@[simp] theorem total_cons (f : ι → α) (point : ι) (points : List ι) :
    total f (point :: points) = f point + total f points := by
  rw [total, total, List.map_cons, List.sum_cons]

theorem total_perm {points others : List ι} (same : points.Perm others) (f : ι → α) :
    total f points = total f others :=
  (same.map f).sum_eq

end Totals

section Positive

variable [CommRing α] [LinearOrder α] [IsStrictOrderedRing α] {ι : Type*} {f : ι → α}

theorem total_nonneg (nonneg : ∀ point, 0 ≤ f point) (points : List ι) : 0 ≤ total f points := by
  refine List.sum_nonneg ?_
  intro value member
  obtain ⟨point, -, rfl⟩ := List.mem_map.mp member
  exact nonneg point

theorem le_total (nonneg : ∀ point, 0 ≤ f point) {points : List ι} {point : ι}
    (member : point ∈ points) : f point ≤ total f points := by
  refine List.single_le_sum ?_ _ (List.mem_map.mpr ⟨point, member, rfl⟩)
  intro value listed
  obtain ⟨other, -, rfl⟩ := List.mem_map.mp listed
  exact nonneg other

end Positive

/-! ## Residuals -/

/-- The sum of the squares of what a curve leaves unexplained. -/
def residuals [CommRing α] (curve : α → α) (points : List (Point α)) : α :=
  total (fun point => (point.y - curve point.x) ^ 2) points

section Residual

variable [CommRing α] (curve other : α → α) (points : List (Point α))

/-- What the residuals of a curve and what another curve adds have in common. -/
def overlap : α :=
  total (fun point => (point.y - curve point.x) * (other point.x - curve point.x)) points

theorem residuals_eq_add :
    residuals other points =
      residuals curve points - 2 * overlap curve other points +
        total (fun point => (other point.x - curve point.x) ^ 2) points := by
  induction points with
  | nil => simp [residuals, overlap]
  | cons point points ih =>
      simp only [residuals, overlap, total_cons] at ih ⊢
      rw [ih]
      ring

variable [LinearOrder α] [IsStrictOrderedRing α] {curve other points}

theorem residuals_nonneg : 0 ≤ residuals curve points :=
  total_nonneg (fun _ => sq_nonneg _) points

theorem residuals_le_of_orthogonal (orthogonal : overlap curve other points = 0) :
    residuals curve points ≤ residuals other points := by
  have added := total_nonneg (fun point : Point α => sq_nonneg (other point.x - curve point.x))
    points
  rw [residuals_eq_add curve other, orthogonal]
  linarith

/-- A curve that leaves no more is the same one at the points. -/
theorem eq_of_residuals_le (orthogonal : overlap curve other points = 0)
    (least : residuals other points ≤ residuals curve points) {point : Point α}
    (member : point ∈ points) : other point.x = curve point.x := by
  have bound := le_total (fun point : Point α => sq_nonneg (other point.x - curve point.x)) member
  rw [residuals_eq_add curve other, orthogonal] at least
  have none : (other point.x - curve point.x) ^ 2 ≤ 0 := by linarith
  exact sub_eq_zero.mp (pow_eq_zero_iff (by decide) |>.mp (le_antisymm none (sq_nonneg _)))

end Residual

/-! ## Parabolas and lines -/

def parabola [Semiring α] (a b c : α) : α → α :=
  fun x => a * x ^ 2 + b * x + c

def line [Semiring α] (slope intercept : α) : α → α :=
  fun x => slope * x + intercept

theorem parabola_zero [Semiring α] (slope intercept : α) :
    parabola 0 slope intercept = line slope intercept := by
  funext x
  rw [parabola, line, zero_mul, zero_add]

/-- The parabola comes closest to the points. -/
def Closest [CommRing α] [LE α] (points : List (Point α)) (a b c : α) : Prop :=
  ∀ a' b' c', residuals (parabola a b c) points ≤ residuals (parabola a' b' c') points

section Normal

variable [CommRing α] (points : List (Point α))

/-- The sums of the powers of the abscissas, and with the ordinates. -/
def power (k : ℕ) : α :=
  total (fun point : Point α => point.x ^ k) points

def mixed (k : ℕ) : α :=
  total (fun point : Point α => point.x ^ k * point.y) points

theorem overlap_parabola (a b c a' b' c' : α) :
    overlap (parabola a b c) (parabola a' b' c') points =
      (a' - a) * (mixed points 2 - a * power points 4 - b * power points 3 - c * power points 2) +
      (b' - b) * (mixed points 1 - a * power points 3 - b * power points 2 - c * power points 1) +
      (c' - c) *
        (mixed points 0 - a * power points 2 - b * power points 1 - c * power points 0) := by
  induction points with
  | nil => simp [overlap, power, mixed]
  | cons point points ih =>
      simp only [overlap, power, mixed, parabola, total_cons] at ih ⊢
      rw [ih]
      ring

variable {points}

theorem power_zero : power points 0 = (points.length : α) := by
  induction points with
  | nil => simp [power]
  | cons point points ih =>
      rw [power, total_cons, ← power, ih, List.length_cons, Nat.cast_succ]
      ring

theorem mixed_zero : mixed points 0 = total (·.y) points := by
  simp [mixed]

/-- The normal equations of a parabola. -/
structure Normal (points : List (Point α)) (a b c : α) : Prop where
  second : a * power points 4 + b * power points 3 + c * power points 2 = mixed points 2
  first : a * power points 3 + b * power points 2 + c * power points 1 = mixed points 1
  zeroth : a * power points 2 + b * power points 1 + c * power points 0 = mixed points 0

theorem Normal.orthogonal {a b c : α} (normal : Normal points a b c) (a' b' c' : α) :
    overlap (parabola a b c) (parabola a' b' c') points = 0 := by
  rw [overlap_parabola, ← normal.second, ← normal.first, ← normal.zeroth]
  ring

/-- A line needs two of the equations. -/
theorem orthogonal_line {slope intercept : α}
    (first : slope * power points 2 + intercept * power points 1 = mixed points 1)
    (zeroth : slope * power points 1 + intercept * power points 0 = mixed points 0)
    (slope' intercept' : α) :
    overlap (line slope intercept) (line slope' intercept') points = 0 := by
  rw [← parabola_zero, ← parabola_zero, overlap_parabola, ← first, ← zeroth]
  ring

theorem Normal.closest [LinearOrder α] [IsStrictOrderedRing α] {a b c : α}
    (normal : Normal points a b c) : Closest points a b c :=
  fun a' b' c' => residuals_le_of_orthogonal (normal.orthogonal a' b' c')

end Normal

/-! ## Pairs and triples -/

section Pairs

variable {ι : Type*}

/-- The sum over the pairs of a list. -/
def pairs [Add α] [Zero α] (f : ι → ι → α) : List ι → α
  | [] => 0
  | point :: points => (points.map (f point)).sum + pairs f points

def triples [Add α] [Zero α] (f : ι → ι → ι → α) : List ι → α
  | [] => 0
  | point :: points => pairs (f point) points + triples f points

variable [CommRing α] [LinearOrder α] [IsStrictOrderedRing α]

theorem pairs_nonneg {f : ι → ι → α} (nonneg : ∀ p q, 0 ≤ f p q) (points : List ι) :
    0 ≤ pairs f points := by
  induction points with
  | nil => exact le_refl 0
  | cons point points ih => exact add_nonneg (total_nonneg (nonneg point) points) ih

theorem triples_nonneg {f : ι → ι → ι → α} (nonneg : ∀ p q r, 0 ≤ f p q r) (points : List ι) :
    0 ≤ triples f points := by
  induction points with
  | nil => exact le_refl 0
  | cons point points ih => exact add_nonneg (pairs_nonneg (nonneg point) points) ih

theorem pairs_pos {f : ι → ι → α} (nonneg : ∀ p q, 0 ≤ f p q)
    (symmetric : ∀ p q, f p q = f q p) (diagonal : ∀ p, f p p = 0) {points : List ι} {p q : ι}
    (first : p ∈ points) (second : q ∈ points) (positive : 0 < f p q) : 0 < pairs f points := by
  induction points with
  | nil => contradiction
  | cons point points ih =>
      have here := total_nonneg (nonneg point) points
      have rest := pairs_nonneg nonneg points
      change 0 < total (f point) points + pairs f points
      rcases List.mem_cons.mp first with rfl | later
      · rcases List.mem_cons.mp second with rfl | last
        · rw [diagonal] at positive
          exact absurd positive (lt_irrefl 0)
        · have counted := le_total (nonneg p) last
          linarith
      · rcases List.mem_cons.mp second with rfl | last
        · have counted := le_total (nonneg q) later
          rw [symmetric] at positive
          linarith
        · have counted := ih later last
          linarith

/-- Three points in any order: the first of them in the list decides the case. -/
theorem triples_pos {f : ι → ι → ι → α} (nonneg : ∀ p q r, 0 ≤ f p q r)
    (swap : ∀ p q r, f p q r = f q p r) (turn : ∀ p q r, f p q r = f p r q)
    (diagonal : ∀ p q, f p q q = 0) {points : List ι} {p q r : ι} (first : p ∈ points)
    (second : q ∈ points) (third : r ∈ points) (positive : 0 < f p q r) :
    0 < triples f points := by
  induction points with
  | nil => contradiction
  | cons point points ih =>
      have rest := triples_nonneg nonneg points
      have here : ∀ {a b}, a ∈ points → b ∈ points → 0 < f point a b →
          0 < pairs (f point) points :=
        fun first second positive =>
          pairs_pos (nonneg point) (turn point) (diagonal point) first second positive
      change 0 < pairs (f point) points + triples f points
      have equal : ∀ a b, f a a b = 0 := fun a b => by rw [turn, swap, diagonal]
      rcases List.mem_cons.mp first with rfl | p_later
      · rcases List.mem_cons.mp second with rfl | q_later
        · rw [equal] at positive
          exact absurd positive (lt_irrefl 0)
        · rcases List.mem_cons.mp third with rfl | r_later
          · rw [turn, equal] at positive
            exact absurd positive (lt_irrefl 0)
          · exact add_pos_of_pos_of_nonneg (here q_later r_later positive) rest
      · have pair := pairs_nonneg (nonneg point) points
        rcases List.mem_cons.mp second with rfl | q_later
        · rcases List.mem_cons.mp third with rfl | r_later
          · rw [diagonal] at positive
            exact absurd positive (lt_irrefl 0)
          · rw [swap] at positive
            exact add_pos_of_pos_of_nonneg (here p_later r_later positive) rest
        · rcases List.mem_cons.mp third with rfl | r_later
          · rw [turn, swap] at positive
            exact add_pos_of_pos_of_nonneg (here p_later q_later positive) rest
          · exact add_pos_of_nonneg_of_pos pair (ih p_later q_later r_later)

end Pairs

/-! ## Determinants -/

section Determinants

variable [CommRing α] {points : List (Point α)}

/-- Two weighted sums of squares less the square of the weighted sum. -/
theorem pairs_weighted (w : Point α → α) (points : List (Point α)) :
    pairs (fun p q => w p * w q * (p.x - q.x) ^ 2) points =
      total w points * total (fun p => w p * p.x ^ 2) points -
        total (fun p => w p * p.x) points ^ 2 := by
  have row : ∀ (p : Point α) (others : List (Point α)),
      (others.map (fun q => w p * w q * (p.x - q.x) ^ 2)).sum =
        w p * (p.x ^ 2 * total w others - 2 * p.x * total (fun q => w q * q.x) others +
          total (fun q => w q * q.x ^ 2) others) := by
    intro p others
    induction others with
    | nil => simp
    | cons other others ih =>
        simp only [List.map_cons, List.sum_cons, total_cons, ih]
        ring
  induction points with
  | nil => simp [pairs]
  | cons point points ih =>
      simp only [pairs, total_cons, row, ih]
      ring

/-- The determinant of the normal equations of a line. -/
def lineDet (points : List (Point α)) : α :=
  power points 0 * power points 2 - power points 1 * power points 1

theorem lineDet_eq_pairs : lineDet points = pairs (fun p q => (p.x - q.x) ^ 2) points := by
  have weighted := pairs_weighted (fun _ => 1) points
  simp only [one_mul] at weighted
  rw [weighted, lineDet, power, power, power]
  simp only [pow_zero, pow_one]
  ring

def parabolaDet (points : List (Point α)) : α :=
  power points 0 * (power points 2 * power points 4 - power points 3 * power points 3) -
    power points 1 * (power points 1 * power points 4 - power points 2 * power points 3) +
    power points 2 * (power points 1 * power points 3 - power points 2 * power points 2)

/-- The square of the product of the three distances. -/
def spread (p q r : Point α) : α :=
  ((p.x - q.x) * (q.x - r.x) * (p.x - r.x)) ^ 2

theorem parabolaDet_eq_triples : parabolaDet points = triples spread points := by
  induction points with
  | nil => simp [parabolaDet, power, triples]
  | cons point points ih =>
      have expanded : ∀ (k : ℕ) (others : List (Point α)),
          total (fun q => (point.x - q.x) ^ 2 * q.x ^ k) others =
            point.x ^ 2 * power others k - 2 * point.x * power others (k + 1) +
              power others (k + 2) := by
        intro k others
        induction others with
        | nil => simp [power]
        | cons other others ih =>
            simp only [power, total_cons] at ih ⊢
            rw [ih]
            ring
      have weighted := pairs_weighted (fun q => (point.x - q.x) ^ 2) points
      have zeroth := expanded 0 points
      have first := expanded 1 points
      have second := expanded 2 points
      simp only [pow_zero, pow_one, mul_one] at zeroth first
      rw [zeroth, first, second] at weighted
      have row : pairs (spread point) points =
          pairs (fun p q => (point.x - p.x) ^ 2 * (point.x - q.x) ^ 2 * (p.x - q.x) ^ 2)
            points := by
        congr 1
        funext q r
        rw [spread]
        ring
      rw [triples, row, weighted, ← ih]
      simp only [parabolaDet, power, total_cons]
      ring

variable [LinearOrder α] [IsStrictOrderedRing α]

theorem lineDet_pos {p q : Point α} (first : p ∈ points) (second : q ∈ points)
    (different : p.x ≠ q.x) : 0 < lineDet points := by
  rw [lineDet_eq_pairs]
  refine pairs_pos (fun _ _ => sq_nonneg _) ?_ ?_ first second ?_
  · intro p q
    ring
  · intro p
    ring
  · exact sq_pos_of_ne_zero (sub_ne_zero.mpr different)

theorem parabolaDet_nonneg : 0 ≤ parabolaDet points := by
  rw [parabolaDet_eq_triples]
  exact triples_nonneg (fun _ _ _ => sq_nonneg _) points

theorem parabolaDet_pos {p q r : Point α} (first : p ∈ points) (second : q ∈ points)
    (third : r ∈ points) (first_second : p.x ≠ q.x) (second_third : q.x ≠ r.x)
    (first_third : p.x ≠ r.x) : 0 < parabolaDet points := by
  rw [parabolaDet_eq_triples]
  refine triples_pos (fun _ _ _ => sq_nonneg _) ?_ ?_ ?_ first second third ?_
  · intro p q r
    ring
  · intro p q r
    ring
  · intro p q
    ring
  · exact sq_pos_of_ne_zero (mul_ne_zero (mul_ne_zero (sub_ne_zero.mpr first_second)
      (sub_ne_zero.mpr second_third)) (sub_ne_zero.mpr first_third))

end Determinants

/-! ## Solutions -/

section Solutions

variable [Field α] {points : List (Point α)}

/-- The numerators of Cramer's rule. -/
def numeratorA (points : List (Point α)) : α :=
  mixed points 2 * (power points 2 * power points 0 - power points 1 * power points 1) -
    mixed points 1 * (power points 3 * power points 0 - power points 2 * power points 1) +
    mixed points 0 * (power points 3 * power points 1 - power points 2 * power points 2)

def numeratorB (points : List (Point α)) : α :=
  power points 4 * (mixed points 1 * power points 0 - mixed points 0 * power points 1) -
    power points 3 * (mixed points 2 * power points 0 - mixed points 0 * power points 2) +
    power points 2 * (mixed points 2 * power points 1 - mixed points 1 * power points 2)

def numeratorC (points : List (Point α)) : α :=
  power points 4 * (power points 2 * mixed points 0 - power points 1 * mixed points 1) -
    power points 3 * (power points 3 * mixed points 0 - power points 1 * mixed points 2) +
    power points 2 * (power points 3 * mixed points 1 - power points 2 * mixed points 2)

theorem normal_cramer (solvable : parabolaDet points ≠ 0) :
    Normal points (numeratorA points / parabolaDet points)
      (numeratorB points / parabolaDet points) (numeratorC points / parabolaDet points) := by
  refine ⟨?_, ?_, ?_⟩
  · field_simp
    rw [numeratorA, numeratorB, numeratorC, parabolaDet]
    ring
  · field_simp
    rw [numeratorA, numeratorB, numeratorC, parabolaDet]
    ring
  · field_simp
    rw [numeratorA, numeratorB, numeratorC, parabolaDet]
    ring

/-- Parabolas that meet over three abscissas have one leading coefficient. -/
theorem leading_eq {a b c a' b' c' x y z : α} (x_ne_y : x ≠ y) (y_ne_z : y ≠ z) (x_ne_z : x ≠ z)
    (at_x : parabola a b c x = parabola a' b' c' x)
    (at_y : parabola a b c y = parabola a' b' c' y)
    (at_z : parabola a b c z = parabola a' b' c' z) : a = a' := by
  have product : (a - a') * ((x - y) * (y - z) * (x - z)) = 0 := by
    unfold parabola at at_x at_y at_z
    linear_combination (y - z) * at_x - (x - z) * at_y + (x - y) * at_z
  have nonzero : (x - y) * (y - z) * (x - z) ≠ 0 :=
    mul_ne_zero (mul_ne_zero (sub_ne_zero.mpr x_ne_y) (sub_ne_zero.mpr y_ne_z))
      (sub_ne_zero.mpr x_ne_z)
  exact sub_eq_zero.mp ((mul_eq_zero.mp product).resolve_right nonzero)

variable [LinearOrder α] [IsStrictOrderedRing α]

variable (points) in
/-- Over three abscissas there is a closest parabola, and all that come as close have its
leading coefficient. -/
theorem closest_leading {p q r : Point α} (first : p ∈ points) (second : q ∈ points)
    (third : r ∈ points) (first_second : p.x ≠ q.x) (second_third : q.x ≠ r.x)
    (first_third : p.x ≠ r.x) :
    (∃ b c, Closest points (numeratorA points / parabolaDet points) b c) ∧
      ∀ a b c, Closest points a b c → a = numeratorA points / parabolaDet points := by
  have solvable := (parabolaDet_pos first second third first_second second_third first_third).ne'
  have normal := normal_cramer solvable
  refine ⟨⟨_, _, normal.closest⟩, ?_⟩
  intro a b c least
  have meet : ∀ point ∈ points, parabola a b c point.x =
      parabola (numeratorA points / parabolaDet points) (numeratorB points / parabolaDet points)
        (numeratorC points / parabolaDet points) point.x :=
    fun point member => eq_of_residuals_le (normal.orthogonal a b c) (least _ _ _) member
  exact leading_eq first_second second_third first_third (meet p first) (meet q second)
    (meet r third)

/-- The line of the normal equations. -/
theorem residuals_line_le {slope intercept : α} (slope_eq : slope * lineDet points =
      power points 0 * mixed points 1 - power points 1 * mixed points 0)
    (intercept_eq : intercept * power points 0 = mixed points 0 - slope * power points 1)
    (some_points : power points 0 ≠ 0) (slope' intercept' : α) :
    residuals (line slope intercept) points ≤ residuals (line slope' intercept') points := by
  apply residuals_le_of_orthogonal
  apply orthogonal_line
  · apply mul_left_cancel₀ some_points
    rw [lineDet] at slope_eq
    linear_combination slope_eq + power points 1 * intercept_eq
  · linear_combination intercept_eq

end Solutions

end LeastSquares
