import Mathlib.Algebra.Order.Field.Basic
import Mathlib.Data.Sign.Basic
import Mathlib.Tactic.Linarith
import Mathlib.Tactic.Ring

/-!
# Piecewise linear functions

A function over an ordered field that is a line between any two neighbours of finitely
many knots: its bounds are found at the ends and the knots, beyond the last knot it is a
ray, and next to every point it has a sign.  Between two points next to which the signs
differ there is a point at which the sign changes.
-/

namespace PiecewiseLinear

variable {α : Type*} [Field α] [LinearOrder α]

/-- The function is a line from `a` to `b`. -/
def LineOn (f : α → α) (a b : α) : Prop :=
  ∃ slope, ∀ x, a ≤ x → x ≤ b → f x = f a + slope * (x - a)

/-- The function is a line wherever there is no knot strictly in between. -/
def Knotted (knots : List α) (f : α → α) : Prop :=
  ∀ a b, (∀ k ∈ knots, k ≤ a ∨ b ≤ k) → LineOn f a b

/-! ## Building them -/

variable {f g : α → α} {knots others : List α}

theorem LineOn.add {a b : α} (left : LineOn f a b) (right : LineOn g a b) :
    LineOn (fun x => f x + g x) a b := by
  obtain ⟨m, first⟩ := left
  obtain ⟨n, second⟩ := right
  refine ⟨m + n, ?_⟩
  intro x above below
  dsimp only
  rw [first x above below, second x above below]
  ring

theorem LineOn.const_mul {a b : α} (line : LineOn f a b) (c : α) :
    LineOn (fun x => c * f x) a b := by
  obtain ⟨m, same⟩ := line
  refine ⟨c * m, ?_⟩
  intro x above below
  dsimp only
  rw [same x above below]
  ring

theorem LineOn.neg {a b : α} (line : LineOn f a b) : LineOn (fun x => -f x) a b := by
  obtain ⟨m, same⟩ := line
  refine ⟨-m, ?_⟩
  intro x above below
  dsimp only
  rw [same x above below]
  ring

theorem Knotted.add (left : Knotted knots f) (right : Knotted others g) :
    Knotted (knots ++ others) (fun x => f x + g x) := by
  intro a b apart
  rw [List.forall_mem_append] at apart
  exact (left a b apart.1).add (right a b apart.2)

theorem Knotted.const_mul (knotted : Knotted knots f) (c : α) :
    Knotted knots (fun x => c * f x) :=
  fun a b apart => (knotted a b apart).const_mul c

theorem Knotted.mono (knotted : Knotted knots f) (more : ∀ k ∈ knots, k ∈ others) :
    Knotted others f :=
  fun a b apart => knotted a b (fun k member => apart k (more k member))

theorem knotted_const (c : α) : Knotted [] (fun _ : α => c) := by
  intro a b _
  refine ⟨0, ?_⟩
  intro x _ _
  ring

variable [IsStrictOrderedRing α]

theorem knotted_rise (k : α) : Knotted [k] (fun x => max 0 (x - k)) := by
  intro a b apart
  rcases apart k (List.mem_singleton_self k) with before | after
  · refine ⟨1, ?_⟩
    intro x above _
    dsimp only
    rw [max_eq_right (sub_nonneg.mpr before),
      max_eq_right (sub_nonneg.mpr (before.trans above))]
    ring
  · refine ⟨0, ?_⟩
    intro x above below
    dsimp only
    rw [max_eq_left (sub_nonpos.mpr (below.trans after)),
      max_eq_left (sub_nonpos.mpr (above.trans (below.trans after)))]
    ring

theorem knotted_fall (k : α) : Knotted [k] (fun x => max 0 (k - x)) := by
  intro a b apart
  rcases apart k (List.mem_singleton_self k) with before | after
  · refine ⟨0, ?_⟩
    intro x above _
    dsimp only
    rw [max_eq_left (sub_nonpos.mpr before),
      max_eq_left (sub_nonpos.mpr (before.trans above))]
    ring
  · refine ⟨-1, ?_⟩
    intro x above below
    dsimp only
    rw [max_eq_right (sub_nonneg.mpr (below.trans after)),
      max_eq_right (sub_nonneg.mpr (above.trans (below.trans after)))]
    ring

/-! ## Bounds -/

omit [Field α] [IsStrictOrderedRing α] in
/-- A point lies between two neighbours among the ends and the knots. -/
theorem exists_neighbours (knots : List α) {a b x : α} (above : a ≤ x) (below : x ≤ b) :
    ∃ l r, a ≤ l ∧ l ≤ x ∧ x ≤ r ∧ r ≤ b ∧ (l = a ∨ l ∈ knots) ∧ (r = b ∨ r ∈ knots) ∧
      ∀ k ∈ knots, k ≤ l ∨ r ≤ k := by
  induction knots with
  | nil => exact ⟨a, b, le_rfl, above, below, le_rfl, .inl rfl, .inl rfl, nofun⟩
  | cons k knots ih =>
      obtain ⟨l, r, low, left, right, high, from_left, from_right, apart⟩ := ih
      have left_end : l = a ∨ l ∈ k :: knots := from_left.imp_right (List.mem_cons_of_mem k)
      have right_end : r = b ∨ r ∈ k :: knots :=
        from_right.imp_right (List.mem_cons_of_mem k)
      by_cases outside : k ≤ l ∨ r ≤ k
      · exact ⟨l, r, low, left, right, high, left_end, right_end,
          List.forall_mem_cons.mpr ⟨outside, apart⟩⟩
      · rw [not_or, not_le, not_le] at outside
        obtain ⟨after, before⟩ := outside
        rcases le_total k x with sooner | later
        · refine ⟨k, r, low.trans after.le, sooner, right, high,
            .inr List.mem_cons_self, right_end, ?_⟩
          refine List.forall_mem_cons.mpr ⟨.inl le_rfl, ?_⟩
          intro other member
          exact (apart other member).imp_left (·.trans after.le)
        · refine ⟨l, k, low, left, later, before.le.trans high, left_end,
            .inr List.mem_cons_self, ?_⟩
          refine List.forall_mem_cons.mpr ⟨.inr le_rfl, ?_⟩
          intro other member
          exact (apart other member).imp_right (before.le.trans ·)

theorem LineOn.le {a b x M : α} (line : LineOn f a b) (above : a ≤ x) (below : x ≤ b)
    (left : f a ≤ M) (right : f b ≤ M) : f x ≤ M := by
  obtain ⟨m, same⟩ := line
  have at_x := same x above below
  have at_b := same b (above.trans below) le_rfl
  rcases le_total m 0 with falling | rising
  · have := mul_nonpos_of_nonpos_of_nonneg falling (sub_nonneg.mpr above)
    linarith
  · have := mul_le_mul_of_nonneg_left (sub_le_sub_right below a) rising
    linarith

/-- A bound at the ends and at the knots is one everywhere between. -/
theorem Knotted.le (knotted : Knotted knots f) {a b x M : α} (above : a ≤ x)
    (below : x ≤ b) (left : f a ≤ M) (right : f b ≤ M)
    (inner : ∀ k ∈ knots, a ≤ k → k ≤ b → f k ≤ M) : f x ≤ M := by
  obtain ⟨l, r, low, before, after, high, from_left, from_right, apart⟩ :=
    exists_neighbours knots above below
  apply (knotted l r apart).le before after
  · rcases from_left with rfl | member
    · exact left
    · exact inner l member low (before.trans below)
  · rcases from_right with rfl | member
    · exact right
    · exact inner r member (above.trans after) high

/-- A ray that does not rise is bounded by its end. -/
theorem Knotted.le_of_ray (knotted : Knotted knots f) {a c slope M : α}
    (ray : ∀ x, c ≤ x → f x = f c + slope * (x - c)) (falls : slope ≤ 0)
    (start : f a ≤ M) (inner : ∀ k ∈ knots, a ≤ k → f k ≤ M) (last : f c ≤ M) {x : α}
    (above : a ≤ x) : f x ≤ M := by
  rcases le_total x c with before | after
  · exact knotted.le above before start last (fun k member later _ => inner k member later)
  · rw [ray x after]
    have := mul_nonpos_of_nonpos_of_nonneg falls (sub_nonneg.mpr after)
    linarith

/-! ## Signs next to a point -/

/-- The sign of the function just before a point. -/
def LeftSign (f : α → α) (x : α) (s : SignType) : Prop :=
  ∃ ε > 0, ∀ y, x - ε < y → y < x → SignType.sign (f y) = s

/-- The sign of the function just after a point. -/
def RightSign (f : α → α) (x : α) (s : SignType) : Prop :=
  ∃ ε > 0, ∀ y, x < y → y < x + ε → SignType.sign (f y) = s

/-- There is no knot right after a point. -/
theorem exists_right (knots : List α) (x : α) : ∃ ε > 0, ∀ k ∈ knots, k ≤ x ∨ x + ε ≤ k := by
  induction knots with
  | nil => exact ⟨1, zero_lt_one, nofun⟩
  | cons k knots ih =>
      obtain ⟨ε, positive, apart⟩ := ih
      rcases le_or_gt k x with before | after
      · exact ⟨ε, positive, List.forall_mem_cons.mpr ⟨.inl before, apart⟩⟩
      · refine ⟨min ε (k - x), lt_min positive (sub_pos.mpr after), ?_⟩
        refine List.forall_mem_cons.mpr ⟨.inr ?_, ?_⟩
        · linarith [min_le_right ε (k - x)]
        · intro other member
          refine (apart other member).imp_right (le_trans ?_)
          linarith [min_le_left ε (k - x)]

/-- The mirror image about 0. -/
theorem Knotted.reflect (knotted : Knotted knots f) :
    Knotted (knots.map Neg.neg) (fun x => f (-x)) := by
  intro a b apart
  obtain ⟨m, same⟩ := knotted (-b) (-a) (by
    intro k member
    rcases apart (-k) (List.mem_map_of_mem member) with before | after
    · exact .inr (neg_le.mp before)
    · exact .inl (le_neg.mp after))
  refine ⟨-m, ?_⟩
  intro x above below
  dsimp only
  rw [same (-x) (neg_le_neg below) (neg_le_neg above),
    same (-a) (neg_le_neg (above.trans below)) le_rfl]
  ring

theorem leftSign_iff {x : α} {s : SignType} :
    LeftSign f x s ↔ RightSign (fun y => f (-y)) (-x) s := by
  constructor
  · rintro ⟨ε, positive, same⟩
    exact ⟨ε, positive, fun y after before => same (-y) (by linarith) (by linarith)⟩
  · rintro ⟨ε, positive, same⟩
    refine ⟨ε, positive, fun y after before => ?_⟩
    have mirrored := same (-y) (by linarith) (by linarith)
    dsimp only at mirrored
    rwa [neg_neg] at mirrored

theorem RightSign.unique {x : α} {s t : SignType} (first : RightSign f x s)
    (second : RightSign f x t) : s = t := by
  obtain ⟨ε, ε_pos, reads⟩ := first
  obtain ⟨δ, δ_pos, other⟩ := second
  have positive := half_pos (lt_min ε_pos δ_pos)
  have small := half_lt_self (lt_min ε_pos δ_pos)
  rw [← reads (x + min ε δ / 2) (by linarith) (by linarith [min_le_left ε δ]),
    other (x + min ε δ / 2) (by linarith) (by linarith [min_le_right ε δ])]

theorem LeftSign.unique {x : α} {s t : SignType} (first : LeftSign f x s)
    (second : LeftSign f x t) : s = t :=
  (leftSign_iff.mp first).unique (leftSign_iff.mp second)

theorem RightSign.neg {x : α} {s : SignType} (reads : RightSign f x s) :
    RightSign (fun y => -f y) x (-s) := by
  obtain ⟨ε, positive, same⟩ := reads
  refine ⟨ε, positive, fun y after before => ?_⟩
  rw [← same y after before]
  exact Left.sign_neg (f y)

theorem RightSign.exists_near {x high : α} {s : SignType} (reads : RightSign f x s)
    (after : x < high) : ∃ y, x < y ∧ y < high ∧ SignType.sign (f y) = s := by
  obtain ⟨ε, positive, same⟩ := reads
  obtain ⟨y, above, below⟩ := exists_between (lt_min after (lt_add_of_pos_right x positive))
  exact ⟨y, above, below.trans_le (min_le_left _ _),
    same y above (below.trans_le (min_le_right _ _))⟩

theorem LeftSign.exists_near {low x : α} {s : SignType} (reads : LeftSign f x s)
    (before : low < x) : ∃ y, low < y ∧ y < x ∧ SignType.sign (f y) = s := by
  obtain ⟨y, above, below, sign⟩ := (leftSign_iff.mp reads).exists_near (neg_lt_neg before)
  exact ⟨-y, lt_neg.mp below, neg_lt.mp above, sign⟩

/-- A line that starts above 0 stays there for a while. -/
theorem LineOn.rightSign_pos {x ε : α} (positive : 0 < ε) (line : LineOn f x (x + ε))
    (start : 0 < f x) : RightSign f x 1 := by
  obtain ⟨m, same⟩ := line
  have slope : 0 < |m| + 1 := by positivity
  refine ⟨min ε (f x / (|m| + 1)), lt_min positive (div_pos start slope), ?_⟩
  intro y after before
  apply sign_pos
  have near : y - x < f x / (|m| + 1) := by
    linarith [min_le_right ε (f x / (|m| + 1))]
  rw [lt_div_iff₀ slope] at near
  rw [same y after.le (by linarith [min_le_left ε (f x / (|m| + 1))])]
  have drop := mul_le_mul_of_nonneg_right (neg_abs_le m) (sub_nonneg.mpr after.le)
  have gap := sub_pos.mpr after
  linarith

/-- Where the function is not 0 it keeps its sign for a while. -/
theorem Knotted.rightSign_of_ne (knotted : Knotted knots f) {x : α} (nonzero : f x ≠ 0) :
    RightSign f x (SignType.sign (f x)) := by
  obtain ⟨ε, positive, apart⟩ := exists_right knots x
  have line := knotted x (x + ε) apart
  rcases nonzero.lt_or_gt with below | above
  · have flipped := (line.neg.rightSign_pos positive (neg_pos.mpr below)).neg
    simp only [neg_neg] at flipped
    rwa [sign_neg below]
  · rw [sign_pos above]
    exact line.rightSign_pos positive above

theorem Knotted.exists_rightSign (knotted : Knotted knots f) (x : α) :
    ∃ s, RightSign f x s := by
  by_cases zero : f x = 0
  · obtain ⟨ε, positive, apart⟩ := exists_right knots x
    obtain ⟨m, same⟩ := knotted x (x + ε) apart
    refine ⟨SignType.sign m, ε, positive, ?_⟩
    intro y after before
    rw [same y after.le before.le, zero, zero_add, sign_mul, sign_pos (sub_pos.mpr after),
      mul_one]
  · exact ⟨_, knotted.rightSign_of_ne zero⟩

theorem Knotted.leftSign_of_ne (knotted : Knotted knots f) {x : α} (nonzero : f x ≠ 0) :
    LeftSign f x (SignType.sign (f x)) := by
  have mirrored := knotted.reflect.rightSign_of_ne (x := -x) (by rwa [neg_neg])
  rw [neg_neg] at mirrored
  exact leftSign_iff.mpr mirrored

theorem Knotted.exists_leftSign (knotted : Knotted knots f) (x : α) :
    ∃ s, LeftSign f x s := by
  obtain ⟨s, reads⟩ := knotted.reflect.exists_rightSign (-x)
  exact ⟨s, leftSign_iff.mpr reads⟩

/-! ## Where the sign changes -/

omit [IsStrictOrderedRing α] in
/-- A property of intervals without a knot that two intervals with a common end pass on
holds of every interval. -/
theorem Knotted.induction (knotted : Knotted knots f) {P : α → α → Prop}
    (line : ∀ a b, a < b → LineOn f a b → P a b)
    (split : ∀ a k b, a < k → k < b → P a k → P k b → P a b) {a b : α} (between : a < b) :
    P a b := by
  have step : ∀ rest : List α, ∀ a b, a < b →
      (∀ k ∈ knots, k ≤ a ∨ b ≤ k ∨ k ∈ rest) → P a b := by
    intro rest
    induction rest with
    | nil =>
        intro a b between apart
        apply line a b between
        apply knotted
        intro k member
        simpa using apart k member
    | cons next rest ih =>
        intro a b between apart
        by_cases inside : a < next ∧ next < b
        · apply split a next b inside.1 inside.2
          · apply ih a next inside.1
            intro k member
            rcases apart k member with before | after | found
            · exact .inl before
            · exact .inr (.inl (inside.2.le.trans after))
            · rcases List.mem_cons.mp found with rfl | later
              · exact .inr (.inl le_rfl)
              · exact .inr (.inr later)
          · apply ih next b inside.2
            intro k member
            rcases apart k member with before | after | found
            · exact .inl (before.trans inside.1.le)
            · exact .inr (.inl after)
            · rcases List.mem_cons.mp found with rfl | later
              · exact .inl le_rfl
              · exact .inr (.inr later)
        · apply ih a b between
          intro k member
          rcases apart k member with before | after | found
          · exact .inl before
          · exact .inr (.inl after)
          · rcases List.mem_cons.mp found with rfl | later
            · rw [not_and_or, not_lt, not_lt] at inside
              exact inside.imp_right .inl
            · exact .inr (.inr later)
  exact step knots a b between (fun k member => .inr (.inr member))

/-- A line from below 0 that reaches it does so at a point. -/
theorem LineOn.exists_zero {a b : α} (line : LineOn f a b) (between : a < b)
    (start : f a < 0) (finish : 0 ≤ f b) :
    ∃ x, a < x ∧ x ≤ b ∧ f x = 0 ∧ (∀ y, a ≤ y → y < x → f y < 0) ∧
      ∀ y, x < y → y ≤ b → 0 < f y := by
  obtain ⟨m, same⟩ := line
  have at_b := same b between.le le_rfl
  have rises : 0 < m := by
    by_contra falls
    have := mul_nonpos_of_nonpos_of_nonneg (not_lt.mp falls) (sub_pos.mpr between).le
    linarith
  have reach : m * (-f a / m) = -f a := mul_div_cancel₀ _ rises.ne'
  have ahead : 0 < -f a / m := div_pos (neg_pos.mpr start) rises
  have within : a + -f a / m ≤ b := by
    by_contra beyond
    have := mul_lt_mul_of_pos_left (sub_lt_iff_lt_add'.mpr (not_le.mp beyond)) rises
    linarith
  refine ⟨a + -f a / m, by linarith, within, ?_, ?_, ?_⟩
  · rw [same _ (by linarith) within, add_sub_cancel_left, reach, add_neg_cancel]
  · intro y above before
    have := mul_lt_mul_of_pos_left (sub_lt_iff_lt_add'.mpr before) rises
    rw [same y above (before.le.trans within)]
    linarith
  · intro y after below
    have := mul_lt_mul_of_pos_left (lt_sub_iff_add_lt'.mpr after) rises
    rw [same y (by linarith) below]
    linarith

theorem LeftSign.neg {x : α} {s : SignType} (reads : LeftSign f x s) :
    LeftSign (fun y => -f y) x (-s) :=
  leftSign_iff.mpr (leftSign_iff.mp reads).neg

/-- From below 0 to where it is not, the function comes up to 0 at a point. -/
theorem Knotted.exists_rise (knotted : Knotted knots f) {a b : α} (between : a < b) :
    f a < 0 → 0 ≤ f b → ∃ x, a < x ∧ x ≤ b ∧ 0 ≤ f x ∧ LeftSign f x (-1) := by
  apply knotted.induction ?_ ?_ between
  · intro a b between line start finish
    obtain ⟨x, after, within, zero, before, -⟩ := line.exists_zero between start finish
    refine ⟨x, after, within, zero.ge, x - a, sub_pos.mpr after, ?_⟩
    intro y above below
    exact sign_neg (before y (by linarith) below)
  · intro a k b left right first second start finish
    rcases lt_or_ge (f k) 0 with low | high
    · obtain ⟨x, after, within, found⟩ := second low finish
      exact ⟨x, left.trans after, within, found⟩
    · obtain ⟨x, after, within, found⟩ := first start high
      exact ⟨x, after, within.trans right.le, found⟩

/-- From where it is not below 0 to below, the function leaves 0 at a point. -/
theorem Knotted.exists_fall (knotted : Knotted knots f) {a b : α} (between : a < b)
    (start : 0 ≤ f a) (finish : f b < 0) :
    ∃ x, a ≤ x ∧ x < b ∧ 0 ≤ f x ∧ RightSign f x (-1) := by
  obtain ⟨x, after, within, reached, reads⟩ := knotted.reflect.exists_rise
    (neg_lt_neg between) (by rwa [neg_neg]) (by rwa [neg_neg])
  refine ⟨-x, by linarith, by linarith, reached, ?_⟩
  rw [leftSign_iff] at reads
  simpa using reads

/-- The signs just before and just after the point differ. -/
def SignChange (f : α → α) (x : α) : Prop :=
  ∃ s t, s ≠ t ∧ LeftSign f x s ∧ RightSign f x t

theorem SignChange.of_neg {x : α} (changes : SignChange (fun y => -f y) x) :
    SignChange f x := by
  obtain ⟨s, t, different, before, after⟩ := changes
  refine ⟨-s, -t, fun same => different (neg_injective same), ?_, ?_⟩
  · simpa using before.neg
  · simpa using after.neg

theorem SignChange.zero (knotted : Knotted knots f) {x : α} (changes : SignChange f x) :
    f x = 0 := by
  obtain ⟨s, t, different, before, after⟩ := changes
  by_contra nonzero
  exact different ((before.unique (knotted.leftSign_of_ne nonzero)).trans
    ((knotted.rightSign_of_ne nonzero).unique after))

/-- A line that is not below 0 at its ends is above 0 between them, or 0 throughout. -/
theorem LineOn.interior {a b : α} (line : LineOn f a b) (between : a < b)
    (start : 0 ≤ f a) (finish : 0 ≤ f b) :
    ∃ s, ∀ y, a < y → y < b → SignType.sign (f y) = s := by
  obtain ⟨m, same⟩ := line
  have at_b := same b between.le le_rfl
  by_cases flat : f a = 0 ∧ m = 0
  · refine ⟨0, ?_⟩
    intro y after before
    rw [same y after.le before.le, flat.1, flat.2, zero_mul, add_zero, sign_zero]
  · refine ⟨1, ?_⟩
    intro y after before
    apply sign_pos
    have at_y := same y after.le before.le
    have weighted : f y * (b - a) = f a * (b - y) + f b * (y - a) := by
      rw [at_y, at_b]
      ring
    have left := mul_nonneg start (sub_pos.mpr before).le
    have right := mul_nonneg finish (sub_pos.mpr after).le
    have total : 0 < f y * (b - a) := by
      rw [weighted]
      by_contra none
      have low : f a = 0 := by
        have : f a * (b - y) = 0 := by linarith
        exact (mul_eq_zero.mp this).resolve_right (sub_pos.mpr before).ne'
      have high : f b = 0 := by
        have : f b * (y - a) = 0 := by linarith
        exact (mul_eq_zero.mp this).resolve_right (sub_pos.mpr after).ne'
      rw [low, high, zero_add, eq_comm] at at_b
      exact flat ⟨low, (mul_eq_zero.mp at_b).resolve_right (sub_pos.mpr between).ne'⟩
    exact (mul_pos_iff_of_pos_right (sub_pos.mpr between)).mp total

/-- A line that crosses 0 changes its sign there. -/
theorem LineOn.exists_signChange {a b : α} (line : LineOn f a b) (between : a < b)
    (start : f a < 0) (finish : 0 < f b) : ∃ z, a < z ∧ z < b ∧ SignChange f z := by
  obtain ⟨z, after, within, zero, below, above⟩ := line.exists_zero between start finish.le
  have before : z < b := by
    rcases within.lt_or_eq with before | rfl
    · exact before
    · exact absurd zero finish.ne'
  refine ⟨z, after, before, -1, 1, by decide, ⟨z - a, sub_pos.mpr after, ?_⟩,
    ⟨b - z, sub_pos.mpr before, ?_⟩⟩
  · intro y low high
    exact sign_neg (below y (by linarith) high)
  · intro y low high
    exact sign_pos (above y low (by linarith))

/-- Between two points next to which the signs differ the sign changes. -/
theorem Knotted.exists_signChange (knotted : Knotted knots f) {a b : α} (between : a < b) :
    ∀ s t, RightSign f a s → LeftSign f b t → s ≠ t →
      ∃ z, a < z ∧ z < b ∧ SignChange f z := by
  apply knotted.induction ?_ ?_ between
  · intro a b between line s t after before different
    -- a line with one sign between its ends has that sign next to both
    have constant : ¬∃ u, ∀ y, a < y → y < b → SignType.sign (f y) = u := by
      rintro ⟨u, same⟩
      have first : RightSign f a u :=
        ⟨b - a, sub_pos.mpr between, fun y low high => same y low (by linarith)⟩
      have second : LeftSign f b u :=
        ⟨b - a, sub_pos.mpr between, fun y low high => same y (by linarith) high⟩
      exact different ((after.unique first).trans (second.unique before))
    rcases lt_or_ge (f a) 0 with low | high
    · rcases lt_or_ge 0 (f b) with up | down
      · exact line.exists_signChange between low up
      · obtain ⟨u, same⟩ := line.neg.interior between (neg_nonneg.mpr low.le)
          (neg_nonneg.mpr down)
        refine absurd ⟨-u, fun y after before => ?_⟩ constant
        rw [← same y after before, Left.sign_neg, neg_neg]
    · rcases lt_or_ge (f b) 0 with down | up
      · rcases high.lt_or_eq with positive | zero
        · obtain ⟨z, after, before, changes⟩ := line.neg.exists_signChange between
            (neg_lt_zero.mpr positive) (neg_pos.mpr down)
          exact ⟨z, after, before, changes.of_neg⟩
        · obtain ⟨u, same⟩ := line.neg.interior between (by rw [← zero, neg_zero])
            (neg_pos.mpr down).le
          refine absurd ⟨-u, fun y after before => ?_⟩ constant
          rw [← same y after before, Left.sign_neg, neg_neg]
      · exact absurd (line.interior between high up) constant
  · intro a k b left right first second s t after before different
    obtain ⟨u, into⟩ := knotted.exists_leftSign k
    obtain ⟨v, out⟩ := knotted.exists_rightSign k
    by_cases change : s = u
    · by_cases next : u = v
      · obtain ⟨z, low, high, changes⟩ := second v t out before (by
          rw [← next, ← change]
          exact different)
        exact ⟨z, left.trans low, high, changes⟩
      · exact ⟨k, left, right, u, v, next, into, out⟩
    · obtain ⟨z, low, high, changes⟩ := first s u after into change
      exact ⟨z, low, high.trans right, changes⟩

/-- Where the sign does not change in between, it is the same next to both ends. -/
theorem Knotted.eq_of_still (knotted : Knotted knots f) {a b : α} (between : a < b)
    (still : ∀ z, a < z → z < b → ¬SignChange f z) {s t : SignType}
    (after : RightSign f a s) (before : LeftSign f b t) : s = t := by
  by_contra different
  obtain ⟨z, low, high, changes⟩ :=
    knotted.exists_signChange between s t after before different
  exact still z low high changes

/-- Beside a point above 0 the function is nowhere below 0 before the sign changes. -/
theorem Knotted.nonneg_of_still (knotted : Knotted knots f) {points : Set α}
    (connected : points.OrdConnected) (still : ∀ z ∈ points, ¬SignChange f z) {x y : α}
    (member : x ∈ points) (also : y ∈ points) (positive : 0 < f x) : 0 ≤ f y := by
  by_contra below
  rw [not_le] at below
  rcases lt_trichotomy x y with before | rfl | after
  · have same := knotted.eq_of_still before
      (fun z low high => still z (connected.out member also ⟨low.le, high.le⟩))
      (knotted.rightSign_of_ne positive.ne') (knotted.leftSign_of_ne below.ne)
    rw [sign_pos positive, sign_neg below] at same
    cases same
  · exact lt_asymm positive below
  · have same := knotted.eq_of_still after
      (fun z low high => still z (connected.out also member ⟨low.le, high.le⟩))
      (knotted.rightSign_of_ne below.ne) (knotted.leftSign_of_ne positive.ne')
    rw [sign_pos positive, sign_neg below] at same
    cases same

theorem Knotted.leftSign_of_still (knotted : Knotted knots f) {x b : α} (between : x < b)
    (still : ∀ z, x < z → z < b → ¬SignChange f z) (positive : 0 < f x) :
    LeftSign f b 1 := by
  obtain ⟨s, reads⟩ := knotted.exists_leftSign b
  have same := knotted.eq_of_still between still
    (knotted.rightSign_of_ne positive.ne') reads
  rwa [← same, sign_pos positive] at reads

theorem Knotted.rightSign_of_still (knotted : Knotted knots f) {a x : α} (between : a < x)
    (still : ∀ z, a < z → z < x → ¬SignChange f z) (positive : 0 < f x) :
    RightSign f a 1 := by
  obtain ⟨s, reads⟩ := knotted.exists_rightSign a
  have same := knotted.eq_of_still between still reads
    (knotted.leftSign_of_ne positive.ne')
  rwa [same, sign_pos positive] at reads

end PiecewiseLinear
