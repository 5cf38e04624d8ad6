import Mathlib.Order.Interval.Set.OrdConnected
import Mathlib.MeasureTheory.Integral.IntervalIntegral.Basic
import Mathlib.Analysis.SpecialFunctions.Integrals.Basic
import Ignis.ClosedChain

-- How often a closed chain of points winds around a point of the plane, and the area it encloses.
namespace Winding
open ClosedChain

-- Left of a point, or above it, is 0; its own column is 1.
noncomputable def step (x : ℝ) (p : ℝ × ℝ) : ℝ := if x ≤ p.1 then 1 else 0

-- The height of the line through two points.
noncomputable def height (p q : ℝ × ℝ) (x : ℝ) : ℝ := p.2 + (x - p.1) / (q.1 - p.1) * (q.2 - p.2)

-- The crossing of a column by an edge, with its direction, where its height is one that counts.
noncomputable def flow (x : ℝ) (counts : Set ℝ) (p q : ℝ × ℝ) : ℝ :=
  (step x q - step x p) * counts.indicator 1 (height p q x)

-- The crossings of the ray that rises from a point.
noncomputable def winding (x y : ℝ) (points : List (ℝ × ℝ)) : ℝ := closedSum (flow x (Set.Ici y)) points

variable {x : ℝ} {counts : Set ℝ} {p q m : ℝ × ℝ}

theorem step_cases (x : ℝ) (p : ℝ × ℝ) : step x p = 0 ∨ step x p = 1 := by
  unfold step
  split
  · exact .inr rfl
  · exact .inl rfl

theorem step_left (left : p.1 < x) : step x p = 0 := if_neg (not_le.mpr left)

theorem step_right (right : x ≤ p.1) : step x p = 1 := if_pos right

theorem crosses (differ : step x p ≠ step x q) : (p.1 < x ∧ x ≤ q.1) ∨ (q.1 < x ∧ x ≤ p.1) := by
  by_cases pRight : x ≤ p.1
  · refine .inr ⟨?_,pRight⟩
    by_contra left
    exact differ ((step_right pRight).trans (step_right (not_lt.mp left)).symm)
  · refine .inl ⟨not_le.mp pRight,?_⟩
    by_contra right
    exact differ ((step_left (not_le.mp pRight)).trans (step_left (not_le.mp right)).symm)

theorem apart_of_crosses (differ : step x p ≠ step x q) : p.1 ≠ q.1 := by
  rcases crosses differ with ⟨left,right⟩ | ⟨left,right⟩
  · exact ne_of_lt (left.trans_le right)
  · exact (ne_of_lt (left.trans_le right)).symm

theorem step_between (between : m.1 ∈ Set.uIcc p.1 q.1) : step x m = step x p ∨ step x m = step x q := by
  by_contra neither
  rw [not_or] at neither
  rcases Set.mem_uIcc.mp between with ⟨low,high⟩ | ⟨low,high⟩ <;>
    rcases crosses neither.1 with ⟨one,two⟩ | ⟨one,two⟩ <;>
    rcases crosses neither.2 with ⟨three,four⟩ | ⟨three,four⟩ <;> linarith

theorem flow_aside (same : step x p = step x q) : flow x counts p q = 0 := by
  rw [flow,same,sub_self,zero_mul]

theorem flow_uncounted (low : height p q x ∉ counts) : flow x counts p q = 0 := by
  rw [flow,Set.indicator_of_notMem low,mul_zero]

theorem height_comm (apart : p.1 ≠ q.1) : height p q x = height q p x := by
  have forth : q.1 - p.1 ≠ 0 := sub_ne_zero.mpr apart.symm
  have back : p.1 - q.1 ≠ 0 := sub_ne_zero.mpr apart
  unfold height
  field_simp
  ring

theorem flow_reversed : flow x counts q p = - flow x counts p q := by
  by_cases same : step x p = step x q
  · rw [flow_aside same,flow_aside same.symm,neg_zero]
  · rw [flow,flow,height_comm (apart_of_crosses same)]
    ring

theorem height_between (differ : step x p ≠ step x q) : height p q x ∈ Set.uIcc p.2 q.2 := by
  have part : ∃ t, 0 ≤ t ∧ t ≤ 1 ∧ height p q x = p.2 + t * (q.2 - p.2) := by
    refine ⟨(x - p.1) / (q.1 - p.1),?_,?_,rfl⟩
    · rcases crosses differ with ⟨left,right⟩ | ⟨left,right⟩
      · exact div_nonneg (by linarith) (by linarith)
      · exact div_nonneg_of_nonpos (by linarith) (by linarith)
    · rcases crosses differ with ⟨left,right⟩ | ⟨left,right⟩
      · rw [div_le_one (by linarith)]
        linarith
      · rw [div_le_one_of_neg (by linarith)]
        linarith
  obtain ⟨t,low,high,placed⟩ := part
  rw [placed]
  rcases le_total p.2 q.2 with up | down
  · rw [Set.uIcc_of_le up]
    constructor <;> nlinarith
  · rw [Set.uIcc_of_ge down]
    constructor <;> nlinarith

theorem height_inside {s : Set ℝ} (convex : s.OrdConnected) (differ : step x p ≠ step x q) (one : p.2 ∈ s) (two : q.2 ∈ s) :
    height p q x ∈ s :=
  convex.uIcc_subset one two (height_between differ)

def Aligned (p q m : ℝ × ℝ) : Prop := (m.2 - p.2) * (q.1 - p.1) = (m.1 - p.1) * (q.2 - p.2)

theorem height_aligned (line : Aligned p q m) (wide : p.1 ≠ q.1) (apart : p.1 ≠ m.1) : height p m x = height p q x := by
  have forth : q.1 - p.1 ≠ 0 := sub_ne_zero.mpr wide.symm
  have part : m.1 - p.1 ≠ 0 := sub_ne_zero.mpr apart.symm
  unfold height
  unfold Aligned at line
  field_simp
  linear_combination (x - p.1) * line

theorem Aligned.reversed (line : Aligned p q m) : Aligned q p m := by
  unfold Aligned at line ⊢
  linear_combination - line

-- An edge that leaves the part of the plane that counts is cut at a point beyond which nothing of it
-- counts: the column is not crossed there, or not at a height that counts.
def Beyond (x : ℝ) (counts : Set ℝ) (p q m : ℝ × ℝ) : Prop :=
  step x m = step x q ∨ (step x m = step x p ∧ m.2 ∉ counts ∧ q.2 ∉ counts)

theorem flow_hidden (convex : (countsᶜ).OrdConnected) (one : p.2 ∉ counts) (two : q.2 ∉ counts) : flow x counts p q = 0 := by
  by_cases same : step x p = step x q
  · exact flow_aside same
  · exact flow_uncounted (height_inside convex same one two)

theorem flow_cut (convex : (countsᶜ).OrdConnected) (beyond : Beyond x counts p q m) (line : Aligned p q m) :
    flow x counts p m = flow x counts p q := by
  by_cases same : step x m = step x q
  · by_cases crossed : step x p = step x q
    · rw [flow_aside crossed,flow_aside (crossed.trans same.symm)]
    · have wide : p.1 ≠ q.1 := apart_of_crosses crossed
      have apart : p.1 ≠ m.1 := apart_of_crosses (fun equal => crossed (equal.trans same))
      rw [flow,flow,same,height_aligned line wide apart]
  · obtain equal | ⟨near,mHidden,qHidden⟩ := beyond
    · exact absurd equal same
    · have crossed : step x q ≠ step x p := fun equal => same (near.trans equal.symm)
      have wide : q.1 ≠ p.1 := apart_of_crosses crossed
      have apart : q.1 ≠ m.1 := apart_of_crosses (fun equal => same equal.symm)
      have hidden : height q p x ∉ counts := by
        rw [← height_aligned line.reversed wide apart]
        exact height_inside convex (fun equal => same equal.symm) qHidden mHidden
      rw [flow_aside near.symm,← neg_eq_zero.mpr (flow_uncounted hidden),flow_reversed,neg_neg]

theorem indicator_unit (counts : Set ℝ) (h : ℝ) : 0 ≤ counts.indicator (1 : ℝ → ℝ) h ∧ counts.indicator (1 : ℝ → ℝ) h ≤ 1 := by
  by_cases member : h ∈ counts
  · rw [Set.indicator_of_mem member]
    exact ⟨zero_le_one,le_refl _⟩
  · rw [Set.indicator_of_notMem member]
    exact ⟨le_refl _,zero_le_one⟩

-- Wherever the edge is cut, the crossing of one column is all that can change.
theorem flow_cut_close (beyond : step x m = step x q ∨ step x m = step x p) :
    |flow x counts p m - flow x counts p q| ≤ 1 := by
  have bound (a b c d : ℝ) (one : a = 0 ∨ a = 1) (two : b = 0 ∨ b = 1) (low : 0 ≤ c ∧ c ≤ 1) (high : 0 ≤ d ∧ d ≤ 1) :
      |(a - b) * c - (a - b) * d| ≤ 1 := by
    rw [abs_le]
    rcases one with rfl | rfl <;> rcases two with rfl | rfl <;> constructor <;> linarith [low.1,low.2,high.1,high.2]
  rcases beyond with same | near
  · rw [flow,flow,same]
    exact bound _ _ _ _ (step_cases x q) (step_cases x p) (indicator_unit _ _) (indicator_unit _ _)
  · rw [flow_aside near.symm,zero_sub,abs_neg]
    have whole := bound _ _ _ 0 (step_cases x q) (step_cases x p) (indicator_unit counts (height p q x)) ⟨le_refl _,zero_le_one⟩
    rw [mul_zero,sub_zero] at whole
    exact whole

theorem flow_parts (x y : ℝ) (p q : ℝ × ℝ) :
    flow x (Set.Iio y) p q + flow x (Set.Ici y) p q = step x q - step x p := by
  unfold flow
  by_cases high : y ≤ height p q x
  · simp [Set.indicator,high,not_lt.mpr high]
  · simp [Set.indicator,high,not_le.mp high]

-- The ray that falls from the point is crossed the other way.
theorem winding_below (x y : ℝ) (points : List (ℝ × ℝ)) : closedSum (flow x (Set.Iio y)) points = - winding x y points := by
  have whole : closedSum (fun p q => flow x (Set.Iio y) p q + flow x (Set.Ici y) p q) points = 0 := by
    simp only [flow_parts]
    exact closedSum_telescopes (step x) points
  rw [closedSum_add] at whole
  exact eq_neg_of_add_eq_zero_left whole

section Area
open intervalIntegral MeasureTheory
variable {a b x₀ x₁ y₀ y₁ y : ℝ} {points : List (ℝ × ℝ)}

theorem integral_pathSum {f : ℝ → ℝ × ℝ → ℝ × ℝ → ℝ} (integrable : ∀ p q, IntervalIntegrable (fun t => f t p q) volume a b)
    (start : ℝ × ℝ) (rest : List (ℝ × ℝ)) :
    IntervalIntegrable (fun t => pathSum (f t) start rest) volume a b ∧
      ∫ t in a..b, pathSum (f t) start rest = pathSum (fun p q => ∫ t in a..b, f t p q) start rest := by
  induction rest generalizing start with
  | nil => simp [pathSum]
  | cons current rest ih =>
    obtain ⟨later,sum⟩ := ih current
    simp only [pathSum]
    exact ⟨(integrable start current).add later,by rw [integral_add (integrable start current) later,sum]⟩

theorem integral_closedSum {f : ℝ → ℝ × ℝ → ℝ × ℝ → ℝ} (integrable : ∀ p q, IntervalIntegrable (fun t => f t p q) volume a b)
    (points : List (ℝ × ℝ)) : IntervalIntegrable (fun t => closedSum (f t) points) volume a b ∧
      ∫ t in a..b, closedSum (f t) points = closedSum (fun p q => ∫ t in a..b, f t p q) points := by
  cases ends : points.getLast? with
  | none => simp [closedSum,ends]
  | some last =>
    simp only [closedSum_of_last ends]
    exact integral_pathSum integrable last points

theorem integrable_part {f : ℝ → ℝ} {s : Set ℝ} (measurable : MeasurableSet s) (integrable : IntervalIntegrable f volume a b) :
    IntervalIntegrable (s.indicator f) volume a b :=
  ⟨IntegrableOn.indicator integrable.1 measurable,IntegrableOn.indicator integrable.2 measurable⟩

theorem below_eq (h : ℝ) : (fun y => (Set.Ici y).indicator (1 : ℝ → ℝ) h) = Set.indicator {y | y ≤ h} (1 : ℝ → ℝ) := by
  funext y
  simp [Set.indicator]

theorem below_integrable (h : ℝ) : IntervalIntegrable (fun y => (Set.Ici y).indicator (1 : ℝ → ℝ) h) volume a b := by
  rw [below_eq]
  exact integrable_part measurableSet_Iic (intervalIntegrable_const (c := (1 : ℝ)))

theorem below_integral {h : ℝ} (inside : h ∈ Set.Icc y₀ y₁) :
    ∫ y in y₀..y₁, (Set.Ici y).indicator (1 : ℝ → ℝ) h = h - y₀ := by
  rw [below_eq,integral_indicator inside]
  simp

theorem flow_integrable (x : ℝ) (p q : ℝ × ℝ) : IntervalIntegrable (fun y => flow x (Set.Ici y) p q) volume a b :=
  (below_integrable _).const_mul _

noncomputable def rise (y₀ x : ℝ) (p q : ℝ × ℝ) : ℝ := (step x q - step x p) * (height p q x - y₀)

theorem flow_integral (one : p.2 ∈ Set.Icc y₀ y₁) (two : q.2 ∈ Set.Icc y₀ y₁) :
    ∫ y in y₀..y₁, flow x (Set.Ici y) p q = rise y₀ x p q := by
  unfold flow rise
  rw [intervalIntegral.integral_const_mul]
  by_cases same : step x p = step x q
  · rw [same,sub_self,zero_mul,zero_mul]
  · rw [below_integral (height_inside Set.ordConnected_Icc same one two)]

-- An edge: the trapezoid below it, with a sign.
noncomputable def trapezoid (y₀ : ℝ) (p q : ℝ × ℝ) : ℝ := (q.1 - p.1) * ((p.2 + q.2) / 2 - y₀)

theorem line_integrable (y₀ : ℝ) (p q : ℝ × ℝ) : IntervalIntegrable (fun x => height p q x - y₀) volume a b := by
  apply Continuous.intervalIntegrable
  unfold height
  fun_prop

theorem line_integral (y₀ : ℝ) (p q : ℝ × ℝ) : ∫ x in p.1..q.1, (height p q x - y₀) = trapezoid y₀ p q := by
  by_cases same : p.1 = q.1
  · rw [same,integral_same,trapezoid,same,sub_self,zero_mul]
  · have wide : q.1 - p.1 ≠ 0 := sub_ne_zero.mpr (fun equal => same equal.symm)
    have linear : (fun x => height p q x - y₀) =
        fun x => (p.2 - y₀ - p.1 * ((q.2 - p.2) / (q.1 - p.1))) + (q.2 - p.2) / (q.1 - p.1) * x := by
      funext x
      unfold height
      ring
    have whole : IntervalIntegrable (fun x : ℝ => (q.2 - p.2) / (q.1 - p.1) * x) volume p.1 q.1 := intervalIntegrable_id.const_mul _
    rw [linear,intervalIntegral.integral_add intervalIntegrable_const whole,intervalIntegral.integral_const,
      intervalIntegral.integral_const_mul,integral_id,trapezoid,smul_eq_mul]
    field_simp
    ring

theorem rise_parts (y₀ : ℝ) (p q : ℝ × ℝ) : (fun x => rise y₀ x p q) = fun x =>
    Set.indicator {x | x ≤ q.1} (fun x => height p q x - y₀) x - Set.indicator {x | x ≤ p.1} (fun x => height p q x - y₀) x := by
  funext x
  simp [rise,step,Set.indicator,sub_mul]

theorem rise_integrable (y₀ : ℝ) (p q : ℝ × ℝ) : IntervalIntegrable (fun x => rise y₀ x p q) volume a b := by
  rw [rise_parts]
  exact (integrable_part measurableSet_Iic (line_integrable y₀ p q)).sub (integrable_part measurableSet_Iic (line_integrable y₀ p q))

theorem rise_integral (one : p.1 ∈ Set.Icc x₀ x₁) (two : q.1 ∈ Set.Icc x₀ x₁) :
    ∫ x in x₀..x₁, rise y₀ x p q = trapezoid y₀ p q := by
  have line {c d : ℝ} : IntervalIntegrable (fun x => height p q x - y₀) volume c d := line_integrable y₀ p q
  have part (c : ℝ) : IntervalIntegrable (Set.indicator {x | x ≤ c} fun x => height p q x - y₀) volume x₀ x₁ :=
    integrable_part measurableSet_Iic line
  rw [rise_parts,intervalIntegral.integral_sub (part q.1) (part p.1),integral_indicator two,integral_indicator one,integral_interval_sub_left line line,line_integral]

def Within (x₀ x₁ y₀ y₁ : ℝ) (p : ℝ × ℝ) : Prop := p.1 ∈ Set.Icc x₀ x₁ ∧ p.2 ∈ Set.Icc y₀ y₁

theorem column_winding (within : ∀ p ∈ points, Within x₀ x₁ y₀ y₁ p) (x : ℝ) :
    ∫ y in y₀..y₁, winding x y points = closedSum (rise y₀ x) points := by
  calc ∫ y in y₀..y₁, winding x y points
      = closedSum (fun p q => ∫ y in y₀..y₁, flow x (Set.Ici y) p q) points :=
        (integral_closedSum (flow_integrable x) points).2
    _ = closedSum (rise y₀ x) points := closedSum_congr (fun _ _ one two => flow_integral one.2 two.2) within

theorem area_winding (within : ∀ p ∈ points, Within x₀ x₁ y₀ y₁ p) :
    closedSum (trapezoid y₀) points = ∫ x in x₀..x₁, ∫ y in y₀..y₁, winding x y points := by
  calc closedSum (trapezoid y₀) points
      = closedSum (fun p q => ∫ x in x₀..x₁, rise y₀ x p q) points :=
        (closedSum_congr (fun _ _ one two => rise_integral one.1 two.1) within).symm
    _ = ∫ x in x₀..x₁, closedSum (rise y₀ x) points := (integral_closedSum (rise_integrable y₀) points).2.symm
    _ = ∫ x in x₀..x₁, ∫ y in y₀..y₁, winding x y points := by simp only [column_winding within]

theorem integral_abs_le {f g : ℝ → ℝ} (ordered : a ≤ b) (bound : ∀ t ∈ Set.Ioc a b, |f t| ≤ g t)
    (integrable : IntervalIntegrable g volume a b) : |∫ t in a..b, f t| ≤ ∫ t in a..b, g t := by
  rw [← Real.norm_eq_abs]
  exact norm_integral_le_of_norm_le ordered (Filter.Eventually.of_forall bound) integrable

theorem area_le {k : ℝ} {f g : ℝ → ℝ} (within : ∀ p ∈ points, Within x₀ x₁ y₀ y₁ p) (across : x₀ ≤ x₁) (up : y₀ ≤ y₁)
    (fIntegrable : IntervalIntegrable f volume x₀ x₁) (gIntegrable : IntervalIntegrable g volume y₀ y₁)
    (bound : ∀ x ∈ Set.Ioc x₀ x₁, ∀ y ∈ Set.Ioc y₀ y₁, |winding x y points| ≤ k + f x + g y) :
    |closedSum (trapezoid y₀) points| ≤ ((k * (y₁ - y₀)) + ∫ y in y₀..y₁, g y) * (x₁ - x₀) + (∫ x in x₀..x₁, f x) * (y₁ - y₀) := by
  have column (x : ℝ) (inside : x ∈ Set.Ioc x₀ x₁) :
      |∫ y in y₀..y₁, winding x y points| ≤ (k * (y₁ - y₀) + ∫ y in y₀..y₁, g y) + f x * (y₁ - y₀) := by
    have level : IntervalIntegrable (fun _ => k + f x) volume y₀ y₁ := intervalIntegrable_const
    calc |∫ y in y₀..y₁, winding x y points|
        ≤ ∫ y in y₀..y₁, (k + f x + g y) :=
          integral_abs_le up (bound x inside) (level.add gIntegrable)
      _ = (k * (y₁ - y₀) + ∫ y in y₀..y₁, g y) + f x * (y₁ - y₀) := by
          rw [intervalIntegral.integral_add level gIntegrable,intervalIntegral.integral_const,smul_eq_mul]
          ring
  have flat : IntervalIntegrable (fun _ => k * (y₁ - y₀) + ∫ y in y₀..y₁, g y) volume x₀ x₁ := intervalIntegrable_const
  rw [area_winding within]
  calc |∫ x in x₀..x₁, ∫ y in y₀..y₁, winding x y points|
      ≤ ∫ x in x₀..x₁, ((k * (y₁ - y₀) + ∫ y in y₀..y₁, g y) + f x * (y₁ - y₀)) :=
        integral_abs_le across column (flat.add (fIntegrable.mul_const _))
    _ = ((k * (y₁ - y₀)) + ∫ y in y₀..y₁, g y) * (x₁ - x₀) + (∫ x in x₀..x₁, f x) * (y₁ - y₀) := by
        rw [intervalIntegral.integral_add flat (fIntegrable.mul_const _),intervalIntegral.integral_const,smul_eq_mul,
          intervalIntegral.integral_mul_const]
        ring

theorem strip_integral {s : Set ℝ} {c width : ℝ} (measurable : MeasurableSet s) (ordered : a ≤ b) (positive : 0 ≤ width)
    (narrow : Set.Ioc a b ∩ s ⊆ Set.Icc c (c + width)) : ∫ x in a..b, s.indicator (1 : ℝ → ℝ) x ≤ width := by
  have small : volume.real (Set.Ioc a b ∩ s) ≤ volume.real (Set.Icc c (c + width)) :=
    measureReal_mono narrow (by simp)
  rw [integral_of_le ordered,setIntegral_indicator measurable]
  simp only [Pi.one_apply,setIntegral_const,smul_eq_mul,mul_one]
  refine small.trans (le_of_eq ?_)
  simp [positive]

theorem shoelace (y₀ : ℝ) (points : List (ℝ × ℝ)) :
    closedSum (fun p q => p.1 * q.2 - q.1 * p.2) points = - 2 * closedSum (trapezoid y₀) points := by
  have each (p q : ℝ × ℝ) : p.1 * q.2 - q.1 * p.2 =
      AddMonoidHom.mulLeft (- 2 : ℝ) (trapezoid y₀ p q) + ((q.1 * q.2 - 2 * y₀ * q.1) - (p.1 * p.2 - 2 * y₀ * p.1)) := by
    rw [AddMonoidHom.coe_mulLeft,trapezoid]
    ring
  simp only [each]
  rw [closedSum_add,closedSum_telescopes (fun p : ℝ × ℝ => p.1 * p.2 - 2 * y₀ * p.1),closedSum_map,add_zero]
  rfl

end Area

end Winding
