import Ignis.Winding
import Ignis.ZoneGeometry

-- The area of a zone within a box: no more of it than the zone winds around, unless an edge that
-- hardly spans the line it crosses was cut where it starts.
namespace Ignis.Geometry
open ClosedChain IncidentEngine Winding

variable {box : Box ℚ} {edge : Edge} {p q m : Point ℚ} {polygon : List (Point ℚ)} {x y : ℝ}

noncomputable def plane (p : Point ℚ) : ℝ × ℝ := (p.x,p.y)

def delta : ℚ := 1e-12

-- An edge is cut although it spans less across the line than the guard asks for.
def span (edge : Edge) (p q : Point ℚ) : ℚ :=
  match edge with
  | .left => q.x - p.x
  | .right => q.x - p.x
  | .top => q.y - p.y
  | .bottom => q.y - p.y

def sliver (box : Box ℚ) (edge : Edge) (p q : Point ℚ) : ℕ :=
  if ¬ (inside box edge p ↔ inside box edge q) ∧ absolute (span edge p q) < delta then 1 else 0

theorem absolute_abs (value : ℚ) : absolute value = |value| := by
  unfold absolute
  split
  · rename_i negative
    rw [abs_of_neg negative,zero_sub]
  · rename_i nonneg
    exact (abs_of_nonneg (not_lt.mp nonneg)).symm

def OnLine (box : Box ℚ) (edge : Edge) (p : Point ℚ) : Prop :=
  match edge with
  | .left => p.x = box.xMin
  | .right => p.x = box.xMax
  | .top => p.y = box.yMin
  | .bottom => p.y = box.yMax

def Far (edge : Edge) (x y : ℝ) (p : Point ℚ) : Prop :=
  match edge with
  | .left => p.x < x
  | .right => x ≤ p.x
  | .top => p.y < y
  | .bottom => y ≤ p.y

def counted (edge : Edge) (y : ℝ) : Set ℝ :=
  match edge with
  | .bottom => Set.Iio y
  | _ => Set.Ici y

structure Covers (box : Box ℚ) (x y : ℝ) : Prop where
  left : box.xMin < x
  right : x ≤ box.xMax
  top : box.yMin < y
  bottom : y ≤ box.yMax

theorem counted_convex (edge : Edge) (y : ℝ) : ((counted edge y)ᶜ).OrdConnected := by
  cases edge <;> simp only [counted,Set.compl_Ici,Set.compl_Iio] <;> first | exact Set.ordConnected_Iio | exact Set.ordConnected_Ici

theorem outside_far (covers : Covers box x y) (out : ¬ inside box edge p) : Far edge x y p := by
  cases edge with
  | left =>
    have beyond : (p.x : ℝ) < box.xMin := by exact_mod_cast not_le.mp out
    exact beyond.trans covers.left
  | right =>
    have beyond : (box.xMax : ℝ) < p.x := by exact_mod_cast not_le.mp out
    exact covers.right.trans (le_of_lt beyond)
  | top =>
    have beyond : (p.y : ℝ) < box.yMin := by exact_mod_cast not_le.mp out
    exact beyond.trans covers.top
  | bottom =>
    have beyond : (box.yMax : ℝ) < p.y := by exact_mod_cast not_le.mp out
    exact covers.bottom.trans (le_of_lt beyond)

theorem onLine_far (covers : Covers box x y) (line : OnLine box edge p) : Far edge x y p := by
  cases edge with
  | left => exact (congrArg Rat.cast line).trans_lt covers.left
  | right => exact covers.right.trans (le_of_eq (congrArg Rat.cast line.symm))
  | top => exact (congrArg Rat.cast line).trans_lt covers.top
  | bottom => exact covers.bottom.trans (le_of_eq (congrArg Rat.cast line.symm))

theorem far_aside (one : Far edge x y p) (two : Far edge x y q) :
    step x (plane p) = step x (plane q) ∨ ((plane p).2 ∉ counted edge y ∧ (plane q).2 ∉ counted edge y) := by
  cases edge with
  | left => exact .inl ((step_left one).trans (step_left two).symm)
  | right => exact .inl ((step_right one).trans (step_right two).symm)
  | top => exact .inr ⟨not_le.mpr one,not_le.mpr two⟩
  | bottom => exact .inr ⟨not_lt.mpr one,not_lt.mpr two⟩

theorem far_flow (one : Far edge x y p) (two : Far edge x y q) : flow x (counted edge y) (plane p) (plane q) = 0 := by
  rcases far_aside one two with same | ⟨low,high⟩
  · exact flow_aside same
  · exact flow_hidden (counted_convex edge y) low high

theorem delta_pos : 0 < delta := by norm_num [delta]

theorem intersection_onLine (box : Box ℚ) (edge : Edge) (a b : Point ℚ) : OnLine box edge (intersection box edge a b) := by
  cases edge <;> rfl

theorem part_unit {line a b : ℚ} (crossed : (a ≤ line ∧ line ≤ b) ∨ (b ≤ line ∧ line ≤ a)) :
    0 ≤ part line a (b - a) ∧ part line a (b - a) ≤ 1 := by
  unfold part
  split
  · exact ⟨le_refl _,zero_le_one⟩
  · rename_i wide
    rw [absolute_abs,not_lt] at wide
    have nonzero : b - a ≠ 0 := by
      intro zero
      rw [zero,abs_zero] at wide
      exact absurd delta_pos (not_lt.mpr wide)
    rcases crossed with ⟨low,high⟩ | ⟨low,high⟩
    · have positive : 0 < b - a := lt_of_le_of_ne (by linarith) nonzero.symm
      exact ⟨div_nonneg (by linarith) (by linarith),(div_le_one positive).mpr (by linarith)⟩
    · have negative : b - a < 0 := lt_of_le_of_ne (by linarith) nonzero
      exact ⟨div_nonneg_of_nonpos (by linarith) (by linarith),(div_le_one_of_neg negative).mpr (by linarith)⟩

theorem part_between {line a b u v : ℚ} (crossed : (a ≤ line ∧ line ≤ b) ∨ (b ≤ line ∧ line ≤ a)) :
    u + part line a (b - a) * (v - u) ∈ Set.uIcc u v := by
  obtain ⟨low,high⟩ := part_unit crossed
  rcases le_total u v with up | down
  · rw [Set.uIcc_of_le up]
    constructor <;> nlinarith
  · rw [Set.uIcc_of_ge down]
    constructor <;> nlinarith

theorem part_wide {line a d : ℚ} (wide : ¬ absolute d < delta) : part line a d * d = line - a := by
  have nonzero : d ≠ 0 := by
    rintro rfl
    rw [absolute_abs,abs_zero] at wide
    exact wide delta_pos
  have guard : ¬ absolute d < 1e-12 := wide
  rw [part,if_neg guard,div_mul_cancel₀ _ nonzero]

theorem intersection_aligned {a b : Point ℚ} (wide : ¬ absolute (span edge a b) < delta) :
    Aligned (plane a) (plane b) (plane (intersection box edge a b)) := by
  have aligned : ((intersection box edge a b).y - a.y) * (b.x - a.x) = ((intersection box edge a b).x - a.x) * (b.y - a.y) := by
    cases edge with
    | left =>
      have meets : part box.xMin a.x (b.x - a.x) * (b.x - a.x) = box.xMin - a.x := part_wide wide
      simp only [intersection]
      linear_combination (b.y - a.y) * meets
    | right =>
      have meets : part box.xMax a.x (b.x - a.x) * (b.x - a.x) = box.xMax - a.x := part_wide wide
      simp only [intersection]
      linear_combination (b.y - a.y) * meets
    | top =>
      have meets : part box.yMin a.y (b.y - a.y) * (b.y - a.y) = box.yMin - a.y := part_wide wide
      simp only [intersection]
      linear_combination - (b.x - a.x) * meets
    | bottom =>
      have meets : part box.yMax a.y (b.y - a.y) * (b.y - a.y) = box.yMax - a.y := part_wide wide
      simp only [intersection]
      linear_combination - (b.x - a.x) * meets
  simp only [Aligned,plane]
  exact_mod_cast aligned

theorem intersection_between (vertical : edge = .top ∨ edge = .bottom) {a b : Point ℚ}
    (crossed : ¬ (inside box edge a ↔ inside box edge b)) : (intersection box edge a b).x ∈ Set.uIcc a.x b.x := by
  rcases vertical with rfl | rfl
  · apply part_between
    rcases (xor_iff_not_iff _ _).mpr crossed with ⟨aIn,bOut⟩ | ⟨bIn,aOut⟩
    · exact .inr ⟨le_of_lt (not_le.mp bOut),aIn⟩
    · exact .inl ⟨le_of_lt (not_le.mp aOut),bIn⟩
  · apply part_between
    rcases (xor_iff_not_iff _ _).mpr crossed with ⟨aIn,bOut⟩ | ⟨bIn,aOut⟩
    · exact .inl ⟨aIn,le_of_lt (not_le.mp bOut)⟩
    · exact .inr ⟨bIn,le_of_lt (not_le.mp aOut)⟩

theorem plane_between {a b : Point ℚ} (between : m.x ∈ Set.uIcc a.x b.x) : (plane m).1 ∈ Set.uIcc (plane a).1 (plane b).1 := by
  rw [Set.mem_uIcc] at between ⊢
  simp only [plane]
  exact_mod_cast between

theorem cut_beyond (covers : Covers box x y) (out : ¬ inside box edge q) (line : OnLine box edge m)
    (between : edge = .top ∨ edge = .bottom → m.x ∈ Set.uIcc p.x q.x) :
    Beyond x (counted edge y) (plane p) (plane q) (plane m) := by
  have mFar : Far edge x y m := onLine_far covers line
  have qFar : Far edge x y q := outside_far covers out
  have vertical (kind : edge = .top ∨ edge = .bottom)
      (hidden : (plane m).2 ∉ counted edge y ∧ (plane q).2 ∉ counted edge y) :
      Beyond x (counted edge y) (plane p) (plane q) (plane m) := by
    rcases step_between (x := x) (plane_between (between kind)) with near | same
    · exact .inr ⟨near,hidden⟩
    · exact .inl same
  cases edge with
  | left => exact .inl ((step_left mFar).trans (step_left qFar).symm)
  | right => exact .inl ((step_right mFar).trans (step_right qFar).symm)
  | top => exact vertical (.inl rfl) ⟨not_le.mpr mFar,not_le.mpr qFar⟩
  | bottom => exact vertical (.inr rfl) ⟨not_lt.mpr mFar,not_lt.mpr qFar⟩

-- The strip along a clip line that an edge spanning too little does not leave.
def coordinate (edge : Edge) (x y : ℝ) : ℝ :=
  match edge with
  | .left => x
  | .right => x
  | .top => y
  | .bottom => y

def strip (box : Box ℚ) (edge : Edge) : Set ℝ :=
  match edge with
  | .left => Set.Iio ((box.xMin + delta : ℚ) : ℝ)
  | .right => Set.Ioi ((box.xMax - delta : ℚ) : ℝ)
  | .top => Set.Iio ((box.yMin + delta : ℚ) : ℝ)
  | .bottom => Set.Ioi ((box.yMax - delta : ℚ) : ℝ)

noncomputable def excess (box : Box ℚ) (edge : Edge) (x y : ℝ) : ℝ :=
  (strip box edge).indicator 1 (coordinate edge x y)

theorem narrow_far (out : ¬ inside box edge q) (narrow : absolute (span edge p q) < delta)
    (off : coordinate edge x y ∉ strip box edge) : Far edge x y p := by
  rw [absolute_abs,abs_lt] at narrow
  obtain ⟨back,forth⟩ := narrow
  cases edge with
  | left =>
    have beyond : q.x < box.xMin := not_le.mp out
    have near : p.x < box.xMin + delta := by linarith [show - delta < q.x - p.x from back]
    exact (Rat.cast_lt.mpr near).trans_le (not_lt.mp off)
  | right =>
    have beyond : box.xMax < q.x := not_le.mp out
    have near : box.xMax - delta < p.x := by linarith [show q.x - p.x < delta from forth]
    exact (not_lt.mp off).trans (Rat.cast_le.mpr (le_of_lt near))
  | top =>
    have beyond : q.y < box.yMin := not_le.mp out
    have near : p.y < box.yMin + delta := by linarith [show - delta < q.y - p.y from back]
    exact (Rat.cast_lt.mpr near).trans_le (not_lt.mp off)
  | bottom =>
    have beyond : box.yMax < q.y := not_le.mp out
    have near : box.yMax - delta < p.y := by linarith [show q.y - p.y < delta from forth]
    exact (not_lt.mp off).trans (Rat.cast_le.mpr (le_of_lt near))

theorem cut_close (covers : Covers box x y) (pIn : inside box edge p) (qOut : ¬ inside box edge q) (line : OnLine box edge m)
    (between : edge = .top ∨ edge = .bottom → m.x ∈ Set.uIcc p.x q.x)
    (aligned : ¬ absolute (span edge p q) < delta → Aligned (plane p) (plane q) (plane m)) :
    |flow x (counted edge y) (plane p) (plane m) - flow x (counted edge y) (plane p) (plane q)| ≤
      sliver box edge p q * excess box edge x y := by
  have beyond := cut_beyond covers qOut line between
  by_cases narrow : absolute (span edge p q) < delta
  · have one : sliver box edge p q = 1 := if_pos ⟨fun same => qOut (same.mp pIn),narrow⟩
    rw [one,Nat.cast_one,one_mul,excess]
    by_cases off : coordinate edge x y ∈ strip box edge
    · rw [Set.indicator_of_mem off]
      exact flow_cut_close (beyond.imp id And.left)
    · have pFar : Far edge x y p := narrow_far qOut narrow off
      rw [Set.indicator_of_notMem off,far_flow pFar (onLine_far covers line),far_flow pFar (outside_far covers qOut),sub_self,
        abs_zero]
  · have none : sliver box edge p q = 0 := if_neg (fun both => narrow both.2)
    rw [none,Nat.cast_zero,zero_mul,flow_cut (counted_convex edge y) beyond (aligned narrow),sub_self,abs_zero]

theorem span_comm (edge : Edge) (p q : Point ℚ) : absolute (span edge q p) = absolute (span edge p q) := by
  rw [absolute_abs,absolute_abs]
  cases edge <;> exact abs_sub_comm _ _

theorem sliver_comm (box : Box ℚ) (edge : Edge) (p q : Point ℚ) : sliver box edge q p = sliver box edge p q := by
  have narrow : absolute (span edge q p) < delta ↔ absolute (span edge p q) < delta := by rw [span_comm]
  exact if_congr (and_congr (not_congr iff_comm) narrow) rfl rfl

theorem clip_kept (covers : Covers box x y) (edge : Edge) :
    Kept (inside box edge) (OnLine box edge) (intersection box edge)
      (fun p q => flow x (counted edge y) (plane p) (plane q)) (fun p q => sliver box edge p q * excess box edge x y) := by
  refine ⟨?_,?_,?_,?_,?_⟩
  · intro p q pIn qOut
    have line := intersection_onLine box edge p q
    exact ⟨line,cut_close covers pIn qOut line
      (fun vertical => intersection_between vertical (fun same => qOut (same.mp pIn))) intersection_aligned⟩
  · intro p q pOut qIn
    have line := intersection_onLine box edge p q
    -- the same cut, seen from the end that is inside
    have close := cut_close covers qIn pOut line
      (fun vertical => Set.uIcc_comm p.x q.x ▸ intersection_between vertical (fun same => pOut (same.mpr qIn)))
      (fun wide => (intersection_aligned (span_comm edge p q ▸ wide)).reversed)
    rw [sliver_comm,flow_reversed,flow_reversed (p := plane p),neg_sub_neg,abs_sub_comm] at close
    exact ⟨line,close⟩
  · intro p q pOut qOut
    exact far_flow (outside_far covers pOut) (outside_far covers qOut)
  · intro p q pLine qLine
    exact far_flow (onLine_far covers pLine) (onLine_far covers qLine)
  · intro p q
    exact mul_nonneg (Nat.cast_nonneg _) (indicator_unit _ _).1

-- How many edges of a polygon are such slivers to a clip, and to a row of them.
def slivers (box : Box ℚ) (edge : Edge) (polygon : List (Point ℚ)) : ℕ := closedSum (sliver box edge) polygon

def clipped (box : Box ℚ) (edges : List Edge) (polygon : List (Point ℚ)) : List (Point ℚ) := edges.foldl (clip box) polygon

noncomputable def around (x y : ℝ) (polygon : List (Point ℚ)) : ℝ := winding x y (polygon.map plane)

-- Counted downwards at the bottom, the crossings are those of the other ray.
theorem counted_around (edge : Edge) (x y : ℝ) :
    (∀ points, closedSum (fun p q => flow x (counted edge y) (plane p) (plane q)) points = around x y points) ∨
    ∀ points, closedSum (fun p q => flow x (counted edge y) (plane p) (plane q)) points = - around x y points := by
  have placed (points : List (Point ℚ)) := closedSum_points plane (flow x (counted edge y)) points
  cases edge with
  | bottom => exact .inr fun points => (placed points).symm.trans (winding_below x y _)
  | _ => exact .inl fun points => (placed points).symm

theorem clip_around (covers : Covers box x y) (edge : Edge) (polygon : List (Point ℚ)) :
    |around x y (clip box polygon edge) - around x y polygon| ≤ slivers box edge polygon * excess box edge x y := by
  have marked : ∃ mark, OnLine box edge mark := ⟨_,intersection_onLine box edge ⟨0,0⟩ ⟨0,0⟩⟩
  obtain ⟨mark,onLine⟩ := marked
  have errors : closedSum (fun p q => (sliver box edge p q : ℝ) * excess box edge x y) polygon =
      slivers box edge polygon * excess box edge x y :=
    closedSum_map ((AddMonoidHom.mulRight (excess box edge x y)).comp (Nat.castAddMonoidHom ℝ)) (sliver box edge) polygon
  have sum := clip_sum mark onLine (clip_kept covers edge) polygon
  rw [errors] at sum
  rcases counted_around edge x y with same | opposite
  · rw [same,same] at sum
    exact sum
  · rw [opposite,opposite,neg_sub_neg,abs_sub_comm] at sum
    exact sum

def InBox (box : Box ℚ) (p : Point ℚ) : Prop := p.x ∈ Set.Icc box.xMin box.xMax ∧ p.y ∈ Set.Icc box.yMin box.yMax

theorem clipped_inBox (across : box.xMin ≤ box.xMax) (down : box.yMin ≤ box.yMax) (polygon : List (Point ℚ)) :
    ∀ p ∈ clipped box [.left,.right,.top,.bottom] polygon, InBox box p := by
  have every : ∀ p ∈ polygon, True := fun _ _ => trivial
  have first : ∀ p ∈ clip box polygon .left, box.xMin ≤ p.x :=
    clip_forall (fun p _ pIn => pIn) (fun _ _ _ _ _ => le_refl _) every
  have second : ∀ p ∈ clip box (clip box polygon .left) .right, p.x ∈ Set.Icc box.xMin box.xMax :=
    clip_forall (fun p low pIn => ⟨low,pIn⟩) (fun _ _ _ _ _ => ⟨across,le_refl _⟩) first
  have third : ∀ p ∈ clip box (clip box (clip box polygon .left) .right) .top, p.x ∈ Set.Icc box.xMin box.xMax ∧ box.yMin ≤ p.y :=
    clip_forall (fun p columns pIn => ⟨columns,pIn⟩)
      (fun p q one two crossed => ⟨Set.ordConnected_Icc.uIcc_subset one two (intersection_between (.inl rfl) crossed),le_refl _⟩) second
  exact clip_forall (fun p low pIn => ⟨low.1,low.2,pIn⟩)
    (fun p q one two crossed =>
      ⟨Set.ordConnected_Icc.uIcc_subset one.1 two.1 (intersection_between (.inr rfl) crossed),down,le_refl _⟩) third

theorem polygonArea_le (y₀ : ℝ) (polygon : List (Point ℚ)) :
    ((polygonArea polygon : ℚ) : ℝ) ≤ |closedSum (trapezoid y₀) (polygon.map plane)| := by
  unfold polygonArea
  split
  · rw [Rat.cast_zero]
    exact abs_nonneg _
  · have cross : ((closedSum (fun p q : Point ℚ => p.x * q.y - q.x * p.y) polygon : ℚ) : ℝ) =
        - 2 * closedSum (trapezoid y₀) (polygon.map plane) := by
      have each (p q : Point ℚ) : ((p.x * q.y - q.x * p.y : ℚ) : ℝ) =
          (plane p).1 * (plane q).2 - (plane q).1 * (plane p).2 := by
        simp only [plane]
        push_cast
        rfl
      have cast := closedSum_map (Rat.castHom ℝ).toAddMonoidHom (fun p q : Point ℚ => p.x * q.y - q.x * p.y) polygon
      rw [← shoelace,closedSum_points]
      exact cast.symm.trans (congrArg (fun f => closedSum f polygon) (funext fun p => funext fun q => each p q))
    have half : (2.0 : ℚ) = 2 := by norm_num
    have twice := foldl_rotate (fun p q : Point ℚ => p.x * q.y - q.x * p.y) polygon
    simp only
    rw [twice,absolute_abs,half,Rat.cast_div,Rat.cast_abs,cross,abs_mul]
    norm_num

theorem polygonArea_nonneg (polygon : List (Point ℚ)) : 0 ≤ polygonArea polygon := by
  unfold polygonArea
  split
  · exact le_refl _
  · simp only
    rw [absolute_abs]
    exact div_nonneg (abs_nonneg _) (by norm_num)

theorem clippedArea_eq (box : Box ℚ) (edges : List Edge) (polygon : List (Point ℚ)) :
    clippedArea box edges polygon = polygonArea (clipped box edges polygon) := by
  have nothing (edges : List Edge) : clipped box edges [] = [] := by
    induction edges with
    | nil => rfl
    | cons edge edges ih => exact ih
  induction edges generalizing polygon with
  | nil => rfl
  | cons edge edges ih =>
    rw [clippedArea]
    split
    · rename_i empty
      have none : clip box polygon edge = [] := List.isEmpty_iff.mp empty
      have all : clipped box (edge :: edges) polygon = clipped box edges (clip box polygon edge) := rfl
      rw [all,none,nothing]
      rfl
    · exact ih _

def allSlivers (box : Box ℚ) : List Edge → List (Point ℚ) → ℕ
  | [],_ => 0
  | edge :: edges,polygon => slivers box edge polygon + allSlivers box edges (clip box polygon edge)

theorem low_strip {a b : ℚ} (ordered : a ≤ b) :
    ∫ t in (a : ℝ)..b, (Set.Iio ((a + delta : ℚ) : ℝ)).indicator (1 : ℝ → ℝ) t ≤ delta := by
  have positive : (0 : ℝ) ≤ delta := Rat.cast_nonneg.mpr (le_of_lt delta_pos)
  apply strip_integral (c := (a : ℝ)) measurableSet_Iio (Rat.cast_le.mpr ordered) positive
  rintro t ⟨⟨low,_⟩,near⟩
  have near' : t < a + delta := by exact_mod_cast near
  exact ⟨le_of_lt low,le_of_lt near'⟩

theorem high_strip {a b : ℚ} (ordered : a ≤ b) :
    ∫ t in (a : ℝ)..b, (Set.Ioi ((b - delta : ℚ) : ℝ)).indicator (1 : ℝ → ℝ) t ≤ delta := by
  have positive : (0 : ℝ) ≤ delta := Rat.cast_nonneg.mpr (le_of_lt delta_pos)
  apply strip_integral (c := (b : ℝ) - delta) measurableSet_Ioi (Rat.cast_le.mpr ordered) positive
  rintro t ⟨⟨_,high⟩,near⟩
  have near' : b - delta < t := by exact_mod_cast near
  exact ⟨le_of_lt near',by linarith⟩

theorem strip_integrable (box : Box ℚ) (edge : Edge) (a b : ℝ) :
    IntervalIntegrable ((strip box edge).indicator (1 : ℝ → ℝ)) MeasureTheory.volume a b := by
  have one : IntervalIntegrable (1 : ℝ → ℝ) MeasureTheory.volume a b := intervalIntegrable_const (c := (1 : ℝ))
  cases edge with
  | left => exact integrable_part measurableSet_Iio one
  | right => exact integrable_part measurableSet_Ioi one
  | top => exact integrable_part measurableSet_Iio one
  | bottom => exact integrable_part measurableSet_Ioi one

theorem pair_integral {a b width : ℝ} {f g : ℝ → ℝ} (m n : ℕ) (fIntegrable : IntervalIntegrable f MeasureTheory.volume a b)
    (gIntegrable : IntervalIntegrable g MeasureTheory.volume a b) (first : ∫ t in a..b, f t ≤ width) (second : ∫ t in a..b, g t ≤ width) :
    ∫ t in a..b, (m * f t + n * g t) ≤ (m + n) * width := by
  rw [intervalIntegral.integral_add (fIntegrable.const_mul _) (gIntegrable.const_mul _),intervalIntegral.integral_const_mul,
    intervalIntegral.integral_const_mul,add_mul]
  exact add_le_add (mul_le_mul_of_nonneg_left first (Nat.cast_nonneg m)) (mul_le_mul_of_nonneg_left second (Nat.cast_nonneg n))

theorem valid_parts (valid : box.valid = true) :
    (0 ≤ box.xMin ∧ 0 ≤ box.yMin) ∧ (box.xMax ≤ 1 ∧ box.yMax ≤ 1) ∧ box.xMin < box.xMax ∧ box.yMin < box.yMax := by
  simp only [Box.valid,Bool.and_eq_true,decide_eq_true_eq] at valid
  obtain ⟨⟨⟨⟨⟨⟨_,left⟩,top⟩,right⟩,bottom⟩,across⟩,down⟩ := valid
  exact ⟨⟨left,top⟩,⟨right,bottom⟩,across,down⟩

theorem area_sides (valid : box.valid = true) : box.area = (box.xMax - box.xMin) * (box.yMax - box.yMin) := by
  obtain ⟨_,_,across,down⟩ := valid_parts valid
  rw [Box.area,larger,larger,if_pos (sub_pos.mpr across),if_pos (sub_pos.mpr down)]

theorem around_clipped (covers : Covers box x y) (polygon : List (Point ℚ)) :
    let left := clip box polygon .left
    let right := clip box left .right
    let top := clip box right .top
    |around x y (clip box top .bottom)| ≤ |around x y polygon| +
      (slivers box .left polygon * (strip box .left).indicator 1 x + slivers box .right left * (strip box .right).indicator 1 x) +
      (slivers box .top right * (strip box .top).indicator 1 y + slivers box .bottom top * (strip box .bottom).indicator 1 y) := by
  intro left right top
  have one := clip_around covers .left polygon
  have two := clip_around covers .right left
  have three := clip_around covers .top right
  have four := clip_around covers .bottom top
  simp only [excess,coordinate] at one two three four
  have first := abs_sub_abs_le_abs_sub (around x y left) (around x y polygon)
  have second := abs_sub_abs_le_abs_sub (around x y right) (around x y left)
  have third := abs_sub_abs_le_abs_sub (around x y top) (around x y right)
  have fourth := abs_sub_abs_le_abs_sub (around x y (clip box top .bottom)) (around x y top)
  linarith

def edges : List Edge := [.left,.right,.top,.bottom]

theorem sides_le {k width height f g m n : ℝ} (w : 0 ≤ width ∧ width ≤ 1) (h : 0 ≤ height ∧ height ≤ 1)
    (across : f ≤ m) (down : g ≤ n) (mNonneg : 0 ≤ m) (nNonneg : 0 ≤ n) :
    (k * height + g) * width + f * height ≤ k * (width * height) + (m + n) := by
  have columns : f * height ≤ m := (mul_le_mul_of_nonneg_right across h.1).trans (mul_le_of_le_one_right mNonneg h.2)
  have rows : g * width ≤ n := (mul_le_mul_of_nonneg_right down w.1).trans (mul_le_of_le_one_right nNonneg w.2)
  linarith

theorem unit_side {a b : ℚ} (low : 0 ≤ a) (ordered : a < b) (high : b ≤ 1) : 0 ≤ (b : ℝ) - a ∧ (b : ℝ) - a ≤ 1 := by
  have low' : (0 : ℝ) ≤ a := Rat.cast_nonneg.mpr low
  have ordered' : (a : ℝ) < b := Rat.cast_lt.mpr ordered
  have high' : (b : ℝ) ≤ 1 := by exact_mod_cast high
  constructor <;> linarith

theorem clipped_area_le {k : ℝ} (valid : box.valid = true) (winds : ∀ x y, Covers box x y → |around x y polygon| ≤ k) :
    ((polygonArea (clipped box edges polygon) : ℚ) : ℝ) ≤ k * (box.area : ℚ) + allSlivers box edges polygon * (delta : ℚ) := by
  obtain ⟨⟨left,top⟩,⟨right,bottom⟩,across,down⟩ := valid_parts valid
  have positive : (0 : ℝ) ≤ delta := Rat.cast_nonneg.mpr (le_of_lt delta_pos)
  have within : ∀ p ∈ (clipped box edges polygon).map plane, Within box.xMin box.xMax box.yMin box.yMax p := by
    intro p member
    obtain ⟨q,inner,rfl⟩ := List.mem_map.mp member
    obtain ⟨columns,rows⟩ := clipped_inBox (le_of_lt across) (le_of_lt down) polygon q inner
    exact ⟨⟨Rat.cast_le.mpr columns.1,Rat.cast_le.mpr columns.2⟩,⟨Rat.cast_le.mpr rows.1,Rat.cast_le.mpr rows.2⟩⟩
  have covered : ∀ x ∈ Set.Ioc (box.xMin : ℝ) box.xMax, ∀ y ∈ Set.Ioc (box.yMin : ℝ) box.yMax, Covers box x y :=
    fun x inX y inY => ⟨inX.1,inX.2,inY.1,inY.2⟩
  have bound := area_le within (Rat.cast_le.mpr (le_of_lt across)) (Rat.cast_le.mpr (le_of_lt down))
    (((strip_integrable box .left _ _).const_mul _).add ((strip_integrable box .right _ _).const_mul _))
    (((strip_integrable box .top _ _).const_mul _).add ((strip_integrable box .bottom _ _).const_mul _))
    (fun x inX y inY => (around_clipped (covered x inX y inY) polygon).trans
      (add_le_add_left (add_le_add_left (winds x y (covered x inX y inY)) _) _))
  have columns := pair_integral (slivers box .left polygon) (slivers box .right (clip box polygon .left))
    (strip_integrable box .left _ _) (strip_integrable box .right _ _) (low_strip (le_of_lt across)) (high_strip (le_of_lt across))
  have rows := pair_integral (slivers box .top (clip box (clip box polygon .left) .right))
    (slivers box .bottom (clip box (clip box (clip box polygon .left) .right) .top))
    (strip_integrable box .top _ _) (strip_integrable box .bottom _ _) (low_strip (le_of_lt down)) (high_strip (le_of_lt down))
  have sides := sides_le (k := k) (unit_side left across right) (unit_side top down bottom) columns rows
    (mul_nonneg (by positivity) positive) (mul_nonneg (by positivity) positive)
  have area : ((box.area : ℚ) : ℝ) = (box.xMax - box.xMin) * (box.yMax - box.yMin) := by
    rw [area_sides valid]
    push_cast
    rfl
  have total : (allSlivers box edges polygon : ℝ) * delta =
      (slivers box .left polygon + slivers box .right (clip box polygon .left)) * delta +
      (slivers box .top (clip box (clip box polygon .left) .right) +
        slivers box .bottom (clip box (clip box (clip box polygon .left) .right) .top)) * delta := by
    simp only [allSlivers,edges,Nat.cast_add,Nat.cast_zero]
    ring
  rw [area,total]
  exact (polygonArea_le _ _).trans (bound.trans sides)

def WindsAtMost (box : Box ℚ) (polygon : List (Point ℚ)) (k : ℕ) : Prop := ∀ x y, Covers box x y → |around x y polygon| ≤ k

theorem intersection_nonneg (box : Box ℚ) (polygon : List (Point ℚ)) : 0 ≤ boxPolygonIntersectionArea box polygon := by
  unfold boxPolygonIntersectionArea
  split
  · exact le_refl _
  · rw [clippedArea_eq]
    exact polygonArea_nonneg _

theorem area_positive (valid : box.valid = true) : 0 < box.area := by
  obtain ⟨_,_,across,down⟩ := valid_parts valid
  rw [area_sides valid]
  exact mul_pos (sub_pos.mpr across) (sub_pos.mpr down)

theorem intersection_le {k : ℕ} (valid : box.valid = true) (winds : WindsAtMost box polygon k) :
    boxPolygonIntersectionArea box polygon ≤ k * box.area + allSlivers box edges polygon * delta := by
  unfold boxPolygonIntersectionArea
  split
  · exact add_nonneg (mul_nonneg (Nat.cast_nonneg k) (le_of_lt (area_positive valid)))
      (mul_nonneg (Nat.cast_nonneg _) (le_of_lt delta_pos))
  · rw [clippedArea_eq]
    have bound := clipped_area_le (k := k) valid winds
    exact_mod_cast bound

structure Plain (box : Box ℚ) (polygon : List (Point ℚ)) : Prop where
  winds : WindsAtMost box polygon 1
  spans : allSlivers box edges polygon = 0

def overlapRatio (box : Box ℚ) (polygon : List (Point ℚ)) : ℚ := boxPolygonIntersectionArea box polygon / box.area

theorem ratio_unit (valid : box.valid = true) (plain : validPolygon polygon = true → Plain box polygon) :
    0 ≤ overlapRatio box polygon ∧ overlapRatio box polygon ≤ 1 := by
  have positive := area_positive valid
  refine ⟨div_nonneg (intersection_nonneg box polygon) (le_of_lt positive),(div_le_one positive).mpr ?_⟩
  cases accepted : validPolygon polygon with
  | true =>
    have bound := intersection_le valid (plain accepted).winds
    rw [(plain accepted).spans,Nat.cast_one,one_mul,Nat.cast_zero,zero_mul,add_zero] at bound
    exact bound
  | false =>
    rw [boxPolygonIntersectionArea,accepted,Bool.not_false,Bool.or_true,if_pos rfl]
    exact le_of_lt positive

theorem best_unit (valid : box.valid = true) (zones : List (Zone ℚ)) (best : ZoneMatch ℚ)
    (plain : ∀ zone ∈ zones, validPolygon zone.points = true → Plain box zone.points)
    (unit : 0 ≤ best.overlapRatio ∧ best.overlapRatio ≤ 1) :
    0 ≤ (zones.foldl (better box) best).overlapRatio ∧ (zones.foldl (better box) best).overlapRatio ≤ 1 := by
  induction zones generalizing best with
  | nil => exact unit
  | cons zone rest ih =>
    refine ih _ (fun other member => plain other (List.mem_cons_of_mem _ member)) ?_
    unfold better
    split
    · simp only
      split
      · exact ratio_unit valid (plain zone List.mem_cons_self)
      · exact unit
    · exact unit

theorem overlap_bounded (box : Box ℚ) (valid : box.valid = true) :
    (∀ polygon, validPolygon polygon = true → 0 ≤ boxPolygonIntersectionArea box polygon ∧
      ∀ k, WindsAtMost box polygon k →
        boxPolygonIntersectionArea box polygon ≤ k * box.area + allSlivers box edges polygon * delta) ∧
    ∀ zones minimumOverlap, (∀ zone ∈ zones, validPolygon zone.points = true → Plain box zone.points) →
      (∀ zone ∈ zones, 0 ≤ overlapRatio box zone.points ∧ overlapRatio box zone.points ≤ 1) ∧
      0 ≤ (associateZone box zones minimumOverlap).overlapRatio ∧ (associateZone box zones minimumOverlap).overlapRatio ≤ 1 := by
  refine ⟨fun polygon _ => ⟨intersection_nonneg box polygon,fun _ winds => intersection_le valid winds⟩,?_⟩
  intro zones minimumOverlap plain
  have zero : (0 : ℚ) ≤ (unconfigured (R := ℚ)).overlapRatio ∧ (unconfigured (R := ℚ)).overlapRatio ≤ 1 := ⟨le_refl _,zero_le_one⟩
  refine ⟨fun zone member => ratio_unit valid (plain zone member),?_⟩
  unfold associateZone
  split
  · exact zero
  · simp only
    split
    · exact zero
    · exact best_unit valid zones unconfigured plain zero

def leftHalf : List (Point ℚ) := [⟨0,0⟩,⟨1/2,0⟩,⟨1/2,1⟩,⟨0,1⟩]
def leftBox : Box ℚ := ⟨5/100,1/10,45/100,9/10⟩

theorem leftHalf_plain : Plain leftBox leftHalf := by
  refine ⟨?_,by decide +kernel⟩
  intro x y covers
  have left : ((leftBox.xMin : ℚ) : ℝ) < x := covers.left
  have right : x ≤ ((leftBox.xMax : ℚ) : ℝ) := covers.right
  norm_num [leftBox] at left right
  have near (h : ℝ) : step x (0,h) = 0 := step_left (show (0 : ℝ) < x by linarith)
  have far (h : ℝ) : step x (1/2,h) = 1 := step_right (show x ≤ 1/2 by linarith)
  have sides : around x y leftHalf = flow x (Set.Ici y) (0,1) (0,0) + (flow x (Set.Ici y) (0,0) (1/2,0) +
      (flow x (Set.Ici y) (1/2,0) (1/2,1) + (flow x (Set.Ici y) (1/2,1) (0,1) + 0))) := by
    simp [around,winding,closedSum,pathSum,leftHalf,plane]
  have up := indicator_unit (Set.Ici y) (height (0,0) (1/2,0) x)
  have back := indicator_unit (Set.Ici y) (height (1/2,1) (0,1) x)
  rw [sides,flow_aside ((near 1).trans (near 0).symm),flow_aside ((far 0).trans (far 1).symm),flow,flow,near,near,far,far,abs_le]
  constructor <;> linarith [up.1,up.2,back.1,back.2]

theorem overlap_bounded_half : 0 ≤ (associateZone leftBox [⟨"left","Stovetop",leftHalf⟩] (1/4)).overlapRatio ∧
    (associateZone leftBox [⟨"left","Stovetop",leftHalf⟩] (1/4)).overlapRatio ≤ 1 :=
  ((overlap_bounded leftBox (by decide +kernel)).2 [⟨"left","Stovetop",leftHalf⟩] (1/4) (by
    intro zone member _
    rw [List.mem_singleton.mp member]
    exact leftHalf_plain)).2

-- A square drawn twice; and the frame with a slit as narrow as the box, both of whose sides are slivers.
def square : List (Point ℚ) := [⟨0,0⟩,⟨1,0⟩,⟨1,1⟩,⟨0,1⟩]
def middleBox : Box ℚ := ⟨1/4,1/4,3/4,3/4⟩

def slit : List (Point ℚ) :=
  [⟨0,0⟩,⟨1/2 - delta / 5,0⟩,⟨1/2 + delta / 5,9/10⟩,⟨1/2 + 3 * delta / 10,9/10⟩,⟨1/2 - delta / 10,0⟩,⟨1,0⟩,⟨1,1⟩,⟨0,1⟩]
def thinBox : Box ℚ := ⟨1/2,1/4,1/2 + delta / 10,3/4⟩

theorem overlap_exceeds :
    (validPolygon (square ++ square) = true ∧ middleBox.valid = true ∧
      boxPolygonIntersectionArea middleBox (square ++ square) = 2 * middleBox.area ∧
      (associateZone middleBox [⟨"twice","Stovetop",square ++ square⟩] (1/4)).overlapRatio = 2) ∧
    validPolygon slit = true ∧ thinBox.valid = true ∧ boxPolygonIntersectionArea thinBox slit = 2 * thinBox.area ∧
      (associateZone thinBox [⟨"slit","Stovetop",slit⟩] (1/4)).overlapRatio = 2 := by
  decide +kernel

end Ignis.Geometry
