import Ignis.ZoneOverlap

namespace Ignis.Geometry
open ClosedChain IncidentEngine

variable {box other : Box ℚ} {edge : Edge} {p q : Point ℚ} {polygon : List (Point ℚ)}

-- The arithmetic of `intersection` where a division by zero is an error.
def divided (a b : ℚ) : Option ℚ := if b = 0 then none else some (a / b)

def tryPart (line a d : ℚ) : Option ℚ := if absolute d < 1e-12 then some 0 else divided (line - a) d

def tryIntersection (box : Box ℚ) (edge : Edge) (a b : Point ℚ) : Option (Point ℚ) :=
  let dx := b.x - a.x
  let dy := b.y - a.y
  match edge with
  | .left => (tryPart box.xMin a.x dx).map fun t => ⟨box.xMin,a.y + t * dy⟩
  | .right => (tryPart box.xMax a.x dx).map fun t => ⟨box.xMax,a.y + t * dy⟩
  | .top => (tryPart box.yMin a.y dy).map fun t => ⟨a.x + t * dx,box.yMin⟩
  | .bottom => (tryPart box.yMax a.y dy).map fun t => ⟨a.x + t * dx,box.yMax⟩

def tryClip (box : Box ℚ) (input : List (Point ℚ)) (edge : Edge) : Option (List (Point ℚ)) :=
  ClosedChain.tryClip (inside box edge) (tryIntersection box edge) input

theorem tryPart_some (line a d : ℚ) : tryPart line a d = some (part line a d) := by
  unfold tryPart part
  split
  · rfl
  · rename_i wide
    have nonzero : d ≠ 0 := by
      rintro rfl
      rw [absolute_abs,abs_zero] at wide
      exact wide delta_pos
    rw [divided,if_neg nonzero]

theorem tryIntersection_some (box : Box ℚ) (edge : Edge) (a b : Point ℚ) :
    tryIntersection box edge a b = some (intersection box edge a b) := by
  cases edge <;> simp only [tryIntersection,intersection,tryPart_some,Option.map_some]

theorem tryClips_some (box : Box ℚ) (edges : List Edge) (polygon : List (Point ℚ)) :
    edges.foldlM (tryClip box) polygon = some (clipped box edges polygon) := by
  induction edges generalizing polygon with
  | nil => rfl
  | cons edge rest ih =>
    have turn : tryClip box polygon edge = some (clip box polygon edge) :=
      tryClip_some (fun p q _ => tryIntersection_some box edge p q) polygon
    rw [List.foldlM_cons,turn]
    exact ih (clip box polygon edge)

theorem inBox_inside (inner : InBox box p) (edge : Edge) : inside box edge p := by
  cases edge with
  | left => exact inner.1.1
  | right => exact inner.1.2
  | top => exact inner.2.1
  | bottom => exact inner.2.2

theorem clipped_same (all : ∀ p ∈ polygon, InBox box p) (edges : List Edge) : clipped box edges polygon = polygon := by
  induction edges with
  | nil => rfl
  | cons edge rest ih =>
    have same : clip box polygon edge = polygon := clip_inside fun p member => inBox_inside (all p member) edge
    have turn : clipped box (edge :: rest) polygon = clipped box rest (clip box polygon edge) := rfl
    rw [turn,same,ih]

theorem clipping_stays (box : Box ℚ) (valid : box.valid = true) (polygon : List (Point ℚ)) :
    (∀ p ∈ clipped box edges polygon, InBox box p) ∧
    edges.foldlM (tryClip box) polygon = some (clipped box edges polygon) ∧
    ((∀ p ∈ polygon, InBox box p) → clipped box edges polygon = polygon) := by
  obtain ⟨_,_,across,down⟩ := valid_parts valid
  exact ⟨clipped_inBox (le_of_lt across) (le_of_lt down) polygon,tryClips_some box edges polygon,
    fun all => clipped_same all edges⟩

-- The slit polygon, whose long edges are cut without a division, and a triangle in the box.
def innerTriangle : List (Point ℚ) := [⟨1/4,1/4⟩,⟨3/4,1/4⟩,⟨1/2,3/4⟩]

theorem clipping_stays_inner : (∀ p ∈ clipped thinBox edges slit, InBox thinBox p) ∧
    clipped middleBox edges innerTriangle = innerTriangle := by
  refine ⟨(clipping_stays thinBox (by decide +kernel) slit).1,
    (clipping_stays middleBox (by decide +kernel) innerTriangle).2.2 ?_⟩
  intro p member
  simp only [innerTriangle,List.mem_cons,List.not_mem_nil,or_false] at member
  rcases member with rfl | rfl | rfl <;> exact ⟨⟨by decide +kernel,by decide +kernel⟩,by decide +kernel,by decide +kernel⟩

def line (box : Box ℚ) (edge : Edge) : ℚ :=
  match edge with
  | .left => box.xMin
  | .right => box.xMax
  | .top => box.yMin
  | .bottom => box.yMax

def across (edge : Edge) (p : Point ℚ) : ℚ :=
  match edge with
  | .left => p.x
  | .right => p.x
  | .top => p.y
  | .bottom => p.y

def along (edge : Edge) (p : Point ℚ) : ℚ :=
  match edge with
  | .left => p.y
  | .right => p.y
  | .top => p.x
  | .bottom => p.x

def moment (edge : Edge) (c : ℚ) (p q : Point ℚ) : ℚ := (across edge p - c) * along edge q - (across edge q - c) * along edge p

def keptMoment (box : Box ℚ) (edge : Edge) (p q : Point ℚ) : ℚ :=
  let point := intersection box edge p q
  if inside box edge p then if inside box edge q then moment edge (line box edge) p q else moment edge (line box edge) p point
  else if inside box edge q then moment edge (line box edge) point q else 0

theorem across_intersection (box : Box ℚ) (edge : Edge) (p q : Point ℚ) :
    across edge (intersection box edge p q) = line box edge := by
  cases edge <;> rfl

theorem onLine_iff : OnLine box edge p ↔ across edge p = line box edge := by
  cases edge <;> exact Iff.rfl

theorem onLine_inside (on : across edge p = line box edge) : inside box edge p := by
  cases edge with
  | left => exact ge_of_eq on
  | right => exact le_of_eq on
  | top => exact ge_of_eq on
  | bottom => exact le_of_eq on

theorem moment_line (one : across edge p = line box edge) (two : across edge q = line box edge) :
    moment edge (line box edge) p q = 0 := by
  rw [moment,one,two]
  ring

theorem clip_keepsMoment (box : Box ℚ) (edge : Edge) :
    Kept (inside box edge) (OnLine box edge) (intersection box edge) (keptMoment box edge) fun _ _ => 0 := by
  refine ⟨?_,?_,?_,?_,fun _ _ => le_refl _⟩
  · intro p q pIn qOut
    have cutIn : inside box edge (intersection box edge p q) := onLine_inside (across_intersection box edge p q)
    refine ⟨intersection_onLine box edge p q,le_of_eq (abs_eq_zero.mpr (sub_eq_zero.mpr ?_))⟩
    simp only [keptMoment,if_pos pIn,if_pos cutIn,if_neg qOut]
  · intro p q pOut qIn
    have cutIn : inside box edge (intersection box edge p q) := onLine_inside (across_intersection box edge p q)
    refine ⟨intersection_onLine box edge p q,le_of_eq (abs_eq_zero.mpr (sub_eq_zero.mpr ?_))⟩
    simp only [keptMoment,if_pos qIn,if_pos cutIn,if_neg pOut]
  · intro p q pOut qOut
    simp only [keptMoment,if_neg pOut,if_neg qOut]
  · intro p q pLine qLine
    have pOn := onLine_iff.mp pLine
    have qOn := onLine_iff.mp qLine
    simp only [keptMoment,if_pos (onLine_inside pOn),if_pos (onLine_inside qOn)]
    exact moment_line pOn qOn

theorem clip_moment (box : Box ℚ) (edge : Edge) (polygon : List (Point ℚ)) :
    closedSum (moment edge (line box edge)) (clip box polygon edge) = closedSum (keptMoment box edge) polygon := by
  have every : ∀ p ∈ polygon, True := fun _ _ => trivial
  have all : ∀ p ∈ clip box polygon edge, inside box edge p :=
    clip_forall (fun _ _ pIn => pIn) (fun p q _ _ _ => onLine_inside (across_intersection box edge p q)) every
  have whole : closedSum (moment edge (line box edge)) (clip box polygon edge) = closedSum (keptMoment box edge) (clip box polygon edge) :=
    closedSum_congr (fun p q pIn qIn => by simp only [keptMoment,if_pos pIn,if_pos qIn]) all
  have kept := clip_sum (intersection box edge ⟨0,0⟩ ⟨0,0⟩) (intersection_onLine box edge ⟨0,0⟩ ⟨0,0⟩)
    (clip_keepsMoment box edge) polygon
  have zero : closedSum (fun _ _ : Point ℚ => (0 : ℚ)) polygon = 0 := by
    have telescopes := closedSum_telescopes (fun _ : Point ℚ => (0 : ℚ)) polygon
    simpa only [sub_zero] using telescopes
  rw [zero] at kept
  exact whole.trans (sub_eq_zero.mp (abs_nonpos_iff.mp kept))

inductive Opposite : Edge → Edge → Prop
  | across : Opposite .left .right
  | down : Opposite .top .bottom

def Strides (edge : Edge) (c : ℚ) (p q : Point ℚ) : Prop :=
  (across edge p < c ∧ c < across edge q) ∨ (across edge q < c ∧ c < across edge p)

-- With both ends at the coordinates `a` and `b` across the line, `u` and `v` along it, cut at `w`.
theorem kept_halves {a b c u v w : ℚ} (cut : (a < c ∧ c < b) ∨ (b < c ∧ c < a) → (a - b) * w = (a - c) * v - (b - c) * u) :
    (if c ≤ a then if c ≤ b then (a - c) * v - (b - c) * u else (a - c) * w - (c - c) * u
      else if c ≤ b then (c - c) * v - (b - c) * w else 0) +
    (if a ≤ c then if b ≤ c then (a - c) * v - (b - c) * u else (a - c) * w - (c - c) * u
      else if b ≤ c then (c - c) * v - (b - c) * w else 0) = (a - c) * v - (b - c) * u := by
  rcases lt_trichotomy a c with low | rfl | high
  · rcases lt_trichotomy b c with low' | rfl | high'
    · simp [not_le.mpr low,not_le.mpr low',le_of_lt low,le_of_lt low']
    · simp [not_le.mpr low,le_of_lt low]
    · simp only [not_le.mpr low,le_of_lt low,not_le.mpr high',le_of_lt high',if_true,if_false]
      linear_combination cut (.inl ⟨low,high'⟩)
  · rcases lt_trichotomy b a with low' | rfl | high'
    · simp [not_le.mpr low',le_of_lt low']
    · simp
    · simp [not_le.mpr high',le_of_lt high']
  · rcases lt_trichotomy b c with low' | rfl | high'
    · simp only [not_le.mpr high,le_of_lt high,not_le.mpr low',le_of_lt low',if_true,if_false]
      linear_combination cut (.inr ⟨low',high⟩)
    · simp [not_le.mpr high,le_of_lt high]
    · simp [not_le.mpr high,not_le.mpr high',le_of_lt high,le_of_lt high']

theorem part_cut {a b c u v : ℚ} (wide : ¬ absolute (b - a) < delta) :
    (a - b) * (u + part c a (b - a) * (v - u)) = (a - c) * v - (b - c) * u := by
  have meets : part c a (b - a) * (b - a) = c - a := part_wide wide
  linear_combination (u - v) * meets

theorem keptMoment_opposite {low high : Edge} (opposite : Opposite low high) (same : line box low = line other high)
    (wide : Strides low (line box low) p q → ¬ absolute (span low p q) < delta) :
    keptMoment box low p q + keptMoment other high p q = moment low (line box low) p q := by
  cases opposite with
  | across =>
    have c : box.xMin = other.xMax := same
    simp only [keptMoment,moment,inside,line,intersection,across,along,ge_iff_le,← c]
    exact kept_halves fun strides => part_cut (wide strides)
  | down =>
    have c : box.yMin = other.yMax := same
    simp only [keptMoment,moment,inside,line,intersection,across,along,ge_iff_le,← c]
    exact kept_halves fun strides => part_cut (wide strides)

def signedSum (polygon : List (Point ℚ)) : ℚ :=
  (polygon.zip (polygon.rotate 1)).foldl (fun twiceArea (current,next) => twiceArea + (current.x * next.y - next.x * current.y)) 0

def orientation (edge : Edge) : ℚ :=
  match edge with
  | .left => 1
  | .right => 1
  | .top => - 1
  | .bottom => - 1

theorem signedSum_eq (polygon : List (Point ℚ)) : signedSum polygon = closedSum (fun p q : Point ℚ => p.x * q.y - q.x * p.y) polygon :=
  foldl_rotate (fun p q : Point ℚ => p.x * q.y - q.x * p.y) polygon

theorem signedSum_moment (edge : Edge) (c : ℚ) (polygon : List (Point ℚ)) :
    signedSum polygon = orientation edge * closedSum (moment edge c) polygon := by
  have each (p q : Point ℚ) : p.x * q.y - q.x * p.y = AddMonoidHom.mulLeft (orientation edge) (moment edge c p q) +
      (orientation edge * c * along edge q - orientation edge * c * along edge p) := by
    rw [AddMonoidHom.coe_mulLeft]
    cases edge <;> simp only [orientation,moment,across,along] <;> ring
  rw [signedSum_eq]
  simp only [each]
  rw [closedSum_add,closedSum_telescopes (fun p => orientation edge * c * along edge p),closedSum_map,add_zero]
  rfl

theorem polygonArea_signed (polygon : List (Point ℚ)) : polygonArea polygon = |signedSum polygon| / 2 := by
  have half : (2.0 : ℚ) = 2 := by norm_num
  unfold polygonArea
  split
  · rename_i few
    have zero : signedSum polygon = 0 := by
      rw [signedSum_eq]
      match polygon,few with
      | [],_ => rfl
      | [p],_ =>
        simp only [closedSum,pathSum,List.getLast?_singleton]
        ring
      | [p,q],_ =>
        simp only [closedSum,pathSum,List.getLast?_cons_cons,List.getLast?_singleton]
        ring
    rw [zero,abs_zero,zero_div]
  · simp only
    rw [absolute_abs,half]
    rfl

theorem clips_partition {low high : Edge} (opposite : Opposite low high) (same : line box low = line other high)
    (wide : ∀ side ∈ polygon.zip (polygon.rotate 1), Strides low (line box low) side.1 side.2 →
      ¬ absolute (span low side.1 side.2) < delta) :
    signedSum (clip box polygon low) + signedSum (clip other polygon high) = signedSum polygon := by
  have turned : moment high (line other high) = moment low (line box low) ∧ orientation high = orientation low := by
    rw [← same]
    cases opposite <;> exact ⟨rfl,rfl⟩
  have parts : closedSum (fun p q => keptMoment box low p q + keptMoment other high p q) polygon =
      closedSum (moment low (line box low)) polygon :=
    closedSum_edges fun side member => keptMoment_opposite opposite same (wide side member)
  calc signedSum (clip box polygon low) + signedSum (clip other polygon high)
      = orientation low * closedSum (moment low (line box low)) (clip box polygon low) +
          orientation high * closedSum (moment high (line other high)) (clip other polygon high) := by
        rw [← signedSum_moment,← signedSum_moment]
    _ = orientation low * (closedSum (keptMoment box low) polygon + closedSum (keptMoment other high) polygon) := by
        rw [clip_moment,clip_moment,turned.2,mul_add]
    _ = orientation low * closedSum (moment low (line box low)) polygon := by rw [← closedSum_add,parts]
    _ = signedSum polygon := (signedSum_moment low (line box low) polygon).symm

theorem border_partition (box other : Box ℚ) (polygon : List (Point ℚ)) :
    (box.xMin = other.xMax →
      (∀ side ∈ polygon.zip (polygon.rotate 1),
        (side.1.x < box.xMin ∧ box.xMin < side.2.x) ∨ (side.2.x < box.xMin ∧ box.xMin < side.1.x) →
        ¬ |side.2.x - side.1.x| < 1e-12) →
      signedSum (clip box polygon .left) + signedSum (clip other polygon .right) = signedSum polygon) ∧
    (box.yMin = other.yMax →
      (∀ side ∈ polygon.zip (polygon.rotate 1),
        (side.1.y < box.yMin ∧ box.yMin < side.2.y) ∨ (side.2.y < box.yMin ∧ box.yMin < side.1.y) →
        ¬ |side.2.y - side.1.y| < 1e-12) →
      signedSum (clip box polygon .top) + signedSum (clip other polygon .bottom) = signedSum polygon) ∧
    polygonArea polygon = |signedSum polygon| / 2 := by
  refine ⟨fun same wide => clips_partition .across same ?_,fun same wide => clips_partition .down same ?_,
    polygonArea_signed polygon⟩
  · intro side member strides narrow
    rw [absolute_abs] at narrow
    exact wide side member strides narrow
  · intro side member strides narrow
    rw [absolute_abs] at narrow
    exact wide side member strides narrow

-- The square drawn twice, on both sides of a line through it.
theorem border_partition_square :
    signedSum (clip middleBox (square ++ square) .left) + signedSum (clip ⟨0,0,1/4,1⟩ (square ++ square) .right) =
      signedSum (square ++ square) := by
  refine (border_partition middleBox ⟨0,0,1/4,1⟩ (square ++ square)).1 rfl ?_
  decide +kernel

end Ignis.Geometry
