import Mathlib.Data.Set.Prod
import Mathlib.Order.Interval.Set.Basic
import Mathlib.Tactic.Ring
import Mathlib.Tactic.NormNum
import Ignis.Nms

namespace Ignis.TFLiteDetector

-- A NumPy array: its shape, and its items in row-major order.
structure NdArray (R : Type) where
  shape : List ℕ
  item : ℕ → R

section Code
variable {R : Type} [Double R]

-- `np.squeeze` drops the axes of length 1, `.T` swaps two.
def NdArray.squeeze (a : NdArray R) : NdArray R := { a with shape := a.shape.filter fun length => length ≠ 1 }

def NdArray.transposed (a : NdArray R) (rows columns : ℕ) : NdArray R :=
  ⟨[columns,rows],fun k => a.item (k % rows * columns + k / rows)⟩

def NdArray.rows (a : NdArray R) (rows columns : ℕ) : List (List R) :=
  (List.range rows).map fun i => (List.range columns).map fun j => a.item (i * columns + j)

-- `np.argmax`, the first index of the greatest item.
def argmaxFrom (best : R) (found next : ℕ) : List R → ℕ
  | [] => found
  | item :: rest => if best < item then argmaxFrom item next (next + 1) rest else argmaxFrom best found (next + 1) rest

def argmax : List R → ℕ
  | [] => 0
  | first :: rest => argmaxFrom first 0 1 rest

-- `labels: dict[int, str]`, in the order of insertion.
abbrev Labels := List (ℤ × String)

def className (labels : Labels) (classIndex : ℕ) : String :=
  (labels.lookup (classIndex : ℤ)).getD ("class_" ++ toString classIndex)

def isHazard (name : String) : Bool := name = "fire" || name = "smoke"

structure Detector (R : Type) where
  threshold : R
  coordinatesAreInputPixels : Bool := true

variable (detector : Detector R) (labels : Labels) (inputWidth inputHeight : ℕ)

def coordinates (centerX centerY boxWidth boxHeight : R) : R × R × R × R :=
  let scaled (value : R) (size : ℕ) : R := if detector.coordinatesAreInputPixels then value / (size : R) else value
  let centerX := scaled centerX inputWidth
  let boxWidth := scaled boxWidth inputWidth
  let centerY := scaled centerY inputHeight
  let boxHeight := scaled boxHeight inputHeight
  (larger 0 (centerX - boxWidth / 2.0),larger 0 (centerY - boxHeight / 2.0),
    smaller 1 (centerX + boxWidth / 2.0),smaller 1 (centerY + boxHeight / 2.0))

def candidate (row : List R) : Option (Detection R) :=
  let scores := row.drop 4
  let classIndex := argmax scores
  match scores[classIndex]?,row.take 4 with
  | some confidence,[centerX,centerY,boxWidth,boxHeight] =>
    if confidence < detector.threshold ∨ isHazard (className labels classIndex) = false then none
    else
      let box := coordinates detector inputWidth inputHeight centerX centerY boxWidth boxHeight
      if box.1 ≥ box.2.2.1 ∨ box.2.1 ≥ box.2.2.2 then none
      else some ⟨className labels classIndex,classIndex,confidence,box⟩
  | _,_ => none

def shapeText (shape : List ℕ) : String :=
  match shape with
  | [length] => "(" ++ toString length ++ ",)"
  | _ => "(" ++ ", ".intercalate (shape.map toString) ++ ")"

def decodeYoloV8 (raw : NdArray R) : Except String (List (Detection R)) :=
  let predictions := raw.squeeze
  let columns := 4 + labels.length
  match predictions.shape with
  | [first,second] =>
    let found (rows : List (List R)) : List (Detection R) :=
      classAwareNms (rows.filterMap (candidate detector labels inputWidth inputHeight)) 0.45
    if first = columns then .ok (found ((predictions.transposed first second).rows second first))
    else if second ≠ columns then
      .error ("YOLO output " ++ shapeText predictions.shape ++ " does not match 4 box values + " ++
        toString labels.length ++ " labels")
    else .ok (found (predictions.rows first second))
  | shape => .error ("YOLO output must be rank 2 after squeeze, got " ++ shapeText shape)

end Code

def byRows (table : ℕ → ℕ → ℚ) (n columns : ℕ) : NdArray ℚ := ⟨[n,columns],fun k => table (k / columns) (k % columns)⟩
def byColumns (table : ℕ → ℕ → ℚ) (n columns : ℕ) : NdArray ℚ := ⟨[columns,n],fun k => table (k % n) (k / n)⟩

def tableRows (table : ℕ → ℕ → ℚ) (n columns : ℕ) : List (List ℚ) :=
  (List.range n).map fun i => (List.range columns).map (table i)

variable {table : ℕ → ℕ → ℚ} {n columns : ℕ}

theorem rows_byRows : (byRows table n columns).rows n columns = tableRows table n columns := by
  refine List.map_congr_left fun i _ => List.map_congr_left fun j member => ?_
  have inside : j < columns := List.mem_range.mp member
  show table ((i * columns + j) / columns) ((i * columns + j) % columns) = table i j
  rw [Nat.mul_comm,Nat.mul_add_div (by omega),Nat.div_eq_of_lt inside,Nat.mul_add_mod,Nat.mod_eq_of_lt inside,Nat.add_zero]

theorem rows_byColumns : ((byColumns table n columns).transposed columns n).rows n columns = tableRows table n columns := by
  refine List.map_congr_left fun i row => List.map_congr_left fun j member => ?_
  have inside : j < columns := List.mem_range.mp member
  have within : i < n := List.mem_range.mp row
  have place : (i * columns + j) % columns * n + (i * columns + j) / columns = n * j + i := by
    rw [Nat.mul_comm i,Nat.mul_add_div (by omega),Nat.div_eq_of_lt inside,Nat.mul_add_mod,Nat.mod_eq_of_lt inside,
      Nat.add_zero,Nat.mul_comm]
  show table (((i * columns + j) % columns * n + (i * columns + j) / columns) % n)
    (((i * columns + j) % columns * n + (i * columns + j) / columns) / n) = table i j
  rw [place,Nat.mul_add_mod,Nat.mod_eq_of_lt within,Nat.mul_add_div (by omega),Nat.div_eq_of_lt within,Nat.add_zero]

structure IsBest (scores : List ℚ) (k : ℕ) (score : ℚ) : Prop where
  there : scores[k]? = some score
  above : ∀ other ∈ scores, other ≤ score
  first : ∀ j < k, ∀ other, scores[j]? = some other → other < score

variable {scores seen : List ℚ} {score item : ℚ} {k : ℕ}

theorem IsBest.unique {j : ℕ} {other : ℚ} (one : IsBest scores k score) (two : IsBest scores j other) : k = j ∧ score = other := by
  have same : score = other :=
    le_antisymm (two.above score (List.mem_of_getElem? one.there)) (one.above other (List.mem_of_getElem? two.there))
  subst same
  refine ⟨?_,rfl⟩
  rcases Nat.lt_trichotomy k j with before | equal | after
  · exact absurd (two.first k before score one.there) (lt_irrefl _)
  · exact equal
  · exact absurd (one.first j after score two.there) (lt_irrefl _)

theorem IsBest.beaten (best : IsBest seen k score) (more : score < item) : IsBest (seen ++ [item]) seen.length item := by
  refine ⟨by simp,?_,?_⟩
  · intro other member
    rcases List.mem_append.mp member with before | last
    · exact (best.above other before).trans (le_of_lt more)
    · exact le_of_eq (List.mem_singleton.mp last)
  · intro j before other found
    rw [List.getElem?_append_left before] at found
    exact (best.above other (List.mem_of_getElem? found)).trans_lt more

theorem IsBest.kept (best : IsBest seen k score) (less : ¬ score < item) : IsBest (seen ++ [item]) k score := by
  have inside : k < seen.length := (List.getElem?_eq_some_iff.mp best.there).1
  refine ⟨by rw [List.getElem?_append_left inside]; exact best.there,?_,?_⟩
  · intro other member
    rcases List.mem_append.mp member with before | last
    · exact best.above other before
    · rw [List.mem_singleton.mp last]
      exact not_lt.mp less
  · intro j before other found
    rw [List.getElem?_append_left (before.trans inside)] at found
    exact best.first j before other found

theorem argmaxFrom_best (rest : List ℚ) (best : IsBest seen k score) :
    ∃ top, IsBest (seen ++ rest) (argmaxFrom score k seen.length rest) top := by
  induction rest generalizing seen k score with
  | nil =>
    rw [List.append_nil]
    exact ⟨score,best⟩
  | cons item rest ih =>
    have moved : seen ++ item :: rest = (seen ++ [item]) ++ rest := by simp
    have next : seen.length + 1 = (seen ++ [item]).length := by simp
    rw [argmaxFrom,moved,next]
    split
    · rename_i more
      exact ih (best.beaten more)
    · rename_i less
      exact ih (best.kept less)

theorem argmax_best (some : scores ≠ []) : ∃ score, IsBest scores (argmax scores) score := by
  cases scores with
  | nil => exact absurd rfl some
  | cons first rest =>
    have alone : IsBest [first] 0 first := by
      refine ⟨rfl,?_,?_⟩
      · intro other member
        exact le_of_eq (List.mem_singleton.mp member)
      · intro j before
        omega
    exact argmaxFrom_best rest alone

-- The plane: a box, the unit square, and what has an area.
def region (box : ℚ × ℚ × ℚ × ℚ) : Set (ℚ × ℚ) := Set.Icc box.1 box.2.2.1 ×ˢ Set.Icc box.2.1 box.2.2.2
def unitSquare : Set (ℚ × ℚ) := Set.Icc 0 1 ×ˢ Set.Icc 0 1
def Wide (s : Set (ℚ × ℚ)) : Prop := ∃ p ∈ s, ∃ q ∈ s, p.1 < q.1 ∧ p.2 < q.2

variable {detector : Detector ℚ} {labels : Labels} {inputWidth inputHeight i : ℕ}

-- What a length about a centre covers of an axis, which is `size` long in the units of both.
def span (center length size : ℚ) : Set ℚ := {v | center - length / 2 ≤ v * size ∧ v * size ≤ center + length / 2}

def rowBox (detector : Detector ℚ) (inputWidth inputHeight : ℕ) (table : ℕ → ℕ → ℚ) (i : ℕ) : Set (ℚ × ℚ) :=
  let size (pixels : ℕ) : ℚ := if detector.coordinatesAreInputPixels then pixels else 1
  span (table i 0) (table i 2) (size inputWidth) ×ˢ span (table i 1) (table i 3) (size inputHeight)

def rowScores (table : ℕ → ℕ → ℚ) (labels : Labels) (i : ℕ) : List ℚ :=
  (List.range labels.length).map fun k => table i (4 + k)

structure Shows (detector : Detector ℚ) (labels : Labels) (inputWidth inputHeight : ℕ) (table : ℕ → ℕ → ℚ) (i : ℕ)
    (found : Detection ℚ) : Prop where
  best : ∃ k : ℕ, found.classId = k ∧ found.className = className labels k ∧ IsBest (rowScores table labels i) k found.confidence
  box : region found.bbox = rowBox detector inputWidth inputHeight table i ∩ unitSquare

theorem clamped_span (center length : ℚ) {size : ℚ} (positive : 0 < size) :
    Set.Icc (max 0 (center / size - length / size / 2)) (min 1 (center / size + length / size / 2)) =
      span center length size ∩ Set.Icc 0 1 := by
  have left : center / size - length / size / 2 = (center - length / 2) / size := by ring
  have right : center / size + length / size / 2 = (center + length / 2) / size := by ring
  rw [left,right]
  ext v
  rw [Set.mem_Icc,max_le_iff,le_min_iff,div_le_iff₀ positive,le_div_iff₀ positive,Set.mem_inter_iff,span,
    Set.mem_ofPred_eq,Set.mem_Icc]
  constructor
  · rintro ⟨⟨nonneg,after⟩,below,before⟩
    exact ⟨⟨after,before⟩,nonneg,below⟩
  · rintro ⟨⟨after,before⟩,nonneg,below⟩
    exact ⟨⟨nonneg,after⟩,below,before⟩

theorem region_coordinates (width : 0 < inputWidth) (height : 0 < inputHeight) :
    region (coordinates detector inputWidth inputHeight (table i 0) (table i 1) (table i 2) (table i 3)) =
      rowBox detector inputWidth inputHeight table i ∩ unitSquare := by
  have half : (2.0 : ℚ) = 2 := by norm_num
  have wide : (0 : ℚ) < inputWidth := Nat.cast_pos.mpr width
  have tall : (0 : ℚ) < inputHeight := Nat.cast_pos.mpr height
  unfold region rowBox unitSquare
  rw [Set.prod_inter_prod]
  simp only [coordinates,larger_max,smaller_min,half]
  cases detector.coordinatesAreInputPixels with
  | true =>
    simp only [if_true]
    rw [clamped_span _ _ wide,clamped_span _ _ tall]
  | false =>
    have across := clamped_span (table i 0) (table i 2) one_pos
    have down := clamped_span (table i 1) (table i 3) one_pos
    simp only [div_one] at across down
    simp only [Bool.false_eq_true,if_false]
    rw [across,down]

theorem wide_region {box : ℚ × ℚ × ℚ × ℚ} : Wide (region box) ↔ box.1 < box.2.2.1 ∧ box.2.1 < box.2.2.2 := by
  constructor
  · rintro ⟨p,⟨⟨left,_⟩,low,_⟩,q,⟨⟨_,right⟩,_,high⟩,across,up⟩
    exact ⟨(left.trans_lt across).trans_le right,(low.trans_lt up).trans_le high⟩
  · rintro ⟨across,up⟩
    exact ⟨(box.1,box.2.1),⟨⟨le_refl _,le_of_lt across⟩,le_refl _,le_of_lt up⟩,
      (box.2.2.1,box.2.2.2),⟨⟨le_of_lt across,le_refl _⟩,le_of_lt up,le_refl _⟩,across,up⟩

theorem row_parts (table : ℕ → ℕ → ℚ) (i columns : ℕ) : ((List.range (4 + columns)).map (table i)).take 4 = [table i 0,table i 1,table i 2,table i 3] ∧
    ((List.range (4 + columns)).map (table i)).drop 4 = (List.range columns).map fun k => table i (4 + k) := by
  have four : (List.range 4).map (table i) = [table i 0,table i 1,table i 2,table i 3] := rfl
  have length : ((List.range 4).map (table i)).length = 4 := by simp
  rw [List.range_add,List.map_append,List.map_map,List.take_left' length,List.drop_left' length]
  exact ⟨four,rfl⟩

theorem candidate_row {score : ℚ} (best : IsBest (rowScores table labels i) k score) :
    candidate detector labels inputWidth inputHeight ((List.range (4 + labels.length)).map (table i)) =
      (let box := coordinates detector inputWidth inputHeight (table i 0) (table i 1) (table i 2) (table i 3)
      if score < detector.threshold ∨ isHazard (className labels k) = false then none
      else if box.1 ≥ box.2.2.1 ∨ box.2.1 ≥ box.2.2.2 then none
      else some ⟨className labels k,k,score,box⟩) := by
  obtain ⟨top,bottom⟩ := row_parts table i labels.length
  have filled : rowScores table labels i ≠ [] := List.ne_nil_of_mem (List.mem_of_getElem? best.there)
  obtain ⟨other,found⟩ := argmax_best filled
  obtain ⟨same,equal⟩ := found.unique best
  subst equal
  have there : (rowScores table labels i)[argmax (rowScores table labels i)]? = some other := found.there
  rw [candidate,top,bottom]
  unfold rowScores at there same
  rw [same] at there
  simp only [same,there]

theorem rowScores_best (table : ℕ → ℕ → ℚ) (i : ℕ) (labelled : 1 ≤ labels.length) :
    ∃ score, IsBest (rowScores table labels i) (argmax (rowScores table labels i)) score := by
  apply argmax_best
  apply List.ne_nil_of_length_pos
  rw [rowScores,List.length_map,List.length_range]
  exact labelled

theorem candidate_shows {found : Detection ℚ} (labelled : 1 ≤ labels.length) (width : 0 < inputWidth) (height : 0 < inputHeight)
    (taken : candidate detector labels inputWidth inputHeight ((List.range (4 + labels.length)).map (table i)) = some found) :
    Shows detector labels inputWidth inputHeight table i found ∧ isHazard found.className = true ∧
      detector.threshold ≤ found.confidence ∧ Wide (region found.bbox) := by
  obtain ⟨score,best⟩ := rowScores_best table i labelled
  rw [candidate_row best] at taken
  simp only at taken
  split at taken
  · cases taken
  · rename_i passed
    split at taken
    · cases taken
    · rename_i wide
      cases taken
      rw [not_or,not_lt,Bool.not_eq_false] at passed
      rw [not_or,not_le,not_le] at wide
      exact ⟨⟨⟨_,rfl,rfl,best⟩,region_coordinates width height⟩,passed.2,passed.1,wide_region.mpr wide⟩

theorem candidate_taken {score : ℚ} (width : 0 < inputWidth) (height : 0 < inputHeight)
    (best : IsBest (rowScores table labels i) k score) (hazard : isHazard (className labels k) = true) (enough : detector.threshold ≤ score)
    (wide : Wide (rowBox detector inputWidth inputHeight table i ∩ unitSquare)) :
    ∃ found, candidate detector labels inputWidth inputHeight ((List.range (4 + labels.length)).map (table i)) = some found ∧
      Shows detector labels inputWidth inputHeight table i found := by
  have passed : ¬ (score < detector.threshold ∨ isHazard (className labels k) = false) := by
    rw [not_or,not_lt,Bool.not_eq_false]
    exact ⟨enough,hazard⟩
  rw [← region_coordinates width height] at wide
  have across := wide_region.mp wide
  rw [← not_le,← not_le,← not_or] at across
  rw [candidate_row best]
  simp only
  rw [if_neg passed,if_neg across]
  exact ⟨_,rfl,⟨⟨k,rfl,rfl,best⟩,region_coordinates width height⟩⟩

variable {raw : NdArray ℚ} {first second : ℕ}

theorem decode_columns (shape : raw.squeeze.shape = [first,second]) (layout : first = 4 + labels.length) :
    decodeYoloV8 detector labels inputWidth inputHeight raw = .ok (classAwareNms
      (((raw.squeeze.transposed first second).rows second first).filterMap
        (candidate detector labels inputWidth inputHeight)) 0.45) := by
  rw [decodeYoloV8]
  simp only [shape]
  rw [if_pos layout]

theorem decode_rows (shape : raw.squeeze.shape = [first,second]) (other : first ≠ 4 + labels.length)
    (layout : second = 4 + labels.length) : decodeYoloV8 detector labels inputWidth inputHeight raw = .ok (classAwareNms
      ((raw.squeeze.rows first second).filterMap (candidate detector labels inputWidth inputHeight)) 0.45) := by
  have fits : ¬ second ≠ 4 + labels.length := not_not.mpr layout
  rw [decodeYoloV8]
  simp only [shape]
  rw [if_neg other,if_neg fits]

theorem decode_layouts (detector : Detector ℚ) (inputWidth inputHeight : ℕ) (table : ℕ → ℕ → ℚ)
    (labelled : 1 ≤ labels.length) (layout : n ≠ 4 + labels.length) (many : n ≠ 1) :
    ∃ returned,
      returned = classAwareNms ((tableRows table n (4 + labels.length)).filterMap
        (candidate detector labels inputWidth inputHeight)) 0.45 ∧
      decodeYoloV8 detector labels inputWidth inputHeight (byColumns table n (4 + labels.length)) = .ok returned ∧
      decodeYoloV8 detector labels inputWidth inputHeight (byRows table n (4 + labels.length)) = .ok returned := by
  have wide : 4 + labels.length ≠ 1 := by omega
  have columnsShape : (byColumns table n (4 + labels.length)).squeeze = byColumns table n (4 + labels.length) := by
    simp [NdArray.squeeze,byColumns,many,wide]
  have rowsShape : (byRows table n (4 + labels.length)).squeeze = byRows table n (4 + labels.length) := by
    simp [NdArray.squeeze,byRows,many,wide]
  refine ⟨_,rfl,?_,?_⟩
  · have shape : (byColumns table n (4 + labels.length)).squeeze.shape = [4 + labels.length,n] := by rw [columnsShape]; rfl
    rw [decode_columns shape rfl,columnsShape,rows_byColumns]
  · have shape : (byRows table n (4 + labels.length)).squeeze.shape = [n,4 + labels.length] := by rw [rowsShape]; rfl
    rw [decode_rows shape layout rfl,rowsShape,rows_byRows]

theorem hazard_names {name : String} : isHazard name = true ↔ name = "fire" ∨ name = "smoke" := by
  rw [isHazard,Bool.or_eq_true,decide_eq_true_eq,decide_eq_true_eq]

theorem inside_frame {box : ℚ × ℚ × ℚ × ℚ} {s : Set (ℚ × ℚ)} (clipped : region box = s ∩ unitSquare) (wide : Wide (region box)) :
    0 ≤ box.1 ∧ box.1 < box.2.2.1 ∧ box.2.2.1 ≤ 1 ∧ 0 ≤ box.2.1 ∧ box.2.1 < box.2.2.2 ∧ box.2.2.2 ≤ 1 := by
  obtain ⟨across,down⟩ := wide_region.mp wide
  have within : region box ⊆ unitSquare := clipped ▸ Set.inter_subset_right
  have low : (box.1,box.2.1) ∈ unitSquare := within ⟨⟨le_refl _,le_of_lt across⟩,le_refl _,le_of_lt down⟩
  have high : (box.2.2.1,box.2.2.2) ∈ unitSquare := within ⟨⟨le_of_lt across,le_refl _⟩,le_of_lt down,le_refl _⟩
  exact ⟨low.1.1,across,high.1.2,low.2.1,down,high.2.2⟩

theorem decode_exact (detector : Detector ℚ) (labels : Labels) (inputWidth inputHeight n : ℕ) (table : ℕ → ℕ → ℚ)
    (labelled : 1 ≤ labels.length) (width : 0 < inputWidth) (height : 0 < inputHeight)
    (layout : n ≠ 4 + labels.length) (many : n ≠ 1) :
    ∃ returned,
      decodeYoloV8 detector labels inputWidth inputHeight (byColumns table n (4 + labels.length)) = .ok returned ∧
      decodeYoloV8 detector labels inputWidth inputHeight (byRows table n (4 + labels.length)) = .ok returned ∧
      (∀ item ∈ returned, (item.className = "fire" ∨ item.className = "smoke") ∧ detector.threshold ≤ item.confidence ∧
        (0 ≤ item.bbox.1 ∧ item.bbox.1 < item.bbox.2.2.1 ∧ item.bbox.2.2.1 ≤ 1 ∧
          0 ≤ item.bbox.2.1 ∧ item.bbox.2.1 < item.bbox.2.2.2 ∧ item.bbox.2.2.2 ≤ 1) ∧
        ∃ i < n, Shows detector labels inputWidth inputHeight table i item) ∧
      ∀ i < n, ∀ k score, IsBest (rowScores table labels i) k score → isHazard (className labels k) = true →
        detector.threshold ≤ score → Wide (rowBox detector inputWidth inputHeight table i ∩ unitSquare) →
        ∃ item, Shows detector labels inputWidth inputHeight table i item ∧ (item ∈ returned ∨ ∃ kept ∈ returned,
          kept.classId = item.classId ∧ item.confidence ≤ kept.confidence ∧ 0.45 < iou item kept) := by
  obtain ⟨returned,selected,columns,rows⟩ := decode_layouts detector inputWidth inputHeight table labelled layout many
  obtain ⟨dropped,parts,covered⟩ := nms_covers ((tableRows table n (4 + labels.length)).filterMap
    (candidate detector labels inputWidth inputHeight)) 0.45
  rw [← selected] at parts covered
  refine ⟨returned,columns,rows,?_,?_⟩
  · intro item member
    obtain ⟨row,among,taken⟩ := List.mem_filterMap.mp (parts.mem_iff.mp (List.mem_append_left _ member))
    obtain ⟨i,within,rfl⟩ := List.mem_map.mp among
    obtain ⟨shows,hazard,enough,wide⟩ := candidate_shows labelled width height taken
    exact ⟨hazard_names.mp hazard,enough,inside_frame shows.box wide,i,List.mem_range.mp within,shows⟩
  · intro i within k score best hazard enough wide
    obtain ⟨item,taken,shows⟩ := candidate_taken width height best hazard enough wide
    have among : item ∈ returned ++ dropped :=
      parts.mem_iff.mpr (List.mem_filterMap.mpr ⟨_,List.mem_map_of_mem (List.mem_range.mpr within),taken⟩)
    refine ⟨item,shows,?_⟩
    rcases List.mem_append.mp among with kept | dropping
    · exact .inl kept
    · exact .inr (covered item dropping)

def testTable (i j : ℕ) : ℚ :=
  (([[160,160,100,100,9/10,5/100],[162,162,100,100,8/10,1/10],[60,60,40,40,5/100,75/100]] : List (List ℚ))[i]?.getD [])[j]?.getD 0

theorem decode_exact_test : ∃ returned,
    decodeYoloV8 ⟨45/100,true⟩ [(0,"fire"),(1,"smoke")] 320 320 (byColumns testTable 3 6) = .ok returned ∧
    ∀ item ∈ returned, item.className = "fire" ∨ item.className = "smoke" := by
  obtain ⟨returned,columns,_,each,_⟩ := decode_exact ⟨45/100,true⟩ [(0,"fire"),(1,"smoke")] 320 320 3 testTable
    (by decide) (by decide) (by decide) (by decide) (by decide)
  exact ⟨returned,columns,fun item member => (each item member).1⟩

end Ignis.TFLiteDetector
