import Mathlib.Data.List.Sort
import Mathlib.Algebra.Order.Field.Rat
import Ignis.FireVerifier
import Ignis.GreedySelection

-- Class-aware suppression of overlapping boxes in the Pi's detector (`model.py`).
namespace Ignis.TFLiteDetector
open GreedySelection

section Code
variable {R : Type} [Double R]

-- `min`, which keeps its first argument unless the second is below it.
def smaller (a b : R) : R := if b < a then b else a

def iou (left right : Detection R) : R :=
  let (lx1,ly1,lx2,ly2) := left.bbox
  let (rx1,ry1,rx2,ry2) := right.bbox
  let width := larger 0 (smaller lx2 rx2 - larger lx1 rx1)
  let height := larger 0 (smaller ly2 ry2 - larger ly1 ry1)
  let intersection := width * height
  let leftArea := (lx2 - lx1) * (ly2 - ly1)
  let rightArea := (rx2 - rx1) * (ry2 - ry1)
  let union := leftArea + rightArea - intersection
  if 0 < union then intersection / union else 0

def Suppressed (iouThreshold : R) (candidate kept : Detection R) : Prop :=
  ¬ (candidate.classId ≠ kept.classId ∨ iou candidate kept ≤ iouThreshold)

instance suppressedDecidable (iouThreshold : R) : DecidableRel (Suppressed iouThreshold) :=
  fun _ _ => inferInstanceAs (Decidable (¬ (_ ∨ _)))

-- `sorted(candidates, key=lambda item: item.confidence, reverse=True)`, which keeps the order of equals.
def Stronger (a b : Detection R) : Prop := b.confidence ≤ a.confidence

instance strongerDecidable : DecidableRel (Stronger (R := R)) := fun a b => decidableLE_double b.confidence a.confidence

def byConfidence (candidates : List (Detection R)) : List (Detection R) := candidates.insertionSort Stronger

def classAwareNms (candidates : List (Detection R)) (iouThreshold : R) : List (Detection R) :=
  select (Suppressed iouThreshold) [] (byConfidence candidates)

end Code

variable {candidates : List (Detection ℚ)} {iouThreshold : ℚ} {a b : Detection ℚ}

theorem smaller_min (a b : ℚ) : smaller a b = min a b := by
  unfold smaller
  split
  · rename_i below
    exact (min_eq_right (le_of_lt below)).symm
  · rename_i above
    exact (min_eq_left (not_lt.mp above)).symm

theorem iou_comm (a b : Detection ℚ) : iou a b = iou b a := by
  obtain ⟨_,_,_,ax1,ay1,ax2,ay2⟩ := a
  obtain ⟨_,_,_,bx1,by1,bx2,by2⟩ := b
  simp only [iou,larger_max,smaller_min]
  rw [min_comm ax2 bx2,max_comm ax1 bx1,min_comm ay2 by2,max_comm ay1 by1,add_comm ((ax2 - ax1) * (ay2 - ay1))]

theorem suppressed_iff : Suppressed iouThreshold a b ↔ a.classId = b.classId ∧ iouThreshold < iou a b := by
  rw [Suppressed,not_or,not_ne_iff,not_le]

theorem suppressed_comm : Suppressed iouThreshold a b ↔ Suppressed iouThreshold b a := by
  rw [suppressed_iff,suppressed_iff,iou_comm a b,eq_comm]

instance strongerTotal : Std.Total (Stronger (R := ℚ)) := ⟨fun a b => le_total b.confidence a.confidence⟩
instance strongerTrans : IsTrans (Detection ℚ) Stronger := ⟨fun _ _ _ first second => le_trans second first⟩

theorem byConfidence_perm : (byConfidence candidates).Perm candidates := List.perm_insertionSort _ _

theorem byConfidence_sorted : (byConfidence candidates).Pairwise Stronger := List.pairwise_insertionSort _ _

theorem nms_covers (candidates : List (Detection ℚ)) (iouThreshold : ℚ) : ∃ dropped, (classAwareNms candidates iouThreshold ++ dropped).Perm candidates ∧
    ∀ item ∈ dropped, ∃ kept ∈ classAwareNms candidates iouThreshold,
      kept.classId = item.classId ∧ item.confidence ≤ kept.confidence ∧ iouThreshold < iou item kept := by
  have ordered : ([] ++ byConfidence candidates).Pairwise Stronger := byConfidence_sorted
  have covers : ∃ dropped, (classAwareNms candidates iouThreshold ++ dropped).Perm ([] ++ byConfidence candidates) ∧
      ∀ item ∈ dropped, ∃ kept ∈ classAwareNms candidates iouThreshold,
        Suppressed iouThreshold item kept ∧ Stronger kept item := select_covers ordered
  obtain ⟨dropped,parts,covered⟩ := covers
  refine ⟨dropped,parts.trans byConfidence_perm,?_⟩
  intro item member
  obtain ⟨kept,held,clash,stronger⟩ := covered item member
  obtain ⟨same,overlap⟩ := suppressed_iff.mp clash
  exact ⟨kept,held,same.symm,stronger,overlap⟩

theorem nms_apart : (classAwareNms candidates iouThreshold).Pairwise fun a b =>
    a.classId = b.classId → iou a b ≤ iouThreshold := by
  have apart : Apart (Suppressed iouThreshold) (classAwareNms candidates iouThreshold) := select_apart .nil
  refine apart.imp ?_
  intro a b free same
  by_contra overlap
  exact free (suppressed_comm.mp (suppressed_iff.mpr ⟨same,not_le.mp overlap⟩))

theorem nms_sorted : (classAwareNms candidates iouThreshold).Pairwise Stronger :=
  byConfidence_sorted.sublist select_sublist

theorem nms_idempotent : classAwareNms (classAwareNms candidates iouThreshold) iouThreshold =
    classAwareNms candidates iouThreshold := by
  have apart : Apart (Suppressed iouThreshold) (classAwareNms candidates iouThreshold) := select_apart .nil
  have sorted : byConfidence (classAwareNms candidates iouThreshold) = classAwareNms candidates iouThreshold :=
    nms_sorted.insertionSort_eq
  calc classAwareNms (classAwareNms candidates iouThreshold) iouThreshold
      = select (Suppressed iouThreshold) [] (classAwareNms candidates iouThreshold) := by rw [classAwareNms,sorted]
    _ = classAwareNms candidates iouThreshold := select_eq apart

theorem foldl_larger (first : ℚ) (rest : List ℚ) :
    rest.foldl larger first ∈ first :: rest ∧ ∀ x ∈ first :: rest, x ≤ rest.foldl larger first := by
  induction rest generalizing first with
  | nil => exact ⟨List.mem_cons_self,fun x member => le_of_eq (List.mem_singleton.mp member)⟩
  | cons second rest ih =>
    obtain ⟨member,above⟩ := ih (larger first second)
    have head := above (larger first second) List.mem_cons_self
    rw [larger_max] at member above head
    rw [List.foldl_cons,larger_max]
    constructor
    · rcases List.mem_cons.mp member with same | later
      · rw [same]
        rcases max_choice first second with one | two
        · rw [one]
          exact List.mem_cons_self
        · rw [two]
          exact List.mem_cons_of_mem _ List.mem_cons_self
      · exact List.mem_cons_of_mem _ (List.mem_cons_of_mem _ later)
    · intro x present
      rcases List.mem_cons.mp present with rfl | present
      · exact (le_max_left _ _).trans head
      · rcases List.mem_cons.mp present with rfl | later
        · exact (le_max_right _ _).trans head
        · exact above x (List.mem_cons_of_mem _ later)

theorem highest_spec (className : String) (detections : List (Detection ℚ)) :
    (FireVerifier.highest className detections = 0 ∧ ∀ item ∈ detections, item.className ≠ className) ∨
    ((∃ item ∈ detections, item.className = className ∧ item.confidence = FireVerifier.highest className detections) ∧
      ∀ item ∈ detections, item.className = className → item.confidence ≤ FireVerifier.highest className detections) := by
  unfold FireVerifier.highest
  cases own : detections.filter (fun item => item.className = className) with
  | nil =>
    refine .inl ⟨rfl,?_⟩
    intro item member named
    have inside : item ∈ detections.filter (fun item => item.className = className) :=
      List.mem_filter.mpr ⟨member,decide_eq_true named⟩
    rw [own] at inside
    cases inside
  | cons first rest =>
    obtain ⟨member,above⟩ := foldl_larger first.confidence (rest.map Detection.confidence)
    have each : ∀ item, item ∈ first :: rest ↔ item ∈ detections ∧ item.className = className := by
      intro item
      rw [← own,List.mem_filter,decide_eq_true_eq]
    rw [← List.map_cons] at member above
    refine .inr ⟨?_,?_⟩
    · obtain ⟨item,inside,same⟩ := List.mem_map.mp member
      obtain ⟨there,named⟩ := (each item).mp inside
      exact ⟨item,there,named,same⟩
    · intro item there named
      exact above item.confidence (List.mem_map_of_mem ((each item).mpr ⟨there,named⟩))

theorem highest_congr {detections others : List (Detection ℚ)} {className : String}
    (covered : ∀ item ∈ detections, item.className = className → ∃ other ∈ others, other.className = className ∧
      item.confidence ≤ other.confidence) (included : ∀ other ∈ others, other ∈ detections) :
    FireVerifier.highest className others = FireVerifier.highest className detections := by
  rcases highest_spec className detections with ⟨zero,none⟩ | ⟨⟨top,member,named,highest⟩,above⟩
  · rcases highest_spec className others with ⟨same,_⟩ | ⟨⟨other,there,named,_⟩,_⟩
    · rw [same,zero]
    · exact absurd named (none other (included other there))
  · obtain ⟨other,there,otherNamed,reaches⟩ := covered top member named
    rcases highest_spec className others with ⟨_,none⟩ | ⟨⟨best,bestThere,bestNamed,same⟩,tops⟩
    · exact absurd otherNamed (none other there)
    · apply le_antisymm
      · rw [← same]
        exact above best (included best bestThere) bestNamed
      · rw [← highest]
        exact reaches.trans (tops other there otherNamed)

def NamedById (candidates : List (Detection ℚ)) : Prop :=
  ∀ a ∈ candidates, ∀ b ∈ candidates, a.classId = b.classId → a.className = b.className

theorem nms_highest (iouThreshold : ℚ) (named : NamedById candidates) (className : String) :
    FireVerifier.highest className (classAwareNms candidates iouThreshold) = FireVerifier.highest className candidates := by
  obtain ⟨dropped,parts,covered⟩ := nms_covers candidates iouThreshold
  have included : ∀ item ∈ classAwareNms candidates iouThreshold, item ∈ candidates := fun item member =>
    parts.mem_iff.mp (List.mem_append_left _ member)
  refine highest_congr ?_ included
  intro item member own
  rcases List.mem_append.mp (parts.mem_iff.mpr member) with kept | dropping
  · exact ⟨item,kept,own,le_refl _⟩
  · obtain ⟨kept,held,same,stronger,_⟩ := covered item dropping
    exact ⟨kept,held,(named kept (included kept held) item member same).trans own,stronger⟩

theorem update_congr (verifier : FireVerifier ℚ) (monotonicNs : ℤ) {detections others : List (Detection ℚ)}
    (same : ∀ className, FireVerifier.highest className others = FireVerifier.highest className detections) :
    verifier.update monotonicNs others = verifier.update monotonicNs detections := by
  have relevant : verifier.relevant others = verifier.relevant detections := by
    rw [FireVerifier.relevant,FireVerifier.relevant,same,same]
  have seen : verifier.seen others = verifier.seen detections := by
    rw [FireVerifier.seen,FireVerifier.seen,relevant,same,same]
  rw [FireVerifier.update,FireVerifier.update,relevant,seen]

-- Where an id has one name, nothing of the suppression shows in the verifier.
theorem nms_exact (candidates : List (Detection ℚ)) (iouThreshold : ℚ) :
    let returned := classAwareNms candidates iouThreshold
    (returned.Pairwise fun a b => a.classId = b.classId → iou a b ≤ iouThreshold) ∧
    (∃ dropped, (returned ++ dropped).Perm candidates ∧ ∀ item ∈ dropped, ∃ kept ∈ returned,
      kept.classId = item.classId ∧ item.confidence ≤ kept.confidence ∧ iouThreshold < iou item kept) ∧
    classAwareNms returned iouThreshold = returned ∧
    (NamedById candidates →
      (∀ className, FireVerifier.highest className returned = FireVerifier.highest className candidates) ∧
      ∀ (verifier : FireVerifier ℚ) (monotonicNs : ℤ),
        verifier.update monotonicNs returned = verifier.update monotonicNs candidates) := by
  refine ⟨nms_apart,nms_covers candidates iouThreshold,nms_idempotent,?_⟩
  intro named
  have highest := nms_highest iouThreshold named
  exact ⟨highest,fun verifier monotonicNs => update_congr verifier monotonicNs highest⟩

def nearBoxes (second : String) : List (Detection ℚ) :=
  [⟨"fire",0,9/10,11/32,11/32,21/32,21/32⟩,⟨second,0,8/10,112/320,112/320,212/320,212/320⟩]

theorem nms_exact_near : ∀ className, FireVerifier.highest className (classAwareNms (nearBoxes "fire") (45/100)) =
    FireVerifier.highest className (nearBoxes "fire") :=
  ((nms_exact (nearBoxes "fire") (45/100)).2.2.2 (by
    intro a memberA b memberB _
    simp only [nearBoxes,List.mem_cons,List.not_mem_nil,or_false] at memberA memberB
    rcases memberA with rfl | rfl <;> rcases memberB with rfl | rfl <;> rfl)).1

-- Two names on one id: the smoke is dropped for the fire.
theorem nms_hides_name :
    FireVerifier.highest "smoke" (nearBoxes "smoke") = 8/10 ∧
    FireVerifier.highest "smoke" (classAwareNms (nearBoxes "smoke") (45/100)) = 0 := by
  decide +kernel

end Ignis.TFLiteDetector
