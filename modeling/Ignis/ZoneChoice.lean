import Ignis.RunningMaximum
import Ignis.ZoneOverlap

namespace Ignis.Geometry
open IncidentEngine RunningMaximum

variable {box : Box ℚ} {zones others before after : List (Zone ℚ)} {zone : Zone ℚ} {minimumOverlap : ℚ}

def accepted (zone : Zone ℚ) : Bool := validPolygon zone.points

def ratio (box : Box ℚ) (zone : Zone ℚ) : ℚ := overlapRatio box zone.points

def Covered (box : Box ℚ) (zones : List (Zone ℚ)) (minimumOverlap : ℚ) : Prop :=
  box.valid = true ∧ ∃ zone ∈ zones, accepted zone = true ∧ minimumOverlap ≤ ratio box zone

def BestZone (box : Box ℚ) (zones : List (Zone ℚ)) (zone : Zone ℚ) : Prop := First accepted (ratio box) 0 zones zone

def matched (box : Box ℚ) : Option (Zone ℚ) → ZoneMatch ℚ
  | none => unconfigured
  | some zone => ⟨zone.name,ratio box zone⟩

theorem matched_ratio (box : Box ℚ) (best : Option (Zone ℚ)) : (matched box best).overlapRatio = best.elim 0 (ratio box) := by
  cases best <;> rfl

theorem better_pick (box : Box ℚ) (best : Option (Zone ℚ)) (zone : Zone ℚ) :
    better box (matched box best) zone = matched box (pick accepted (ratio box) 0 best zone) := by
  have score : boxPolygonIntersectionArea box zone.points / box.area = ratio box zone := rfl
  unfold better pick
  by_cases counts : accepted zone = true
  · have valid : validPolygon zone.points = true := counts
    rw [if_pos valid]
    simp only [matched_ratio,score]
    by_cases more : best.elim 0 (ratio box) < ratio box zone
    · rw [if_pos more,if_pos ⟨counts,more⟩]
      rfl
    · rw [if_neg more,if_neg (fun both => more both.2)]
  · have refused : ¬ validPolygon zone.points = true := counts
    rw [if_neg refused,if_neg (fun both => counts both.1)]

theorem best_leader (box : Box ℚ) (zones : List (Zone ℚ)) :
    zones.foldl (better box) unconfigured = matched box (leader accepted (ratio box) 0 zones) := by
  have each (best : Option (Zone ℚ)) : zones.foldl (better box) (matched box best) =
      matched box (zones.foldl (pick accepted (ratio box) 0) best) := by
    induction zones generalizing best with
    | nil => rfl
    | cons zone rest ih => rw [List.foldl_cons,List.foldl_cons,better_pick,ih]
  exact each none

theorem associate_invalid (invalid : box.valid = false) : associateZone box zones minimumOverlap = unconfigured := by
  rw [associateZone,invalid]
  rfl

theorem associate_valid (valid : box.valid = true) : associateZone box zones minimumOverlap =
    if (matched box (leader accepted (ratio box) 0 zones)).overlapRatio < minimumOverlap then unconfigured
    else matched box (leader accepted (ratio box) 0 zones) := by
  have wide : ¬ box.area ≤ 0 := not_le.mpr (area_positive valid)
  rw [associateZone,valid,decide_eq_false wide,← best_leader]
  rfl

theorem associate_covered (positive : 0 < minimumOverlap) (covered : Covered box zones minimumOverlap) :
    ∃ zone, BestZone box zones zone ∧ minimumOverlap ≤ ratio box zone ∧
      associateZone box zones minimumOverlap = ⟨zone.name,ratio box zone⟩ := by
  obtain ⟨valid,reached,member,counts,enough⟩ := covered
  rw [associate_valid valid]
  rcases leader_spec accepted (ratio box) 0 zones with ⟨_,low⟩ | ⟨zone,found,first⟩
  · exact absurd (low reached member counts) (not_le.mpr (positive.trans_le enough))
  · have above : minimumOverlap ≤ ratio box zone := enough.trans (first.bound reached member counts)
    refine ⟨zone,first,above,?_⟩
    rw [found]
    exact if_neg (not_lt.mpr above)

theorem associate_uncovered (positive : 0 < minimumOverlap) (uncovered : ¬ Covered box zones minimumOverlap) :
    associateZone box zones minimumOverlap = unconfigured := by
  cases valid : box.valid with
  | false => exact associate_invalid valid
  | true =>
    rw [associate_valid valid]
    rcases leader_spec accepted (ratio box) 0 zones with ⟨none,_⟩ | ⟨zone,found,first⟩
    · rw [none]
      exact if_pos positive
    · have low : ratio box zone < minimumOverlap :=
        not_le.mp fun enough => uncovered ⟨valid,zone,first.mem,first.counts,enough⟩
      rw [found]
      exact if_pos low

theorem covered_perm (perm : zones.Perm others) : Covered box zones minimumOverlap ↔ Covered box others minimumOverlap := by
  constructor
  · rintro ⟨valid,zone,member,rest⟩
    exact ⟨valid,zone,perm.mem_iff.mp member,rest⟩
  · rintro ⟨valid,zone,member,rest⟩
    exact ⟨valid,zone,perm.mem_iff.mpr member,rest⟩

theorem associate_named (positive : 0 < minimumOverlap) :
    associateZone box zones minimumOverlap ≠ unconfigured ↔ Covered box zones minimumOverlap := by
  constructor
  · intro named
    by_contra uncovered
    exact named (associate_uncovered positive uncovered)
  · rintro covered same
    obtain ⟨zone,_,enough,answer⟩ := associate_covered positive covered
    have zero : ratio box zone = 0 := congrArg ZoneMatch.overlapRatio (answer.symm.trans same)
    rw [zero] at enough
    exact absurd positive (not_lt.mpr enough)

theorem associate_perm (positive : 0 < minimumOverlap) (perm : zones.Perm others) :
    associateZone box others minimumOverlap = associateZone box zones minimumOverlap ∨
    ∃ zone ∈ zones, ∃ other ∈ zones, (accepted zone = true ∧ accepted other = true ∧ ratio box zone = ratio box other) ∧
      associateZone box zones minimumOverlap = ⟨zone.name,ratio box zone⟩ ∧
      associateZone box others minimumOverlap = ⟨other.name,ratio box other⟩ := by
  by_cases covered : Covered box zones minimumOverlap
  · obtain ⟨zone,first,_,answer⟩ := associate_covered positive covered
    obtain ⟨other,second,_,answer'⟩ := associate_covered positive ((covered_perm perm).mp covered)
    obtain ⟨same,third,equal⟩ := leader_perm perm first
    rw [third.unique second] at equal
    exact .inr ⟨zone,first.mem,other,perm.mem_iff.mpr second.mem,⟨first.counts,second.counts,equal.symm⟩,answer,answer'⟩
  · left
    rw [associate_uncovered positive covered,associate_uncovered positive (fun still => covered ((covered_perm perm).mpr still))]

theorem associate_erase (beaten : Beaten accepted (ratio box) before after zone) :
    associateZone box (before ++ after) minimumOverlap = associateZone box (before ++ zone :: after) minimumOverlap := by
  cases valid : box.valid with
  | false => rw [associate_invalid valid,associate_invalid valid]
  | true => rw [associate_valid valid,associate_valid valid,leader_erase beaten]

theorem associate_erase_low (positive : 0 < minimumOverlap) (low : ratio box zone < minimumOverlap) :
    associateZone box (before ++ after) minimumOverlap = associateZone box (before ++ zone :: after) minimumOverlap := by
  by_cases covered : Covered box (before ++ zone :: after) minimumOverlap
  · obtain ⟨valid,best,member,counts,enough⟩ := covered
    have more : ratio box zone < ratio box best := low.trans_le enough
    apply associate_erase
    rcases List.mem_append.mp member with earlier | rest
    · exact .inr (.inl ⟨best,earlier,counts,le_of_lt more⟩)
    · rcases List.mem_cons.mp rest with rfl | later
      · exact absurd more (lt_irrefl _)
      · exact .inr (.inr ⟨best,later,counts,more⟩)
  · rw [associate_uncovered positive covered,associate_uncovered positive]
    rintro ⟨valid,best,member,rest⟩
    refine covered ⟨valid,best,?_,rest⟩
    rcases List.mem_append.mp member with earlier | later
    · exact List.mem_append_left _ earlier
    · exact List.mem_append_right _ (List.mem_cons_of_mem _ later)

-- Order matters among equals only.
theorem best_zone_named (box : Box ℚ) (zones : List (Zone ℚ)) (minimumOverlap : ℚ) (positive : 0 < minimumOverlap) :
    (associateZone box zones minimumOverlap ≠ unconfigured ↔ Covered box zones minimumOverlap) ∧
    (Covered box zones minimumOverlap → ∃ zone, BestZone box zones zone ∧
      associateZone box zones minimumOverlap = ⟨zone.name,ratio box zone⟩) ∧
    (∀ others, zones.Perm others → associateZone box others minimumOverlap = associateZone box zones minimumOverlap ∨
      ∃ zone ∈ zones, ∃ other ∈ zones, (accepted zone = true ∧ accepted other = true ∧ ratio box zone = ratio box other) ∧
        associateZone box zones minimumOverlap = ⟨zone.name,ratio box zone⟩ ∧
        associateZone box others minimumOverlap = ⟨other.name,ratio box other⟩) ∧
    ∀ before zone after, zones = before ++ zone :: after →
      Beaten accepted (ratio box) before after zone ∨ ratio box zone < minimumOverlap →
      associateZone box (before ++ after) minimumOverlap = associateZone box zones minimumOverlap := by
  refine ⟨associate_named positive,?_,fun others perm => associate_perm positive perm,?_⟩
  · intro covered
    obtain ⟨zone,first,_,answer⟩ := associate_covered positive covered
    exact ⟨zone,first,answer⟩
  · rintro before zone after rfl lesser
    rcases lesser with beaten | low
    · exact associate_erase beaten
    · exact associate_erase_low positive low

def rightHalf : List (Point ℚ) := [⟨1/2,0⟩,⟨1,0⟩,⟨1,1⟩,⟨1/2,1⟩]
def halves : List (Zone ℚ) := [⟨"right","Battery charging area",rightHalf⟩,⟨"left","Stovetop",leftHalf⟩]

theorem best_zone_named_left : (associateZone leftBox halves (1/4)).zoneName = "Stovetop" ∧
    associateZone leftBox [⟨"left","Stovetop",leftHalf⟩] (1/4) = associateZone leftBox halves (1/4) :=
  ⟨by decide +kernel,(best_zone_named leftBox halves (1/4) (by decide +kernel)).2.2.2 []
    ⟨"right","Battery charging area",rightHalf⟩ [⟨"left","Stovetop",leftHalf⟩] rfl (.inr (by decide +kernel))⟩

end Ignis.Geometry
