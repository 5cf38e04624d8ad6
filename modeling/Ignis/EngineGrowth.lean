import Mathlib.Data.List.MinMax
import Ignis.Smoothing
import Ignis.EngineTiming

-- What `update_growth` reports, in exact arithmetic: the smoothed area of the measured boxes against
-- the first of them.
namespace Ignis.IncidentEngine
open Runs Smoothing
variable {t : IncidentThresholds ℚ} {e : Engine ℚ} {f : FrameEvidence ℚ} {now : UInt64} {window : List (FrameEvidence ℚ)}

structure Measured (t : IncidentThresholds ℚ) (now : UInt64) (f : FrameEvidence ℚ) : Prop where
  valid : f.fireBox.valid = true
  large : t.growthMinimumArea ≤ f.fireBox.area
  recent : now.toNat ≤ f.monotonicNs.toNat + t.growthWindowNs.toNat

instance decidableMeasured (t : IncidentThresholds ℚ) (now : UInt64) : DecidablePred (Measured t now) := fun f =>
  decidable_of_iff (f.fireBox.valid = true ∧ t.growthMinimumArea ≤ f.fireBox.area ∧
      now.toNat ≤ f.monotonicNs.toNat + t.growthWindowNs.toNat)
    ⟨fun ⟨valid,large,recent⟩ => ⟨valid,large,recent⟩,fun measured => ⟨measured.valid,measured.large,measured.recent⟩⟩

def measured (t : IncidentThresholds ℚ) (now : UInt64) (window : List (FrameEvidence ℚ)) : List (FrameEvidence ℚ) :=
  window.filter fun f => decide (Measured t now f)

def area (f : FrameEvidence ℚ) : ℚ := f.fireBox.area

theorem growthStep_measured (g : Growth ℚ) (past : f.monotonicNs ≤ now) : growthStep t now g f =
    if Measured t now f then
      {baseline := if g.baseline = 0 then area f else g.baseline
       recent := if g.count = 0 then area f else mixed 0.35 g.recent (area f)
       count := g.count + 1
       previous := area f
       positiveSteps := if 0 < g.previous ∧ g.previous < area f then g.positiveSteps + 1 else g.positiveSteps}
    else g := by
  have elapsed : (now - f.monotonicNs).toNat = now.toNat - f.monotonicNs.toNat := UInt64.toNat_sub_of_le _ _ past
  have order : f.monotonicNs.toNat ≤ now.toNat := UInt64.le_iff_toNat_le.mp past
  have share : (0.65 : ℚ) = 1 - 0.35 := by norm_num
  unfold growthStep
  cases valid : f.fireBox.valid with
  | false =>
    rw [if_neg fun measured : Measured t now f => Bool.false_ne_true (valid.symm.trans measured.valid)]
    rfl
  | true =>
    by_cases small : f.fireBox.area < t.growthMinimumArea
    · rw [if_neg fun measured : Measured t now f => absurd small (not_lt.mpr measured.large),if_pos (by simp [small])]
    · rw [if_neg (by simp [small])]
      by_cases old : now - f.monotonicNs > t.growthWindowNs
      · have late : t.growthWindowNs.toNat < (now - f.monotonicNs).toNat := UInt64.lt_iff_toNat_lt.mp old
        rw [if_pos old,if_neg]
        intro measured
        have recent := measured.recent
        omega
      · have soon : (now - f.monotonicNs).toNat ≤ t.growthWindowNs.toNat :=
          Nat.le_of_not_lt fun late => old (UInt64.lt_iff_toNat_lt.mpr late)
        have here : Measured t now f := ⟨valid,not_lt.mp small,by omega⟩
        rw [if_neg old,if_pos here]
        simp only [mixed,← share,beq_iff_eq]
        rfl

structure Grown (t : IncidentThresholds ℚ) (now : UInt64) (window : List (FrameEvidence ℚ)) : Prop where
  count : (growthOf t now window).count = (measured t now window).length
  empty : measured t now window = [] → (growthOf t now window).baseline = 0
  smoothed : ∀ first rest, measured t now window = first :: rest → (growthOf t now window).baseline = area first ∧
    (growthOf t now window).recent = smoothed 0.35 (area first) (rest.map area)

theorem measured_large (positive : 0 < t.growthMinimumArea) (member : f ∈ measured t now window) : 0 < area f :=
  lt_of_lt_of_le positive (of_decide_eq_true (List.mem_filter.mp member).2).large

theorem measured_snoc : measured t now (window ++ [f]) = measured t now window ++ if Measured t now f then [f] else [] := by
  by_cases here : Measured t now f <;> simp [measured,here]

theorem growthOf_snoc : growthOf t now (window ++ [f]) = growthStep t now (growthOf t now window) f := by
  rw [growthOf,List.foldl_append]
  rfl

theorem grown_measured (positive : 0 < t.growthMinimumArea) (past : f.monotonicNs ≤ now) (grown : Grown t now window)
    (here : Measured t now f) : Grown t now (window ++ [f]) := by
  have steps : growthOf t now (window ++ [f]) = _ := growthOf_snoc
  have found : measured t now (window ++ [f]) = _ := measured_snoc
  rw [growthStep_measured _ past,if_pos here] at steps
  rw [if_pos here] at found
  constructor
  · rw [steps,found,List.length_append,← grown.count]
    rfl
  · intro none
    rw [found] at none
    simp at none
  · intro first rest split
    rw [found] at split
    rw [steps]
    cases before : measured t now window with
    | nil =>
      rw [before] at split
      obtain ⟨rfl,rfl⟩ := List.cons.inj split
      have none : (growthOf t now window).count = 0 := by rw [grown.count,before]; rfl
      rw [grown.empty before,none]
      exact ⟨rfl,rfl⟩
    | cons head others =>
      rw [before,List.cons_append] at split
      obtain ⟨rfl,rfl⟩ := List.cons.inj split
      obtain ⟨baseline,recent⟩ := grown.smoothed head others before
      have large : 0 < area head := measured_large positive (by rw [before]; exact List.mem_cons_self)
      have some' : (growthOf t now window).count ≠ 0 := by
        rw [grown.count,before]
        exact Nat.succ_ne_zero _
      rw [baseline,recent,if_neg (ne_of_gt large),if_neg some',List.map_append]
      exact ⟨rfl,smoothed_snoc.symm⟩

theorem grown_skipped (past : f.monotonicNs ≤ now) (grown : Grown t now window) (skipped : ¬ Measured t now f) :
    Grown t now (window ++ [f]) := by
  have steps : growthOf t now (window ++ [f]) = growthOf t now window := by
    rw [growthOf_snoc,growthStep_measured _ past,if_neg skipped]
  have found : measured t now (window ++ [f]) = measured t now window := by
    rw [measured_snoc,if_neg skipped,List.append_nil]
  constructor
  · rw [steps,found]
    exact grown.count
  · rw [steps,found]
    exact grown.empty
  · rw [steps,found]
    exact grown.smoothed

theorem grown_window (positive : 0 < t.growthMinimumArea) (past : ∀ f ∈ window, f.monotonicNs ≤ now) : Grown t now window := by
  induction window using List.reverseRecOn with
  | nil => exact ⟨rfl,fun _ => rfl,fun first rest split => by cases split⟩
  | append_singleton window f ih =>
    have earlier := ih fun g member => past g (List.mem_append_left _ member)
    have stamped : f.monotonicNs ≤ now := past f (by simp)
    by_cases here : Measured t now f
    · exact grown_measured positive stamped earlier here
    · exact grown_skipped stamped earlier here

structure Growing (t : IncidentThresholds ℚ) (first : FrameEvidence ℚ) (frames : List (FrameEvidence ℚ)) (percent : ℚ) : Prop where
  enough : 4 ≤ frames.length
  grew : ∃ f ∈ frames, (1 + t.growthMinimumPercent / 100) * area first ≤ area f
  least : t.growthMinimumPercent ≤ percent
  most : ∃ largest ∈ frames, (∀ f ∈ frames, area f ≤ area largest) ∧
    percent ≤ (area largest - area first) / area first * 100

theorem largest_box (first : FrameEvidence ℚ) (rest : List (FrameEvidence ℚ)) :
    ∃ largest ∈ first :: rest, (∀ f ∈ first :: rest, area f ≤ area largest) ∧
      smoothed 0.35 (area first) (rest.map area) ≤ area largest := by
  cases found : List.argmax area (first :: rest) with
  | none => cases List.argmax_eq_none.mp found
  | some largest =>
    have above : ∀ f ∈ first :: rest, area f ≤ area largest := fun f member => List.le_of_mem_argmax member found
    refine ⟨largest,List.argmax_mem found,above,?_⟩
    refine smoothed_le (by norm_num) (by norm_num) fun value member => ?_
    rw [← List.map_cons] at member
    obtain ⟨f,inside,rfl⟩ := List.mem_map.mp member
    exact above f inside

theorem growing_of_stable {first : FrameEvidence ℚ} {rest : List (FrameEvidence ℚ)} {percent : ℚ}
    (positive : 0 < t.growthMinimumArea) (grown : Grown t now window) (split : measured t now window = first :: rest)
    (stable : stableGrowth t (growthOf t now window) = some percent) : Growing t first (first :: rest) percent := by
  obtain ⟨baseline,recent⟩ := grown.smoothed first rest split
  have large : 0 < area first := measured_large positive (by rw [split]; exact List.mem_cons_self)
  have hundred : (100.0 : ℚ) = 100 := by norm_num
  unfold stableGrowth at stable
  split at stable
  · rename_i enough
    dsimp only at stable
    split at stable
    · rename_i grows
      obtain ⟨largest,among,above,bounded⟩ := largest_box first rest
      have same : percent = (smoothed 0.35 (area first) (rest.map area) - area first) / area first * 100 := by
        rw [← Option.some.inj stable,baseline,recent]
        exact congrArg (_ * ·) hundred
      have least : t.growthMinimumPercent ≤ percent := by
        rw [← Option.some.inj stable]
        exact grows.1
      have most : percent ≤ (area largest - area first) / area first * 100 := by
        rw [same]
        have numerator : smoothed 0.35 (area first) (rest.map area) - area first ≤ area largest - area first :=
          sub_le_sub_right bounded _
        exact mul_le_mul_of_nonneg_right (div_le_div_of_nonneg_right numerator large.le) (by norm_num)
      refine ⟨?_,⟨largest,among,?_⟩,least,⟨largest,among,above,most⟩⟩
      · rw [← split,← grown.count]
        exact enough.1
      · have ratio : t.growthMinimumPercent / 100 ≤ (area largest - area first) / area first := by
          rw [div_le_iff₀ (by norm_num)]
          exact least.trans most
        have excess : t.growthMinimumPercent / 100 * area first ≤ area largest - area first := by
          rwa [le_div_iff₀ large] at ratio
        linarith
    · cases stable
  · cases stable

-- What `update_growth` leaves in the snapshot, told from the window it looked at.
structure Reported (t : IncidentThresholds ℚ) (now : UInt64) (window : List (FrameEvidence ℚ)) (s : IncidentSnapshot ℚ) : Prop where
  stable : s.growthStable = true → ∃ first rest, measured t now window = first :: rest ∧
    Growing t first (first :: rest) s.fireRegionGrowthPercent
  unstable : s.growthStable = false → s.fireRegionGrowthPercent = 0

theorem reported_updateGrowth (positive : 0 < e.thresholds.growthMinimumArea) (past : ∀ f ∈ e.window, f.monotonicNs ≤ now) :
    Reported e.thresholds now e.window (updateGrowth e now).snapshot := by
  have grown := grown_window positive past
  constructor
  · intro stable
    obtain ⟨percent,found⟩ : ∃ percent, stableGrowth e.thresholds (growthOf e.thresholds now e.window) = some percent :=
      Option.isSome_iff_exists.mp stable
    have shown : (updateGrowth e now).snapshot.fireRegionGrowthPercent = percent := congrArg (Option.getD · 0) found
    rw [shown]
    cases split : measured e.thresholds now e.window with
    | nil =>
      have none : (growthOf e.thresholds now e.window).count = 0 := by rw [grown.count,split]; rfl
      unfold stableGrowth at found
      rw [none] at found
      cases found
    | cons first rest => exact ⟨first,rest,rfl,growing_of_stable positive grown split found⟩
  · intro unstable
    have found : stableGrowth e.thresholds (growthOf e.thresholds now e.window) = none := Option.isSome_eq_false_iff.mp unstable |>
      Option.isNone_iff_eq_none.mp
    exact congrArg (Option.getD · 0) found

-- Nothing that follows `update_growth` on a frame touches what it reported.
def growthShown (e : Engine ℚ) : Bool × ℚ := (e.snapshot.growthStable,e.snapshot.fireRegionGrowthPercent)

theorem growthShown_process (live : evaluated e f = true) :
    growthShown (process e f) = growthShown (updateGrowth (markVerifying (gathered e f)) f.monotonicNs) := by
  have settled : ∀ e : Engine ℚ, growthShown (settle e f) = growthShown e := by
    intro e
    unfold settle; repeat' split
    all_goals rfl
  have decided : ∀ e : Engine ℚ, growthShown (decideConfirmation e f.monotonicNs) = growthShown e := by
    intro e
    unfold decideConfirmation; split <;> rfl
  rw [process_evaluated live,settled,decided]
  rfl

theorem reported_process (live : evaluated e f = true) (positive : 0 < e.thresholds.growthMinimumArea)
    (past : ∀ g ∈ (pushWindow e f).window, g.monotonicNs ≤ f.monotonicNs) :
    Reported e.thresholds f.monotonicNs (pushWindow e f).window (process e f).snapshot := by
  obtain ⟨window,thresholds⟩ := marked_frame (e := e) (f := f)
  have reported : Reported (markVerifying (gathered e f)).thresholds f.monotonicNs (markVerifying (gathered e f)).window
      (updateGrowth (markVerifying (gathered e f)) f.monotonicNs).snapshot :=
    reported_updateGrowth (by rw [thresholds]; exact positive) (by rw [window]; exact past)
  rw [thresholds,window] at reported
  obtain ⟨stable,percent⟩ := Prod.mk.inj (growthShown_process live)
  constructor
  · rw [stable,percent]
    exact reported.stable
  · rw [stable,percent]
    exact reported.unstable

-- For every window that `update_growth` sees with no frame stamped after now.
theorem growth_never_overstates (e : Engine ℚ) (f : FrameEvidence ℚ) (live : evaluated e f = true)
    (positive : 0 < e.thresholds.growthMinimumArea)
    (past : ∀ g ∈ (pushWindow e f).window, g.monotonicNs ≤ f.monotonicNs) :
    Reported e.thresholds f.monotonicNs (pushWindow e f).window (process e f).snapshot :=
  reported_process live positive past

-- In a run whose timestamps do not decrease these are all its windows.
theorem ordered_growth (deviceId bootId : String) (t : IncidentThresholds ℚ) (positive : 0 < t.growthMinimumArea)
    (ops : List (Operation ℚ)) (ordered : (times ops).Pairwise (· ≤ ·)) :
    Along operate (OnEvaluated fun e f => Reported t f.monotonicNs (pushWindow e f).window (process e f).snapshot)
      (fresh deviceId bootId t) ops := by
  refine along_iff.mpr ?_
  rintro earlier op later rfl
  have windows := along_iff.mp (ordered_windows deviceId bootId t _ ordered) earlier op later rfl
  have thresholds : (run operate (fresh deviceId bootId t) earlier).thresholds = t :=
    invariant (fun e : Engine ℚ => e.thresholds = t) (fun _ _ same => operate_thresholds.trans same) rfl
  cases op with
  | process f =>
    intro live
    have reported := reported_process live (thresholds.symm ▸ positive) (windows live)
    rwa [thresholds] at reported
  | _ => trivial

-- Five boxes, each taller than the one before it by a twentieth of the picture.
def widening (i : ℕ) : FrameEvidence ℚ := { frame (i + 1) (i * 200) 0.60 with fireBox := ⟨0.2,0.2,0.4,0.4 + i / 20⟩ }
def widened : Engine ℚ :=
  run operate (fresh "device" "growth" defaultThresholds) ((List.range 5).map fun i => .process (widening i))

theorem widened_grows : (process widened (widening 5)).snapshot.growthStable = true ∧
    Reported widened.thresholds (widening 5).monotonicNs (pushWindow widened (widening 5)).window
      (process widened (widening 5)).snapshot :=
  ⟨by decide +kernel,growth_never_overstates widened (widening 5) (by decide +kernel) (by decide +kernel) (by decide +kernel)⟩

end Ignis.IncidentEngine
