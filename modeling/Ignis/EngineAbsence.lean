import Ignis.EngineTiming

-- On a frame whose signature is gone for the grace period the rules are tried before the incident is cleared.
namespace Ignis.IncidentEngine
open Runs
variable {R : Type} [Double R] {e : Engine R} {f : FrameEvidence R} {op : Operation R}

-- History variable: the last relevant frame that was evaluated.
def noteSighting (e : Engine R) : Operation R → Option (FrameEvidence R) → Option (FrameEvidence R)
  | .process f,last => if evaluated e f && relevant e.thresholds f then some f else last
  | _,last => last

def Absent (t : IncidentThresholds R) (last : Option (FrameEvidence R)) (f : FrameEvidence R) : Prop :=
  relevant t f = false ∧ ∃ seen ∈ last, seen.monotonicNs.toNat + t.clearGracePeriodNs.toNat ≤ f.monotonicNs.toNat

-- The rules that can still hold of a window on a frame without a signature.
def visibleLong (e : Engine R) (f : FrameEvidence R) : Bool :=
  e.snapshot.firstDetectionNs != 0 &&
    decide (f.monotonicNs - e.snapshot.firstDetectionNs ≥ e.thresholds.confirmedVisibleDurationNs) &&
    decide (e.thresholds.persistenceRequiredFrames ≤ (pushWindow e f).window.countP (relevant e.thresholds))

def bothLong (e : Engine R) (f : FrameEvidence R) : Bool :=
  let found := cooccurrence e.thresholds (pushWindow e f).window
  decide (e.thresholds.persistenceRequiredFrames ≤ found.1) && found.2 != 0 && decide (f.monotonicNs - found.2 ≥ 1000000000)

def grown (e : Engine R) (f : FrameEvidence R) : Bool :=
  (stableGrowth e.thresholds (growthOf e.thresholds f.monotonicNs (pushWindow e f).window)).isSome

-- The window outlives the signature: an unconfirmed incident is or comes under verification,
-- and what the window holds meets a rule at the time of the frame.
def outlives (e : Engine R) (f : FrameEvidence R) : Bool :=
  evaluated e f && !e.snapshot.wasConfirmed && tries e f && (visibleLong e f || bothLong e f || grown e f)

theorem judged_grown : (judged e f).snapshot.growthStable = grown e f := by
  obtain ⟨window,thresholds⟩ := marked_frame (e := e) (f := f)
  show (stableGrowth _ (growthOf _ _ _)).isSome = _
  rw [thresholds,window]
  rfl

theorem judged_rule (missing : relevant e.thresholds f = false) :
    confirmationRuleMet (judged e f) f.monotonicNs = (visibleLong e f || bothLong e f || grown e f) := by
  have streak : (judged e f).sustainedHighFireStartNs = 0 := by
    rw [judged_sustained,missing]
    simp
  have start : (judged e f).snapshot.firstDetectionNs = e.snapshot.firstDetectionNs := by
    rw [judged_first,missing]
    rfl
  have counted : persistenceCount (judged e f) = (pushWindow e f).window.countP (relevant e.thresholds) := by
    rw [persistenceCount,judged_thresholds,judged_window]
  unfold confirmationRuleMet visibleLong bothLong cooccurrence
  rw [streak,start,counted,judged_thresholds,judged_window,judged_grown]
  rfl

theorem setsConfirmed_absent (missing : relevant e.thresholds f = false) (unconfirmed : e.snapshot.wasConfirmed = false) :
    setsConfirmed e f = outlives e f := by
  have tests : confirms (judged e f) f.monotonicNs = (tried (judged e f) && confirmationRuleMet (judged e f) f.monotonicNs) := rfl
  rw [setsConfirmed,tests,tried_judged,judged_rule missing,outlives,unconfirmed]
  simp [Bool.and_assoc]

theorem settle_confirmed : (settle e f).snapshot.wasConfirmed = e.snapshot.wasConfirmed := by
  unfold settle
  repeat' split
  all_goals rfl

theorem process_absent (missing : relevant e.thresholds f = false) (unconfirmed : e.snapshot.wasConfirmed = false) :
    (process e f).snapshot.wasConfirmed = outlives e f := by
  rw [← setsConfirmed_absent missing unconfirmed]
  cases sets : setsConfirmed e f with
  | true =>
    obtain ⟨h,_,view⟩ := process_confirming sets
    exact congrArg Lifecycle.wasConfirmed view
  | false =>
    obtain same | ⟨_,same⟩ | ⟨live,same⟩ := process_cases (e := e) (f := f)
    · rw [same]
      exact unconfirmed
    · rw [same]
      exact unconfirmed
    · have quiet : confirms (judged e f) f.monotonicNs = false := by
        rw [setsConfirmed,live] at sets
        exact sets
      have judgedView : (judged e f).snapshot.wasConfirmed = false := by
        have view := congrArg Lifecycle.wasConfirmed (lifecycle_judged (e := e) (f := f))
        have start : (lifecycle (gathered e f)).wasConfirmed = false := by
          rw [lifecycle_gathered,missing]
          exact unconfirmed
        split at view <;> exact view.trans start
      have decided : decideConfirmation (judged e f) f.monotonicNs = judged e f := by
        rw [decideConfirmation,quiet]
        rfl
      rw [same,decided,settle_confirmed]
      exact judgedView

def AbsentUnconfirmed (s : Engine R × Option (FrameEvidence R)) : Operation R → Prop
  | .process f => Absent s.1.thresholds s.2 f → s.1.snapshot.wasConfirmed = false →
      (process s.1 f).snapshot.wasConfirmed = false
  | _ => True

def NeverOutlives (s : Engine R × Option (FrameEvidence R)) : Operation R → Prop
  | .process f => Absent s.1.thresholds s.2 f → outlives s.1 f = false
  | _ => True

-- In any run, with whatever timestamps.
theorem absent_unconfirmed_iff (deviceId bootId : String) (t : IncidentThresholds R) (ops : List (Operation R)) :
    Along (observed operate noteSighting) AbsentUnconfirmed (fresh deviceId bootId t,none) ops ↔
      Along (observed operate noteSighting) NeverOutlives (fresh deviceId bootId t,none) ops := by
  apply along_congr
  intro s op
  cases op with
  | process f =>
    refine forall_congr' fun absent => ?_
    cases confirmed : s.1.snapshot.wasConfirmed with
    | true => simp [outlives,confirmed]
    | false =>
      rw [process_absent absent.1 confirmed]
      exact ⟨fun kept => kept rfl,fun kept _ => kept⟩
  | _ => exact Iff.rfl

-- Half a second of weak fire, and the next frame three and a half seconds later is empty. It
-- confirms the incident on the strength of the six frames before it.
theorem absent_fire_confirmed :
    (1 ≤ (defaultThresholds (R := ℚ)).persistenceRequiredFrames ∧
      (defaultThresholds (R := ℚ)).persistenceRequiredFrames ≤ (defaultThresholds (R := ℚ)).persistenceWindowFrames) ∧
    (times (half ++ [.process (frame 7 4000 0)])).Pairwise (· ≤ ·) ∧
    ¬ Along (observed operate noteSighting) AbsentUnconfirmed (fresh "device" "absent" defaultThresholds,none)
      (half ++ [.process (frame 7 4000 0)]) := by
  refine ⟨by decide,by decide +kernel,fun all => ?_⟩
  obtain ⟨_,last⟩ := along_snoc.mp all
  have seen : (run (observed operate noteSighting) (fresh "device" "absent" defaultThresholds,none) half).2.isSome = true := by
    decide +kernel
  obtain ⟨sighting,among⟩ := Option.isSome_iff_exists.mp seen
  have when : (run (observed operate noteSighting) (fresh "device" "absent" defaultThresholds,none) half).2.map
      FrameEvidence.monotonicNs = some 1500000000 := by
    decide +kernel
  rw [among,Option.map_some,Option.some.injEq] at when
  have silent := last ⟨by decide +kernel,sighting,among,by rw [when]; decide +kernel⟩ (by decide +kernel)
  have confirmed : (process (run (observed operate noteSighting) (fresh "device" "absent" defaultThresholds,none) half).1
      (frame 7 4000 0)).snapshot.wasConfirmed = true := by
    decide +kernel
  rw [confirmed] at silent
  cases silent

end Ignis.IncidentEngine
