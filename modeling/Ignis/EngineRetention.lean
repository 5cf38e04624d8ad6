import Mathlib
import Ignis.EngineConsistency

namespace Ignis.IncidentEngine
open Runs
variable {R : Type} [Double R] {e first : Engine R} {f : FrameEvidence R} {op : Operation R}
  {l : List (Operation R)}

-- The frame on which `confirm_visual` runs, whether or not it also began the incident.
def setsConfirmed (e : Engine R) (f : FrameEvidence R) : Bool :=
  evaluated e f && confirms (judged e f) f.monotonicNs

theorem process_confirming (sets : setsConfirmed e f = true) :
    ∃ h ∈ [HazardState.confirmed,.visualSignatureLost], lifecycle (process e f) =
      {lifecycle (judged e f) with hazardState := h, responseState := .awaitingResponse, wasConfirmed := true} := by
  obtain ⟨live,confirming⟩ : evaluated e f = true ∧ confirms (judged e f) f.monotonicNs = true := by
    simpa [setsConfirmed] using sets
  have view := lifecycle_decided (judged e f) f.monotonicNs
  rw [if_pos confirming] at view
  have confirmed : (decideConfirmation (judged e f) f.monotonicNs).snapshot.wasConfirmed = true :=
    congrArg Lifecycle.wasConfirmed view
  rw [process_evaluated live,lifecycle_settled,view,if_pos confirmed]
  repeat' split
  · exact ⟨.visualSignatureLost,by simp,rfl⟩
  · exact ⟨.confirmed,by simp,rfl⟩
  · exact ⟨.confirmed,by simp,rfl⟩

def Numbered (e : Engine R) : Prop :=
  e.snapshot.incidentId ≠ "" → e.snapshot.incidentId = incidentName e.deviceId e.bootId e.incidentCounter

theorem incidentName_injective {deviceId bootId : String} {m n : UInt64}
    (same : incidentName deviceId bootId m = incidentName deviceId bootId n) : m = n := by
  unfold incidentName at same
  have digits := (String.append_right_inj _).mp same
  exact UInt64.toNat_inj.mp (Nat.repr_inj.mp digits)

theorem successor_name {deviceId bootId : String} {n : UInt64} :
    incidentName deviceId bootId (n + 1) ≠ incidentName deviceId bootId n := by
  intro same
  have wrapped := incidentName_injective same
  simp at wrapped

theorem absorb_numbering : (absorb e f).deviceId = e.deviceId ∧ (absorb e f).bootId = e.bootId ∧
    (absorb e f).incidentCounter =
      if relevant e.thresholds f && startsIncident e then e.incidentCounter + 1 else e.incidentCounter := by
  have starts : startsIncident {e with lastRelevantNs := f.monotonicNs} = startsIncident e := rfl
  unfold absorb
  cases relevant e.thresholds f
  · exact ⟨rfl,rfl,rfl⟩
  · simp only [if_true,starts,Bool.true_and]
    split <;> exact ⟨rfl,rfl,rfl⟩

theorem gathered_numbering : (gathered e f).deviceId = e.deviceId ∧ (gathered e f).bootId = e.bootId ∧
    (gathered e f).incidentCounter =
      if relevant e.thresholds f && startsIncident e then e.incidentCounter + 1 else e.incidentCounter := by
  rw [gathered,elapsed_snapshot]
  exact absorb_numbering (e := pushWindow {e with lastSequence := f.sequence} f)

theorem decided_name (e : Engine R) (now : UInt64) : (decideConfirmation e now).snapshot.incidentId = e.snapshot.incidentId := by
  unfold decideConfirmation; split <;> rfl

theorem process_name (live : evaluated e f = true) :
    (process e f).snapshot.incidentId = (gathered e f).snapshot.incidentId := by
  have judgedName : (judged e f).snapshot.incidentId = (gathered e f).snapshot.incidentId := by
    have view := congrArg Lifecycle.incidentId (lifecycle_judged (e := e) (f := f))
    split at view <;> exact view
  have view := congrArg Lifecycle.incidentId
    (lifecycle_settled (e := decideConfirmation (judged e f) f.monotonicNs) (f := f))
  rw [process_evaluated live,← judgedName,← decided_name (judged e f) f.monotonicNs]
  repeat' split at view
  all_goals exact view

theorem begins_parts (begun : begins e f = true) : evaluated e f = true ∧
    relevant e.thresholds f = true ∧ startsIncident e = true := by
  simpa [begins,and_assoc] using begun

theorem begins_name (begun : begins e f = true) : (process e f).snapshot.incidentId =
    incidentName e.deviceId e.bootId (e.incidentCounter + 1) := by
  obtain ⟨live,seen,starts⟩ := begins_parts begun
  rw [process_name live]
  have view : lifecycle (gathered e f) = opened e f := by rw [lifecycle_gathered,seen,starts]; rfl
  exact congrArg Lifecycle.incidentId view

theorem process_numbered (valid : Numbered e) : Numbered (process e f) := by
  obtain same | ⟨_,same⟩ | ⟨live,_⟩ := process_cases (e := e) (f := f)
  · rwa [same]
  · rw [same]; exact valid
  · obtain ⟨device,boot,counter⟩ := gathered_numbering (e := e) (f := f)
    have place : ∀ c, (gathered e f).incidentCounter = c →
        incidentName (process e f).deviceId (process e f).bootId (process e f).incidentCounter =
          incidentName e.deviceId e.bootId c := by
      rintro c rfl
      rw [evaluated_snapshot live,device,boot]
    intro shown
    cases begun : relevant e.thresholds f && startsIncident e
    · have view : lifecycle (gathered e f) = lifecycle e := by rw [lifecycle_gathered,begun]; rfl
      have kept : (process e f).snapshot.incidentId = e.snapshot.incidentId :=
        (process_name live).trans (congrArg Lifecycle.incidentId view)
      rw [place e.incidentCounter (by simpa [begun] using counter),kept]
      exact valid (kept ▸ shown)
    · rw [place (e.incidentCounter + 1) (by simpa [begun] using counter)]
      exact begins_name (by simpa [begins,live] using begun)

theorem operate_numbered (valid : Numbered e) : Numbered (operate e op) := by
  cases op with
  | process f => exact process_numbered valid
  | cancel reason => obtain same | ⟨_,same⟩ := cancel_cases e reason <;> rw [operate,same] <;> exact valid
  | confirmOccupant => obtain same | ⟨_,_,same⟩ := confirmOccupant_cases (e := e) <;> rw [operate,same] <;> exact valid
  | manualReset => obtain same | ⟨_,same⟩ := manualReset_cases (e := e) <;> rw [operate,same] <;> exact valid
  | setDegraded d => exact valid

def Kept (first e : Engine R) : Prop :=
  e.snapshot.incidentId = first.snapshot.incidentId ∧ e.snapshot.wasConfirmed = true

theorem begins_drops (numbered : Numbered e) (valid : Sound e) (confirmed : e.snapshot.wasConfirmed = true)
    (begun : begins e f = true) : (process e f).snapshot.incidentId ≠ e.snapshot.incidentId := by
  rw [begins_name begun,numbered (valid.settled.confirmedNamed confirmed)]
  exact successor_name

def Raised (before after : R) : Prop := after = before ∨ before < after

def peaks (e : Engine R) : R × R := (e.snapshot.peakFireConfidence,e.snapshot.peakSmokeConfidence)

def PeaksKept (before after : Engine R) : Prop :=
  Raised (peaks before).1 (peaks after).1 ∧ Raised (peaks before).2 (peaks after).2

theorem PeaksKept.of_eq (same : peaks after = peaks e) : PeaksKept e after := by
  unfold PeaksKept; rw [same]; exact ⟨.inl rfl,.inl rfl⟩

theorem peaks_elapsed {now : UInt64} : peaks (refreshElapsed e now) = peaks e := by
  unfold refreshElapsed; split <;> rfl
theorem peaks_growth {now : UInt64} : peaks (updateGrowth e now) = peaks e := rfl
theorem peaks_sequence : peaks (updateSequenceObservation e) = peaks e := rfl
theorem peaks_verifying : peaks (markVerifying e) = peaks e := by
  unfold markVerifying; split <;> rfl
theorem peaks_judged : peaks (judged e f) = peaks (gathered e f) := by
  rw [judged,peaks_sequence,peaks_growth,peaks_verifying]
theorem peaks_decided {now : UInt64} : peaks (decideConfirmation e now) = peaks e := by
  unfold decideConfirmation; split <;> rfl
theorem peaks_settled : peaks (settle e f) = peaks e := by
  unfold settle; repeat' split
  all_goals rfl

theorem absorb_peaks (same : (relevant e.thresholds f && startsIncident e) = false) : PeaksKept e (absorb e f) := by
  have starts : startsIncident {e with lastRelevantNs := f.monotonicNs} = startsIncident e := rfl
  unfold absorb
  cases seen : relevant e.thresholds f
  · exact .of_eq rfl
  · have idle : startsIncident e = false := by simpa [seen] using same
    simp only [if_true,starts,idle,Bool.false_eq_true,if_false]
    exact ⟨larger_grows _ _,larger_grows _ _⟩

theorem process_peaks (same : begins e f = false) : PeaksKept e (process e f) := by
  obtain eq | ⟨_,eq⟩ | ⟨live,eq⟩ := process_cases (e := e) (f := f)
  · exact .of_eq (by rw [eq])
  · exact .of_eq (by rw [eq]; rfl)
  · have idle : (relevant e.thresholds f && startsIncident e) = false := by
      simpa only [begins,live,Bool.true_and] using same
    have absorbed : PeaksKept e (absorb (pushWindow {e with lastSequence := f.sequence} f) f) := absorb_peaks idle
    have view : peaks (process e f) = peaks (absorb (pushWindow {e with lastSequence := f.sequence} f) f) := by
      rw [eq,peaks_settled,peaks_decided,peaks_judged,gathered,peaks_elapsed]
    unfold PeaksKept at absorbed ⊢
    rwa [view]

def opBegins (e : Engine R) : Operation R → Bool
  | .process f => begins e f
  | _ => false

theorem operate_peaks (same : opBegins e op = false) : PeaksKept e (operate e op) := by
  cases op with
  | process f => exact process_peaks same
  | cancel reason => obtain eq | ⟨_,eq⟩ := cancel_cases e reason <;> exact .of_eq (congrArg (fun r => peaks r.1) eq)
  | confirmOccupant => obtain eq | ⟨_,_,eq⟩ := confirmOccupant_cases (e := e) <;> exact .of_eq (congrArg (fun r => peaks r.1) eq)
  | manualReset => obtain eq | ⟨_,eq⟩ := manualReset_cases (e := e) <;> exact .of_eq (congrArg (fun r => peaks r.1) eq)
  | setDegraded d => exact .of_eq rfl

theorem operate_confirmed (confirmed : e.snapshot.wasConfirmed = true) (same : opBegins e op = false) :
    (operate e op).snapshot.incidentId = e.snapshot.incidentId ∧
    (operate e op).snapshot.wasConfirmed = true ∧
    (operate e op).snapshot.firstDetectionNs = e.snapshot.firstDetectionNs ∧
    (operate e op).snapshot.firstZone = e.snapshot.firstZone := by
  cases op with
  | process f =>
    obtain ⟨h,_,view⟩ := process_confirmed confirmed same
    exact ⟨congrArg Lifecycle.incidentId view,(congrArg Lifecycle.wasConfirmed view).trans confirmed,
      congrArg Lifecycle.firstDetectionNs view,congrArg Lifecycle.firstZone view⟩
  | cancel reason => obtain eq | ⟨_,eq⟩ := cancel_cases e reason <;> rw [operate,eq] <;> exact ⟨rfl,confirmed,rfl,rfl⟩
  | confirmOccupant => obtain eq | ⟨_,_,eq⟩ := confirmOccupant_cases (e := e) <;> rw [operate,eq] <;> exact ⟨rfl,confirmed,rfl,rfl⟩
  | manualReset => obtain eq | ⟨_,eq⟩ := manualReset_cases (e := e) <;> rw [operate,eq] <;> exact ⟨rfl,confirmed,rfl,rfl⟩
  | setDegraded d => exact ⟨rfl,confirmed,rfl,rfl⟩

theorem kept_iff (numbered : Numbered e) (valid : Sound e) (kept : Kept first e) :
    Kept first (operate e op) ↔ opBegins e op = false := by
  constructor
  · intro after
    by_contra begun
    cases op with
    | process f =>
      have named := begins_drops numbered valid kept.2 (by simpa [opBegins] using begun)
      exact named (after.1.trans kept.1.symm)
    | _ => simp [opBegins] at begun
  · intro same
    obtain ⟨name,confirmed,_⟩ := operate_confirmed kept.2 same
    exact ⟨name.trans kept.1,confirmed⟩

-- The occupant's part of the history: a cancel that succeeded, and after one a reset that did.
def Cancelled (first : Engine R) (l : List (Operation R)) : Prop :=
  ∃ before reason after, l = before ++ .cancel reason :: after ∧
    succeeds (run operate first before) (.cancel reason) = true

def Released (first : Engine R) (l : List (Operation R)) : Prop :=
  ∃ before after, l = before ++ .manualReset :: after ∧ Cancelled first before ∧
    succeeds (run operate first before) .manualReset = true

theorem Cancelled.append (past : Cancelled first l) (more : List (Operation R)) : Cancelled first (l ++ more) := by
  obtain ⟨before,reason,after,rfl,success⟩ := past
  exact ⟨before,reason,after ++ more,by simp,success⟩

theorem Released.append (past : Released first l) (more : List (Operation R)) : Released first (l ++ more) := by
  obtain ⟨before,after,rfl,cancelled,success⟩ := past
  exact ⟨before,after ++ more,by simp,cancelled,success⟩

structure Accounted (first : Engine R) (l : List (Operation R)) (e : Engine R) : Prop where
  cancelled : e.snapshot.responseState = .cancelled → Cancelled first l
  resolved : e.snapshot.hazardState = .resolved → Released first l

theorem Accounted.step (past : Accounted first l (run operate first l)) (valid : Sound (run operate first l))
    (confirmed : (run operate first l).snapshot.wasConfirmed = true)
    (same : opBegins (run operate first l) op = false) :
    Accounted first (l ++ [op]) (operate (run operate first l) op) := by
  generalize at_ : run operate first l = e at *
  cases op with
  | process f =>
    obtain ⟨h,shown,view⟩ := process_confirmed confirmed same
    refine ⟨fun cancelled => ?_,fun resolved => ?_⟩
    · exact (past.cancelled ((congrArg Lifecycle.responseState view).symm.trans cancelled)).append _
    · have hazard : h = .resolved := (congrArg Lifecycle.hazardState view).symm.trans resolved
      subst hazard
      exact (past.resolved (by simpa [eq_comm] using shown)).append _
  | cancel reason =>
    obtain eq | ⟨_,eq⟩ := cancel_cases e reason
    · rw [operate,eq]
      exact ⟨fun c => (past.cancelled c).append _,fun r => (past.resolved r).append _⟩
    · refine ⟨fun _ => ⟨l,reason,[],by simp,?_⟩,fun r => (past.resolved ?_).append _⟩
      · rw [at_,succeeds,eq]
      · rw [operate,eq] at r; exact r
  | confirmOccupant =>
    obtain eq | ⟨_,_,eq⟩ := confirmOccupant_cases (e := e)
    · rw [operate,eq]
      exact ⟨fun c => (past.cancelled c).append _,fun r => (past.resolved r).append _⟩
    · refine ⟨fun c => ?_,fun r => (past.resolved ?_).append _⟩
      · rw [operate,eq] at c; cases c
      · rw [operate,eq] at r; exact r
  | manualReset =>
    obtain eq | ⟨answered,eq⟩ := manualReset_cases (e := e)
    · rw [operate,eq]
      exact ⟨fun c => (past.cancelled c).append _,fun r => (past.resolved r).append _⟩
    · -- The engine never shows a call state, so what allowed the reset was a cancel.
      have byCancel : e.snapshot.responseState = .cancelled := by
        have own := valid.settled.ownResponse
        simp only [lifecycle,List.mem_cons,List.not_mem_nil,or_false] at own answered
        rcases answered with h | h | h <;> simp [h] at own ⊢
      have cancelled := past.cancelled byCancel
      refine ⟨fun _ => cancelled.append _,fun _ => ⟨l,[],by simp,cancelled,?_⟩⟩
      rw [at_,succeeds,eq]
  | setDegraded d =>
    refine ⟨fun c => (past.cancelled c).append _,fun r => ?_⟩
    cases d <;> simp [operate,setDegraded,confirmed] at r


structure Retained (first : Engine R) (l : List (Operation R)) (e : Engine R) : Prop where
  sound : Sound e
  numbered : Numbered e
  kept : Kept first e
  began : e.snapshot.firstDetectionNs = first.snapshot.firstDetectionNs ∧
    e.snapshot.firstZone = first.snapshot.firstZone
  accounted : Accounted first l e
  required : 1 ≤ e.thresholds.persistenceRequiredFrames

theorem Retained.step (past : Retained first l (run operate first l))
    (kept : Kept first (operate (run operate first l) op)) :
    Retained first (l ++ [op]) (operate (run operate first l) op) := by
  have same := (kept_iff past.numbered past.sound past.kept).mp kept
  obtain ⟨_,_,time,zone⟩ := operate_confirmed past.kept.2 same
  exact ⟨operate_sound past.sound past.required,operate_numbered past.numbered,kept,
    ⟨time.trans past.began.1,zone.trans past.began.2⟩,past.accounted.step past.sound past.kept.2 same,
    by rw [operate_thresholds]; exact past.required⟩

theorem Retained.holds (start : Retained first [] first) (kept : Throughout operate (Kept first) first l) :
    Retained first l (run operate first l) := by
  induction l using List.reverseRecOn with
  | nil => exact start
  | append_singleton l op ih =>
    have past := ih fun earlier h => kept earlier (h.trans (List.prefix_append l [op]))
    have last := kept.last
    rw [run_snoc] at last ⊢
    exact past.step last

theorem Retained.peaksKept (start : Retained first [] first) (kept : Throughout operate (Kept first) first l) :
    Along operate (fun e op => PeaksKept e (operate e op)) first l := by
  refine along_iff.mpr ?_
  rintro earlier op later rfl
  have before := start.holds fun x h => kept x (h.trans (List.prefix_append _ _))
  have after := kept (earlier ++ [op]) (by simp)
  rw [run_snoc] at after
  exact operate_peaks ((kept_iff before.numbered before.sound before.kept).mp after)

theorem Retained.dropped (past : Retained first l (run operate first l))
    (dropped : ¬ Kept first (operate (run operate first l) op)) : Released first l := by
  have begun : opBegins (run operate first l) op = true := by
    by_contra idle
    exact dropped ((kept_iff past.numbered past.sound past.kept).mpr (by simpa using idle))
  cases op with
  | process f =>
    obtain ⟨_,_,starts⟩ := begins_parts begun
    simp only [startsIncident,Bool.or_eq_true,beq_iff_eq] at starts
    rcases starts with clear | resolved
    · have unconfirmed := past.sound.settled.unconfirmedHazard (by simp [lifecycle,clear])
      simp [lifecycle,past.kept.2] at unconfirmed
    · exact past.accounted.resolved resolved
  | _ => simp [opBegins] at begun

theorem confirming_retained (valid : Sound e) (numbered : Numbered e)
    (required : 1 ≤ e.thresholds.persistenceRequiredFrames) (sets : setsConfirmed e f = true) :
    Retained (process e f) [] (process e f) := by
  obtain ⟨h,shown,view⟩ := process_confirming sets
  have hazard := congrArg Lifecycle.hazardState view
  have response := congrArg Lifecycle.responseState view
  refine ⟨process_sound valid required,process_numbered numbered,⟨rfl,congrArg Lifecycle.wasConfirmed view⟩,⟨rfl,rfl⟩,
    ⟨fun cancelled => ?_,fun resolved => ?_⟩,?_⟩
  · simp only [lifecycle,cancelled] at response; cases response
  · simp only [lifecycle,resolved] at hazard
    simp [← hazard] at shown
  · rw [show process e f = operate e (.process f) from rfl,operate_thresholds]; exact required

-- From the frame that confirms: the step that drops the incident comes after a cancel and then a reset.
theorem confirmed_retained (deviceId bootId : String) (t : IncidentThresholds R)
    (bounds : 1 ≤ t.persistenceRequiredFrames ∧ t.persistenceRequiredFrames ≤ t.persistenceWindowFrames)
    (ops later : List (Operation R)) (f : FrameEvidence R)
    (sets : setsConfirmed (run operate (fresh deviceId bootId t) ops) f = true)
    (kept : Throughout operate (Kept (process (run operate (fresh deviceId bootId t) ops) f))
      (process (run operate (fresh deviceId bootId t) ops) f) later) :
    let first := process (run operate (fresh deviceId bootId t) ops) f
    first.snapshot.wasConfirmed = true ∧
    Throughout operate (fun e => e.snapshot.incidentId = first.snapshot.incidentId ∧
      e.snapshot.firstDetectionNs = first.snapshot.firstDetectionNs ∧
      e.snapshot.firstZone = first.snapshot.firstZone) first later ∧
    Along operate (fun e op => PeaksKept e (operate e op)) first later ∧
    ∀ last, ¬ Kept first (operate (run operate first later) last) → Released first later := by
  obtain ⟨valid,same⟩ := run_sound deviceId bootId t bounds.1 ops
  have numbered : Numbered (run operate (fresh deviceId bootId t) ops) :=
    invariant Numbered (fun _ _ valid => operate_numbered valid) (by simp [Numbered,fresh,emptySnapshot])
  have start := confirming_retained valid numbered (by rw [same]; exact bounds.1) sets
  refine ⟨start.kept.2,fun earlier h => ?_,start.peaksKept kept,fun last dropped => (start.holds kept).dropped dropped⟩
  have past := start.holds fun x hx => kept x (hx.trans h)
  exact ⟨past.kept.1,past.began⟩

-- Nine strong frames confirm; the frame after a cancel and a reset is another incident's.
theorem sustained_released :
    Released (process (run operate (fresh "device" "sustained" defaultThresholds) (sustained.take 8)) (frame 9 2000 0.80))
      [.cancel "testing",.manualReset] := by
  refine (confirmed_retained "device" "sustained" (defaultThresholds (R := ℚ)) ⟨by decide,by decide⟩ (sustained.take 8)
    [.cancel "testing",.manualReset] (frame 9 2000 0.80) (by decide +kernel) ?_).2.2.2 (.process (frame 10 2250 0.80)) ?_
  · refine throughout_cons.mpr ⟨?_,throughout_cons.mpr ⟨?_,throughout_nil.mpr ?_⟩⟩ <;> unfold Kept <;> decide +kernel
  · unfold Kept; decide +kernel

end Ignis.IncidentEngine
