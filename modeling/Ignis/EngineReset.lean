import Ignis.EngineRetention

namespace Ignis.IncidentEngine
open Runs
variable {R : Type} [Double R] {e s : Engine R} {f : FrameEvidence R} {frames earlier : List (FrameEvidence R)}

def sighted (e : Engine R) (f : FrameEvidence R) : Bool := accepts e f && relevant e.thresholds f
def Unseen (e : Engine R) (frames : List (FrameEvidence R)) : Prop :=
  Along process (fun s f => sighted s f = false) e frames

-- The frame is the first of a new incident: `begin_incident` runs on it, starting
-- unconfirmed and idle under another name, and that name is on show after the frame.
structure BeginsAnew (s : Engine R) (f : FrameEvidence R) : Prop where
  begun : begins s f = true
  unconfirmed : (beginIncident s f).snapshot.wasConfirmed = false
  idle : (beginIncident s f).snapshot.responseState = .idle
  renamed : (beginIncident s f).snapshot.incidentId ≠ s.snapshot.incidentId
  shown : (process s f).snapshot.incidentId = (beginIncident s f).snapshot.incidentId

def EndedByReset (e : Engine R) (frames : List (FrameEvidence R)) : Prop :=
  ∀ earlier, earlier <+: frames → Unseen e earlier →
    (run process e earlier).snapshot.hazardState = .resolved ∧
    ∀ f, earlier ++ [f] <+: frames → sighted (run process e earlier) f = true →
      BeginsAnew (run process e earlier) f

def WithinGrace (e : Engine R) (frames : List (FrameEvidence R)) : Prop :=
  ∀ earlier f, earlier ++ [f] <+: frames → Unseen e (earlier ++ [f]) →
    accepts (run process e earlier) f = true → signatureGone e f.monotonicNs = false

structure Waiting (e s : Engine R) : Prop where
  numbered : Numbered s
  confirmed : s.snapshot.wasConfirmed = true
  running : s.degraded = false
  lastRelevant : s.lastRelevantNs = e.lastRelevantNs
  thresholds : s.thresholds = e.thresholds

section
omit [Double R]

theorem Waiting.gone (waiting : Waiting e s) (now : UInt64) : signatureGone s now = signatureGone e now := by
  rw [signatureGone,waiting.lastRelevant,waiting.thresholds,signatureGone]

end

theorem unseen_lifecycle (waiting : Waiting e s) (unseen : sighted s f = false) :
    lifecycle (process s f) = if accepts s f && signatureGone e f.monotonicNs
      then {lifecycle s with hazardState := .visualSignatureLost} else lifecycle s := by
  cases taken : accepts s f
  · simp [process,taken]
  · have missing : relevant s.thresholds f = false := by simpa [sighted,taken] using unseen
    have live : evaluated s f = true := by simp [evaluated,taken,waiting.running]
    have view := decided_confirmed f.monotonicNs waiting.confirmed (f := f) (by rw [missing]; rfl)
    have stays : (decideConfirmation (judged s f) f.monotonicNs).snapshot.wasConfirmed = true :=
      (congrArg Lifecycle.wasConfirmed view).trans waiting.confirmed
    have frame : decideConfirmation (judged s f) f.monotonicNs =
        {gathered s f with snapshot := (decideConfirmation (judged s f) f.monotonicNs).snapshot} := by
      rw [decided_snapshot,judged_snapshot]
    have missingLater : relevant (decideConfirmation (judged s f) f.monotonicNs).thresholds f = false := by
      rw [frame]; exact gathered_thresholds (e := s) (f := f) ▸ missing
    have gone : signatureGone (decideConfirmation (judged s f) f.monotonicNs) f.monotonicNs =
        signatureGone e f.monotonicNs := by
      rw [← waiting.gone,signatureGone,frame]
      simp only [gathered_lastRelevant,gathered_thresholds,missing,signatureGone,Bool.false_eq_true,if_false]
    rw [process_evaluated live,lifecycle_settled,view,missingLater,gone,stays]
    simp

theorem unseen_waiting (waiting : Waiting e s) (unseen : sighted s f = false) : Waiting e (process s f) := by
  have confirmed : (process s f).snapshot.wasConfirmed = true := by
    have view := congrArg Lifecycle.wasConfirmed (unseen_lifecycle waiting unseen)
    split at view <;> exact view.trans waiting.confirmed
  have numbered := process_numbered (f := f) waiting.numbered
  obtain same | ⟨down,_⟩ | ⟨live,_⟩ := process_cases (e := s) (f := f)
  · rwa [same]
  · simp [waiting.running] at down
  · have missing : relevant s.thresholds f = false := by
      simp only [evaluated,Bool.and_eq_true] at live
      simpa [sighted,live.1] using unseen
    refine ⟨numbered,confirmed,?_,?_,?_⟩ <;> rw [evaluated_snapshot live]
    · exact gathered_degraded.trans waiting.running
    · exact (gathered_lastRelevant.trans (by simp [missing])).trans waiting.lastRelevant
    · exact gathered_thresholds.trans waiting.thresholds

theorem unseen_run (waiting : Waiting e s) (unseen : Unseen s frames) : Waiting e (run process s frames) :=
  invariant_along (Waiting e) (fun _ _ missing waiting => unseen_waiting waiting missing) waiting unseen

theorem begins_anew (numbered : Numbered s) (begun : begins s f = true) : BeginsAnew s f := by
  refine ⟨begun,rfl,rfl,fun same => ?_,begins_name begun⟩
  by_cases named : s.snapshot.incidentId = ""
  · exact incidentName_ne _ _ _ (same.trans named)
  · exact successor_name (same.trans (numbered named))

theorem sighting_begins (waiting : Waiting e s) (resolved : s.snapshot.hazardState = .resolved)
    (sighting : sighted s f = true) : BeginsAnew s f := by
  obtain ⟨taken,seen⟩ : accepts s f = true ∧ relevant s.thresholds f = true := by simpa [sighted] using sighting
  refine begins_anew waiting.numbered ?_
  simp [begins,evaluated,taken,waiting.running,seen,startsIncident,resolved]

-- From a resolved engine the two conditions are the same: the only way out of
-- `Resolved` before a sighting is the grace period of the incident that was reset.
theorem ended_iff (waiting : Waiting e e) (resolved : e.snapshot.hazardState = .resolved) :
    EndedByReset e frames ↔ WithinGrace e frames := by
  constructor
  · intro ended earlier f inside unseen taken
    obtain ⟨before,missing⟩ := along_snoc.mp unseen
    have waits := unseen_run waiting before
    have stays := (ended (earlier ++ [f]) inside unseen).1
    have view := congrArg Lifecycle.hazardState (unseen_lifecycle waits missing)
    rw [run_snoc] at stays
    cases gone : signatureGone e f.monotonicNs
    · rfl
    · rw [taken,gone] at view
      exact absurd (view.symm.trans stays) (by simp)
  · intro within earlier inside unseen
    have stays : (run process e earlier).snapshot.hazardState = .resolved := by
      induction earlier using List.reverseRecOn with
      | nil => exact resolved
      | append_singleton earlier f ih =>
        obtain ⟨before,missing⟩ := along_snoc.mp unseen
        have now := ih ((List.prefix_append _ _).trans inside) before
        have view := congrArg Lifecycle.hazardState (unseen_lifecycle (unseen_run waiting before) missing)
        rw [run_snoc]
        cases taken : accepts (run process e earlier) f
        · rw [taken] at view; exact view.trans now
        · rw [within earlier f inside unseen taken,taken] at view; exact view.trans now
    exact ⟨stays,fun f _ sighting => sighting_begins (unseen_run waiting unseen) stays sighting⟩

def Answerable (l : Lifecycle) : Prop := l.wasConfirmed = true ↔ l.responseState ≠ .idle

theorem process_answerable (valid : Answerable (lifecycle e)) : Answerable (lifecycle (process e f)) := by
  obtain same | ⟨_,same⟩ | ⟨_,same⟩ := process_cases (e := e) (f := f)
  · rwa [same]
  · rw [same]; exact valid
  · have gatheredView : Answerable (lifecycle (gathered e f)) := by
      rw [lifecycle_gathered]
      split
      · simp [Answerable,opened]
      · exact valid
    have judgedView : Answerable (lifecycle (judged e f)) := by
      rw [lifecycle_judged]; split <;> exact gatheredView
    have decidedView : Answerable (lifecycle (decideConfirmation (judged e f) f.monotonicNs)) := by
      rw [lifecycle_decided]
      split
      · simp [Answerable]
      · exact judgedView
    rw [same,lifecycle_settled]
    split
    · split
      · exact decidedView
      · rename_i unconfirmed; simpa [Answerable,lifecycle] using unconfirmed
    · split <;> exact decidedView

theorem operate_answerable {op : Operation R} (valid : Answerable (lifecycle e)) :
    Answerable (lifecycle (operate e op)) := by
  cases op with
  | process f => exact process_answerable valid
  | cancel reason =>
    obtain same | ⟨confirmed,same⟩ := cancel_cases e reason <;> rw [operate,same]
    · exact valid
    · simpa [Answerable,lifecycle] using confirmed
  | confirmOccupant =>
    obtain same | ⟨confirmed,_,same⟩ := confirmOccupant_cases (e := e) <;> rw [operate,same]
    · exact valid
    · simpa [Answerable,lifecycle] using confirmed
  | manualReset => obtain same | ⟨_,same⟩ := manualReset_cases (e := e) <;> rw [operate,same] <;> exact valid
  | setDegraded d => exact valid

-- After a reset that succeeds outside an outage, exactly when no frame before the next sighting comes the grace
-- period or more after the last relevant frame.
theorem reset_ends_iff (deviceId bootId : String) (t : IncidentThresholds R) (ops : List (Operation R))
    (frames : List (FrameEvidence R))
    (success : (manualReset (run operate (fresh deviceId bootId t) ops)).2 = true)
    (running : (run operate (fresh deviceId bootId t) ops).degraded = false) :
    EndedByReset (manualReset (run operate (fresh deviceId bootId t) ops)).1 frames ↔
      WithinGrace (manualReset (run operate (fresh deviceId bootId t) ops)).1 frames := by
  have answerable : Answerable (lifecycle (run operate (fresh deviceId bootId t) ops)) :=
    invariant (fun e => Answerable (lifecycle e)) (fun _ _ valid => operate_answerable valid)
      (by simp [Answerable,lifecycle,fresh,emptySnapshot])
  have numbered : Numbered (run operate (fresh deviceId bootId t) ops) :=
    invariant Numbered (fun _ _ valid => operate_numbered valid) (by simp [Numbered,fresh,emptySnapshot])
  generalize run operate (fresh deviceId bootId t) ops = e at *
  obtain same | ⟨answered,same⟩ := manualReset_cases (e := e)
  · simp [same] at success
  · have confirmed : e.snapshot.wasConfirmed = true :=
      answerable.mpr fun idle => by simp [show e.snapshot.responseState = .idle from idle] at answered
    rw [same]
    exact ended_iff ⟨numbered,confirmed,running,rfl,rfl⟩ rfl

-- The engine of the tests, confirmed and cancelled, and the two frames that follow its reset.
def controlled : Engine ℚ :=
  run operate (fresh "device" "sustained" defaultThresholds) (sustained ++ [.cancel "controlled flame"])

theorem controlled_reset :
    EndedByReset (manualReset controlled).1 [frame 10 3900 0,frame 11 4200 0.80] ↔
      WithinGrace (manualReset controlled).1 [frame 10 3900 0,frame 11 4200 0.80] := by
  unfold controlled
  apply reset_ends_iff
  · decide +kernel
  · decide +kernel

-- One empty frame after the grace period, and the next fire joins the cancelled incident.
theorem reset_slips : (manualReset controlled).2 = true ∧ controlled.degraded = false ∧
    ¬ EndedByReset (manualReset controlled).1 [frame 10 4100 0,frame 11 4200 0.80] ∧
    (run process (manualReset controlled).1 [frame 10 4100 0,frame 11 4200 0.80]).snapshot.incidentId =
      controlled.snapshot.incidentId ∧
    (run process (manualReset controlled).1 [frame 10 4100 0,frame 11 4200 0.80]).snapshot.responseState = .cancelled := by
  refine ⟨by decide +kernel,by decide +kernel,fun ended => ?_,by decide +kernel,by decide +kernel⟩
  have unseen : Unseen (manualReset controlled).1 [frame 10 4100 0] := by unfold Unseen; decide +kernel
  have lost : (run process (manualReset controlled).1 [frame 10 4100 0]).snapshot.hazardState = .visualSignatureLost := by
    decide +kernel
  have stays := (ended [frame 10 4100 0] (by simp) unseen).1
  rw [lost] at stays
  cases stays

end Ignis.IncidentEngine
