import Ignis.IncidentEngine

namespace Ignis.IncidentEngine
open Runs
variable {R : Type} [Double R] {e : Engine R} {f : FrameEvidence R} {now : UInt64} {op : Operation R}

-- What the snapshot says about which incident is open and how far it has come;
-- the measurements beside it (peaks, growth, timing) never decide any of this.
structure Lifecycle where
  incidentId : String
  hazardState : HazardState
  responseState : ResponseState
  wasConfirmed : Bool
  firstDetectionNs : UInt64
  firstZone : String

def lifecycle (e : Engine R) : Lifecycle :=
  ⟨e.snapshot.incidentId,e.snapshot.hazardState,e.snapshot.responseState,e.snapshot.wasConfirmed,
    e.snapshot.firstDetectionNs,e.snapshot.firstZone⟩

def opened (e : Engine R) (f : FrameEvidence R) : Lifecycle :=
  ⟨incidentName e.deviceId e.bootId (e.incidentCounter + 1),.suspected,.idle,false,f.monotonicNs,f.zone⟩

section
omit [Double R]

-- One equation for each stage of `process`. Later proofs see a stage through it.
@[simp] theorem lifecycle_pushWindow : lifecycle (pushWindow e f) = lifecycle e := rfl

end

@[simp] theorem lifecycle_begin : lifecycle (beginIncident e f) = opened e f := rfl
@[simp] theorem lifecycle_accumulate : lifecycle (accumulate e f) = lifecycle e := rfl
@[simp] theorem lifecycle_growth : lifecycle (updateGrowth e now) = lifecycle e := rfl
@[simp] theorem lifecycle_sequence : lifecycle (updateSequenceObservation e) = lifecycle e := rfl
@[simp] theorem lifecycle_elapsed : lifecycle (refreshElapsed e now) = lifecycle e := by
  unfold refreshElapsed; split <;> rfl

theorem lifecycle_absorb : lifecycle (absorb e f) =
    if relevant e.thresholds f && startsIncident e then opened e f else lifecycle e := by
  have starts : startsIncident {e with lastRelevantNs := f.monotonicNs} = startsIncident e := rfl
  unfold absorb
  cases relevant e.thresholds f
  · rfl
  · simp only [if_true,lifecycle_accumulate,starts,Bool.true_and]
    split <;> rfl

theorem lifecycle_gathered : lifecycle (gathered e f) =
    if relevant e.thresholds f && startsIncident e then opened e f else lifecycle e := by
  rw [gathered,lifecycle_elapsed,lifecycle_absorb]
  rfl

theorem lifecycle_judged : lifecycle (judged e f) =
    if persists (gathered e f) then {lifecycle (gathered e f) with hazardState := .verifying}
    else lifecycle (gathered e f) := by
  rw [judged,lifecycle_sequence,lifecycle_growth,markVerifying]
  split <;> rfl

theorem lifecycle_decided (e : Engine R) (now : UInt64) : lifecycle (decideConfirmation e now) =
    if confirms e now then
      {lifecycle e with hazardState := .confirmed, responseState := .awaitingResponse, wasConfirmed := true}
    else lifecycle e := by
  unfold decideConfirmation; split <;> rfl

theorem lifecycle_settled : lifecycle (settle e f) =
    if !relevant e.thresholds f && signatureGone e f.monotonicNs then
      if e.snapshot.wasConfirmed then {lifecycle e with hazardState := .visualSignatureLost}
      else {lifecycle e with hazardState := .clear, responseState := .idle}
    else if relevant e.thresholds f && e.snapshot.wasConfirmed &&
        e.snapshot.hazardState == .visualSignatureLost then {lifecycle e with hazardState := .confirmed}
    else lifecycle e := by
  unfold settle; repeat' split
  all_goals rfl

theorem judged_snapshot : judged e f = {gathered e f with snapshot := (judged e f).snapshot} := by
  unfold judged markVerifying; split <;> rfl
theorem decided_snapshot : decideConfirmation e now = {e with snapshot := (decideConfirmation e now).snapshot} := by
  unfold decideConfirmation; split <;> rfl
theorem settled_snapshot : settle e f = {e with snapshot := (settle e f).snapshot} := by
  unfold settle; repeat' split
  all_goals rfl

theorem elapsed_snapshot : refreshElapsed e now = {e with snapshot := (refreshElapsed e now).snapshot} := by
  unfold refreshElapsed; split <;> rfl

theorem absorb_frame : (absorb e f).window = e.window ∧ (absorb e f).thresholds = e.thresholds ∧
    (absorb e f).degraded = e.degraded := by
  unfold absorb
  cases relevant e.thresholds f
  · exact ⟨rfl,rfl,rfl⟩
  · simp only [if_true]; split <;> exact ⟨rfl,rfl,rfl⟩

theorem gathered_window : (gathered e f).window =
    (e.window ++ [f]).drop ((e.window ++ [f]).length - e.thresholds.persistenceWindowFrames) := by
  rw [gathered,elapsed_snapshot]; exact absorb_frame.1
theorem gathered_thresholds : (gathered e f).thresholds = e.thresholds := by
  rw [gathered,elapsed_snapshot]; exact absorb_frame.2.1
theorem gathered_degraded : (gathered e f).degraded = e.degraded := by
  rw [gathered,elapsed_snapshot]; exact absorb_frame.2.2

theorem gathered_lastRelevant : (gathered e f).lastRelevantNs =
    if relevant e.thresholds f then f.monotonicNs else e.lastRelevantNs := by
  have absorbed : ∀ g : Engine R, (absorb g f).lastRelevantNs =
      if relevant g.thresholds f then f.monotonicNs else g.lastRelevantNs := by
    intro g
    unfold absorb
    cases relevant g.thresholds f
    · rfl
    · simp only [if_true]; split <;> rfl
  rw [gathered,elapsed_snapshot]
  exact absorbed (pushWindow {e with lastSequence := f.sequence} f)

theorem process_cases : process e f = e ∨
    (e.degraded = true ∧ process e f = {e with
      lastSequence := f.sequence
      snapshot := {e.snapshot with hazardState := .degraded, updatedNs := f.monotonicNs}}) ∨
    (evaluated e f = true ∧
      process e f = settle (decideConfirmation (judged e f) f.monotonicNs) f) := by
  unfold process evaluated
  cases accepts e f
  · exact .inl rfl
  · cases live : e.degraded
    · exact .inr (.inr ⟨rfl,rfl⟩)
    · exact .inr (.inl ⟨rfl,rfl⟩)

theorem process_evaluated (live : evaluated e f = true) :
    process e f = settle (decideConfirmation (judged e f) f.monotonicNs) f := by
  obtain ⟨accepted,running⟩ : accepts e f = true ∧ e.degraded = false := by simpa [evaluated] using live
  simp [process,accepted,running]

theorem evaluated_snapshot (live : evaluated e f = true) :
    process e f = {gathered e f with snapshot := (process e f).snapshot} := by
  rw [process_evaluated live,settled_snapshot,decided_snapshot,judged_snapshot]

structure Consistent (l : Lifecycle) : Prop where
  confirmedResponse : l.wasConfirmed = true ↔ l.responseState ≠ .idle
  confirmedHazard : l.hazardState ∈ [.confirmed,.visualSignatureLost,.resolved] → l.wasConfirmed = true
  unconfirmedHazard : l.hazardState ∈ [.clear,.suspected,.verifying] → l.wasConfirmed = false
  named : l.hazardState ∈ [.suspected,.verifying,.confirmed,.visualSignatureLost,.resolved] → l.incidentId ≠ ""

-- Carried along with it: a confirmation has a name even during an outage, and the
-- engine itself never moves the response into one of the call states.
structure Settled (l : Lifecycle) : Prop extends Consistent l where
  confirmedNamed : l.wasConfirmed = true → l.incidentId ≠ ""
  ownResponse : l.responseState ∈ [.idle,.awaitingResponse,.cancelled,.escalating]

structure Sound (e : Engine R) : Prop where
  settled : Settled (lifecycle e)
  outage : e.snapshot.hazardState = .degraded → e.degraded = true
  evidenceNamed : 0 < persistenceCount e → e.snapshot.incidentId ≠ ""

theorem fresh_sound (deviceId bootId : String) (t : IncidentThresholds R) : Sound (fresh deviceId bootId t) := by
  refine ⟨⟨⟨?_,?_,?_,?_⟩,?_,?_⟩,?_,?_⟩ <;> simp [fresh,emptySnapshot,lifecycle,persistenceCount]

theorem incidentName_ne (deviceId bootId : String) (counter : UInt64) : incidentName deviceId bootId counter ≠ "" := by
  intro empty
  have length := congrArg String.length empty
  simp [incidentName] at length

section
omit [Double R]

theorem opened_settled : Settled (opened e f) := by
  have named := incidentName_ne e.deviceId e.bootId (e.incidentCounter + 1)
  refine ⟨⟨?_,?_,?_,?_⟩,?_,?_⟩ <;> simp [opened,named]

end

theorem Settled.verify {l : Lifecycle} (valid : Settled l) (unconfirmed : l.wasConfirmed = false)
    (named : l.incidentId ≠ "") : Settled {l with hazardState := .verifying} := by
  refine ⟨⟨valid.confirmedResponse,?_,?_,?_⟩,valid.confirmedNamed,valid.ownResponse⟩ <;> simp [unconfirmed,named]

theorem Settled.confirm {l : Lifecycle} (named : l.incidentId ≠ "") : Settled
    {l with hazardState := .confirmed, responseState := .awaitingResponse, wasConfirmed := true} := by
  refine ⟨⟨?_,?_,?_,?_⟩,?_,?_⟩ <;> simp [named]

theorem Settled.showing {l : Lifecycle} (valid : Settled l) (confirmed : l.wasConfirmed = true)
    (shown : h ∈ [HazardState.confirmed,.visualSignatureLost,.resolved,.degraded]) :
    Settled {l with hazardState := h} := by
  have named := valid.confirmedNamed confirmed
  refine ⟨⟨valid.confirmedResponse,?_,?_,?_⟩,valid.confirmedNamed,valid.ownResponse⟩
  · simp [confirmed]
  · intro early; simp only [List.mem_cons,List.not_mem_nil,or_false] at shown early
    rcases shown with rfl | rfl | rfl | rfl <;> simp at early
  · simp [named]

theorem Settled.clear {l : Lifecycle} (valid : Settled l) (unconfirmed : l.wasConfirmed = false) :
    Settled {l with hazardState := .clear, responseState := .idle} := by
  refine ⟨⟨?_,?_,?_,?_⟩,valid.confirmedNamed,?_⟩ <;> simp [unconfirmed]

theorem Settled.respond {l : Lifecycle} (valid : Settled l) (confirmed : l.wasConfirmed = true)
    (answer : r ∈ [ResponseState.cancelled,.escalating]) : Settled {l with responseState := r} := by
  have named := valid.confirmedNamed confirmed
  have taken : r ≠ .idle ∧ r ∈ [ResponseState.idle,.awaitingResponse,.cancelled,.escalating] := by
    simp only [List.mem_cons,List.not_mem_nil,or_false] at answer
    rcases answer with rfl | rfl <;> simp
  refine ⟨⟨?_,valid.confirmedHazard,valid.unconfirmedHazard,valid.named⟩,valid.confirmedNamed,taken.2⟩
  simp [confirmed,taken.1]

theorem Settled.degrade {l : Lifecycle} (valid : Settled l) : Settled {l with hazardState := .degraded} := by
  refine ⟨⟨valid.confirmedResponse,?_,?_,?_⟩,valid.confirmedNamed,valid.ownResponse⟩ <;> simp

theorem persistence_dropped (keep : Nat) :
    ((e.window ++ [f]).drop keep).countP (relevant e.thresholds) ≤
      persistenceCount e + if relevant e.thresholds f then 1 else 0 := by
  have fewer := (List.drop_sublist keep (e.window ++ [f])).countP_le (p := relevant e.thresholds)
  simpa [persistenceCount,List.countP_append,List.countP_singleton] using fewer

theorem gathered_count : persistenceCount (gathered e f) ≤
    persistenceCount e + if relevant e.thresholds f then 1 else 0 := by
  rw [persistenceCount,gathered_thresholds,gathered_window]
  exact persistence_dropped _

theorem Sound.showing (valid : Sound e) (live : e.degraded = false) (busy : startsIncident e = false) :
    e.snapshot.incidentId ≠ "" := by
  apply valid.settled.named
  have outage : e.snapshot.hazardState ≠ .degraded := fun shown => by
    simp [valid.outage shown] at live
  simp only [startsIncident,Bool.or_eq_false_iff,beq_eq_false_iff_ne] at busy
  cases shown : e.snapshot.hazardState <;> simp_all [lifecycle]

theorem gathered_sound (valid : Sound e) (live : e.degraded = false) : Sound (gathered e f) := by
  have view := lifecycle_gathered (e := e) (f := f)
  cases starts : relevant e.thresholds f && startsIncident e
  · have kept : lifecycle (gathered e f) = lifecycle e := by simpa [starts] using view
    refine ⟨kept ▸ valid.settled,?_,?_⟩
    · intro shown
      rw [gathered_degraded]
      exact valid.outage (by rw [← shown]; exact (congrArg Lifecycle.hazardState kept).symm)
    · intro evidence
      have name : (gathered e f).snapshot.incidentId = e.snapshot.incidentId := congrArg Lifecycle.incidentId kept
      rw [name]
      cases seen : relevant e.thresholds f
      · exact valid.evidenceNamed (by simpa [seen] using Nat.lt_of_lt_of_le evidence gathered_count)
      · exact valid.showing live (by simpa [seen] using starts)
  · have fresh : lifecycle (gathered e f) = opened e f := by simpa [starts] using view
    refine ⟨fresh ▸ opened_settled,?_,?_⟩
    · intro shown
      have suspected : (gathered e f).snapshot.hazardState = .suspected := congrArg Lifecycle.hazardState fresh
      simp [suspected] at shown
    · intro _
      have name : (gathered e f).snapshot.incidentId = (opened e f).incidentId := congrArg Lifecycle.incidentId fresh
      rw [name]
      exact incidentName_ne _ _ _

theorem Sound.restate (valid : Sound e) (s : IncidentSnapshot R) (name : s.incidentId = e.snapshot.incidentId)
    (settled : Settled (lifecycle {e with snapshot := s}))
    (running : s.hazardState = .degraded → e.snapshot.hazardState = .degraded) :
    Sound {e with snapshot := s} :=
  ⟨settled,fun shown => valid.outage (running shown),fun evidence => by
    rw [show ({e with snapshot := s} : Engine R).snapshot.incidentId = e.snapshot.incidentId from name]
    exact valid.evidenceNamed evidence⟩

theorem judged_sound (valid : Sound (gathered e f)) (required : 1 ≤ e.thresholds.persistenceRequiredFrames) :
    Sound (judged e f) := by
  have view := lifecycle_judged (e := e) (f := f)
  have name : (judged e f).snapshot.incidentId = (gathered e f).snapshot.incidentId := by
    have same := congrArg Lifecycle.incidentId view
    split at same <;> exact same
  rw [judged_snapshot]
  refine valid.restate _ name ?_ ?_
  · rw [← judged_snapshot,view]
    split
    · rename_i enough
      simp only [persists,gathered_thresholds,Bool.and_eq_true,Bool.not_eq_true',decide_eq_true_eq] at enough
      exact valid.settled.verify enough.1 (valid.evidenceNamed (by omega))
    · exact valid.settled
  · intro shown
    have same := congrArg Lifecycle.hazardState view
    split at same
    · rw [show (lifecycle (judged e f)).hazardState = .degraded from shown] at same; cases same
    · exact same.symm.trans shown

theorem decided_sound (valid : Sound e) : Sound (decideConfirmation e now) := by
  have view := lifecycle_decided e now
  have name : (decideConfirmation e now).snapshot.incidentId = e.snapshot.incidentId := by
    have same := congrArg Lifecycle.incidentId view
    split at same <;> exact same
  rw [decided_snapshot]
  refine valid.restate _ name ?_ ?_
  · rw [← decided_snapshot,view]
    split
    · rename_i confirming
      simp only [confirms,Bool.and_eq_true,Bool.not_eq_true',beq_iff_eq] at confirming
      exact .confirm (valid.settled.named (by simp [lifecycle,confirming.1.2]))
    · exact valid.settled
  · intro shown
    have same := congrArg Lifecycle.hazardState view
    split at same
    · rw [show (lifecycle (decideConfirmation e now)).hazardState = .degraded from shown] at same; cases same
    · exact same.symm.trans shown

theorem settle_sound (valid : Sound e) : Sound (settle e f) := by
  have view := lifecycle_settled (e := e) (f := f)
  have name : (settle e f).snapshot.incidentId = e.snapshot.incidentId := by
    have same := congrArg Lifecycle.incidentId view
    repeat' split at same
    all_goals exact same
  rw [settled_snapshot]
  refine valid.restate _ name ?_ ?_
  · rw [← settled_snapshot,view]
    split
    · split
      · rename_i confirmed; exact valid.settled.showing confirmed (by simp)
      · rename_i unconfirmed; exact valid.settled.clear (Bool.eq_false_iff.mpr unconfirmed)
    · split
      · rename_i back
        simp only [Bool.and_eq_true] at back
        exact valid.settled.showing back.1.2 (by simp)
      · exact valid.settled
  · intro shown
    have same := congrArg Lifecycle.hazardState view
    rw [show (lifecycle (settle e f)).hazardState = .degraded from shown] at same
    repeat' split at same
    all_goals first | cases same | exact same.symm

theorem process_sound (valid : Sound e) (required : 1 ≤ e.thresholds.persistenceRequiredFrames) :
    Sound (process e f) := by
  obtain same | ⟨down,same⟩ | ⟨live,same⟩ := process_cases (e := e) (f := f)
  · rwa [same]
  · rw [same]
    exact ⟨valid.settled.degrade,fun _ => down,valid.evidenceNamed⟩
  · rw [same]
    have running : e.degraded = false := by
      simp only [evaluated,Bool.and_eq_true,Bool.not_eq_true'] at live; exact live.2
    exact settle_sound (decided_sound (judged_sound (gathered_sound valid running) required))

theorem setDegraded_sound (valid : Sound e) (d : Bool) : Sound (setDegraded e d) := by
  refine ⟨?_,?_,valid.evidenceNamed⟩
  · cases d
    · cases confirmed : e.snapshot.wasConfirmed
      · have idle : e.snapshot.responseState = .idle := by
          by_contra busy
          have := valid.settled.confirmedResponse.mpr busy
          simp [lifecycle,confirmed] at this
        have cleared := valid.settled.clear confirmed
        simpa [setDegraded,lifecycle,confirmed,idle] using cleared
      · have shown := valid.settled.showing (h := .confirmed) confirmed (by simp)
        simpa [setDegraded,lifecycle,confirmed] using shown
    · exact valid.settled.degrade
  · cases d
    · cases confirmed : e.snapshot.wasConfirmed <;> simp [setDegraded,confirmed]
    · simp [setDegraded]

section
omit [Double R]

theorem cancel_cases (e : Engine R) (reason : String) : cancel e reason = (e,false) ∨ (e.snapshot.wasConfirmed = true ∧
    cancel e reason = ({e with snapshot := {e.snapshot with responseState := .cancelled}},true)) := by
  unfold cancel
  split
  · exact .inl rfl
  · rename_i free
    exact .inr ⟨by simp at free; exact free.1.1,rfl⟩

theorem confirmOccupant_cases : confirmOccupant e = (e,false) ∨
    (e.snapshot.wasConfirmed = true ∧ e.snapshot.responseState ≠ .cancelled ∧
      confirmOccupant e = ({e with snapshot := {e.snapshot with responseState := .escalating}},true)) := by
  unfold confirmOccupant
  split
  · exact .inl rfl
  · rename_i free
    simp at free
    exact .inr ⟨free.1,free.2,rfl⟩

theorem manualReset_cases : manualReset e = (e,false) ∨
    (e.snapshot.responseState ∈ [.cancelled,.callCompleted,.callFailed] ∧
      manualReset e = ({e with snapshot := {e.snapshot with hazardState := .resolved}, window := []},true)) := by
  unfold manualReset
  split
  · exact .inl rfl
  · rename_i answered
    refine .inr ⟨?_,rfl⟩
    simp only [Bool.and_eq_true,bne_iff_ne,ne_eq,not_and_or,not_not] at answered
    simpa [or_assoc] using answered

end

theorem Sound.confirmed_of_response (valid : Sound e) (busy : e.snapshot.responseState ≠ .idle) :
    e.snapshot.wasConfirmed = true := valid.settled.confirmedResponse.mpr busy

theorem operate_thresholds : (operate e op).thresholds = e.thresholds := by
  cases op with
  | process f =>
    show (process e f).thresholds = _
    obtain same | ⟨_,same⟩ | ⟨live,_⟩ := process_cases (e := e) (f := f)
    · rw [same]
    · rw [same]
    · rw [evaluated_snapshot live]; exact gathered_thresholds
  | cancel reason => obtain same | ⟨_,same⟩ := cancel_cases e reason <;> simp [operate,same]
  | confirmOccupant => obtain same | ⟨_,_,same⟩ := confirmOccupant_cases (e := e) <;> simp [operate,same]
  | manualReset => obtain same | ⟨_,same⟩ := manualReset_cases (e := e) <;> simp [operate,same]
  | setDegraded d => rfl

theorem operate_sound (valid : Sound e) (required : 1 ≤ e.thresholds.persistenceRequiredFrames) :
    Sound (operate e op) := by
  cases op with
  | process f => exact process_sound valid required
  | cancel reason =>
    obtain same | ⟨confirmed,same⟩ := cancel_cases e reason
    · simpa [operate,same] using valid
    · rw [operate,same]
      exact ⟨valid.settled.respond confirmed (by simp),valid.outage,valid.evidenceNamed⟩
  | confirmOccupant =>
    obtain same | ⟨confirmed,_,same⟩ := confirmOccupant_cases (e := e)
    · simpa [operate,same] using valid
    · rw [operate,same]
      exact ⟨valid.settled.respond confirmed (by simp),valid.outage,valid.evidenceNamed⟩
  | manualReset =>
    obtain same | ⟨answered,same⟩ := manualReset_cases (e := e)
    · simpa [operate,same] using valid
    · have confirmed := valid.confirmed_of_response (fun idle => by simp [idle] at answered)
      rw [operate,same]
      exact ⟨valid.settled.showing confirmed (by simp),by simp,by simp [persistenceCount]⟩
  | setDegraded d => exact setDegraded_sound valid d

theorem run_sound (deviceId bootId : String) (t : IncidentThresholds R)
    (required : 1 ≤ t.persistenceRequiredFrames) (ops : List (Operation R)) :
    Sound (run operate (fresh deviceId bootId t) ops) ∧
      (run operate (fresh deviceId bootId t) ops).thresholds = t := by
  refine invariant (fun e => Sound e ∧ e.thresholds = t) ?_ ⟨fresh_sound deviceId bootId t,rfl⟩
  rintro e op ⟨valid,same⟩
  exact ⟨operate_sound valid (same ▸ required),operate_thresholds.trans same⟩

theorem decided_confirmed (now : UInt64) (confirmed : e.snapshot.wasConfirmed = true)
    (idle : (relevant e.thresholds f && startsIncident e) = false) :
    lifecycle (decideConfirmation (judged e f) now) = lifecycle e := by
  have kept : lifecycle (gathered e f) = lifecycle e := by rw [lifecycle_gathered,idle]; rfl
  have gatheredConfirmed : (gathered e f).snapshot.wasConfirmed = true :=
    (congrArg Lifecycle.wasConfirmed kept).trans confirmed
  have view : lifecycle (judged e f) = lifecycle e := by
    rw [lifecycle_judged,persists,gatheredConfirmed]; simpa using kept
  have judgedConfirmed : (judged e f).snapshot.wasConfirmed = true :=
    (congrArg Lifecycle.wasConfirmed view).trans confirmed
  rw [lifecycle_decided,confirms,judgedConfirmed]
  simpa using view

-- Until the next incident begins, a frame changes no more of a confirmed one than
-- what is shown of it: present, lost from view, or unobservable.
theorem process_confirmed (confirmed : e.snapshot.wasConfirmed = true) (same : begins e f = false) :
    ∃ h, (h = e.snapshot.hazardState ∨ h ∈ [HazardState.confirmed,.visualSignatureLost,.degraded]) ∧
      lifecycle (process e f) = {lifecycle e with hazardState := h} := by
  obtain eq | ⟨_,eq⟩ | ⟨live,eq⟩ := process_cases (e := e) (f := f)
  · exact ⟨_,.inl rfl,by rw [eq]; rfl⟩
  · exact ⟨.degraded,by simp,by rw [eq]; rfl⟩
  · have idle : (relevant e.thresholds f && startsIncident e) = false := by
      simpa only [begins,live,Bool.true_and] using same
    have view := decided_confirmed f.monotonicNs confirmed idle
    have stays : (decideConfirmation (judged e f) f.monotonicNs).snapshot.wasConfirmed = true :=
      (congrArg Lifecycle.wasConfirmed view).trans confirmed
    rw [eq,lifecycle_settled,view,if_pos stays]
    repeat' split
    · exact ⟨.visualSignatureLost,by simp,rfl⟩
    · exact ⟨.confirmed,by simp,rfl⟩
    · exact ⟨_,.inl rfl,rfl⟩

theorem operate_cancelled (valid : Sound e) (cancelled : e.snapshot.responseState = .cancelled) :
    (operate e op).snapshot.responseState = .cancelled ∨ ∃ f, op = .process f ∧ begins e f = true := by
  have confirmed := valid.confirmed_of_response (by simp [cancelled])
  cases op with
  | process f =>
    cases begun : begins e f
    · obtain ⟨h,_,view⟩ := process_confirmed confirmed begun
      exact .inl ((congrArg Lifecycle.responseState view).trans cancelled)
    · exact .inr ⟨f,rfl,begun⟩
  | cancel reason => obtain same | ⟨_,same⟩ := cancel_cases e reason <;> simp [operate,same,cancelled]
  | confirmOccupant =>
    obtain same | ⟨_,free,_⟩ := confirmOccupant_cases (e := e)
    · simp [operate,same,cancelled]
    · exact absurd cancelled free
  | manualReset => obtain same | ⟨_,same⟩ := manualReset_cases (e := e) <;> simp [operate,same,cancelled]
  | setDegraded d => exact .inl cancelled

-- Over every run; a cancellation is left only for a new incident.
theorem engine_consistent (deviceId bootId : String) (t : IncidentThresholds R)
    (bounds : 1 ≤ t.persistenceRequiredFrames ∧ t.persistenceRequiredFrames ≤ t.persistenceWindowFrames)
    (ops : List (Operation R)) :
    Consistent (lifecycle (run operate (fresh deviceId bootId t) ops)) ∧
    ∀ op, (run operate (fresh deviceId bootId t) ops).snapshot.responseState = .cancelled →
      (operate (run operate (fresh deviceId bootId t) ops) op).snapshot.responseState = .cancelled ∨
        ∃ f, op = .process f ∧ begins (run operate (fresh deviceId bootId t) ops) f = true := by
  obtain ⟨valid,_⟩ := run_sound deviceId bootId t bounds.1 ops
  exact ⟨valid.settled.toConsistent,fun _ cancelled => operate_cancelled valid cancelled⟩

-- Nine strong frames confirm, the occupant cancels, and a late confirmation is refused.
theorem sustained_cancellation :
    Consistent (lifecycle (run operate (fresh "device" "sustained" defaultThresholds)
      (sustained ++ [.cancel "controlled flame"]))) ∧
    (operate (run operate (fresh "device" "sustained" defaultThresholds)
      (sustained ++ [.cancel "controlled flame"])) .confirmOccupant).snapshot.responseState = .cancelled := by
  obtain ⟨consistent,stays⟩ := engine_consistent "device" "sustained" (defaultThresholds (R := ℚ)) ⟨by decide,by decide⟩
    (sustained ++ [.cancel "controlled flame"])
  refine ⟨consistent,(stays .confirmOccupant (by decide +kernel)).resolve_right ?_⟩
  rintro ⟨f,other,_⟩
  cases other

end Ignis.IncidentEngine
