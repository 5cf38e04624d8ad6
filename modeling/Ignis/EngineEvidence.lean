import Ignis.EngineRetention

namespace Ignis.IncidentEngine
open Runs
variable {R : Type} [Double R] {e : Engine R} {f : FrameEvidence R} {op : Operation R}
  {own : List (FrameEvidence R)}

-- History variable: the relevant frames evaluated since `begin_incident` last ran,
-- the frame it ran on included.
def noteOwn (e : Engine R) : Operation R → List (FrameEvidence R) → List (FrameEvidence R)
  | .process f,own =>
    if begins e f then [f] else if evaluated e f && relevant e.thresholds f then own ++ [f] else own
  | _,own => own

-- The frame makes `process` set `Verifying`, whether or not it is left showing.
def marksVerifying (e : Engine R) (f : FrameEvidence R) : Bool := evaluated e f && persists (gathered e f)

def carried (e : Engine R) : List (FrameEvidence R) :=
  e.window.drop (e.window.length + 1 - e.thresholds.persistenceWindowFrames)

def cleanStart (e : Engine R) : Operation R → Bool
  | .process f => !begins e f || (carried e).all (!relevant e.thresholds ·)
  | _ => true

structure OwnEvidence (e : Engine R) (own : List (FrameEvidence R)) : Prop where
  counted : persistenceCount e ≤ own.length
  verified : e.snapshot.hazardState = .verifying → e.thresholds.persistenceRequiredFrames ≤ own.length

theorem gathered_carried (room : 1 ≤ e.thresholds.persistenceWindowFrames) :
    (gathered e f).window = carried e ++ [f] := by
  rw [gathered_window,carried,List.length_append,List.length_singleton]
  exact List.drop_append_of_le_length (by omega)

theorem noteOwn_length (own : List (FrameEvidence R)) (live : evaluated e f = true) (same : begins e f = false) :
    (noteOwn e (.process f) own).length = own.length + if relevant e.thresholds f then 1 else 0 := by
  cases seen : relevant e.thresholds f <;> simp [noteOwn,same,live,seen]

theorem gathered_own (valid : OwnEvidence e own) (room : 1 ≤ e.thresholds.persistenceWindowFrames)
    (clean : cleanStart e (.process f) = true) (live : evaluated e f = true) :
    OwnEvidence (gathered e f) (noteOwn e (.process f) own) := by
  cases begun : begins e f
  · have kept : lifecycle (gathered e f) = lifecycle e := by
      have idle : (relevant e.thresholds f && startsIncident e) = false := by
        simpa only [begins,live,Bool.true_and] using begun
      rw [lifecycle_gathered,idle]; rfl
    have length := noteOwn_length own live begun
    refine ⟨?_,fun verifying => ?_⟩
    · have bound := gathered_count (e := e) (f := f)
      have before := valid.counted
      omega
    · have already := valid.verified ((congrArg Lifecycle.hazardState kept).symm.trans verifying)
      rw [gathered_thresholds]
      omega
  · obtain ⟨_,seen,starts⟩ := begins_parts begun
    have view : lifecycle (gathered e f) = opened e f := by rw [lifecycle_gathered,seen,starts]; rfl
    refine ⟨?_,fun verifying => ?_⟩
    · have none : (carried e).countP (relevant e.thresholds) = 0 := by
        rw [List.countP_eq_zero]
        intro g inside
        have old : ∀ g ∈ carried e, relevant e.thresholds g = false := by simpa [cleanStart,begun] using clean
        simp [old g inside]
      rw [persistenceCount,gathered_thresholds,gathered_carried room,List.countP_append,none]
      simp [noteOwn,begun,seen]
    · have suspected : (gathered e f).snapshot.hazardState = .suspected := congrArg Lifecycle.hazardState view
      simp [suspected] at verifying

theorem judged_own (valid : OwnEvidence (gathered e f) own) : OwnEvidence (judged e f) own := by
  have view := congrArg Lifecycle.hazardState (lifecycle_judged (e := e) (f := f))
  refine ⟨?_,fun verifying => ?_⟩
  · rw [judged_snapshot]; exact valid.counted
  · rw [judged_snapshot]
    split at view
    · rename_i enough
      simp only [persists,Bool.and_eq_true,decide_eq_true_eq] at enough
      exact Nat.le_trans enough.2 valid.counted
    · exact valid.verified (view.symm.trans verifying)

theorem process_own (valid : OwnEvidence e own) (room : 1 ≤ e.thresholds.persistenceWindowFrames)
    (clean : cleanStart e (.process f) = true) :
    OwnEvidence (process e f) (noteOwn e (.process f) own) := by
  by_cases live : evaluated e f = true
  · have later := judged_own (gathered_own valid room clean live)
    have decided : OwnEvidence (decideConfirmation (judged e f) f.monotonicNs) (noteOwn e (.process f) own) := by
      have view := congrArg Lifecycle.hazardState (lifecycle_decided (judged e f) f.monotonicNs)
      rw [decided_snapshot]
      refine ⟨later.counted,fun verifying => ?_⟩
      split at view
      · cases view.symm.trans verifying
      · exact later.verified (view.symm.trans verifying)
    have view := congrArg Lifecycle.hazardState
      (lifecycle_settled (e := decideConfirmation (judged e f) f.monotonicNs) (f := f))
    rw [process_evaluated live,settled_snapshot]
    refine ⟨decided.counted,fun verifying => ?_⟩
    have shown := view.symm.trans verifying
    repeat' split at shown
    all_goals first | cases shown | exact decided.verified shown
  · have quiet : noteOwn e (.process f) own = own := by simp [noteOwn,begins,Bool.eq_false_iff.mpr live]
    rw [quiet]
    obtain same | ⟨_,same⟩ | ⟨now,_⟩ := process_cases (e := e) (f := f)
    · rwa [same]
    · rw [same]; exact ⟨valid.counted,by simp⟩
    · exact absurd now live

theorem operate_own (valid : OwnEvidence e own) (room : 1 ≤ e.thresholds.persistenceWindowFrames)
    (clean : cleanStart e op = true) : OwnEvidence (operate e op) (noteOwn e op own) := by
  cases op with
  | process f => exact process_own valid room clean
  | cancel reason =>
    obtain same | ⟨_,same⟩ := cancel_cases e reason <;> rw [operate,same] <;>
      exact ⟨valid.counted,valid.verified⟩
  | confirmOccupant =>
    obtain same | ⟨_,_,same⟩ := confirmOccupant_cases (e := e) <;> rw [operate,same] <;>
      exact ⟨valid.counted,valid.verified⟩
  | manualReset =>
    obtain same | ⟨_,same⟩ := manualReset_cases (e := e) <;> rw [operate,same]
    · exact ⟨valid.counted,valid.verified⟩
    · exact ⟨by simp [persistenceCount],by simp⟩
  | setDegraded d =>
    refine ⟨valid.counted,fun verifying => ?_⟩
    simp only [operate,setDegraded] at verifying
    repeat' split at verifying
    all_goals cases verifying

theorem run_own (deviceId bootId : String) (t : IncidentThresholds R) (room : 1 ≤ t.persistenceWindowFrames)
    (ops : List (Operation R))
    (clean : Along operate (fun e op => cleanStart e op = true) (fresh deviceId bootId t) ops) :
    OwnEvidence (run (observed operate noteOwn) (fresh deviceId bootId t,[]) ops).1
      (run (observed operate noteOwn) (fresh deviceId bootId t,[]) ops).2 ∧
    (run (observed operate noteOwn) (fresh deviceId bootId t,[]) ops).1.thresholds = t := by
  have kept : ∀ (s : Engine R × List (FrameEvidence R)) op, cleanStart s.1 op = true →
      (OwnEvidence s.1 s.2 ∧ s.1.thresholds = t) →
      (OwnEvidence (observed operate noteOwn s op).1 (observed operate noteOwn s op).2 ∧
        (observed operate noteOwn s op).1.thresholds = t) := by
    rintro ⟨e,own⟩ op clean ⟨valid,same⟩
    exact ⟨operate_own valid (same ▸ room) clean,operate_thresholds.trans same⟩
  have start : OwnEvidence (fresh deviceId bootId t) [] ∧ (fresh deviceId bootId t).thresholds = t :=
    ⟨⟨by simp [fresh,persistenceCount],by simp [fresh,emptySnapshot]⟩,rfl⟩
  exact invariant_along (fun s => OwnEvidence s.1 s.2 ∧ s.1.thresholds = t) kept start (observed_along.mpr clean)

theorem own_evidence (deviceId bootId : String) (t : IncidentThresholds R)
    (bounds : 1 ≤ t.persistenceRequiredFrames ∧ t.persistenceRequiredFrames ≤ t.persistenceWindowFrames)
    (ops : List (Operation R)) (f : FrameEvidence R)
    (clean : Along operate (fun e op => cleanStart e op = true) (fresh deviceId bootId t) (ops ++ [.process f]))
    (counts : marksVerifying (run operate (fresh deviceId bootId t) ops) f = true ∨
      setsConfirmed (run operate (fresh deviceId bootId t) ops) f = true) :
    t.persistenceRequiredFrames ≤
      (run (observed operate noteOwn) (fresh deviceId bootId t,[]) (ops ++ [.process f])).2.length := by
  have room : 1 ≤ t.persistenceWindowFrames := Nat.le_trans bounds.1 bounds.2
  obtain ⟨before,last⟩ := along_snoc.mp clean
  obtain ⟨valid,same⟩ := run_own deviceId bootId t room ops before
  have machine : (run (observed operate noteOwn) (fresh deviceId bootId t,[]) ops).1 =
    run operate (fresh deviceId bootId t) ops := observed_machine
  rw [machine] at valid same
  have live : evaluated (run operate (fresh deviceId bootId t) ops) f = true := by
    rcases counts with h | h
    · simp only [marksVerifying,Bool.and_eq_true] at h; exact h.1
    · simp only [setsConfirmed,Bool.and_eq_true] at h; exact h.1
  have evidence := gathered_own valid (by rw [same]; exact room) last live
  have enough : (run operate (fresh deviceId bootId t) ops).thresholds.persistenceRequiredFrames ≤
      (noteOwn (run operate (fresh deviceId bootId t) ops) (.process f)
        (run (observed operate noteOwn) (fresh deviceId bootId t,[]) ops).2).length := by
    rcases counts with verifies | confirms'
    · simp only [marksVerifying,persists,gathered_thresholds,Bool.and_eq_true,decide_eq_true_eq] at verifies
      exact Nat.le_trans verifies.2.2 evidence.counted
    · simp only [setsConfirmed,confirms,Bool.and_eq_true,beq_iff_eq] at confirms'
      have verified := (judged_own evidence).verified confirms'.2.1.2
      rwa [judged_snapshot,show ({gathered (run operate (fresh deviceId bootId t) ops) f with
        snapshot := (judged (run operate (fresh deviceId bootId t) ops) f).snapshot} : Engine R).thresholds =
          (run operate (fresh deviceId bootId t) ops).thresholds from gathered_thresholds] at verified
  rw [run_snoc]
  rw [same] at enough
  simpa only [observed,machine] using enough

theorem sixth_frame_own : 6 ≤ (run (observed operate noteOwn)
    (fresh "device" "six" (defaultThresholds (R := ℚ)),[])
    ((List.range 5).map (fun i => Operation.process (frame (i + 1) (i * 100) 0.60)) ++
      [.process (frame 6 500 0.60)])).2.length :=
  own_evidence "device" "six" (defaultThresholds (R := ℚ)) ⟨by decide,by decide⟩ _ _
    (by decide +kernel) (.inl (by decide +kernel))

-- Five frames are seen and go, the unconfirmed incident is cleared, and the first frame
-- of the next incident is verified on the strength of the five.
def brief : List (Operation ℚ) :=
  (List.range 5).map (fun i => .process (frame (i + 1) (i * 100) 0.60)) ++ [.process (frame 6 2500 0)]

theorem stale_window_verifies :
    begins (run operate (fresh "device" "five" defaultThresholds) brief) (frame 7 2600 0.60) = true ∧
    marksVerifying (run operate (fresh "device" "five" defaultThresholds) brief) (frame 7 2600 0.60) = true ∧
    ¬ (defaultThresholds (R := ℚ)).persistenceRequiredFrames ≤ (run (observed operate noteOwn)
      (fresh "device" "five" defaultThresholds,[]) (brief ++ [.process (frame 7 2600 0.60)])).2.length := by
  decide +kernel

end Ignis.IncidentEngine
