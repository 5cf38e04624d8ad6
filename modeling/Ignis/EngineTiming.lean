import Ignis.EngineSummary

-- Differences of timestamps are taken in 64 unsigned bits; `process` checks the order of sequence numbers only.
namespace Ignis.IncidentEngine
open Runs
variable {R : Type} [Double R] {e : Engine R} {f : FrameEvidence R} {op : Operation R} {now stamp : UInt64}
  {t : IncidentThresholds R}

def boxed (t : IncidentThresholds R) (f : FrameEvidence R) : Bool :=
  f.fireBox.valid && !decide (f.fireBox.area < t.growthMinimumArea)

def cooccurrence (t : IncidentThresholds R) (window : List (FrameEvidence R)) : ℕ × UInt64 :=
  window.foldl (cooccurrenceStep t) (0,0)

-- `update_growth` compares the time of every frame with a box large enough.
def growthStamps (e : Engine R) : List UInt64 := (e.window.filter (boxed e.thresholds)).map FrameEvidence.monotonicNs

def tried (e : Engine R) : Bool := !e.snapshot.wasConfirmed && e.snapshot.hazardState == .verifying

def ruleStamps (e : Engine R) : List UInt64 :=
  let found := cooccurrence e.thresholds e.window
  (if e.sustainedHighFireStartNs = 0 then [] else [e.sustainedHighFireStartNs]) ++
    (if e.snapshot.firstDetectionNs = 0 then [] else [e.snapshot.firstDetectionNs]) ++
    if e.thresholds.persistenceRequiredFrames ≤ found.1 ∧ found.2 ≠ 0 then [found.2] else []

def graceStamps (e : Engine R) (f : FrameEvidence R) : List UInt64 :=
  if relevant e.thresholds f = false ∧ e.lastRelevantNs ≠ 0 then [e.lastRelevantNs] else []

-- All that an evaluated frame is compared with, in the order of `process`.
def comparisons (e : Engine R) (f : FrameEvidence R) : List UInt64 :=
  growthStamps (judged e f) ++ (if tried (judged e f) then ruleStamps (judged e f) else []) ++ graceStamps (judged e f) f

-- Every difference is the true elapsed time, so that a frame stamped before the start of its
-- incident confirms nothing, and one stamped before the last relevant frame clears nothing.
structure TrueElapsed (e : Engine R) (f : FrameEvidence R) : Prop where
  exact : ∀ stamp ∈ comparisons e f, ((f.monotonicNs - stamp).toNat : ℤ) = f.monotonicNs.toNat - stamp.toNat
  beforeStart : f.monotonicNs < (judged e f).snapshot.firstDetectionNs → confirms (judged e f) f.monotonicNs = false
  beforeSighting : relevant e.thresholds f = false → f.monotonicNs < e.lastRelevantNs →
    signatureGone (judged e f) f.monotonicNs = false

theorem elapsed_iff : ((now - stamp).toNat : ℤ) = now.toNat - stamp.toNat ↔ stamp ≤ now := by
  constructor
  · intro exact
    apply UInt64.le_iff_toNat_le.mpr
    omega
  · intro past
    have order := UInt64.le_iff_toNat_le.mp past
    rw [UInt64.toNat_sub_of_le _ _ past]
    omega

-- What the frame finds before it, in the terms of the state it comes to. The rules will be
-- tried at it:
def tries (e : Engine R) (f : FrameEvidence R) : Bool :=
  let starts := relevant e.thresholds f && startsIncident e
  (starts || !e.snapshot.wasConfirmed) &&
    (decide (e.thresholds.persistenceRequiredFrames ≤ (pushWindow e f).window.countP (relevant e.thresholds)) ||
      (!starts && e.snapshot.hazardState == .verifying))

structure Dated (e : Engine R) (f : FrameEvidence R) : Prop where
  boxes : ∀ g ∈ (pushWindow e f).window, boxed e.thresholds g = true → g.monotonicNs ≤ f.monotonicNs
  sighting : relevant e.thresholds f = false → e.lastRelevantNs ≤ f.monotonicNs
  start : tries e f = true → (relevant e.thresholds f && startsIncident e) = false →
    e.snapshot.firstDetectionNs ≤ f.monotonicNs
  streak : tries e f = true → (relevant e.thresholds f && startsIncident e) = false → relevant e.thresholds f = true →
    f.fireConfidence ≥ e.thresholds.confirmedFireConfidence → e.sustainedHighFireStartNs ≤ f.monotonicNs
  both : tries e f = true → e.thresholds.persistenceRequiredFrames ≤ (cooccurrence e.thresholds (pushWindow e f).window).1 →
    (cooccurrence e.thresholds (pushWindow e f).window).2 ≤ f.monotonicNs

theorem marked_frame : (markVerifying (gathered e f)).window = (pushWindow e f).window ∧
    (markVerifying (gathered e f)).thresholds = e.thresholds := by
  unfold markVerifying
  split <;> exact ⟨gathered_window,gathered_thresholds⟩

theorem judged_window : (judged e f).window = (pushWindow e f).window := by
  rw [judged_snapshot]
  exact gathered_window

theorem judged_thresholds : (judged e f).thresholds = e.thresholds := by
  rw [judged_snapshot]
  exact gathered_thresholds

theorem judged_lastRelevant : (judged e f).lastRelevantNs =
    if relevant e.thresholds f then f.monotonicNs else e.lastRelevantNs := by
  rw [judged_snapshot]
  exact gathered_lastRelevant

theorem judged_first : (judged e f).snapshot.firstDetectionNs =
    if relevant e.thresholds f && startsIncident e then f.monotonicNs else e.snapshot.firstDetectionNs := by
  have view := congrArg Lifecycle.firstDetectionNs (lifecycle_judged (e := e) (f := f))
  have first : (lifecycle (gathered e f)).firstDetectionNs =
      if relevant e.thresholds f && startsIncident e then f.monotonicNs else e.snapshot.firstDetectionNs := by
    rw [lifecycle_gathered]
    split <;> rfl
  rw [← first]
  split at view <;> exact view

theorem absorb_sustained : (absorb e f).sustainedHighFireStartNs =
    if relevant e.thresholds f = true ∧ f.fireConfidence ≥ e.thresholds.confirmedFireConfidence then
      if startsIncident e = true ∨ e.sustainedHighFireStartNs = 0 then f.monotonicNs else e.sustainedHighFireStartNs
    else 0 := by
  have starts : startsIncident {e with lastRelevantNs := f.monotonicNs} = startsIncident e := rfl
  unfold absorb
  cases relevant e.thresholds f with
  | false => simp
  | true =>
    simp only [if_true,starts,true_and]
    cases startsIncident e with
    | false => simp [accumulate]
    | true => simp [accumulate,beginIncident]

theorem judged_sustained : (judged e f).sustainedHighFireStartNs =
    if relevant e.thresholds f = true ∧ f.fireConfidence ≥ e.thresholds.confirmedFireConfidence then
      if startsIncident e = true ∨ e.sustainedHighFireStartNs = 0 then f.monotonicNs else e.sustainedHighFireStartNs
    else 0 := by
  rw [judged_snapshot,gathered,elapsed_snapshot]
  exact absorb_sustained (e := pushWindow {e with lastSequence := f.sequence} f)

theorem tried_judged : tried (judged e f) = tries e f := by
  have view := lifecycle_judged (e := e) (f := f)
  have start := lifecycle_gathered (e := e) (f := f)
  have counted : persistenceCount (gathered e f) = (pushWindow e f).window.countP (relevant e.thresholds) := by
    rw [persistenceCount,gathered_thresholds,gathered_window]
    rfl
  have fields : tried (judged e f) = (!(lifecycle (judged e f)).wasConfirmed && (lifecycle (judged e f)).hazardState == .verifying) := rfl
  have before : persists (gathered e f) = (!(lifecycle (gathered e f)).wasConfirmed &&
      decide (e.thresholds.persistenceRequiredFrames ≤ (pushWindow e f).window.countP (relevant e.thresholds))) := by
    rw [persists,counted,gathered_thresholds]
    rfl
  rw [fields,view,before,start,tries]
  generalize decide (e.thresholds.persistenceRequiredFrames ≤ (pushWindow e f).window.countP (relevant e.thresholds)) = enough
  generalize (relevant e.thresholds f && startsIncident e) = starts
  cases starts <;> cases enough <;> simp [opened,lifecycle]
  cases e.snapshot.wasConfirmed <;> simp

theorem growth_past : (∀ stamp ∈ growthStamps (judged e f), stamp ≤ now) ↔
    ∀ g ∈ (pushWindow e f).window, boxed e.thresholds g = true → g.monotonicNs ≤ now := by
  unfold growthStamps
  rw [judged_window,judged_thresholds]
  constructor
  · intro past g member here
    exact past _ (List.mem_map_of_mem (List.mem_filter.mpr ⟨member,here⟩))
  · intro past stamp member
    obtain ⟨g,found,rfl⟩ := List.mem_map.mp member
    obtain ⟨inside,here⟩ := List.mem_filter.mp found
    exact past g inside here

theorem grace_past : (∀ stamp ∈ graceStamps (judged e f) f, stamp ≤ f.monotonicNs) ↔
    (relevant e.thresholds f = false → e.lastRelevantNs ≤ f.monotonicNs) := by
  unfold graceStamps
  rw [judged_thresholds,judged_lastRelevant]
  cases seen : relevant e.thresholds f with
  | true => simp
  | false =>
    by_cases never : e.lastRelevantNs = 0
    · simp [never]
    · simp [never]

theorem start_past : (judged e f).snapshot.firstDetectionNs ≤ f.monotonicNs ↔
    ((relevant e.thresholds f && startsIncident e) = false → e.snapshot.firstDetectionNs ≤ f.monotonicNs) := by
  rw [judged_first]
  cases relevant e.thresholds f && startsIncident e with
  | false => simp
  | true => simp

theorem streak_past : (judged e f).sustainedHighFireStartNs ≤ f.monotonicNs ↔
    ((relevant e.thresholds f && startsIncident e) = false → relevant e.thresholds f = true →
      f.fireConfidence ≥ e.thresholds.confirmedFireConfidence → e.sustainedHighFireStartNs ≤ f.monotonicNs) := by
  rw [judged_sustained]
  cases relevant e.thresholds f with
  | false => simp
  | true =>
    by_cases strong : f.fireConfidence ≥ e.thresholds.confirmedFireConfidence
    · cases startsIncident e with
      | true => simp [strong]
      | false =>
        by_cases none : e.sustainedHighFireStartNs = 0
        · simp [strong,none]
        · simp [strong,none]
    · simp [strong]

theorem nonzero_past : (∀ other ∈ (if stamp = 0 then [] else [stamp]), other ≤ now) ↔ stamp ≤ now := by
  by_cases zero : stamp = 0
  · simp [zero]
  · simp [zero]

theorem counted_past (p : Prop) [Decidable p] :
    (∀ other ∈ (if p ∧ stamp ≠ 0 then [stamp] else []), other ≤ now) ↔ (p → stamp ≤ now) := by
  by_cases zero : stamp = 0
  · simp [zero]
  · by_cases here : p
    · simp [zero,here]
    · simp [here]

theorem rule_past : (∀ stamp ∈ ruleStamps (judged e f), stamp ≤ f.monotonicNs) ↔
    ((relevant e.thresholds f && startsIncident e) = false → e.snapshot.firstDetectionNs ≤ f.monotonicNs) ∧
    ((relevant e.thresholds f && startsIncident e) = false → relevant e.thresholds f = true →
      f.fireConfidence ≥ e.thresholds.confirmedFireConfidence → e.sustainedHighFireStartNs ≤ f.monotonicNs) ∧
    (e.thresholds.persistenceRequiredFrames ≤ (cooccurrence e.thresholds (pushWindow e f).window).1 →
      (cooccurrence e.thresholds (pushWindow e f).window).2 ≤ f.monotonicNs) := by
  simp only [ruleStamps,List.forall_mem_append,judged_thresholds,judged_window,nonzero_past,counted_past,start_past,streak_past]
  rw [and_assoc,and_left_comm]

theorem comparisons_past : (∀ stamp ∈ comparisons e f, stamp ≤ f.monotonicNs) ↔ Dated e f := by
  unfold comparisons
  rw [List.forall_mem_append,List.forall_mem_append,growth_past,grace_past,tried_judged]
  cases called : tries e f with
  | false =>
    have idle : ¬ tries e f = true := by
      rw [called]
      exact Bool.false_ne_true
    constructor
    · rintro ⟨⟨boxes,_⟩,sighting⟩
      exact ⟨boxes,sighting,fun calls => absurd calls idle,fun calls => absurd calls idle,fun calls => absurd calls idle⟩
    · intro dated
      exact ⟨⟨dated.boxes,by simp⟩,dated.sighting⟩
  | true =>
    rw [if_pos rfl,rule_past]
    constructor
    · rintro ⟨⟨boxes,start,streak,both⟩,sighting⟩
      exact ⟨boxes,sighting,fun _ => start,fun _ => streak,fun _ => both⟩
    · intro dated
      exact ⟨⟨dated.boxes,dated.start called,dated.streak called,dated.both called⟩,dated.sighting⟩

theorem trueElapsed_iff : TrueElapsed e f ↔ Dated e f := by
  rw [← comparisons_past]
  constructor
  · intro true' stamp member
    exact elapsed_iff.mp (true'.exact stamp member)
  · intro past
    refine ⟨fun stamp member => elapsed_iff.mpr (past stamp member),fun early => ?_,fun missing early => ?_⟩
    · cases called : tried (judged e f) with
      | false => rw [confirms,show (!(judged e f).snapshot.wasConfirmed && (judged e f).snapshot.hazardState == .verifying) = false
          from called]; rfl
      | true =>
        have set : (judged e f).snapshot.firstDetectionNs ≠ 0 := by
          intro zero
          rw [zero] at early
          exact absurd early UInt64.not_lt_zero
        have member : (judged e f).snapshot.firstDetectionNs ∈ comparisons e f := by
          simp [comparisons,called,ruleStamps,set]
        exact absurd (past _ member) (UInt64.not_le.mpr early)
    · have late := (comparisons_past.mp past).sighting missing
      exact absurd late (UInt64.not_le.mpr early)

def OnEvaluated (P : Engine R → FrameEvidence R → Prop) (e : Engine R) : Operation R → Prop
  | .process f => evaluated e f = true → P e f
  | _ => True

theorem elapsed_times_iff (deviceId bootId : String) (t : IncidentThresholds R) (ops : List (Operation R)) :
    Along operate (OnEvaluated TrueElapsed) (fresh deviceId bootId t) ops ↔
      Along operate (OnEvaluated Dated) (fresh deviceId bootId t) ops := by
  apply along_congr
  intro e op
  cases op with
  | process f => exact forall_congr' fun _ => trueElapsed_iff
  | _ => exact Iff.rfl

-- Six frames of fire within half a second, and one more that is stamped before all of them.
def early : FrameEvidence ℚ := { frame 7 0 0.60 with monotonicNs := 900000000 }
def half : List (Operation ℚ) := (List.range 6).map fun i => .process (frame (i + 1) (i * 100) 0.60)

theorem elapsed_time_wraps : ¬ Along operate (OnEvaluated TrueElapsed) (fresh "device" "clock" defaultThresholds)
    (half ++ [.process early]) := by
  intro all
  obtain ⟨_,last⟩ := along_snoc.mp all
  have taken : evaluated (run operate (fresh "device" "clock" defaultThresholds) half) early = true := by decide +kernel
  have stamped : early.monotonicNs <
      (judged (run operate (fresh "device" "clock" defaultThresholds) half) early).snapshot.firstDetectionNs := by
    decide +kernel
  have confirmed : confirms (judged (run operate (fresh "device" "clock" defaultThresholds) half) early)
      early.monotonicNs = true := by
    decide +kernel
  have silent := (last taken).beforeStart stamped
  rw [confirmed] at silent
  cases silent

structure Stored (e : Engine R) (clock : UInt64) : Prop where
  window : ∀ g ∈ e.window, g.monotonicNs ≤ clock
  sighting : e.lastRelevantNs ≤ clock
  start : e.snapshot.firstDetectionNs ≤ clock
  streak : e.sustainedHighFireStartNs ≤ clock

section
omit [Double R]

theorem pushed_past (stored : Stored e now) (later : now ≤ f.monotonicNs) :
    ∀ g ∈ (pushWindow e f).window, g.monotonicNs ≤ f.monotonicNs := by
  intro g member
  rcases List.mem_append.mp (List.mem_of_mem_drop member) with old | new
  · exact UInt64.le_trans (stored.window g old) later
  · rw [List.mem_singleton.mp new]
    exact UInt64.le_refl _

end

theorem cooccurrence_past {window : List (FrameEvidence R)} (past : ∀ g ∈ window, g.monotonicNs ≤ now) :
    (cooccurrence t window).2 ≤ now := by
  suffices folded : ∀ found : ℕ × UInt64, found.2 ≤ now → (window.foldl (cooccurrenceStep t) found).2 ≤ now by
    exact folded (0,0) UInt64.zero_le
  induction window with
  | nil => exact fun found below => below
  | cons g rest ih =>
    intro found below
    refine ih (fun other member => past other (List.mem_cons_of_mem _ member)) _ ?_
    unfold cooccurrenceStep
    split
    · dsimp only
      split
      · exact past g List.mem_cons_self
      · exact below
    · exact below

theorem stored_dated (stored : Stored e now) (later : now ≤ f.monotonicNs) : Dated e f where
  boxes g member _ := pushed_past stored later g member
  sighting _ := UInt64.le_trans stored.sighting later
  start _ _ := UInt64.le_trans stored.start later
  streak _ _ _ _ := UInt64.le_trans stored.streak later
  both _ _ := cooccurrence_past (pushed_past stored later)

section
omit [Double R]

theorem stored_later (stored : Stored e now) (later : now ≤ stamp) : Stored e stamp :=
  ⟨fun g member => UInt64.le_trans (stored.window g member) later,UInt64.le_trans stored.sighting later,
    UInt64.le_trans stored.start later,UInt64.le_trans stored.streak later⟩

end

theorem process_first (live : evaluated e f = true) :
    (process e f).snapshot.firstDetectionNs = (judged e f).snapshot.firstDetectionNs := by
  have account : accountOf (process e f) = accountOf (judged e f) := by
    rw [process_evaluated live,account_settled,account_decided]
  exact congrArg Account.firstDetectionNs account

theorem process_stored (stored : Stored e now) (later : now ≤ f.monotonicNs) : Stored (process e f) f.monotonicNs := by
  obtain same | ⟨_,same⟩ | ⟨live,_⟩ := process_cases (e := e) (f := f)
  · rw [same]
    exact stored_later stored later
  · rw [same]
    have before := stored_later stored later
    exact ⟨before.window,before.sighting,before.start,before.streak⟩
  · have first := process_first live
    have kept : process e f = {judged e f with snapshot := (process e f).snapshot} := by
      rw [judged_snapshot]
      exact evaluated_snapshot live
    refine ⟨?_,?_,?_,?_⟩
    · rw [kept]
      show ∀ g ∈ (judged e f).window, _
      rw [judged_window]
      exact pushed_past stored later
    · rw [kept]
      show (judged e f).lastRelevantNs ≤ _
      rw [judged_lastRelevant]
      split
      · exact UInt64.le_refl _
      · exact UInt64.le_trans stored.sighting later
    · rw [first,judged_first]
      split
      · exact UInt64.le_refl _
      · exact UInt64.le_trans stored.start later
    · rw [kept]
      show (judged e f).sustainedHighFireStartNs ≤ _
      rw [judged_sustained]
      split
      · split
        · exact UInt64.le_refl _
        · exact UInt64.le_trans stored.streak later
      · exact UInt64.zero_le

theorem operate_stored (stored : Stored e now) (quiet : ∀ f, op ≠ .process f) : Stored (operate e op) now := by
  have first := congrArg Account.firstDetectionNs (operate_quiet (e := e) quiet).1
  have start : (operate e op).snapshot.firstDetectionNs ≤ now := by
    rw [show (operate e op).snapshot.firstDetectionNs = e.snapshot.firstDetectionNs from first]
    exact stored.start
  cases op with
  | process f => exact absurd rfl (quiet f)
  | cancel reason =>
    obtain same | ⟨_,same⟩ := cancel_cases e reason <;> rw [operate,same] <;>
      exact ⟨stored.window,stored.sighting,stored.start,stored.streak⟩
  | confirmOccupant =>
    obtain same | ⟨_,_,same⟩ := confirmOccupant_cases (e := e) <;> rw [operate,same] <;>
      exact ⟨stored.window,stored.sighting,stored.start,stored.streak⟩
  | manualReset =>
    obtain same | ⟨_,same⟩ := manualReset_cases (e := e) <;> rw [operate,same]
    · exact stored
    · exact ⟨fun _ member => absurd member List.not_mem_nil,stored.sighting,stored.start,stored.streak⟩
  | setDegraded degraded => exact ⟨stored.window,stored.sighting,stored.start,stored.streak⟩

def times (ops : List (Operation R)) : List UInt64 :=
  ops.filterMap fun
    | .process f => some f.monotonicNs
    | _ => none

theorem fresh_stored (deviceId bootId : String) (t : IncidentThresholds R) : Stored (fresh deviceId bootId t) 0 :=
  ⟨fun _ member => absurd member List.not_mem_nil,UInt64.zero_le,UInt64.zero_le,UInt64.zero_le⟩

theorem ordered_stored (stored : Stored e now) {ops : List (Operation R)} (ordered : (now :: times ops).Pairwise (· ≤ ·)) :
    Along operate (OnEvaluated fun e f => ∃ clock, Stored e clock ∧ clock ≤ f.monotonicNs) e ops := by
  induction ops generalizing e now with
  | nil => trivial
  | cons op rest ih =>
    obtain ⟨later,sorted⟩ := List.pairwise_cons.mp ordered
    by_cases frame : ∃ f, op = .process f
    · obtain ⟨f,rfl⟩ := frame
      have here : now ≤ f.monotonicNs := later _ List.mem_cons_self
      exact ⟨fun _ => ⟨now,stored,here⟩,ih (process_stored stored here) sorted⟩
    · have quiet : ∀ f, op ≠ .process f := fun f same => frame ⟨f,same⟩
      have skipped : times (op :: rest) = times rest := by
        cases op with
        | process f => exact absurd rfl (quiet f)
        | _ => rfl
      rw [skipped] at ordered
      refine ⟨?_,ih (operate_stored stored quiet) ordered⟩
      cases op with
      | process f => exact absurd rfl (quiet f)
      | _ => trivial

theorem ordered_along {P : Engine R → FrameEvidence R → Prop} (deviceId bootId : String) (t : IncidentThresholds R)
    {ops : List (Operation R)} (ordered : (times ops).Pairwise (· ≤ ·))
    (each : ∀ e f clock, Stored e clock → clock ≤ f.monotonicNs → P e f) :
    Along operate (OnEvaluated P) (fresh deviceId bootId t) ops := by
  have sorted : ((0 : UInt64) :: times ops).Pairwise (· ≤ ·) := List.pairwise_cons.mpr ⟨fun _ _ => UInt64.zero_le,ordered⟩
  apply (ordered_stored (fresh_stored deviceId bootId t) sorted).imp
  intro e op kept
  cases op with
  | process f =>
    intro live
    obtain ⟨clock,stored,later⟩ := kept live
    exact each e f clock stored later
  | _ => trivial

theorem ordered_elapsed (deviceId bootId : String) (t : IncidentThresholds R) (ops : List (Operation R))
    (ordered : (times ops).Pairwise (· ≤ ·)) : Along operate (OnEvaluated TrueElapsed) (fresh deviceId bootId t) ops :=
  ordered_along deviceId bootId t ordered fun _ _ _ stored later => trueElapsed_iff.mpr (stored_dated stored later)

theorem ordered_windows (deviceId bootId : String) (t : IncidentThresholds R) (ops : List (Operation R))
    (ordered : (times ops).Pairwise (· ≤ ·)) :
    Along operate (OnEvaluated fun e f => ∀ g ∈ (pushWindow e f).window, g.monotonicNs ≤ f.monotonicNs)
      (fresh deviceId bootId t) ops :=
  ordered_along deviceId bootId t ordered fun _ _ _ stored later => pushed_past stored later

end Ignis.IncidentEngine
