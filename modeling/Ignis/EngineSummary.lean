import Ignis.EngineEvidence

-- What a snapshot tells of its incident is a fold over the incident's relevant frames.
namespace Ignis.IncidentEngine
open Runs
variable {R : Type} [Double R] {e : Engine R} {f : FrameEvidence R} {op : Operation R} {now : UInt64}
  {t : IncidentThresholds R} {frames : List (FrameEvidence R)} {since : Option (List (FrameEvidence R))}

-- History variable: the relevant frames evaluated since `begin_incident` was last called,
-- the frame it was called for included. Before its first call there is no incident.
def noteSince (e : Engine R) : Operation R → Option (List (FrameEvidence R)) → Option (List (FrameEvidence R))
  | .process f,since =>
    if begins e f then some [f]
    else if evaluated e f && relevant e.thresholds f then since.map (· ++ [f]) else since
  | _,since => since

def showsFire (t : IncidentThresholds R) (f : FrameEvidence R) : Bool :=
  decide (f.fireConfidence ≥ t.suspectedFireConfidence)
def showsSmoke (t : IncidentThresholds R) (f : FrameEvidence R) : Bool :=
  decide (f.smokeConfidence ≥ t.suspectedSmokeConfidence)

def earliest (shows : FrameEvidence R → Bool) (frames : List (FrameEvidence R)) : Option UInt64 :=
  (frames.find? shows).map FrameEvidence.monotonicNs

-- What the engine keeps of an incident's frames, in the snapshot and beside it.
structure Account (R : Type) where
  firstDetectionNs : UInt64
  firstZone : String
  currentZone : String
  peakFireConfidence : R
  peakSmokeConfidence : R
  firstFireNs : UInt64
  firstSmokeNs : UInt64

def accountOf (e : Engine R) : Account R :=
  ⟨e.snapshot.firstDetectionNs,e.snapshot.firstZone,e.snapshot.currentZone,e.snapshot.peakFireConfidence,
    e.snapshot.peakSmokeConfidence,e.firstFireNs,e.firstSmokeNs⟩

def account (t : IncidentThresholds R) (first : FrameEvidence R) (rest : List (FrameEvidence R)) : Account R where
  firstDetectionNs := first.monotonicNs
  firstZone := first.zone
  currentZone := (rest.getLast?.getD first).zone
  peakFireConfidence := ((first :: rest).map FrameEvidence.fireConfidence).foldl larger 0
  peakSmokeConfidence := ((first :: rest).map FrameEvidence.smokeConfidence).foldl larger 0
  firstFireNs := (earliest (showsFire t) (first :: rest)).getD 0
  firstSmokeNs := (earliest (showsSmoke t) (first :: rest)).getD 0

def extended (t : IncidentThresholds R) (f : FrameEvidence R) (a : Account R) : Account R :=
  { a with
    currentZone := f.zone
    peakFireConfidence := larger a.peakFireConfidence f.fireConfidence
    peakSmokeConfidence := larger a.peakSmokeConfidence f.smokeConfidence
    firstFireNs := if showsFire t f ∧ a.firstFireNs = 0 then f.monotonicNs else a.firstFireNs
    firstSmokeNs := if showsSmoke t f ∧ a.firstSmokeNs = 0 then f.monotonicNs else a.firstSmokeNs }

def opening (f : FrameEvidence R) : Account R := ⟨f.monotonicNs,f.zone,f.zone,0,0,0,0⟩

theorem account_first : account t f [] = extended t f (opening f) := by
  cases fire : showsFire t f <;> cases smoke : showsSmoke t f <;>
    simp [account,extended,opening,earliest,fire,smoke]

section
omit [Double R]

-- A time that was found is not the zero that stands for none.
theorem earliest_snoc {shows : FrameEvidence R → Bool} (timed : ∀ g ∈ frames, g.monotonicNs ≠ 0) :
    (earliest shows (frames ++ [f])).getD 0 =
      if shows f = true ∧ (earliest shows frames).getD 0 = 0 then f.monotonicNs else (earliest shows frames).getD 0 := by
  unfold earliest
  rw [List.find?_append]
  cases found : frames.find? shows with
  | none => cases here : shows f <;> simp [here]
  | some g =>
    have past : g.monotonicNs ≠ 0 := timed g (List.mem_of_find?_eq_some found)
    simp [past]

end

theorem account_snoc {first : FrameEvidence R} {rest : List (FrameEvidence R)}
    (timed : ∀ g ∈ first :: rest, g.monotonicNs ≠ 0) :
    account t first (rest ++ [f]) = extended t f (account t first rest) := by
  have found : ∀ shows : FrameEvidence R → Bool, (earliest shows (first :: (rest ++ [f]))).getD 0 =
      if shows f = true ∧ (earliest shows (first :: rest)).getD 0 = 0 then f.monotonicNs
      else (earliest shows (first :: rest)).getD 0 := fun shows => earliest_snoc timed
  have peak : ∀ value : FrameEvidence R → R, ((first :: (rest ++ [f])).map value).foldl larger 0 =
      larger (((first :: rest).map value).foldl larger 0) (value f) := by
    intro value
    rw [← List.cons_append,List.map_append,List.foldl_append]
    rfl
  simp only [account,extended,found,peak,List.getLast?_append,List.getLast?_singleton,Option.some_or,Option.getD_some]
  rfl

theorem account_elapsed : accountOf (refreshElapsed e now) = accountOf e := by
  unfold refreshElapsed; split <;> rfl
theorem account_growth : accountOf (updateGrowth e now) = accountOf e := rfl
theorem account_sequence : accountOf (updateSequenceObservation e) = accountOf e := rfl
theorem account_verifying : accountOf (markVerifying e) = accountOf e := by
  unfold markVerifying; split <;> rfl
theorem account_judged : accountOf (judged e f) = accountOf (gathered e f) := by
  rw [judged,account_sequence,account_growth,account_verifying]
theorem account_decided : accountOf (decideConfirmation e now) = accountOf e := by
  unfold decideConfirmation; split <;> rfl
theorem account_settled : accountOf (settle e f) = accountOf e := by
  unfold settle; repeat' split
  all_goals rfl

theorem account_accumulate : accountOf (accumulate e f) = extended e.thresholds f (accountOf e) := by
  simp [accountOf,accumulate,extended,showsFire,showsSmoke]

theorem account_absorb : accountOf (absorb e f) =
    if relevant e.thresholds f then extended e.thresholds f (if startsIncident e then opening f else accountOf e)
    else accountOf e := by
  have starts : startsIncident {e with lastRelevantNs := f.monotonicNs} = startsIncident e := rfl
  unfold absorb
  cases relevant e.thresholds f
  · rfl
  · simp only [if_true,starts,account_accumulate]
    split <;> rfl

theorem account_process : accountOf (process e f) =
    if evaluated e f && relevant e.thresholds f then
      extended e.thresholds f (if startsIncident e then opening f else accountOf e)
    else accountOf e := by
  have dead : evaluated e f = false → accountOf (process e f) = accountOf e := by
    intro still
    obtain same | ⟨_,same⟩ | ⟨live,_⟩ := process_cases (e := e) (f := f)
    · rw [same]
    · rw [same]; rfl
    · rw [still] at live; cases live
  cases live : evaluated e f with
  | false => rw [dead live]; rfl
  | true =>
    rw [process_evaluated live,account_settled,account_decided,account_judged,gathered,account_elapsed,account_absorb]
    rfl

def Observed (e : Engine R) : Prop :=
  e.snapshot.smokeFirstKnown = (sequenceObservation e).isSome ∧
    ∀ said ∈ sequenceObservation e, e.snapshot.smokeFirst = said.1 ∧ e.snapshot.smokeToFireDelaySeconds = said.2

structure Timing (R : Type) where
  smokeFirstKnown : Bool
  smokeFirst : Bool
  smokeToFireDelaySeconds : R
  firstFireNs : UInt64
  firstSmokeNs : UInt64
  uncertainty : R

def timing (e : Engine R) : Timing R :=
  ⟨e.snapshot.smokeFirstKnown,e.snapshot.smokeFirst,e.snapshot.smokeToFireDelaySeconds,e.firstFireNs,e.firstSmokeNs,
    e.thresholds.timingUncertaintySeconds⟩

theorem Observed.of_timing {after : Engine R} (observed : Observed e) (same : timing after = timing e) : Observed after := by
  have fields := Timing.mk.inj same
  obtain ⟨known,first,delay,fire,smoke,uncertainty⟩ := fields
  have observation : sequenceObservation after = sequenceObservation e := by
    unfold sequenceObservation
    rw [fire,smoke,uncertainty]
  unfold Observed
  rw [observation,known,first,delay]
  exact observed

theorem observed_sequence : Observed (updateSequenceObservation e) := by
  have same : sequenceObservation (updateSequenceObservation e) = sequenceObservation e := rfl
  refine ⟨by rw [same]; rfl,fun said told => ?_⟩
  rw [same,Option.mem_def] at told
  simp only [updateSequenceObservation,told,Option.map_some,Option.getD_some,and_self]

theorem observed_process (observed : Observed e) : Observed (process e f) := by
  obtain same | ⟨_,same⟩ | ⟨_,same⟩ := process_cases (e := e) (f := f)
  · rwa [same]
  · rw [same]
    exact observed.of_timing rfl
  · have decided : timing (decideConfirmation (judged e f) f.monotonicNs) = timing (judged e f) := by
      unfold decideConfirmation; split <;> rfl
    have settled : ∀ e : Engine R, timing (settle e f) = timing e := by
      intro e
      unfold settle; repeat' split
      all_goals rfl
    rw [same]
    exact observed_sequence.of_timing ((settled _).trans decided)

theorem operate_quiet (quiet : ∀ f, op ≠ .process f) :
    accountOf (operate e op) = accountOf e ∧ timing (operate e op) = timing e := by
  cases op with
  | process f => exact absurd rfl (quiet f)
  | cancel reason => obtain same | ⟨_,same⟩ := cancel_cases e reason <;> rw [operate,same] <;> exact ⟨rfl,rfl⟩
  | confirmOccupant => obtain same | ⟨_,_,same⟩ := confirmOccupant_cases (e := e) <;> rw [operate,same] <;> exact ⟨rfl,rfl⟩
  | manualReset => obtain same | ⟨_,same⟩ := manualReset_cases (e := e) <;> rw [operate,same] <;> exact ⟨rfl,rfl⟩
  | setDegraded degraded => exact ⟨rfl,rfl⟩

structure Told (t : IncidentThresholds R) (e : Engine R) (since : Option (List (FrameEvidence R))) : Prop where
  thresholds : e.thresholds = t
  observed : Observed e
  frames : ∀ frames ∈ since, ∃ first rest, frames = first :: rest ∧ (∀ g ∈ frames, g.monotonicNs ≠ 0) ∧
    accountOf e = account t first rest

theorem told_process (told : Told t e since) : Told t (process e f) (noteSince e (.process f) since) := by
  have same : (operate e (.process f)).thresholds = e.thresholds := operate_thresholds
  have kept : (process e f).thresholds = t := same.trans told.thresholds
  refine ⟨kept,observed_process told.observed,fun frames among => ?_⟩
  have stamped : evaluated e f = true → f.monotonicNs ≠ 0 := by
    intro live
    simp only [evaluated,accepts,Bool.and_eq_true,Bool.not_eq_true',Bool.or_eq_false_iff,beq_eq_false_iff_ne] at live
    exact live.1.2
  rw [account_process,told.thresholds]
  simp only [noteSince,told.thresholds] at among
  cases begun : begins e f with
  | true =>
    obtain ⟨live,seen,starts⟩ := begins_parts begun
    rw [told.thresholds] at seen
    rw [if_pos begun,Option.mem_some_iff] at among
    subst among
    refine ⟨f,[],rfl,fun g member => ?_,?_⟩
    · rw [List.mem_singleton.mp member]
      exact stamped live
    · rw [live,seen,starts,account_first]
      rfl
  | false =>
    rw [if_neg (by rw [begun]; exact Bool.false_ne_true)] at among
    cases adds : evaluated e f && relevant t f with
    | false =>
      rw [adds] at among
      rw [if_neg Bool.false_ne_true]
      exact told.frames frames among
    | true =>
      rw [adds,if_pos rfl,Option.mem_def,Option.map_eq_some_iff] at among
      obtain ⟨before,there,rfl⟩ := among
      obtain ⟨first,rest,rfl,timed,same⟩ := told.frames before there
      obtain ⟨live,seen⟩ := Bool.and_eq_true_iff.mp adds
      have goes : startsIncident e = false := by
        rw [begins,live,told.thresholds,seen] at begun
        exact begun
      refine ⟨first,rest ++ [f],rfl,fun g member => ?_,?_⟩
      · rcases List.mem_append.mp member with old | new
        · exact timed g old
        · rw [List.mem_singleton.mp new]
          exact stamped live
      · rw [if_pos rfl,goes,account_snoc timed,same]
        rfl

theorem told_operate (told : Told t e since) : Told t (operate e op) (noteSince e op since) := by
  by_cases frame : ∃ f, op = .process f
  · obtain ⟨f,rfl⟩ := frame
    exact told_process told
  · obtain ⟨account,timing⟩ := operate_quiet (e := e) fun f same => frame ⟨f,same⟩
    have noted : noteSince e op since = since := by
      cases op with
      | process f => exact absurd ⟨f,rfl⟩ frame
      | _ => rfl
    refine ⟨operate_thresholds.trans told.thresholds,told.observed.of_timing timing,?_⟩
    rw [noted,account]
    exact told.frames

theorem run_told (deviceId bootId : String) (t : IncidentThresholds R) (ops : List (Operation R)) :
    let s := run (observed operate noteSince) (fresh deviceId bootId t,none) ops
    Told t s.1 s.2 := by
  intro s
  refine invariant (fun s : Engine R × Option (List (FrameEvidence R)) => Told t s.1 s.2) ?_ ?_
  · rintro ⟨e,since⟩ op told
    exact told_operate told
  · refine ⟨rfl,⟨rfl,fun said told => ?_⟩,fun frames none => ?_⟩
    · cases told
    · cases none

section Exact
variable {t : IncidentThresholds ℚ} {e : Engine ℚ} {frames : List (FrameEvidence ℚ)} {a b : UInt64}

def apart (a b : UInt64) : ℚ := |(a.toNat : ℚ) - b.toNat| / 1000000000

theorem toSeconds_exact (ns : UInt64) : (toSeconds ns : ℚ) = ns.toNat / 1000000000 := by
  have scale : (1000000000.0 : ℚ) = 1000000000 := by norm_num
  exact congrArg ((ns.toNat : ℚ) / ·) scale

theorem apart_difference : toSeconds (if a > b then a - b else b - a) = apart a b := by
  rw [toSeconds_exact,apart]
  congr 1
  split
  · rename_i later
    have order : b.toNat ≤ a.toNat := Nat.le_of_lt (UInt64.lt_iff_toNat_lt.mp later)
    have nonneg : (b.toNat : ℚ) ≤ a.toNat := by exact_mod_cast order
    rw [UInt64.toNat_sub_of_le _ _ (UInt64.le_iff_toNat_le.mpr order),Nat.cast_sub order,abs_of_nonneg (sub_nonneg.mpr nonneg)]
  · rename_i earlier
    have order : a.toNat ≤ b.toNat := Nat.le_of_not_lt fun later => earlier (UInt64.lt_iff_toNat_lt.mpr later)
    have nonpos : (a.toNat : ℚ) ≤ b.toNat := by exact_mod_cast order
    rw [UInt64.toNat_sub_of_le _ _ (UInt64.le_iff_toNat_le.mpr order),Nat.cast_sub order,
      abs_of_nonpos (sub_nonpos.mpr nonpos),neg_sub]

structure Summarized (t : IncidentThresholds ℚ) (frames : List (FrameEvidence ℚ)) (s : IncidentSnapshot ℚ) : Prop where
  first : ∃ first ∈ frames.head?, s.firstDetectionNs = first.monotonicNs ∧ s.firstZone = first.zone
  last : ∃ last ∈ frames.getLast?, s.currentZone = last.zone
  peakFire : s.peakFireConfidence = (frames.map FrameEvidence.fireConfidence).foldl max 0
  peakSmoke : s.peakSmokeConfidence = (frames.map FrameEvidence.smokeConfidence).foldl max 0
  known : s.smokeFirstKnown = true ↔ ∃ fire ∈ earliest (showsFire t) frames, ∃ smoke ∈ earliest (showsSmoke t) frames,
    t.timingUncertaintySeconds < apart smoke fire
  order : ∀ fire ∈ earliest (showsFire t) frames, ∀ smoke ∈ earliest (showsSmoke t) frames,
    t.timingUncertaintySeconds < apart smoke fire →
      s.smokeFirst = decide (smoke < fire) ∧ s.smokeToFireDelaySeconds = apart smoke fire

theorem observation_cases (e : Engine ℚ) : sequenceObservation e =
    if e.firstSmokeNs ≠ 0 ∧ e.firstFireNs ≠ 0 ∧ e.thresholds.timingUncertaintySeconds < apart e.firstSmokeNs e.firstFireNs
    then some (decide (e.firstSmokeNs < e.firstFireNs),apart e.firstSmokeNs e.firstFireNs) else none := by
  unfold sequenceObservation
  rw [apart_difference]
  by_cases far : e.firstSmokeNs ≠ 0 ∧ e.firstFireNs ≠ 0 ∧
      e.thresholds.timingUncertaintySeconds < apart e.firstSmokeNs e.firstFireNs
  · rw [if_pos far]
    obtain ⟨smoke,fire,above⟩ := far
    rw [if_neg (not_or.mpr ⟨smoke,fire⟩)]
    exact if_neg (not_le.mpr above)
  · rw [if_neg far]
    split
    · rfl
    · rename_i set
      obtain ⟨smoke,fire⟩ := not_or.mp set
      exact if_pos (not_lt.mp fun above => far ⟨smoke,fire,above⟩)

theorem earliest_iff {shows : FrameEvidence ℚ → Bool} {time : UInt64} (timed : ∀ g ∈ frames, g.monotonicNs ≠ 0) :
    time ∈ earliest shows frames ↔ (earliest shows frames).getD 0 = time ∧ time ≠ 0 := by
  unfold earliest
  cases found : frames.find? shows with
  | none => simpa using fun same : 0 = time => same.symm
  | some g =>
    have past : g.monotonicNs ≠ 0 := timed g (List.mem_of_find?_eq_some found)
    constructor
    · intro same
      obtain rfl : g.monotonicNs = time := Option.some.inj same
      exact ⟨rfl,past⟩
    · rintro ⟨same,_⟩
      exact congrArg some same

theorem earliest_least {shows : FrameEvidence ℚ → Bool} {g : FrameEvidence ℚ}
    (ordered : frames.Pairwise fun a b => a.monotonicNs ≤ b.monotonicNs) (member : g ∈ frames) (shown : shows g = true) :
    ∃ time ∈ earliest shows frames, time ≤ g.monotonicNs := by
  induction frames with
  | nil => cases member
  | cons head rest ih =>
    obtain ⟨below,sorted⟩ := List.pairwise_cons.mp ordered
    unfold earliest
    rw [List.find?_cons]
    cases here : shows head with
    | true =>
      refine ⟨head.monotonicNs,rfl,?_⟩
      rcases List.mem_cons.mp member with rfl | later
      · exact UInt64.le_refl _
      · exact below g later
    | false =>
      rcases List.mem_cons.mp member with rfl | later
      · rw [here] at shown
        cases shown
      · exact ih sorted later

theorem summarized {since : Option (List (FrameEvidence ℚ))} (told : Told t e since) (among : frames ∈ since) :
    Summarized t frames e.snapshot := by
  obtain ⟨first,rest,rfl,timed,same⟩ := told.frames frames among
  obtain ⟨firstDetection,firstZone,currentZone,peakFire,peakSmoke,firstFire,firstSmoke⟩ := Account.mk.inj same
  have peak : ∀ values : List ℚ, values.foldl larger 0 = values.foldl max 0 := by
    intro values
    congr 1
    funext a b
    exact larger_max a b
  have fires : ∀ time, time ∈ earliest (showsFire t) (first :: rest) ↔ e.firstFireNs = time ∧ time ≠ 0 := by
    intro time
    rw [firstFire]
    exact earliest_iff timed
  have smokes : ∀ time, time ∈ earliest (showsSmoke t) (first :: rest) ↔ e.firstSmokeNs = time ∧ time ≠ 0 := by
    intro time
    rw [firstSmoke]
    exact earliest_iff timed
  have observation := observation_cases e
  rw [told.thresholds] at observation
  have last : (first :: rest).getLast? = some (rest.getLast?.getD first) := List.getLast?_cons
  refine ⟨⟨first,rfl,firstDetection,firstZone⟩,⟨_,last,currentZone⟩,peakFire.trans (peak _),peakSmoke.trans (peak _),?_,?_⟩
  · rw [told.observed.1,observation]
    constructor
    · intro known
      split at known
      · rename_i far
        exact ⟨_,(fires _).mpr ⟨rfl,far.2.1⟩,_,(smokes _).mpr ⟨rfl,far.1⟩,far.2.2⟩
      · cases known
    · rintro ⟨fire,burns,smoke,rises,far⟩
      obtain ⟨rfl,lit⟩ := (fires fire).mp burns
      obtain ⟨rfl,seen⟩ := (smokes smoke).mp rises
      rw [if_pos ⟨seen,lit,far⟩]
      rfl
  · intro fire burns smoke rises far
    obtain ⟨rfl,lit⟩ := (fires fire).mp burns
    obtain ⟨rfl,seen⟩ := (smokes smoke).mp rises
    rw [if_pos ⟨seen,lit,far⟩] at observation
    exact told.observed.2 _ observation

-- While time does not go back the two earliest times are also the least ones.
theorem summary_folds (deviceId bootId : String) (t : IncidentThresholds ℚ) (ops : List (Operation ℚ)) (f : FrameEvidence ℚ) :
    let s := run (observed operate noteSince) (fresh deviceId bootId t,none) (ops ++ [.process f])
    ∀ frames ∈ s.2, Summarized t frames s.1.snapshot ∧
      ((frames.Pairwise fun a b => a.monotonicNs ≤ b.monotonicNs) → ∀ g ∈ frames,
        (showsFire t g = true → ∃ fire ∈ earliest (showsFire t) frames, fire ≤ g.monotonicNs) ∧
        (showsSmoke t g = true → ∃ smoke ∈ earliest (showsSmoke t) frames, smoke ≤ g.monotonicNs)) := by
  intro s frames among
  have told : Told t s.1 s.2 := run_told deviceId bootId t (ops ++ [.process f])
  refine ⟨summarized told among,fun ordered g member => ⟨fun fire => ?_,fun smoke => ?_⟩⟩
  · exact earliest_least ordered member fire
  · exact earliest_least ordered member smoke

-- Smoke, an outage, and fire a second after the smoke.
def smokeThenFire : List (Operation ℚ) :=
  [.process (frame 1 0 0 0.70),.setDegraded true,.process (frame 2 500 0.99),.setDegraded false,
    .process (frame 3 600 0 0.80)]

theorem smoke_then_fire :
    let s := run (observed operate noteSince) (fresh "device" "timing" defaultThresholds,none)
      (smokeThenFire ++ [.process (frame 4 1600 0.70)])
    ∃ frames ∈ s.2, frames.length = 2 ∧ Summarized defaultThresholds frames s.1.snapshot := by
  intro s
  have here : s.2.isSome = true := by decide +kernel
  obtain ⟨frames,among⟩ := Option.isSome_iff_exists.mp here
  have both : (s.2.map List.length) = some 2 := by decide +kernel
  rw [among,Option.map_some,Option.some.injEq] at both
  exact ⟨frames,among,both,(summary_folds "device" "timing" defaultThresholds smokeThenFire (frame 4 1600 0.70) frames among).1⟩

end Exact

end Ignis.IncidentEngine
