import Ignis.FireHistory
import Ignis.Runs

namespace Ignis.FireLoss
open FireVerifier FireHistory Runs
variable {R : Type} [Double R] [IntCast R] {verifier : FireVerifier R} {monotonicNs : ℤ} {detections : List (Detection R)}

def advance (verifier : FireVerifier R) (input : ℤ × List (Detection R)) : FireVerifier R := verifier.update input.1 input.2

-- History variable: the time of the newest frame, whether it was relevant, and the time of the
-- last relevant one.
structure Seen where
  clock : ℤ
  relevant : Bool
  sighting : Option ℤ

def noteSeen (verifier : FireVerifier R) (input : ℤ × List (Detection R)) (seen : Option Seen) : Option Seen :=
  some ⟨input.1,verifier.relevant input.2,if verifier.relevant input.2 then some input.1 else seen.bind Seen.sighting⟩

-- Where the signature is said to be lost, the frame at hand is without it and comes late
-- enough after the last frame with it.
def LostMeansLost (s : FireVerifier R × Option Seen) : Prop :=
  s.1.state.hazardState = .visualSignatureLost →
    ∃ seen ∈ s.2, seen.relevant = false ∧ ∃ sighting ∈ seen.sighting, s.1.clearNs ≤ seen.clock - sighting

def Regained (s : FireVerifier R × Option Seen) (input : ℤ × List (Detection R)) : Prop :=
  s.1.state.hazardState = .visualSignatureLost → s.1.relevant input.2 = true →
    s.1.required ≤ hits (appended s.1.windowLength s.1.window true)

def NotBefore (s : FireVerifier R × Option Seen) (input : ℤ × List (Detection R)) : Prop := ∀ seen ∈ s.2, seen.clock ≤ input.1

structure Tracked (s : FireVerifier R × Option Seen) : Prop where
  sighted : s.1.state.incidentId.isSome = true → ∃ seen ∈ s.2, seen.sighting = some s.1.state.lastRelevantNs
  elapsed : s.1.state.confirmed = true → s.1.state.incidentId.isSome = true ∧
    ∃ seen ∈ s.2, s.1.confirmNs ≤ seen.clock - s.1.state.firstDetectionNs
  lost : s.1.state.hazardState = .visualSignatureLost → s.1.state.confirmed = true

theorem raised_hazard : (verifier.update monotonicNs detections).state.hazardState = .visualSignatureLost →
    verifier.relevant detections = true → verifier.state.incidentId.isSome = true →
      verifier.state.hazardState = .visualSignatureLost := by
  intro lost relevant present
  obtain ⟨incidentId,there⟩ := Option.isSome_iff_exists.mp present
  simp only [update,relevant,if_true,raised,opened,seen,there] at lost
  split at lost
  · cases lost
  · split at lost
    · cases lost
    · exact lost

theorem raised_absent : verifier.relevant detections = true → verifier.state.incidentId = none →
    (verifier.update monotonicNs detections).state.hazardState ≠ .visualSignatureLost := by
  intro relevant absent lost
  simp only [update,relevant,if_true,raised,opened,seen,absent] at lost
  split at lost
  · cases lost
  · split at lost
    · cases lost
    · cases lost

theorem raised_lost (relevant : verifier.relevant detections = true) (present : verifier.state.incidentId.isSome = true)
    (lost : verifier.state.hazardState = .visualSignatureLost) (confirmed : verifier.state.confirmed = true) :
    (verifier.update monotonicNs detections).state.hazardState = .visualSignatureLost ↔
      ¬ (verifier.required ≤ hits (appended verifier.windowLength verifier.window true) ∧
        verifier.confirmNs ≤ monotonicNs - verifier.state.firstDetectionNs) := by
  obtain ⟨incidentId,there⟩ := Option.isSome_iff_exists.mp present
  simp only [update,relevant,if_true,raised,opened,seen,there,confirmed,Bool.not_true,Bool.and_false,Bool.false_eq_true,
    if_false,lost,Bool.and_eq_true,decide_eq_true_eq]
  split
  · rename_i both
    have differs : HazardState.confirmed ≠ .visualSignatureLost := by decide
    exact iff_of_false differs (fun neither => neither both)
  · rename_i neither
    exact iff_of_true rfl neither

theorem missed_lost (missing : verifier.relevant detections = false)
    (lost : (verifier.update monotonicNs detections).state.hazardState = .visualSignatureLost) :
    verifier.state.hazardState = .visualSignatureLost ∨ (verifier.state.incidentId.isSome = true ∧
      verifier.state.confirmed = true ∧ verifier.clearNs ≤ monotonicNs - verifier.state.lastRelevantNs) := by
  have same : (verifier.seen detections).state.incidentId = verifier.state.incidentId := rfl
  unfold update at lost
  rw [missing] at lost
  dsimp only at lost
  rw [if_neg Bool.false_ne_true,same] at lost
  cases present : verifier.state.incidentId.isSome with
  | false =>
    rw [present] at lost
    exact .inl lost
  | true =>
    rw [present,if_pos rfl] at lost
    unfold missed at lost
    dsimp only at lost
    split at lost
    · cases lost
    · split at lost
      · rename_i late
        rw [Bool.and_eq_true,decide_eq_true_eq] at late
        exact .inr ⟨rfl,late.1,late.2⟩
      · split at lost
        · cases lost
        · exact .inl lost

theorem update_limits : (verifier.update monotonicNs detections).confirmNs = verifier.confirmNs ∧
    (verifier.update monotonicNs detections).clearNs = verifier.clearNs := by
  obtain ⟨_,_,_,same⟩ := update_same verifier monotonicNs detections
  rw [same]
  exact ⟨rfl,rfl⟩

variable {s : FireVerifier R × Option Seen} {input : ℤ × List (Detection R)}

section
omit [IntCast R]

theorem noteSeen_relevant {seen : Option Seen} (relevant : verifier.relevant input.2 = true) :
    noteSeen verifier input seen = some ⟨input.1,true,some input.1⟩ := by
  rw [noteSeen,relevant]
  rfl

theorem noteSeen_missing {seen : Option Seen} (missing : verifier.relevant input.2 = false) :
    noteSeen verifier input seen = some ⟨input.1,false,seen.bind Seen.sighting⟩ := by
  rw [noteSeen,missing]
  rfl

end

section
omit [Double R] [IntCast R]

theorem tracked_late (tracked : Tracked s) (ordered : NotBefore s input) (confirmed : s.1.state.confirmed = true) :
    s.1.state.incidentId.isSome = true ∧ s.1.confirmNs ≤ input.1 - s.1.state.firstDetectionNs := by
  obtain ⟨present,earlier,old,elapsed⟩ := tracked.elapsed confirmed
  have clock := ordered earlier old
  exact ⟨present,by omega⟩

end

theorem tracked_raised (tracked : Tracked s) (ordered : NotBefore s input) (relevant : s.1.relevant input.2 = true) :
    Tracked (observed advance noteSeen s input) := by
  obtain ⟨verifier,seen⟩ := s
  have raises : Raised verifier (verifier.update input.1 input.2) input.1 := update_raised relevant
  have noted : noteSeen verifier input seen = some ⟨input.1,true,some input.1⟩ := noteSeen_relevant relevant
  have present : (verifier.update input.1 input.2).state.incidentId.isSome = true := by
    rw [raises.incidentId]
    rfl
  constructor
  · intro _
    exact ⟨_,noted,congrArg some raises.lastRelevantNs.symm⟩
  · intro confirmed
    refine ⟨present,_,noted,?_⟩
    show (verifier.update input.1 input.2).confirmNs ≤ input.1 - (verifier.update input.1 input.2).state.firstDetectionNs
    have before : (verifier.update input.1 input.2).state.confirmed = true := confirmed
    rw [update_limits.1]
    rw [raises.confirmed,Bool.or_eq_true,Bool.and_eq_true,decide_eq_true_eq,decide_eq_true_eq] at before
    rcases before with already | ⟨_,now⟩
    · obtain ⟨there,late⟩ := tracked_late tracked ordered already
      rw [raises.firstDetectionNs,if_neg (Option.isSome_iff_ne_none.mp there)]
      exact late
    · exact now
  · intro lost
    show (verifier.update input.1 input.2).state.confirmed = true
    rw [raises.confirmed,Bool.or_eq_true]
    cases there : verifier.state.incidentId with
    | none => exact absurd lost (raised_absent relevant there)
    | some incidentId =>
      have before := raised_hazard lost relevant (by rw [there]; rfl)
      exact .inl (tracked.lost before)

section
omit [IntCast R]

theorem tracked_clear {after : FireVerifier R × Option Seen} (cleared : after.1.state = clearState) : Tracked after := by
  constructor
  · intro present
    rw [cleared] at present
    cases present
  · intro confirmed
    rw [cleared] at confirmed
    cases confirmed
  · intro lost
    rw [cleared] at lost
    cases lost

end

theorem tracked_missed (tracked : Tracked s) (ordered : NotBefore s input) (missing : s.1.relevant input.2 = false) :
    Tracked (observed advance noteSeen s input) := by
  obtain ⟨verifier,seen⟩ := s
  have noted : noteSeen verifier input seen = some ⟨input.1,false,seen.bind Seen.sighting⟩ := noteSeen_missing missing
  rcases update_missed input.1 missing with ⟨_,forgets⟩ | ⟨_,misses⟩
  · exact tracked_clear (congrArg FireVerifier.state forgets)
  · constructor
    · intro present
      have there : (verifier.update input.1 input.2).state.incidentId.isSome = true := present
      rw [misses.incidentId] at there
      obtain ⟨earlier,old,sighting⟩ := tracked.sighted there
      refine ⟨_,noted,?_⟩
      show seen.bind Seen.sighting = some (verifier.update input.1 input.2).state.lastRelevantNs
      rw [misses.lastRelevantNs,show seen = some earlier from old]
      exact sighting
    · intro confirmed
      have before : (verifier.update input.1 input.2).state.confirmed = true := confirmed
      rw [misses.confirmed] at before
      obtain ⟨there,late⟩ := tracked_late tracked ordered before
      refine ⟨?_,_,noted,?_⟩
      · show (verifier.update input.1 input.2).state.incidentId.isSome = true
        rw [misses.incidentId]
        exact there
      · show (verifier.update input.1 input.2).confirmNs ≤ input.1 - (verifier.update input.1 input.2).state.firstDetectionNs
        rw [misses.firstDetectionNs,update_limits.1]
        exact late
    · intro lost
      show (verifier.update input.1 input.2).state.confirmed = true
      rw [misses.confirmed]
      rcases missed_lost missing lost with before | ⟨_,confirmed,_⟩
      · exact tracked.lost before
      · exact confirmed

theorem tracked_step (tracked : Tracked s) (ordered : NotBefore s input) : Tracked (observed advance noteSeen s input) := by
  cases relevant : s.1.relevant input.2 with
  | true => exact tracked_raised tracked ordered relevant
  | false => exact tracked_missed tracked ordered relevant

theorem means_over (relevant : s.1.relevant input.2 = true) : LostMeansLost (observed advance noteSeen s input) ↔
    (s.1.update input.1 input.2).state.hazardState ≠ .visualSignatureLost := by
  constructor
  · intro means lost
    obtain ⟨new,here,unseen,_⟩ := means lost
    have same : new = ⟨input.1,true,some input.1⟩ := Option.some.inj (here.symm.trans (noteSeen_relevant relevant))
    rw [same] at unseen
    cases unseen
  · exact fun unlost lost => absurd lost unlost

theorem lost_raised (tracked : Tracked s) (ordered : NotBefore s input) (relevant : s.1.relevant input.2 = true) :
    LostMeansLost (observed advance noteSeen s input) ↔ Regained s input := by
  rw [means_over relevant]
  by_cases before : s.1.state.hazardState = .visualSignatureLost
  · have confirmed := tracked.lost before
    obtain ⟨present,late⟩ := tracked_late tracked ordered confirmed
    rw [ne_eq,raised_lost relevant present before confirmed,not_not]
    exact ⟨fun both _ _ => both.1,fun regained => ⟨regained before relevant,late⟩⟩
  · refine iff_of_true (fun lost => ?_) fun lost => absurd lost before
    cases there : s.1.state.incidentId with
    | none => exact raised_absent relevant there lost
    | some incidentId => exact before (raised_hazard lost relevant (by rw [there]; rfl))

theorem lost_missed (tracked : Tracked s) (ordered : NotBefore s input) (held : LostMeansLost s)
    (missing : s.1.relevant input.2 = false) : LostMeansLost (observed advance noteSeen s input) := by
  obtain ⟨verifier,seen⟩ := s
  intro lost
  refine ⟨_,noteSeen_missing missing,rfl,?_⟩
  show ∃ sighting ∈ seen.bind Seen.sighting, (verifier.update input.1 input.2).clearNs ≤ input.1 - sighting
  rw [update_limits.2]
  rcases missed_lost missing lost with before | ⟨present,_,late⟩
  · obtain ⟨earlier,old,_,sighting,last,gone⟩ := held before
    have clock := ordered earlier old
    refine ⟨sighting,?_,?_⟩
    · rw [show seen = some earlier from old]
      exact last
    · have bound : verifier.clearNs ≤ earlier.clock - sighting := gone
      omega
  · obtain ⟨earlier,old,last⟩ := tracked.sighted present
    refine ⟨verifier.state.lastRelevantNs,?_,late⟩
    rw [show seen = some earlier from old]
    exact last

theorem lost_step (tracked : Tracked s) (ordered : NotBefore s input) (held : LostMeansLost s) :
    LostMeansLost (observed advance noteSeen s input) ↔ Regained s input := by
  cases relevant : s.1.relevant input.2 with
  | true => exact lost_raised tracked ordered relevant
  | false =>
    refine iff_of_true (lost_missed tracked ordered held relevant) ?_
    intro _ shown
    rw [relevant] at shown
    cases shown

theorem ordered_within {inputs : List (ℤ × List (Detection R))} (first : ∀ seen ∈ s.2, ∀ input ∈ inputs, seen.clock ≤ input.1)
    (ordered : (inputs.map Prod.fst).Pairwise (· ≤ ·)) : Along (observed advance noteSeen) NotBefore s inputs := by
  induction inputs generalizing s with
  | nil => trivial
  | cons input rest ih =>
    obtain ⟨below,sorted⟩ := List.pairwise_cons.mp ordered
    refine ⟨fun seen there => first seen there input List.mem_cons_self,ih ?_ sorted⟩
    intro seen there later member
    cases there
    exact below later.1 (List.mem_map_of_mem member)

-- For every choice of the parameters, exactly when every fire that comes back is regained.
theorem lost_means_lost_iff (deviceId bootId : String) (limits : Limits) (fireThreshold smokeThreshold : R)
    (inputs : List (ℤ × List (Detection R))) (ordered : (inputs.map Prod.fst).Pairwise (· ≤ ·)) :
    let start := (initialized deviceId bootId limits fireThreshold smokeThreshold,(none : Option Seen))
    Throughout (observed advance noteSeen) LostMeansLost start inputs ↔ Along (observed advance noteSeen) Regained start inputs := by
  intro start
  refine throughout_iff_within Tracked (fun s input within tracked => tracked_step tracked within)
    (fun s input within tracked held => lost_step tracked within held) (ordered_within ?_ ordered) ?_ ?_
  · intro seen none
    cases none
  · constructor
    · intro present
      cases present
    · intro confirmed
      cases confirmed
    · intro lost
      cases lost
  · intro lost
    cases lost

-- The limits of the Pi, and frames half a second apart.
def flame : List (Detection ℚ) := [⟨"fire",0,0.9,(0.2,0.2,0.4,0.4)⟩]
def filmed (flames : List Bool) : List (ℤ × List (Detection ℚ)) :=
  flames.zipIdx.map fun (shown,i) => (1000000000 + i * 500000000,if shown then flame else [])
def limitsOfPi : Limits := ⟨10,6,1500000000,5000000000,10000000000⟩

-- Six frames with the fire, one without it that comes six seconds late, and the fire again.
def blinked : List (ℤ × List (Detection ℚ)) := filmed (List.replicate 6 true) ++ [(9500000000,[]),(10000000000,flame)]
def startOfPi : FireVerifier ℚ × Option Seen := (initialized "pi" "boot" limitsOfPi 0.55 0.65,none)

theorem blinked_fire_regained : Throughout (observed advance noteSeen) LostMeansLost startOfPi blinked ∧
    (run (observed advance noteSeen) startOfPi blinked.dropLast).1.state.hazardState = .visualSignatureLost ∧
    (run (observed advance noteSeen) startOfPi blinked).1.state.hazardState = .confirmed := by
  have ordered : (blinked.map Prod.fst).Pairwise (· ≤ ·) := by decide +kernel
  have regained : Along (observed advance noteSeen) Regained startOfPi blinked := by
    unfold Regained
    decide +kernel
  refine ⟨(lost_means_lost_iff "pi" "boot" limitsOfPi (0.55 : ℚ) 0.65 blinked ordered).mpr regained,?_,?_⟩
  · decide +kernel
  · decide +kernel

-- Six frames with the fire, eleven without, and one more with it.
theorem visible_fire_lost :
    ((filmed (List.replicate 6 true ++ List.replicate 11 false ++ [true])).map Prod.fst).Pairwise (· ≤ ·) ∧
    ¬ Throughout (observed advance noteSeen) LostMeansLost (initialized "pi" "boot" limitsOfPi (0.55 : ℚ) 0.65,none)
      (filmed (List.replicate 6 true ++ List.replicate 11 false ++ [true])) := by
  refine ⟨by decide +kernel,fun all => ?_⟩
  have lost : (run (observed advance noteSeen) (initialized "pi" "boot" limitsOfPi (0.55 : ℚ) 0.65,none)
      (filmed (List.replicate 6 true ++ List.replicate 11 false ++ [true]))).1.state.hazardState = .visualSignatureLost := by
    decide +kernel
  have shown : (run (observed advance noteSeen) (initialized "pi" "boot" limitsOfPi (0.55 : ℚ) 0.65,none)
      (filmed (List.replicate 6 true ++ List.replicate 11 false ++ [true]))).2.map Seen.relevant = some true := by
    decide +kernel
  obtain ⟨seen,there,unseen,_⟩ := all.last lost
  rw [there,Option.map_some,unseen] at shown
  cases shown

end Ignis.FireLoss
