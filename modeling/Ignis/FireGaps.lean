import Ignis.FireIncidents
import Ignis.FireLoss

-- The gate forgets a fire on a frame without a signature only, so the gap must hold such a frame, and late enough.
namespace Ignis.FireGaps
open FireVerifier FireHistory FireIncidents FireLoss Runs
variable {R : Type} [Double R] [IntCast R] {verifier first : FireVerifier R} {limits : Limits}
  {input : ℤ × List (Detection R)} {inputs gap : List (ℤ × List (Detection R))} {window : List Bool}

def patience (verifier : FireVerifier R) : ℤ := if verifier.state.confirmed then verifier.resetNs else verifier.clearNs

-- The incident on show after the second fire is a new one: the next number, a name of its own, its
-- start at that fire, and no hit in the window from before it.
structure Separated (sighted resumed after : FireVerifier R) (monotonicNs : ℤ) : Prop where
  numbered : after.counter = sighted.counter + 1 ∧ after.state.incidentId = some (issued after after.counter)
  renamed : after.state.incidentId ≠ sighted.state.incidentId
  begun : after.state.firstDetectionNs = monotonicNs
  clean : hits resumed.window = 0

structure Waiting (sighted verifier : FireVerifier R) : Prop where
  incidentId : verifier.state.incidentId = sighted.state.incidentId
  counter : verifier.counter = sighted.counter
  lastRelevantNs : verifier.state.lastRelevantNs = sighted.state.lastRelevantNs
  patience : patience verifier = patience sighted

structure Forgotten (sighted verifier : FireVerifier R) : Prop where
  incidentId : verifier.state.incidentId = none
  counter : verifier.counter = sighted.counter
  clean : hits verifier.window = 0

variable {sighted : FireVerifier R}

theorem hits_appended (length : ℕ) (clean : hits window = 0) : hits (appended length window false) = 0 := by
  have grown : (window ++ [false]).count true = 0 := by
    rw [List.count_append]
    exact clean
  exact Nat.le_zero.mp ((List.Sublist.count_le true (List.drop_sublist _ _)).trans grown.le)

theorem update_patience (kept : (verifier.update input.1 input.2).state.confirmed = verifier.state.confirmed) :
    patience (verifier.update input.1 input.2) = patience verifier := by
  obtain ⟨_,_,_,same⟩ := update_same verifier input.1 input.2
  unfold patience
  rw [kept,same]

section
omit [Double R] [IntCast R]

theorem overdue_iff (present : verifier.state.incidentId.isSome = true) (monotonicNs : ℤ) :
    overdue verifier monotonicNs = true ↔ patience verifier ≤ monotonicNs - verifier.state.lastRelevantNs := by
  rw [overdue,present,Bool.true_and,decide_eq_true_eq]
  exact Iff.rfl

end

theorem waiting_step (present : sighted.state.incidentId.isSome = true) (waiting : Waiting sighted verifier)
    (missing : verifier.relevant input.2 = false) :
    (patience sighted ≤ input.1 - sighted.state.lastRelevantNs ∧ Forgotten sighted (advance verifier input)) ∨
      (¬ patience sighted ≤ input.1 - sighted.state.lastRelevantNs ∧ Waiting sighted (advance verifier input)) := by
  have there : verifier.state.incidentId.isSome = true := by
    rw [waiting.incidentId]
    exact present
  have due : overdue verifier input.1 = true ↔ patience sighted ≤ input.1 - sighted.state.lastRelevantNs := by
    rw [overdue_iff there,waiting.patience,waiting.lastRelevantNs]
  rcases update_missed input.1 missing with ⟨late,forgets⟩ | ⟨early,misses⟩
  · refine .inl ⟨due.mp late,?_⟩
    have now : advance verifier input = (verifier.seen input.2).forgotten := forgets
    rw [now]
    exact ⟨rfl,waiting.counter,rfl⟩
  · refine .inr ⟨?_,?_⟩
    · rw [← due,early]
      exact Bool.false_ne_true
    · exact ⟨misses.incidentId.trans waiting.incidentId,misses.counter.trans waiting.counter,
        misses.lastRelevantNs.trans waiting.lastRelevantNs,(update_patience misses.confirmed).trans waiting.patience⟩

theorem forgotten_step (forgotten : Forgotten sighted verifier) (missing : verifier.relevant input.2 = false) :
    Forgotten sighted (advance verifier input) := by
  rcases update_missed input.1 missing with ⟨late,_⟩ | ⟨_,misses⟩
  · rw [overdue,forgotten.incidentId] at late
    cases late
  · refine ⟨misses.incidentId.trans forgotten.incidentId,misses.counter.trans forgotten.counter,?_⟩
    have grown : (advance verifier input).window = appended verifier.windowLength verifier.window false := misses.window
    rw [grown]
    exact hits_appended _ forgotten.clean

theorem advance_relevant : (advance verifier input).relevant = verifier.relevant := by
  obtain ⟨_,_,_,same⟩ := update_same verifier input.1 input.2
  rw [advance,same]
  rfl

theorem quiet_along (missing : ∀ frame ∈ gap, verifier.relevant frame.2 = false) :
    Along advance (fun verifier frame => verifier.relevant frame.2 = false) verifier gap := by
  induction gap generalizing verifier with
  | nil => trivial
  | cons frame rest ih =>
    refine ⟨missing frame List.mem_cons_self,ih ?_⟩
    rw [advance_relevant]
    exact fun other member => missing other (List.mem_cons_of_mem _ member)

theorem gap_cases (present : sighted.state.incidentId.isSome = true) (waiting : Waiting sighted verifier)
    (missing : ∀ frame ∈ gap, verifier.relevant frame.2 = false) :
    ((∃ frame ∈ gap, patience sighted ≤ frame.1 - sighted.state.lastRelevantNs) ∧ Forgotten sighted (run advance verifier gap)) ∨
      ((¬ ∃ frame ∈ gap, patience sighted ≤ frame.1 - sighted.state.lastRelevantNs) ∧
        Waiting sighted (run advance verifier gap)) := by
  induction gap generalizing verifier with
  | nil => exact .inr ⟨fun ⟨_,member,_⟩ => absurd member List.not_mem_nil,waiting⟩
  | cons frame rest ih =>
    have later : ∀ other ∈ rest, (advance verifier frame).relevant other.2 = false := by
      rw [advance_relevant]
      exact fun other member => missing other (List.mem_cons_of_mem _ member)
    rcases waiting_step present waiting (missing frame List.mem_cons_self) with ⟨late,forgotten⟩ | ⟨early,still⟩
    · refine .inl ⟨⟨frame,List.mem_cons_self,late⟩,?_⟩
      rw [run_cons]
      exact invariant_along (Forgotten sighted) (fun _ _ missing forgotten => forgotten_step forgotten missing) forgotten
        (quiet_along later)
    · rcases ih still later with ⟨⟨other,member,late⟩,forgotten⟩ | ⟨none,waits⟩
      · exact .inl ⟨⟨other,List.mem_cons_of_mem _ member,late⟩,forgotten⟩
      · refine .inr ⟨?_,waits⟩
        rintro ⟨other,member,late⟩
        rcases List.mem_cons.mp member with rfl | inside
        · exact early late
        · exact none ⟨other,inside,late⟩

theorem resumed_iff (naming : Naming sighted) (present : sighted.state.incidentId.isSome = true)
    (same : ∀ number, issued verifier number = issued sighted number) (relevant : verifier.relevant input.2 = true)
    (turns : (late ∧ Forgotten sighted verifier) ∨ (¬ late ∧ Waiting sighted verifier)) :
    Separated sighted verifier (advance verifier input) input.1 ↔ late := by
  have raises : Raised verifier (advance verifier input) input.1 := update_raised relevant
  obtain ⟨positive,last⟩ := naming.last present
  rcases turns with ⟨late,forgotten⟩ | ⟨early,waiting⟩
  · refine iff_of_true ?_ late
    have number : (advance verifier input).counter = sighted.counter + 1 := by
      rw [raises.counter,if_pos forgotten.incidentId,forgotten.counter]
    have name : (advance verifier input).state.incidentId = some (issued sighted (sighted.counter + 1)) := by
      rw [raises.incidentId,forgotten.incidentId,Option.getD_none,← same,← forgotten.counter]
      rfl
    refine ⟨⟨number,?_⟩,?_,?_,forgotten.clean⟩
    · rw [name,number,← same]
      exact congrArg some (issued_update (sighted.counter + 1)).symm
    · rw [name,last,ne_eq,Option.some.injEq,issued_inj]
      exact Nat.succ_ne_self _
    · rw [raises.firstDetectionNs,if_pos forgotten.incidentId]
  · refine iff_of_false (fun separated => separated.renamed ?_) early
    obtain ⟨incidentId,there⟩ := Option.isSome_iff_exists.mp present
    rw [raises.incidentId,waiting.incidentId,there,Option.getD_some]

theorem run_same (verifier : FireVerifier R) (inputs : List (ℤ × List (Detection R))) :
    (run advance verifier inputs).relevant = verifier.relevant ∧ ∀ number, issued (run advance verifier inputs) number = issued verifier number := by
  refine invariant (fun after => after.relevant = verifier.relevant ∧ ∀ number, issued after number = issued verifier number) ?_
    ⟨rfl,fun _ => rfl⟩
  rintro after input ⟨relevant,names⟩
  exact ⟨advance_relevant.trans relevant,fun number => (issued_update number).trans (names number)⟩

-- The gap must hold a frame that comes the clear time, or the reset time of a confirmed incident, after the
-- first fire.
theorem gap_separates_iff (deviceId bootId : String) (limits : Limits) (fireThreshold smokeThreshold : R)
    (before gap : List (ℤ × List (Detection R))) (first second : ℤ × List (Detection R)) :
    let verifier := initialized deviceId bootId limits fireThreshold smokeThreshold
    let sighted := run advance verifier (before ++ [first])
    let resumed := run advance sighted gap
    verifier.relevant first.2 = true → verifier.relevant second.2 = true → (∀ frame ∈ gap, verifier.relevant frame.2 = false) →
    (Separated sighted resumed (advance resumed second) second.1 ↔ ∃ frame ∈ gap, patience sighted ≤ frame.1 - first.1) := by
  intro verifier sighted resumed burns again missing
  obtain ⟨earlier,_⟩ := run_same verifier before
  obtain ⟨relevant,_⟩ := run_same verifier (before ++ [first])
  obtain ⟨later,names⟩ := run_same sighted gap
  have at_ : sighted = advance (run advance verifier before) first := run_snoc
  have raises : Raised (run advance verifier before) sighted first.1 := by
    rw [at_]
    exact update_raised (by rw [earlier]; exact burns)
  have present : sighted.state.incidentId.isSome = true := by
    rw [raises.incidentId]
    rfl
  have naming : Naming sighted := by
    refine invariant Naming (fun _ _ naming => naming_update naming) ⟨fun named => ?_,fun named => ?_⟩
    · cases named
    · cases named
  have waiting : Waiting sighted sighted := ⟨rfl,rfl,rfl,rfl⟩
  have quiet : ∀ frame ∈ gap, sighted.relevant frame.2 = false := by
    rw [relevant]
    exact missing
  have turns := gap_cases present waiting quiet
  rw [raises.lastRelevantNs] at turns
  exact resumed_iff naming present names (by rw [later,relevant]; exact again) turns

-- A fire at one second and one at seven, with a frame taken in between, and without.
def gateOfPi : FireVerifier ℚ := initialized "pi" "boot" limitsOfPi 0.55 0.65

theorem sampled_gap_separates :
    Separated (run advance gateOfPi [(1000000000,flame)]) (run advance (run advance gateOfPi [(1000000000,flame)]) [(6500000000,[])])
      (advance (run advance (run advance gateOfPi [(1000000000,flame)]) [(6500000000,[])]) (7000000000,flame)) 7000000000 :=
  (gap_separates_iff "pi" "boot" limitsOfPi (0.55 : ℚ) 0.65 [] [(6500000000,[])] (1000000000,flame) (7000000000,flame)
    (by decide +kernel) (by decide +kernel) (by decide +kernel)).mpr (by decide +kernel)

theorem unsampled_gap_joins : limitsOfPi.clearNs ≤ limitsOfPi.resetNs ∧
    patience (run advance gateOfPi [(1000000000,flame)]) ≤ 7000000000 - 1000000000 ∧
    (advance (run advance (run advance gateOfPi [(1000000000,flame)]) []) (7000000000,flame)).state.incidentId =
      (run advance gateOfPi [(1000000000,flame)]).state.incidentId ∧
    ¬ Separated (run advance gateOfPi [(1000000000,flame)]) (run advance (run advance gateOfPi [(1000000000,flame)]) [])
      (advance (run advance (run advance gateOfPi [(1000000000,flame)]) []) (7000000000,flame)) 7000000000 := by
  have carried : hits (run advance (run advance gateOfPi [(1000000000,flame)]) []).window = 1 := by decide +kernel
  refine ⟨by decide,by decide +kernel,by decide +kernel,fun separated => ?_⟩
  have clean := separated.clean
  rw [carried] at clean
  cases clean

end Ignis.FireGaps
