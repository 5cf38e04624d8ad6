import Ignis.EdgeLoop
import Ignis.FireGaps

-- The local log has a record where the state differs from the last one written, whichever incident that was of.
namespace Ignis.LocalLog
open Runs FireVerifier FireHistory FireIncidents FireLoss FireGaps EdgeLoop Protocol

inductive Input where
  | frame (input : FrameInput)
  | proceed (fresh : ℕ) (now : Clock) (outcome : Outcome) (acknowledged : ℕ → Bool)

section Loop
variable (arguments : Arguments) (dumps : Content → List UInt8) (pi : Pi)

def step (pi : Pi) : Input → Pi
  | .frame input => iterate arguments pi input
  | .proceed fresh now outcome acknowledged => (proceed arguments dumps pi fresh now outcome acknowledged).1

def iterates : Bool := pi.running && pi.calls.isEmpty

-- What the log owes an iteration: a record where the verifier has an incident after it, and had
-- another one or none before it, or showed another hazard state.
def transition (input : FrameInput) : List (String × HazardState) :=
  match (verified pi input).state.incidentId with
  | none => []
  | some incidentId =>
    if pi.verifier.state.incidentId ≠ some incidentId ∨ pi.verifier.state.hazardState ≠ (verified pi input).state.hazardState
    then [(incidentId,(verified pi input).state.hazardState)] else []

def entered (input : FrameInput) : List (String × HazardState) :=
  match (verified pi input).state.incidentId with
  | none => []
  | some incidentId =>
    if (verified pi input).state.hazardState = pi.lastState then [] else [(incidentId,(verified pi input).state.hazardState)]

def noteTransition (pi : Pi) : Input → List (String × HazardState) → List (String × HazardState)
  | .frame input,owed => if iterates pi then owed ++ transition pi input else owed
  | .proceed ..,owed => owed

end Loop

def recorded (log : List StateRecord) : List (String × HazardState) := log.map fun record => (record.incidentId,record.hazardState)

-- A loop that an exception has ended may owe the record of its last iteration.
def LogComplete (s : Pi × List (String × HazardState)) : Prop := s.1.running = true → recorded s.1.localLog = s.2

def opensUnseen (pi : Pi) : Input → Bool
  | .frame input => iterates pi && pi.verifier.state.incidentId.isNone && pi.verifier.relevant input.detections &&
      pi.lastState == .suspected
  | .proceed .. => false

-- A verifier with the numbers of the Pi. Without an incident there is no hit in its window, and
-- the state of an incident is the one that was written last.
structure Logged (pi : Pi) : Prop where
  required : pi.verifier.required = 6
  idle : pi.verifier.state.incidentId = none → hits pi.verifier.window = 0
  written : pi.verifier.state.incidentId.isSome = true → pi.lastState = pi.verifier.state.hazardState

variable {arguments : Arguments} {dumps : Content → List UInt8} {pi : Pi} {input : FrameInput}

theorem iterate_entered (arguments : Arguments) (input : FrameInput) (taken : iterates pi = true) :
    (iterate arguments pi input).verifier = verified pi input ∧
      recorded (iterate arguments pi input).localLog = recorded pi.localLog ++ entered pi input ∧
      ((verified pi input).state.incidentId.isSome = true →
        (iterate arguments pi input).lastState = (verified pi input).state.hazardState) := by
  have turn : (pi.running && pi.calls.isEmpty) = true := taken
  unfold iterate
  rw [if_pos turn]
  cases there : (verified pi input).state.incidentId with
  | none =>
    have nothing : entered pi input = [] := by rw [entered,there]
    rw [nothing,List.append_nil]
    exact ⟨rfl,rfl,nofun⟩
  | some incidentId =>
    by_cases same : (verified pi input).state.hazardState = pi.lastState
    · have still : changed pi input = false := by simp [changed,same]
      have nothing : entered pi input = [] := by
        rw [entered,there]
        exact if_pos same
      rw [still,nothing,List.append_nil]
      exact ⟨rfl,rfl,fun _ => same.symm⟩
    · have moved : changed pi input = true := by simp [changed,same]
      have record : entered pi input = [(incidentId,(verified pi input).state.hazardState)] := by
        rw [entered,there]
        exact if_neg same
      rw [moved,record]
      exact ⟨rfl,List.map_append,fun _ => rfl⟩

theorem iterate_idle (busy : iterates pi = false) : iterate arguments pi input = pi := by
  unfold iterate
  rw [show (pi.running && pi.calls.isEmpty) = false from busy]
  rfl

theorem iterate_running : (iterate arguments pi input).running = pi.running := by
  unfold iterate
  split
  · cases (verified pi input).state.incidentId with
    | none => rfl
    | some incidentId => cases changed pi input <;> rfl
  · rfl

theorem opened_suspected (logged : Logged pi) (absent : pi.verifier.state.incidentId = none)
    (relevant : pi.verifier.relevant input.detections = true) : (verified pi input).state.hazardState = .suspected := by
  have single : hits (appended pi.verifier.windowLength pi.verifier.window true) ≤ 1 := by
    have grown : (pi.verifier.window ++ [true]).count true = 1 := by
      rw [List.count_append,show pi.verifier.window.count true = 0 from logged.idle absent]
      rfl
    exact (List.Sublist.count_le true (List.drop_sublist _ _)).trans grown.le
  have weak : ¬ 3 ≤ hits (appended pi.verifier.windowLength pi.verifier.window true) := by omega
  have few : ¬ 6 ≤ hits (appended pi.verifier.windowLength pi.verifier.window true) := by omega
  simp [verified,update,raised,opened,FireVerifier.seen,relevant,absent,logged.required,weak,few]

theorem verified_required (pi : Pi) (input : FrameInput) : (verified pi input).required = pi.verifier.required := by
  obtain ⟨_,_,_,same⟩ := update_same pi.verifier (input.monotonicNs.1 : ℤ) input.detections
  rw [verified,same]

theorem verified_turns (pi : Pi) (input : FrameInput) {incidentId : String} (there : (verified pi input).state.incidentId = some incidentId) :
    pi.verifier.state.incidentId = some incidentId ∨
      (pi.verifier.state.incidentId = none ∧ pi.verifier.relevant input.detections = true) := by
  cases relevant : pi.verifier.relevant input.detections with
  | true =>
    have raises : Raised pi.verifier (verified pi input) input.monotonicNs.1 := update_raised relevant
    cases before : pi.verifier.state.incidentId with
    | none => exact .inr ⟨rfl,rfl⟩
    | some earlier =>
      rw [raises.incidentId,before] at there
      exact .inl there
  | false =>
    rcases update_missed input.monotonicNs.1 relevant with ⟨_,forgets⟩ | ⟨_,misses⟩
    · rw [verified,forgets] at there
      cases there
    · rw [verified,misses.incidentId] at there
      exact .inl there

theorem verified_idle (logged : Logged pi) (absent : (verified pi input).state.incidentId = none) :
    hits (verified pi input).window = 0 := by
  cases relevant : pi.verifier.relevant input.detections with
  | true =>
    have raises : Raised pi.verifier (verified pi input) input.monotonicNs.1 := update_raised relevant
    rw [raises.incidentId] at absent
    cases absent
  | false =>
    rcases update_missed input.monotonicNs.1 relevant with ⟨_,forgets⟩ | ⟨_,misses⟩
    · rw [verified,forgets]
      rfl
    · rw [verified,misses.incidentId] at absent
      rw [verified,misses.window]
      exact hits_appended _ (logged.idle absent)

theorem logged_step (logged : Logged pi) (event : Input) : Logged (step arguments dumps pi event) := by
  cases event with
  | proceed fresh now outcome acknowledged =>
    have moved : Moved pi (step arguments dumps pi (.proceed fresh now outcome acknowledged)) := moved_proceed
    rw [moved.others]
    exact ⟨logged.required,logged.idle,logged.written⟩
  | frame input =>
    cases taken : iterates pi with
    | false =>
      rw [step,iterate_idle taken]
      exact logged
    | true =>
      obtain ⟨verifier,_,last⟩ := iterate_entered arguments input taken
      constructor
      · show (iterate arguments pi input).verifier.required = 6
        rw [verifier,verified_required]
        exact logged.required
      · show (iterate arguments pi input).verifier.state.incidentId = none → hits (iterate arguments pi input).verifier.window = 0
        rw [verifier]
        exact verified_idle logged
      · show (iterate arguments pi input).verifier.state.incidentId.isSome = true →
          (iterate arguments pi input).lastState = (iterate arguments pi input).verifier.state.hazardState
        rw [verifier]
        exact last

theorem entered_iff (logged : Logged pi) (taken : iterates pi = true) :
    entered pi input = transition pi input ↔ opensUnseen pi (.frame input) = false := by
  rw [opensUnseen,taken,entered,transition]
  cases there : (verified pi input).state.incidentId with
  | none =>
    cases relevant : pi.verifier.relevant input.detections with
    | false => simp
    | true =>
      have raises : Raised pi.verifier (verified pi input) input.monotonicNs.1 := update_raised relevant
      rw [raises.incidentId] at there
      cases there
  | some incidentId =>
    rcases verified_turns pi input there with was | ⟨absent,relevant⟩
    · have last : pi.lastState = pi.verifier.state.hazardState := logged.written (by rw [was]; rfl)
      rw [was,last]
      by_cases same : (verified pi input).state.hazardState = pi.verifier.state.hazardState
      · simp [same]
      · simp [same,Ne.symm same]
    · have opens := opened_suspected logged absent relevant
      rw [absent,relevant,opens]
      by_cases unseen : pi.lastState = .suspected
      · simp [unseen]
      · simp [unseen,Ne.symm unseen]

theorem log_step (logged : Logged pi) {owed : List (String × HazardState)} (complete : LogComplete (pi,owed)) (event : Input) :
    LogComplete (observed (step arguments dumps) noteTransition (pi,owed) event) ↔ opensUnseen pi event = false := by
  cases event with
  | proceed fresh now outcome acknowledged =>
    have moved : Moved pi (proceed arguments dumps pi fresh now outcome acknowledged).1 := moved_proceed
    refine iff_of_true ?_ rfl
    intro running
    show recorded (proceed arguments dumps pi fresh now outcome acknowledged).1.localLog = owed
    rw [moved.others]
    exact complete (moved.running running)
  | frame input =>
    cases taken : iterates pi with
    | false =>
      have idle : observed (step arguments dumps) noteTransition (pi,owed) (.frame input) = (pi,owed) := by
        rw [observed,step,iterate_idle taken,noteTransition,taken]
        rfl
      have shut : opensUnseen pi (.frame input) = false := by
        rw [opensUnseen,taken]
        rfl
      rw [idle]
      exact iff_of_true complete shut
    | true =>
      have turning : pi.running = true := (Bool.and_eq_true_iff.mp taken).1
      have before : recorded pi.localLog = owed := complete turning
      have owes : LogComplete (observed (step arguments dumps) noteTransition (pi,owed) (.frame input)) ↔
          recorded (iterate arguments pi input).localLog = owed ++ transition pi input := by
        show ((iterate arguments pi input).running = true →
          recorded (iterate arguments pi input).localLog = (if iterates pi then owed ++ transition pi input else owed)) ↔ _
        rw [if_pos taken,iterate_running,turning]
        exact forall_prop_of_true rfl
      obtain ⟨_,log,_⟩ := iterate_entered arguments input taken
      rw [owes,log,before,List.append_cancel_left_eq]
      exact entered_iff logged taken

-- Exactly as long as no incident opens after one that ended while it was still SUSPECTED.
theorem log_complete_iff (arguments : Arguments) (dumps : Content → List UInt8) (events : List Input) :
    Throughout (observed (step arguments dumps) noteTransition) LogComplete (launched arguments,[]) events ↔
      Along (step arguments dumps) (fun pi event => opensUnseen pi event = false) (launched arguments) events := by
  have same : Along (observed (step arguments dumps) noteTransition) (fun s event => opensUnseen s.1 event = false)
      (launched arguments,[]) events ↔
      Along (step arguments dumps) (fun pi event => opensUnseen pi event = false) (launched arguments) events :=
    observed_along (P := fun pi event => opensUnseen pi event = false)
  rw [← same]
  refine throughout_iff_along (fun s => Logged s.1) (fun s event logged => logged_step logged event)
    (fun s event logged complete => log_step logged complete event) ?_ (fun _ => rfl)
  exact ⟨rfl,fun _ => rfl,fun present => nomatch present⟩

-- Two frames with fire and an empty one between them that comes late enough to clear the first
-- incident, on a network that refuses every connection.
def sighting (seconds : ℕ) (detections : List (Detection ℚ)) (near : seconds < 9) : Input :=
  .frame ⟨⟨seconds * 1000000000,by omega⟩,detections,2,640,480,60,[],seconds * 1000000000⟩
def offline : Input := .proceed 0 ⟨0,by decide⟩ .refused fun _ => false
def twoFires : List Input :=
  [offline,sighting 1 flame (by decide)] ++ List.replicate 5 offline ++ [sighting 7 [] (by decide)] ++
    List.replicate 3 offline ++ [sighting 8 flame (by decide)]

def kitchen : Arguments := ⟨"pi","boot","token"⟩

theorem second_fire_unrecorded :
    ¬ Throughout (observed (step kitchen fun _ => []) noteTransition) LogComplete (launched kitchen,[]) twoFires := by
  intro all
  have complete := all.last (by decide +kernel)
  have records : (run (observed (step kitchen fun _ => []) noteTransition) (launched kitchen,[]) twoFires).1.localLog.length = 1 := by
    decide +kernel
  have owes : (run (observed (step kitchen fun _ => []) noteTransition) (launched kitchen,[]) twoFires).2.length = 2 := by
    decide +kernel
  have lengths := congrArg List.length complete
  rw [recorded,List.length_map,records,owes] at lengths
  cases lengths

end Ignis.LocalLog
