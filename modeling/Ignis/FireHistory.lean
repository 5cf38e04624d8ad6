import Ignis.FireVerifier

-- What the gate of the Pi says, told from the whole history of frames instead of a bounded window and
-- a record that is overwritten.
namespace Ignis.FireHistory
open FireVerifier

structure Limits where
  window : ℕ
  required : ℕ
  confirmNs : ℤ
  clearNs : ℤ
  resetNs : ℤ

structure Frame where
  monotonicNs : ℤ
  relevant : Bool

structure Mark extends Frame where
  opens : Bool
  closes : Bool
  confirms : Bool

-- Histories have their newest frame first. The frames since the previous close:
def current (history : List Mark) : List Mark := history.takeWhile fun mark => !mark.closes

def incidentOpen (history : List Mark) : Bool := (current history).any Mark.opens
def confirmed (history : List Mark) : Bool := (current history).any Mark.confirms
def openedNs (history : List Mark) : Option ℤ := ((current history).find? Mark.opens).map fun mark => mark.monotonicNs
def relevantNs (history : List Mark) : Option ℤ := (history.find? fun mark => mark.relevant).map fun mark => mark.monotonicNs
def incidents (history : List Mark) : ℕ := history.countP Mark.opens

variable (limits : Limits)

-- An incident opens at a relevant frame when none is open. It closes at a frame that is not
-- relevant and comes late enough after the last relevant one. It is confirmed at a relevant
-- frame with enough relevant ones among the last frames since the previous close, late enough
-- after the frame that opened it.
def mark (history : List Mark) (frame : Frame) : Mark :=
  let opens := frame.relevant && !incidentOpen history
  let openedAt := if opens then frame.monotonicNs else (openedNs history).getD 0
  let limit := if confirmed history then limits.resetNs else limits.clearNs
  let hits := (frame.relevant :: (current history).map fun mark => mark.relevant).take limits.window |>.count true
  { frame with
    opens := opens
    closes := !frame.relevant && incidentOpen history && limit ≤ frame.monotonicNs - (relevantNs history).getD 0
    confirms := frame.relevant && limits.required ≤ hits && limits.confirmNs ≤ frame.monotonicNs - openedAt }

def marks (frames : List Frame) : List Mark := frames.foldl (fun history frame => mark limits history frame :: history) []

section Histories
variable {limits : Limits} {history : List Mark} {frame : Frame}

theorem current_mark : current (mark limits history frame :: history) =
    if (mark limits history frame).closes then [] else mark limits history frame :: current history := by
  cases closes : (mark limits history frame).closes <;> simp [current,closes]

theorem relevantNs_mark : relevantNs (mark limits history frame :: history) =
    if frame.relevant then some frame.monotonicNs else relevantNs history := by
  have same : (mark limits history frame).relevant = frame.relevant := rfl
  cases relevant : frame.relevant <;> simp [relevantNs,same,relevant]
  rfl

theorem incidents_mark : incidents (mark limits history frame :: history) =
    incidents history + if frame.relevant && !incidentOpen history then 1 else 0 := by
  rw [incidents,List.countP_cons]
  rfl

structure Quiet (history : List Mark) : Prop where
  idle : incidentOpen history = false → ∀ frame ∈ current history, frame.relevant = false
  before : ∀ newer opening older, current history = newer ++ opening :: older → opening.opens = true →
    ∀ frame ∈ older, frame.relevant = false

theorem quiet_mark (quiet : Quiet history) : Quiet (mark limits history frame :: history) := by
  cases closes : (mark limits history frame).closes with
  | true =>
    have ends : current (mark limits history frame :: history) = [] := by rw [current_mark,closes]; rfl
    constructor
    · intro _ other member
      rw [ends] at member
      cases member
    · intro newer opening older split
      rw [ends] at split
      simp at split
  | false =>
    have goes : current (mark limits history frame :: history) = mark limits history frame :: current history := by
      rw [current_mark,closes]
      rfl
    have opens : (mark limits history frame).opens = (frame.relevant && !incidentOpen history) := rfl
    constructor
    · intro none other member
      rw [incidentOpen,goes,List.any_cons,Bool.or_eq_false_iff,opens] at none
      obtain ⟨unopened,closed⟩ := none
      rw [goes] at member
      rcases List.mem_cons.mp member with rfl | earlier
      · have idle : incidentOpen history = false := closed
        rw [idle,Bool.not_false,Bool.and_true] at unopened
        exact unopened
      · exact quiet.idle closed other earlier
    · intro newer opening older split opened
      rw [goes] at split
      cases newer with
      | nil =>
        obtain ⟨rfl,rfl⟩ := List.cons.inj split
        rw [opens,Bool.and_eq_true,Bool.not_eq_true'] at opened
        exact quiet.idle opened.2
      | cons newest newer => exact quiet.before newer opening older (List.cons.inj split).2 opened

theorem quiet_marks (limits : Limits) (frames : List Frame) : Quiet (marks limits frames) := by
  suffices folded : ∀ history, Quiet history →
      Quiet (frames.foldl (fun history frame => mark limits history frame :: history) history) by
    refine folded [] ⟨fun _ _ member => ?_,fun newer opening older split => ?_⟩
    · cases member
    · simp [current] at split
  induction frames with
  | nil => exact fun history quiet => quiet
  | cons frame rest ih => exact fun history quiet => ih _ (quiet_mark quiet)

end Histories

theorem appended_take (length : ℕ) (flags : List Bool) (flag : Bool) :
    appended length (flags.take length).reverse flag = ((flag :: flags).take length).reverse := by
  have grown : (flags.take length).reverse ++ [flag] = ((flag :: flags).take (length + 1)).reverse := by simp
  simp only [appended,grown]
  rw [List.drop_reverse,List.length_reverse,List.take_take,List.length_take]
  congr 1
  rw [List.take_eq_take_iff]
  omega

section Verifier
variable {R : Type} [Double R] [IntCast R]

def initialized (deviceId bootId : String) (limits : Limits) (fireThreshold smokeThreshold : R) : FireVerifier R where
  deviceId := deviceId
  bootId := bootId
  windowLength := limits.window
  required := limits.required
  fireThreshold := fireThreshold
  smokeThreshold := smokeThreshold
  confirmNs := limits.confirmNs
  clearNs := limits.clearNs
  resetNs := limits.resetNs
  window := []
  counter := 0
  state := clearState

def processed (verifier : FireVerifier R) (inputs : List (ℤ × List (Detection R))) : FireVerifier R :=
  inputs.foldl (fun verifier (monotonicNs,detections) => verifier.update monotonicNs detections) verifier

def frames (verifier : FireVerifier R) (inputs : List (ℤ × List (Detection R))) : List Frame :=
  inputs.map fun (monotonicNs,detections) => ⟨monotonicNs,verifier.relevant detections⟩

def incidentName (verifier : FireVerifier R) (history : List Mark) : Option String :=
  if incidentOpen history then some s!"{verifier.deviceId}-{verifier.bootId}-{incidents history}" else none

structure Configured (limits : Limits) (first verifier : FireVerifier R) : Prop where
  deviceId : verifier.deviceId = first.deviceId
  bootId : verifier.bootId = first.bootId
  relevant : verifier.relevant = first.relevant
  windowLength : verifier.windowLength = limits.window
  required : verifier.required = limits.required
  confirmNs : verifier.confirmNs = limits.confirmNs
  clearNs : verifier.clearNs = limits.clearNs
  resetNs : verifier.resetNs = limits.resetNs

structure Agrees (verifier : FireVerifier R) (history : List Mark) : Prop where
  window : verifier.window = (((current history).map fun mark => mark.relevant).take verifier.windowLength).reverse
  counter : verifier.counter = incidents history
  incidentId : verifier.state.incidentId = incidentName verifier history
  firstDetectionNs : verifier.state.firstDetectionNs = (openedNs history).getD 0
  lastRelevantNs : incidentOpen history = true → verifier.state.lastRelevantNs = (relevantNs history).getD 0
  confirmed : verifier.state.confirmed = confirmed history

variable {limits : Limits} {first verifier : FireVerifier R} {history : List Mark} {monotonicNs : ℤ}
variable {detections : List (Detection R)}

structure Raised (verifier after : FireVerifier R) (monotonicNs : ℤ) : Prop where
  window : after.window = appended verifier.windowLength verifier.window true
  counter : after.counter = verifier.counter + if verifier.state.incidentId = none then 1 else 0
  incidentId : after.state.incidentId =
    some (verifier.state.incidentId.getD s!"{verifier.deviceId}-{verifier.bootId}-{verifier.counter + 1}")
  firstDetectionNs : after.state.firstDetectionNs =
    if verifier.state.incidentId = none then monotonicNs else verifier.state.firstDetectionNs
  lastRelevantNs : after.state.lastRelevantNs = monotonicNs
  confirmed : after.state.confirmed = (verifier.state.confirmed ||
    (decide (verifier.required ≤ hits after.window) &&
      decide (verifier.confirmNs ≤ monotonicNs - after.state.firstDetectionNs)))

theorem update_raised (relevant : verifier.relevant detections = true) :
    Raised verifier (verifier.update monotonicNs detections) monotonicNs := by
  cases same : verifier.state.incidentId with
  | none => constructor <;> simp [update,raised,opened,seen,relevant,same]
  | some incidentId => constructor <;> simp [update,raised,opened,seen,relevant,same]

section
omit [Double R] [IntCast R]

theorem opened_same (verifier : FireVerifier R) (monotonicNs : ℤ) :
    ∃ counter state, verifier.opened monotonicNs = { verifier with counter := counter, state := state } := by
  unfold opened
  split <;> exact ⟨_,_,rfl⟩

end

theorem update_same (verifier : FireVerifier R) (monotonicNs : ℤ) (detections : List (Detection R)) :
    ∃ window counter state, verifier.update monotonicNs detections =
      { verifier with window := window, counter := counter, state := state } := by
  have raises : ∀ next : FireVerifier R, ∃ counter state,
      next.raised monotonicNs = { next with counter := counter, state := state } := by
    intro next
    obtain ⟨counter,state,same⟩ :=
      opened_same { next with state := { next.state with lastRelevantNs := monotonicNs } } monotonicNs
    simp only [raised,same]
    exact ⟨_,_,rfl⟩
  have misses : ∀ next : FireVerifier R, ∃ window state,
      next.missed monotonicNs = { next with window := window, state := state } := by
    intro next
    simp only [missed,forgotten]
    split
    · exact ⟨_,_,rfl⟩
    · split
      · exact ⟨_,_,rfl⟩
      · split <;> exact ⟨_,_,rfl⟩
  simp only [update]
  split
  · obtain ⟨counter,state,same⟩ := raises (verifier.seen detections)
    exact ⟨_,counter,state,same⟩
  · split
    · obtain ⟨window,state,same⟩ := misses (verifier.seen detections)
      exact ⟨window,_,state,same⟩
    · exact ⟨_,_,_,rfl⟩

theorem update_configured (configured : Configured limits first verifier) :
    Configured limits first (verifier.update monotonicNs detections) := by
  obtain ⟨window,counter,state,same⟩ := update_same verifier monotonicNs detections
  rw [same]
  exact ⟨configured.deviceId,configured.bootId,configured.relevant,configured.windowLength,configured.required,
    configured.confirmNs,configured.clearNs,configured.resetNs⟩

section
omit [Double R] [IntCast R]

theorem absent_iff (agrees : Agrees verifier history) :
    verifier.state.incidentId = none ↔ incidentOpen history = false := by
  rw [agrees.incidentId,incidentName]
  cases incidentOpen history <;> simp

end

theorem agrees_raised (configured : Configured limits first verifier) (agrees : Agrees verifier history)
    (relevant : verifier.relevant detections = true) :
    Agrees (verifier.update monotonicNs detections) (mark limits history ⟨monotonicNs,true⟩ :: history) := by
  have raises : Raised verifier (verifier.update monotonicNs detections) monotonicNs := update_raised relevant
  obtain ⟨_,_,_,same⟩ := update_same verifier monotonicNs detections
  have deviceId : (verifier.update monotonicNs detections).deviceId = verifier.deviceId := by rw [same]
  have bootId : (verifier.update monotonicNs detections).bootId = verifier.bootId := by rw [same]
  have length : (verifier.update monotonicNs detections).windowLength = verifier.windowLength := by rw [same]
  have absent := absent_iff agrees
  generalize verifier.update monotonicNs detections = after at raises deviceId bootId length
  have goes : current (mark limits history ⟨monotonicNs,true⟩ :: history) =
      mark limits history ⟨monotonicNs,true⟩ :: current history := current_mark
  have opens : (mark limits history ⟨monotonicNs,true⟩).opens = !incidentOpen history := by simp [mark]
  have open_ : incidentOpen (mark limits history ⟨monotonicNs,true⟩ :: history) = true := by
    rw [incidentOpen,goes,List.any_cons,opens]
    exact Bool.not_or_self _
  have begins : openedNs (mark limits history ⟨monotonicNs,true⟩ :: history) =
      if incidentOpen history then openedNs history else some monotonicNs := by
    cases already : incidentOpen history <;> simp [openedNs,goes,opens,already]
    rfl
  have window : after.window = (((current (mark limits history ⟨monotonicNs,true⟩ :: history)).map fun mark =>
      mark.relevant).take verifier.windowLength).reverse := by
    rw [raises.window,agrees.window,appended_take,goes]
    rfl
  have firstDetection : after.state.firstDetectionNs =
      (openedNs (mark limits history ⟨monotonicNs,true⟩ :: history)).getD 0 := by
    rw [raises.firstDetectionNs,begins,agrees.firstDetectionNs]
    cases already : incidentOpen history <;> simp [absent,already]
  have counter : after.counter = incidents (mark limits history ⟨monotonicNs,true⟩ :: history) := by
    rw [raises.counter,agrees.counter,incidents_mark]
    cases already : incidentOpen history <;> simp [absent,already]
  have confirms : (mark limits history ⟨monotonicNs,true⟩).confirms =
      (decide (verifier.required ≤ hits after.window) &&
        decide (verifier.confirmNs ≤ monotonicNs - after.state.firstDetectionNs)) := by
    rw [window,goes,firstDetection,begins,configured.required,configured.confirmNs,configured.windowLength,hits,
      List.count_reverse,List.map_cons]
    cases already : incidentOpen history <;> simp [mark,already]
  refine ⟨by rw [window,length],counter,?_,firstDetection,fun _ => ?_,?_⟩
  · rw [raises.incidentId,agrees.incidentId,incidentName,incidentName,incidents_mark,open_,deviceId,bootId,agrees.counter]
    cases already : incidentOpen history <;> simp
  · rw [raises.lastRelevantNs,relevantNs_mark]
    rfl
  · rw [raises.confirmed,agrees.confirmed,← confirms,Bool.or_comm]
    simp only [confirmed,goes,List.any_cons]

structure Missed (verifier after : FireVerifier R) : Prop where
  window : after.window = appended verifier.windowLength verifier.window false
  counter : after.counter = verifier.counter
  incidentId : after.state.incidentId = verifier.state.incidentId
  firstDetectionNs : after.state.firstDetectionNs = verifier.state.firstDetectionNs
  lastRelevantNs : after.state.lastRelevantNs = verifier.state.lastRelevantNs
  confirmed : after.state.confirmed = verifier.state.confirmed

def overdue (verifier : FireVerifier R) (monotonicNs : ℤ) : Bool :=
  verifier.state.incidentId.isSome &&
    (if verifier.state.confirmed then verifier.resetNs else verifier.clearNs) ≤ monotonicNs - verifier.state.lastRelevantNs

theorem update_missed (monotonicNs : ℤ) (missing : verifier.relevant detections = false) :
    (overdue verifier monotonicNs = true ∧ verifier.update monotonicNs detections = (verifier.seen detections).forgotten) ∨
    (overdue verifier monotonicNs = false ∧ Missed verifier (verifier.update monotonicNs detections)) := by
  have same : (verifier.seen detections).state.incidentId = verifier.state.incidentId := rfl
  cases present : verifier.state.incidentId with
  | none =>
    refine .inr ⟨by simp [overdue,present],?_⟩
    constructor <;> simp [update,seen,missing,present]
  | some incidentId =>
    have goes : verifier.update monotonicNs detections = (verifier.seen detections).missed monotonicNs := by
      simp only [update,missing,same,present,Option.isSome_some,if_true,Bool.false_eq_true,if_false]
    rw [goes]
    cases before : verifier.state.confirmed with
    | false =>
      by_cases late : verifier.clearNs ≤ monotonicNs - verifier.state.lastRelevantNs
      · exact .inl ⟨by simp [overdue,present,before,late],by simp [missed,seen,before,late]⟩
      · refine .inr ⟨by simpa [overdue,present,before] using late,?_⟩
        constructor <;> simp [missed,seen,missing,before,late]
    | true =>
      by_cases late : verifier.resetNs ≤ monotonicNs - verifier.state.lastRelevantNs
      · exact .inl ⟨by simp [overdue,present,before,late],by simp [missed,seen,before,late]⟩
      · refine .inr ⟨by simpa [overdue,present,before] using late,?_⟩
        by_cases lost : verifier.clearNs ≤ monotonicNs - verifier.state.lastRelevantNs
        · constructor <;> simp [missed,seen,missing,before,late,lost]
        · constructor <;> simp [missed,seen,missing,before,late,lost]

theorem agrees_missed (configured : Configured limits first verifier) (agrees : Agrees verifier history)
    (missing : verifier.relevant detections = false) :
    Agrees (verifier.update monotonicNs detections) (mark limits history ⟨monotonicNs,false⟩ :: history) := by
  have absent := absent_iff agrees
  have counts : incidents (mark limits history ⟨monotonicNs,false⟩ :: history) = incidents history := incidents_mark
  have closes : (mark limits history ⟨monotonicNs,false⟩).closes = overdue verifier monotonicNs := by
    rw [overdue,agrees.confirmed,configured.resetNs,configured.clearNs]
    cases already : incidentOpen history with
    | false => simp [mark,already,absent.mpr already]
    | true =>
      have present : verifier.state.incidentId.isSome = true := by
        rw [Option.isSome_iff_ne_none,ne_eq,absent,already]
        simp
      simp [mark,already,present,agrees.lastRelevantNs already]
  obtain ⟨late,forgets⟩ | ⟨early,misses⟩ := update_missed monotonicNs missing
  · have ends : current (mark limits history ⟨monotonicNs,false⟩ :: history) = [] := by
      rw [current_mark,closes,late]
      rfl
    rw [forgets]
    constructor <;> simp [forgotten,seen,clearState,incidentName,incidentOpen,openedNs,FireHistory.confirmed,ends,counts,
      agrees.counter]
  · obtain ⟨_,_,_,same⟩ := update_same verifier monotonicNs detections
    have deviceId : (verifier.update monotonicNs detections).deviceId = verifier.deviceId := by rw [same]
    have bootId : (verifier.update monotonicNs detections).bootId = verifier.bootId := by rw [same]
    have length : (verifier.update monotonicNs detections).windowLength = verifier.windowLength := by rw [same]
    generalize verifier.update monotonicNs detections = after at misses deviceId bootId length
    have goes : current (mark limits history ⟨monotonicNs,false⟩ :: history) =
        mark limits history ⟨monotonicNs,false⟩ :: current history := by
      rw [current_mark,closes,early]
      rfl
    have open_ : incidentOpen (mark limits history ⟨monotonicNs,false⟩ :: history) = incidentOpen history := by
      rw [incidentOpen,goes]
      rfl
    have begun : openedNs (mark limits history ⟨monotonicNs,false⟩ :: history) = openedNs history := by
      rw [openedNs,goes]
      rfl
    refine ⟨?_,by rw [misses.counter,agrees.counter,counts],?_,by rw [misses.firstDetectionNs,agrees.firstDetectionNs,begun],
      fun there => ?_,?_⟩
    · rw [misses.window,agrees.window,appended_take,goes,length]
      rfl
    · rw [misses.incidentId,agrees.incidentId,incidentName,incidentName,open_,deviceId,bootId,counts]
    · rw [open_] at there
      rw [misses.lastRelevantNs,agrees.lastRelevantNs there,relevantNs_mark]
      rfl
    · rw [misses.confirmed,agrees.confirmed,FireHistory.confirmed,FireHistory.confirmed,goes]
      rfl

theorem agrees_update (configured : Configured limits first verifier) (agrees : Agrees verifier history) :
    Agrees (verifier.update monotonicNs detections)
      (mark limits history ⟨monotonicNs,first.relevant detections⟩ :: history) := by
  rw [← configured.relevant]
  cases relevant : verifier.relevant detections with
  | true => exact agrees_raised configured agrees relevant
  | false => exact agrees_missed configured agrees relevant

theorem processed_agrees (inputs : List (ℤ × List (Detection R))) (configured : Configured limits first verifier)
    (agrees : Agrees verifier history) :
    Agrees (processed verifier inputs)
      ((frames first inputs).foldl (fun history frame => mark limits history frame :: history) history) ∧
    Configured limits first (processed verifier inputs) := by
  induction inputs generalizing verifier history with
  | nil => exact ⟨agrees,configured⟩
  | cons input rest ih => exact ih (update_configured configured) (agrees_update configured agrees)

theorem update_history (deviceId bootId : String) (limits : Limits) (fireThreshold smokeThreshold : R)
    (inputs : List (ℤ × List (Detection R))) :
    let verifier := initialized deviceId bootId limits fireThreshold smokeThreshold
    let after := processed verifier inputs
    let history := marks limits (frames verifier inputs)
    after.state.incidentId = incidentName verifier history ∧ after.counter = incidents history ∧
      after.state.firstDetectionNs = (openedNs history).getD 0 ∧ after.state.confirmed = confirmed history ∧
      ∀ newer opening older, current history = newer ++ opening :: older → opening.opens = true →
        ∀ frame ∈ older, frame.relevant = false := by
  intro verifier after history
  have start : Agrees verifier [] := ⟨by simp [verifier,initialized,current],rfl,rfl,rfl,fun there => (nomatch there),rfl⟩
  have own : Configured limits verifier verifier := ⟨rfl,rfl,rfl,rfl,rfl,rfl,rfl,rfl⟩
  obtain ⟨agrees,configured⟩ := processed_agrees inputs own start
  have name : incidentName after history = incidentName verifier history := by
    rw [incidentName,incidentName,configured.deviceId,configured.bootId]
  exact ⟨agrees.incidentId.trans name,agrees.counter,agrees.firstDetectionNs,agrees.confirmed,
    (quiet_marks limits (frames verifier inputs)).before⟩

end Verifier
end Ignis.FireHistory
