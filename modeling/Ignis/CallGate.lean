import Ignis.ResolvedCalls
import Ignis.ResponseTasks

-- What `request_demo_call` has checked by the time it posts, and what a rejection leaves.
namespace Ignis.Backend
open Tables Database Communications Escalation

variable {settings : Settings} {app : App} {tick : Tick} {db : Database} {now : Time} {incidentId destination : String}

def asciiDigit (c : Char) : Bool := '0' ≤ c && c ≤ '9'

structure Permitted (settings : Settings) : Prop where
  enabled : settings.demoCallsEnabled = true
  number : ∃ digits, settings.demoDispatchNumber.toList = '+' :: digits ∧ 8 ≤ digits.length ∧ digits.length ≤ 15 ∧
    (∀ c ∈ digits, asciiDigit c = true) ∧ digits.head? ≠ some '0' ∧
    String.ofList (digits.drop (digits.length - 3)) ∉ emergencyNumbers
  allowlisted : settings.demoDispatchNumber ∈ settings.demoAllowedNumbers

structure Inserted (before after : Database) (incidentId : String) (attemptId : ℕ) : Prop where
  absent : before.callAttempts.find attemptId = none
  stored : ∃ attempt, after.callAttempts.find attemptId = some attempt ∧ attempt.incidentId = incidentId
  eligible : ∃ incident, before.getIncident incidentId = some incident ∧ incident.confirmedAt ≠ none ∧
    incident.responseState ≠ .cancelled

-- A call that gets as far as the provider has passed the gate, and one that is rejected before
-- leaves the incidents and the attempts as they are.
structure DenyByDefault (settings : Settings) (app : App) (tick : Tick) : Prop where
  passed : ∀ incidentId ∈ asksFor app tick, ∀ after attemptId progress,
    requestDemoCall settings app.database tick.now incidentId = .ok (after,attemptId,progress) → progress ≠ .raised →
      Permitted settings ∧ Inserted app.database after incidentId attemptId
  rejected : ∀ incidentId ∈ asksFor app tick, ∀ refusal,
    requestDemoCall settings app.database tick.now incidentId = .error refusal →
      rows (step settings app tick).database = rows app.database

def asciiNumber (destination : String) : Bool := destination.toList.tail.all asciiDigit

def reachesProvider (settings : Settings) (db : Database) (now : Time) (incidentId : String) : Bool :=
  callable settings db now incidentId && !(db.getIncident incidentId).any contextRaises

theorem validateDestination_ok {allowed : List String} (valid : (validateDestination destination allowed).isOk = true) :
    e164 destination = true ∧ emergency destination = false ∧ destination ∈ allowed := by
  unfold validateDestination at valid
  cases number : e164 destination with
  | false => simp [number,Except.isOk,Except.toBool] at valid
  | true =>
    cases urgent : emergency destination with
    | true => simp [number,urgent,Except.isOk,Except.toBool] at valid
    | false =>
      cases listed : allowed.contains destination with
      | false => simp only [number,urgent,listed] at valid; cases valid
      | true => exact ⟨rfl,rfl,List.contains_iff_mem.mp listed⟩

theorem e164_parts (valid : e164 destination = true) : ∃ first rest, destination.toList = '+' :: first :: rest ∧
    '1' ≤ first ∧ first ≤ '9' ∧ 7 ≤ rest.length ∧ rest.length ≤ 14 := by
  unfold e164 at valid
  split at valid
  · rename_i first rest spelled
    simp only [Bool.and_eq_true,decide_eq_true_eq] at valid
    obtain ⟨⟨⟨⟨low,high⟩,short⟩,long⟩,_⟩ := valid
    exact ⟨first,rest,spelled,low,high,short,long⟩
  · cases valid

theorem callable_destination (gate : callable settings db now incidentId = true) :
    settings.demoCallsEnabled = true ∧
      (validateDestination settings.demoDispatchNumber settings.demoAllowedNumbers).isOk = true := by
  simp only [callable,Bool.and_eq_true] at gate
  exact gate.1.1

-- The first digit is not a plus sign, so stripping them leaves the digits.
theorem stripped {first : Char} {rest : List Char} (spelled : destination.toList = '+' :: first :: rest) (digit : '1' ≤ first) :
    destination.toList.dropWhile (· == '+') = first :: rest := by
  have other : (first == '+') = false := by
    rw [beq_eq_false_iff_ne]
    rintro rfl
    revert digit
    decide
  rw [spelled]
  simp [other]

theorem permitted_iff (gate : callable settings db now incidentId = true) :
    Permitted settings ↔ asciiNumber settings.demoDispatchNumber = true := by
  obtain ⟨enabled,valid⟩ := callable_destination gate
  obtain ⟨number,calm,listed⟩ := validateDestination_ok valid
  obtain ⟨first,rest,spelled,low,high,short,long⟩ := e164_parts number
  have tail : settings.demoDispatchNumber.toList.tail = first :: rest := by rw [spelled]; rfl
  unfold asciiNumber
  rw [tail,List.all_eq_true]
  constructor
  · rintro ⟨_,⟨digits,same,_,_,ascii,_⟩,_⟩
    rw [spelled] at same
    cases same
    exact ascii
  · intro ascii
    refine ⟨enabled,⟨first :: rest,spelled,?_,?_,ascii,?_,?_⟩,listed⟩
    · rw [List.length_cons]
      omega
    · rw [List.length_cons]
      omega
    · intro zero
      cases zero
      revert low
      decide
    · have suffix := calm
      unfold emergency at suffix
      rw [stripped spelled low,Bool.or_eq_false_iff] at suffix
      intro urgent
      have found := List.contains_iff_mem.mpr urgent
      rw [suffix.2] at found
      cases found

theorem inserted_placed (gate : callable settings db now incidentId = true) :
    Inserted db (placedCall settings db now incidentId).1 incidentId (placedCall settings db now incidentId).2.1 := by
  rw [placedCall_attempt]
  obtain ⟨incident,found,eligible⟩ := callable_incident gate
  obtain ⟨make,numbered,pushed,parts⟩ := called_parts settings db now incidentId
  have after : (placedCall settings db now incidentId).1.callAttempts = db.callAttempts.push make numbered := pushed
  refine ⟨Table.find_next _,⟨make db.callAttempts.next,?_,(parts _).1⟩,⟨incident,found,?_⟩⟩
  · rw [after,Table.find_push,if_pos rfl]
  · simp only [Database.eligible,Bool.and_eq_true,decide_eq_true_eq] at eligible
    refine ⟨?_,eligible.2⟩
    intro missing
    rw [missing] at eligible
    cases eligible.1

theorem placed_reaches : (placedCall settings db now incidentId).2.2 ≠ .raised ↔
    (db.getIncident incidentId).any contextRaises = false := by
  unfold placedCall
  cases (db.getIncident incidentId).any contextRaises with
  | true => simp
  | false => cases settings.callProvider <;> simp

theorem rejected_rows (asks : asksFor app tick = some incidentId)
    (closed : callable settings app.database tick.now incidentId = false) :
    rows (step settings app tick).database = rows app.database := by
  have idle : effect settings app tick = .nothing := by
    obtain ⟨now,input⟩ := tick
    cases input with
    | callDemoDispatch allowed target =>
      simp only [asksFor,Bool.and_eq_true,Option.ite_none_right_eq_some,Option.some.injEq] at asks
      obtain ⟨⟨rfl,armed⟩,rfl⟩ := asks
      simp only [effect,armed,closed,Bool.and_false,Bool.false_eq_true,if_false]
    | resume id =>
      obtain ⟨task,ready,rfl⟩ := Option.map_eq_some_iff.mp asks
      obtain ⟨runs,phase⟩ := Option.filter_eq_some_iff.mp ready
      have phase := of_decide_eq_true phase
      have quiet : dials settings app now id = none := by
        simp only [dials,runs,closed,Bool.and_false,Bool.false_eq_true,if_false]
      simp only [effect,quiet,runs,phase,reduceCtorEq,decide_false,Bool.false_and,Bool.false_eq_true,if_false]
    | _ => cases asks
  rw [step_rows settings app tick,idle]
  rfl

theorem denies_ascii (denies : DenyByDefault settings app tick) (asks : asksFor app tick = some incidentId)
    (reaches : reachesProvider settings app.database tick.now incidentId = true) :
    asciiNumber settings.demoDispatchNumber = true := by
  obtain ⟨gate,tellable⟩ := Bool.and_eq_true_iff.mp reaches
  obtain ⟨_,accepted⟩ | ⟨closed,_⟩ := requestDemoCall_cases settings app.database tick.now incidentId
  · have passed := denies.passed incidentId asks _ _ _ accepted (placed_reaches.mpr (by simpa using tellable))
    exact (permitted_iff gate).mp passed.1
  · rw [gate] at closed
    cases closed

theorem denies_passed (asks : asksFor app tick = some incidentId)
    (condition : asciiNumber settings.demoDispatchNumber = true ∨
      ∀ incidentId ∈ asksFor app tick, reachesProvider settings app.database tick.now incidentId = false)
    {after : Database} {attemptId : ℕ} {progress : Progress}
    (accepted : requestDemoCall settings app.database tick.now incidentId = .ok (after,attemptId,progress))
    (reached : progress ≠ .raised) : Permitted settings ∧ Inserted app.database after incidentId attemptId := by
  obtain ⟨gate,placed⟩ | ⟨_,refusal,refused⟩ := requestDemoCall_cases settings app.database tick.now incidentId
  · rw [placed] at accepted
    have parts := Except.ok.inj accepted
    have tellable : (app.database.getIncident incidentId).any contextRaises = false := by
      apply placed_reaches.mp
      rw [parts]
      exact reached
    have inserted := inserted_placed gate
    rw [parts] at inserted
    refine ⟨(permitted_iff gate).mpr ?_,inserted⟩
    rcases condition with ascii | unreached
    · exact ascii
    · have never := unreached incidentId asks
      simp [reachesProvider,gate,tellable] at never
  · rw [refused] at accepted
    cases accepted

-- A digit that is none of ASCII is the only way past the gate.
theorem call_gate_iff (settings : Settings) (app : App) (tick : Tick) :
    DenyByDefault settings app tick ↔ asciiNumber settings.demoDispatchNumber = true ∨
      ∀ incidentId ∈ asksFor app tick, reachesProvider settings app.database tick.now incidentId = false := by
  constructor
  · intro denies
    by_cases ascii : asciiNumber settings.demoDispatchNumber = true
    · exact .inl ascii
    · refine .inr ?_
      intro incidentId asks
      rw [← Bool.not_eq_true]
      exact fun reaches => ascii (denies_ascii denies asks reaches)
  · intro condition
    refine ⟨?_,?_⟩
    · intro incidentId asks after attemptId progress accepted reached
      exact denies_passed asks condition accepted reached
    · intro incidentId asks refusal refused
      obtain ⟨_,accepted⟩ | ⟨closed,_⟩ := requestDemoCall_cases settings app.database tick.now incidentId
      · rw [accepted] at refused
        cases refused
      · exact rejected_rows asks closed

-- An allowlisted number whose last digits are Arabic-Indic.
def unicodeSettings : Settings :=
  { demoSettings with
    demoDispatchNumber := "+1416555\u0660\u0661\u0662\u0663"
    demoAllowedNumbers := ["+1416555\u0660\u0661\u0662\u0663"] }

theorem unicode_number_called :
    ¬ DenyByDefault unicodeSettings (Runs.run (step unicodeSettings) fresh seeded)
      ⟨2000000,.callDemoDispatch true confirmedIncident.incidentId⟩ := by
  intro denies
  have asked : asksFor (Runs.run (step unicodeSettings) fresh seeded)
      ⟨2000000,.callDemoDispatch true confirmedIncident.incidentId⟩ = some confirmedIncident.incidentId := by
    decide +kernel
  have ascii := denies_ascii denies asked (by decide +kernel)
  revert ascii
  decide +kernel

end Ignis.Backend
