import Ignis.Arming

-- The reset endpoint writes RESOLVED and keeps the response; the call policy looks at neither.
namespace Ignis.Backend
open Tables Database Communications Escalation Runs

variable {settings : Settings} {app : App} {tick : Tick} {incidentId : String}

def resolvedBy (app : App) (tick : Tick) : Option String :=
  match tick.input with
  | .reset allowed incidentId => if (reset app tick.now allowed incidentId).isOk then some incidentId else none
  | _ => none

def noteReset (app : App) (tick : Tick) (resolved : List String) : List String := (resolvedBy app tick).toList ++ resolved

def reserved (settings : Settings) (app : App) (tick : Tick) : List CallAttempt :=
  (step settings app tick).database.callAttempts.rows.drop app.database.callAttempts.rows.length

-- The incident for which this step asks for a call: the endpoint of an armed system, or a
-- response task that has announced that nobody answered.
def asksFor (app : App) (tick : Tick) : Option String :=
  match tick.input with
  | .callDemoDispatch allowed incidentId => if allowed && app.armed then some incidentId else none
  | .resume id => ((turn app id).filter fun task => task.phase = .announcing).map ResponseTask.incidentId
  | _ => none

def NotResolved (settings : Settings) (state : App × List String) (tick : Tick) : Prop :=
  ∀ attempt ∈ reserved settings state.1 tick, attempt.incidentId ∉ state.2

instance decidableNotResolved (settings : Settings) (state : App × List String) (tick : Tick) :
    Decidable (NotResolved settings state tick) :=
  inferInstanceAs (Decidable (∀ attempt ∈ reserved settings state.1 tick, attempt.incidentId ∉ state.2))

def TurnedAway (settings : Settings) (state : App × List String) (tick : Tick) : Prop :=
  ∀ incidentId ∈ asksFor state.1 tick, incidentId ∈ state.2 →
    callable settings state.1.database tick.now incidentId = false

theorem called_iff : effect settings app tick = .called incidentId ↔
    asksFor app tick = some incidentId ∧ callable settings app.database tick.now incidentId = true := by
  constructor
  · intro called
    have caused := effect_caused settings app tick
    rw [called] at caused
    cases caused with
    | dispatch armed gate => exact ⟨by simp [asksFor,armed],gate⟩
    | @dial now id _ dialling gate =>
      refine ⟨?_,gate⟩
      unfold dials at dialling
      split at dialling
      · cases dialling
      · rename_i task runs
        split at dialling
        · rename_i ready
          simp only [Bool.and_eq_true,decide_eq_true_eq] at ready
          cases dialling
          simp [asksFor,runs,ready.1]
        · cases dialling
  · rintro ⟨asks,gate⟩
    obtain ⟨now,input⟩ := tick
    cases input with
    | callDemoDispatch allowed target =>
      simp only [asksFor,Bool.and_eq_true,Option.ite_none_right_eq_some,Option.some.injEq] at asks
      obtain ⟨⟨rfl,armed⟩,rfl⟩ := asks
      simp only [effect,armed,gate,Bool.and_self,if_true]
    | resume id =>
      obtain ⟨task,ready,rfl⟩ := Option.map_eq_some_iff.mp asks
      obtain ⟨runs,phase⟩ := Option.filter_eq_some_iff.mp ready
      have dialling : dials settings app now id = some task.incidentId := by
        simp only [dials,runs,phase,gate,Bool.and_self,if_true]
      simp only [effect,dialling]
    | _ => cases asks

theorem reserved_incidents {P : String → Prop} : (∀ attempt ∈ reserved settings app tick, P attempt.incidentId) ↔
    ∀ incidentId, effect settings app tick = .called incidentId → P incidentId := by
  have attempts := attempts_rows (step_rows settings app tick)
  have none_stored (length : (step settings app tick).database.callAttempts.rows.length =
      app.database.callAttempts.rows.length) : reserved settings app tick = [] := by
    rw [reserved,← length,List.drop_length]
  cases same : effect settings app tick with
  | called target =>
    obtain ⟨make,numbered,pushed,parts⟩ := called_parts settings app.database tick.now target
    have stored : reserved settings app tick = [make app.database.callAttempts.next] := by
      rw [reserved,attempts,same,pushed,Table.rows_push,List.drop_left]
    rw [stored]
    constructor
    · rintro all incidentId called
      cases called
      rw [← (parts app.database.callAttempts.next).1]
      exact all _ (List.mem_singleton_self _)
    · intro all attempt member
      obtain rfl := List.mem_singleton.mp member
      rw [(parts app.database.callAttempts.next).1]
      exact all target rfl
  | nothing =>
    rw [none_stored (by rw [attempts,same]; rfl)]
    simp
  | upserted data deviceId bootId =>
    rw [none_stored (by rw [attempts,same,attempts_upserted])]
    simp
  | responded target r occupantResponse hazardState =>
    rw [none_stored (by rw [attempts,same,attempts_responded])]
    simp
  | reported attemptId report =>
    have length : (step settings app tick).database.callAttempts.rows.length = app.database.callAttempts.rows.length := by
      rw [attempts,same]
      obtain ⟨_,_,_,_,after,_⟩ | ⟨_,unchanged⟩ := reported_cases settings app.database tick.now attemptId report
      · rw [after,Table.rows_modify,List.length_map]
      · rw [unchanged]
    rw [none_stored length]
    simp

theorem notResolved_iff {state : App × List String} : NotResolved settings state tick ↔ TurnedAway settings state tick := by
  unfold NotResolved TurnedAway
  rw [reserved_incidents (P := fun incidentId => incidentId ∉ state.2)]
  constructor
  · intro unresolved incidentId asks resolved
    rw [← Bool.not_eq_true]
    intro gate
    exact unresolved incidentId (called_iff.mpr ⟨asks,gate⟩) resolved
  · intro turned incidentId called resolved
    obtain ⟨asks,gate⟩ := called_iff.mp called
    rw [turned incidentId asks resolved] at gate
    cases gate

theorem resolved_calls_iff (settings : Settings) (ticks : List Tick) :
    Along (observed (step settings) noteReset) (NotResolved settings) (fresh,[]) ticks ↔
      Along (observed (step settings) noteReset) (TurnedAway settings) (fresh,[]) ticks :=
  along_congr fun _ _ => notResolved_iff

-- The provider turns the first call down, and the occupant resets the incident.
def failedAndReset : List Tick :=
  seeded ++ [⟨2000000,.callDemoDispatch true confirmedIncident.incidentId⟩,⟨3000000,.providerAnswered 1 .connectionError⟩,
    ⟨4000000,.reset true confirmedIncident.incidentId⟩]

def calledAgain : Tick := ⟨5000000,.callDemoDispatch true confirmedIncident.incidentId⟩

theorem resolved_dials :
    ¬ Along (observed (step demoSettings) noteReset) (NotResolved demoSettings) (fresh,[]) (failedAndReset ++ [calledAgain]) := by
  decide +kernel

end Ignis.Backend
