import Ignis.BackendRecords

-- A device update is dropped while the system is unarmed, but a response task calls without asking.
namespace Ignis.Backend
open Tables Database Communications Escalation Runs

variable {settings : Settings} {app : App} {tick : Tick}

def reserves (settings : Settings) (app : App) (tick : Tick) : Bool :=
  app.database.callAttempts.rows.length < (step settings app tick).database.callAttempts.rows.length

def timerCalls (settings : Settings) (app : App) (tick : Tick) : Bool :=
  match tick.input with
  | .resume id => (dials settings app tick.now id).isSome
  | _ => false

theorem reserves_iff : reserves settings app tick = true ↔ ∃ incidentId, effect settings app tick = .called incidentId := by
  have attempts := attempts_rows (step_rows settings app tick)
  unfold reserves
  rw [attempts]
  cases same : effect settings app tick with
  | nothing => simp [Effect.apply]
  | upserted data deviceId bootId => simp [attempts_upserted]
  | responded incidentId responseState occupantResponse hazardState => simp [attempts_responded]
  | called incidentId =>
    obtain ⟨make,numbered,pushed,_⟩ := called_parts settings app.database tick.now incidentId
    simp [pushed,Table.rows_push]
  | reported attemptId report =>
    obtain ⟨attempt,r,_,_,after,_⟩ | ⟨_,unchanged⟩ := reported_cases settings app.database tick.now attemptId report
    · simp [after,Table.modify]
    · simp [unchanged]

theorem armed_step : (reserves settings app tick = true → app.armed = true) ↔
    (timerCalls settings app tick = true → app.armed = true) := by
  constructor
  · intro armed timer
    obtain ⟨now,input⟩ := tick
    cases input with
    | resume id =>
      obtain ⟨incidentId,dialling⟩ := Option.isSome_iff_exists.mp timer
      exact armed (reserves_iff.mpr ⟨incidentId,by simp only [effect,dialling]⟩)
    | _ => cases timer
  · intro armed stored
    obtain ⟨incidentId,same⟩ := reserves_iff.mp stored
    have caused := effect_caused settings app tick
    rw [same] at caused
    cases caused with
    | dispatch isArmed gate => exact isArmed
    | dial dialling gate => exact armed (by simp [timerCalls,dialling])

theorem armed_calls_iff (settings : Settings) (ticks : List Tick) :
    Along (step settings) (fun app tick => reserves settings app tick = true → app.armed = true) fresh ticks ↔
      Along (step settings) (fun app tick => timerCalls settings app tick = true → app.armed = true) fresh ticks :=
  along_congr fun _ _ => armed_step

-- The response timer starts while the system is armed, and the system is disarmed while
-- the dashboards are told that nobody answered.
def unansweredIncident : List Tick :=
  seeded ++ [⟨1000000,.announced confirmedIncident.incidentId⟩,⟨1000000,.resume 1⟩,⟨11000000,.resume 1⟩,
    ⟨11000000,.putArming true false⟩]

theorem unarmed_call :
    ¬ Along (step demoSettings) (fun app tick => reserves demoSettings app tick = true → app.armed = true) fresh
      (unansweredIncident ++ [⟨12000000,.resume 1⟩]) := by
  decide +kernel

end Ignis.Backend
