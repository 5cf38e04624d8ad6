import Ignis.BackendRecords

-- `update_call_attempt` stores whatever it is told, in the order in which the reports arrive.
namespace Ignis.Backend
open Tables Database Communications Escalation Runs

variable {settings : Settings} {app : App} {tick : Tick} {db : Database}

def stage : CallStatus → ℕ
  | .requested => 0
  | .initiated | .unknown => 1
  | .connected => 2
  | .completed => 3
  | .failed => 4

def final (status : CallStatus) : Bool := status = .completed || status = .failed

-- A status stays, or moves on to a later stage, unless it is final. Failure is later than
-- every status that is not final.
def Forward (old new : CallStatus) : Prop := old = new ∨ (final old = false ∧ stage old < stage new)

instance (old new : CallStatus) : Decidable (Forward old new) := inferInstanceAs (Decidable (_ ∨ _))

structure StatusesForward (before after : Database) : Prop where
  kept : ∀ id old, before.callAttempts.find id = some old →
    ∃ new, after.callAttempts.find id = some new ∧ Forward old.status new.status
  started : ∀ id new, before.callAttempts.find id = none → after.callAttempts.find id = some new →
    Forward .requested new.status

-- A report in its place. The provider's HTTP answer (INITIATED, UNKNOWN) comes while the
-- attempt is still requested, a webhook before the attempt has come to its end. A repeated
-- report changes nothing.
def inPlace (stored reported : CallStatus) : Bool :=
  match reported with
  | .requested => stored = .requested
  | .initiated => stored = .requested || stored = .initiated
  | .unknown => stored = .requested || stored = .unknown
  | .connected => stored ≠ .completed && stored ≠ .failed
  | .completed => stored ≠ .failed
  | .failed => stored ≠ .completed

def reportInPlace (settings : Settings) (app : App) (tick : Tick) : Bool :=
  match effect settings app tick with
  | .reported attemptId report =>
    (app.database.callAttempts.find attemptId).all fun attempt => inPlace attempt.status report.status
  | _ => true

theorem forward_iff (old new : CallStatus) : Forward old new ↔ inPlace old new = true := by
  cases old <;> cases new <;> simp [Forward,inPlace,final,stage]

theorem forward_refl (status : CallStatus) : Forward status status := .inl rfl

theorem StatusesForward.of_attempts {before after : Database} (same : after.callAttempts = before.callAttempts) :
    StatusesForward before after := by
  constructor
  · intro id old found
    exact ⟨old,by rw [same]; exact found,forward_refl _⟩
  · intro id new absent found
    rw [same,absent] at found
    cases found

theorem called_forward {now : Time} {incidentId : String} {after : Database}
    (same : after.callAttempts = ((Effect.called incidentId).apply settings db now).callAttempts) :
    StatusesForward db after := by
  obtain ⟨make,numbered,pushed,parts⟩ := called_parts settings db now incidentId
  rw [pushed] at same
  constructor
  · intro id old found
    exact ⟨old,by rw [same]; exact Table.find_push_kept found,forward_refl _⟩
  · intro id new absent found
    rw [same,Table.find_push] at found
    split at found
    · cases found
      obtain ⟨_,_,status⟩ := parts id
      rcases status with status | status <;> rw [status] <;> decide
    · rw [absent] at found
      cases found

theorem reported_forward {now : Time} {attemptId : ℕ} {report : Report} {attempt : CallAttempt} {after : Database}
    (found : db.callAttempts.find attemptId = some attempt)
    (same : after.callAttempts = db.callAttempts.modify attemptId (reportedAttempt now report)
      (reportedAttempt_id now report)) :
    StatusesForward db after ↔ Forward attempt.status report.status := by
  constructor
  · intro forward
    obtain ⟨new,stored,moved⟩ := forward.kept attemptId attempt found
    rw [same,Table.find_modify_same,found] at stored
    cases stored
    exact moved
  · intro moved
    constructor
    · intro id old stored
      rw [same,Table.find_modify]
      by_cases own : id = attemptId
      · subst own
        obtain rfl : attempt = old := Option.some.inj (found.symm.trans stored)
        exact ⟨reportedAttempt now report attempt,by rw [if_pos rfl,found]; rfl,moved⟩
      · exact ⟨old,by rw [if_neg own]; exact stored,forward_refl _⟩
    · intro id new absent stored
      rw [same,Table.find_modify] at stored
      split at stored
      · rename_i own
        rw [own,found] at absent
        cases absent
      · rw [absent] at stored
        cases stored

theorem forward_step : StatusesForward app.database (step settings app tick).database ↔
    reportInPlace settings app tick = true := by
  have attempts := attempts_rows (step_rows settings app tick)
  have caused := effect_caused settings app tick
  cases same : effect settings app tick with
  | nothing =>
    rw [same] at attempts
    have kept : StatusesForward app.database (step settings app tick).database := .of_attempts attempts
    simp [reportInPlace,same,kept]
  | upserted data deviceId bootId =>
    rw [same] at attempts
    have kept : StatusesForward app.database (step settings app tick).database :=
      .of_attempts (attempts.trans attempts_upserted)
    simp [reportInPlace,same,kept]
  | responded incidentId responseState occupantResponse hazardState =>
    rw [same] at attempts
    have kept : StatusesForward app.database (step settings app tick).database :=
      .of_attempts (attempts.trans attempts_responded)
    simp [reportInPlace,same,kept]
  | called incidentId =>
    rw [same] at attempts
    have kept := called_forward attempts
    simp [reportInPlace,same,kept]
  | reported attemptId report =>
    rw [same] at attempts caused
    obtain ⟨attempt,r,found,_,after,_⟩ | ⟨unknown,unchanged⟩ :=
      reported_cases settings app.database tick.now attemptId report
    · rw [reported_forward found (attempts.trans after),forward_iff]
      simp [reportInPlace,same,found]
    · rw [unchanged] at attempts
      have kept : StatusesForward app.database (step settings app tick).database := .of_attempts attempts
      rcases unknown with missing | unmapped
      · simp [reportInPlace,same,missing,kept]
      · exact absurd unmapped (reported_status caused)

theorem statuses_forward_iff (settings : Settings) (ticks : List Tick) :
    Along (step settings) (fun app tick => StatusesForward app.database (step settings app tick).database) fresh ticks ↔
      Along (step settings) (fun app tick => reportInPlace settings app tick = true) fresh ticks :=
  along_congr fun _ _ => forward_step

-- The provider says that the call is over, and then repeats that it was connected.
def overAndConnected : List Tick :=
  seeded ++ [⟨2000000,.callDemoDispatch true confirmedIncident.incidentId⟩,webhook 3000000 .completed]

theorem status_goes_back :
    ¬ Along (step demoSettings) (fun app tick => StatusesForward app.database (step demoSettings app tick).database) fresh
      (overAndConnected ++ [webhook 4000000 .connected]) := by
  rw [along_congr fun _ _ => forward_step]
  decide +kernel

end Ignis.Backend
