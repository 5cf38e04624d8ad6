import Ignis.BackendEffects

-- What the effects of a step do to the response of one incident and to the call attempts.
namespace Ignis.Backend
open Tables Database Communications Escalation

def response (db : Database) (incidentId : String) : Option ResponseState :=
  (db.getIncident incidentId).map IncidentRow.responseState

variable {settings : Settings} {app : App} {tick : Tick} {db : Database} {now : Time} {incidentId other : String}

theorem reserved_attempt : (db.reservedCall now incidentId).callAttempts.find db.callAttempts.next =
    some (requestedAttempt now incidentId db.callAttempts.next) := by
  simp [reservedCall,Table.find_push]

-- What a view of an incident's row shows, where a write does not touch what it looks at.
section Views
variable {β : Type} {view : IncidentRow → β}

def viewed (view : IncidentRow → β) (db : Database) (incidentId : String) : Option β := (db.getIncident incidentId).map view

theorem viewed_rows {a b : Database} (same : rows a = rows b) : viewed view a incidentId = viewed view b incidentId := by
  have incidents : a.incidents = b.incidents := congrArg Prod.fst same
  rw [viewed,getIncident,incidents]
  rfl

theorem viewed_step (settings : Settings) (app : App) (tick : Tick) (incidentId : String) :
    viewed view (step settings app tick).database incidentId =
      viewed view ((effect settings app tick).apply settings app.database tick.now) incidentId :=
  viewed_rows (step_rows settings app tick)

theorem viewed_other {f : IncidentRow → IncidentRow} (keeps : ∀ row, (f row).incidentId = row.incidentId) (different : other ≠ incidentId) :
    ((db.incidents.modify incidentId f keeps).find other).map view = viewed view db other :=
  congrArg (Option.map view) (Table.find_modify_other different)

theorem viewed_same {f : IncidentRow → IncidentRow} (keeps : ∀ row, (f row).incidentId = row.incidentId) :
    ((db.incidents.modify incidentId f keeps).find incidentId).map view = viewed (fun row => view (f row)) db incidentId := by
  rw [Table.find_modify_same,Option.map_map]
  rfl

theorem viewed_responded {responseState : ResponseState} {occupantResponse : Option String} {hazardState : Option HazardState}
    (same : ∀ row, view (updatedResponse now responseState occupantResponse hazardState row) = view row) :
    viewed view ((Effect.responded other responseState occupantResponse hazardState).apply settings db now) incidentId =
      viewed view db incidentId := by
  simp only [Effect.apply,updateIncidentResponse]
  split
  · exact Table.map_find_modify updatedResponse_incidentId same
  · rfl

theorem viewed_reported {attemptId : ℕ} {report : Report}
    (same : ∀ r row, view (reportedIncident now report r row) = view row) :
    viewed view ((db.updateCallAttempt now attemptId report).getD db) incidentId = viewed view db incidentId := by
  unfold updateCallAttempt
  split
  · exact Table.map_find_modify (reportedIncident_incidentId now report _) (same _)
  · rfl

theorem viewed_called (requested : ∀ row, view (requestedIncident now row) = view row)
    (reported : ∀ report r row, view (reportedIncident now report r row) = view row) :
    viewed view ((Effect.called other).apply settings db now) incidentId = viewed view db incidentId := by
  have reserved : viewed view (db.reservedCall now other) incidentId = viewed view db incidentId :=
    Table.map_find_modify (requestedIncident_incidentId now) requested
  simp only [Effect.apply,placedCall]
  split
  · exact reserved
  · cases settings.callProvider with
    | elevenlabs => exact reserved
    | mock => exact (viewed_reported (reported _)).trans reserved

theorem upserted_frame {data : IncidentUpdate} {deviceId bootId : String} (different : other ≠ data.incidentId) :
    viewed view ((Effect.upserted data deviceId bootId).apply settings db now) other = viewed view db other := by
  simp only [Effect.apply,upsertIncident]
  split
  · refine congrArg (Option.map view) ?_
    rw [Option.getD_some,getIncident,Table.find_upsert]
    exact if_neg different
  · rfl

theorem responded_frame {responseState : ResponseState} {occupantResponse : Option String} {hazardState : Option HazardState}
    (different : other ≠ incidentId) :
    viewed view ((Effect.responded incidentId responseState occupantResponse hazardState).apply settings db now) other =
      viewed view db other := by
  simp only [Effect.apply,updateIncidentResponse]
  split
  · exact viewed_other updatedResponse_incidentId different
  · rfl

theorem report_frame {attemptId : ℕ} {report : Report} {attempt : CallAttempt}
    (found : db.callAttempts.find attemptId = some attempt) (different : other ≠ attempt.incidentId) :
    viewed view ((db.updateCallAttempt now attemptId report).getD db) other = viewed view db other := by
  unfold updateCallAttempt
  rw [found]
  split
  · rename_i same _
    cases same
    exact viewed_other (reportedIncident_incidentId now report _) different
  · rfl

theorem called_frame (different : other ≠ incidentId) :
    viewed view ((Effect.called incidentId).apply settings db now) other = viewed view db other := by
  have reserved : viewed view (db.reservedCall now incidentId) other = viewed view db other :=
    viewed_other (requestedIncident_incidentId now) different
  simp only [Effect.apply,placedCall]
  split
  · exact reserved
  · cases settings.callProvider with
    | elevenlabs => exact reserved
    | mock => exact (report_frame reserved_attempt different).trans reserved

end Views

theorem response_rows {a b : Database} (same : rows a = rows b) : response a incidentId = response b incidentId :=
  viewed_rows same

theorem attempts_rows {a b : Database} (same : rows a = rows b) : a.callAttempts = b.callAttempts :=
  congrArg Prod.snd same

theorem attempts_upserted {data : IncidentUpdate} {deviceId bootId : String} :
    ((Effect.upserted data deviceId bootId).apply settings db now).callAttempts = db.callAttempts := by
  simp only [Effect.apply,upsertIncident]
  split <;> rfl

theorem attempts_responded {responseState : ResponseState} {occupantResponse : Option String}
    {hazardState : Option HazardState} :
    ((Effect.responded incidentId responseState occupantResponse hazardState).apply settings db now).callAttempts =
      db.callAttempts := by
  simp only [Effect.apply,updateIncidentResponse]
  split <;> rfl

theorem response_modify {f : IncidentRow → IncidentRow} {r : ResponseState}
    (keeps : ∀ row, (f row).incidentId = row.incidentId) (sets : ∀ row, (f row).responseState = r) :
    ((db.incidents.modify other f keeps).find incidentId).map IncidentRow.responseState =
      if incidentId = other then (response db incidentId).map fun _ => r else response db incidentId := by
  split
  · rename_i same
    subst same
    rw [viewed_same keeps,viewed,response]
    cases db.getIncident incidentId with
    | none => rfl
    | some row => exact congrArg some (sets row)
  · rename_i different
    exact viewed_other keeps different

theorem response_upserted (settings : Settings) (db : Database) (now : Time) (incidentId : String)
    (data : IncidentUpdate) (deviceId bootId : String) :
    response ((Effect.upserted data deviceId bootId).apply settings db now) incidentId = response db incidentId ∨
    (incidentId = data.incidentId ∧ response ((Effect.upserted data deviceId bootId).apply settings db now) incidentId =
      some (match response db incidentId with
        | none => data.responseState
        | some stored => if backendResponse stored then stored else data.responseState)) := by
  simp only [Effect.apply,upsertIncident]
  split
  · by_cases same : incidentId = data.incidentId
    · refine .inr ⟨same,?_⟩
      simp only [Option.getD_some,response,getIncident,Table.find_upsert,insertedIncident,if_pos same]
      rw [← same]
      cases db.incidents.find incidentId <;> rfl
    · refine .inl ?_
      simp only [Option.getD_some,response,getIncident,Table.find_upsert,insertedIncident,if_neg same]
  · exact .inl rfl

theorem response_responded (settings : Settings) (db : Database) (now : Time) (incidentId other : String)
    (responseState : ResponseState) (occupantResponse : Option String) (hazardState : Option HazardState) :
    response ((Effect.responded other responseState occupantResponse hazardState).apply settings db now) incidentId =
      if incidentId = other then (response db incidentId).map fun _ => responseState else response db incidentId := by
  have sets : ∀ row, (updatedResponse now responseState occupantResponse hazardState row).responseState =
      responseState := by
    intro row
    cases hazardState <;> rfl
  simp only [Effect.apply,updateIncidentResponse]
  split
  · exact response_modify updatedResponse_incidentId sets
  · rename_i absent
    split
    · rename_i same
      subst same
      have missing : response db incidentId = none := by simpa [response] using absent
      simp [missing]
    · rfl

theorem response_reserved : response (db.reservedCall now other) incidentId =
    if incidentId = other then (response db incidentId).map fun _ => .callRequested else response db incidentId :=
  response_modify (requestedIncident_incidentId now) fun _ => rfl

theorem reported_status {attemptId : ℕ} {report : Report} (caused : Caused settings app tick (.reported attemptId report)) :
    responseOfStatus report.status ≠ none := by
  have status : report.status ≠ .requested := by
    cases caused with
    | webhook => exact webhook_status _
    | answer _ stored => exact report_status stored
  cases kind : report.status <;> simp [kind,responseOfStatus] at status ⊢

theorem status_answers {status : CallStatus} {responseState : ResponseState}
    (maps : responseOfStatus status = some responseState) : backendResponse responseState = true := by
  cases status <;> cases maps <;> rfl

theorem reported_cases (settings : Settings) (db : Database) (now : Time) (attemptId : ℕ) (report : Report) :
    (∃ attempt r, db.callAttempts.find attemptId = some attempt ∧ responseOfStatus report.status = some r ∧
      ((Effect.reported attemptId report).apply settings db now).callAttempts =
        db.callAttempts.modify attemptId (reportedAttempt now report) (reportedAttempt_id now report) ∧
      ∀ incidentId, response ((Effect.reported attemptId report).apply settings db now) incidentId =
        if incidentId = attempt.incidentId then (response db incidentId).map fun _ => r else response db incidentId) ∨
    ((db.callAttempts.find attemptId = none ∨ responseOfStatus report.status = none) ∧
      (Effect.reported attemptId report).apply settings db now = db) := by
  simp only [Effect.apply,updateCallAttempt]
  cases found : db.callAttempts.find attemptId with
  | none => exact .inr ⟨.inl rfl,rfl⟩
  | some attempt =>
    cases maps : responseOfStatus report.status with
    | none => exact .inr ⟨.inr rfl,rfl⟩
    | some r => exact .inl ⟨attempt,r,rfl,rfl,rfl,fun incidentId =>
      response_modify (reportedIncident_incidentId now report r) fun _ => rfl⟩

theorem called_parts (settings : Settings) (db : Database) (now : Time) (incidentId : String) :
    ∃ (make : ℕ → CallAttempt) (numbered : ∀ n, (make n).id = n),
      ((Effect.called incidentId).apply settings db now).callAttempts = db.callAttempts.push make numbered ∧
      ∀ n, (make n).incidentId = incidentId ∧ (make n).requestedAt = now ∧
        ((make n).status = .requested ∨ (make n).status = .initiated) := by
  have plain : ∀ n, (requestedAttempt now incidentId n).incidentId = incidentId ∧
      (requestedAttempt now incidentId n).requestedAt = now ∧
      ((requestedAttempt now incidentId n).status = .requested ∨ (requestedAttempt now incidentId n).status = .initiated) :=
    fun n => ⟨rfl,rfl,.inl rfl⟩
  simp only [Effect.apply,placedCall]
  split
  · exact ⟨requestedAttempt now incidentId,requestedAttempt_id now incidentId,rfl,plain⟩
  · cases settings.callProvider with
    | elevenlabs => exact ⟨requestedAttempt now incidentId,requestedAttempt_id now incidentId,rfl,plain⟩
    | mock =>
      refine ⟨fun n => reportedAttempt now (initiated (some s!"mock-{db.callAttempts.next}") none)
        (requestedAttempt now incidentId n),fun _ => rfl,?_,fun n => ⟨rfl,rfl,.inr rfl⟩⟩
      simp only [updateCallAttempt,reserved_attempt]
      exact Table.modify_push (requestedAttempt_id now incidentId) (reportedAttempt_id now _)

theorem response_called (settings : Settings) (db : Database) (now : Time) (other : String) :
    ∃ r, (r = .callRequested ∨ r = .callInitiated) ∧ ∀ incidentId,
      response ((Effect.called other).apply settings db now) incidentId =
        if incidentId = other then (response db incidentId).map fun _ => r else response db incidentId := by
  simp only [Effect.apply,placedCall]
  split
  · exact ⟨.callRequested,.inl rfl,fun incidentId => response_reserved⟩
  · cases settings.callProvider with
    | elevenlabs => exact ⟨.callRequested,.inl rfl,fun incidentId => response_reserved⟩
    | mock =>
      refine ⟨.callInitiated,.inr rfl,fun incidentId => ?_⟩
      simp only [updateCallAttempt,reserved_attempt]
      refine (response_modify (reportedIncident_incidentId now _ _) fun _ => rfl).trans ?_
      rw [response_reserved,requestedAttempt]
      split
      · cases response db incidentId <;> rfl
      · rfl

end Ignis.Backend
