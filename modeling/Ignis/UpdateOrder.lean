import Ignis.BackendRecords

-- Device updates and the backend's own answers write to the same row, and may come in either order.
namespace Ignis.Backend
open Tables Database

structure DeviceUpdate where
  data : IncidentUpdate
  hello : Hello

-- `update_incident_response` for an answer, without a hazard state, or `update_call_attempt` with a status of its mapping.
inductive BackendWrite where
  | response (incidentId : String) (responseState : ResponseState) (occupantResponse : Option String)
      (answer : responseState = .escalating ∨ responseState = .cancelled)
  | attempt (attemptId : ℕ) (report : Report) (known : (responseOfStatus report.status).isSome = true)

-- An operation that raises leaves the tables as they are.
def DeviceUpdate.store (update : DeviceUpdate) (db : Database) (now : Time) : Database :=
  (db.upsertIncident now update.data update.hello.deviceId update.hello.bootId).getD db

def BackendWrite.store (db : Database) (now : Time) : BackendWrite → Database
  | .response incidentId responseState occupantResponse _ =>
    (db.updateIncidentResponse now incidentId responseState occupantResponse none).getD db
  | .attempt attemptId report _ => (db.updateCallAttempt now attemptId report).getD db

def BackendWrite.incident (db : Database) : BackendWrite → Option String
  | .response incidentId .. => some incidentId
  | .attempt attemptId .. => (db.callAttempts.find attemptId).map CallAttempt.incidentId

def undated (row : IncidentRow) : IncidentRow := { row with updatedAt := 0 }

structure SameButUpdatedAt (a b : Database) : Prop where
  incidents : a.incidents.rows.map undated = b.incidents.rows.map undated
  attempts : a.callAttempts.rows = b.callAttempts.rows
  events : a.incidentEvents.rows = b.incidentEvents.rows

structure Answer where
  responseState : ResponseState
  occupantResponse : Option String
  callStatus : Option CallStatus
  callConversationId : Option String
  callSid : Option String
deriving DecidableEq

def answerOf (row : IncidentRow) : Answer :=
  ⟨row.responseState,row.occupantResponse,row.callStatus,row.callConversationId,row.callSid⟩

def Decided (db : Database) (incidentId : String) : Prop :=
  ∃ row, db.getIncident incidentId = some row ∧ backendResponse row.responseState = true

def storedAll (db : Database) (updates : List (Time × DeviceUpdate)) : Database :=
  updates.foldl (fun db (now,update) => update.store db now) db

variable {db : Database} {now later : Time} {incidentId : String}

theorem merged_response {excluded row : IncidentRow} {responseState : ResponseState} {occupantResponse : Option String}
    (answers : backendResponse responseState = true) :
    undated (updatedResponse later responseState occupantResponse none (mergeIncident excluded row)) =
      undated (mergeIncident excluded (updatedResponse later responseState occupantResponse none row)) := by
  simp [undated,updatedResponse,mergeIncident,answers]

theorem merged_report {excluded row : IncidentRow} {responseState : ResponseState} {report : Report}
    (answers : backendResponse responseState = true) :
    undated (reportedIncident later report responseState (mergeIncident excluded row)) =
      undated (mergeIncident excluded (reportedIncident later report responseState row)) := by
  simp [undated,reportedIncident,mergeIncident,answers]

theorem update_parts (update : DeviceUpdate) (now : Time) :
    let excluded := insertedIncident now update.data update.hello.deviceId update.hello.bootId
    (∀ db, update.store db now = db) ∨
    ∀ db, update.store db now = { db with
      incidents := db.incidents.upsert excluded (mergeIncident excluded) (mergeIncident_incidentId excluded) } := by
  simp only [DeviceUpdate.store,upsertIncident]
  cases fitsInteger update.data.firstDetectionMonotonicNs && fitsInteger update.data.updatedMonotonicNs with
  | false => exact .inl fun _ => rfl
  | true => exact .inr fun _ => rfl

-- A write of the backend on a stored incident, said once for its two kinds.
theorem write_parts (w : BackendWrite) (later : Time) (about : w.incident db = some incidentId) :
    ∃ (f : IncidentRow → IncidentRow) (keeps : ∀ row, (f row).incidentId = row.incidentId) (attempts : Table CallAttempt.id),
      (∀ row, backendResponse (f row).responseState = true) ∧
      (∀ excluded row, undated (f (mergeIncident excluded row)) = undated (mergeIncident excluded (f row))) ∧
      ∀ incidents : Table IncidentRow.incidentId, (incidents.find incidentId).isSome = true →
        w.store { db with incidents := incidents } later =
          { db with incidents := incidents.modify incidentId f keeps, callAttempts := attempts } := by
  cases w with
  | response other responseState occupantResponse answer =>
    cases about
    have answers : backendResponse responseState = true := by rcases answer with rfl | rfl <;> rfl
    refine ⟨updatedResponse later responseState occupantResponse none,updatedResponse_incidentId,db.callAttempts,
      fun _ => answers,fun excluded row => merged_response answers,fun incidents there => ?_⟩
    have found : (getIncident { db with incidents := incidents } incidentId).isSome = true := there
    simp only [BackendWrite.store,updateIncidentResponse,found,if_true,Option.getD_some]
  | attempt attemptId report known =>
    obtain ⟨responseState,maps⟩ := Option.isSome_iff_exists.mp known
    obtain ⟨attempt,found,rfl⟩ := Option.map_eq_some_iff.mp about
    have answers := status_answers maps
    refine ⟨reportedIncident later report responseState,reportedIncident_incidentId later report responseState,
      db.callAttempts.modify attemptId (reportedAttempt later report) (reportedAttempt_id later report),
      fun _ => answers,fun excluded row => merged_report answers,fun incidents there => ?_⟩
    simp only [BackendWrite.store,updateCallAttempt,found,maps,Option.getD_some]

theorem answer_update (decided : Decided db incidentId) (update : DeviceUpdate) (now : Time) :
    Decided (update.store db now) incidentId ∧
      ((update.store db now).getIncident incidentId).map answerOf = (db.getIncident incidentId).map answerOf := by
  obtain ⟨row,found,answered⟩ := decided
  obtain same | upserts := update_parts update now
  · rw [same]
    exact ⟨⟨row,found,answered⟩,rfl⟩
  · rw [upserts]
    have stored : db.incidents.find incidentId = some row := found
    by_cases own : incidentId = update.data.incidentId
    · simp only [Decided,getIncident,Table.find_upsert,insertedIncident,← own,stored,Option.map_some,
        Option.getD_some]
      exact ⟨⟨_,rfl,by simp [mergeIncident,answered]⟩,by simp [answerOf,mergeIncident,answered]⟩
    · simp only [Decided,getIncident,Table.find_upsert,insertedIncident,if_neg own,stored]
      exact ⟨⟨row,rfl,answered⟩,trivial⟩

theorem answer_updates (decided : Decided db incidentId) (updates : List (Time × DeviceUpdate)) :
    ((storedAll db updates).getIncident incidentId).map answerOf = (db.getIncident incidentId).map answerOf := by
  induction updates generalizing db with
  | nil => rfl
  | cons first rest ih =>
    obtain ⟨still,same⟩ := answer_update decided first.2 first.1
    exact (ih still).trans same

-- After an answer no update touches what was answered.
theorem updates_commute (db : Database) (incidentId : String) (stored : (db.getIncident incidentId).isSome = true)
    (update : DeviceUpdate) (w : BackendWrite) (about : w.incident db = some incidentId) (now later : Time) :
    SameButUpdatedAt (w.store (update.store db now) later) (update.store (w.store db later) now) ∧
      Decided (w.store db later) incidentId ∧
      ∀ decided : Database, Decided decided incidentId → ∀ updates : List (Time × DeviceUpdate),
        ((storedAll decided updates).getIncident incidentId).map answerOf = (decided.getIncident incidentId).map answerOf := by
  obtain ⟨f,keeps,attempts,answers,swaps,writes⟩ := write_parts w later about
  have wrote : w.store db later = { db with incidents := db.incidents.modify incidentId f keeps, callAttempts := attempts } :=
    writes db.incidents stored
  refine ⟨?_,?_,fun decided answered updates => answer_updates answered updates⟩
  · obtain same | upserts := update_parts update now
    · rw [same,same]
      exact ⟨rfl,rfl,rfl⟩
    · rw [upserts,wrote,upserts,writes]
      · exact ⟨Table.map_upsert_modify undated keeps (mergeIncident_incidentId _) stored (swaps _),rfl,rfl⟩
      · rw [Table.find_upsert]
        split
        · rfl
        · exact stored
  · obtain ⟨row,found⟩ := Option.isSome_iff_exists.mp stored
    refine ⟨f row,?_,answers row⟩
    have there : db.incidents.find incidentId = some row := found
    rw [wrote,getIncident,Table.find_modify_same,there,Option.map_some]

-- The stored incident of the backend's tests is cancelled, and the Pi reports it once more.
def storedIncident : Database := (Runs.run (step demoSettings) fresh seeded).database
def repeatedUpdate : DeviceUpdate := ⟨confirmedIncident,"ignis-qnxpi-01","boot-test"⟩
def cancellation : BackendWrite :=
  .response confirmedIncident.incidentId .cancelled (some "false_alarm") (.inr rfl)

theorem cancellation_commutes :
    SameButUpdatedAt (cancellation.store (repeatedUpdate.store storedIncident 2000000) 3000000)
        (repeatedUpdate.store (cancellation.store storedIncident 3000000) 2000000) ∧
      Decided (cancellation.store storedIncident 3000000) confirmedIncident.incidentId ∧
      ∀ decided : Database, Decided decided confirmedIncident.incidentId → ∀ updates : List (Time × DeviceUpdate),
        ((storedAll decided updates).getIncident confirmedIncident.incidentId).map answerOf =
          (decided.getIncident confirmedIncident.incidentId).map answerOf :=
  updates_commute storedIncident confirmedIncident.incidentId (by decide +kernel) repeatedUpdate cancellation rfl
    2000000 3000000

end Ignis.Backend
