import Ignis.BackendRecords

namespace Ignis.Backend
open Tables Database Communications Escalation Runs

variable {settings : Settings} {app : App} {tick : Tick} {db : Database} {now : Time}

def Settled (row : IncidentRow) : Prop := row.hazardState = .resolved ↔ row.resolvedAt ≠ none

instance (row : IncidentRow) : Decidable (Settled row) := inferInstanceAs (Decidable (_ ↔ _))

def AllSettled (db : Database) : Prop := ∀ row ∈ db.incidents.rows, Settled row

instance (db : Database) : Decidable (AllSettled db) := inferInstanceAs (Decidable (∀ row ∈ db.incidents.rows, Settled row))

def isResolved (row : IncidentRow) : Bool := row.hazardState = .resolved

def reopens (db : Database) (data : IncidentUpdate) : Bool :=
  fitsInteger data.firstDetectionMonotonicNs && fitsInteger data.updatedMonotonicNs &&
    data.hazardState ≠ .resolved && (db.getIncident data.incidentId).any isResolved

def reopening (app : App) (tick : Tick) : Bool :=
  match tick.input with
  | .packet _ (.incidentUpdate data) => app.armed && reopens app.database data
  | _ => false

theorem settled_rows {a b : Database} (same : rows a = rows b) : AllSettled a ↔ AllSettled b := by
  have incidents : a.incidents = b.incidents := congrArg Prod.fst same
  rw [AllSettled,AllSettled,incidents]

-- A merge keeps `resolved_at`, so the row is settled afterwards unless it is reopened.
theorem settled_stored {data : IncidentUpdate} {deviceId bootId : String} {stored : Option IncidentRow}
    (settled : ∀ row ∈ stored, Settled row) :
    Settled ((stored.map (mergeIncident (insertedIncident now data deviceId bootId))).getD
        (insertedIncident now data deviceId bootId)) ↔
      (decide (data.hazardState ≠ .resolved) && stored.any isResolved) = false := by
  cases stored with
  | none => by_cases resolves : data.hazardState = .resolved <;> simp [Settled,insertedIncident,resolves]
  | some row =>
    have before : row.hazardState = .resolved ↔ row.resolvedAt ≠ none := settled row rfl
    by_cases resolves : data.hazardState = .resolved
    · simp [Settled,mergeIncident,insertedIncident,resolves]
    · have same : row.resolvedAt = none ↔ ¬ row.hazardState = .resolved := by rw [before,not_not]
      simpa [Settled,mergeIncident,insertedIncident,isResolved,resolves] using same

theorem settled_upserted (settled : AllSettled db) (data : IncidentUpdate) (deviceId bootId : String) :
    AllSettled ((Effect.upserted data deviceId bootId).apply settings db now) ↔ reopens db data = false := by
  simp only [Effect.apply,upsertIncident,reopens]
  cases fitsInteger data.firstDetectionMonotonicNs && fitsInteger data.updatedMonotonicNs with
  | false => simpa using settled
  | true =>
    simp only [if_true,Option.getD_some,Bool.true_and]
    refine (Table.forall_upsert settled).trans (settled_stored ?_)
    intro row found
    exact settled row (Table.find_mem found)

theorem settled_responded (settled : AllSettled db) (incidentId : String) (responseState : ResponseState)
    (occupantResponse : Option String) (hazardState : Option HazardState) (resolves : ∀ hazard ∈ hazardState, hazard = .resolved) :
    AllSettled ((Effect.responded incidentId responseState occupantResponse hazardState).apply settings db now) := by
  simp only [Effect.apply,updateIncidentResponse]
  split
  · refine Table.forall_modify updatedResponse_incidentId settled fun row before => ?_
    cases hazardState with
    | none => exact before
    | some hazard => simp [Settled,updatedResponse,resolves hazard rfl]
  · exact settled

theorem settled_reported (settled : AllSettled db) (attemptId : ℕ) (report : Report) :
    AllSettled ((db.updateCallAttempt now attemptId report).getD db) := by
  unfold updateCallAttempt
  split
  · exact Table.forall_modify (reportedIncident_incidentId now report _) settled fun _ before => before
  · exact settled

theorem settled_called (settled : AllSettled db) (incidentId : String) :
    AllSettled ((Effect.called incidentId).apply settings db now) := by
  have reserved : AllSettled (db.reservedCall now incidentId) :=
    Table.forall_modify (requestedIncident_incidentId now) settled fun _ before => before
  simp only [Effect.apply,placedCall]
  split
  · exact reserved
  · cases settings.callProvider with
    | elevenlabs => exact reserved
    | mock => exact settled_reported reserved _ _

theorem reopening_upserts (reopens : reopening app tick = true) :
    ∃ hello : Hello, ∃ data, effect settings app tick = .upserted data hello.deviceId hello.bootId := by
  unfold reopening at reopens
  split at reopens
  · rename_i hello data kind
    simp only [Bool.and_eq_true] at reopens
    exact ⟨hello,data,by simp only [effect,kind,reopens.1,if_true]⟩
  · cases reopens

theorem settled_step (settled : AllSettled app.database) :
    AllSettled (step settings app tick).database ↔ reopening app tick = false := by
  rw [settled_rows (step_rows settings app tick)]
  have caused := effect_caused settings app tick
  cases same : effect settings app tick with
  | nothing =>
    refine iff_of_true settled (Bool.eq_false_iff.mpr fun reopens => ?_)
    obtain ⟨hello,data,upserts⟩ := reopening_upserts reopens
    rw [same] at upserts
    cases upserts
  | upserted data deviceId bootId =>
    rw [same] at caused
    cases caused with
    | update armed => simpa [reopening,armed] using settled_upserted settled data _ _
  | responded incidentId responseState occupantResponse hazardState =>
    rw [same] at caused
    refine iff_of_true (settled_responded settled _ _ _ _ ?_) ?_
    · cases caused <;> simp
    · cases caused <;> rfl
  | called incidentId =>
    rw [same] at caused
    refine iff_of_true (settled_called settled incidentId) ?_
    cases caused <;> rfl
  | reported attemptId report =>
    rw [same] at caused
    refine iff_of_true (settled_reported settled attemptId report) ?_
    cases caused <;> rfl

theorem resolved_kept_iff (settings : Settings) (ticks : List Tick) :
    Throughout (step settings) (fun app => AllSettled app.database) fresh ticks ↔
      Along (step settings) (fun app tick => reopening app tick = false) fresh ticks :=
  throughout_iff_along (fun _ => True) (fun _ _ _ => trivial) (fun _ _ _ settled => settled_step settled) trivial
    (fun _ member => by cases member)

-- The occupant cancels and resets the incident, and the Pi reports it once more.
def resetIncident : List Tick :=
  seeded ++ [⟨2000000,.cancel true confirmedIncident.incidentId .falseAlarm .manual⟩,
    ⟨3000000,.reset true confirmedIncident.incidentId⟩]

def reportedAgain : Tick := ⟨4000000,.packet ⟨"ignis-qnxpi-01","boot-test"⟩ (.incidentUpdate confirmedIncident)⟩

theorem resolved_reopened :
    ¬ Throughout (step demoSettings) (fun app => AllSettled app.database) fresh (resetIncident ++ [reportedAgain]) := by
  intro settled
  have last := settled.last
  revert last
  decide +kernel

end Ignis.Backend
