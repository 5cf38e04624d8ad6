import Ignis.BackendRecords

-- What the backend does to the stored hazard state of one incident: the device's updates overwrite it,
-- a manual reset writes RESOLVED, and nothing else touches it.
namespace Ignis.Backend
open Tables Database Communications

def hazard (db : Database) (incidentId : String) : Option HazardState :=
  (db.getIncident incidentId).map IncidentRow.hazardState

def heard (incidentId : String) (before : Option HazardState) : DevicePacket → Option HazardState
  | .incidentUpdate data => if incidentId = data.incidentId then some data.hazardState else before
  | _ => before

def isReset : Backend.Input → Bool
  | .reset .. => true
  | _ => false

variable {settings : Settings} {app next : App} {tick : Tick} {db later : Database} {now : Time} {incidentId other : String}

theorem hazard_rows {a b : Database} (same : rows a = rows b) : hazard a incidentId = hazard b incidentId :=
  viewed_rows same

theorem hazard_responded (responseState : ResponseState) (occupantResponse : Option String) :
    hazard ((Effect.responded other responseState occupantResponse none).apply settings db now) incidentId =
      hazard db incidentId := viewed_responded fun _ => rfl

theorem hazard_reported (attemptId : ℕ) (report : Report) :
    hazard ((db.updateCallAttempt now attemptId report).getD db) incidentId = hazard db incidentId :=
  viewed_reported fun _ _ => rfl

theorem hazard_called : hazard ((Effect.called other).apply settings db now) incidentId = hazard db incidentId :=
  viewed_called (fun _ => rfl) fun _ _ _ => rfl

theorem hazard_step (ours : ∀ hello packet, tick.input ≠ .packet hello packet) (unreset : isReset tick.input = false) :
    hazard (step settings app tick).database incidentId = hazard app.database incidentId := by
  refine (viewed_step settings app tick incidentId).trans ?_
  have caused := effect_caused settings app tick
  cases same : effect settings app tick with
  | nothing => rfl
  | upserted data deviceId bootId =>
    rw [same] at caused
    cases caused with
    | update armed => exact absurd rfl (ours _ _)
  | responded target responseState occupantResponse hazardState =>
    rw [same] at caused
    cases caused with
    | confirm found guard => exact hazard_responded _ _
    | cancel found guard => exact hazard_responded _ _
    | wake runs found guard => exact hazard_responded _ _
    | reset found guard => cases unreset
  | called target => exact hazard_called
  | reported attemptId report => exact hazard_reported attemptId report

theorem hazard_upserted {data : IncidentUpdate} {deviceId bootId : String}
    (upserted : db.upsertIncident now data deviceId bootId = some later) :
    hazard later incidentId = heard incidentId (hazard db incidentId) (.incidentUpdate data) := by
  unfold upsertIncident at upserted
  split at upserted
  · cases upserted
    simp only [hazard,heard,getIncident,Table.find_upsert,insertedIncident]
    split
    · cases db.incidents.find data.incidentId <;> rfl
    · rfl
  · cases upserted

theorem hazard_dispatch {hello : Hello} {packet : DevicePacket} (armed : app.armed = true)
    (taken : dispatch app now hello packet = .ok next) :
    hazard next.database incidentId = heard incidentId (hazard app.database incidentId) packet := by
  cases packet with
  | incidentUpdate data =>
    cases upserted : app.database.upsertIncident now data hello.deviceId hello.bootId with
    | none => simp [dispatch,armed,upserted] at taken
    | some later =>
      simp only [dispatch,armed,upserted,Bool.not_true,Bool.false_eq_true,if_false,Except.ok.injEq] at taken
      subst taken
      exact hazard_upserted upserted
  | timelineEvent data =>
    cases found : app.database.getIncident data.incidentId with
    | none => simp [dispatch,found] at taken
    | some stored =>
      cases added : app.database.addEvent now data.incidentId (data.eventType.getD "DEVICE_EVENT") "qnx"
        (some data.monotonicNs) data.wallTimeUtc with
      | none => simp [dispatch,found,added] at taken
      | some later =>
        simp only [dispatch,found,added,Except.ok.injEq] at taken
        subst taken
        apply hazard_rows
        unfold addEvent at added
        split at added
        · cases added
          rfl
        · cases added
  | invalidUpdate error =>
    simp only [dispatch] at taken
    split at taken
    · cases taken
      rfl
    · cases taken
  | malformed error => cases taken
  | unexpected packetType => cases taken
  | _ =>
    cases taken
    rfl

end Ignis.Backend
