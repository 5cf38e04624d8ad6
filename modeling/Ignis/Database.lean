import Mathlib.Algebra.Order.Ring.Rat
import Mathlib.Algebra.Order.Monoid.Unbundled.WithTop
import Ignis.States
import Ignis.Tables

-- The backend's SQLite tables and the statements of `database.py` on them. Each
-- statement reads the clock once, in microseconds, and either commits or changes nothing.
namespace Ignis.Database
open Tables

abbrev Time := ℕ
-- A REAL column: the finite values and the two infinities. SQLite stores NaN as NULL.
abbrev Number := WithBot (WithTop ℚ)

inductive CallStatus where
  | requested | initiated | unknown | connected | completed | failed
deriving DecidableEq, Repr

structure IncidentRow where
  incidentId : String
  deviceId : String
  bootId : String
  hazardState : HazardState
  responseState : ResponseState
  firstDetectionMonotonicNs : ℕ
  updatedMonotonicNs : ℕ
  firstDetectedAt : Time
  confirmedAt : Option Time
  resolvedAt : Option Time
  firstZone : String
  currentZone : String
  peakFireConfidence : Number
  peakSmokeConfidence : Number
  maxGrowthPercent : Option Number
  smokeFirst : Option Bool
  smokeToFireDelaySeconds : Option Number
  secondsPersistent : Number
  occupantVisible : Option Bool
  occupantResponse : Option String
  callStatus : Option CallStatus
  callConversationId : Option String
  callSid : Option String
  primaryFireBbox : Option (List Number)
  primarySmokeBbox : Option (List Number)
  cameraHealth : String
  inferenceHealth : String
  createdAt : Time
  updatedAt : Time

structure IncidentEvent where
  id : ℕ
  incidentId : String
  eventType : String
  source : String
  deviceMonotonicNs : Option ℕ
  occurredAt : Option String
  receivedAt : Time

structure CallAttempt where
  id : ℕ
  incidentId : String
  status : CallStatus
  providerConversationId : Option String
  providerCallSid : Option String
  requestedAt : Time
  updatedAt : Time
  errorCode : Option String
  errorMessageSafe : Option String

end Ignis.Database

namespace Ignis
open Tables Database

structure Database where
  incidents : Table IncidentRow.incidentId
  incidentEvents : Table IncidentEvent.id
  callAttempts : Table CallAttempt.id

-- The fields of `IncidentUpdate` of `models.py`, and what they must meet to be one.
structure IncidentFields where
  incidentId : String
  deviceId : Option String
  bootId : Option String
  hazardState : HazardState
  responseState : ResponseState
  firstDetectionMonotonicNs : ℕ
  updatedMonotonicNs : ℕ
  fireConfidence : Number
  smokeConfidence : Number
  secondsPersistent : Number
  firstZone : String
  currentZone : String
  primaryFireBbox : Option (List Number)
  primarySmokeBbox : Option (List Number)
  fireRegionGrowthPercent : Option Number
  smokeFirst : Option Bool
  smokeToFireDelaySeconds : Option Number
  occupantVisible : Option Bool
  cameraHealth : String
  inferenceHealth : String
deriving DecidableEq

structure IncidentUpdate extends IncidentFields where
  incidentIdLength : 1 ≤ incidentId.length ∧ incidentId.length ≤ 160
  deviceIdLength : ∀ id ∈ deviceId, id.length ≤ 80
  bootIdLength : ∀ id ∈ bootId, id.length ≤ 80
  fireConfidenceRange : 0 ≤ fireConfidence ∧ fireConfidence ≤ 1
  smokeConfidenceRange : 0 ≤ smokeConfidence ∧ smokeConfidence ≤ 1
  secondsPersistentRange : 0 ≤ secondsPersistent
  firstZoneLength : firstZone.length ≤ 48
  currentZoneLength : currentZone.length ≤ 48
  cameraHealthLength : cameraHealth.length ≤ 32
  inferenceHealthLength : inferenceHealth.length ≤ 32

namespace Database

def initialized : Database := ⟨.empty,.empty,.empty⟩

def orElse (value : Option String) (fallback : String) : String :=
  match value with
  | some text => if text = "" then fallback else text
  | none => fallback

-- An empty list of coordinates is as good as none.
def storedBbox : Option (List Number) → Option (List Number)
  | some [] => none
  | bbox => bbox

def largerGrowth : Option Number → Option Number → Option Number
  | stored,none => stored
  | none,some excluded => some excluded
  | some stored,some excluded => some (max stored excluded)

def backendResponse : ResponseState → Bool
  | .idle | .awaitingResponse => false
  | .cancelled | .escalating | .callRequested | .callInitiated
  | .callConnected | .callCompleted | .callFailed => true

def insertedIncident (now : Time) (data : IncidentUpdate) (defaultDeviceId bootId : String) : IncidentRow where
  incidentId := data.incidentId
  deviceId := orElse data.deviceId defaultDeviceId
  bootId := orElse data.bootId bootId
  hazardState := data.hazardState
  responseState := data.responseState
  firstDetectionMonotonicNs := data.firstDetectionMonotonicNs
  updatedMonotonicNs := data.updatedMonotonicNs
  firstDetectedAt := now
  confirmedAt := if data.hazardState = .confirmed then some now else none
  resolvedAt := if data.hazardState = .resolved then some now else none
  firstZone := data.firstZone
  currentZone := data.currentZone
  peakFireConfidence := data.fireConfidence
  peakSmokeConfidence := data.smokeConfidence
  maxGrowthPercent := data.fireRegionGrowthPercent
  smokeFirst := data.smokeFirst
  smokeToFireDelaySeconds := data.smokeToFireDelaySeconds
  secondsPersistent := data.secondsPersistent
  occupantVisible := data.occupantVisible
  occupantResponse := none
  callStatus := none
  callConversationId := none
  callSid := none
  primaryFireBbox := storedBbox data.primaryFireBbox
  primarySmokeBbox := storedBbox data.primarySmokeBbox
  cameraHealth := data.cameraHealth
  inferenceHealth := data.inferenceHealth
  createdAt := now
  updatedAt := now

-- The `ON CONFLICT(incident_id) DO UPDATE` of `upsert_incident`.
def mergeIncident (excluded row : IncidentRow) : IncidentRow :=
  { row with
    hazardState := excluded.hazardState
    responseState := if backendResponse row.responseState then row.responseState else excluded.responseState
    updatedMonotonicNs := max row.updatedMonotonicNs excluded.updatedMonotonicNs
    confirmedAt := row.confirmedAt.or excluded.confirmedAt
    resolvedAt := excluded.resolvedAt.or row.resolvedAt
    currentZone := excluded.currentZone
    peakFireConfidence := max row.peakFireConfidence excluded.peakFireConfidence
    peakSmokeConfidence := max row.peakSmokeConfidence excluded.peakSmokeConfidence
    maxGrowthPercent := largerGrowth row.maxGrowthPercent excluded.maxGrowthPercent
    smokeFirst := row.smokeFirst.or excluded.smokeFirst
    smokeToFireDelaySeconds := row.smokeToFireDelaySeconds.or excluded.smokeToFireDelaySeconds
    secondsPersistent := max row.secondsPersistent excluded.secondsPersistent
    occupantVisible := excluded.occupantVisible.or row.occupantVisible
    primaryFireBbox := excluded.primaryFireBbox.or row.primaryFireBbox
    primarySmokeBbox := excluded.primarySmokeBbox.or row.primarySmokeBbox
    cameraHealth := excluded.cameraHealth
    inferenceHealth := excluded.inferenceHealth
    updatedAt := excluded.updatedAt }

theorem mergeIncident_incidentId (excluded row : IncidentRow) :
    (mergeIncident excluded row).incidentId = row.incidentId := rfl

-- An INTEGER column holds a signed 64-bit value; a larger one raises OverflowError.
def fitsInteger (n : ℕ) : Bool := n < 2 ^ 63

def getIncident (db : Database) (incidentId : String) : Option IncidentRow := db.incidents.find incidentId

def upsertIncident (db : Database) (now : Time) (data : IncidentUpdate) (defaultDeviceId bootId : String) :
    Option Database :=
  if fitsInteger data.firstDetectionMonotonicNs && fitsInteger data.updatedMonotonicNs then
    let excluded := insertedIncident now data defaultDeviceId bootId
    let stored := db.incidents.upsert excluded (mergeIncident excluded) (mergeIncident_incidentId excluded)
    some { db with incidents := stored }
  else none

def recordedEvent (now : Time) (incidentId eventType source : String) (monotonicNs : Option ℕ)
    (occurredAt : Option String) (id : ℕ) : IncidentEvent :=
  ⟨id,incidentId,.ofList (eventType.toList.take 80),.ofList (source.toList.take 40),monotonicNs,occurredAt,now⟩

theorem recordedEvent_id {now : Time} {incidentId eventType source : String} {monotonicNs : Option ℕ}
    {occurredAt : Option String} (id : ℕ) :
    (recordedEvent now incidentId eventType source monotonicNs occurredAt id).id = id := rfl

-- The foreign key refuses an event without its incident.
def addEvent (db : Database) (now : Time) (incidentId eventType source : String)
    (monotonicNs : Option ℕ) (occurredAt : Option String) : Option Database :=
  if (db.getIncident incidentId).isSome && monotonicNs.all fitsInteger then
    let event := recordedEvent now incidentId eventType source monotonicNs occurredAt
    some { db with incidentEvents := db.incidentEvents.push event recordedEvent_id }
  else none

def updatedResponse (now : Time) (responseState : ResponseState) (occupantResponse : Option String)
    (hazardState : Option HazardState) (row : IncidentRow) : IncidentRow :=
  match hazardState with
  | some hazard =>
    { row with
      responseState := responseState
      occupantResponse := occupantResponse
      hazardState := hazard
      resolvedAt := if hazard = .resolved then some now else row.resolvedAt
      updatedAt := now }
  | none =>
    { row with
      responseState := responseState
      occupantResponse := occupantResponse.or row.occupantResponse
      updatedAt := now }

theorem updatedResponse_incidentId {now : Time} {responseState : ResponseState} {occupantResponse : Option String}
    {hazardState : Option HazardState} (row : IncidentRow) :
    (updatedResponse now responseState occupantResponse hazardState row).incidentId = row.incidentId := by
  cases hazardState <;> rfl

-- Nothing is returned where the source raises `DatabaseError("incident not found")`.
def updateIncidentResponse (db : Database) (now : Time) (incidentId : String) (responseState : ResponseState)
    (occupantResponse : Option String) (hazardState : Option HazardState) : Option Database :=
  if (db.getIncident incidentId).isSome then
    let update := updatedResponse now responseState occupantResponse hazardState
    some { db with incidents := db.incidents.modify incidentId update updatedResponse_incidentId }
  else none

inductive CallPolicyError where
  | incidentNotFound | incidentNotVisuallyConfirmed | incidentCancelled
  | duplicateOrMaxCallsReached | globalCallCooldown
deriving DecidableEq, Repr

def CallPolicyError.text : CallPolicyError → String
  | .incidentNotFound => "incident_not_found"
  | .incidentNotVisuallyConfirmed => "incident_not_visually_confirmed"
  | .incidentCancelled => "incident_cancelled"
  | .duplicateOrMaxCallsReached => "duplicate_or_max_calls_reached"
  | .globalCallCooldown => "global_call_cooldown"

def activeStatuses : List CallStatus := [.requested,.initiated,.unknown,.connected,.completed]

def CallAttempt.active (attempt : CallAttempt) : Bool := activeStatuses.contains attempt.status

def activeCalls (db : Database) (incidentId : String) : ℕ :=
  db.callAttempts.rows.countP fun attempt => attempt.incidentId == incidentId && attempt.active

def latestRequest (db : Database) : Option Time :=
  ((db.callAttempts.rows.filter CallAttempt.active).map CallAttempt.requestedAt).max?

def microseconds (seconds : ℕ) : ℕ := 1000000 * seconds

def coolingDown (db : Database) (now : Time) (cooldownSeconds : ℕ) : Bool :=
  db.latestRequest.any fun latest => now < latest + microseconds cooldownSeconds

def requestedAttempt (now : Time) (incidentId : String) (id : ℕ) : CallAttempt :=
  ⟨id,incidentId,.requested,none,none,now,now,none,none⟩

def requestedIncident (now : Time) (row : IncidentRow) : IncidentRow :=
  { row with responseState := .callRequested, callStatus := some .requested, updatedAt := now }

theorem requestedAttempt_id (now : Time) (incidentId : String) (id : ℕ) :
    (requestedAttempt now incidentId id).id = id := rfl
theorem requestedIncident_incidentId (now : Time) (row : IncidentRow) :
    (requestedIncident now row).incidentId = row.incidentId := rfl

def reservedCall (db : Database) (now : Time) (incidentId : String) : Database :=
  { db with
    callAttempts := db.callAttempts.push (requestedAttempt now incidentId) (requestedAttempt_id now incidentId)
    incidents := db.incidents.modify incidentId (requestedIncident now) (requestedIncident_incidentId now) }

def reserveCallAttempt (db : Database) (now : Time) (incidentId : String) (cooldownSeconds maxCalls : ℕ) :
    Except CallPolicyError (ℕ × Database) :=
  match db.getIncident incidentId with
  | none => .error .incidentNotFound
  | some incident =>
    if incident.confirmedAt = none then .error .incidentNotVisuallyConfirmed
    else if incident.responseState = .cancelled then .error .incidentCancelled
    else if maxCalls ≤ db.activeCalls incidentId then .error .duplicateOrMaxCallsReached
    else if db.coolingDown now cooldownSeconds then .error .globalCallCooldown
    else .ok (db.callAttempts.next,db.reservedCall now incidentId)

def eligible (incident : IncidentRow) : Bool := incident.confirmedAt.isSome && incident.responseState ≠ .cancelled

def policyOpen (db : Database) (now : Time) (incidentId : String) (cooldownSeconds maxCalls : ℕ) : Bool :=
  (db.getIncident incidentId).any eligible && db.activeCalls incidentId < maxCalls && !db.coolingDown now cooldownSeconds

theorem reserveCallAttempt_cases (db : Database) (now : Time) (incidentId : String) (cooldownSeconds maxCalls : ℕ) :
    (db.policyOpen now incidentId cooldownSeconds maxCalls = true ∧
      db.reserveCallAttempt now incidentId cooldownSeconds maxCalls =
        .ok (db.callAttempts.next,db.reservedCall now incidentId)) ∨
    (db.policyOpen now incidentId cooldownSeconds maxCalls = false ∧
      ∃ refusal, db.reserveCallAttempt now incidentId cooldownSeconds maxCalls = .error refusal) := by
  unfold reserveCallAttempt policyOpen
  cases db.getIncident incidentId with
  | none => exact .inr ⟨by simp,_,rfl⟩
  | some incident =>
    simp only [Option.any_some,eligible]
    cases confirmed : incident.confirmedAt with
    | none => exact .inr ⟨by simp,_,rfl⟩
    | some time =>
      simp only [reduceCtorEq,if_false,Option.isSome_some,Bool.true_and]
      by_cases cancelled : incident.responseState = .cancelled
      · exact .inr ⟨by simp [cancelled],_,by rw [if_pos cancelled]⟩
      · rw [if_neg cancelled]
        by_cases full : maxCalls ≤ db.activeCalls incidentId
        · exact .inr ⟨by simp [full],_,by rw [if_pos full]⟩
        · have room : db.activeCalls incidentId < maxCalls := by omega
          rw [if_neg full]
          cases cooling : db.coolingDown now cooldownSeconds
          · exact .inl ⟨by simp [cancelled,room],rfl⟩
          · exact .inr ⟨by simp,_,rfl⟩

-- `mapping` of `update_call_attempt`; a status outside it is a KeyError.
def responseOfStatus : CallStatus → Option ResponseState
  | .requested => none
  | .initiated => some .callInitiated
  | .unknown => some .callInitiated
  | .connected => some .callConnected
  | .completed => some .callCompleted
  | .failed => some .callFailed

-- What is stored of a provider report, by an HTTP answer or a webhook.
structure Report where
  status : CallStatus
  conversationId : Option String
  callSid : Option String
  errorCode : Option String
  errorMessageSafe : Option String
deriving DecidableEq

def reportedAttempt (now : Time) (report : Report) (attempt : CallAttempt) : CallAttempt :=
  { attempt with
    status := report.status
    providerConversationId := report.conversationId
    providerCallSid := report.callSid
    errorCode := report.errorCode
    errorMessageSafe := report.errorMessageSafe
    updatedAt := now }

def reportedIncident (now : Time) (report : Report) (responseState : ResponseState) (row : IncidentRow) : IncidentRow :=
  { row with
    responseState := responseState
    callStatus := some report.status
    callConversationId := report.conversationId.or row.callConversationId
    callSid := report.callSid.or row.callSid
    updatedAt := now }

theorem reportedAttempt_id (now : Time) (report : Report) (attempt : CallAttempt) :
    (reportedAttempt now report attempt).id = attempt.id := rfl
theorem reportedIncident_incidentId (now : Time) (report : Report) (responseState : ResponseState)
    (row : IncidentRow) : (reportedIncident now report responseState row).incidentId = row.incidentId := rfl

-- Nothing is returned where the source raises and rolls back.
def updateCallAttempt (db : Database) (now : Time) (attemptId : ℕ) (report : Report) : Option Database :=
  match db.callAttempts.find attemptId,responseOfStatus report.status with
  | some attempt,some responseState => some { db with
      callAttempts := db.callAttempts.modify attemptId (reportedAttempt now report) (reportedAttempt_id now report)
      incidents := db.incidents.modify attempt.incidentId (reportedIncident now report responseState)
        (reportedIncident_incidentId now report responseState) }
  | _,_ => none

-- The newest attempt; rows stand in the order of their ids.
def findAttemptForIncident (db : Database) (incidentId : String) : Option CallAttempt :=
  db.callAttempts.rows.reverse.find? fun attempt => attempt.incidentId = incidentId

end Database
end Ignis
