import Ignis.Runs
import Ignis.Communications
import Ignis.Escalation

-- The laptop backend of `main.py`, `escalation.py` and `tcp_server.py`. Its event loop runs
-- one piece of code from one await to the next without interruption, so a run is a list of
-- such pieces in any order. A piece that cannot run in a state leaves the state alone.
namespace Ignis.Backend
open Tables Database Communications Escalation

structure HTTPException where
  statusCode : ℕ
  detail : String
deriving DecidableEq, Repr

inductive Source where
  | manual | voiceAgent
deriving DecidableEq, Repr

def Source.text : Source → String
  | .manual => "manual"
  | .voiceAgent => "voice_agent"

inductive CancelReason where
  | controlledFlame | falseAlarm | testing | other
deriving DecidableEq, Repr

def CancelReason.text : CancelReason → String
  | .controlledFlame => "controlled_flame"
  | .falseAlarm => "false_alarm"
  | .testing => "testing"
  | .other => "other"

inductive ProviderCallStatus where
  | connected | completed | failed
deriving DecidableEq, Repr

structure ProviderStatus where
  incidentId : String
  status : ProviderCallStatus
  conversationId : Option String
  callSid : Option String
  errorCode : Option String
  incidentIdLength : 1 ≤ incidentId.length ∧ incidentId.length ≤ 160
  conversationIdLength : ∀ id ∈ conversationId, id.length ≤ 160
  callSidLength : ∀ id ∈ callSid, id.length ≤ 160
  errorCodeLength : ∀ code ∈ errorCode, code.length ≤ 80

structure Hello where
  deviceId : String
  bootId : String

structure TimelineEvent where
  incidentId : String
  eventType : Option String
  monotonicNs : ℕ
  wallTimeUtc : Option String

-- A packet whose payload its decoder accepts, or the error text of one it rejects; an update that is
-- no IncidentUpdate is rejected only where it is looked at.
inductive DevicePacket where
  | frame
  | detections
  | incidentUpdate (data : IncidentUpdate)
  | timelineEvent (data : TimelineEvent)
  | healthUpdate
  | configAck
  | ping
  | evidenceManifest
  | logEvent
  | invalidUpdate (error : String)
  | malformed (error : String)
  | unexpected (packetType : String)

inductive DeviceError where
  | protocolError (text : String)
  | overflow
  | typeError
  | databaseError
deriving DecidableEq, Repr

structure PendingCall where
  attemptId : ℕ
  incidentId : String
  caller : Option ℕ

structure App where
  armed : Bool
  database : Database
  timeoutManager : ResponseTimeoutManager
  calls : Table PendingCall.attemptId
  -- Device updates that are stored but whose broadcast is not over.
  announcing : List String

-- A process starts unarmed, with no task and no call, over the database it finds.
def launched (database : Database) : App := ⟨false,database,idle,.empty,[]⟩
def fresh : App := launched Database.initialized

variable (settings : Settings) (app : App) (now : Time)

def rateLimited : HTTPException := ⟨429,"action_rate_limit_exceeded"⟩
def notFound : HTTPException := ⟨404,"incident_not_found"⟩

-- `require_rate_limit` and `get_incident_or_404`, with which every action on an incident starts.
def onIncident (allowed : Bool) (incidentId : String) (action : IncidentRow → Except HTTPException App) :
    Except HTTPException App :=
  if !allowed then .error rateLimited
  else match app.database.getIncident incidentId with
  | none => .error notFound
  | some stored => action stored

def visible (hazardState : HazardState) : Bool := hazardState = .confirmed || hazardState = .visualSignatureLost

def respond (incidentId : String) (responseState : ResponseState) (occupantResponse : Option String)
    (hazardState : Option HazardState) (eventType source : String) : Database :=
  let updated := (app.database.updateIncidentResponse now incidentId responseState occupantResponse hazardState).getD
    app.database
  (updated.addEvent now incidentId eventType source none none).getD updated

def putArming (allowed armed : Bool) : Except HTTPException App :=
  if !allowed then .error rateLimited else .ok { app with armed := armed }

def confirm (allowed : Bool) (incidentId : String) (source : Source) : Except HTTPException App :=
  onIncident app allowed incidentId fun stored =>
    if !visible stored.hazardState then .error ⟨409,"incident_not_visually_confirmed"⟩
    else if stored.responseState = .cancelled then .error ⟨409,"incident_cancelled"⟩
    else .ok { app with
      timeoutManager := cancel app.timeoutManager incidentId
      database := respond app now incidentId .escalating (some "confirmed") none "OCCUPANT_CONFIRMED" source.text }

def connected (responseState : ResponseState) : Bool :=
  responseState = .callConnected || responseState = .callCompleted

def cancel (allowed : Bool) (incidentId : String) (reason : CancelReason) (source : Source) :
    Except HTTPException App :=
  onIncident app allowed incidentId fun stored =>
    if connected stored.responseState then .error ⟨409,"communication_already_connected"⟩
    else .ok { app with
      timeoutManager := Escalation.cancel app.timeoutManager incidentId
      database := respond app now incidentId .cancelled (some reason.text) none "ESCALATION_CANCELLED" source.text }

def readyForReset (responseState : ResponseState) : Bool :=
  responseState = .cancelled || responseState = .callCompleted || responseState = .callFailed

def reset (allowed : Bool) (incidentId : String) : Except HTTPException App :=
  onIncident app allowed incidentId fun stored =>
    if !readyForReset stored.responseState then .error ⟨409,"incident_not_ready_for_reset"⟩
    else .ok { app with
      database := respond app now incidentId stored.responseState stored.occupantResponse (some .resolved)
        "MANUAL_RESET" Source.manual.text }

def recordDispatch (incidentId : String) : App :=
  { app with
    database := (app.database.addEvent now incidentId "DEMO_DISPATCH_REQUESTED" "backend" none none).getD app.database }

def suspendCall (attemptId : ℕ) (incidentId : String) (caller : Option ℕ) : App :=
  { app with calls := app.calls.upsert ⟨attemptId,incidentId,caller⟩ id fun _ => rfl }

-- The state once a call was let through. An exception after the reservation is answered
-- with a 500, and what was stored stays.
def dispatched (incidentId : String) (placed : Database × ℕ × Progress) : App :=
  let next := { app with database := placed.1 }
  match placed.2.2 with
  | .accepted => recordDispatch next now incidentId
  | .raised => next
  | .posting => suspendCall next placed.2.1 incidentId none

def callDemoDispatch (allowed : Bool) (incidentId : String) : Except HTTPException App :=
  if !allowed then .error rateLimited
  else if !app.armed then .error ⟨409,"system_unarmed"⟩
  else match app.database.getIncident incidentId with
  | none => .error notFound
  | some _ =>
    match requestDemoCall settings app.database now incidentId with
    | .error refusal => .error ⟨refusal.statusCode,refusal.code⟩
    | .ok placed => .ok (dispatched app now incidentId placed)

def webhookReport (body : ProviderStatus) : Report where
  status := match body.status with
    | .connected => .connected
    | .completed => .completed
    | .failed => .failed
  conversationId := body.conversationId
  callSid := body.callSid
  errorCode := body.errorCode
  errorMessageSafe := if body.status = .failed then some "Provider reported call failure." else none

def providerCallStatus (secret : Option String) (body : ProviderStatus) : Except HTTPException App :=
  match authenticateProviderWebhook settings secret with
  | none => .error ⟨500,"Internal Server Error"⟩
  | some false => .error ⟨401,"invalid_webhook_secret"⟩
  | some true =>
    match app.database.findAttemptForIncident body.incidentId with
    | none => .error ⟨404,"call_attempt_not_found"⟩
    | some attempt => .ok { app with
        database := (app.database.updateCallAttempt now attempt.id (webhookReport body)).getD app.database }

-- `_dispatch`. Frames, detections and health go to the live views, which are not stored here.
def dispatch (hello : Hello) : DevicePacket → Except DeviceError App
  | .incidentUpdate data =>
    if !app.armed then .ok app
    else match app.database.upsertIncident now data hello.deviceId hello.bootId with
    | none => .error .overflow
    | some database => .ok { app with database := database, announcing := data.incidentId :: app.announcing }
  | .timelineEvent data =>
    match app.database.getIncident data.incidentId with
    | none => .error (.protocolError "timeline event references unknown incident")
    | some _ =>
      match app.database.addEvent now data.incidentId (data.eventType.getD "DEVICE_EVENT") "qnx"
        (some data.monotonicNs) data.wallTimeUtc with
      | none => .error .overflow
      | some database => .ok { app with database := database }
  | .invalidUpdate error => if !app.armed then .ok app else .error (.protocolError error)
  | .malformed error => .error (.protocolError error)
  | .unexpected packetType => .error (.protocolError s!"unexpected device packet type {packetType}")
  | .frame | .detections | .healthUpdate | .configAck | .ping | .evidenceManifest | .logEvent => .ok app

-- The observer runs when the broadcast of a stored update is over.
def announced (incidentId : String) : App :=
  if incidentId ∈ app.announcing then { app with
    announcing := app.announcing.erase incidentId
    timeoutManager := observe app.timeoutManager app.database incidentId }
  else app

def finishTask (task : ResponseTask) : App := { app with timeoutManager := finish app.timeoutManager task }
def moveTask (task : ResponseTask) (phase : Phase) : App :=
  { app with timeoutManager := moveTo app.timeoutManager task.id phase }

def wake (task : ResponseTask) : App :=
  match app.database.getIncident task.incidentId with
  | none => finishTask app task
  | some incident =>
    if incident.responseState ≠ .awaitingResponse then finishTask app task
    else if !visible incident.hazardState then finishTask app task
    else moveTask { app with
      database := respond app now task.incidentId .escalating (some "no_response") none
        "NO_OCCUPANT_RESPONSE" "backend_timeout" } task .announcing

def dialled (task : ResponseTask) (placed : Database × ℕ × Progress) : App :=
  let next := { app with database := placed.1 }
  match placed.2.2 with
  | .accepted => moveTask next task .reporting
  | .raised => finishTask next task
  | .posting => moveTask (suspendCall next placed.2.1 task.incidentId (some task.id)) task (.calling placed.2.1)

def dial (task : ResponseTask) : App :=
  if !settings.demoCallsEnabled then moveTask app task .reporting
  else match requestDemoCall settings app.database now task.incidentId with
  | .error _ => moveTask app task .reporting
  | .ok placed => dialled app task placed

-- A turn of a response task. A cancelled one is thrown out of its await, and out of
-- its call with it; one cancelled before its first turn never enters the coroutine.
def resume (id : ℕ) : App :=
  match app.timeoutManager.tasks.find id with
  | none => app
  | some task =>
    match task.phase,task.cancelled with
    | .done,_ => app
    | .created,true => moveTask app task .done
    | .calling attemptId,true => finishTask { app with calls := app.calls.erase attemptId } task
    | _,true => finishTask app task
    | .created,false => moveTask app task .sleeping
    | .sleeping,false => wake app now task
    | .announcing,false => dial settings app now task
    | .calling _,false => app
    | .reporting,false => finishTask app task

-- The provider answers a call. A task that was cancelled meanwhile does not see the answer.
def providerAnswered (attemptId : ℕ) (answer : ProviderAnswer) : App :=
  match app.calls.find attemptId with
  | none => app
  | some call =>
    let answered := { app with
      calls := app.calls.erase attemptId
      database := finishDemoCall app.database now attemptId answer }
    match call.caller with
    | none =>
      match answer.outcome with
      | .result => recordDispatch answered now call.incidentId
      | .refused _ | .raised => answered
    | some id =>
      match app.timeoutManager.tasks.find id with
      | none => app
      | some task =>
        if task.cancelled then app
        else match answer.outcome with
          | .result | .refused _ => moveTask answered task .reporting
          | .raised => finishTask answered task

-- The pieces of code the event loop can run next. `allowed` is the answer of the rate limiter.
inductive Input where
  | putArming (allowed armed : Bool)
  | confirm (allowed : Bool) (incidentId : String) (source : Source)
  | cancel (allowed : Bool) (incidentId : String) (reason : CancelReason) (source : Source)
  | reset (allowed : Bool) (incidentId : String)
  | callDemoDispatch (allowed : Bool) (incidentId : String)
  | providerCallStatus (secret : Option String) (body : ProviderStatus)
  | providerAnswered (attemptId : ℕ) (answer : ProviderAnswer)
  | packet (hello : Hello) (packet : DevicePacket)
  | announced (incidentId : String)
  | resume (task : ℕ)
  | restart

structure Tick where
  now : Time
  input : Input

def orUnchanged {ε : Type} (reply : Except ε App) : App :=
  match reply with
  | .ok next => next
  | .error _ => app

def step (tick : Tick) : App :=
  match tick.input with
  | .putArming allowed armed => orUnchanged app (putArming app allowed armed)
  | .confirm allowed incidentId source => orUnchanged app (confirm app tick.now allowed incidentId source)
  | .cancel allowed incidentId reason source => orUnchanged app (cancel app tick.now allowed incidentId reason source)
  | .reset allowed incidentId => orUnchanged app (reset app tick.now allowed incidentId)
  | .callDemoDispatch allowed incidentId =>
    orUnchanged app (callDemoDispatch settings app tick.now allowed incidentId)
  | .providerCallStatus secret body => orUnchanged app (providerCallStatus settings app tick.now secret body)
  | .providerAnswered attemptId answer => providerAnswered app tick.now attemptId answer
  | .packet hello packet => orUnchanged app (dispatch app tick.now hello packet)
  | .announced incidentId => announced app incidentId
  | .resume task => resume settings app tick.now task
  | .restart => launched app.database

-- The incident, the device and the numbers of the backend's own tests, with the real provider.
def confirmedIncident : IncidentUpdate where
  incidentId := "ignis-qnxpi-01-boot-test-1"
  deviceId := some "ignis-qnxpi-01"
  bootId := some "boot-test"
  hazardState := .confirmed
  responseState := .awaitingResponse
  firstDetectionMonotonicNs := 1000000000
  updatedMonotonicNs := 6000000000
  fireConfidence := ((0.91 : ℚ) : WithTop ℚ)
  smokeConfidence := ((0.76 : ℚ) : WithTop ℚ)
  secondsPersistent := ((5.0 : ℚ) : WithTop ℚ)
  firstZone := "Stovetop"
  currentZone := "Stovetop"
  primaryFireBbox := none
  primarySmokeBbox := none
  fireRegionGrowthPercent := some ((38.0 : ℚ) : WithTop ℚ)
  smokeFirst := some true
  smokeToFireDelaySeconds := some ((4.1 : ℚ) : WithTop ℚ)
  occupantVisible := none
  cameraHealth := "HEALTHY"
  inferenceHealth := "HEALTHY"
  incidentIdLength := by decide +kernel
  deviceIdLength := by decide +kernel
  bootIdLength := by decide +kernel
  fireConfidenceRange := by decide +kernel
  smokeConfidenceRange := by decide +kernel
  secondsPersistentRange := by decide +kernel
  firstZoneLength := by decide +kernel
  currentZoneLength := by decide +kernel
  cameraHealthLength := by decide +kernel
  inferenceHealthLength := by decide +kernel

def demoSettings : Settings where
  elevenlabsApiKey := "key"
  dispatchAgentId := "agent"
  phoneNumberId := "phone"
  demoCallsEnabled := true
  demoDispatchNumber := "+14165550123"
  demoAllowedNumbers := ["+14165550123"]
  globalCallCooldownSeconds := 60
  maxCallsPerIncident := 1
  callProvider := .elevenlabs
  providerWebhookSecret := "webhook-secret"

-- An armed backend with the confirmed incident stored, the clock at one second.
def seeded : List Tick :=
  [⟨1000000,.putArming true true⟩,
   ⟨1000000,.packet ⟨"ignis-qnxpi-01","boot-test"⟩ (.incidentUpdate confirmedIncident)⟩]

def answered (status : ProviderCallStatus) : ProviderStatus where
  incidentId := confirmedIncident.incidentId
  status := status
  conversationId := none
  callSid := none
  errorCode := none
  incidentIdLength := by decide +kernel
  conversationIdLength := by simp
  callSidLength := by simp
  errorCodeLength := by simp
def webhook (now : Time) (status : ProviderCallStatus) : Tick :=
  ⟨now,.providerCallStatus (some "webhook-secret") (answered status)⟩

example : (callDemoDispatch demoSettings fresh 1000000 true confirmedIncident.incidentId).toOption.isNone := by
  decide +kernel
example : (callDemoDispatch { demoSettings with callProvider := .mock }
    (Runs.run (step demoSettings) fresh seeded) 1000000 true confirmedIncident.incidentId).toOption.isSome := by
  decide +kernel

end Ignis.Backend
