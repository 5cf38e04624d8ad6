import Ignis.Backend

-- Said once: what one step of the backend does to the incidents and the call attempts.
namespace Ignis.Backend
open Tables Database Communications Escalation

inductive Effect where
  | nothing
  | upserted (data : IncidentUpdate) (deviceId bootId : String)
  | responded (incidentId : String) (responseState : ResponseState) (occupantResponse : Option String)
      (hazardState : Option HazardState)
  | called (incidentId : String)
  | reported (attemptId : ℕ) (report : Report)

def Effect.apply (settings : Settings) (db : Database) (now : Time) : Effect → Database
  | .nothing => db
  | .upserted data deviceId bootId => (db.upsertIncident now data deviceId bootId).getD db
  | .responded incidentId responseState occupantResponse hazardState =>
    (db.updateIncidentResponse now incidentId responseState occupantResponse hazardState).getD db
  | .called incidentId => (placedCall settings db now incidentId).1
  | .reported attemptId report => (db.updateCallAttempt now attemptId report).getD db

section Guards
variable (settings : Settings) (app : App) (now : Time)

def confirmable (incident : IncidentRow) : Bool :=
  visible incident.hazardState && incident.responseState ≠ .cancelled

def cancellable (incident : IncidentRow) : Bool := !connected incident.responseState
def resettable (incident : IncidentRow) : Bool := readyForReset incident.responseState

def unanswered (incident : IncidentRow) : Bool :=
  incident.responseState = .awaitingResponse && visible incident.hazardState

def turn (id : ℕ) : Option ResponseTask := (app.timeoutManager.tasks.find id).filter fun task => !task.cancelled

def dials (id : ℕ) : Option String :=
  match turn app id with
  | none => none
  | some task =>
    if task.phase = .announcing && callable settings app.database now task.incidentId then some task.incidentId
    else none

def awaited (attemptId : ℕ) : Bool :=
  match app.calls.find attemptId with
  | none => false
  | some call => call.caller.all fun id => (turn app id).isSome

def effect (tick : Tick) : Effect :=
  match tick.input with
  | .confirm allowed incidentId _ =>
    if allowed && (app.database.getIncident incidentId).any confirmable then
      .responded incidentId .escalating (some "confirmed") none else .nothing
  | .cancel allowed incidentId reason _ =>
    if allowed && (app.database.getIncident incidentId).any cancellable then
      .responded incidentId .cancelled (some reason.text) none else .nothing
  | .reset allowed incidentId =>
    match app.database.getIncident incidentId with
    | none => .nothing
    | some stored =>
      if allowed && resettable stored then
        .responded incidentId stored.responseState stored.occupantResponse (some .resolved) else .nothing
  | .callDemoDispatch allowed incidentId =>
    if allowed && app.armed && callable settings app.database tick.now incidentId then .called incidentId else .nothing
  | .providerCallStatus secret body =>
    match authenticateProviderWebhook settings secret,app.database.findAttemptForIncident body.incidentId with
    | some true,some attempt => .reported attempt.id (webhookReport body)
    | _,_ => .nothing
  | .providerAnswered attemptId answer =>
    match awaited app attemptId,answer.report with
    | true,some report => .reported attemptId report
    | _,_ => .nothing
  | .packet hello (.incidentUpdate data) => if app.armed then .upserted data hello.deviceId hello.bootId else .nothing
  | .resume id =>
    match dials settings app tick.now id,turn app id with
    | some incidentId,_ => .called incidentId
    | none,some task =>
      if task.phase = .sleeping && (app.database.getIncident task.incidentId).any unanswered then
        .responded task.incidentId .escalating (some "no_response") none else .nothing
    | none,none => .nothing
  | _ => .nothing

end Guards

variable {settings : Settings} {app : App} {now : Time} {allowed : Bool} {incidentId : String}

theorem onIncident_cases (app : App) (allowed : Bool) (incidentId : String) (action : IncidentRow → Except HTTPException App) :
    (∃ stored, allowed = true ∧ app.database.getIncident incidentId = some stored ∧
      onIncident app allowed incidentId action = action stored) ∨
    ((∀ check, (allowed && (app.database.getIncident incidentId).any check) = false) ∧
      ∃ refusal, onIncident app allowed incidentId action = .error refusal) := by
  unfold onIncident
  cases allowed with
  | false => exact .inr ⟨fun _ => rfl,_,rfl⟩
  | true =>
    cases app.database.getIncident incidentId with
    | none => exact .inr ⟨fun _ => rfl,_,rfl⟩
    | some stored => exact .inl ⟨stored,rfl,rfl,rfl⟩

theorem confirm_cases (app : App) (now : Time) (allowed : Bool) (incidentId : String) (source : Source) :
    ((allowed && (app.database.getIncident incidentId).any confirmable) = true ∧
      confirm app now allowed incidentId source = .ok { app with
        timeoutManager := Escalation.cancel app.timeoutManager incidentId
        database := respond app now incidentId .escalating (some "confirmed") none "OCCUPANT_CONFIRMED" source.text }) ∨
    ((allowed && (app.database.getIncident incidentId).any confirmable) = false ∧
      ∃ refusal, confirm app now allowed incidentId source = .error refusal) := by
  unfold confirm
  obtain ⟨stored,rfl,found,runs⟩ | ⟨shut,refused⟩ := onIncident_cases app allowed incidentId _
  · rw [runs]
    simp only [found,Option.any_some,confirmable,Bool.true_and]
    cases visible stored.hazardState
    · exact .inr ⟨rfl,_,rfl⟩
    · by_cases cancelled : stored.responseState = .cancelled
      · exact .inr ⟨by simp [cancelled],_,if_pos cancelled⟩
      · exact .inl ⟨by simp [cancelled],if_neg cancelled⟩
  · exact .inr ⟨shut _,refused⟩

theorem cancel_cases (app : App) (now : Time) (allowed : Bool) (incidentId : String) (reason : CancelReason)
    (source : Source) :
    ((allowed && (app.database.getIncident incidentId).any cancellable) = true ∧
      cancel app now allowed incidentId reason source = .ok { app with
        timeoutManager := Escalation.cancel app.timeoutManager incidentId
        database := respond app now incidentId .cancelled (some reason.text) none "ESCALATION_CANCELLED" source.text }) ∨
    ((allowed && (app.database.getIncident incidentId).any cancellable) = false ∧
      ∃ refusal, cancel app now allowed incidentId reason source = .error refusal) := by
  unfold cancel
  obtain ⟨stored,rfl,found,runs⟩ | ⟨shut,refused⟩ := onIncident_cases app allowed incidentId _
  · rw [runs]
    simp only [found,Option.any_some,cancellable,Bool.true_and]
    cases connected stored.responseState
    · exact .inl ⟨rfl,rfl⟩
    · exact .inr ⟨rfl,_,rfl⟩
  · exact .inr ⟨shut _,refused⟩

theorem reset_cases (app : App) (now : Time) (allowed : Bool) (incidentId : String) :
    (∃ stored, app.database.getIncident incidentId = some stored ∧
      (allowed && resettable stored) = true ∧
      reset app now allowed incidentId = .ok { app with
        database := respond app now incidentId stored.responseState stored.occupantResponse (some .resolved)
          "MANUAL_RESET" Source.manual.text }) ∨
    ((allowed && (app.database.getIncident incidentId).any resettable) = false ∧
      ∃ refusal, reset app now allowed incidentId = .error refusal) := by
  unfold reset
  obtain ⟨stored,rfl,found,runs⟩ | ⟨shut,refused⟩ := onIncident_cases app allowed incidentId _
  · rw [runs]
    simp only [found,Option.any_some,resettable,Bool.true_and]
    cases ready : readyForReset stored.responseState
    · exact .inr ⟨rfl,_,rfl⟩
    · exact .inl ⟨stored,rfl,ready,rfl⟩
  · exact .inr ⟨shut _,refused⟩

theorem confirm_isOk (app : App) (now : Time) (allowed : Bool) (incidentId : String) (source : Source) :
    (confirm app now allowed incidentId source).isOk = (allowed && (app.database.getIncident incidentId).any confirmable) := by
  obtain ⟨guard,accepted⟩ | ⟨guard,refusal,refused⟩ := confirm_cases app now allowed incidentId source
  · rw [guard,accepted]
    rfl
  · rw [guard,refused]
    rfl

theorem cancel_isOk (app : App) (now : Time) (allowed : Bool) (incidentId : String) (reason : CancelReason) (source : Source) :
    (cancel app now allowed incidentId reason source).isOk = (allowed && (app.database.getIncident incidentId).any cancellable) := by
  obtain ⟨guard,accepted⟩ | ⟨guard,refusal,refused⟩ := cancel_cases app now allowed incidentId reason source
  · rw [guard,accepted]
    rfl
  · rw [guard,refused]
    rfl

theorem reset_isOk (app : App) (now : Time) (allowed : Bool) (incidentId : String) :
    (reset app now allowed incidentId).isOk = (allowed && (app.database.getIncident incidentId).any resettable) := by
  obtain ⟨stored,found,guard,accepted⟩ | ⟨guard,refusal,refused⟩ := reset_cases app now allowed incidentId
  · rw [accepted,found,Option.any_some,guard]
    rfl
  · rw [guard,refused]
    rfl

theorem callable_incident {db : Database} (gate : callable settings db now incidentId = true) :
    ∃ stored, db.getIncident incidentId = some stored ∧ eligible stored = true := by
  simp only [callable,policyOpen,Bool.and_eq_true] at gate
  exact (Option.any_eq_true ..).mp gate.2.1.1

theorem callDemoDispatch_cases (settings : Settings) (app : App) (now : Time) (allowed : Bool) (incidentId : String) :
    ((allowed && app.armed && callable settings app.database now incidentId) = true ∧
      callDemoDispatch settings app now allowed incidentId =
        .ok (dispatched app now incidentId (placedCall settings app.database now incidentId))) ∨
    ((allowed && app.armed && callable settings app.database now incidentId) = false ∧
      ∃ refusal, callDemoDispatch settings app now allowed incidentId = .error refusal) := by
  unfold callDemoDispatch
  cases allowed with
  | false => exact .inr ⟨rfl,_,rfl⟩
  | true =>
    cases app.armed with
    | false => exact .inr ⟨rfl,_,rfl⟩
    | true =>
      obtain ⟨gate,placed⟩ | ⟨gate,refusal,refused⟩ := requestDemoCall_cases settings app.database now incidentId
      · obtain ⟨stored,found,_⟩ := callable_incident gate
        exact .inl ⟨by simp [gate],by simp [found,placed]⟩
      · refine .inr ⟨by simp [gate],?_⟩
        cases app.database.getIncident incidentId with
        | none => exact ⟨_,rfl⟩
        | some stored => exact ⟨⟨refusal.statusCode,refusal.code⟩,by simp [refused]⟩

def rows (db : Database) : Table IncidentRow.incidentId × Table CallAttempt.id := (db.incidents,db.callAttempts)

theorem rows_addEvent (db : Database) (now : Time) (incidentId eventType source : String) (monotonicNs : Option ℕ)
    (occurredAt : Option String) : rows ((db.addEvent now incidentId eventType source monotonicNs occurredAt).getD db) = rows db := by
  unfold addEvent
  split <;> rfl

theorem rows_respond {responseState : ResponseState} {occupantResponse : Option String}
    {hazardState : Option HazardState} {eventType source : String} :
    rows (respond app now incidentId responseState occupantResponse hazardState eventType source) =
      rows ((app.database.updateIncidentResponse now incidentId responseState occupantResponse hazardState).getD
        app.database) := rows_addEvent _ _ _ _ _ _ _

theorem rows_dispatched {placed : Database × ℕ × Progress} :
    rows (dispatched app now incidentId placed).database = rows placed.1 := by
  unfold dispatched
  cases placed.2.2 with
  | accepted => exact rows_addEvent _ _ _ _ _ _ _
  | raised => rfl
  | posting => rfl

theorem rows_dialled {task : ResponseTask} {placed : Database × ℕ × Progress} :
    rows (dialled app task placed).database = rows placed.1 := by
  unfold dialled
  cases placed.2.2 <;> rfl

theorem rows_wake {task : ResponseTask} : rows (wake app now task).database =
    if (app.database.getIncident task.incidentId).any unanswered then
      rows ((app.database.updateIncidentResponse now task.incidentId .escalating (some "no_response") none).getD
        app.database)
    else rows app.database := by
  unfold wake
  cases app.database.getIncident task.incidentId with
  | none => rfl
  | some incident =>
    simp only [Option.any_some,unanswered]
    by_cases awaiting : incident.responseState = .awaitingResponse
    · by_cases seen : visible incident.hazardState = true
      · simp only [awaiting,seen,ne_eq,not_true_eq_false,if_false,decide_true,Bool.not_true,Bool.false_eq_true,
          Bool.and_self,if_true]
        exact rows_respond
      · simp [awaiting,seen]; rfl
    · simp [awaiting]; rfl

theorem rows_dial {task : ResponseTask} : rows (dial settings app now task).database =
    if callable settings app.database now task.incidentId then
      rows (placedCall settings app.database now task.incidentId).1
    else rows app.database := by
  unfold dial
  obtain ⟨gate,placed⟩ | ⟨gate,refusal,refused⟩ := requestDemoCall_cases settings app.database now task.incidentId
  · have enabled : settings.demoCallsEnabled = true := by
      simp only [callable,Bool.and_eq_true] at gate
      exact gate.1.1.1
    simp only [enabled,gate,placed,if_true,Bool.not_true,Bool.false_eq_true,if_false]
    exact rows_dialled
  · simp only [gate,refused,Bool.false_eq_true,if_false]
    split <;> rfl

theorem rows_resume (id : ℕ) : rows (resume settings app now id).database =
    rows ((effect settings app ⟨now,.resume id⟩).apply settings app.database now) := by
  simp only [resume,effect,dials,turn]
  cases found : app.timeoutManager.tasks.find id with
  | none => rfl
  | some task =>
    cases cancelled : task.cancelled with
    | true =>
      simp only [Option.filter_some,cancelled]
      cases task.phase <;> rfl
    | false =>
      simp only [Option.filter_some,cancelled,Bool.not_false,if_true]
      cases phase : task.phase with
      | sleeping =>
        simp only [reduceCtorEq,decide_false,Bool.false_and,Bool.false_eq_true,if_false,phase,decide_true,Bool.true_and]
        rw [rows_wake]
        cases (app.database.getIncident task.incidentId).any unanswered <;> rfl
      | announcing =>
        simp only [decide_true,Bool.true_and]
        rw [rows_dial]
        cases callable settings app.database now task.incidentId
        · simp [phase,Effect.apply]
        · rfl
      | created => simp [phase,Effect.apply]; rfl
      | calling attemptId => simp [phase,Effect.apply]
      | reporting => simp [phase,Effect.apply]; rfl
      | done => simp [phase,Effect.apply]

theorem rows_providerAnswered (attemptId : ℕ) (answer : ProviderAnswer) :
    rows (providerAnswered app now attemptId answer).database =
      rows ((effect settings app ⟨now,.providerAnswered attemptId answer⟩).apply settings app.database now) := by
  simp only [providerAnswered,effect,awaited,turn]
  cases app.calls.find attemptId with
  | none => rfl
  | some call =>
    have stored : rows (finishDemoCall app.database now attemptId answer) =
        rows ((match true,answer.report with
          | true,some report => Effect.reported attemptId report
          | _,_ => Effect.nothing).apply settings app.database now) := by
      unfold finishDemoCall
      cases answer.report <;> rfl
    cases waits : call.caller with
    | none =>
      simp only [waits,Option.all_none]
      cases answer.outcome with
      | result => exact (rows_addEvent _ _ _ _ _ _ _).trans stored
      | refused error => exact stored
      | raised => exact stored
    | some id =>
      simp only [waits,Option.all_some]
      cases app.timeoutManager.tasks.find id with
      | none => rfl
      | some task =>
        cases cancelled : task.cancelled with
        | true => simp [cancelled]; rfl
        | false =>
          simp only [Option.filter_some,cancelled,Bool.not_false,if_true,Option.isSome_some,Bool.false_eq_true,if_false]
          cases answer.outcome with
          | result => exact stored
          | refused error => exact stored
          | raised => exact stored

theorem dispatch_invalidUpdate (hello : Hello) (error : String) : orUnchanged app (dispatch app now hello (.invalidUpdate error)) = app := by
  simp only [dispatch]
  split <;> rfl

theorem rows_packet (hello : Hello) (packet : DevicePacket) :
    rows (orUnchanged app (dispatch app now hello packet)).database =
      rows ((effect settings app ⟨now,.packet hello packet⟩).apply settings app.database now) := by
  cases packet with
  | incidentUpdate data =>
    simp only [dispatch,effect]
    cases app.armed with
    | false => rfl
    | true =>
      simp only [Bool.not_true,Bool.false_eq_true,if_false,if_true,Effect.apply]
      cases app.database.upsertIncident now data hello.deviceId hello.bootId <;> rfl
  | timelineEvent data =>
    simp only [dispatch,effect]
    cases app.database.getIncident data.incidentId with
    | none => rfl
    | some stored =>
      have same := rows_addEvent app.database now data.incidentId (data.eventType.getD "DEVICE_EVENT") "qnx"
        (some data.monotonicNs) data.wallTimeUtc
      cases added : app.database.addEvent now data.incidentId (data.eventType.getD "DEVICE_EVENT") "qnx"
        (some data.monotonicNs) data.wallTimeUtc with
      | none => rfl
      | some database =>
        rw [added] at same
        exact same
  | frame | detections | healthUpdate | configAck | ping | evidenceManifest | logEvent => rfl
  | invalidUpdate error => rw [dispatch_invalidUpdate]; rfl
  | malformed error => rfl
  | unexpected packetType => rfl

theorem step_rows (settings : Settings) (app : App) (tick : Tick) : rows (step settings app tick).database =
    rows ((effect settings app tick).apply settings app.database tick.now) := by
  obtain ⟨now,input⟩ := tick
  cases input with
  | putArming allowed armed =>
    unfold step putArming
    cases allowed <;> rfl
  | confirm allowed incidentId source =>
    obtain ⟨gate,accepted⟩ | ⟨gate,refusal,refused⟩ := confirm_cases app now allowed incidentId source
    · simp only [step,accepted,effect,gate,if_true]; exact rows_respond
    · simp only [step,refused,effect,gate]; rfl
  | cancel allowed incidentId reason source =>
    obtain ⟨gate,accepted⟩ | ⟨gate,refusal,refused⟩ := cancel_cases app now allowed incidentId reason source
    · simp only [step,accepted,effect,gate,if_true]; exact rows_respond
    · simp only [step,refused,effect,gate]; rfl
  | reset allowed incidentId =>
    obtain ⟨stored,found,gate,accepted⟩ | ⟨gate,refusal,refused⟩ := reset_cases app now allowed incidentId
    · simp only [step,accepted,effect,found,gate,if_true]; exact rows_respond
    · simp only [step,refused,effect]
      cases found : app.database.getIncident incidentId with
      | none => rfl
      | some stored =>
        rw [found,Option.any_some] at gate
        simp only [gate]; rfl
  | callDemoDispatch allowed incidentId =>
    obtain ⟨gate,accepted⟩ | ⟨gate,refusal,refused⟩ := callDemoDispatch_cases settings app now allowed incidentId
    · simp only [step,accepted,effect,gate,if_true]; exact rows_dispatched
    · simp only [step,refused,effect,gate]; rfl
  | providerCallStatus secret body =>
    simp only [step,providerCallStatus,effect]
    cases authenticateProviderWebhook settings secret with
    | none => rfl
    | some authentic =>
      cases authentic with
      | false => rfl
      | true =>
        cases app.database.findAttemptForIncident body.incidentId with
        | none => rfl
        | some attempt => rfl
  | providerAnswered attemptId answer => exact rows_providerAnswered attemptId answer
  | packet hello packet => exact rows_packet hello packet
  | announced incidentId =>
    simp only [step,announced]
    split <;> rfl
  | resume id => exact rows_resume id
  | restart => rfl

-- What each kind of effect has behind it: the input, and the guard that let it through.
inductive Caused (settings : Settings) (app : App) : Tick → Effect → Prop where
  | nothing {tick : Tick} : Caused settings app tick .nothing
  | confirm {now : Time} {incidentId : String} {source : Source} {stored : IncidentRow}
      (found : app.database.getIncident incidentId = some stored) (guard : confirmable stored = true) :
      Caused settings app ⟨now,.confirm true incidentId source⟩
        (.responded incidentId .escalating (some "confirmed") none)
  | cancel {now : Time} {incidentId : String} {reason : CancelReason} {source : Source} {stored : IncidentRow}
      (found : app.database.getIncident incidentId = some stored) (guard : cancellable stored = true) :
      Caused settings app ⟨now,.cancel true incidentId reason source⟩
        (.responded incidentId .cancelled (some reason.text) none)
  | reset {now : Time} {incidentId : String} {stored : IncidentRow}
      (found : app.database.getIncident incidentId = some stored) (guard : resettable stored = true) :
      Caused settings app ⟨now,.reset true incidentId⟩
        (.responded incidentId stored.responseState stored.occupantResponse (some .resolved))
  | wake {now : Time} {id : ℕ} {task : ResponseTask} {stored : IncidentRow} (runs : turn app id = some task)
      (found : app.database.getIncident task.incidentId = some stored) (guard : unanswered stored = true) :
      Caused settings app ⟨now,.resume id⟩ (.responded task.incidentId .escalating (some "no_response") none)
  | dispatch {now : Time} {incidentId : String} (armed : app.armed = true)
      (gate : callable settings app.database now incidentId = true) :
      Caused settings app ⟨now,.callDemoDispatch true incidentId⟩ (.called incidentId)
  | dial {now : Time} {id : ℕ} {incidentId : String} (dialling : dials settings app now id = some incidentId)
      (gate : callable settings app.database now incidentId = true) :
      Caused settings app ⟨now,.resume id⟩ (.called incidentId)
  | webhook {now : Time} {secret : Option String} {body : ProviderStatus} {attempt : CallAttempt}
      (authentic : authenticateProviderWebhook settings secret = some true)
      (found : app.database.findAttemptForIncident body.incidentId = some attempt) :
      Caused settings app ⟨now,.providerCallStatus secret body⟩ (.reported attempt.id (webhookReport body))
  | answer {now : Time} {attemptId : ℕ} {answer : ProviderAnswer} {report : Report}
      (waits : awaited app attemptId = true) (stored : answer.report = some report) :
      Caused settings app ⟨now,.providerAnswered attemptId answer⟩ (.reported attemptId report)
  | update {now : Time} {hello : Hello} {data : IncidentUpdate} (armed : app.armed = true) :
      Caused settings app ⟨now,.packet hello (.incidentUpdate data)⟩ (.upserted data hello.deviceId hello.bootId)

theorem called_callable {tick : Tick} (caused : Caused settings app tick (.called incidentId)) :
    callable settings app.database tick.now incidentId = true := by
  cases caused <;> assumption

theorem dials_callable {id : ℕ} (dialling : dials settings app now id = some incidentId) :
    callable settings app.database now incidentId = true := by
  unfold dials at dialling
  split at dialling
  · cases dialling
  · split at dialling
    · rename_i gate
      cases dialling
      simp only [Bool.and_eq_true] at gate
      exact gate.2
    · cases dialling

theorem effect_caused (settings : Settings) (app : App) (tick : Tick) :
    Caused settings app tick (effect settings app tick) := by
  obtain ⟨now,input⟩ := tick
  cases input with
  | confirm allowed incidentId source =>
    simp only [effect]
    split
    · rename_i gate
      obtain ⟨rfl,accepted⟩ : allowed = true ∧ _ := by simpa only [Bool.and_eq_true] using gate
      obtain ⟨stored,found,guard⟩ := (Option.any_eq_true ..).mp accepted
      exact .confirm found guard
    · exact .nothing
  | cancel allowed incidentId reason source =>
    simp only [effect]
    split
    · rename_i gate
      obtain ⟨rfl,accepted⟩ : allowed = true ∧ _ := by simpa only [Bool.and_eq_true] using gate
      obtain ⟨stored,found,guard⟩ := (Option.any_eq_true ..).mp accepted
      exact .cancel found guard
    · exact .nothing
  | reset allowed incidentId =>
    simp only [effect]
    split
    · exact .nothing
    · rename_i stored found
      split
      · rename_i gate
        obtain ⟨rfl,guard⟩ : allowed = true ∧ _ := by simpa only [Bool.and_eq_true] using gate
        exact .reset found guard
      · exact .nothing
  | callDemoDispatch allowed incidentId =>
    simp only [effect]
    split
    · rename_i gate
      obtain ⟨⟨rfl,armed⟩,guard⟩ : (allowed = true ∧ app.armed = true) ∧ _ := by
        simpa only [Bool.and_eq_true] using gate
      exact .dispatch armed guard
    · exact .nothing
  | providerCallStatus secret body =>
    simp only [effect]
    split
    · rename_i authentic found
      exact .webhook authentic found
    · exact .nothing
  | providerAnswered attemptId answer =>
    simp only [effect]
    split
    · rename_i waits stored
      exact .answer waits stored
    · exact .nothing
  | packet hello packet =>
    cases packet with
    | incidentUpdate data =>
      simp only [effect]
      split
      · rename_i armed
        exact .update armed
      · exact .nothing
    | _ => exact .nothing
  | resume id =>
    simp only [effect]
    split
    · rename_i dialling
      exact .dial dialling (dials_callable dialling)
    · rename_i runs
      split
      · rename_i gate
        simp only [Bool.and_eq_true] at gate
        obtain ⟨stored,found,guard⟩ := (Option.any_eq_true ..).mp gate.2
        exact .wake runs found guard
      · exact .nothing
    · exact .nothing
  | putArming allowed armed => exact .nothing
  | announced incidentId => exact .nothing
  | restart => exact .nothing

theorem report_statuses {answer : ProviderAnswer} {report : Report} (stored : answer.report = some report) :
    report.status = .initiated ∨ report.status = .unknown ∨ report.status = .failed := by
  cases answer with
  | timeout => cases stored; simp
  | connectionError => cases stored; simp [failed]
  | raised => cases stored
  | response statusCode body =>
    simp only [ProviderAnswer.report] at stored
    split at stored
    · cases stored; simp [failed]
    · cases body with
      | none => cases stored
      | some ids => cases stored; simp [initiated]

theorem report_status {answer : ProviderAnswer} {report : Report} (stored : answer.report = some report) :
    report.status ≠ .requested := by
  rcases report_statuses stored with status | status | status <;> simp [status]

theorem webhook_status (body : ProviderStatus) : (webhookReport body).status ≠ .requested := by
  simp only [webhookReport]
  cases body.status <;> simp

end Ignis.Backend
