import Ignis.ResponseTasks
import Ignis.RowHistory
import Ignis.Timeouts

-- The timelines of the incidents as a log: one row for every action that was accepted, in the order in
-- which they were, and nothing else.
namespace Ignis.Backend
open Tables Database Communications Escalation Runs

variable {settings : Settings} {app : App} {tick : Tick} {db : Database} {now : Time} {incidentId target : String}
  {task : ResponseTask}

-- An event before it has its number.
abbrev Entry := ℕ → IncidentEvent

def recorded (settings : Settings) (app : App) (tick : Tick) : Option Entry :=
  let event (incidentId eventType source : String) : Option Entry :=
    some (recordedEvent tick.now incidentId eventType source none none)
  match tick.input with
  | .confirm allowed incidentId source =>
    if (confirm app tick.now allowed incidentId source).isOk then event incidentId "OCCUPANT_CONFIRMED" source.text else none
  | .cancel allowed incidentId reason source =>
    if (cancel app tick.now allowed incidentId reason source).isOk then event incidentId "ESCALATION_CANCELLED" source.text
    else none
  | .reset allowed incidentId =>
    if (reset app tick.now allowed incidentId).isOk then event incidentId "MANUAL_RESET" "manual" else none
  | .callDemoDispatch allowed incidentId =>
    if !(allowed && app.armed) then none
    else match requestDemoCall settings app.database tick.now incidentId with
    | .ok (_,_,.accepted) => event incidentId "DEMO_DISPATCH_REQUESTED" "backend"
    | _ => none
  | .providerAnswered attemptId answer =>
    match app.calls.find attemptId,answer.outcome with
    | some ⟨_,incidentId,none⟩,.result => event incidentId "DEMO_DISPATCH_REQUESTED" "backend"
    | _,_ => none
  | .packet hello (.timelineEvent data) =>
    if (dispatch app tick.now hello (.timelineEvent data)).isOk then
      some (recordedEvent tick.now data.incidentId (data.eventType.getD "DEVICE_EVENT") "qnx" (some data.monotonicNs)
        data.wallTimeUtc)
    else none
  | .resume id =>
    match turn app id with
    | some task =>
      if task.phase = .sleeping && (app.database.getIncident task.incidentId).any unanswered then
        event task.incidentId "NO_OCCUPANT_RESPONSE" "backend_timeout"
      else none
    | none => none
  | _ => none

def numbered (db : Database) (entry : Option Entry) : List IncidentEvent :=
  (entry.map fun event => event db.incidentEvents.next).toList

-- The log of a whole run. A process that is killed before the event of its step does not log it.
def logged (settings : Settings) : App → List Moment → List IncidentEvent
  | _,[] => []
  | app,.whole tick :: rest =>
    numbered app.database (recorded settings app tick) ++ logged settings (step settings app tick) rest
  | app,.killed tick last :: rest => logged settings (advance settings app (.killed tick last)) rest

section Events
variable {eventType source : String} {r : ResponseState} {occupantResponse : Option String} {hazardState : Option HazardState}

def events (db : Database) : List IncidentEvent := db.incidentEvents.rows

theorem events_updated : ((db.updateIncidentResponse now target r occupantResponse hazardState).getD db).incidentEvents =
    db.incidentEvents := by
  unfold updateIncidentResponse
  split <;> rfl

theorem events_upserted {data : IncidentUpdate} {deviceId bootId : String} :
    events ((db.upsertIncident now data deviceId bootId).getD db) = events db := by
  unfold upsertIncident
  split <;> rfl

theorem events_reported {attemptId : ℕ} {report : Report} :
    ((db.updateCallAttempt now attemptId report).getD db).incidentEvents = db.incidentEvents := by
  unfold updateCallAttempt
  split <;> rfl

theorem events_placed : (placedCall settings db now target).1.incidentEvents = db.incidentEvents := by
  unfold placedCall
  split
  · rfl
  · cases settings.callProvider with
    | mock => exact events_reported
    | elevenlabs => rfl

theorem events_answered {attemptId : ℕ} {answer : ProviderAnswer} :
    (finishDemoCall db now attemptId answer).incidentEvents = db.incidentEvents := by
  unfold finishDemoCall
  cases answer.report with
  | none => rfl
  | some report => exact events_reported

-- The foreign key holds, so an event of the backend itself is stored.
theorem events_added (stored : (db.getIncident target).isSome = true) :
    events ((db.addEvent now target eventType source none none).getD db) =
      events db ++ [recordedEvent now target eventType source none none db.incidentEvents.next] := by
  simp only [addEvent,stored,Option.all_none,Bool.and_self,if_true,Option.getD_some]
  rfl

theorem events_respond (stored : (app.database.getIncident target).isSome = true) :
    events (respond app now target r occupantResponse hazardState eventType source) =
      events app.database ++ [recordedEvent now target eventType source none none app.database.incidentEvents.next] := by
  have still : (((app.database.updateIncidentResponse now target r occupantResponse hazardState).getD
      app.database).getIncident target).isSome = true := by
    unfold updateIncidentResponse
    rw [if_pos stored,Option.getD_some,getIncident,Table.find_modify_same,Option.isSome_map]
    exact stored
  unfold respond
  rw [events_added still,events,events_updated]
  rfl

end Events

theorem events_dial : events (dial settings app now task).database = events app.database := by
  unfold dial
  split
  · rfl
  · obtain ⟨_,accepted⟩ | ⟨_,refusal,refused⟩ := requestDemoCall_cases settings app.database now task.incidentId
    · simp only [accepted,dialled]
      cases (placedCall settings app.database now task.incidentId).2.2 <;> exact congrArg Table.rows events_placed
    · simp only [refused]
      rfl

def CallsStored (app : App) : Prop := ∀ call ∈ app.calls.rows, (app.database.getIncident call.incidentId).isSome = true

theorem callable_stored (gate : callable settings db now incidentId = true) : (db.getIncident incidentId).isSome = true := by
  simp only [callable,policyOpen,Bool.and_eq_true] at gate
  obtain ⟨row,found,_⟩ := (Option.any_eq_true ..).mp gate.2.1.1
  exact Option.isSome_iff_exists.mpr ⟨row,found⟩

theorem callsStored_suspend (stored : CallsStored app) (effects : effect settings app tick = .called incidentId)
    {attemptId : ℕ} {caller : Option ℕ} : CallsStored (suspendCall app attemptId incidentId caller) := by
  have caused := effect_caused settings app tick
  rw [effects] at caused
  refine (Table.forall_upsert stored).mpr ?_
  cases found : app.calls.find attemptId with
  | none => exact callable_stored (called_callable caused)
  | some call => exact stored call (Table.find_mem found)

theorem callsStored_step (stored : CallsStored app) : CallsStored (step settings app tick) := by
  have moved := step_moved settings app tick
  unfold Moves at moved
  have kept : ∀ id, (app.database.getIncident id).isSome = true →
      ((step settings app tick).database.getIncident id).isSome = true := by
    intro id there
    obtain ⟨row,found⟩ := Option.isSome_iff_exists.mp there
    exact incident_kept found
  suffices before : ∀ call ∈ (step settings app tick).calls.rows, (app.database.getIncident call.incidentId).isSome = true from
    fun call member => kept _ (before call member)
  have erased : ∀ attemptId, ∀ call ∈ (app.calls.erase attemptId).rows, (app.database.getIncident call.incidentId).isSome = true :=
    fun attemptId call member => stored call (Table.mem_erase.mp member).1
  generalize (step settings app tick).timeoutManager = manager at moved
  generalize (step settings app tick).calls = calls at moved ⊢
  cases moved with
  | same silent => exact stored
  | suspended silent placed => exact callsStored_suspend stored placed
  | answered accepted => exact stored
  | observed silent => exact stored
  | moved silent found ready goes => exact stored
  | dialled silent found ready placed => exact callsStored_suspend stored placed
  | dropped silent found ready cancelled => exact stored
  | finished silent found ready => exact stored
  | thrown silent found calling => exact erased _
  | replied silent found caller => exact erased _
  | resumed silent found caller waiting => exact erased _
  | failed silent found caller waiting => exact erased _
  | restarted silent ends => exact fun call member => nomatch member

theorem events_recordDispatch (stored : (app.database.getIncident target).isSome = true) :
    events (recordDispatch app now target).database = events app.database ++
      [recordedEvent now target "DEMO_DISPATCH_REQUESTED" "backend" none none app.database.incidentEvents.next] :=
  events_added stored

theorem events_wake : events (wake app now task).database = events app.database ++ numbered app.database
    (if (app.database.getIncident task.incidentId).any unanswered then
      some (recordedEvent now task.incidentId "NO_OCCUPANT_RESPONSE" "backend_timeout" none none) else none) := by
  unfold wake
  cases found : app.database.getIncident task.incidentId with
  | none => exact (List.append_nil _).symm
  | some stored =>
    simp only [Option.any_some,unanswered]
    by_cases awaits : stored.responseState = .awaitingResponse
    · by_cases seen : visible stored.hazardState = true
      · simp only [awaits,seen,ne_eq,not_true_eq_false,if_false,Bool.not_true,Bool.false_eq_true,decide_true,
          Bool.and_self,if_true]
        exact events_respond (by rw [found]; rfl)
      · simp only [awaits,seen,ne_eq,not_true_eq_false,if_false,Bool.not_false,if_true,decide_true,Bool.and_false,
          Bool.false_eq_true]
        exact (List.append_nil _).symm
    · simp only [awaits,ne_eq,not_false_eq_true,if_true,decide_false,Bool.false_and,Bool.false_eq_true,if_false]
      exact (List.append_nil _).symm

theorem events_resume (id : ℕ) : events (resume settings app now id).database =
    events app.database ++ numbered app.database (recorded settings app ⟨now,.resume id⟩) := by
  have silent : ∀ db, events db = events db ++ numbered db none := fun db => (List.append_nil _).symm
  simp only [recorded,turn]
  unfold resume
  cases app.timeoutManager.tasks.find id with
  | none => exact silent _
  | some task =>
    dsimp only
    cases phase : task.phase <;> cases cancelled : task.cancelled
    case sleeping.false =>
      simp only [Option.filter_some,cancelled,Bool.not_false,if_true,phase,decide_true,Bool.true_and]
      exact events_wake
    case announcing.false =>
      simp only [Option.filter_some,cancelled,Bool.not_false,if_true,phase,reduceCtorEq,decide_false,Bool.false_and,
        Bool.false_eq_true,if_false]
      exact events_dial.trans (silent _)
    all_goals
      simp only [Option.filter_some,cancelled,Bool.not_false,Bool.not_true,if_true,phase,reduceCtorEq,decide_false,
        Bool.false_and,Bool.false_eq_true,if_false]
      exact silent _

theorem events_dispatched (stored : (app.database.getIncident target).isSome = true) :
    events (dispatched app now target (placedCall settings app.database now target)).database =
      events app.database ++ numbered app.database (match (placedCall settings app.database now target).2.2 with
        | .accepted => some (recordedEvent now target "DEMO_DISPATCH_REQUESTED" "backend" none none)
        | _ => none) := by
  have same : events (placedCall settings app.database now target).1 = events app.database := congrArg Table.rows events_placed
  have still : ((placedCall settings app.database now target).1.getIncident target).isSome = true := by
    obtain ⟨row,found⟩ := Option.isSome_iff_exists.mp stored
    obtain ⟨next,there,_⟩ := (remembers_called settings app.database now target).incidents target row found
    exact Option.isSome_iff_exists.mpr ⟨next,there⟩
  unfold dispatched
  cases (placedCall settings app.database now target).2.2 with
  | accepted =>
    refine (events_recordDispatch still).trans ?_
    dsimp only
    rw [same,events_placed]
    rfl
  | raised => exact same.trans (List.append_nil _).symm
  | posting => exact same.trans (List.append_nil _).symm

theorem events_providerAnswered (stored : CallsStored app) (attemptId : ℕ) (answer : ProviderAnswer) :
    events (providerAnswered app now attemptId answer).database =
      events app.database ++ numbered app.database (recorded settings app ⟨now,.providerAnswered attemptId answer⟩) := by
  have silent : ∀ db, events db = events db ++ numbered db none := fun db => (List.append_nil _).symm
  have same : events (finishDemoCall app.database now attemptId answer) = events app.database :=
    congrArg Table.rows events_answered
  simp only [recorded]
  unfold providerAnswered
  cases found : app.calls.find attemptId with
  | none => exact silent _
  | some call =>
    obtain ⟨attempt,target,caller⟩ := call
    dsimp only
    cases caller with
    | none =>
      cases answer.outcome with
      | result =>
        have there := stored _ (Table.find_mem found)
        have still : ((finishDemoCall app.database now attemptId answer).getIncident target).isSome = true := by
          obtain ⟨row,present⟩ := Option.isSome_iff_exists.mp there
          unfold finishDemoCall
          cases reports : answer.report with
          | none => exact there
          | some report =>
            obtain ⟨next,kept,_⟩ := (remembers_reported app.database (report_status reports)).incidents target row present
            exact Option.isSome_iff_exists.mpr ⟨next,kept⟩
        refine (events_recordDispatch still).trans ?_
        dsimp only
        rw [same,events_answered]
        rfl
      | refused error => exact same.trans (silent _)
      | raised => exact same.trans (silent _)
    | some id =>
      dsimp only
      cases app.timeoutManager.tasks.find id with
      | none => exact silent _
      | some task =>
        dsimp only
        split
        · exact silent _
        · cases answer.outcome <;> exact same.trans (silent _)

theorem events_callDemoDispatch (allowed : Bool) (target : String) :
    events (step settings app ⟨now,.callDemoDispatch allowed target⟩).database =
      events app.database ++ numbered app.database (recorded settings app ⟨now,.callDemoDispatch allowed target⟩) := by
  have silent : ∀ db, events db = events db ++ numbered db none := fun db => (List.append_nil _).symm
  simp only [step,recorded,callDemoDispatch]
  cases allowed with
  | false => exact silent _
  | true =>
    cases armed : app.armed with
    | false => exact silent _
    | true =>
      obtain ⟨gate,accepted⟩ | ⟨_,refusal,refused⟩ := requestDemoCall_cases settings app.database now target
      · have stored := callable_stored gate
        obtain ⟨row,found⟩ := Option.isSome_iff_exists.mp stored
        simp only [accepted,found,Bool.not_true,Bool.false_eq_true,if_false,Bool.and_self,orUnchanged]
        refine (events_dispatched stored).trans ?_
        obtain ⟨later,attemptId,progress⟩ := placedCall settings app.database now target
        cases progress <;> rfl
      · simp only [refused,Bool.not_true,Bool.false_eq_true,if_false,Bool.and_self]
        cases app.database.getIncident target <;> exact silent _

theorem timelineEvent_cases (app : App) (now : Time) (hello : Hello) (data : TimelineEvent) :
    (∃ error, dispatch app now hello (.timelineEvent data) = .error error) ∨
    dispatch app now hello (.timelineEvent data) = .ok { app with database := { app.database with
      incidentEvents := app.database.incidentEvents.push (recordedEvent now data.incidentId
        (data.eventType.getD "DEVICE_EVENT") "qnx" (some data.monotonicNs) data.wallTimeUtc) recordedEvent_id } } := by
  simp only [dispatch]
  cases found : app.database.getIncident data.incidentId with
  | none => exact .inl ⟨_,rfl⟩
  | some stored =>
    simp only [addEvent,found,Option.isSome_some,Bool.true_and]
    cases (some data.monotonicNs).all fitsInteger with
    | false => exact .inl ⟨_,rfl⟩
    | true => exact .inr rfl

theorem events_packet (hello : Hello) (packet : DevicePacket) :
    events (step settings app ⟨now,.packet hello packet⟩).database =
      events app.database ++ numbered app.database (recorded settings app ⟨now,.packet hello packet⟩) := by
  have silent : ∀ db, events db = events db ++ numbered db none := fun db => (List.append_nil _).symm
  cases packet with
  | incidentUpdate data =>
    simp only [step,recorded,dispatch,upsertIncident]
    cases app.armed with
    | false => exact silent _
    | true => cases fitsInteger data.firstDetectionMonotonicNs && fitsInteger data.updatedMonotonicNs <;> exact silent _
  | timelineEvent data =>
    simp only [step,recorded]
    obtain ⟨error,refused⟩ | accepted := timelineEvent_cases app now hello data
    · rw [refused]
      exact silent _
    · rw [accepted]
      rfl
  | invalidUpdate error =>
    simp only [step,recorded,dispatch_invalidUpdate]
    exact silent _
  | _ => exact silent _

theorem events_step (stored : CallsStored app) : events (step settings app tick).database =
    events app.database ++ numbered app.database (recorded settings app tick) := by
  have silent : ∀ db, events db = events db ++ numbered db none := fun db => (List.append_nil _).symm
  obtain ⟨now,input⟩ := tick
  cases input with
  | putArming allowed armed => cases allowed <;> exact silent _
  | confirm allowed target source =>
    obtain ⟨gate,accepted⟩ | ⟨_,refusal,refused⟩ := confirm_cases app now allowed target source
    · obtain ⟨row,found,_⟩ := (Option.any_eq_true ..).mp (Bool.and_eq_true_iff.mp gate).2
      simp only [step,recorded,accepted,orUnchanged,Except.isOk,Except.toBool,if_true]
      exact events_respond (Option.isSome_iff_exists.mpr ⟨row,found⟩)
    · simp only [step,recorded,refused,orUnchanged,Except.isOk,Except.toBool,Bool.false_eq_true,if_false]
      exact silent _
  | cancel allowed target reason source =>
    obtain ⟨gate,accepted⟩ | ⟨_,refusal,refused⟩ := cancel_cases app now allowed target reason source
    · obtain ⟨row,found,_⟩ := (Option.any_eq_true ..).mp (Bool.and_eq_true_iff.mp gate).2
      simp only [step,recorded,accepted,orUnchanged,Except.isOk,Except.toBool,if_true]
      exact events_respond (Option.isSome_iff_exists.mpr ⟨row,found⟩)
    · simp only [step,recorded,refused,orUnchanged,Except.isOk,Except.toBool,Bool.false_eq_true,if_false]
      exact silent _
  | reset allowed target =>
    obtain ⟨row,found,_,accepted⟩ | ⟨_,refusal,refused⟩ := reset_cases app now allowed target
    · simp only [step,recorded,accepted,orUnchanged,Except.isOk,Except.toBool,if_true]
      exact events_respond (Option.isSome_iff_exists.mpr ⟨row,found⟩)
    · simp only [step,recorded,refused,orUnchanged,Except.isOk,Except.toBool,Bool.false_eq_true,if_false]
      exact silent _
  | callDemoDispatch allowed target => exact events_callDemoDispatch allowed target
  | providerCallStatus secret body =>
    simp only [step,recorded,providerCallStatus]
    cases authenticateProviderWebhook settings secret with
    | none => exact silent _
    | some authentic =>
      cases authentic with
      | false => exact silent _
      | true =>
        cases app.database.findAttemptForIncident body.incidentId with
        | none => exact silent _
        | some attempt => exact (congrArg Table.rows events_reported).trans (silent _)
  | providerAnswered attemptId answer => exact events_providerAnswered stored attemptId answer
  | packet hello packet => exact events_packet hello packet
  | announced target =>
    simp only [step,announced]
    split <;> exact silent _
  | resume id => exact events_resume id
  | restart => exact silent _

theorem events_apply (effect : Effect) : events (effect.apply settings db now) = events db := by
  cases effect with
  | nothing => rfl
  | upserted data deviceId bootId => exact events_upserted
  | responded target r occupantResponse hazardState => exact congrArg Table.rows events_updated
  | called target => exact congrArg Table.rows events_placed
  | reported attemptId report => exact congrArg Table.rows events_reported

theorem events_left (last : ℕ) : events (left settings app tick last) = events app.database :=
  left_holds (P := fun db => events db = events app.database) rfl (fun _ _ => rfl) (events_apply _) last

theorem callsStored_launched (database : Database) : CallsStored (launched database) := fun _ member => nomatch member

theorem callsStored_advance (stored : CallsStored app) (moment : Moment) : CallsStored (advance settings app moment) := by
  cases moment with
  | whole tick => exact callsStored_step stored
  | killed tick last => exact callsStored_launched _

-- With restarts and with kills between the transactions of a step.
theorem timelines_exact (settings : Settings) (database : Database) (moments : List Moment) :
    events (run (advance settings) (launched database) moments).database =
      events database ++ logged settings (launched database) moments := by
  suffices all : ∀ moments app, CallsStored app →
      events (run (advance settings) app moments).database = events app.database ++ logged settings app moments from
    all moments (launched database) (callsStored_launched database)
  intro moments
  induction moments with
  | nil => exact fun app _ => (List.append_nil _).symm
  | cons moment rest ih =>
    intro app stored
    rw [run_cons,ih _ (callsStored_advance stored moment)]
    cases moment with
    | whole tick =>
      show events (step settings app tick).database ++ _ = _
      rw [events_step stored,List.append_assoc]
      rfl
    | killed tick last =>
      show events (left settings app tick last) ++ _ = _
      rw [events_left]
      rfl

def Tick.reports (tick : Tick) : Bool :=
  match tick.input with
  | .packet _ (.timelineEvent _) => true
  | _ => false

theorem own_source {eventType source : String} (own : source ∈ ["manual","voice_agent","backend","backend_timeout"]) (id : ℕ) :
    (recordedEvent now target eventType source none none id).source ≠ "qnx" := by
  have others : ∀ source ∈ ["manual","voice_agent","backend","backend_timeout"], String.ofList (source.toList.take 40) ≠ "qnx" := by decide
  exact others source own

theorem recorded_source {entry : Entry} (quiet : tick.reports = false) (records : recorded settings app tick = some entry) (id : ℕ) :
    (entry id).source ≠ "qnx" := by
  obtain ⟨now,input⟩ := tick
  unfold recorded at records
  cases input with
  | confirm allowed target source | cancel allowed target reason source =>
    dsimp only at records
    split at records
    · cases records
      cases source <;> exact own_source (by decide) id
    · cases records
  | reset allowed target | resume task =>
    dsimp only at records
    repeat' split at records
    all_goals cases records
    all_goals exact own_source (by decide) id
  | callDemoDispatch allowed target | providerAnswered attemptId answer =>
    dsimp only at records
    repeat' split at records
    all_goals cases records
    all_goals exact own_source (by decide) id
  | packet hello packet =>
    cases packet with
    | timelineEvent data => cases quiet
    | _ => cases records
  | _ => cases records

theorem timeouts_all (settings : Settings) (ticks : List Tick) (quiet : ∀ tick ∈ ticks, tick.reports = false) (incidentId : String) :
    let rows := (run (step settings) fresh ticks).database.incidentEvents.rows
    timeouts (run (step settings) fresh ticks).database incidentId =
      rows.countP fun event => event.incidentId = incidentId && event.eventType = "NO_OCCUPANT_RESPONSE" := by
  intro rows
  have own : CallsStored (run (step settings) fresh ticks) ∧ ∀ event ∈ rows, event.source ≠ "qnx" := by
    refine invariant_along (fun app => CallsStored app ∧ ∀ event ∈ app.database.incidentEvents.rows, event.source ≠ "qnx") ?_
      ⟨fun call member => (nomatch member),fun event member => (nomatch member)⟩ (along_inputs quiet)
    rintro app tick silent ⟨stored,others⟩
    refine ⟨callsStored_step stored,fun event member => ?_⟩
    have logged : (step settings app tick).database.incidentEvents.rows = _ := events_step stored
    rw [logged] at member
    rcases List.mem_append.mp member with earlier | new
    · exact others event earlier
    · obtain ⟨entry,records,rfl⟩ : ∃ entry, recorded settings app tick = some entry ∧ entry app.database.incidentEvents.next = event := by
        simpa [numbered] using new
      exact recorded_source silent records _
  refine List.countP_congr fun event member => ?_
  have source := own.2 event member
  simp [timedOut,source]

end Ignis.Backend
