import Ignis.BackendRecords

-- Said once: what one step of the backend does to the response tasks and to the calls that wait for
-- their provider.
namespace Ignis.Backend
open Tables Database Communications Escalation

variable {settings : Settings} {app : App} {tick : Tick} {db : Database} {now : Time} {incidentId : String}

def answersFor (app : App) (tick : Tick) : Option String :=
  match tick.input with
  | .confirm allowed incidentId source =>
    if (confirm app tick.now allowed incidentId source).isOk then some incidentId else none
  | .cancel allowed incidentId reason source =>
    if (cancel app tick.now allowed incidentId reason source).isOk then some incidentId else none
  | _ => none

def waits (task : ResponseTask) : Bool :=
  match task.phase with
  | .calling _ | .done => false
  | .created | .sleeping | .announcing | .reporting => true

-- A task is created for an incident that awaits a response, goes on, makes its call, sees the
-- answer, ends, or is cancelled when the occupant answers.
inductive Moved (settings : Settings) (app : App) (tick : Tick) :
    ResponseTimeoutManager → Table PendingCall.attemptId → Prop where
  | same (silent : answersFor app tick = none) : Moved settings app tick app.timeoutManager app.calls
  | suspended {incidentId : String} (silent : answersFor app tick = none)
      (placed : effect settings app tick = .called incidentId) :
      Moved settings app tick app.timeoutManager
        (suspendCall app app.database.callAttempts.next incidentId none).calls
  | answered {incidentId : String} (accepted : answersFor app tick = some incidentId) :
      Moved settings app tick (Escalation.cancel app.timeoutManager incidentId) app.calls
  | observed {incidentId : String} (silent : answersFor app tick = none) :
      Moved settings app tick (observe app.timeoutManager app.database incidentId) app.calls
  | moved {task : ResponseTask} {phase : Phase} (silent : answersFor app tick = none)
      (found : app.timeoutManager.tasks.find task.id = some task) (ready : waits task = true) (goes : phase ≠ .done) :
      Moved settings app tick (moveTo app.timeoutManager task.id phase) app.calls
  | dialled {task : ResponseTask} (silent : answersFor app tick = none)
      (found : app.timeoutManager.tasks.find task.id = some task) (ready : waits task = true)
      (placed : effect settings app tick = .called task.incidentId) :
      Moved settings app tick (moveTo app.timeoutManager task.id (.calling app.database.callAttempts.next))
        (suspendCall app app.database.callAttempts.next task.incidentId (some task.id)).calls
  | dropped {task : ResponseTask} (silent : answersFor app tick = none)
      (found : app.timeoutManager.tasks.find task.id = some task) (ready : waits task = true)
      (cancelled : task.cancelled = true) :
      Moved settings app tick (moveTo app.timeoutManager task.id .done) app.calls
  | finished {task : ResponseTask} (silent : answersFor app tick = none)
      (found : app.timeoutManager.tasks.find task.id = some task) (ready : waits task = true) :
      Moved settings app tick (finish app.timeoutManager task) app.calls
  | thrown {task : ResponseTask} {attemptId : ℕ} (silent : answersFor app tick = none)
      (found : app.timeoutManager.tasks.find task.id = some task) (calling : task.phase = .calling attemptId) :
      Moved settings app tick (finish app.timeoutManager task) (app.calls.erase attemptId)
  | replied {call : PendingCall} (silent : answersFor app tick = none)
      (found : app.calls.find call.attemptId = some call) (caller : call.caller = none) :
      Moved settings app tick app.timeoutManager (app.calls.erase call.attemptId)
  | resumed {call : PendingCall} {task : ResponseTask} (silent : answersFor app tick = none)
      (found : app.calls.find call.attemptId = some call) (caller : call.caller = some task.id)
      (waiting : app.timeoutManager.tasks.find task.id = some task) :
      Moved settings app tick (moveTo app.timeoutManager task.id .reporting) (app.calls.erase call.attemptId)
  | failed {call : PendingCall} {task : ResponseTask} (silent : answersFor app tick = none)
      (found : app.calls.find call.attemptId = some call) (caller : call.caller = some task.id)
      (waiting : app.timeoutManager.tasks.find task.id = some task) :
      Moved settings app tick (finish app.timeoutManager task) (app.calls.erase call.attemptId)
  | restarted (silent : answersFor app tick = none) (ends : tick.input = .restart) : Moved settings app tick idle .empty

def Moves (settings : Settings) (app : App) (tick : Tick) (next : App) : Prop :=
  Moved settings app tick next.timeoutManager next.calls

theorem placedCall_attempt : (placedCall settings db now incidentId).2.1 = db.callAttempts.next := by
  unfold placedCall
  split
  · rfl
  · cases settings.callProvider <;> rfl

theorem moves_dispatched (silent : answersFor app tick = none) (placed : effect settings app tick = .called incidentId) :
    Moves settings app tick (dispatched app now incidentId (placedCall settings app.database now incidentId)) := by
  unfold dispatched
  cases (placedCall settings app.database now incidentId).2.2 with
  | accepted => exact .same silent
  | raised => exact .same silent
  | posting =>
    rw [placedCall_attempt]
    exact .suspended silent placed

theorem moves_wake {task : ResponseTask} (silent : answersFor app tick = none)
    (found : app.timeoutManager.tasks.find task.id = some task) (ready : waits task = true) :
    Moves settings app tick (wake app now task) := by
  unfold wake
  split
  · exact .finished silent found ready
  · split
    · exact .finished silent found ready
    · split
      · exact .finished silent found ready
      · exact .moved silent found ready (by simp)

theorem moves_dialled {task : ResponseTask} (silent : answersFor app tick = none)
    (found : app.timeoutManager.tasks.find task.id = some task) (ready : waits task = true)
    (placed : effect settings app tick = .called task.incidentId) :
    Moves settings app tick (dialled app task (placedCall settings app.database now task.incidentId)) := by
  unfold dialled
  cases (placedCall settings app.database now task.incidentId).2.2 with
  | accepted => exact .moved silent found ready (by simp)
  | raised => exact .finished silent found ready
  | posting =>
    rw [placedCall_attempt]
    exact .dialled silent found ready placed

theorem moves_dial {task : ResponseTask} (silent : answersFor app tick = none)
    (found : app.timeoutManager.tasks.find task.id = some task) (ready : waits task = true)
    (placed : callable settings app.database now task.incidentId = true →
      effect settings app tick = .called task.incidentId) :
    Moves settings app tick (dial settings app now task) := by
  have blocked : Moves settings app tick (moveTask app task .reporting) := .moved silent found ready (by simp)
  unfold dial
  split
  · exact blocked
  · obtain ⟨gate,accepted⟩ | ⟨_,refusal,refused⟩ := requestDemoCall_cases settings app.database now task.incidentId
    · simp only [accepted]
      exact moves_dialled silent found ready (placed gate)
    · simp only [refused]
      exact blocked

theorem moves_resume (id : ℕ) : Moves settings app ⟨now,.resume id⟩ (resume settings app now id) := by
  have silent : answersFor app ⟨now,.resume id⟩ = none := rfl
  unfold resume
  cases found : app.timeoutManager.tasks.find id with
  | none => exact .same silent
  | some task =>
    obtain rfl : task.id = id := Table.find_key found
    dsimp only
    cases phase : task.phase <;> cases cancelled : task.cancelled
    case done.false => exact .same silent
    case done.true => exact .same silent
    case created.true => exact .dropped silent found (by simp [waits,phase]) cancelled
    case created.false => exact .moved silent found (by simp [waits,phase]) (by simp)
    case sleeping.false => exact moves_wake silent found (by simp [waits,phase])
    case announcing.false =>
      refine moves_dial silent found (by simp [waits,phase]) fun gate => ?_
      have dialling : dials settings app now task.id = some task.incidentId := by
        simp only [dials,turn,found,Option.filter_some,cancelled,Bool.not_false,if_true,phase,gate,decide_true,Bool.and_self]
      simp only [effect,dialling]
    case calling.false => exact .same silent
    case calling.true => exact .thrown silent found phase
    all_goals exact .finished silent found (by simp [waits,phase])

theorem moves_providerAnswered (attemptId : ℕ) (answer : ProviderAnswer) :
    Moves settings app ⟨now,.providerAnswered attemptId answer⟩ (providerAnswered app now attemptId answer) := by
  have silent : answersFor app ⟨now,.providerAnswered attemptId answer⟩ = none := rfl
  unfold providerAnswered
  cases found : app.calls.find attemptId with
  | none => exact .same silent
  | some call =>
    obtain rfl : call.attemptId = attemptId := Table.find_key found
    dsimp only
    cases caller : call.caller with
    | none =>
      simp only
      cases answer.outcome <;> exact .replied silent found caller
    | some id =>
      simp only
      cases waiting : app.timeoutManager.tasks.find id with
      | none => exact .same silent
      | some task =>
        obtain rfl : task.id = id := Table.find_key waiting
        cases cancelled : task.cancelled with
        | true =>
          simp only [cancelled,if_true]
          exact .same silent
        | false =>
          simp only [cancelled,Bool.false_eq_true,if_false]
          cases answer.outcome with
          | result => exact .resumed silent found caller waiting
          | refused error => exact .resumed silent found caller waiting
          | raised => exact .failed silent found caller waiting

theorem moves_packet (hello : Hello) (packet : DevicePacket) :
    Moves settings app ⟨now,.packet hello packet⟩ (orUnchanged app (dispatch app now hello packet)) := by
  have silent : answersFor app ⟨now,.packet hello packet⟩ = none := rfl
  cases packet with
  | incidentUpdate data =>
    simp only [dispatch]
    cases app.armed with
    | false => exact .same silent
    | true =>
      simp only [Bool.not_true,Bool.false_eq_true,if_false]
      cases app.database.upsertIncident now data hello.deviceId hello.bootId <;> exact .same silent
  | timelineEvent data =>
    simp only [dispatch]
    cases app.database.getIncident data.incidentId with
    | none => exact .same silent
    | some stored =>
      simp only
      cases app.database.addEvent now data.incidentId (data.eventType.getD "DEVICE_EVENT") "qnx"
        (some data.monotonicNs) data.wallTimeUtc <;> exact .same silent
  | invalidUpdate error =>
    rw [dispatch_invalidUpdate]
    exact .same silent
  | _ => exact .same silent

theorem step_moved (settings : Settings) (app : App) (tick : Tick) : Moves settings app tick (step settings app tick) := by
  obtain ⟨now,input⟩ := tick
  cases input with
  | putArming allowed armed =>
    have silent : answersFor app ⟨now,.putArming allowed armed⟩ = none := rfl
    cases allowed <;> exact .same silent
  | confirm allowed incidentId source =>
    obtain ⟨_,accepted⟩ | ⟨_,refusal,refused⟩ := confirm_cases app now allowed incidentId source
    · have answers : answersFor app ⟨now,.confirm allowed incidentId source⟩ = some incidentId := by
        simp [answersFor,accepted,Except.isOk,Except.toBool]
      simp only [step,accepted]
      exact .answered answers
    · have silent : answersFor app ⟨now,.confirm allowed incidentId source⟩ = none := by
        simp [answersFor,refused,Except.isOk,Except.toBool]
      simp only [step,refused]
      exact .same silent
  | cancel allowed incidentId reason source =>
    obtain ⟨_,accepted⟩ | ⟨_,refusal,refused⟩ := cancel_cases app now allowed incidentId reason source
    · have answers : answersFor app ⟨now,.cancel allowed incidentId reason source⟩ = some incidentId := by
        simp [answersFor,accepted,Except.isOk,Except.toBool]
      simp only [step,accepted]
      exact .answered answers
    · have silent : answersFor app ⟨now,.cancel allowed incidentId reason source⟩ = none := by
        simp [answersFor,refused,Except.isOk,Except.toBool]
      simp only [step,refused]
      exact .same silent
  | reset allowed incidentId =>
    have silent : answersFor app ⟨now,.reset allowed incidentId⟩ = none := rfl
    obtain ⟨_,_,_,accepted⟩ | ⟨_,refusal,refused⟩ := reset_cases app now allowed incidentId
    · simp only [step,accepted]
      exact .same silent
    · simp only [step,refused]
      exact .same silent
  | callDemoDispatch allowed incidentId =>
    have silent : answersFor app ⟨now,.callDemoDispatch allowed incidentId⟩ = none := rfl
    obtain ⟨gate,accepted⟩ | ⟨_,refusal,refused⟩ := callDemoDispatch_cases settings app now allowed incidentId
    · simp only [step,accepted]
      exact moves_dispatched silent (if_pos gate)
    · simp only [step,refused]
      exact .same silent
  | providerCallStatus secret body =>
    have silent : answersFor app ⟨now,.providerCallStatus secret body⟩ = none := rfl
    simp only [step,providerCallStatus]
    cases authenticateProviderWebhook settings secret with
    | none => exact .same silent
    | some authentic =>
      cases authentic with
      | false => exact .same silent
      | true => cases app.database.findAttemptForIncident body.incidentId <;> exact .same silent
  | providerAnswered attemptId answer => exact moves_providerAnswered attemptId answer
  | packet hello packet => exact moves_packet hello packet
  | announced incidentId =>
    have silent : answersFor app ⟨now,.announced incidentId⟩ = none := rfl
    simp only [step,announced]
    split
    · exact .observed silent
    · exact .same silent
  | resume id => exact moves_resume id
  | restart => exact .restarted rfl rfl

end Ignis.Backend
