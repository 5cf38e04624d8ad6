import Ignis.HazardRecords
import Ignis.Timeouts

-- As long as its process runs a waiting incident has a timer, or the update that is to start one.
namespace Ignis.Backend
open Tables Database Communications Escalation Runs

variable {settings : Settings} {app : App} {tick : Tick} {incidentId : String} {task : ResponseTask}

def Unanswered (db : Database) (incidentId : String) : Prop := (db.getIncident incidentId).any unanswered = true

def timing (task : ResponseTask) : Bool := (task.phase = .created || task.phase = .sleeping) && !task.cancelled

def fired (task : ResponseTask) : Bool :=
  match task.phase with
  | .announcing | .calling _ | .reporting => !task.cancelled
  | .created | .sleeping | .done => false

def Attended (app : App) (incidentId : String) : Prop :=
  incidentId ∈ app.announcing ∨
    ∃ task ∈ app.timeoutManager.tasks.rows, task.incidentId = incidentId ∧ timing task = true

inductive Advanced (settings : Settings) (app : App) (tick : Tick) : ResponseTimeoutManager → Prop where
  | same : Advanced settings app tick app.timeoutManager
  | answered {incidentId : String} (accepted : answersFor app tick = some incidentId) :
      Advanced settings app tick (Escalation.cancel app.timeoutManager incidentId)
  | observed {incidentId : String} : Advanced settings app tick (observe app.timeoutManager app.database incidentId)
  | started {task : ResponseTask} (found : app.timeoutManager.tasks.find task.id = some task)
      (times : timing task = true) : Advanced settings app tick (moveTo app.timeoutManager task.id .sleeping)
  | woken {task : ResponseTask} (found : app.timeoutManager.tasks.find task.id = some task)
      (freezes : Frozen (step settings app tick).database task.incidentId) :
      Advanced settings app tick (moveTo app.timeoutManager task.id .announcing)
  | went {task : ResponseTask} {phase : Phase} (found : app.timeoutManager.tasks.find task.id = some task)
      (fires : fired task = true) : Advanced settings app tick (moveTo app.timeoutManager task.id phase)
  | dropped {task : ResponseTask} (found : app.timeoutManager.tasks.find task.id = some task)
      (cancelled : task.cancelled = true) : Advanced settings app tick (moveTo app.timeoutManager task.id .done)
  | ended {task : ResponseTask} (found : app.timeoutManager.tasks.find task.id = some task)
      (spent : timing task = true → ¬ Unanswered app.database task.incidentId) :
      Advanced settings app tick (finish app.timeoutManager task)

theorem unanswered_thawed (waits : Unanswered app.database incidentId) : ¬ Frozen app.database incidentId := by
  obtain ⟨stored,found,guard⟩ := (Option.any_eq_true ..).mp waits
  simp only [unanswered,Bool.and_eq_true,decide_eq_true_eq] at guard
  rw [Frozen,response_found found,guard.1]
  decide

theorem unanswered_iff {db : Database} : Unanswered db incidentId ↔
    response db incidentId = some .awaitingResponse ∧ (hazard db incidentId).any visible = true := by
  unfold Unanswered response hazard
  cases db.getIncident incidentId with
  | none => simp
  | some stored => simp [unanswered]

theorem fired_untimed (fires : fired task = true) : timing task = false := by
  unfold fired at fires
  unfold timing
  cases phase : task.phase <;> simp_all

theorem cancelled_unfired : fired (cancelledTask task) = false := by
  unfold fired cancelledTask
  cases task.phase <;> rfl

theorem sleeping_unfired : ¬ fired (movedTask .sleeping task) = true := Bool.false_ne_true
theorem done_unfired : ¬ fired (movedTask .done task) = true := Bool.false_ne_true

theorem advanced_wake {now : Time} (found : app.timeoutManager.tasks.find task.id = some task)
    (goes : step settings app tick = wake app now task) :
    Advanced settings app tick (wake app now task).timeoutManager := by
  by_cases waits : Unanswered app.database task.incidentId
  · have frozen := (frozen_wake settings app now waits).2
    rw [← goes] at frozen
    obtain ⟨stored,there,guard⟩ := (Option.any_eq_true ..).mp waits
    simp only [unanswered,Bool.and_eq_true,decide_eq_true_eq] at guard
    simp only [wake,there,guard.1,guard.2,ne_eq,not_true_eq_false,if_false,Bool.not_true,Bool.false_eq_true]
    exact .woken found frozen
  · have ends : Advanced settings app tick (finishTask app task).timeoutManager := .ended found fun _ => waits
    unfold wake
    split
    · exact ends
    · rename_i stored there
      split
      · exact ends
      · rename_i awaits
        split
        · exact ends
        · rename_i seen
          refine absurd ?_ waits
          simp only [not_not,Bool.not_eq_true,Bool.not_eq_false'] at awaits seen
          rw [Unanswered,there,Option.any_some,unanswered,awaits,seen]
          rfl

theorem advanced_dial {now : Time} (found : app.timeoutManager.tasks.find task.id = some task) (fires : fired task = true) :
    Advanced settings app tick (dial settings app now task).timeoutManager := by
  unfold dial
  split
  · exact .went found fires
  · split
    · exact .went found fires
    · rename_i placed _
      unfold dialled
      cases placed.2.2 with
      | accepted => exact .went found fires
      | raised => exact .ended found fun times => absurd times (by simp [fired_untimed fires])
      | posting => exact .went found fires

theorem advanced_resume {now : Time} (id : ℕ) :
    Advanced settings app ⟨now,.resume id⟩ (resume settings app now id).timeoutManager := by
  have goes : step settings app ⟨now,.resume id⟩ = resume settings app now id := rfl
  unfold resume at goes ⊢
  cases found : app.timeoutManager.tasks.find id with
  | none => exact .same
  | some task =>
    obtain rfl : task.id = id := Table.find_key found
    rw [found] at goes
    dsimp only at goes ⊢
    cases phase : task.phase <;> cases cancelled : task.cancelled <;> rw [phase,cancelled] at goes
    case done.false => exact .same
    case done.true => exact .same
    case calling.false => exact .same
    case created.true => exact .dropped found cancelled
    case created.false => exact .started found (by simp [timing,phase,cancelled])
    case sleeping.false => exact advanced_wake found goes
    case announcing.false => exact advanced_dial found (by simp [fired,phase,cancelled])
    all_goals exact .ended found fun times => absurd times (by simp [timing,phase,cancelled])

-- The task of a call that is answered has fired long ago.
theorem advanced_providerAnswered (orderly : Orderly app) {now : Time} (attemptId : ℕ) (answer : ProviderAnswer) :
    Advanced settings app ⟨now,.providerAnswered attemptId answer⟩
      (providerAnswered app now attemptId answer).timeoutManager := by
  unfold providerAnswered
  cases found : app.calls.find attemptId with
  | none => exact .same
  | some call =>
    dsimp only
    cases caller : call.caller with
    | none => cases answer.outcome <;> exact .same
    | some id =>
      obtain ⟨task,there,calling⟩ := (orderly.waiting call (Table.find_mem found)).2 id caller
      obtain rfl : task.id = id := Table.find_key there
      simp only [there]
      cases cancelled : task.cancelled with
      | true => exact .same
      | false =>
        have fires : fired task = true := by simp [fired,calling,cancelled]
        cases answer.outcome with
        | result => exact .went there fires
        | refused error => exact .went there fires
        | raised => exact .ended there fun times => absurd times (by simp [fired_untimed fires])

theorem manager_packet {now : Time} (hello : Hello) (packet : DevicePacket) :
    (step settings app ⟨now,.packet hello packet⟩).timeoutManager = app.timeoutManager := by
  cases packet with
  | incidentUpdate data =>
    simp only [step,dispatch]
    cases app.armed with
    | false => rfl
    | true => cases app.database.upsertIncident now data hello.deviceId hello.bootId <;> rfl
  | timelineEvent data =>
    simp only [step,dispatch]
    cases app.database.getIncident data.incidentId with
    | none => rfl
    | some stored =>
      dsimp only
      cases app.database.addEvent now data.incidentId (data.eventType.getD "DEVICE_EVENT") "qnx"
        (some data.monotonicNs) data.wallTimeUtc <;> rfl
  | invalidUpdate error => simp only [step,dispatch_invalidUpdate]
  | _ => rfl

theorem manager_callDemoDispatch {now : Time} (allowed : Bool) (incidentId : String) :
    (step settings app ⟨now,.callDemoDispatch allowed incidentId⟩).timeoutManager = app.timeoutManager := by
  obtain ⟨_,accepted⟩ | ⟨_,refusal,refused⟩ := callDemoDispatch_cases settings app now allowed incidentId
  · simp only [step,accepted,orUnchanged,dispatched]
    cases (placedCall settings app.database now incidentId).2.2 <;> rfl
  · simp only [step,refused,orUnchanged]

theorem step_advanced (settings : Settings) (orderly : Orderly app) (lasts : tick.input ≠ .restart) :
    Advanced settings app tick (step settings app tick).timeoutManager := by
  obtain ⟨now,input⟩ := tick
  cases input with
  | putArming allowed armed => cases allowed <;> exact .same
  | confirm allowed target source =>
    obtain ⟨_,accepted⟩ | ⟨_,refusal,refused⟩ := confirm_cases app now allowed target source
    · have answers : answersFor app ⟨now,.confirm allowed target source⟩ = some target := by
        simp [answersFor,accepted,Except.isOk,Except.toBool]
      simp only [step,accepted,orUnchanged]
      exact .answered answers
    · simp only [step,refused,orUnchanged]
      exact .same
  | cancel allowed target reason source =>
    obtain ⟨_,accepted⟩ | ⟨_,refusal,refused⟩ := cancel_cases app now allowed target reason source
    · have answers : answersFor app ⟨now,.cancel allowed target reason source⟩ = some target := by
        simp [answersFor,accepted,Except.isOk,Except.toBool]
      simp only [step,accepted,orUnchanged]
      exact .answered answers
    · simp only [step,refused,orUnchanged]
      exact .same
  | reset allowed target =>
    obtain ⟨_,_,_,accepted⟩ | ⟨_,refusal,refused⟩ := reset_cases app now allowed target
    · simp only [step,accepted,orUnchanged]
      exact .same
    · simp only [step,refused,orUnchanged]
      exact .same
  | callDemoDispatch allowed target =>
    rw [manager_callDemoDispatch]
    exact .same
  | providerCallStatus secret body =>
    simp only [step,providerCallStatus]
    cases authenticateProviderWebhook settings secret with
    | none => exact .same
    | some authentic =>
      cases authentic with
      | false => exact .same
      | true => cases app.database.findAttemptForIncident body.incidentId <;> exact .same
  | providerAnswered attemptId answer => exact advanced_providerAnswered orderly attemptId answer
  | packet hello packet =>
    rw [manager_packet]
    exact .same
  | announced target =>
    simp only [step,announced]
    split
    · exact .observed
    · exact .same
  | resume id => exact advanced_resume id
  | restart => exact absurd rfl lasts

theorem announcing_stored {update : DeviceUpdate}
    (upserts : effect settings app tick = .upserted update.data update.hello.deviceId update.hello.bootId)
    (stores : update.storable = true) : update.data.incidentId ∈ (step settings app tick).announcing := by
  obtain ⟨armed,hello,input⟩ := upserted_packet upserts
  obtain ⟨now,_⟩ := tick
  subst input
  unfold DeviceUpdate.storable at stores
  simp only [step,dispatch,armed,upsertIncident,stores,Bool.not_true,Bool.false_eq_true,if_false,if_true,orUnchanged]
  exact List.mem_cons_self ..

theorem unanswered_step (waits : Unanswered (step settings app tick).database incidentId) :
    Unanswered app.database incidentId ∨ incidentId ∈ (step settings app tick).announcing := by
  obtain ⟨awaits,seen⟩ := unanswered_iff.mp waits
  have viewed : hazard (step settings app tick).database incidentId =
      hazard ((effect settings app tick).apply settings app.database tick.now) incidentId :=
    viewed_step settings app tick incidentId
  have caused := effect_caused settings app tick
  have responded := response_responded_step settings app tick incidentId
  rw [awaits] at responded
  generalize answer : some ResponseState.awaitingResponse = r at responded
  cases responded with
  | kept =>
    have kept (same : hazard (step settings app tick).database incidentId = hazard app.database incidentId) :
        Unanswered app.database incidentId := unanswered_iff.mpr ⟨answer.symm,same ▸ seen⟩
    cases effects : effect settings app tick with
    | nothing => exact .inl (kept (viewed.trans (by rw [effects]; rfl)))
    | upserted data deviceId bootId =>
      let update : DeviceUpdate := ⟨data,deviceId,bootId⟩
      cases stores : update.storable with
      | true =>
        have stored : update.data.incidentId ∈ (step settings app tick).announcing := announcing_stored effects stores
        by_cases own : data.incidentId = incidentId
        · exact .inr (own ▸ stored)
        · exact .inl (kept (viewed.trans (by rw [effects]; exact upserted_frame (Ne.symm own))))
      | false =>
        have unchanged : update.store app.database tick.now = app.database := store_unstorable stores
        exact .inl (kept (viewed.trans (by rw [effects]; exact congrArg (Backend.viewed _ · incidentId) unchanged)))
    | responded target responseState occupantResponse hazardState =>
      rw [effects] at caused viewed
      cases caused with
      | confirm found guard => exact .inl (kept (viewed.trans (hazard_responded _ _)))
      | cancel found guard => exact .inl (kept (viewed.trans (hazard_responded _ _)))
      | wake runs found guard => exact .inl (kept (viewed.trans (hazard_responded _ _)))
      | @reset now _ stored found guard =>
        by_cases own : incidentId = target
        · subst own
          rw [response_found found] at answer
          rw [resettable,← Option.some.inj answer] at guard
          cases guard
        · exact .inl (kept (viewed.trans (responded_frame own)))
    | called target => exact .inl (kept (viewed.trans (by rw [effects]; exact hazard_called)))
    | reported attemptId report => exact .inl (kept (viewed.trans (by rw [effects]; exact hazard_reported attemptId report)))
  | answered responds answers => rcases answers with rfl | rfl <;> cases answer
  | called calls requested => rcases requested with rfl | rfl <;> cases answer
  | reported reports found owner maps =>
    have frozen := status_answers maps
    rw [← Option.some.inj answer] at frozen
    cases frozen
  | device upserts stores own thawed => exact .inr (own ▸ announcing_stored upserts stores)

theorem announcing_dial {now : Time} : (dial settings app now task).announcing = app.announcing := by
  unfold dial
  split
  · rfl
  · cases requestDemoCall settings app.database now task.incidentId with
    | error refusal => rfl
    | ok placed =>
      dsimp only
      unfold dialled
      cases placed.2.2 <;> rfl

theorem announcing_resume {now : Time} (id : ℕ) : (resume settings app now id).announcing = app.announcing := by
  unfold resume
  cases app.timeoutManager.tasks.find id with
  | none => rfl
  | some task =>
    dsimp only
    cases task.phase <;> cases task.cancelled
    case sleeping.false =>
      unfold wake
      cases app.database.getIncident task.incidentId with
      | none => rfl
      | some stored =>
        dsimp only
        split
        · rfl
        · split <;> rfl
    case announcing.false => exact announcing_dial
    all_goals rfl

theorem announcing_providerAnswered {now : Time} (attemptId : ℕ) (answer : ProviderAnswer) :
    (providerAnswered app now attemptId answer).announcing = app.announcing := by
  unfold providerAnswered
  cases app.calls.find attemptId with
  | none => rfl
  | some call =>
    dsimp only
    cases call.caller with
    | none => cases answer.outcome <;> rfl
    | some id =>
      dsimp only
      cases app.timeoutManager.tasks.find id with
      | none => rfl
      | some task =>
        dsimp only
        split
        · rfl
        · cases answer.outcome <;> rfl

theorem announcing_step (lasts : tick.input ≠ .restart) (member : incidentId ∈ app.announcing) :
    incidentId ∈ (step settings app tick).announcing ∨ tick.input = .announced incidentId := by
  obtain ⟨now,input⟩ := tick
  cases input with
  | putArming allowed armed => cases allowed <;> exact .inl member
  | confirm allowed target source =>
    obtain ⟨_,accepted⟩ | ⟨_,refusal,refused⟩ := confirm_cases app now allowed target source
    · simp only [step,accepted,orUnchanged]
      exact .inl member
    · simp only [step,refused,orUnchanged]
      exact .inl member
  | cancel allowed target reason source =>
    obtain ⟨_,accepted⟩ | ⟨_,refusal,refused⟩ := cancel_cases app now allowed target reason source
    · simp only [step,accepted,orUnchanged]
      exact .inl member
    · simp only [step,refused,orUnchanged]
      exact .inl member
  | reset allowed target =>
    obtain ⟨_,_,_,accepted⟩ | ⟨_,refusal,refused⟩ := reset_cases app now allowed target
    · simp only [step,accepted,orUnchanged]
      exact .inl member
    · simp only [step,refused,orUnchanged]
      exact .inl member
  | callDemoDispatch allowed target =>
    obtain ⟨_,accepted⟩ | ⟨_,refusal,refused⟩ := callDemoDispatch_cases settings app now allowed target
    · simp only [step,accepted,orUnchanged,dispatched]
      cases (placedCall settings app.database now target).2.2 <;> exact .inl member
    · simp only [step,refused,orUnchanged]
      exact .inl member
  | providerCallStatus secret body =>
    simp only [step,providerCallStatus]
    cases authenticateProviderWebhook settings secret with
    | none => exact .inl member
    | some authentic =>
      cases authentic with
      | false => exact .inl member
      | true => cases app.database.findAttemptForIncident body.incidentId <;> exact .inl member
  | providerAnswered attemptId answer =>
    simp only [step,announcing_providerAnswered]
    exact .inl member
  | packet hello packet =>
    cases packet with
    | incidentUpdate data =>
      simp only [step,dispatch]
      cases app.armed with
      | false => exact .inl member
      | true =>
        cases app.database.upsertIncident now data hello.deviceId hello.bootId with
        | none => exact .inl member
        | some database => exact .inl (List.mem_cons_of_mem _ member)
    | timelineEvent data =>
      simp only [step,dispatch]
      cases app.database.getIncident data.incidentId with
      | none => exact .inl member
      | some stored =>
        dsimp only
        cases app.database.addEvent now data.incidentId (data.eventType.getD "DEVICE_EVENT") "qnx"
          (some data.monotonicNs) data.wallTimeUtc <;> exact .inl member
    | invalidUpdate error =>
      simp only [step,dispatch_invalidUpdate]
      exact .inl member
    | _ => exact .inl member
  | announced target =>
    by_cases own : target = incidentId
    · exact .inr (own ▸ rfl)
    · simp only [step,announced]
      split
      · exact .inl ((List.mem_erase_of_ne (Ne.symm own)).mpr member)
      · exact .inl member
  | resume id =>
    simp only [step,announcing_resume]
    exact .inl member
  | restart => exact absurd rfl lasts

def FiredFrozen (app : App) : Prop :=
  ∀ task ∈ app.timeoutManager.tasks.rows, fired task = true → Frozen app.database task.incidentId

theorem firedFrozen_moved {phase : Phase} {next : ResponseTask} (frozen : FiredFrozen app)
    (found : app.timeoutManager.tasks.find task.id = some task)
    (moves : fired (movedTask phase task) = true → Frozen (step settings app tick).database task.incidentId)
    (member : next ∈ (moveTo app.timeoutManager task.id phase).tasks.rows) (fires : fired next = true) :
    Frozen (step settings app tick).database next.incidentId := by
  obtain ⟨old,inside,rfl⟩ := mem_moveTo.mp member
  split at fires
  · rename_i same
    have self : app.timeoutManager.tasks.find task.id = some old := Table.find_iff.mpr ⟨inside,same⟩
    obtain rfl := Option.some.inj (found.symm.trans self)
    rw [if_pos rfl]
    exact moves fires
  · rename_i other
    rw [if_neg other]
    exact frozen_step (frozen old inside fires)

theorem mem_observe {manager : ResponseTimeoutManager} {db : Database} {next : ResponseTask}
    (member : next ∈ (observe manager db incidentId).tasks.rows) :
    next ∈ manager.tasks.rows ∨ next = newTask incidentId manager.tasks.next := by
  have created : next ∈ (createTask manager incidentId).tasks.rows →
      next ∈ manager.tasks.rows ∨ next = newTask incidentId manager.tasks.next := by
    simp only [createTask,Table.rows_push,List.mem_append,List.mem_singleton]
    exact id
  unfold observe at member
  split at member
  · exact .inl member
  · split at member
    · exact .inl member
    · split at member
      · exact created member
      · split at member
        · exact .inl member
        · exact created member

theorem observe_keeps {manager : ResponseTimeoutManager} {db : Database} (member : task ∈ manager.tasks.rows) :
    task ∈ (observe manager db incidentId).tasks.rows := by
  have created : task ∈ (createTask manager incidentId).tasks.rows := by
    simp only [createTask,Table.rows_push]
    exact List.mem_append_left _ member
  unfold observe
  split
  · exact member
  · split
    · exact member
    · split
      · exact created
      · split
        · exact member
        · exact created

theorem firedFrozen_step (orderly : Orderly app) (lasts : tick.input ≠ .restart) (frozen : FiredFrozen app) :
    FiredFrozen (step settings app tick) := by
  have advanced := step_advanced settings orderly lasts
  intro next member fires
  have old (among : next ∈ app.timeoutManager.tasks.rows) : Frozen (step settings app tick).database next.incidentId :=
    frozen_step (frozen next among fires)
  generalize managed : (step settings app tick).timeoutManager = manager at advanced member
  cases advanced with
  | same => exact old member
  | @answered target accepted =>
    unfold Escalation.cancel at member
    cases found : app.timeoutManager.registered.find target with
    | none =>
      rw [found] at member
      exact old member
    | some existing =>
      rw [found] at member
      simp only [Table.mem_modify] at member
      obtain ⟨before,inside,rfl⟩ := member
      split at fires
      · rw [cancelled_unfired] at fires
        cases fires
      · rename_i other
        rw [if_neg other] at old ⊢
        exact old inside
  | observed =>
    rcases mem_observe member with among | rfl
    · exact old among
    · cases fires
  | started found times => exact firedFrozen_moved frozen found (fun moves => absurd moves sleeping_unfired) member fires
  | woken found freezes => exact firedFrozen_moved frozen found (fun _ => freezes) member fires
  | went found went =>
    exact firedFrozen_moved frozen found (fun _ => frozen_step (frozen _ (Table.find_mem found) went)) member fires
  | dropped found cancelled => exact firedFrozen_moved frozen found (fun moves => absurd moves done_unfired) member fires
  | ended found spent => exact firedFrozen_moved frozen found (fun moves => absurd moves done_unfired) member fires

theorem unanswered_times (orderly : Orderly app) (frozen : FiredFrozen app) (waits : Unanswered app.database task.incidentId)
    (member : task ∈ app.timeoutManager.tasks.rows) (runs : task.phase ≠ .done) : timing task = true := by
  have thawed := unanswered_thawed waits
  have kept : task.cancelled = false := by
    by_contra cancelled
    exact thawed (orderly.exclusive.answered task member (by simpa using cancelled)).1
  have unfired : fired task ≠ true := fun fires => thawed (frozen task member fires)
  unfold fired at unfired
  unfold timing
  cases phase : task.phase <;> simp_all

theorem attended_observe (orderly : Orderly app) (frozen : FiredFrozen app) (waits : Unanswered app.database incidentId) :
    ∃ task ∈ (observe app.timeoutManager app.database incidentId).tasks.rows,
      task.incidentId = incidentId ∧ timing task = true := by
  have created : ∃ task ∈ (createTask app.timeoutManager incidentId).tasks.rows,
      task.incidentId = incidentId ∧ timing task = true := by
    refine ⟨newTask incidentId app.timeoutManager.tasks.next,?_,rfl,rfl⟩
    simp only [createTask,Table.rows_push]
    exact List.mem_append_right _ (List.mem_singleton_self _)
  obtain ⟨stored,found,guard⟩ := (Option.any_eq_true ..).mp waits
  simp only [unanswered,Bool.and_eq_true,decide_eq_true_eq] at guard
  simp only [observe,found,guard.1,ne_eq,not_true_eq_false,if_false]
  cases entry : app.timeoutManager.registered.find incidentId with
  | none => exact created
  | some existing =>
    dsimp only
    split
    · rename_i runs
      obtain ⟨task,held,owner⟩ := orderly.exclusive.owned existing (Table.find_mem entry)
      have own : task.incidentId = incidentId := owner.trans (Table.find_key entry)
      rw [running,held,Option.any_some,decide_eq_true_eq] at runs
      rw [← own] at waits
      exact ⟨task,Table.find_mem held,own,unanswered_times orderly frozen waits (Table.find_mem held) runs⟩
    · exact created

theorem attended_moved {manager : ResponseTimeoutManager} {moved : ResponseTask} {phase : Phase}
    (found : manager.tasks.find moved.id = some moved) (member : task ∈ manager.tasks.rows) :
    task ∈ (moveTo manager moved.id phase).tasks.rows ∨ task = moved := by
  by_cases same : task.id = moved.id
  · have self : manager.tasks.find moved.id = some task := Table.find_iff.mpr ⟨member,same⟩
    exact .inr (Option.some.inj (self.symm.trans found))
  · exact .inl (mem_moveTo.mpr ⟨task,member,(if_neg same).symm⟩)

-- A timer only stops when its incident was answered, or because it fires and answers itself.
theorem timing_step (orderly : Orderly app) (lasts : tick.input ≠ .restart)
    (member : task ∈ app.timeoutManager.tasks.rows) (times : timing task = true)
    (before : Unanswered app.database task.incidentId)
    (after : Unanswered (step settings app tick).database task.incidentId) :
    ∃ next ∈ (step settings app tick).timeoutManager.tasks.rows, next.incidentId = task.incidentId ∧ timing next = true := by
  have advanced := step_advanced settings orderly lasts
  generalize managed : (step settings app tick).timeoutManager = manager at advanced ⊢
  cases advanced with
  | same => exact ⟨task,member,rfl,times⟩
  | @answered target accepted =>
    unfold Escalation.cancel
    cases entry : app.timeoutManager.registered.find target with
    | none => exact ⟨task,member,rfl,times⟩
    | some existing =>
      obtain ⟨holder,held,owner⟩ := orderly.exclusive.owned existing (Table.find_mem entry)
      have own : holder.incidentId = target := owner.trans (Table.find_key entry)
      by_cases same : task.id = existing.task
      · have self : app.timeoutManager.tasks.find existing.task = some task := Table.find_iff.mpr ⟨member,same⟩
        obtain rfl := Option.some.inj (held.symm.trans self)
        exact absurd (own ▸ answersFor_frozen accepted) (unanswered_thawed after)
      · have still : task ∈ (app.timeoutManager.tasks.modify existing.task cancelledTask cancelledTask_id).rows :=
          Table.mem_modify.mpr ⟨task,member,(if_neg same).symm⟩
        exact ⟨task,still,rfl,times⟩
  | observed => exact ⟨task,observe_keeps member,rfl,times⟩
  | @started moved found begins =>
    rcases attended_moved found member with still | rfl
    · exact ⟨task,still,rfl,times⟩
    · refine ⟨movedTask .sleeping task,mem_moveTo.mpr ⟨task,member,(if_pos rfl).symm⟩,rfl,?_⟩
      simp only [timing,Bool.and_eq_true] at times
      exact times.2
  | woken found freezes =>
    rcases attended_moved found member with still | rfl
    · exact ⟨task,still,rfl,times⟩
    · exact absurd freezes (unanswered_thawed after)
  | went found fires =>
    rcases attended_moved found member with still | rfl
    · exact ⟨task,still,rfl,times⟩
    · rw [fired_untimed fires] at times
      cases times
  | dropped found cancelled =>
    rcases attended_moved found member with still | rfl
    · exact ⟨task,still,rfl,times⟩
    · rw [timing,cancelled,Bool.not_true,Bool.and_false] at times
      cases times
  | ended found spent =>
    rcases attended_moved found member with still | rfl
    · exact ⟨task,still,rfl,times⟩
    · exact absurd before (spent times)

def Watched (incidentId : String) (app : App) : Prop := Unanswered app.database incidentId → Attended app incidentId

theorem watched_step (orderly : Orderly app) (frozen : FiredFrozen app) (lasts : tick.input ≠ .restart)
    (watched : Watched incidentId app) : Watched incidentId (step settings app tick) := by
  intro after
  rcases unanswered_step after with before | stored
  · rcases watched before with waiting | ⟨task,member,rfl,times⟩
    · rcases announcing_step lasts waiting with still | input
      · exact .inl still
      · obtain ⟨now,_⟩ := tick
        subst input
        refine .inr ?_
        simp only [step,announced,if_pos waiting]
        exact attended_observe orderly frozen before
    · exact .inr (timing_step orderly lasts member times before after)
  · exact .inl stored

theorem timeouts_fires (settings : Settings) {now : Time} (waits : Unanswered app.database task.incidentId) :
    timeouts (wake app now task).database task.incidentId = timeouts app.database task.incidentId + 1 := by
  obtain ⟨stored,found,guard⟩ := (Option.any_eq_true ..).mp waits
  simp only [unanswered,Bool.and_eq_true,decide_eq_true_eq] at guard
  have kept : timeouts ((app.database.updateIncidentResponse now task.incidentId .escalating (some "no_response")
      none).getD app.database) task.incidentId = timeouts app.database task.incidentId := timeouts_updated
  simp only [wake,found,guard.1,guard.2,ne_eq,not_true_eq_false,if_false,Bool.not_true,Bool.false_eq_true,
    moveTask,respond]
  have answers := response_responded settings app.database now task.incidentId task.incidentId .escalating
    (some "no_response") none
  rw [if_pos rfl,response_found found] at answers
  simp only [Effect.apply] at answers
  generalize (app.database.updateIncidentResponse now task.incidentId .escalating (some "no_response")
    none).getD app.database = updated at kept answers ⊢
  have there : (updated.getIncident task.incidentId).isSome = true := by
    rw [response] at answers
    cases stays : updated.getIncident task.incidentId with
    | none =>
      rw [stays] at answers
      cases answers
    | some row => rfl
  simp only [addEvent,there,Option.all_none,Bool.and_self,if_true,Option.getD_some]
  rw [← kept]
  unfold timeouts
  rw [Table.countP_push,if_pos]
  simp [timedOut,recordedEvent]

theorem timing_fires (settings : Settings) (found : app.timeoutManager.tasks.find task.id = some task) (times : timing task = true)
    (waits : Unanswered app.database task.incidentId) (b c : Time) :
    Frozen (run (step settings) app [⟨b,.resume task.id⟩,⟨c,.resume task.id⟩]).database task.incidentId ∧
    timeouts (run (step settings) app [⟨b,.resume task.id⟩,⟨c,.resume task.id⟩]).database task.incidentId =
      timeouts app.database task.incidentId + 1 := by
  simp only [timing,Bool.and_eq_true,Bool.or_eq_true,decide_eq_true_eq,Bool.not_eq_true'] at times
  obtain ⟨phase | phase,kept⟩ := times
  · have slept : step settings app ⟨b,.resume task.id⟩ = moveTask app task .sleeping := by
      simp only [step,resume,found,phase,kept]
    have asleep : (moveTask app task .sleeping).timeoutManager.tasks.find task.id = some (movedTask .sleeping task) := by
      simp only [moveTask,moveTo,Table.find_modify_same,found,Option.map_some]
    have woken : step settings (moveTask app task .sleeping) ⟨c,.resume task.id⟩ =
        wake (moveTask app task .sleeping) c (movedTask .sleeping task) := by
      simp only [step,resume,asleep]
      simp only [movedTask,kept]
    rw [run_cons,slept,run_cons,woken,run_nil]
    have still : Unanswered (moveTask app task .sleeping).database (movedTask .sleeping task).incidentId := waits
    exact ⟨(frozen_wake settings _ c still).2,timeouts_fires settings still⟩
  · have woken : step settings app ⟨b,.resume task.id⟩ = wake app b task := by
      simp only [step,resume,found,phase,kept]
    rw [run_cons,woken]
    have frozen := (frozen_wake settings app b waits).2
    refine ⟨?_,(timeouts_frozen frozen _).trans (timeouts_fires settings waits)⟩
    rw [run_cons,run_nil]
    exact frozen_step frozen

theorem attended_announced (orderly : Orderly app) (frozen : FiredFrozen app) (waits : Unanswered app.database incidentId)
    (attended : Attended app incidentId) : (announced app incidentId).database = app.database ∧
      ∃ task ∈ (announced app incidentId).timeoutManager.tasks.rows, task.incidentId = incidentId ∧ timing task = true := by
  unfold announced
  by_cases waiting : incidentId ∈ app.announcing
  · rw [if_pos waiting]
    exact ⟨rfl,attended_observe orderly frozen waits⟩
  · rw [if_neg waiting]
    exact ⟨rfl,attended.resolve_left waiting⟩

theorem attended_fires (settings : Settings) (orderly : Orderly app) (frozen : FiredFrozen app)
    (waits : Unanswered app.database incidentId) (attended : Attended app incidentId) : ∃ id, ∀ a b c : Time,
      Frozen (run (step settings) app [⟨a,.announced incidentId⟩,⟨b,.resume id⟩,⟨c,.resume id⟩]).database incidentId ∧
      timeouts (run (step settings) app [⟨a,.announced incidentId⟩,⟨b,.resume id⟩,⟨c,.resume id⟩]).database incidentId =
        timeouts app.database incidentId + 1 := by
  obtain ⟨same,task,member,rfl,times⟩ := attended_announced orderly frozen waits attended
  refine ⟨task.id,fun a b c => ?_⟩
  rw [← same] at waits
  have fires := timing_fires settings (Table.find_iff.mpr ⟨member,rfl⟩) times waits b c
  rw [same] at fires
  exact fires

-- In any order of the steps of one process. An incident that waited already when it began counts from its first
-- update on.
theorem unanswered_fires (settings : Settings) (database : Database) (ticks : List Tick) (incidentId : String)
    (lasts : ∀ tick ∈ ticks, tick.input ≠ .restart)
    (begins : ¬ Unanswered database incidentId ∨
      ∃ earlier, earlier <+: ticks ∧ incidentId ∈ (run (step settings) (launched database) earlier).announcing)
    (waits : Unanswered (run (step settings) (launched database) ticks).database incidentId) :
    Attended (run (step settings) (launched database) ticks) incidentId ∧
    ∃ id, ∀ a b c : Time,
      Frozen (run (step settings) (launched database)
        (ticks ++ [⟨a,.announced incidentId⟩,⟨b,.resume id⟩,⟨c,.resume id⟩])).database incidentId ∧
      timeouts (run (step settings) (launched database)
          (ticks ++ [⟨a,.announced incidentId⟩,⟨b,.resume id⟩,⟨c,.resume id⟩])).database incidentId =
        timeouts (run (step settings) (launched database) ticks).database incidentId + 1 := by
  let Sound (app : App) : Prop := Orderly app ∧ FiredFrozen app
  have launches : Sound (launched database) := ⟨orderly_launched database,fun task member => nomatch member⟩
  have sounds : ∀ app tick, tick.input ≠ .restart → Sound app → Sound (step settings app tick) :=
    fun app tick lasts sound => ⟨orderly_step sound.1,firedFrozen_step sound.1 lasts sound.2⟩
  have watches : ∀ app tick, tick.input ≠ .restart → Sound app ∧ Watched incidentId app →
      Sound (step settings app tick) ∧ Watched incidentId (step settings app tick) :=
    fun app tick lasts sound => ⟨sounds app tick lasts sound.1,watched_step sound.1.1 sound.1.2 lasts sound.2⟩
  have reached : Sound (run (step settings) (launched database) ticks) ∧
      Watched incidentId (run (step settings) (launched database) ticks) := by
    rcases begins with none | ⟨earlier,⟨later,rfl⟩,waiting⟩
    · exact invariant_along _ watches ⟨launches,fun begun => absurd begun none⟩ (along_inputs lasts)
    · have before : ∀ tick ∈ earlier, tick.input ≠ .restart := fun tick member =>
        lasts tick (List.mem_append_left _ member)
      have after : ∀ tick ∈ later, tick.input ≠ .restart := fun tick member =>
        lasts tick (List.mem_append_right _ member)
      rw [run_append]
      exact invariant_along _ watches ⟨invariant_along _ sounds launches (along_inputs before),fun _ => .inl waiting⟩
        (along_inputs after)
  obtain ⟨⟨orderly,frozen⟩,watched⟩ := reached
  obtain ⟨id,fires⟩ := attended_fires settings orderly frozen waits (watched waits)
  refine ⟨watched waits,id,fun a b c => ?_⟩
  rw [run_append]
  exact fires a b c

theorem seeded_fires : Attended (run (step demoSettings) fresh seeded) confirmedIncident.incidentId ∧
    ∃ id, ∀ a b c : Time,
      let ended := run (step demoSettings) fresh
        (seeded ++ [⟨a,.announced confirmedIncident.incidentId⟩,⟨b,.resume id⟩,⟨c,.resume id⟩])
      Frozen ended.database confirmedIncident.incidentId ∧ timeouts ended.database confirmedIncident.incidentId = 1 := by
  obtain ⟨attended,id,fires⟩ := unanswered_fires demoSettings Database.initialized seeded confirmedIncident.incidentId
    (by simp [seeded]) (.inr ⟨seeded,List.prefix_rfl,by decide +kernel⟩) (by unfold Unanswered; decide +kernel)
  have none : timeouts (run (step demoSettings) fresh seeded).database confirmedIncident.incidentId = 0 := by decide +kernel
  refine ⟨attended,id,fun a b c => ⟨(fires a b c).1,?_⟩⟩
  have once := (fires a b c).2
  rw [show launched Database.initialized = fresh from rfl,none] at once
  exact once

end Ignis.Backend
