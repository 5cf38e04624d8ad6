import Ignis.TaskExclusion

-- The response timeout.
namespace Ignis.Backend
open Tables Database Communications Escalation Runs

variable {settings : Settings} {app : App} {tick : Tick} {db : Database} {now : Time} {incidentId : String} {task : ResponseTask}

-- The timeouts on an incident's timeline. An event that the device reports has the source "qnx".
def timedOut (incidentId : String) (event : IncidentEvent) : Bool :=
  event.incidentId = incidentId && event.eventType = "NO_OCCUPANT_RESPONSE" && event.source ≠ "qnx"

def timeouts (db : Database) (incidentId : String) : ℕ := db.incidentEvents.rows.countP (timedOut incidentId)

section Timelines
variable {target eventType source : String} {monotonicNs : Option ℕ} {occurredAt : Option String}

theorem timeouts_updated {r : ResponseState} {occupantResponse : Option String} {hazardState : Option HazardState} :
    timeouts ((db.updateIncidentResponse now target r occupantResponse hazardState).getD db) incidentId =
      timeouts db incidentId := by
  unfold updateIncidentResponse
  split <;> rfl

theorem timeouts_reported {attemptId : ℕ} {report : Report} :
    timeouts ((db.updateCallAttempt now attemptId report).getD db) incidentId = timeouts db incidentId := by
  unfold updateCallAttempt
  split <;> rfl

theorem timeouts_placed : timeouts (placedCall settings db now target).1 incidentId = timeouts db incidentId := by
  unfold placedCall
  split
  · rfl
  · cases settings.callProvider with
    | mock => exact timeouts_reported
    | elevenlabs => rfl

theorem timeouts_addEvent (quiet : ∀ id, timedOut incidentId
      (recordedEvent now target eventType source monotonicNs occurredAt id) = false) :
    timeouts ((db.addEvent now target eventType source monotonicNs occurredAt).getD db) incidentId =
      timeouts db incidentId := by
  unfold addEvent
  split
  · simp only [Option.getD_some,timeouts,Table.countP_push,quiet,Bool.false_eq_true,if_false,Nat.add_zero]
  · rfl

theorem quiet_type (other : String.ofList (eventType.toList.take 80) ≠ "NO_OCCUPANT_RESPONSE") (id : ℕ) :
    timedOut incidentId (recordedEvent now target eventType source monotonicNs occurredAt id) = false := by
  simp [timedOut,recordedEvent,other]

theorem quiet_device (id : ℕ) :
    timedOut incidentId (recordedEvent now target eventType "qnx" monotonicNs occurredAt id) = false := by
  have same : String.ofList ("qnx".toList.take 40) = "qnx" := by decide
  simp only [timedOut,recordedEvent,same,ne_eq,not_true_eq_false,decide_false,Bool.and_false]

theorem quiet_other (other : target ≠ incidentId) (id : ℕ) :
    timedOut incidentId (recordedEvent now target eventType source monotonicNs occurredAt id) = false := by
  simp [timedOut,recordedEvent,other]

theorem timeouts_respond {r : ResponseState} {occupantResponse : Option String} {hazardState : Option HazardState}
    (other : String.ofList (eventType.toList.take 80) ≠ "NO_OCCUPANT_RESPONSE") :
    timeouts (respond app now target r occupantResponse hazardState eventType source) incidentId =
      timeouts app.database incidentId := by
  unfold respond
  rw [timeouts_addEvent (quiet_type other),timeouts_updated]

theorem timeouts_recordDispatch : timeouts (recordDispatch app now target).database incidentId =
    timeouts app.database incidentId := timeouts_addEvent (quiet_type (by decide))

theorem timeouts_added (db : Database) (now : Time) (target eventType source : String) (monotonicNs : Option ℕ)
    (occurredAt : Option String) (incidentId : String) :
    timeouts ((db.addEvent now target eventType source monotonicNs occurredAt).getD db) incidentId ≤
      timeouts db incidentId + 1 := by
  unfold addEvent
  split
  · simp only [Option.getD_some,timeouts,Table.countP_push]
    split <;> omega
  · simp

end Timelines

theorem timeouts_dispatched {target : String} :
    timeouts (dispatched app now target (placedCall settings app.database now target)).database incidentId =
      timeouts app.database incidentId := by
  unfold dispatched
  cases (placedCall settings app.database now target).2.2 with
  | accepted => exact timeouts_recordDispatch.trans timeouts_placed
  | raised => exact timeouts_placed
  | posting => exact timeouts_placed

theorem timeouts_dial : timeouts (dial settings app now task).database incidentId = timeouts app.database incidentId := by
  unfold dial
  split
  · rfl
  · obtain ⟨_,accepted⟩ | ⟨_,refusal,refused⟩ := requestDemoCall_cases settings app.database now task.incidentId
    · simp only [accepted,dialled]
      cases (placedCall settings app.database now task.incidentId).2.2 <;> exact timeouts_placed
    · simp only [refused]
      rfl

theorem frozen_wake (settings : Settings) (app : App) (now : Time)
    (unanswers : (app.database.getIncident task.incidentId).any unanswered = true) :
    ¬ Frozen app.database task.incidentId ∧ Frozen (wake app now task).database task.incidentId := by
  obtain ⟨stored,found,guard⟩ := (Option.any_eq_true ..).mp unanswers
  simp only [unanswered,Bool.and_eq_true,decide_eq_true_eq] at guard
  have responds := response_responded settings app.database now task.incidentId task.incidentId .escalating
    (some "no_response") none
  rw [if_pos rfl,response_found found] at responds
  have woken : rows (wake app now task).database = rows ((app.database.updateIncidentResponse now task.incidentId
      .escalating (some "no_response") none).getD app.database) := rows_wake.trans (if_pos unanswers)
  constructor
  · rw [Frozen,response_found found,guard.1]
    decide
  · rw [Frozen,response_rows woken]
    exact (congrArg (Option.any backendResponse) responds).trans rfl

theorem timeouts_wake (settings : Settings) (app : App) (now : Time) (task : ResponseTask) (incidentId : String) :
    timeouts (wake app now task).database incidentId = timeouts app.database incidentId ∨
      (¬ Frozen app.database incidentId ∧ Frozen (wake app now task).database incidentId ∧
        timeouts (wake app now task).database incidentId ≤ timeouts app.database incidentId + 1) := by
  cases unanswers : (app.database.getIncident task.incidentId).any unanswered with
  | false =>
    refine .inl ?_
    unfold wake
    split
    · rfl
    · rename_i stored found
      rw [found,Option.any_some,unanswered] at unanswers
      split
      · rfl
      · rename_i awaits
        rw [not_not] at awaits
        split
        · rfl
        · rename_i hidden
          simp [awaits] at unanswers hidden
          rw [unanswers] at hidden
          cases hidden
  | true =>
    have writes : timeouts (wake app now task).database incidentId = timeouts (respond app now task.incidentId .escalating
        (some "no_response") none "NO_OCCUPANT_RESPONSE" "backend_timeout") incidentId := by
      obtain ⟨stored,found,guard⟩ := (Option.any_eq_true ..).mp unanswers
      simp only [unanswered,Bool.and_eq_true,decide_eq_true_eq] at guard
      simp only [wake,found,guard.1,guard.2,ne_eq,not_true_eq_false,if_false,Bool.not_true,Bool.false_eq_true]
      rfl
    rw [writes]
    by_cases own : task.incidentId = incidentId
    · subst own
      obtain ⟨thawed,frozen⟩ := frozen_wake settings app now unanswers
      refine .inr ⟨thawed,frozen,?_⟩
      unfold respond
      refine (timeouts_added _ _ _ _ _ _ _ _).trans ?_
      rw [timeouts_updated]
    · refine .inl ?_
      unfold respond
      rw [timeouts_addEvent (quiet_other own),timeouts_updated]

theorem timeouts_resume (settings : Settings) (app : App) (now : Time) (id : ℕ) (incidentId : String) :
    timeouts (resume settings app now id).database incidentId = timeouts app.database incidentId ∨
      (¬ Frozen app.database incidentId ∧ Frozen (resume settings app now id).database incidentId ∧
        timeouts (resume settings app now id).database incidentId ≤ timeouts app.database incidentId + 1) := by
  unfold resume
  cases app.timeoutManager.tasks.find id with
  | none => exact .inl rfl
  | some task =>
    dsimp only
    cases task.phase <;> cases task.cancelled
    case sleeping.false => exact timeouts_wake settings app now task incidentId
    case announcing.false => exact .inl timeouts_dial
    all_goals exact .inl rfl

theorem timeouts_providerAnswered (attemptId : ℕ) (answer : ProviderAnswer) :
    timeouts (providerAnswered app now attemptId answer).database incidentId = timeouts app.database incidentId := by
  have answered : timeouts (finishDemoCall app.database now attemptId answer) incidentId =
      timeouts app.database incidentId := by
    unfold finishDemoCall
    cases answer.report with
    | none => rfl
    | some report => exact timeouts_reported
  unfold providerAnswered
  cases app.calls.find attemptId with
  | none => rfl
  | some call =>
    dsimp only
    cases call.caller with
    | none =>
      cases answer.outcome with
      | result => exact timeouts_recordDispatch.trans answered
      | refused error => exact answered
      | raised => exact answered
    | some id =>
      dsimp only
      cases app.timeoutManager.tasks.find id with
      | none => rfl
      | some task =>
        dsimp only
        split
        · rfl
        · cases answer.outcome <;> exact answered

theorem timeouts_packet (hello : Hello) (packet : DevicePacket) :
    timeouts (orUnchanged app (dispatch app now hello packet)).database incidentId = timeouts app.database incidentId := by
  cases packet with
  | incidentUpdate data =>
    simp only [dispatch,upsertIncident]
    cases app.armed with
    | false => rfl
    | true =>
      cases fitsInteger data.firstDetectionMonotonicNs && fitsInteger data.updatedMonotonicNs <;> rfl
  | timelineEvent data =>
    simp only [dispatch]
    cases app.database.getIncident data.incidentId with
    | none => rfl
    | some stored =>
      have same : timeouts ((app.database.addEvent now data.incidentId (data.eventType.getD "DEVICE_EVENT") "qnx"
          (some data.monotonicNs) data.wallTimeUtc).getD app.database) incidentId = timeouts app.database incidentId :=
        timeouts_addEvent quiet_device
      cases added : app.database.addEvent now data.incidentId (data.eventType.getD "DEVICE_EVENT") "qnx"
        (some data.monotonicNs) data.wallTimeUtc with
      | none => rfl
      | some later =>
        rw [added] at same
        exact same
  | invalidUpdate error => rw [dispatch_invalidUpdate]
  | _ => rfl

theorem timeouts_step (settings : Settings) (app : App) (tick : Tick) (incidentId : String) :
    timeouts (step settings app tick).database incidentId = timeouts app.database incidentId ∨
      (¬ Frozen app.database incidentId ∧ Frozen (step settings app tick).database incidentId ∧
        timeouts (step settings app tick).database incidentId ≤ timeouts app.database incidentId + 1) := by
  obtain ⟨now,input⟩ := tick
  cases input with
  | putArming allowed armed => cases allowed <;> exact .inl rfl
  | confirm allowed target source =>
    obtain ⟨_,accepted⟩ | ⟨_,refusal,refused⟩ := confirm_cases app now allowed target source
    · simp only [step,accepted]
      exact .inl (timeouts_respond (by decide))
    · simp only [step,refused]
      exact .inl rfl
  | cancel allowed target reason source =>
    obtain ⟨_,accepted⟩ | ⟨_,refusal,refused⟩ := cancel_cases app now allowed target reason source
    · simp only [step,accepted]
      exact .inl (timeouts_respond (by decide))
    · simp only [step,refused]
      exact .inl rfl
  | reset allowed target =>
    obtain ⟨_,_,_,accepted⟩ | ⟨_,refusal,refused⟩ := reset_cases app now allowed target
    · simp only [step,accepted]
      exact .inl (timeouts_respond (by decide))
    · simp only [step,refused]
      exact .inl rfl
  | callDemoDispatch allowed target =>
    obtain ⟨_,accepted⟩ | ⟨_,refusal,refused⟩ := callDemoDispatch_cases settings app now allowed target
    · simp only [step,accepted]
      exact .inl timeouts_dispatched
    · simp only [step,refused]
      exact .inl rfl
  | providerCallStatus secret body =>
    simp only [step,providerCallStatus]
    cases authenticateProviderWebhook settings secret with
    | none => exact .inl rfl
    | some authentic =>
      cases authentic with
      | false => exact .inl rfl
      | true =>
        cases app.database.findAttemptForIncident body.incidentId with
        | none => exact .inl rfl
        | some attempt => exact .inl timeouts_reported
  | providerAnswered attemptId answer => exact .inl (timeouts_providerAnswered attemptId answer)
  | packet hello packet => exact .inl (timeouts_packet hello packet)
  | announced target =>
    simp only [step,announced]
    split <;> exact .inl rfl
  | resume id => exact timeouts_resume settings app now id incidentId
  | restart => exact .inl rfl

def FiredOnce (incidentId : String) (app : App) : Prop :=
  timeouts app.database incidentId ≤ 1 ∧ (0 < timeouts app.database incidentId → Frozen app.database incidentId)

theorem firedOnce_step (fired : FiredOnce incidentId app) : FiredOnce incidentId (step settings app tick) := by
  obtain ⟨once,frozen⟩ := fired
  rcases timeouts_step settings app tick incidentId with same | ⟨thawed,freezes,more⟩
  · refine ⟨same.trans_le once,?_⟩
    rw [same]
    exact fun counted => frozen_step (frozen counted)
  · have none_yet : timeouts app.database incidentId = 0 := by
      by_contra counted
      exact thawed (frozen (Nat.pos_of_ne_zero counted))
    exact ⟨by omega,fun _ => freezes⟩

theorem timeouts_frozen (frozen : Frozen app.database incidentId) (later : List Tick) :
    timeouts (run (step settings) app later).database incidentId = timeouts app.database incidentId := by
  induction later generalizing app with
  | nil => rfl
  | cons tick rest ih =>
    rw [run_cons,ih (frozen_step frozen)]
    rcases timeouts_step settings app tick incidentId with same | ⟨thawed,_,_⟩
    · exact same
    · exact absurd frozen thawed

theorem timeout_fires_once (settings : Settings) (ticks : List Tick) (incidentId : String) :
    timeouts (run (step settings) fresh ticks).database incidentId ≤ 1 ∧
    (∀ earlier tick later, ticks = earlier ++ tick :: later →
      answersFor (run (step settings) fresh earlier) tick = some incidentId →
      timeouts (run (step settings) fresh ticks).database incidentId =
        timeouts (run (step settings) fresh (earlier ++ [tick])).database incidentId) ∧
    ∀ a ∈ (run (step settings) fresh ticks).timeoutManager.tasks.rows,
      ∀ b ∈ (run (step settings) fresh ticks).timeoutManager.tasks.rows,
        a.incidentId = incidentId → b.incidentId = incidentId → live a = true → live b = true → a = b := by
  have fired : FiredOnce incidentId (run (step settings) fresh ticks) :=
    invariant (FiredOnce incidentId) (fun _ _ => firedOnce_step) ⟨Nat.zero_le _,fun counted => absurd counted (Nat.lt_irrefl 0)⟩
  have orderly : Orderly (run (step settings) fresh ticks) := invariant Orderly (fun _ _ => orderly_step) (orderly_launched _)
  refine ⟨fired.1,?_,?_⟩
  · rintro earlier tick later rfl accepted
    have frozen : Frozen (run (step settings) fresh (earlier ++ [tick])).database incidentId := by
      rw [run_snoc]
      exact answersFor_frozen accepted
    have joined : earlier ++ tick :: later = (earlier ++ [tick]) ++ later := by simp
    rw [joined,run_append]
    exact timeouts_frozen frozen later
  · intro a first b second ofA ofB liveA liveB
    exact orderly.exclusive.alone first second liveA liveB (ofA.trans ofB.symm)

-- Nobody answers: the task of the incident starts, sleeps, and announces that it fired.
def silentIncident : List Tick :=
  seeded ++ [⟨1000000,.announced confirmedIncident.incidentId⟩,⟨1000000,.resume 1⟩,⟨31000000,.resume 1⟩]

example : timeouts (run (step demoSettings) fresh silentIncident).database confirmedIncident.incidentId = 1 := by
  decide +kernel

end Ignis.Backend
