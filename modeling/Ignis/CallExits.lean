import Ignis.CallIds

-- The ways in which `request_demo_call` ends once it has reserved an attempt, and what each leaves of
-- the attempt.
namespace Ignis.Backend
open Tables Database Communications Runs

inductive HttpException where
  | timeoutException | httpError | cancelledError | other

-- A value of the body under one of the two names. `str` is made of what is not falsy, and SQLite
-- takes no text with a lone surrogate in it.
inductive Identifier where
  | falsy
  | text (value : String)
  | unencodable

inductive Body where
  | undecodable
  | notObject
  | object (conversationId callSid : Identifier)

-- How `await self.client.post` ends, the cancellation of the waiting task included.
inductive Client where
  | response (statusCode : ℕ) (body : Body)
  | raises (exception : HttpException)

def Identifier.stored : Identifier → Option (Option String)
  | .falsy => some none
  | .text value => some (some value)
  | .unencodable => none

def Body.ids : Body → Option (Option String × Option String)
  | .undecodable => none
  | .notObject => none
  | .object conversationId callSid =>
    match conversationId.stored,callSid.stored with
    | some conversation,some sid => some (conversation,sid)
    | _,_ => none

def Client.answer : Client → ProviderAnswer
  | .response statusCode body => .response statusCode body.ids
  | .raises .timeoutException => .timeout
  | .raises .httpError => .connectionError
  | .raises .cancelledError => .raised
  | .raises .other => .raised

def Client.handled : Client → Bool
  | .response statusCode body => 400 ≤ statusCode || body.ids.isSome
  | .raises .timeoutException => true
  | .raises .httpError => true
  | .raises .cancelledError => false
  | .raises .other => false

-- A whole execution: other statements run while it waits for the client. Nothing is given back
-- where no attempt was reserved, else the attempt and the tables at the end.
def executed (settings : Settings) (db : Database) (now : Time) (incidentId : String) (others : List (Time × Operation))
    (later : Time) (client : Client) : Option (ℕ × Database) :=
  match requestDemoCall settings db now incidentId with
  | .error _ => none
  | .ok (reserved,attemptId,progress) =>
    match progress with
    | .accepted => some (attemptId,reserved)
    | .raised => some (attemptId,reserved)
    | .posting => some (attemptId,finishDemoCall (run Operation.store reserved others) later attemptId client.answer)

def Reported (db : Database) (attemptId : ℕ) : Prop :=
  ∃ attempt, db.callAttempts.find attemptId = some attempt ∧ attempt.status ≠ .requested

def overtaken (db : Database) (now : Time) (incidentId : String) (others : List (Time × Operation)) : Bool :=
  ((run Operation.store (db.reservedCall now incidentId) others).callAttempts.find db.callAttempts.next).any
    fun attempt => attempt.status ≠ .requested

variable {settings : Settings} {db : Database} {now later : Time} {incidentId : String} {attemptId : ℕ}
variable {others : List (Time × Operation)} {client : Client}

theorem attempt_stays (db : Database) (operation : Time × Operation) (there : (db.callAttempts.find attemptId).isSome = true) :
    ((Operation.store db operation).callAttempts.find attemptId).isSome = true := by
  cases callWrite_store db operation with
  | framed attempts =>
    rw [attempts]
    exact there
  | reserved k _ row =>
    obtain ⟨attempt,found⟩ := Option.isSome_iff_exists.mp there
    rw [row,reserved_find found]
    rfl
  | reported other report attempt reports =>
    rw [reports.attempts,Table.find_modify]
    split
    · rename_i same
      rw [Option.isSome_map,← same]
      exact there
    · exact there

theorem handled_iff : client.handled = true ↔ ∃ report, client.answer.report = some report := by
  cases client with
  | response statusCode body =>
    simp only [Client.handled,Client.answer,ProviderAnswer.report]
    by_cases rejected : 400 ≤ statusCode
    · rw [if_pos rejected]
      exact iff_of_true (by simp [rejected]) ⟨_,rfl⟩
    · rw [if_neg rejected]
      cases body.ids with
      | none => simp [rejected]
      | some ids => exact iff_of_true (by simp) ⟨_,rfl⟩
  | raises exception =>
    cases exception with
    | timeoutException => exact iff_of_true rfl ⟨_,rfl⟩
    | httpError => exact iff_of_true rfl ⟨_,rfl⟩
    | cancelledError =>
      refine iff_of_false Bool.false_ne_true ?_
      rintro ⟨report,stored⟩
      cases stored
    | other =>
      refine iff_of_false Bool.false_ne_true ?_
      rintro ⟨report,stored⟩
      cases stored

theorem finished_reported {waiting : Database} (there : (waiting.callAttempts.find attemptId).isSome = true) :
    Reported (finishDemoCall waiting later attemptId client.answer) attemptId ↔
      client.handled = true ∨ Reported waiting attemptId := by
  obtain ⟨attempt,found⟩ := Option.isSome_iff_exists.mp there
  unfold finishDemoCall
  cases stored : client.answer.report with
  | none =>
    have unhandled : ¬ client.handled = true := by
      rw [handled_iff,stored]
      rintro ⟨report,nothing⟩
      cases nothing
    simp [unhandled]
  | some report =>
    have handled : client.handled = true := handled_iff.mpr ⟨report,stored⟩
    obtain ⟨responseState,maps⟩ : ∃ responseState, responseOfStatus report.status = some responseState := by
      rcases report_statuses stored with status | status | status
      all_goals
        rw [status]
        exact ⟨_,rfl⟩
    refine iff_of_true ⟨reportedAttempt later report attempt,?_,report_status stored⟩ (.inl handled)
    simp only [updateCallAttempt,found,maps,Option.getD_some]
    rw [Table.find_modify_same,found]
    rfl

theorem reported_iff : Reported (run Operation.store (db.reservedCall now incidentId) others) db.callAttempts.next ↔
    overtaken db now incidentId others = true := by
  unfold Reported overtaken
  cases (run Operation.store (db.reservedCall now incidentId) others).callAttempts.find db.callAttempts.next with
  | none => exact iff_of_false (fun ⟨_,found,_⟩ => nomatch found) Bool.false_ne_true
  | some attempt => simp

theorem reserved_unreported : ¬ Reported (db.reservedCall now incidentId) db.callAttempts.next := by
  rintro ⟨attempt,found,status⟩
  rw [reserved_attempt] at found
  cases found
  exact status rfl

theorem mock_reported (conversationId : Option String) :
    Reported (((db.reservedCall now incidentId).updateCallAttempt now db.callAttempts.next (initiated conversationId none)).getD
      (db.reservedCall now incidentId)) db.callAttempts.next := by
  refine ⟨reportedAttempt now (initiated conversationId none) (requestedAttempt now incidentId db.callAttempts.next),?_,?_⟩
  · simp only [updateCallAttempt,reserved_attempt,initiated,responseOfStatus,Option.getD_some]
    rw [Table.find_modify_same,reserved_attempt]
    rfl
  · intro same
    cases same

theorem reserved_stays (others : List (Time × Operation)) :
    ((run Operation.store (db.reservedCall now incidentId) others).callAttempts.find db.callAttempts.next).isSome = true := by
  refine invariant (fun waiting : Database => (waiting.callAttempts.find db.callAttempts.next).isSome = true) ?_ ?_
  · exact fun waiting operation => attempt_stays waiting operation
  · rw [reserved_attempt]
    rfl

-- For every incident, all other traffic and every behaviour of the client.
theorem call_settled_iff (settings : Settings) (db : Database) (now : Time) (incidentId : String)
    (others : List (Time × Operation)) (later : Time) (client : Client) {attemptId : ℕ} {after : Database}
    (ended : executed settings db now incidentId others later client = some (attemptId,after)) :
    Reported after attemptId ↔ (db.getIncident incidentId).any contextRaises = false ∧
      (settings.callProvider = .mock ∨ client.handled = true ∨ overtaken db now incidentId others = true) := by
  unfold executed at ended
  obtain ⟨_,placed⟩ | ⟨_,refusal,refused⟩ := requestDemoCall_cases settings db now incidentId
  · rw [placed,placedCall] at ended
    by_cases raises : (db.getIncident incidentId).any contextRaises = true
    · -- The context is made after the reservation, so the new attempt stays as it is.
      rw [if_pos raises] at ended
      cases ended
      refine iff_of_false reserved_unreported ?_
      rintro ⟨made,_⟩
      rw [raises] at made
      cases made
    · rw [if_neg raises] at ended
      rw [Bool.not_eq_true] at raises
      cases provider : settings.callProvider with
      | mock =>
        rw [provider] at ended
        cases ended
        exact iff_of_true (mock_reported _) ⟨raises,.inl rfl⟩
      | elevenlabs =>
        rw [provider] at ended
        cases ended
        rw [finished_reported (reserved_stays others),reported_iff]
        simp [raises]
  · rw [refused] at ended
    cases ended

def called (client : Client) : Option (ℕ × Database) :=
  executed demoSettings (run (step demoSettings) fresh seeded).database 2000000 confirmedIncident.incidentId [] 3000000 client

theorem accepted_call_settled : ∃ done, called (.response 200 (.object (.text "conversation") .falsy)) = some done ∧
    (Reported done.2 done.1 ↔
      ((run (step demoSettings) fresh seeded).database.getIncident confirmedIncident.incidentId).any contextRaises = false ∧
        (demoSettings.callProvider = .mock ∨
          (Client.response 200 (.object (.text "conversation") .falsy)).handled = true ∨
          overtaken (run (step demoSettings) fresh seeded).database 2000000 confirmedIncident.incidentId [] = true)) := by
  have ends : (called (.response 200 (.object (.text "conversation") .falsy))).isSome = true := by decide +kernel
  obtain ⟨done,ended⟩ := Option.isSome_iff_exists.mp ends
  exact ⟨done,ended,call_settled_iff demoSettings (run (step demoSettings) fresh seeded).database 2000000
    confirmedIncident.incidentId [] 3000000 (.response 200 (.object (.text "conversation") .falsy)) ended⟩

-- The provider accepts with a body that is no JSON, or the waiting task is cancelled.
theorem call_left_requested :
    (∃ done, called (.response 200 .undecodable) = some done ∧ ¬ Reported done.2 done.1) ∧
    (∃ done, called (.raises .cancelledError) = some done ∧ ¬ Reported done.2 done.1) := by
  have left : ∀ client, (called client).map (fun done => (done.2.callAttempts.find done.1).map CallAttempt.status) =
      some (some .requested) → ∃ done, called client = some done ∧ ¬ Reported done.2 done.1 := by
    intro client shows
    obtain ⟨done,ended,status⟩ := Option.map_eq_some_iff.mp shows
    refine ⟨done,ended,?_⟩
    rintro ⟨attempt,found,moved⟩
    rw [found,Option.map_some,Option.some.injEq] at status
    exact moved status
  exact ⟨left _ (by decide +kernel),left _ (by decide +kernel)⟩

end Ignis.Backend
