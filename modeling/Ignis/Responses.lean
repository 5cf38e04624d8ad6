import Ignis.BackendRecords

-- Who may overwrite the response of an incident that was cancelled, or whose call was connected: in
-- both cases exactly one kind of input, and nothing guards against it.
namespace Ignis.Backend
open Tables Database Communications Escalation Runs

variable {settings : Settings} {app next : App} {now : Time} {incidentId : String} {tick : Tick}

def storesReport (settings : Settings) (app : App) (tick : Tick) (incidentId : String) : Bool :=
  match effect settings app tick with
  | .reported attemptId _ =>
    (app.database.callAttempts.find attemptId).any fun attempt => attempt.incidentId = incidentId
  | _ => false

theorem response_found {stored : IncidentRow} (found : app.database.getIncident incidentId = some stored) :
    response app.database incidentId = some stored.responseState := by
  rw [response,found]; rfl

theorem response_step : response (step settings app tick).database incidentId =
    response ((effect settings app tick).apply settings app.database tick.now) incidentId :=
  viewed_step settings app tick incidentId

theorem reported_response {attemptId : ℕ} {report : Report} (same : effect settings app tick = .reported attemptId report)
    (reports : storesReport settings app tick incidentId = true) (known : response app.database incidentId ≠ none) :
    ∃ r, responseOfStatus report.status = some r ∧
      response (step settings app tick).database incidentId = some r := by
  have caused := effect_caused settings app tick
  rw [same] at caused
  simp only [storesReport,same] at reports
  obtain ⟨attempt,found,owner⟩ := (Option.any_eq_true ..).mp reports
  have owner : attempt.incidentId = incidentId := by simpa using owner
  rw [response_step,same]
  obtain ⟨other,r,found',maps,_,after⟩ | ⟨lost | unmapped,_⟩ :=
    reported_cases settings app.database tick.now attemptId report
  · obtain rfl : attempt = other := Option.some.inj (found.symm.trans found')
    refine ⟨r,maps,?_⟩
    rw [after,if_pos owner.symm]
    cases stored : response app.database incidentId with
    | none => exact absurd stored known
    | some _ => rfl
  · rw [lost] at found; cases found
  · exact absurd unmapped (reported_status caused)

theorem unreported_response {attemptId : ℕ} {report : Report}
    (same : effect settings app tick = .reported attemptId report)
    (silent : storesReport settings app tick incidentId = false) :
    response (step settings app tick).database incidentId = response app.database incidentId := by
  rw [response_step,same]
  obtain ⟨attempt,r,found,_,_,after⟩ | ⟨_,unchanged⟩ := reported_cases settings app.database tick.now attemptId report
  · have other : incidentId ≠ attempt.incidentId := by
      intro owner
      simp [storesReport,same,found,owner] at silent
    rw [after,if_neg other]
  · rw [unchanged]

theorem responseOfStatus_provider {status : CallStatus} {r : ResponseState} (maps : responseOfStatus status = some r) :
    r ≠ .cancelled := by
  cases status <;> cases maps <;> simp

-- One step from a cancelled incident: confirm refuses it, cancel and reset keep it, a
-- timer and the call policy pass it over, and a device update does not replace it.
theorem cancelled_step (held : response app.database incidentId = some .cancelled) :
    response (step settings app tick).database incidentId = some .cancelled ↔
      storesReport settings app tick incidentId = false := by
  have caused := effect_caused settings app tick
  cases same : effect settings app tick with
  | reported attemptId report =>
    constructor
    · intro kept
      cases reports : storesReport settings app tick incidentId
      · rfl
      · obtain ⟨r,maps,after⟩ := reported_response same reports (by simp [held])
        rw [kept] at after
        cases after
        exact absurd rfl (responseOfStatus_provider maps)
    · intro silent
      rw [unreported_response same silent,held]
  | nothing => simp [storesReport,same,response_step,Effect.apply,held]
  | upserted data deviceId bootId =>
    simp only [storesReport,same,iff_true,response_step]
    obtain keeps | ⟨_,merged⟩ := response_upserted settings app.database tick.now incidentId data deviceId bootId
    · rw [keeps,held]
    · rw [merged,held]; rfl
  | responded target r occupantResponse hazardState =>
    simp only [storesReport,same,iff_true,response_step,response_responded]
    split
    · rename_i own
      subst own
      rw [same] at caused
      rw [held,Option.map_some]
      cases caused with
      | confirm found guard =>
        have stored := Option.some.inj ((response_found found).symm.trans held)
        simp [confirmable,stored] at guard
      | cancel found guard => rfl
      | reset found guard => exact (response_found found).symm.trans held
      | wake runs found guard =>
        have stored := Option.some.inj ((response_found found).symm.trans held)
        simp [unanswered,stored] at guard
    · exact held
  | called target =>
    simp only [storesReport,same,iff_true,response_step]
    obtain ⟨r,_,after⟩ := response_called settings app.database tick.now target
    rw [after]
    split
    · rename_i own
      subst own
      rw [same] at caused
      have gate := called_callable caused
      obtain ⟨stored,found,eligible⟩ := callable_incident gate
      have cancelled := Option.some.inj ((response_found found).symm.trans held)
      simp [Database.eligible,cancelled] at eligible
    · exact held

theorem cancel_kept_iff (settings : Settings) (before : List Tick) (now : Time) (allowed : Bool) (incidentId : String)
    (reason : CancelReason) (source : Source) (next : App) (later : List Tick)
    (accepted : cancel (run (step settings) fresh before) now allowed incidentId reason source = .ok next) :
    Throughout (step settings) (fun app => response app.database incidentId = some .cancelled) next later ↔
      Along (step settings) (fun app tick => storesReport settings app tick incidentId = false) next later := by
  have start : response next.database incidentId = some .cancelled := by
    obtain ⟨gate,same⟩ | ⟨_,refusal,refused⟩ :=
      cancel_cases (run (step settings) fresh before) now allowed incidentId reason source
    · rw [accepted] at same
      obtain rfl := Except.ok.inj same
      obtain ⟨stored,found,_⟩ := (Option.any_eq_true ..).mp (Bool.and_eq_true_iff.mp gate).2
      have after := response_responded settings (run (step settings) fresh before).database now incidentId incidentId
        .cancelled (some reason.text) none
      rw [if_pos rfl,response_found found] at after
      exact (response_rows rows_respond).trans after
    · rw [refused] at accepted; cases accepted
  exact throughout_iff_along (fun _ => True) (fun _ _ _ => trivial)
    (fun app tick _ held => cancelled_step held) trivial start

-- The provider accepts the call of an incident that was cancelled while it waited.
def placedThenCancelled : List Tick := seeded ++ [⟨2000000,.callDemoDispatch true confirmedIncident.incidentId⟩]
def lateAnswer : Tick := ⟨4000000,.providerAnswered 1 (.response 200 (some (some "conversation",some "sid")))⟩

theorem cancel_kept_idle : ∃ next,
    cancel (run (step demoSettings) fresh seeded) 3000000 true confirmedIncident.incidentId .falseAlarm .manual = .ok next ∧
    (Throughout (step demoSettings) (fun app => response app.database confirmedIncident.incidentId = some .cancelled)
        next [lateAnswer] ↔
      Along (step demoSettings) (fun app tick => storesReport demoSettings app tick confirmedIncident.incidentId = false)
        next [lateAnswer]) := by
  obtain ⟨_,accepted⟩ | ⟨closed,_⟩ := cancel_cases (run (step demoSettings) fresh seeded) 3000000 true
    confirmedIncident.incidentId .falseAlarm .manual
  · exact ⟨_,accepted,cancel_kept_iff demoSettings seeded 3000000 true confirmedIncident.incidentId .falseAlarm .manual _
      [lateAnswer] accepted⟩
  · exact absurd closed (by decide +kernel)

theorem cancel_lost : ∃ next,
    cancel (run (step demoSettings) fresh placedThenCancelled) 3000000 true confirmedIncident.incidentId .falseAlarm
      .manual = .ok next ∧
    ¬ Throughout (step demoSettings) (fun app => response app.database confirmedIncident.incidentId = some .cancelled)
      next [lateAnswer] := by
  obtain ⟨_,accepted⟩ | ⟨closed,_⟩ := cancel_cases (run (step demoSettings) fresh placedThenCancelled) 3000000 true
    confirmedIncident.incidentId .falseAlarm .manual
  · refine ⟨_,accepted,fun kept => ?_⟩
    have last := kept.last
    revert last
    decide +kernel
  · exact absurd closed (by decide +kernel)

def movesOn (settings : Settings) (app : App) (tick : Tick) (incidentId : String) : Bool :=
  match tick.input with
  | .confirm allowed target _ => allowed && target = incidentId && (app.database.getIncident target).any confirmable
  | .callDemoDispatch allowed target =>
    allowed && target = incidentId && app.armed && callable settings app.database tick.now target
  | .resume id => dials settings app tick.now id = some incidentId
  | _ => false

theorem movesOn_effect (moves : movesOn settings app tick incidentId = true) :
    effect settings app tick = .responded incidentId .escalating (some "confirmed") none ∨
      effect settings app tick = .called incidentId := by
  obtain ⟨now,input⟩ := tick
  cases input with
  | confirm allowed target source =>
    simp only [movesOn,Bool.and_eq_true,decide_eq_true_eq] at moves
    obtain ⟨⟨rfl,rfl⟩,accepted⟩ := moves
    exact .inl (by simp [effect,accepted])
  | callDemoDispatch allowed target =>
    simp only [movesOn,Bool.and_eq_true,decide_eq_true_eq] at moves
    obtain ⟨⟨⟨rfl,rfl⟩,armed⟩,gate⟩ := moves
    exact .inr (by simp [effect,armed,gate])
  | resume id =>
    simp only [movesOn,decide_eq_true_eq] at moves
    exact .inr (by simp [effect,moves])
  | _ => cases moves

theorem connected_step {r : ResponseState} (isConnected : connected r = true)
    (silent : storesReport settings app tick incidentId = false) (held : response app.database incidentId = some r) :
    response (step settings app tick).database incidentId = some r ↔ movesOn settings app tick incidentId = false := by
  have caused := effect_caused settings app tick
  have rests (notConfirmed : effect settings app tick ≠ .responded incidentId .escalating (some "confirmed") none)
      (notCalled : effect settings app tick ≠ .called incidentId) : movesOn settings app tick incidentId = false := by
    cases moves : movesOn settings app tick incidentId
    · rfl
    · exact ((movesOn_effect moves).elim notConfirmed notCalled).elim
  cases same : effect settings app tick with
  | nothing =>
    simp [rests (by simp [same]) (by simp [same]),response_step,same,Effect.apply,held]
  | reported attemptId report =>
    simp [rests (by simp [same]) (by simp [same]),unreported_response same silent,held]
  | upserted data deviceId bootId =>
    simp only [rests (by simp [same]) (by simp [same]),iff_true,response_step,same]
    obtain keeps | ⟨_,merged⟩ := response_upserted settings app.database tick.now incidentId data deviceId bootId
    · rw [keeps,held]
    · have backend : backendResponse r = true := by cases r <;> simp [connected] at isConnected <;> rfl
      rw [merged,held]
      simp [backend]
  | responded target r' occupantResponse hazardState =>
    rw [response_step,same,response_responded]
    by_cases own : incidentId = target
    · subst own
      rw [same] at caused
      rw [if_pos rfl,held,Option.map_some]
      cases caused with
      | confirm found guard =>
        have different : ResponseState.escalating ≠ r := by
          rintro rfl
          cases isConnected
        simp [movesOn,found,guard,different]
      | cancel found guard =>
        have stored := Option.some.inj ((response_found found).symm.trans held)
        simp [cancellable,stored,isConnected] at guard
      | reset found guard =>
        have stored := Option.some.inj ((response_found found).symm.trans held)
        simp [movesOn,stored]
      | wake runs found guard =>
        have stored := Option.some.inj ((response_found found).symm.trans held)
        subst stored
        simp only [unanswered,Bool.and_eq_true,decide_eq_true_eq] at guard
        rw [guard.1] at isConnected
        cases isConnected
    · rw [if_neg own]
      simp only [held,rests (by simp [same,Ne.symm own]) (by simp [same])]
  | called target =>
    rw [response_step,same]
    obtain ⟨r',started,after⟩ := response_called settings app.database tick.now target
    rw [after]
    by_cases own : incidentId = target
    · subst own
      rw [if_pos rfl,held,Option.map_some]
      have different : r' ≠ r := by
        rintro rfl
        rcases started with rfl | rfl <;> cases isConnected
      have moves : movesOn settings app tick incidentId = true := by
        rw [same] at caused
        cases caused with
        | dispatch armed gate => simp [movesOn,armed,gate]
        | dial dialling gate => simp [movesOn,dialling]
      simp [moves,different]
    · rw [if_neg own]
      simp only [held,rests (by simp [same]) (by simp [same,Ne.symm own])]

-- While the provider reports nothing more: exactly when no confirmation is accepted and no other call is let
-- through.
theorem connected_kept_iff (settings : Settings) (before later : List Tick) (incidentId : String) (r : ResponseState)
    (isConnected : connected r = true)
    (reached : response (run (step settings) fresh before).database incidentId = some r)
    (silent : Along (step settings) (fun app tick => storesReport settings app tick incidentId = false)
      (run (step settings) fresh before) later) :
    Throughout (step settings) (fun app => response app.database incidentId = some r)
        (run (step settings) fresh before) later ↔
      Along (step settings) (fun app tick => movesOn settings app tick incidentId = false)
        (run (step settings) fresh before) later :=
  throughout_iff_within (fun _ => True) (fun _ _ _ _ => trivial)
    (fun _ _ quiet _ held => connected_step isConnected quiet held) silent trivial reached

-- The provider reports the call as connected, and the occupant confirms once more.
def connectedCall : List Tick := placedThenCancelled ++ [lateAnswer,webhook 5000000 .connected]
def confirmAgain : Tick := ⟨6000000,.confirm true confirmedIncident.incidentId .manual⟩
def cancelAfter : Tick := ⟨7000000,.cancel true confirmedIncident.incidentId .falseAlarm .manual⟩

theorem connected_refuses_cancel :
    Throughout (step demoSettings) (fun app => response app.database confirmedIncident.incidentId = some .callConnected)
        (run (step demoSettings) fresh connectedCall) [cancelAfter] ↔
      Along (step demoSettings) (fun app tick => movesOn demoSettings app tick confirmedIncident.incidentId = false)
        (run (step demoSettings) fresh connectedCall) [cancelAfter] := by
  apply connected_kept_iff
  · rfl
  · decide +kernel
  · decide +kernel

theorem connected_undone :
    response (run (step demoSettings) fresh connectedCall).database confirmedIncident.incidentId = some .callConnected ∧
    Along (step demoSettings) (fun app tick => storesReport demoSettings app tick confirmedIncident.incidentId = false)
      (run (step demoSettings) fresh connectedCall) [confirmAgain,cancelAfter] ∧
    response (run (step demoSettings) fresh (connectedCall ++ [confirmAgain,cancelAfter])).database
      confirmedIncident.incidentId = some .cancelled := by
  refine ⟨by decide +kernel,by decide +kernel,by decide +kernel⟩

end Ignis.Backend
