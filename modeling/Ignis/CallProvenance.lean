import Ignis.Silencing

-- The provider's webhook can tell of a connected call, and so can the device while its word counts.
namespace Ignis.Backend
open Tables Database Communications Escalation Runs

variable {settings : Settings} {app : App} {tick : Tick} {seen : List String} {incidentId : String}

def notified (settings : Settings) (app : App) (tick : Tick) : Option String :=
  match tick.input with
  | .providerCallStatus secret body =>
    if authenticateProviderWebhook settings secret = some true && body.status ≠ .failed &&
      (app.database.findAttemptForIncident body.incidentId).isSome then some body.incidentId else none
  | _ => none

def noteWebhook (settings : Settings) (app : App) (tick : Tick) (seen : List String) : List String :=
  (notified settings app tick).toList ++ seen

def ProviderSaid (state : App × List String) : Prop :=
  ∀ incidentId, (response state.1.database incidentId).any connected = true → incidentId ∈ state.2

def introduces (app : App) (tick : Tick) : Bool :=
  match tick.input with
  | .packet hello (.incidentUpdate data) =>
    app.armed && DeviceUpdate.storable ⟨data,hello⟩ && connected data.responseState && !Frozen app.database data.incidentId
  | _ => false

structure Noted (state : App × List String) : Prop where
  attempts : AttemptsConfirmed state.1.database
  frozen : ∀ incidentId ∈ state.2, Frozen state.1.database incidentId

theorem findAttempt_found {db : Database} {attempt : CallAttempt} (found : db.findAttemptForIncident incidentId = some attempt) :
    db.callAttempts.find attempt.id = some attempt ∧ attempt.incidentId = incidentId := by
  refine ⟨Table.find_iff.mpr ⟨?_,rfl⟩,by simpa using List.find?_some found⟩
  exact List.mem_reverse.mp (List.mem_of_find?_eq_some found)

theorem notified_parts (notice : notified settings app tick = some incidentId) :
    ∃ attempt : CallAttempt, ∃ report : Report, effect settings app tick = .reported attempt.id report ∧
      app.database.callAttempts.find attempt.id = some attempt ∧ attempt.incidentId = incidentId := by
  obtain ⟨now,input⟩ := tick
  cases input with
  | providerCallStatus secret body =>
    simp only [notified] at notice
    split at notice
    · rename_i gate
      simp only [Bool.and_eq_true,decide_eq_true_eq] at gate
      obtain ⟨⟨authentic,_⟩,stored⟩ := gate
      obtain ⟨attempt,latest⟩ := Option.isSome_iff_exists.mp stored
      obtain ⟨found,owner⟩ := findAttempt_found latest
      exact ⟨attempt,webhookReport body,by simp only [effect,authentic,latest],found,
        owner.trans (Option.some.inj notice)⟩
    · cases notice
  | _ => cases notice

theorem confirmed_response {db : Database} (confirmed : Confirmed db incidentId) : ∃ r, response db incidentId = some r := by
  unfold Confirmed at confirmed
  cases found : db.getIncident incidentId with
  | none => rw [found] at confirmed; cases confirmed
  | some row => exact ⟨row.responseState,by rw [response,found]; rfl⟩

theorem notified_frozen (attempts : AttemptsConfirmed app.database) (notice : notified settings app tick = some incidentId) :
    Frozen (step settings app tick).database incidentId := by
  obtain ⟨attempt,report,reports,found,rfl⟩ := notified_parts notice
  have caused := effect_caused settings app tick
  rw [reports] at caused
  obtain ⟨r,before⟩ := confirmed_response (attempts attempt (Table.find_mem found))
  rw [Frozen,response_step,reports]
  obtain ⟨other,r',found',maps,_,after⟩ | ⟨lost | unmapped,_⟩ :=
    reported_cases settings app.database tick.now attempt.id report
  · obtain rfl : attempt = other := Option.some.inj (found.symm.trans found')
    rw [after,if_pos rfl,before]
    exact status_answers maps
  · rw [found] at lost
    cases lost
  · exact absurd unmapped (reported_status caused)

theorem noted_step {state : App × List String} (noted : Noted state) :
    Noted (observed (step settings) (noteWebhook settings) state tick) := by
  obtain ⟨app,seen⟩ := state
  refine ⟨attemptsConfirmed_step noted.attempts,?_⟩
  intro incidentId member
  rcases List.mem_append.mp member with now | before
  · exact notified_frozen noted.attempts (Option.mem_toList.mp now)
  · exact frozen_step (noted.frozen incidentId before)

theorem reported_notified {attempt : CallAttempt} {report : Report} {r : ResponseState}
    (reports : effect settings app tick = .reported attempt.id report)
    (found : app.database.callAttempts.find attempt.id = some attempt)
    (maps : responseOfStatus report.status = some r) (connects : connected r = true) :
    notified settings app tick = some attempt.incidentId := by
  have caused := effect_caused settings app tick
  rw [reports] at caused
  generalize number : attempt.id = attemptId at caused
  cases caused with
  | @webhook now secret body latest authentic newest =>
    obtain ⟨stored,owner⟩ := findAttempt_found newest
    rw [number,stored] at found
    obtain rfl := Option.some.inj found
    have status : body.status ≠ .failed := by
      intro failed
      simp only [webhookReport,failed,responseOfStatus,Option.some.injEq] at maps
      subst maps
      cases connects
    rw [owner]
    simp [notified,authentic,status,newest]
  | answer waits stored =>
    -- The answer to the call's own request is at most that it was initiated.
    rcases report_statuses stored with status | status | status
    all_goals
      rw [status] at maps
      cases maps
      cases connects

theorem introduces_parts (settings : Settings) (enters : introduces app tick = true) :
    ∃ update : DeviceUpdate, effect settings app tick = .upserted update.data update.hello.deviceId update.hello.bootId ∧
      update.storable = true ∧ connected update.data.responseState = true ∧
      ¬ Frozen app.database update.data.incidentId ∧ notified settings app tick = none := by
  obtain ⟨now,input⟩ := tick
  unfold introduces at enters
  split at enters
  · rename_i hello data kind
    obtain rfl : input = .packet hello (.incidentUpdate data) := kind
    simp only [Bool.and_eq_true,Bool.not_eq_true',decide_eq_false_iff_not] at enters
    obtain ⟨⟨⟨armed,stores⟩,connects⟩,thawed⟩ := enters
    exact ⟨⟨data,hello⟩,by simp only [effect,armed,if_true],stores,connects,thawed,rfl⟩
  · cases enters

theorem observed_notes {state : App × List String} : observed (step settings) (noteWebhook settings) state tick =
    (step settings state.1 tick,noteWebhook settings state.1 tick state.2) := rfl

theorem providerSaid_step {state : App × List String} (noted : Noted state) (held : ProviderSaid state) :
    ProviderSaid (observed (step settings) (noteWebhook settings) state tick) ↔ introduces state.1 tick = false := by
  obtain ⟨app,seen⟩ := state
  rw [observed_notes]
  constructor
  · intro after
    rw [← Bool.not_eq_true]
    intro enters
    obtain ⟨update,upserts,stores,connects,thawed,silent⟩ := introduces_parts settings enters
    have written := thawed_step upserts stores thawed
    have member := after update.data.incidentId (by rw [written]; exact connects)
    simp only [noteWebhook,silent,Option.toList_none,List.nil_append] at member
    exact thawed (noted.frozen _ member)
  · intro heard incidentId connects
    have responded := response_responded_step settings app tick incidentId
    generalize response (step settings app tick).database incidentId = after at responded connects
    apply List.mem_append.mpr
    cases responded with
    | kept => exact .inr (held incidentId connects)
    | answered responds answer => rcases answer with rfl | rfl <;> cases connects
    | called calls requested => rcases requested with rfl | rfl <;> cases connects
    | reported reports found owner maps =>
      rw [← owner,reported_notified reports found maps connects]
      exact .inl (by simp)
    | @device update upserts stores own thawed =>
      obtain ⟨armed,hello,kind⟩ := upserted_packet upserts
      have enters : introduces app tick = true := by
        rw [← own] at thawed
        have same : DeviceUpdate.storable ⟨update.data,hello⟩ = true := stores
        rw [Option.any_some] at connects
        simp [introduces,kind,armed,same,connects,thawed]
      rw [enters] at heard
      cases heard

theorem noted_fresh : Noted (fresh,[]) := by
  constructor
  · intro attempt member
    cases member
  · intro incidentId member
    cases member

-- In every state of every run, exactly when no device update brings a connected call into a live incident.
theorem connection_provenance_iff (settings : Settings) (ticks : List Tick) :
    Throughout (observed (step settings) (noteWebhook settings)) ProviderSaid (fresh,[]) ticks ↔
      Along (step settings) (fun app tick => introduces app tick = false) fresh ticks := by
  have start : ProviderSaid (fresh,[]) := fun incidentId connects => by cases connects
  have guarded : Throughout (observed (step settings) (noteWebhook settings)) ProviderSaid (fresh,[]) ticks ↔
      Along (observed (step settings) (noteWebhook settings)) (fun state tick => introduces state.1 tick = false)
        (fresh,[]) ticks :=
    throughout_iff_along Noted (fun _ _ => noted_step) (fun _ _ noted held => providerSaid_step noted held) noted_fresh start
  rw [guarded]
  exact observed_along (P := fun app tick => introduces app tick = false)

-- A device whose first update already says that the call is connected.
def connectedUpdate : IncidentUpdate := { confirmedIncident with responseState := .callConnected }
def connectedByDevice : List Tick :=
  [⟨1000000,.putArming true true⟩,⟨1000000,.packet ⟨"ignis-qnxpi-01","boot-test"⟩ (.incidentUpdate connectedUpdate)⟩]

theorem connection_inferred :
    ¬ Throughout (observed (step demoSettings) (noteWebhook demoSettings)) ProviderSaid (fresh,[]) connectedByDevice := by
  intro all
  have said := all.last confirmedIncident.incidentId
  revert said
  decide +kernel

-- A call that the provider's webhook reports as connected.
example : Along (step demoSettings) (fun app tick => introduces app tick = false) fresh connectedCall := by
  decide +kernel

end Ignis.Backend
