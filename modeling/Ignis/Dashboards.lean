import Ignis.Announcements
import Ignis.LiveView
import Ignis.PendingCalls
import Mathlib.Data.List.InsertIdx

-- Calls and provider reports are written without an announcement, and a captured row may be out of date.
namespace Ignis.LiveView
open Runs Tables Database Escalation Communications Backend Announcements

abbrev Columns := HazardState × ResponseState × Option CallStatus

def columns (row : IncidentRow) : Columns := (row.hazardState,row.responseState,row.callStatus)

def agrees (db : Database) (row : IncidentRow) : Bool := viewed columns db row.incidentId = some (columns row)

theorem agrees_iff {db : Database} {row : IncidentRow} :
    agrees db row = true ↔ viewed columns db row.incidentId = some (columns row) := decide_eq_true_iff

def quiet (live : Live) : Bool := live.captured.isEmpty && live.app.calls.rows.isEmpty && live.app.announcing.isEmpty

def Converged (live : Live) : Prop :=
  quiet live = true → ∀ incidents ∈ live.clients, ∀ row ∈ incidents, agrees live.app.database row = true

instance decidableConverged (live : Live) : Decidable (Converged live) :=
  inferInstanceAs (Decidable (quiet live = true →
    ∀ incidents ∈ live.clients, ∀ row ∈ incidents, agrees live.app.database row = true))

def calledColumns (settings : Settings) (row : IncidentRow) : Columns :=
  if settings.callProvider = .mock && !contextRaises row then (row.hazardState,.callInitiated,some .initiated)
  else (row.hazardState,.callRequested,some .requested)

def reportedColumns (report : Report) (responseState : ResponseState) (row : IncidentRow) : Columns :=
  (row.hazardState,responseState,some report.status)

-- The columns that a call, or a report, is to give to an incident. No `incident_update` follows.
def changes (settings : Settings) (db : Database) : Effect → Option (String × Option Columns)
  | .called incidentId => some (incidentId,viewed (calledColumns settings) db incidentId)
  | .reported attemptId report =>
    match db.callAttempts.find attemptId,responseOfStatus report.status with
    | some attempt,some responseState =>
      some (attempt.incidentId,viewed (reportedColumns report responseState) db attempt.incidentId)
    | _,_ => none
  | .nothing | .upserted .. | .responded .. => none

def columnsAfter (settings : Settings) (db : Database) (effect : Effect) (incidentId : String) : Option Columns :=
  match changes settings db effect with
  | none => viewed columns db incidentId
  | some (changed,target) => if changed = incidentId then target else viewed columns db incidentId

def ended (app : App) (tick : Tick) : Option PendingCall := (hangsUp app tick).bind app.calls.find

def remaining (app : App) (tick : Tick) : List PendingCall :=
  app.calls.rows.filter fun call => hangsUp app tick ≠ some call.attemptId

def owed (captured : List Captured) (calls : List PendingCall) (incidentId : String) (target : Option Columns) : Bool :=
  (captured.any fun kept => kept.row.incidentId = incidentId && some (columns kept.row) = target) ||
  calls.any fun call => call.incidentId = incidentId

-- All the dashboards that have the incident show these columns already, or a row or a call that brings them is to come.
def settled (live : Live) (captured : List Captured) (calls : List PendingCall) (incidentId : String) (target : Option Columns) : Bool :=
  (live.clients.all fun incidents => incidents.all fun row => row.incidentId ≠ incidentId || some (columns row) = target) ||
  owed captured calls incidentId target

def calls (effect : Effect) : Bool :=
  match effect with
  | .called _ => true
  | .nothing | .upserted .. | .responded .. | .reported .. => false

-- Of a step that announces nothing: a call that goes out, a report, and the end of a call.
def keepsSilent (settings : Settings) (live : Live) (tick : Tick) : Bool :=
  let effect := effect settings live.app tick
  ((changes settings live.app.database effect).all fun (incidentId,target) =>
    (calls effect && posts settings live.app.database incidentId) ||
    settled live live.captured (remaining live.app tick) incidentId target) &&
  (ended live.app tick).all fun call => settled live live.captured (remaining live.app tick) call.incidentId
    (columnsAfter settings live.app.database effect call.incidentId)

def keepsUp (settings : Settings) (live : Live) : Input → Bool
  | .backend tick => live.announcing tick ||
    match updated live.app (Backend.step settings live.app tick) tick with
    | some row => readable row || settled live live.captured live.app.calls.rows row.incidentId (some (columns row))
    | none => keepsSilent settings live tick
  | .announce index =>
    match live.captured[index]? with
    | none => true
    | some kept =>
      let waiting := live.captured.eraseIdx index
      let stored := viewed columns live.app.database kept.row.incidentId
      if readable kept.row then
        live.clients.isEmpty || agrees live.app.database kept.row || owed waiting live.app.calls.rows kept.row.incidentId stored
      else settled live waiting live.app.calls.rows kept.row.incidentId stored
  | .raised index =>
    match live.captured[index]? with
    | none => true
    | some kept => settled live (live.captured.eraseIdx index) live.app.calls.rows kept.row.incidentId
        (viewed columns live.app.database kept.row.incidentId)
  | .connect shown legible => (legible && (listIncidents live.app.database 25).all readable) ||
      shown.all fun row => agrees live.app.database row ||
        owed live.captured live.app.calls.rows row.incidentId (viewed columns live.app.database row.incidentId)
  | .other _ | .disconnect _ => true

variable {settings : Settings} {app next : App} {tick : Tick} {db : Database} {now : Time} {incidentId other : String}
variable {live : Live}

theorem reserved_columns : viewed columns (db.reservedCall now incidentId) incidentId =
    viewed (fun row => (row.hazardState,.callRequested,some .requested)) db incidentId :=
  viewed_same (requestedIncident_incidentId now)

theorem mock_columns {report : Report} {responseState : ResponseState} (maps : responseOfStatus report.status = some responseState) :
    viewed columns (((db.reservedCall now incidentId).updateCallAttempt now db.callAttempts.next report).getD
      (db.reservedCall now incidentId)) incidentId = viewed (reportedColumns report responseState) db incidentId := by
  simp only [updateCallAttempt,reserved_attempt,maps,Option.getD_some]
  refine (viewed_same (reportedIncident_incidentId now report responseState)).trans ?_
  exact viewed_same (requestedIncident_incidentId now)

theorem called_columns : viewed columns ((Effect.called incidentId).apply settings db now) incidentId =
    viewed (calledColumns settings) db incidentId := by
  simp only [Effect.apply,placedCall]
  split
  · rename_i raises
    refine reserved_columns.trans (Option.map_congr ?_)
    intro row found
    rw [found,Option.any_some] at raises
    simp [calledColumns,raises]
  · rename_i tells
    cases provider : settings.callProvider with
    | elevenlabs =>
      refine reserved_columns.trans (Option.map_congr ?_)
      intro row found
      simp [calledColumns,provider]
    | mock =>
      refine (mock_columns rfl).trans (Option.map_congr ?_)
      intro row found
      rw [found,Option.any_some] at tells
      simp [calledColumns,provider,tells,reportedColumns,initiated]

theorem reported_columns {attemptId : ℕ} {report : Report} {attempt : CallAttempt} {responseState : ResponseState}
    (found : db.callAttempts.find attemptId = some attempt) (maps : responseOfStatus report.status = some responseState) :
    viewed columns ((Effect.reported attemptId report).apply settings db now) attempt.incidentId =
      viewed (reportedColumns report responseState) db attempt.incidentId := by
  simp only [Effect.apply,updateCallAttempt,found,maps,Option.getD_some]
  exact viewed_same (reportedIncident_incidentId now report responseState)

-- What is announced, against what is written: the actions and `_wait` by their captured row,
-- a device update at once. First the incident whose row an effect captures.
def responds : Effect → Option String
  | .responded incidentId _ _ _ => some incidentId
  | .nothing | .upserted .. | .called _ | .reported .. => none

theorem announces_effect (settings : Settings) (app : App) (tick : Tick) :
    (announces app tick).map Prod.fst = responds (effect settings app tick) := by
  obtain ⟨now,input⟩ := tick
  cases input with
  | confirm allowed incidentId source =>
    simp only [announces,effect,confirm_isOk]
    split <;> rfl
  | cancel allowed incidentId reason source =>
    simp only [announces,effect,cancel_isOk]
    split <;> rfl
  | reset allowed incidentId =>
    simp only [announces,effect,reset_isOk]
    cases app.database.getIncident incidentId with
    | none => simp [responds]
    | some stored =>
      rw [Option.any_some]
      simp only
      split <;> rfl
  | resume id =>
    simp only [announces,effect,dials]
    cases turn app id with
    | none => rfl
    | some task =>
      by_cases ready : task.phase = .announcing && callable settings app.database now task.incidentId
      · have phase : task.phase = .announcing := by simpa using (Bool.and_eq_true_iff.mp ready).1
        have awake : ¬ (task.phase = .sleeping && (app.database.getIncident task.incidentId).any unanswered) = true := by
          simp [phase]
        simp only [if_pos ready,if_neg awake]
        rfl
      · simp only [if_neg ready]
        split <;> rfl
  | callDemoDispatch allowed incidentId =>
    simp only [announces,effect]
    split <;> rfl
  | providerCallStatus secret body =>
    simp only [announces,effect]
    split <;> rfl
  | providerAnswered attemptId answer =>
    simp only [announces,effect]
    split <;> rfl
  | packet hello packet =>
    cases packet with
    | incidentUpdate data =>
      simp only [announces,effect]
      split <;> rfl
    | _ => rfl
  | putArming allowed armed => rfl
  | announced incidentId => rfl
  | restart => rfl

theorem answersFor_announces (answers : answersFor app tick = some incidentId) : announces app tick = some (incidentId,none) := by
  obtain ⟨now,input⟩ := tick
  cases input with
  | confirm allowed target source =>
    simp only [answersFor,Option.ite_none_right_eq_some,Option.some.injEq] at answers
    obtain ⟨accepted,rfl⟩ := answers
    exact if_pos accepted
  | cancel allowed target reason source =>
    simp only [answersFor,Option.ite_none_right_eq_some,Option.some.injEq] at answers
    obtain ⟨accepted,rfl⟩ := answers
    exact if_pos accepted
  | _ => cases answers

theorem updated_some (settings : Settings) {row : IncidentRow} (tells : updated app next tick = some row) : ∃ data deviceId bootId,
    effect settings app tick = .upserted data deviceId bootId ∧
    (app.database.upsertIncident tick.now data deviceId bootId).isSome = true ∧
    next.database.getIncident data.incidentId = some row := by
  obtain ⟨now,input⟩ := tick
  unfold updated at tells
  split at tells
  · rename_i hello data packet
    cases packet
    simp only [Option.ite_none_right_eq_some,Bool.and_eq_true] at tells
    obtain ⟨⟨armed,stores⟩,found⟩ := tells
    exact ⟨data,hello.deviceId,hello.bootId,if_pos armed,stores,found⟩
  · cases tells

theorem upserted_told (next : App) {data : IncidentUpdate} {deviceId bootId : String}
    (upserts : effect settings app tick = .upserted data deviceId bootId)
    (stores : (app.database.upsertIncident tick.now data deviceId bootId).isSome = true) :
    updated app next tick = next.database.getIncident data.incidentId := by
  obtain ⟨armed,hello,packet⟩ := upserted_packet upserts
  obtain ⟨now,input⟩ := tick
  cases packet
  have same : effect settings app ⟨now,.packet hello (.incidentUpdate data)⟩ = .upserted data hello.deviceId hello.bootId :=
    if_pos armed
  rw [same] at upserts
  cases upserts
  simp only [updated,armed,stores,Bool.and_self,if_true]

def owner (manager : ResponseTimeoutManager) (id : ℕ) : Option String := (manager.tasks.find id).map ResponseTask.incidentId

theorem owner_moveTo {manager : ResponseTimeoutManager} {task id : ℕ} {phase : Phase} :
    owner (moveTo manager task phase) id = owner manager id := by
  unfold owner moveTo
  apply Table.map_find_modify
  · exact movedTask_id phase
  · intro row
    rfl

theorem owner_cancel {manager : ResponseTimeoutManager} {id : ℕ} :
    owner (Escalation.cancel manager incidentId) id = owner manager id := by
  unfold Escalation.cancel
  split
  · rfl
  · unfold owner
    apply Table.map_find_modify
    · exact cancelledTask_id
    · intro row
      rfl

theorem owner_observe {manager : ResponseTimeoutManager} {id : ℕ} (owned : owner manager id = some other) :
    owner (observe manager db incidentId) id = some other := by
  have created : owner (createTask manager incidentId) id = some other := by
    obtain ⟨task,found,same⟩ := Option.map_eq_some_iff.mp owned
    have stays : (manager.tasks.push (newTask incidentId) (newTask_id incidentId)).find id = some task :=
      Table.find_push_kept found
    unfold owner createTask
    rw [stays,← same]
    rfl
  unfold observe
  repeat' split
  · exact owned
  · exact owned
  · exact created
  · exact owned
  · exact created

theorem owner_moved {manager : ResponseTimeoutManager} {calls : Table PendingCall.attemptId} {id : ℕ}
    (moved : Moved settings app tick manager calls) (lives : tick.input ≠ .restart)
    (owned : owner app.timeoutManager id = some incidentId) : owner manager id = some incidentId := by
  cases moved with
  | answered accepted => exact owner_cancel.trans owned
  | observed silent => exact owner_observe owned
  | restarted silent ends => exact absurd ends lives
  | _ => first | exact owned | exact owner_moveTo.trans owned

structure Sound (live : Live) : Prop where
  orderly : Orderly live.app
  linked : ∀ kept ∈ live.captured, ∀ id ∈ kept.task, owner live.app.timeoutManager id = some kept.row.incidentId

theorem sound_opened (orderly : Orderly app) : Sound (opened app) := by
  refine ⟨orderly,?_⟩
  intro kept member
  cases member

theorem announces_owner {id : ℕ} (tells : announces app tick = some (incidentId,some id)) :
    owner app.timeoutManager id = some incidentId := by
  obtain ⟨now,input⟩ := tick
  cases input with
  | resume task =>
    simp only [announces] at tells
    split at tells
    · cases tells
    · rename_i there runs
      split at tells
      · cases tells
        obtain ⟨found,_⟩ := Option.filter_eq_some_iff.mp runs
        unfold owner
        rw [found]
        rfl
      · cases tells
  | confirm allowed target source =>
    simp only [announces] at tells
    split at tells <;> cases tells
  | cancel allowed target reason source =>
    simp only [announces] at tells
    split at tells <;> cases tells
  | reset allowed target =>
    simp only [announces] at tells
    split at tells <;> cases tells
  | _ => cases tells

theorem mem_capture {kept : Captured} (member : kept ∈ capture app next tick) :
    announces app tick = some (kept.row.incidentId,kept.task) ∧ next.database.getIncident kept.row.incidentId = some kept.row := by
  unfold capture at member
  split at member
  · cases member
  · rename_i incidentId task tells
    obtain ⟨row,found,rfl⟩ := Option.map_eq_some_iff.mp (Option.mem_toList.mp member)
    have key : row.incidentId = incidentId := Table.find_key found
    subst key
    exact ⟨tells,found⟩

theorem survivors_subset (app : App) (tick : Tick) (captured : List Captured) : survivors app tick captured ⊆ captured := by
  unfold survivors
  split
  · exact List.Subset.refl _
  · exact List.filter_subset_self _

theorem survivors_other {kept : Captured} (sound : Sound live) (member : kept ∈ live.captured)
    (others : ∀ incidentId, answersFor live.app tick = some incidentId → kept.row.incidentId ≠ incidentId) :
    kept ∈ survivors live.app tick live.captured := by
  unfold survivors
  split
  · exact member
  · rename_i incidentId answers
    refine List.mem_filter.mpr ⟨member,?_⟩
    cases registered : live.app.timeoutManager.registered.find incidentId with
    | none => rfl
    | some entry =>
      rw [Option.all_some,decide_eq_true_eq]
      intro own
      have linked := sound.linked kept member entry.task own
      obtain ⟨task,found,incident⟩ := sound.orderly.exclusive.owned entry (Table.find_mem registered)
      unfold owner at linked
      rw [found,Option.map_some,incident,Table.find_key registered] at linked
      exact others incidentId answers (Option.some.inj linked).symm

theorem sound_backend (sound : Sound live) (lives : tick.input ≠ .restart) : Sound (live.backend settings tick) := by
  have written : Sound { live with
      app := Backend.step settings live.app tick
      captured := survivors live.app tick live.captured ++ capture live.app (Backend.step settings live.app tick) tick } := by
    refine ⟨orderly_step sound.orderly,?_⟩
    intro kept member id own
    apply owner_moved (step_moved settings live.app tick) lives
    rcases List.mem_append.mp member with old | new
    · exact sound.linked kept (survivors_subset _ _ _ old) id own
    · have tells := (mem_capture new).1
      rw [Option.mem_def.mp own] at tells
      exact announces_owner tells
  unfold Live.backend
  dsimp only
  split
  · exact written
  · exact ⟨written.orderly,written.linked⟩

theorem sound_taken (sound : Sound live) (index : ℕ) : ∀ kept ∈ live.captured.eraseIdx index, ∀ id ∈ kept.task,
    owner live.app.timeoutManager id = some kept.row.incidentId :=
  fun kept member => sound.linked kept (List.mem_of_mem_eraseIdx member)

theorem sound_step (sound : Sound live) (input : Input) : Sound (step settings live input) := by
  cases input with
  | backend tick =>
    simp only [step]
    split
    · exact sound
    · split
      · exact sound_opened (orderly_step sound.orderly)
      · rename_i lives
        exact sound_backend sound lives
  | announce index =>
    simp only [step]
    split
    · exact sound
    · exact ⟨sound.orderly,sound_taken sound index⟩
  | raised index => exact ⟨sound.orderly,sound_taken sound index⟩
  | other message =>
    simp only [step]
    split
    · exact sound
    · exact ⟨sound.orderly,sound.linked⟩
  | connect shown legible => exact ⟨sound.orderly,sound.linked⟩
  | disconnect client => exact ⟨sound.orderly,sound.linked⟩

def shown (incidents : List IncidentRow) : Set (String × Columns) := { p | ∃ row ∈ incidents, (row.incidentId,columns row) = p }

def value (kept : Captured) : String × Columns := (kept.row.incidentId,columns kept.row)

def feed (live : Live) : Feed String Columns where
  store := viewed columns live.app.database
  waiting := live.captured.map value
  busy := { incidentId | ∃ call ∈ live.app.calls.rows, call.incidentId = incidentId }
  views := live.clients.map shown

theorem shown_replace (incidents : List IncidentRow) (row : IncidentRow) :
    shown (replaceIncident incidents row) = told row.incidentId (columns row) (shown incidents) := by
  ext p
  rw [mem_told]
  constructor
  · rintro ⟨other,member,rfl⟩
    rw [replaceIncident,List.mem_insertionSort,List.mem_cons] at member
    rcases member with rfl | old
    · exact .inl rfl
    · obtain ⟨inside,different⟩ := List.mem_filter.mp old
      exact .inr ⟨⟨other,inside,rfl⟩,of_decide_eq_true different⟩
  · rintro (rfl | ⟨⟨other,inside,rfl⟩,different⟩)
    · exact ⟨row,by rw [replaceIncident,List.mem_insertionSort]; exact List.mem_cons_self,rfl⟩
    · refine ⟨other,?_,rfl⟩
      rw [replaceIncident,List.mem_insertionSort]
      exact List.mem_cons_of_mem _ (List.mem_filter.mpr ⟨inside,decide_eq_true different⟩)

theorem views_broadcast (live : Live) {row : IncidentRow} (legible : readable row = true) :
    (feed (live.broadcast (.incidentUpdate row))).views = (feed live).views.map (told row.incidentId (columns row)) := by
  simp only [feed,Live.broadcast,List.map_map]
  refine List.map_congr_left fun incidents _ => ?_
  have heard : receive incidents (.incidentUpdate row) = replaceIncident incidents row := if_pos legible
  rw [Function.comp_apply,heard]
  exact shown_replace incidents row

theorem broadcast_same (live : Live) {message : Message} (same : ∀ incidents, receive incidents message = incidents) :
    live.broadcast message = live := by
  simp only [Live.broadcast,same,List.map_id']

theorem broadcast_unread (live : Live) {row : IncidentRow} (unread : ¬ readable row = true) :
    live.broadcast (.incidentUpdate row) = live := broadcast_same live fun _ => if_neg unread

theorem broadcast_other (live : Live) {message : Message} (kind : about message = false) : live.broadcast message = live := by
  refine broadcast_same live fun incidents => ?_
  cases message with
  | systemSnapshot | incidentUpdate => cases kind
  | _ => rfl

theorem written_silent (settings : Settings) (silent : responds (effect settings live.app tick) = none) :
    survivors live.app tick live.captured ++ capture live.app next tick = live.captured := by
  rw [← announces_effect,Option.map_eq_none_iff] at silent
  have unanswered : answersFor live.app tick = none := by
    cases answers : answersFor live.app tick with
    | none => rfl
    | some incidentId =>
      rw [answersFor_announces answers] at silent
      cases silent
  simp only [survivors,unanswered,capture,silent,List.append_nil]

theorem backend_app : (live.backend settings tick).app = Backend.step settings live.app tick := by
  unfold Live.backend
  dsimp only
  split <;> rfl

theorem busy_backend (settings : Settings) (lives : tick.input ≠ .restart) {call : PendingCall} (out : call ∈ remaining live.app tick) :
    call.incidentId ∈ (feed (live.backend settings tick)).busy := by
  obtain ⟨member,other⟩ := List.mem_filter.mp out
  refine ⟨call,?_,rfl⟩
  rw [backend_app]
  exact staysOut_step lives call member (of_decide_eq_true other)

theorem busy_idle (settings : Settings) (lives : tick.input ≠ .restart) (idle : hangsUp live.app tick = none) :
    (feed live).busy ⊆ (feed (live.backend settings tick)).busy := by
  rintro incidentId ⟨call,member,rfl⟩
  refine busy_backend settings lives (List.mem_filter.mpr ⟨member,?_⟩)
  rw [idle]
  rfl

theorem owed_promised {next : Feed String Columns} {captured : List Captured} {calls : List PendingCall} {target : Option Columns}
    (guard : owed captured calls incidentId target = true) (store : next.store incidentId = target)
    (waiting : ∀ kept ∈ captured, value kept ∈ next.waiting) (busy : ∀ call ∈ calls, call.incidentId ∈ next.busy) :
    next.Promised incidentId := by
  rcases Bool.or_eq_true_iff.mp guard with keeps | calling
  · obtain ⟨kept,member,both⟩ := List.any_eq_true.mp keeps
    obtain ⟨own,same⟩ := Bool.and_eq_true_iff.mp both
    obtain rfl := of_decide_eq_true own
    exact .inl ⟨columns kept.row,waiting kept member,store.trans (of_decide_eq_true same).symm⟩
  · obtain ⟨call,member,own⟩ := List.any_eq_true.mp calling
    exact .inr (of_decide_eq_true own ▸ busy call member)

theorem settled_sound {next : Feed String Columns} {captured : List Captured} {calls : List PendingCall} {target : Option Columns}
    (guard : settled live captured calls incidentId target = true) (store : next.store incidentId = target)
    (waiting : ∀ kept ∈ captured, value kept ∈ next.waiting) (busy : ∀ call ∈ calls, call.incidentId ∈ next.busy) :
    (∀ view ∈ (feed live).views, ∀ p ∈ view, p.1 = incidentId → next.Holds p) ∨ next.Promised incidentId := by
  refine (Bool.or_eq_true_iff.mp guard).imp ?_ fun owes => owed_promised owes store waiting busy
  intro shows view member p here own
  obtain ⟨incidents,client,rfl⟩ := List.mem_map.mp member
  obtain ⟨row,inside,rfl⟩ := here
  have each := List.all_eq_true.mp (List.all_eq_true.mp shows incidents client) row inside
  rw [Bool.or_eq_true,decide_eq_true_eq,decide_eq_true_eq] at each
  have same := each.resolve_left fun different => different own
  exact (congrArg next.store own).trans (store.trans same.symm)

theorem upserted_alone {data : IncidentUpdate} {deviceId bootId : String}
    (upserts : effect settings app tick = .upserted data deviceId bootId) : tick.input ≠ .restart ∧ hangsUp app tick = none := by
  obtain ⟨_,hello,packet⟩ := upserted_packet upserts
  rw [hangsUp,packet]
  exact ⟨by simp,rfl⟩

theorem responded_alone {responseState : ResponseState} {occupantResponse : Option String} {hazardState : Option HazardState}
    (responded : effect settings app tick = .responded incidentId responseState occupantResponse hazardState) :
    tick.input ≠ .restart ∧ hangsUp app tick = none := by
  have caused := effect_caused settings app tick
  rw [responded] at caused
  cases caused with
  | confirm found _ => exact ⟨by simp,rfl⟩
  | cancel found _ => exact ⟨by simp,rfl⟩
  | reset found _ => exact ⟨by simp,rfl⟩
  | wake runs found _ =>
    obtain ⟨there,kept⟩ := Option.filter_eq_some_iff.mp runs
    refine ⟨by simp,?_⟩
    simp only [hangsUp,there]
    split
    · rename_i cancelled
      rw [cancelled] at kept
      cases kept
    · rfl

theorem moved_updated {row : IncidentRow} (tells : updated live.app (Backend.step settings live.app tick) tick = some row)
    (guard : (readable row || settled live live.captured live.app.calls.rows row.incidentId (some (columns row))) = true) :
    Moved (feed live) (feed (live.backend settings tick)) := by
  obtain ⟨data,deviceId,bootId,upserts,_,found⟩ := updated_some settings tells
  have key : row.incidentId = data.incidentId := Table.find_key found
  obtain ⟨lives,idle⟩ := upserted_alone upserts
  have waiting : (survivors live.app tick live.captured ++
      capture live.app (Backend.step settings live.app tick) tick).map value = live.captured.map value := by
    rw [written_silent settings (by rw [upserts]; rfl)]
  have stored : viewed columns (Backend.step settings live.app tick).database row.incidentId = some (columns row) := by
    rw [key,viewed,found]
    rfl
  have frame : ∀ other, other ≠ row.incidentId →
      viewed columns (Backend.step settings live.app tick).database other = viewed columns live.app.database other := by
    intro other different
    rw [viewed_step,upserts]
    rw [key] at different
    exact upserted_frame different
  have busy := busy_idle settings lives idle
  have written : live.backend settings tick = Live.broadcast { live with
      app := Backend.step settings live.app tick
      captured := survivors live.app tick live.captured ++ capture live.app (Backend.step settings live.app tick) tick }
      (.incidentUpdate row) := by
    simp only [Live.backend,tells]
  rw [written] at busy ⊢
  by_cases legible : readable row = true
  · exact .written row.incidentId (columns row) stored frame waiting busy (views_broadcast _ legible)
  · rw [broadcast_unread _ legible] at busy ⊢
    have settles := (Bool.or_eq_true_iff.mp guard).resolve_left legible
    refine .silent {row.incidentId} ?_ (fun other different => frame other different) waiting (fun _ _ => @busy _) rfl
    rintro _ rfl
    refine settled_sound settles stored (fun kept member => ?_) fun call member => busy ⟨call,member,rfl⟩
    rw [feed,waiting]
    exact List.mem_map_of_mem member

theorem upserted_found {data : IncidentUpdate} {deviceId bootId : String}
    (upserts : effect settings app tick = .upserted data deviceId bootId)
    (stores : (app.database.upsertIncident tick.now data deviceId bootId).isSome = true) :
    ((Backend.step settings app tick).database.getIncident data.incidentId).isSome = true := by
  have incidents : (Backend.step settings app tick).database.incidents = _ := congrArg Prod.fst (step_rows settings app tick)
  rw [getIncident,incidents,upserts]
  unfold upsertIncident at stores
  split at stores
  · rename_i fits
    simp only [rows,Effect.apply,upsertIncident,if_pos fits,Option.getD_some]
    rw [Table.find_upsert]
    exact (congrArg Option.isSome (if_pos rfl)).trans rfl
  · cases stores

theorem columns_silent (silent : responds (effect settings live.app tick) = none)
    (untold : updated live.app (Backend.step settings live.app tick) tick = none) (incidentId : String) :
    viewed columns (Backend.step settings live.app tick).database incidentId =
      columnsAfter settings live.app.database (effect settings live.app tick) incidentId := by
  rw [viewed_step]
  cases kind : effect settings live.app tick with
  | nothing => rfl
  | upserted data deviceId bootId =>
    cases stores : live.app.database.upsertIncident tick.now data deviceId bootId with
    | none =>
      rw [Effect.apply,stores]
      rfl
    | some database =>
      have reads := upserted_told (Backend.step settings live.app tick) kind (by rw [stores]; rfl)
      have found := upserted_found kind (by rw [stores]; rfl)
      rw [← reads,untold] at found
      cases found
  | responded target responseState occupantResponse hazardState =>
    rw [kind] at silent
    cases silent
  | called target =>
    simp only [columnsAfter,changes]
    by_cases own : target = incidentId
    · rw [if_pos own,← own,called_columns]
    · rw [if_neg own]
      exact called_frame (Ne.symm own)
  | reported attemptId report =>
    simp only [columnsAfter,changes]
    cases found : live.app.database.callAttempts.find attemptId with
    | none => simp only [Effect.apply,updateCallAttempt,found,Option.getD_none]
    | some attempt =>
      cases maps : responseOfStatus report.status with
      | none => simp only [Effect.apply,updateCallAttempt,found,maps,Option.getD_none]
      | some responseState =>
        simp only
        by_cases own : attempt.incidentId = incidentId
        · rw [if_pos own,← own,reported_columns found maps]
        · rw [if_neg own]
          exact report_frame found (Ne.symm own)

theorem moved_silent (sound : Sound live) (lives : tick.input ≠ .restart)
    (silent : responds (effect settings live.app tick) = none)
    (untold : updated live.app (Backend.step settings live.app tick) tick = none)
    (guard : keepsSilent settings live tick = true) : Moved (feed live) (feed (live.backend settings tick)) := by
  have written : live.backend settings tick = { live with app := Backend.step settings live.app tick } := by
    simp only [Live.backend,untold,written_silent settings silent]
  have busy := fun call (out : call ∈ remaining live.app tick) => busy_backend settings lives out
  have store := columns_silent silent untold
  rw [written] at busy ⊢
  simp only [keepsSilent,Bool.and_eq_true,Option.all_eq_true] at guard
  obtain ⟨changed,ends⟩ := guard
  have waiting : ∀ kept ∈ live.captured, value kept ∈ live.captured.map value := fun kept member => List.mem_map_of_mem member
  refine .silent { incidentId | (∃ target, changes settings live.app.database (effect settings live.app tick) = some (incidentId,target)) ∨
    ∃ call, ended live.app tick = some call ∧ call.incidentId = incidentId } ?_ ?_ rfl ?_ rfl
  · rintro incidentId (⟨target,change⟩ | ⟨call,finished,rfl⟩)
    · rcases Bool.or_eq_true_iff.mp (changed _ change) with posting | settles
      · obtain ⟨isCall,posting⟩ := Bool.and_eq_true_iff.mp posting
        cases kind : effect settings live.app tick with
        | called id =>
          rw [kind] at change
          cases change
          obtain ⟨call,member,own⟩ := called_out sound.orderly kind posting
          exact .inr (.inr ⟨call,member,own⟩)
        | _ =>
          rw [kind] at isCall
          cases isCall
      · refine settled_sound settles ?_ waiting busy
        refine (store incidentId).trans ?_
        simp only [columnsAfter,change,if_true]
    · exact settled_sound (ends call finished) (store call.incidentId) waiting busy
  · intro other outside
    refine (store other).trans ?_
    unfold columnsAfter
    cases change : changes settings live.app.database (effect settings live.app tick) with
    | none => rfl
    | some pair =>
      obtain ⟨incidentId,target⟩ := pair
      refine if_neg ?_
      rintro rfl
      exact outside (.inl ⟨target,change⟩)
  · rintro other outside ⟨call,member,rfl⟩
    refine busy call (List.mem_filter.mpr ⟨member,decide_eq_true fun gone => outside (.inr ⟨call,?_,rfl⟩)⟩)
    rw [ended,gone]
    exact Table.find_iff.mpr ⟨member,rfl⟩

theorem responded_found {responseState : ResponseState} {occupantResponse : Option String} {hazardState : Option HazardState}
    (responded : effect settings app tick = .responded incidentId responseState occupantResponse hazardState) :
    ∃ row, (Backend.step settings app tick).database.getIncident incidentId = some row := by
  have before : ∃ stored, app.database.getIncident incidentId = some stored := by
    have caused := effect_caused settings app tick
    rw [responded] at caused
    cases caused with
    | confirm found _ => exact ⟨_,found⟩
    | cancel found _ => exact ⟨_,found⟩
    | reset found _ => exact ⟨_,found⟩
    | wake _ found _ => exact ⟨_,found⟩
  obtain ⟨stored,found⟩ := before
  have incidents : (Backend.step settings app tick).database.incidents = _ := congrArg Prod.fst (step_rows settings app tick)
  refine ⟨updatedResponse tick.now responseState occupantResponse hazardState stored,?_⟩
  rw [getIncident,incidents,responded]
  simp only [rows,Effect.apply,updateIncidentResponse,found,Option.isSome_some,if_true,Option.getD_some]
  rw [Table.find_modify_same]
  exact congrArg (Option.map _) found

-- An action, or a timeout: its captured row is kept, and the other captured rows of its incident
-- may go.
theorem moved_responded {responseState : ResponseState} {occupantResponse : Option String} {hazardState : Option HazardState}
    (sound : Sound live) (responded : effect settings live.app tick = .responded incidentId responseState occupantResponse hazardState) :
    Moved (feed live) (feed (live.backend settings tick)) := by
  have untold : updated live.app (Backend.step settings live.app tick) tick = none := by
    cases tells : updated live.app (Backend.step settings live.app tick) tick with
    | none => rfl
    | some row =>
      obtain ⟨_,_,_,upserts,_⟩ := updated_some settings tells
      rw [responded] at upserts
      cases upserts
  obtain ⟨task,tells⟩ : ∃ task, announces live.app tick = some (incidentId,task) := by
    have announced := announces_effect settings live.app tick
    rw [responded] at announced
    obtain ⟨⟨target,task⟩,tells,same⟩ := Option.map_eq_some_iff.mp announced
    cases same
    exact ⟨task,tells⟩
  obtain ⟨row,found⟩ := responded_found responded
  have key : row.incidentId = incidentId := Table.find_key found
  have captures : capture live.app (Backend.step settings live.app tick) tick = [⟨row,task⟩] := by
    simp only [capture,tells,found,Option.map_some,Option.toList_some]
  have written : live.backend settings tick = { live with
      app := Backend.step settings live.app tick
      captured := survivors live.app tick live.captured ++ [⟨row,task⟩] } := by
    simp only [Live.backend,untold,captures]
  obtain ⟨lives,idle⟩ := responded_alone responded
  have busy := busy_idle settings lives idle
  rw [written] at busy ⊢
  refine .kept incidentId (columns row) ?_ ?_ ?_ ?_ busy rfl
  · show viewed columns (Backend.step settings live.app tick).database incidentId = some (columns row)
    rw [viewed,found]
    rfl
  · intro other different
    show viewed columns (Backend.step settings live.app tick).database other = viewed columns live.app.database other
    rw [viewed_step,responded]
    exact responded_frame different
  · refine List.mem_map.mpr ⟨⟨row,task⟩,List.mem_append_right _ List.mem_cons_self,?_⟩
    rw [← key]
    rfl
  · intro p waits different
    obtain ⟨kept,member,rfl⟩ := List.mem_map.mp waits
    refine List.mem_map.mpr ⟨kept,List.mem_append_left _ (survivors_other sound member ?_),rfl⟩
    intro answered answers
    rw [answersFor_announces answers] at tells
    cases tells
    exact different

theorem moved_backend (sound : Sound live) (lives : tick.input ≠ .restart)
    (guard : (match updated live.app (Backend.step settings live.app tick) tick with
      | some row => readable row || settled live live.captured live.app.calls.rows row.incidentId (some (columns row))
      | none => keepsSilent settings live tick) = true) : Moved (feed live) (feed (live.backend settings tick)) := by
  cases tells : updated live.app (Backend.step settings live.app tick) tick with
  | some row =>
    rw [tells] at guard
    exact moved_updated tells guard
  | none =>
    rw [tells] at guard
    cases kind : effect settings live.app tick with
    | responded target responseState occupantResponse hazardState => exact moved_responded sound kind
    | nothing | upserted _ _ _ | called _ | reported _ _ => exact moved_silent sound lives (by rw [kind]; rfl) tells guard

theorem waiting_taken {index : ℕ} {kept : Captured} (taken : live.captured[index]? = some kept) :
    (feed live).waiting[index]? = some (value kept) := by
  simp only [feed,List.getElem?_map,taken,Option.map_some]

theorem waiting_eraseIdx (index : ℕ) : (live.captured.eraseIdx index).map value = (feed live).waiting.eraseIdx index :=
  (List.eraseIdx_map ..).symm

theorem moved_raised {index : ℕ} {kept : Captured} (taken : live.captured[index]? = some kept)
    (guard : settled live (live.captured.eraseIdx index) live.app.calls.rows kept.row.incidentId
      (viewed columns live.app.database kept.row.incidentId) = true) :
    Moved (feed live) (feed { live with captured := live.captured.eraseIdx index }) := by
  refine .lost index kept.row.incidentId (columns kept.row) (waiting_taken taken) rfl (waiting_eraseIdx index) (fun _ => id) rfl ?_
  exact @settled_sound _ _ (feed { live with captured := live.captured.eraseIdx index }) _ _ _ guard rfl
    (fun _ member => List.mem_map_of_mem member) fun call member => ⟨call,member,rfl⟩

theorem moved_announce {index : ℕ} {kept : Captured} (taken : live.captured[index]? = some kept)
    (guard : keepsUp settings live (.announce index) = true) :
    Moved (feed live) (feed (Live.broadcast { live with captured := live.captured.eraseIdx index } (.incidentUpdate kept.row))) := by
  simp only [keepsUp,taken] at guard
  by_cases legible : readable kept.row = true
  · rw [if_pos legible,Bool.or_eq_true,Bool.or_eq_true] at guard
    refine .announced index kept.row.incidentId (columns kept.row) (waiting_taken taken) rfl (waiting_eraseIdx index) (fun _ => id)
      (views_broadcast _ legible) ?_
    rcases guard with (alone | agreed) | owes
    · exact .inl (by rw [feed,List.isEmpty_iff.mp alone]; rfl)
    · exact .inr (.inl (agrees_iff.mp agreed))
    · exact .inr (.inr (owed_promised owes rfl (fun _ member => List.mem_map_of_mem member) fun call member => ⟨call,member,rfl⟩))
  · rw [if_neg legible] at guard
    rw [broadcast_unread _ legible]
    exact moved_raised taken guard

theorem shown_snapshot {p : String × Columns} (shows : p ∈ shown (listIncidents live.app.database 25)) : (feed live).Holds p := by
  obtain ⟨row,member,rfl⟩ := shows
  have stored : row ∈ live.app.database.incidents.rows := (List.mem_insertionSort _).mp (List.mem_of_mem_take member)
  have found : live.app.database.incidents.find row.incidentId = some row := Table.find_iff.mpr ⟨stored,rfl⟩
  exact congrArg (Option.map columns) found

theorem moved_connect {before : List IncidentRow} {legible : Bool} (guard : keepsUp settings live (.connect before legible) = true) :
    Moved (feed live) (feed (step settings live (.connect before legible))) := by
  simp only [keepsUp,Bool.or_eq_true,Bool.and_eq_true] at guard
  simp only [step]
  by_cases parsed : legible = true ∧ (listIncidents live.app.database 25).all readable = true
  · have heard : receive before (.systemSnapshot (listIncidents live.app.database 25)) = listIncidents live.app.database 25 :=
      if_pos parsed.2
    refine .joined (shown (listIncidents live.app.database 25)) (fun p shows => .inl (shown_snapshot shows)) rfl rfl (fun _ => id) ?_
    rw [if_pos parsed.1,heard]
    exact List.map_append ..
  · have kept : (if legible = true then receive before (.systemSnapshot (listIncidents live.app.database 25)) else before) = before := by
      split
      · rename_i reads
        exact if_neg fun all => parsed ⟨reads,all⟩
      · rfl
    rw [kept]
    refine .joined (shown before) ?_ rfl rfl (fun _ => id) (List.map_append ..)
    rintro p ⟨row,member,rfl⟩
    have each := List.all_eq_true.mp (guard.resolve_left parsed) row member
    refine (Bool.or_eq_true_iff.mp each).imp agrees_iff.mp fun owes => ?_
    exact owed_promised owes rfl (fun _ member => List.mem_map_of_mem member) fun call inside => ⟨call,inside,rfl⟩

theorem moved_step (sound : Sound live) (input : Input) (guard : keepsUp settings live input = true) :
    Moved (feed live) (feed (step settings live input)) := by
  have same : Moved (feed live) (feed live) := .parted rfl rfl (fun _ => id) (List.Subset.refl _)
  cases input with
  | backend tick =>
    simp only [step]
    split
    · exact same
    · rename_i free
      split
      · exact .closed rfl
      · rename_i lives
        refine moved_backend sound lives ?_
        rw [keepsUp,Bool.or_eq_true] at guard
        exact guard.resolve_left free
  | announce index =>
    simp only [step]
    split
    · exact same
    · rename_i kept taken
      exact moved_announce taken guard
  | raised index =>
    simp only [step]
    cases taken : live.captured[index]? with
    | none =>
      rw [List.eraseIdx_of_length_le (List.getElem?_eq_none_iff.mp taken)]
      exact same
    | some kept =>
      simp only [keepsUp,taken] at guard
      exact moved_raised taken guard
  | other message =>
    simp only [step]
    split
    · exact same
    · rename_i kind
      rw [broadcast_other live (Bool.not_eq_true _ ▸ kind)]
      exact same
  | connect before legible => exact moved_connect guard
  | disconnect client =>
    refine .parted rfl rfl (fun _ => id) ?_
    exact List.map_subset shown (List.eraseIdx_sublist _ _).subset

theorem covered_converged (covered : (feed live).Covered) : Converged live := by
  intro still incidents client row inside
  simp only [quiet,Bool.and_eq_true,List.isEmpty_iff] at still
  have idle : (feed live).waiting = [] := by rw [feed,still.1.1]; rfl
  have hung : (feed live).busy = ∅ := by
    refine Set.eq_empty_of_forall_notMem ?_
    rintro incidentId ⟨call,out,_⟩
    rw [still.1.2] at out
    cases out
  have holds := covered_current covered idle hung (shown incidents) (List.mem_map.mpr ⟨incidents,client,rfl⟩)
    (row.incidentId,columns row) ⟨row,inside,rfl⟩
  exact agrees_iff.mpr holds

-- As long as nothing that a dashboard shows, or cannot read, is left without an announcement to come.
theorem dashboards_converge (settings : Settings) (database : Database) (inputs : List Input)
    (guarded : Along (step settings) (fun live input => keepsUp settings live input = true) (opened (launched database)) inputs) :
    Throughout (step settings) Converged (opened (launched database)) inputs := by
  refine throughout_along (fun live => Sound live ∧ (feed live).Covered) ?_ ?_ ?_ guarded
  · rintro live input guard ⟨sound,covered⟩
    exact ⟨sound_step sound input,covered_moved covered (moved_step sound input guard)⟩
  · rintro live ⟨_,covered⟩
    exact covered_converged covered
  · refine ⟨sound_opened (orderly_launched database),?_⟩
    intro view member
    cases member

-- A dashboard of the backend's own tests, with an incident that is stored, announced and observed.
def watched : List Input :=
  [.connect [] true,.backend ⟨1000000,.putArming true true⟩,
   .backend ⟨1000000,.packet ⟨"ignis-qnxpi-01","boot-test"⟩ (.incidentUpdate confirmedIncident)⟩,
   .backend ⟨1000000,.announced confirmedIncident.incidentId⟩]

-- The occupant confirms, and the dashboard is told; a call goes out, and the process ends with it.
theorem confirm_converges :
    Throughout (step demoSettings) Converged (opened fresh)
      (watched ++ [.backend ⟨2000000,.confirm true confirmedIncident.incidentId .manual⟩,.announce 0,
        .backend ⟨3000000,.callDemoDispatch true confirmedIncident.incidentId⟩,.backend ⟨4000000,.restart⟩,.connect [] true]) :=
  dashboards_converge demoSettings Database.initialized _ (by decide +kernel)

def mockSettings : Settings := { demoSettings with callProvider := .mock }

-- The call is accepted at once, and the dashboard still shows that a response is awaited.
theorem call_diverges :
    ¬ Throughout (step mockSettings) Converged (opened fresh)
      (watched ++ [.backend ⟨2000000,.callDemoDispatch true confirmedIncident.incidentId⟩]) := by
  intro all
  have last := all.last
  revert last
  decide +kernel

end Ignis.LiveView
