import Ignis.FrozenResponses

-- The device's CONFIRMED is heard as long as the backend has not answered for the incident.
namespace Ignis.Backend
open Tables Database Communications Escalation Runs

variable {settings : Settings} {app : App} {tick : Tick} {db : Database} {now : Time} {incidentId other : String}

def Confirmed (db : Database) (incidentId : String) : Prop :=
  ((db.getIncident incidentId).bind IncidentRow.confirmedAt).isSome = true

instance decidableConfirmed (db : Database) (incidentId : String) : Decidable (Confirmed db incidentId) :=
  inferInstanceAs (Decidable (_ = true))

def AnsweredConfirmed (db : Database) : Prop := ∀ incidentId, Frozen db incidentId → Confirmed db incidentId

def FireHeard (db : Database) : Prop :=
  ∀ (now : Time) (update : DeviceUpdate), update.storable = true → update.data.hazardState = .confirmed →
    update.data.responseState = .awaitingResponse → ¬ Confirmed db update.data.incidentId →
    response (update.store db now) update.data.incidentId = some .awaitingResponse

def fromPi (tick : Tick) : Bool :=
  match tick.input with
  | .packet _ (.incidentUpdate data) => data.responseState = .idle || data.responseState = .awaitingResponse
  | _ => true

def unconfirmed (row : IncidentRow) : Bool := row.confirmedAt.isNone

def silences (app : App) (tick : Tick) : Bool :=
  match tick.input with
  | .confirm allowed incidentId _ =>
    allowed && (app.database.getIncident incidentId).any fun row => confirmable row && unconfirmed row
  | .cancel allowed incidentId _ _ =>
    allowed && (app.database.getIncident incidentId).any fun row => cancellable row && unconfirmed row
  | .resume id =>
    (turn app id).any fun task => task.phase = .sleeping &&
      (app.database.getIncident task.incidentId).any fun row => unanswered row && unconfirmed row
  | _ => false

theorem confirmed_found {stored : IncidentRow} (found : db.getIncident incidentId = some stored) :
    Confirmed db incidentId ↔ stored.confirmedAt.isSome = true := by
  rw [Confirmed,found,Option.bind_some]

theorem confirmed_viewed {a b : Database}
    (same : viewed IncidentRow.confirmedAt a incidentId = viewed IncidentRow.confirmedAt b incidentId) :
    Confirmed a incidentId ↔ Confirmed b incidentId := by
  have joined : ∀ db : Database, (db.getIncident incidentId).bind IncidentRow.confirmedAt =
      (viewed IncidentRow.confirmedAt db incidentId).join := by
    intro db
    unfold viewed
    cases db.getIncident incidentId <;> rfl
  rw [Confirmed,Confirmed,joined,joined,same]

theorem confirmed_step_iff (ours : ∀ data deviceId bootId, effect settings app tick ≠ .upserted data deviceId bootId) :
    Confirmed (step settings app tick).database incidentId ↔ Confirmed app.database incidentId := by
  apply confirmed_viewed
  rw [viewed_step]
  cases same : effect settings app tick with
  | nothing => rfl
  | upserted data deviceId bootId => exact absurd same (ours data deviceId bootId)
  | responded target r occupantResponse hazardState =>
    exact viewed_responded fun _ => by cases hazardState <;> rfl
  | called target => exact viewed_called (fun _ => rfl) fun _ _ _ => rfl
  | reported attemptId report => exact viewed_reported fun _ _ => rfl

theorem confirmed_stored (update : DeviceUpdate) (confirmed : Confirmed db incidentId) :
    Confirmed (update.store db now) incidentId := by
  cases stores : update.storable with
  | false =>
    rw [store_unstorable stores]
    exact confirmed
  | true =>
    rw [Confirmed,store_getIncident stores]
    split
    · unfold Confirmed at confirmed
      cases found : db.getIncident incidentId with
      | none => rw [found] at confirmed; cases confirmed
      | some row =>
        rw [found,Option.bind_some] at confirmed
        simp [mergeIncident,confirmed]
    · exact confirmed

theorem confirmed_step (confirmed : Confirmed app.database incidentId) :
    Confirmed (step settings app tick).database incidentId := by
  by_cases ours : ∀ data deviceId bootId, effect settings app tick ≠ .upserted data deviceId bootId
  · exact (confirmed_step_iff ours).mpr confirmed
  · simp only [ne_eq,not_forall,not_not] at ours
    obtain ⟨data,deviceId,bootId,same⟩ := ours
    have after := step_rows settings app tick
    rw [same] at after
    exact (confirmed_viewed (viewed_rows after)).mpr (confirmed_stored ⟨data,deviceId,bootId⟩ confirmed)

theorem called_confirmed (called : effect settings app tick = .called other) : Confirmed app.database other := by
  have caused := effect_caused settings app tick
  rw [called] at caused
  have gate := called_callable caused
  obtain ⟨stored,found,eligible⟩ := callable_incident gate
  simp only [Database.eligible,Bool.and_eq_true] at eligible
  exact (confirmed_found found).mpr eligible.1

def AttemptsConfirmed (db : Database) : Prop := ∀ attempt ∈ db.callAttempts.rows, Confirmed db attempt.incidentId

theorem attemptsConfirmed_step (all : AttemptsConfirmed app.database) :
    AttemptsConfirmed (step settings app tick).database := by
  intro attempt member
  rw [attempts_rows (step_rows settings app tick)] at member
  apply confirmed_step
  cases same : effect settings app tick with
  | nothing =>
    rw [same] at member
    exact all attempt member
  | upserted data deviceId bootId =>
    rw [same,attempts_upserted] at member
    exact all attempt member
  | responded target r occupantResponse hazardState =>
    rw [same,attempts_responded] at member
    exact all attempt member
  | called target =>
    obtain ⟨make,numbered,pushed,parts⟩ := called_parts settings app.database tick.now target
    rw [same,pushed,Table.rows_push,List.mem_append,List.mem_singleton] at member
    rcases member with old | rfl
    · exact all attempt old
    · rw [(parts _).1]
      exact called_confirmed same
  | reported attemptId report =>
    rw [same] at member
    obtain ⟨found,r,_,_,after,_⟩ | ⟨_,unchanged⟩ := reported_cases settings app.database tick.now attemptId report
    · rw [after] at member
      obtain ⟨old,inside,rfl⟩ := Table.mem_modify.mp member
      split <;> exact all old inside
    · rw [unchanged] at member
      exact all attempt member

theorem unconfirmed_found {stored : IncidentRow} (found : db.getIncident incidentId = some stored)
    (missing : unconfirmed stored = true) : ¬ Confirmed db incidentId := by
  rw [confirmed_found found]
  unfold unconfirmed at missing
  cases confirmedAt : stored.confirmedAt with
  | none => simp
  | some time => rw [confirmedAt] at missing; cases missing

theorem silences_effect (settings : Settings) (silent : silences app tick = true) :
    ∃ incidentId r occupantResponse, effect settings app tick = .responded incidentId r occupantResponse none ∧
      (app.database.getIncident incidentId).isSome = true ∧ backendResponse r = true ∧
      ¬ Confirmed app.database incidentId := by
  obtain ⟨now,input⟩ := tick
  cases input with
  | confirm allowed incidentId source =>
    simp only [silences,Bool.and_eq_true] at silent
    obtain ⟨rfl,accepted⟩ := silent
    obtain ⟨row,found,guard⟩ := (Option.any_eq_true ..).mp accepted
    obtain ⟨confirms,missing⟩ := Bool.and_eq_true_iff.mp guard
    refine ⟨incidentId,.escalating,some "confirmed",?_,by rw [found]; rfl,rfl,unconfirmed_found found missing⟩
    simp only [effect,found,Option.any_some,confirms,Bool.and_self,if_true]
  | cancel allowed incidentId reason source =>
    simp only [silences,Bool.and_eq_true] at silent
    obtain ⟨rfl,accepted⟩ := silent
    obtain ⟨row,found,guard⟩ := (Option.any_eq_true ..).mp accepted
    obtain ⟨cancels,missing⟩ := Bool.and_eq_true_iff.mp guard
    refine ⟨incidentId,.cancelled,some reason.text,?_,by rw [found]; rfl,rfl,unconfirmed_found found missing⟩
    simp only [effect,found,Option.any_some,cancels,Bool.and_self,if_true]
  | resume id =>
    obtain ⟨task,runs,ready⟩ := (Option.any_eq_true ..).mp silent
    obtain ⟨sleeping,accepted⟩ := Bool.and_eq_true_iff.mp ready
    obtain ⟨row,found,guard⟩ := (Option.any_eq_true ..).mp accepted
    obtain ⟨waits,missing⟩ := Bool.and_eq_true_iff.mp guard
    refine ⟨task.incidentId,.escalating,some "no_response",?_,by rw [found]; rfl,rfl,unconfirmed_found found missing⟩
    have phase : task.phase = .sleeping := of_decide_eq_true sleeping
    have quiet : dials settings app now id = none := by
      simp only [dials,runs,phase,reduceCtorEq,decide_false,Bool.false_and,Bool.false_eq_true,if_false]
    simp only [effect,quiet,runs,phase,found,Option.any_some,waits,decide_true,Bool.and_self,if_true]
  | _ => cases silent

theorem answered_confirmed {r : ResponseState} {occupantResponse : Option String} (heard : silences app tick = false)
    (responds : effect settings app tick = .responded incidentId r occupantResponse none) :
    Confirmed app.database incidentId := by
  have caused := effect_caused settings app tick
  rw [responds] at caused
  have by_row : ∀ stored, app.database.getIncident incidentId = some stored → unconfirmed stored = false →
      Confirmed app.database incidentId := by
    intro stored found seen
    rw [confirmed_found found]
    unfold unconfirmed at seen
    cases confirmedAt : stored.confirmedAt with
    | none => rw [confirmedAt] at seen; cases seen
    | some time => rfl
  cases caused with
  | confirm found guard =>
    apply by_row _ found
    simpa [silences,found,guard] using heard
  | cancel found guard =>
    apply by_row _ found
    simpa [silences,found,guard] using heard
  | @wake now id task stored runs found guard =>
    have sleeping : task.phase = .sleeping := by
      simp only [effect,runs] at responds
      split at responds
      · cases responds
      · split at responds
        · rename_i same gate
          cases same
          simp only [Bool.and_eq_true,decide_eq_true_eq] at gate
          exact gate.1
        · cases responds
      · cases responds
    apply by_row _ found
    simpa [silences,runs,sleeping,found,guard] using heard

theorem answeredConfirmed_step (pi : fromPi tick = true) (attempts : AttemptsConfirmed app.database)
    (held : AnsweredConfirmed app.database) :
    AnsweredConfirmed (step settings app tick).database ↔ silences app tick = false := by
  constructor
  · intro after
    rw [← Bool.not_eq_true]
    intro silent
    obtain ⟨incidentId,r,occupantResponse,responds,stored,answers,missing⟩ := silences_effect settings silent
    have frozen : Frozen (step settings app tick).database incidentId := by
      obtain ⟨row,found⟩ := Option.isSome_iff_exists.mp stored
      rw [Frozen,response_step,responds,response_responded,if_pos rfl,response_found found]
      exact answers
    have same : Confirmed (step settings app tick).database incidentId ↔ Confirmed app.database incidentId :=
      confirmed_step_iff fun data deviceId bootId => by simp [responds]
    exact missing (same.mp (after incidentId frozen))
  · intro heard incidentId frozen
    apply confirmed_step
    have responded := response_responded_step settings app tick incidentId
    unfold Frozen at frozen
    generalize response (step settings app tick).database incidentId = after at responded frozen
    cases responded with
    | kept => exact held incidentId frozen
    | answered responds answer => exact answered_confirmed heard responds
    | called calls requested => exact called_confirmed calls
    | reported reports found owner maps =>
      rw [← owner]
      exact attempts _ (Table.find_mem found)
    | device upserts stores own thawed =>
      obtain ⟨_,hello,kind⟩ := upserted_packet upserts
      simp only [fromPi,kind,Bool.or_eq_true,decide_eq_true_eq] at pi
      rcases pi with idle | awaiting
      · simp [idle,backendResponse] at frozen
      · simp [awaiting,backendResponse] at frozen

theorem fireHeard_answered (held : AnsweredConfirmed db) : FireHeard db := by
  intro now update stores confirmed awaits missing
  have thawed : ¬ Frozen db update.data.incidentId := fun frozen => missing (held _ frozen)
  rw [response_stored stores,if_pos rfl]
  cases before : response db update.data.incidentId with
  | none => exact congrArg some awaits
  | some r =>
    rw [Frozen,before,Option.any_some] at thawed
    dsimp only
    rw [if_neg thawed,awaits]

-- For every run in which the device sends what the Pi sends.
theorem fire_heard_iff (settings : Settings) (ticks : List Tick) (pi : ∀ tick ∈ ticks, fromPi tick = true) :
    Throughout (step settings) (fun app => AnsweredConfirmed app.database ∧ FireHeard app.database) fresh ticks ↔
      Along (step settings) (fun app tick => silences app tick = false) fresh ticks := by
  have start : AnsweredConfirmed fresh.database := fun incidentId frozen => by cases frozen
  have guarded : Throughout (step settings) (fun app => AnsweredConfirmed app.database) fresh ticks ↔
      Along (step settings) (fun app tick => silences app tick = false) fresh ticks :=
    throughout_iff_within (fun app => AttemptsConfirmed app.database) (fun _ _ _ => attemptsConfirmed_step)
      (fun _ _ fromDevice attempts held => answeredConfirmed_step fromDevice attempts held)
      (along_inputs pi) (fun _ member => by cases member) start
  rw [← guarded]
  constructor
  · exact fun all => all.imp fun _ both => both.1
  · exact fun all => all.imp fun _ held => ⟨held,fireHeard_answered held⟩

-- The occupant cancels while the fire is still being verified, or after it was confirmed.
def verifying : IncidentUpdate :=
  { confirmedIncident with hazardState := .verifying, responseState := .idle, updatedMonotonicNs := 5000000000 }

def cancelledEarly : List Tick :=
  [⟨1000000,.putArming true true⟩,⟨1000000,.packet ⟨"ignis-qnxpi-01","boot-test"⟩ (.incidentUpdate verifying)⟩,
   ⟨2000000,.cancel true confirmedIncident.incidentId .testing .manual⟩]

def confirmedLater : Tick := ⟨3000000,.packet ⟨"ignis-qnxpi-01","boot-test"⟩ (.incidentUpdate confirmedIncident)⟩

theorem cancelled_late_heard :
    Throughout (step demoSettings) (fun app => AnsweredConfirmed app.database ∧ FireHeard app.database) fresh
      (seeded ++ [⟨2000000,.cancel true confirmedIncident.incidentId .testing .manual⟩]) :=
  (fire_heard_iff demoSettings _ (by decide +kernel)).mpr (by decide +kernel)

theorem cancelled_early_silenced :
    (∀ tick ∈ cancelledEarly ++ [confirmedLater], fromPi tick = true) ∧
    ¬ Throughout (step demoSettings) (fun app => AnsweredConfirmed app.database ∧ FireHeard app.database) fresh
      cancelledEarly ∧
    response (run (step demoSettings) fresh (cancelledEarly ++ [confirmedLater])).database confirmedIncident.incidentId =
      some .cancelled := by
  refine ⟨by decide +kernel,?_,by decide +kernel⟩
  intro all
  have confirmed := all.last.1 confirmedIncident.incidentId (by decide +kernel)
  revert confirmed
  decide +kernel

end Ignis.Backend
