import Ignis.BackendRecords
import Ignis.TableGrowth

-- The backend's tables as a memory: no incident and no call attempt is ever lost, and what a row says
-- of its origin and of the worst that was seen is never taken back, wherever the process is killed.
namespace Ignis.Backend
open Tables Database Communications Escalation Runs

variable {settings : Settings} {app : App} {tick : Tick} {db : Database} {now : Time} {incidentId : String}

-- The transactions of a step that write rows, in their order. The event of the step comes after them,
-- in a transaction of its own.
def commits (settings : Settings) (app : App) (tick : Tick) : List Database :=
  match effect settings app tick with
  | .nothing => []
  | .called incidentId =>
    [app.database.reservedCall tick.now incidentId,(placedCall settings app.database tick.now incidentId).1]
  | other => [other.apply settings app.database tick.now]

-- A step that ends, or the kill of the process after the first, second, … of these transactions; where
-- the step has no such transaction, nothing of it is stored.
inductive Moment where
  | whole (tick : Tick)
  | killed (tick : Tick) (last : ℕ)

def left (settings : Settings) (app : App) (tick : Tick) (last : ℕ) : Database :=
  (commits settings app tick)[last]?.getD app.database

def advance (settings : Settings) (app : App) : Moment → App
  | .whole tick => step settings app tick
  | .killed tick last => launched (left settings app tick last)

theorem commits_hold {P : Database → Prop}
    (reserved : ∀ incidentId, effect settings app tick = .called incidentId → P (app.database.reservedCall tick.now incidentId))
    (done : P ((effect settings app tick).apply settings app.database tick.now)) : ∀ after ∈ commits settings app tick, P after := by
  intro after member
  unfold commits at member
  split at member
  · cases member
  · rename_i incidentId called
    rcases List.mem_cons.mp member with rfl | later
    · exact reserved incidentId called
    · rw [called] at done
      rw [List.mem_singleton.mp later]
      exact done
  · rw [List.mem_singleton.mp member]
    exact done

theorem left_holds {P : Database → Prop} (before : P app.database)
    (reserved : ∀ incidentId, effect settings app tick = .called incidentId → P (app.database.reservedCall tick.now incidentId))
    (done : P ((effect settings app tick).apply settings app.database tick.now)) (last : ℕ) : P (left settings app tick last) := by
  unfold left
  cases there : (commits settings app tick)[last]? with
  | none => exact before
  | some after => exact commits_hold reserved done after (List.mem_of_getElem? there)

-- What is there remains there, though it may be overwritten.
def Remains {α : Type} (before after : Option α) : Prop := before.isSome = true → after.isSome = true

theorem remains_or {α : Type} {before : Option α} (other : Option α) : Remains before (other.or before) := by
  intro present
  cases other with
  | none => exact present
  | some _ => rfl

-- What is there stays, and moves only by `R`.
def Stays {α : Type} (R : α → α → Prop) (before after : Option α) : Prop := ∀ a ∈ before, ∃ b ∈ after, R a b

section Stays
variable {α : Type} {R : α → α → Prop} {a b c : Option α}

theorem stays_refl (refl : ∀ x, R x x) : Stays R a a := fun x present => ⟨x,present,refl x⟩

theorem Stays.trans (steps : ∀ x y z, R x y → R y z → R x z) (first : Stays R a b) (second : Stays R b c) :
    Stays R a c := by
  intro x present
  obtain ⟨y,there,goes⟩ := first x present
  obtain ⟨z,still,follows⟩ := second y there
  exact ⟨z,still,steps x y z goes follows⟩

theorem stays_first (refl : ∀ x, R x x) (other : Option α) : Stays R a (a.or other) := by
  intro x present
  cases present
  exact ⟨x,rfl,refl x⟩

end Stays

structure IncidentFollows (row next : IncidentRow) : Prop where
  deviceId : next.deviceId = row.deviceId
  bootId : next.bootId = row.bootId
  firstZone : next.firstZone = row.firstZone
  firstDetectionMonotonicNs : next.firstDetectionMonotonicNs = row.firstDetectionMonotonicNs
  firstDetectedAt : next.firstDetectedAt = row.firstDetectedAt
  createdAt : next.createdAt = row.createdAt
  confirmedAt : Stays Eq row.confirmedAt next.confirmedAt
  smokeFirst : Stays Eq row.smokeFirst next.smokeFirst
  smokeToFireDelaySeconds : Stays Eq row.smokeToFireDelaySeconds next.smokeToFireDelaySeconds
  resolvedAt : Remains row.resolvedAt next.resolvedAt
  occupantVisible : Remains row.occupantVisible next.occupantVisible
  occupantResponse : Remains row.occupantResponse next.occupantResponse
  callStatus : Remains row.callStatus next.callStatus
  callConversationId : Remains row.callConversationId next.callConversationId
  callSid : Remains row.callSid next.callSid
  primaryFireBbox : Remains row.primaryFireBbox next.primaryFireBbox
  primarySmokeBbox : Remains row.primarySmokeBbox next.primarySmokeBbox
  updatedMonotonicNs : row.updatedMonotonicNs ≤ next.updatedMonotonicNs
  peakFireConfidence : row.peakFireConfidence ≤ next.peakFireConfidence
  peakSmokeConfidence : row.peakSmokeConfidence ≤ next.peakSmokeConfidence
  secondsPersistent : row.secondsPersistent ≤ next.secondsPersistent
  maxGrowthPercent : Stays (· ≤ ·) row.maxGrowthPercent next.maxGrowthPercent

structure AttemptFollows (attempt next : CallAttempt) : Prop where
  incidentId : next.incidentId = attempt.incidentId
  requestedAt : next.requestedAt = attempt.requestedAt
  status : next.status = .requested → attempt.status = .requested

-- What a write leaves alone follows; the rest is said where it is written.
theorem incidentFollows_refl (row : IncidentRow) : IncidentFollows row row := by
  constructor
  case updatedMonotonicNs | peakFireConfidence | peakSmokeConfidence | secondsPersistent => exact le_rfl
  case maxGrowthPercent => exact stays_refl le_refl
  case confirmedAt | smokeFirst | smokeToFireDelaySeconds => exact stays_refl fun _ => rfl
  case resolvedAt | occupantVisible | occupantResponse | callStatus | callConversationId | callSid | primaryFireBbox
      | primarySmokeBbox => exact id
  all_goals rfl

theorem incidentFollows_trans (a b c : IncidentRow) (first : IncidentFollows a b) (second : IncidentFollows b c) :
    IncidentFollows a c where
  deviceId := second.deviceId.trans first.deviceId
  bootId := second.bootId.trans first.bootId
  firstZone := second.firstZone.trans first.firstZone
  firstDetectionMonotonicNs := second.firstDetectionMonotonicNs.trans first.firstDetectionMonotonicNs
  firstDetectedAt := second.firstDetectedAt.trans first.firstDetectedAt
  createdAt := second.createdAt.trans first.createdAt
  confirmedAt := first.confirmedAt.trans (fun _ _ _ => Eq.trans) second.confirmedAt
  smokeFirst := first.smokeFirst.trans (fun _ _ _ => Eq.trans) second.smokeFirst
  smokeToFireDelaySeconds := first.smokeToFireDelaySeconds.trans (fun _ _ _ => Eq.trans) second.smokeToFireDelaySeconds
  resolvedAt := second.resolvedAt ∘ first.resolvedAt
  occupantVisible := second.occupantVisible ∘ first.occupantVisible
  occupantResponse := second.occupantResponse ∘ first.occupantResponse
  callStatus := second.callStatus ∘ first.callStatus
  callConversationId := second.callConversationId ∘ first.callConversationId
  callSid := second.callSid ∘ first.callSid
  primaryFireBbox := second.primaryFireBbox ∘ first.primaryFireBbox
  primarySmokeBbox := second.primarySmokeBbox ∘ first.primarySmokeBbox
  updatedMonotonicNs := first.updatedMonotonicNs.trans second.updatedMonotonicNs
  peakFireConfidence := first.peakFireConfidence.trans second.peakFireConfidence
  peakSmokeConfidence := first.peakSmokeConfidence.trans second.peakSmokeConfidence
  secondsPersistent := first.secondsPersistent.trans second.secondsPersistent
  maxGrowthPercent := first.maxGrowthPercent.trans (fun _ _ _ => le_trans) second.maxGrowthPercent

theorem attemptFollows_refl (attempt : CallAttempt) : AttemptFollows attempt attempt := ⟨rfl,rfl,id⟩

theorem attemptFollows_trans (a b c : CallAttempt) (first : AttemptFollows a b) (second : AttemptFollows b c) :
    AttemptFollows a c :=
  ⟨second.incidentId.trans first.incidentId,second.requestedAt.trans first.requestedAt,
    fun status => first.status (second.status status)⟩

theorem follows_merge (excluded row : IncidentRow) : IncidentFollows row (mergeIncident excluded row) :=
  { incidentFollows_refl row with
    confirmedAt := stays_first (fun _ => rfl) _
    smokeFirst := stays_first (fun _ => rfl) _
    smokeToFireDelaySeconds := stays_first (fun _ => rfl) _
    resolvedAt := remains_or _
    occupantVisible := remains_or _
    primaryFireBbox := remains_or _
    primarySmokeBbox := remains_or _
    updatedMonotonicNs := le_max_left _ _
    peakFireConfidence := le_max_left _ _
    peakSmokeConfidence := le_max_left _ _
    secondsPersistent := le_max_left _ _
    maxGrowthPercent := by
      intro growth stored
      cases stored' : row.maxGrowthPercent with
      | none => rw [stored'] at stored; cases stored
      | some peak =>
        rw [stored'] at stored
        cases stored
        simp only [mergeIncident,stored']
        cases excluded.maxGrowthPercent with
        | none => exact ⟨growth,rfl,le_rfl⟩
        | some reported => exact ⟨max growth reported,rfl,le_max_left _ _⟩ }

-- A reset writes back the answer it has read.
theorem follows_updated {r : ResponseState} {occupantResponse : Option String} {hazardState : Option HazardState}
    (row : IncidentRow) (answer : hazardState.isSome = true → occupantResponse = row.occupantResponse) :
    IncidentFollows row (updatedResponse now r occupantResponse hazardState row) := by
  cases hazardState with
  | none => exact { incidentFollows_refl row with occupantResponse := remains_or _ }
  | some hazard =>
    refine { incidentFollows_refl row with occupantResponse := ?_,resolvedAt := ?_ }
    · intro resolved
      simp only [updatedResponse]
      split
      · rfl
      · exact resolved
    · rw [answer rfl]
      exact id

theorem follows_requested (row : IncidentRow) : IncidentFollows row (requestedIncident now row) :=
  { incidentFollows_refl row with callStatus := fun _ => rfl }

theorem follows_reported {report : Report} {r : ResponseState} (row : IncidentRow) :
    IncidentFollows row (reportedIncident now report r row) :=
  { incidentFollows_refl row with
    callStatus := fun _ => rfl
    callConversationId := remains_or _
    callSid := remains_or _ }

-- What the tables still say of what they said once.
structure Remembers (earlier later : Database) : Prop where
  incidents : Table.Grows IncidentFollows earlier.incidents later.incidents
  callAttempts : Table.Grows AttemptFollows earlier.callAttempts later.callAttempts

theorem remembers_refl (db : Database) : Remembers db db :=
  ⟨Table.grows_refl incidentFollows_refl,Table.grows_refl attemptFollows_refl⟩

theorem remembers_trans (a b c : Database) (first : Remembers a b) (second : Remembers b c) : Remembers a c :=
  ⟨first.incidents.trans incidentFollows_trans second.incidents,
    first.callAttempts.trans attemptFollows_trans second.callAttempts⟩

theorem remembers_reported (db : Database) {attemptId : ℕ} {report : Report} (settled : report.status ≠ .requested) :
    Remembers db ((db.updateCallAttempt now attemptId report).getD db) := by
  unfold updateCallAttempt
  split
  · refine ⟨?_,?_⟩
    · exact Table.grows_modify incidentFollows_refl (reportedIncident_incidentId _ _ _) fun row _ => follows_reported row
    · exact Table.grows_modify attemptFollows_refl (reportedAttempt_id _ _) fun row _ =>
        ⟨rfl,rfl,fun status => absurd status settled⟩
  · exact remembers_refl db

theorem remembers_reserved (db : Database) (now : Time) (incidentId : String) : Remembers db (db.reservedCall now incidentId) := by
  refine ⟨?_,?_⟩
  · exact Table.grows_modify incidentFollows_refl (requestedIncident_incidentId _) fun row _ => follows_requested row
  · exact Table.grows_push attemptFollows_refl _ (requestedAttempt_id _ _)

theorem remembers_called (settings : Settings) (db : Database) (now : Time) (incidentId : String) :
    Remembers db ((Effect.called incidentId).apply settings db now) := by
  have reserved := remembers_reserved db now incidentId
  simp only [Effect.apply,placedCall]
  split
  · exact reserved
  · cases settings.callProvider with
    | elevenlabs => exact reserved
    | mock => exact remembers_trans _ _ _ reserved (remembers_reported _ (by simp [initiated]))

theorem remembers_responded (settings : Settings) {r : ResponseState} {occupantResponse : Option String}
    {hazardState : Option HazardState} (answer : ∀ row, db.getIncident incidentId = some row → hazardState.isSome = true →
      occupantResponse = row.occupantResponse) :
    Remembers db ((Effect.responded incidentId r occupantResponse hazardState).apply settings db now) := by
  simp only [Effect.apply,updateIncidentResponse]
  split
  · refine ⟨?_,Table.grows_refl attemptFollows_refl⟩
    exact Table.grows_modify incidentFollows_refl updatedResponse_incidentId fun row found =>
      follows_updated row (answer row found)
  · exact remembers_refl db

theorem remembers_caused {effect : Effect} (caused : Caused settings app tick effect) :
    Remembers app.database (effect.apply settings app.database tick.now) := by
  cases caused with
  | nothing => exact remembers_refl _
  | confirm found guard => exact remembers_responded settings fun _ _ there => by cases there
  | cancel found guard => exact remembers_responded settings fun _ _ there => by cases there
  | wake runs found guard => exact remembers_responded settings fun _ _ there => by cases there
  | reset found guard =>
    refine remembers_responded settings fun row there _ => ?_
    rw [Option.some.inj (found.symm.trans there)]
  | dispatch armed gate => exact remembers_called settings _ _ _
  | dial dialling gate => exact remembers_called settings _ _ _
  | webhook authentic found => exact remembers_reported _ (webhook_status _)
  | answer waits stored => exact remembers_reported _ (report_status stored)
  | update armed =>
    simp only [Effect.apply,upsertIncident]
    split
    · refine ⟨?_,Table.grows_refl attemptFollows_refl⟩
      exact Table.grows_upsert incidentFollows_refl _ fun row _ => follows_merge _ row
    · exact remembers_refl _

theorem remembers_step (settings : Settings) (app : App) (tick : Tick) :
    Remembers app.database (step settings app tick).database := by
  have written := remembers_caused (effect_caused settings app tick)
  have same := step_rows settings app tick
  have incidents : (step settings app tick).database.incidents = _ := congrArg Prod.fst same
  have attempts : (step settings app tick).database.callAttempts = _ := congrArg Prod.snd same
  exact ⟨incidents ▸ written.incidents,attempts ▸ written.callAttempts⟩

theorem remembers_advance (settings : Settings) (app : App) (moment : Moment) :
    Remembers app.database (advance settings app moment).database := by
  cases moment with
  | whole tick => exact remembers_step settings app tick
  | killed tick last =>
    apply left_holds (P := Remembers app.database) (remembers_refl _)
    · exact fun incidentId _ => remembers_reserved app.database tick.now incidentId
    · exact remembers_caused (effect_caused settings app tick)

-- With restarts and with kills between the transactions of a step.
theorem nothing_forgotten (settings : Settings) (app : App) (moments : List Moment) :
    Remembers app.database (run (advance settings) app moments).database :=
  run_related (R := fun a b : App => Remembers a.database b.database) (fun _ => remembers_refl _)
    (fun _ _ _ => remembers_trans _ _ _) (remembers_advance settings)

theorem incident_kept {row : IncidentRow} (found : app.database.getIncident incidentId = some row) :
    ((step settings app tick).database.getIncident incidentId).isSome = true := by
  obtain ⟨next,there,_⟩ := (remembers_step settings app tick).incidents incidentId row found
  exact Option.isSome_iff_exists.mpr ⟨next,there⟩

end Ignis.Backend
