import Ignis.Redelivery

-- Each evidence column of an incident is a fold over its device updates alone.
namespace Ignis.Backend
open Tables Database Runs

inductive Operation where
  | update (update : DeviceUpdate)
  | event (incidentId eventType source : String) (monotonicNs : Option ℕ) (occurredAt : Option String)
  | response (incidentId : String) (responseState : ResponseState) (occupantResponse : Option String)
      (hazardState : Option HazardState)
  | reserve (incidentId : String) (cooldownSeconds maxCalls : ℕ)
  | attempt (attemptId : ℕ) (report : Report)

-- One that raises leaves the tables as they are.
def Operation.store (db : Database) (operation : Time × Operation) : Database :=
  match operation.2 with
  | .update sent => sent.store db operation.1
  | .event incidentId eventType source monotonicNs occurredAt =>
    (db.addEvent operation.1 incidentId eventType source monotonicNs occurredAt).getD db
  | .response incidentId responseState occupantResponse hazardState =>
    (db.updateIncidentResponse operation.1 incidentId responseState occupantResponse hazardState).getD db
  | .reserve incidentId cooldownSeconds maxCalls =>
    match db.reserveCallAttempt operation.1 incidentId cooldownSeconds maxCalls with
    | .ok (_,reserved) => reserved
    | .error _ => db
  | .attempt attemptId report => (db.updateCallAttempt operation.1 attemptId report).getD db

def sent (incidentId : String) (operations : List (Time × Operation)) : List (Time × DeviceUpdate) :=
  operations.filterMap fun operation =>
    match operation.2 with
    | .update sent => if sent.data.incidentId = incidentId then some (operation.1,sent) else none
    | _ => none

def received (incidentId : String) (operations : List (Time × Operation)) : List (Time × DeviceUpdate) :=
  (sent incidentId operations).filter fun delivery => delivery.2.storable

theorem received_append (incidentId : String) (earlier later : List (Time × Operation)) :
    received incidentId (earlier ++ later) = received incidentId earlier ++ received incidentId later := by
  simp only [received,sent,List.filterMap_append,List.filter_append]

theorem received_update (incidentId : String) (now : Time) (update : DeviceUpdate) :
    received incidentId [(now,.update update)] =
      if update.storable = true ∧ update.data.incidentId = incidentId then [(now,update)] else [] := by
  by_cases own : update.data.incidentId = incidentId
  · cases stores : update.storable <;> simp [received,sent,own,stores]
  · simp [received,sent,own]

def largest {α : Type} [Max α] (value : IncidentUpdate → Option α) (updates : List (Time × DeviceUpdate)) : Option α :=
  (updates.filterMap fun delivery => value delivery.2.data).max?

def earliest {α : Type} (value : IncidentUpdate → Option α) (updates : List (Time × DeviceUpdate)) : Option α :=
  updates.findSome? fun delivery => value delivery.2.data

structure Evidence where
  deviceId : String
  bootId : String
  firstDetectionMonotonicNs : ℕ
  updatedMonotonicNs : ℕ
  confirmedAt : Option Time
  firstZone : String
  peakFireConfidence : Number
  peakSmokeConfidence : Number
  maxGrowthPercent : Option Number
  smokeFirst : Option Bool
  smokeToFireDelaySeconds : Option Number
  secondsPersistent : Number
  createdAt : Time

def evidence (row : IncidentRow) : Evidence where
  deviceId := row.deviceId
  bootId := row.bootId
  firstDetectionMonotonicNs := row.firstDetectionMonotonicNs
  updatedMonotonicNs := row.updatedMonotonicNs
  confirmedAt := row.confirmedAt
  firstZone := row.firstZone
  peakFireConfidence := row.peakFireConfidence
  peakSmokeConfidence := row.peakSmokeConfidence
  maxGrowthPercent := row.maxGrowthPercent
  smokeFirst := row.smokeFirst
  smokeToFireDelaySeconds := row.smokeToFireDelaySeconds
  secondsPersistent := row.secondsPersistent
  createdAt := row.createdAt

structure Folded (updates : List (Time × DeviceUpdate)) (stored : Evidence) : Prop where
  peakFireConfidence : largest (fun data => some data.fireConfidence) updates = some stored.peakFireConfidence
  peakSmokeConfidence : largest (fun data => some data.smokeConfidence) updates = some stored.peakSmokeConfidence
  secondsPersistent : largest (fun data => some data.secondsPersistent) updates = some stored.secondsPersistent
  updatedMonotonicNs : largest (fun data => some data.updatedMonotonicNs) updates = some stored.updatedMonotonicNs
  maxGrowthPercent : largest (fun data => data.fireRegionGrowthPercent) updates = stored.maxGrowthPercent
  confirmedAt : (updates.find? fun delivery => delivery.2.data.hazardState = .confirmed).map Prod.fst = stored.confirmedAt
  smokeFirst : earliest (fun data => data.smokeFirst) updates = stored.smokeFirst
  smokeToFireDelaySeconds : earliest (fun data => data.smokeToFireDelaySeconds) updates = stored.smokeToFireDelaySeconds
  first : ∃ now update, updates.head? = some (now,update) ∧
    stored.deviceId = orElse update.data.deviceId update.hello.deviceId ∧
    stored.bootId = orElse update.data.bootId update.hello.bootId ∧
    stored.firstZone = update.data.firstZone ∧
    stored.firstDetectionMonotonicNs = update.data.firstDetectionMonotonicNs ∧
    stored.createdAt = now

variable {db : Database} {now : Time} {incidentId : String} {update : DeviceUpdate} {updates : List (Time × DeviceUpdate)}

theorem max?_snoc {α : Type} [Max α] (values : List α) (value : α) :
    (values ++ [value]).max? = some ((values.max?.map fun largest => max largest value).getD value) := by
  cases values with
  | nil => rfl
  | cons head rest => simp [List.max?_cons',List.foldl_append]

theorem largest_snoc {α : Type} [Max α] (value : IncidentUpdate → Option α) (delivery : Time × DeviceUpdate) :
    largest value (updates ++ [delivery]) =
      match value delivery.2.data with
      | none => largest value updates
      | some new => some (((largest value updates).map fun stored => max stored new).getD new) := by
  unfold largest
  rw [List.filterMap_append]
  cases here : value delivery.2.data with
  | none => simp [here]
  | some new => simp [here,max?_snoc]

theorem earliest_snoc {α : Type} (value : IncidentUpdate → Option α) (delivery : Time × DeviceUpdate) :
    earliest value (updates ++ [delivery]) = (earliest value updates).or (value delivery.2.data) := by
  unfold earliest
  rw [List.findSome?_append]
  simp

theorem folded_inserted : Folded [(now,update)] (evidence (insertedIncident now update.data update.hello.deviceId
    update.hello.bootId)) where
  peakFireConfidence := rfl
  peakSmokeConfidence := rfl
  secondsPersistent := rfl
  updatedMonotonicNs := rfl
  maxGrowthPercent := by
    cases growth : update.data.fireRegionGrowthPercent <;> simp [largest,evidence,insertedIncident,growth]
  confirmedAt := by
    by_cases confirmed : update.data.hazardState = .confirmed <;> simp [evidence,insertedIncident,confirmed]
  smokeFirst := by simp [earliest,evidence,insertedIncident]
  smokeToFireDelaySeconds := by simp [earliest,evidence,insertedIncident]
  first := ⟨now,update,rfl,rfl,rfl,rfl,rfl,rfl⟩

theorem folded_merged {row : IncidentRow} (folded : Folded updates (evidence row)) :
    Folded (updates ++ [(now,update)]) (evidence (mergeIncident (insertedIncident now update.data update.hello.deviceId
      update.hello.bootId) row)) where
  peakFireConfidence := by rw [largest_snoc,folded.peakFireConfidence]; rfl
  peakSmokeConfidence := by rw [largest_snoc,folded.peakSmokeConfidence]; rfl
  secondsPersistent := by rw [largest_snoc,folded.secondsPersistent]; rfl
  updatedMonotonicNs := by rw [largest_snoc,folded.updatedMonotonicNs]; rfl
  maxGrowthPercent := by
    rw [largest_snoc,folded.maxGrowthPercent]
    cases growth : update.data.fireRegionGrowthPercent <;> cases stored : row.maxGrowthPercent <;>
      simp [evidence,mergeIncident,insertedIncident,largerGrowth,growth,stored]
  confirmedAt := by
    rw [List.find?_append,Option.map_or,folded.confirmedAt]
    by_cases confirmed : update.data.hazardState = .confirmed <;>
      simp [evidence,mergeIncident,insertedIncident,confirmed]
  smokeFirst := by rw [earliest_snoc,folded.smokeFirst]; rfl
  smokeToFireDelaySeconds := by rw [earliest_snoc,folded.smokeToFireDelaySeconds]; rfl
  first := by
    obtain ⟨received,earlier,head,parts⟩ := folded.first
    refine ⟨received,earlier,?_,parts⟩
    rw [List.head?_append,head]
    rfl

theorem evidence_response (responseState : ResponseState) (occupantResponse : Option String)
    (hazardState : Option HazardState) (row : IncidentRow) :
    evidence (updatedResponse now responseState occupantResponse hazardState row) = evidence row := by
  cases hazardState <;> rfl

def storedEvidence (db : Database) (incidentId : String) : Option Evidence := (db.getIncident incidentId).map evidence

theorem evidence_modified {target : String} {f : IncidentRow → IncidentRow}
    (keeps : ∀ row, (f row).incidentId = row.incidentId) (same : ∀ row, evidence (f row) = evidence row) :
    ((db.incidents.modify target f keeps).find incidentId).map evidence = storedEvidence db incidentId :=
  Table.map_find_modify keeps same

theorem storedEvidence_kept (now : Time) (operation : Operation) (idle : received incidentId [(now,operation)] = []) :
    storedEvidence (Operation.store db (now,operation)) incidentId = storedEvidence db incidentId := by
  cases operation with
  | update sent =>
    simp only [Operation.store]
    cases stores : sent.storable with
    | false => rw [store_unstorable stores]
    | true =>
      have other : ¬ incidentId = sent.data.incidentId := by
        rintro rfl
        rw [received_update,if_pos ⟨stores,rfl⟩] at idle
        cases idle
      rw [storedEvidence,store_getIncident stores,if_neg other]
      rfl
  | event target eventType source monotonicNs occurredAt =>
    simp only [Operation.store,addEvent]
    split <;> rfl
  | response target responseState occupantResponse hazardState =>
    simp only [Operation.store,updateIncidentResponse]
    split
    · exact evidence_modified updatedResponse_incidentId (evidence_response responseState occupantResponse hazardState)
    · rfl
  | reserve target cooldownSeconds maxCalls =>
    simp only [Operation.store]
    obtain ⟨_,reserved⟩ | ⟨_,refusal,refused⟩ := db.reserveCallAttempt_cases now target cooldownSeconds maxCalls
    · rw [reserved]
      exact evidence_modified (requestedIncident_incidentId now) fun _ => rfl
    · rw [refused]
  | attempt attemptId report =>
    simp only [Operation.store,updateCallAttempt]
    split
    · exact evidence_modified (reportedIncident_incidentId now report _) fun _ => rfl
    · rfl

theorem folded_update (stores : update.storable = true) (own : update.data.incidentId = incidentId)
    (before : (updates = [] ∧ storedEvidence db incidentId = none) ∨
      ∃ stored, storedEvidence db incidentId = some stored ∧ Folded updates stored) :
    ∃ stored, storedEvidence (update.store db now) incidentId = some stored ∧ Folded (updates ++ [(now,update)]) stored := by
  rw [storedEvidence,store_getIncident stores,if_pos own.symm]
  unfold storedEvidence at before
  cases found : db.getIncident incidentId with
  | none =>
    rw [found] at before
    obtain ⟨rfl,_⟩ | ⟨stored,impossible,_⟩ := before
    · exact ⟨_,rfl,folded_inserted⟩
    · cases impossible
  | some row =>
    rw [found] at before
    obtain ⟨_,impossible⟩ | ⟨stored,same,folded⟩ := before
    · cases impossible
    · cases same
      exact ⟨_,rfl,folded_merged folded⟩

-- Whatever else is stored between the updates.
theorem evidence_folds (operations : List (Time × Operation)) (incidentId : String) :
    (received incidentId operations = [] ∧ storedEvidence (run Operation.store initialized operations) incidentId = none) ∨
      ∃ stored, storedEvidence (run Operation.store initialized operations) incidentId = some stored ∧
        Folded (received incidentId operations) stored := by
  induction operations using List.reverseRecOn with
  | nil => exact .inl ⟨rfl,rfl⟩
  | append_singleton operations operation ih =>
    obtain ⟨now,operation⟩ := operation
    rw [run_snoc,received_append]
    by_cases idle : received incidentId [(now,operation)] = []
    · rw [idle,List.append_nil,storedEvidence_kept now operation idle]
      exact ih
    · cases operation with
      | update sent =>
        by_cases stored : sent.storable = true ∧ sent.data.incidentId = incidentId
        · rw [received_update,if_pos stored]
          exact .inr (folded_update stored.1 stored.2 ih)
        · rw [received_update,if_neg stored] at idle
          exact absurd rfl idle
      | _ => exact absurd rfl idle

-- A valid update whose time is one more than an INTEGER column holds is not stored.
def oversizedUpdate : DeviceUpdate :=
  ⟨{ confirmedIncident with updatedMonotonicNs := 2 ^ 63 },"ignis-qnxpi-01","boot-test"⟩

theorem oversized_not_folded :
    sent confirmedIncident.incidentId [(1000000,.update oversizedUpdate)] = [(1000000,oversizedUpdate)] ∧
      ¬ ∃ stored, storedEvidence (run Operation.store initialized [(1000000,.update oversizedUpdate)])
          confirmedIncident.incidentId = some stored ∧
        Folded (sent confirmedIncident.incidentId [(1000000,.update oversizedUpdate)]) stored := by
  have lost : storedEvidence (run Operation.store initialized [(1000000,.update oversizedUpdate)])
      confirmedIncident.incidentId = none := by
    rw [run_cons,run_nil]
    exact congrArg (storedEvidence · confirmedIncident.incidentId) (store_unstorable (by decide +kernel))
  refine ⟨by simp [sent,oversizedUpdate],?_⟩
  rintro ⟨stored,found,_⟩
  rw [lost] at found
  cases found

end Ignis.Backend
