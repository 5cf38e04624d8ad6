import Ignis.UpdateOrder

-- The merge keeps the largest time of an incident's updates, but hazard state and zone of whatever comes last.
namespace Ignis.Backend
open Tables Database

structure Sighting where
  hazardState : HazardState
  currentZone : String
deriving DecidableEq

def sighted (update : DeviceUpdate) : Sighting := ⟨update.data.hazardState,update.data.currentZone⟩
def sighting (row : IncidentRow) : Sighting := ⟨row.hazardState,row.currentZone⟩

-- SQLite takes both times of the update; otherwise the statement raises.
def DeviceUpdate.storable (update : DeviceUpdate) : Bool :=
  fitsInteger update.data.firstDetectionMonotonicNs && fitsInteger update.data.updatedMonotonicNs

def measuredAt (delivery : Time × DeviceUpdate) : ℕ := delivery.2.data.updatedMonotonicNs

structure Sightings (incidentId : String) (updates : List (Time × DeviceUpdate)) : Prop where
  own : ∀ delivery ∈ updates, delivery.2.data.incidentId = incidentId
  distinct : (updates.map measuredAt).Nodup
  unresolved : ∀ delivery ∈ updates, delivery.2.data.hazardState ≠ .resolved

def Newest (updates : List (Time × DeviceUpdate)) (newest : Time × DeviceUpdate) : Prop :=
  newest ∈ updates ∧ ∀ delivery ∈ updates, measuredAt delivery ≤ measuredAt newest

def lastStored (updates : List (Time × DeviceUpdate)) : Option DeviceUpdate :=
  (updates.filter fun delivery => delivery.2.storable).getLast?.map Prod.snd

variable {db : Database} {now first second : Time} {incidentId : String} {update : DeviceUpdate}

theorem store_unstorable (refused : update.storable = false) : update.store db now = db := by
  unfold DeviceUpdate.storable at refused
  simp only [DeviceUpdate.store,upsertIncident,refused,Bool.false_eq_true,if_false,Option.getD_none]

theorem store_getIncident (stores : update.storable = true) :
    (update.store db now).getIncident incidentId =
      if incidentId = update.data.incidentId then
        some (((db.getIncident incidentId).map (mergeIncident (insertedIncident now update.data update.hello.deviceId
          update.hello.bootId))).getD (insertedIncident now update.data update.hello.deviceId update.hello.bootId))
      else db.getIncident incidentId := by
  unfold DeviceUpdate.storable at stores
  simp only [DeviceUpdate.store,upsertIncident,stores,if_true,Option.getD_some,getIncident,Table.find_upsert,
    insertedIncident]
  split
  · rename_i own
    rw [own]
  · rfl

theorem storedAll_snoc (updates : List (Time × DeviceUpdate)) (delivery : Time × DeviceUpdate) :
    storedAll db (updates ++ [delivery]) = delivery.2.store (storedAll db updates) delivery.1 := by
  simp [storedAll]

theorem lastStored_snoc (updates : List (Time × DeviceUpdate)) (delivery : Time × DeviceUpdate) :
    lastStored (updates ++ [delivery]) = if delivery.2.storable then some delivery.2 else lastStored updates := by
  unfold lastStored
  rw [List.filter_append]
  cases stores : delivery.2.storable <;> simp [stores]

theorem sighting_stored (stores : update.storable = true) (own : update.data.incidentId = incidentId) :
    ((update.store db now).getIncident incidentId).map sighting = some (sighted update) := by
  rw [store_getIncident stores,if_pos own.symm]
  cases db.getIncident incidentId <;> rfl

theorem sighting_storedAll (updates : List (Time × DeviceUpdate))
    (own : ∀ delivery ∈ updates, delivery.2.data.incidentId = incidentId) :
    ((storedAll db updates).getIncident incidentId).map sighting =
      ((lastStored updates).map sighted).or ((db.getIncident incidentId).map sighting) := by
  induction updates using List.reverseRecOn with
  | nil => rfl
  | append_singleton updates delivery ih =>
    rw [storedAll_snoc,lastStored_snoc]
    cases stores : delivery.2.storable with
    | true =>
      have mine : delivery.2.data.incidentId = incidentId := own delivery (by simp)
      rw [sighting_stored stores mine]
      rfl
    | false =>
      rw [store_unstorable stores]
      apply ih
      intro earlier member
      exact own earlier (List.mem_append_left _ member)

def NewestWins (db : Database) (incidentId : String) (updates : List (Time × DeviceUpdate)) : Prop :=
  ∀ newest, Newest updates newest →
    ((storedAll db updates).getIncident incidentId).map sighting = some (sighted newest.2)

def LastAgrees (updates : List (Time × DeviceUpdate)) : Prop :=
  ∀ newest, Newest updates newest → (lastStored updates).map sighted = some (sighted newest.2)

theorem newest_wins_iff (db : Database) (incidentId : String) (absent : db.getIncident incidentId = none)
    (updates : List (Time × DeviceUpdate)) (sightings : Sightings incidentId updates) :
    NewestWins db incidentId updates ↔ LastAgrees updates := by
  have stored : ((storedAll db updates).getIncident incidentId).map sighting = (lastStored updates).map sighted := by
    rw [sighting_storedAll updates sightings.own,absent,Option.map_none,Option.or_none]
  constructor
  · intro wins newest latest
    rw [← stored]
    exact wins newest latest
  · intro agrees newest latest
    rw [stored]
    exact agrees newest latest

-- The confirmed fire of the backend's tests, and what the Pi saw of it a second before.
def verifyingUpdate : DeviceUpdate :=
  ⟨{ confirmedIncident with hazardState := .verifying, updatedMonotonicNs := 5000000000 },"ignis-qnxpi-01","boot-test"⟩

def inOrder : List (Time × DeviceUpdate) := [(1000000,verifyingUpdate),(2000000,repeatedUpdate)]
def outOfOrder : List (Time × DeviceUpdate) := [(1000000,repeatedUpdate),(2000000,verifyingUpdate)]

theorem inOrder_newest_wins : NewestWins initialized confirmedIncident.incidentId inOrder := by
  have sightings : Sightings confirmedIncident.incidentId inOrder :=
    ⟨by decide +kernel,by decide +kernel,by decide +kernel⟩
  apply (newest_wins_iff initialized confirmedIncident.incidentId rfl inOrder sightings).mpr
  rintro newest ⟨member,latest⟩
  rcases List.mem_cons.mp member with rfl | member
  · have later := latest (2000000,repeatedUpdate) (by simp [inOrder])
    revert later
    decide +kernel
  · obtain rfl := List.mem_singleton.mp member
    decide +kernel

theorem outOfOrder_oldest_wins :
    Sightings confirmedIncident.incidentId outOfOrder ∧ ¬ NewestWins initialized confirmedIncident.incidentId outOfOrder := by
  have sightings : Sightings confirmedIncident.incidentId outOfOrder :=
    ⟨by decide +kernel,by decide +kernel,by decide +kernel⟩
  refine ⟨sightings,?_⟩
  intro wins
  have confirmed := wins (1000000,repeatedUpdate) ⟨List.mem_cons_self,by decide +kernel⟩
  rw [sighting_storedAll outOfOrder sightings.own] at confirmed
  revert confirmed
  decide +kernel

-- The same update twice. Every merged column keeps its value, but a repeated resolution
-- moves `resolved_at`.
theorem resolvedAt_replayed (resolves : update.data.hazardState = .resolved) (row : IncidentRow) :
    (mergeIncident (insertedIncident now update.data update.hello.deviceId update.hello.bootId) row).resolvedAt = some now := by
  simp [mergeIncident,insertedIncident,resolves]

theorem largerGrowth_again (stored excluded : Option Number) :
    largerGrowth (largerGrowth stored excluded) excluded = largerGrowth stored excluded := by
  cases stored <;> cases excluded <;> simp [largerGrowth]

theorem first_again {α : Type} {stored excluded again : Option α} (known : excluded = none → again = none) :
    (stored.or excluded).or again = stored.or excluded := by
  cases stored with
  | some value => rfl
  | none =>
    cases excluded with
    | some value => rfl
    | none => simp [known rfl]

theorem latest_again {α : Type} {stored excluded again : Option α} (known : again = none ∨ again = excluded) :
    again.or (excluded.or stored) = excluded.or stored := by
  rcases known with rfl | rfl
  · rfl
  · cases again <;> rfl

-- `resolved_at` takes the later clock, so only an update that does not resolve is absorbed.
theorem resolvedAt_again (unresolved : update.data.hazardState ≠ .resolved ∨ first = second) (stored : Option Time) :
    (if update.data.hazardState = .resolved then some second else none).or
        ((if update.data.hazardState = .resolved then some first else none).or stored) =
      (if update.data.hazardState = .resolved then some first else none).or stored := by
  apply latest_again
  rcases unresolved with other | rfl
  · exact .inl (if_neg other)
  · exact .inr rfl

theorem merged_again (unresolved : update.data.hazardState ≠ .resolved ∨ first = second) (row : IncidentRow)
    (deviceId bootId : String) :
    undated (mergeIncident (insertedIncident second update.data deviceId bootId)
        (mergeIncident (insertedIncident first update.data deviceId bootId) row)) =
      undated (mergeIncident (insertedIncident first update.data deviceId bootId) row) := by
  have resolved := resolvedAt_again unresolved row.resolvedAt
  have confirmed : (row.confirmedAt.or (if update.data.hazardState = .confirmed then some first else none)).or
      (if update.data.hazardState = .confirmed then some second else none) =
        row.confirmedAt.or (if update.data.hazardState = .confirmed then some first else none) := by
    apply first_again
    split <;> simp
  simp only [undated,mergeIncident,insertedIncident,IncidentRow.mk.injEq,largerGrowth_again,resolved,confirmed,
    first_again id,latest_again (.inr rfl)]
  split <;> simp

theorem merged_inserted (unresolved : update.data.hazardState ≠ .resolved ∨ first = second)
    (deviceId bootId : String) :
    undated (mergeIncident (insertedIncident second update.data deviceId bootId)
        (insertedIncident first update.data deviceId bootId)) =
      undated (insertedIncident first update.data deviceId bootId) := by
  have resolved := resolvedAt_again unresolved none
  have confirmed : (if update.data.hazardState = .confirmed then some first else none).or
      (if update.data.hazardState = .confirmed then some second else none) =
        (if update.data.hazardState = .confirmed then some first else none) := by
    split <;> rfl
  have growth : largerGrowth update.data.fireRegionGrowthPercent update.data.fireRegionGrowthPercent =
      update.data.fireRegionGrowthPercent := by
    cases update.data.fireRegionGrowthPercent <;> simp [largerGrowth]
  rw [Option.or_none] at resolved
  simp only [undated,mergeIncident,insertedIncident,IncidentRow.mk.injEq,resolved,confirmed,growth]
  simp
  exact ite_self _

theorem undated_resolvedAt {a b : IncidentRow} (same : undated a = undated b) : a.resolvedAt = b.resolvedAt := by
  have dated : (undated a).resolvedAt = (undated b).resolvedAt := by rw [same]
  exact dated

theorem getIncident_twice (db : Database) (first second : Time) (stores : update.storable = true) :
    ∃ once, (update.store db first).getIncident update.data.incidentId = some once ∧
      (update.store (update.store db first) second).getIncident update.data.incidentId =
        some (mergeIncident (insertedIncident second update.data update.hello.deviceId update.hello.bootId) once) := by
  have found : (update.store db first).getIncident update.data.incidentId = _ := store_getIncident stores
  rw [if_pos rfl] at found
  refine ⟨_,found,?_⟩
  rw [store_getIncident stores,if_pos rfl,found]
  rfl

theorem resolution_moves (stores : update.storable = true) (resolves : update.data.hazardState = .resolved)
    (same : ((update.store (update.store db first) second).getIncident update.data.incidentId).map undated =
      ((update.store db first).getIncident update.data.incidentId).map undated) : first = second := by
  obtain ⟨once,found,again⟩ := getIncident_twice db first second stores
  rw [again,found,Option.map_some,Option.map_some,Option.some.injEq] at same
  have times := undated_resolvedAt same
  rw [resolvedAt_replayed resolves] at times
  have before : once.resolvedAt = some first := by
    rw [store_getIncident stores,if_pos rfl,Option.some.injEq] at found
    rw [← found]
    cases db.getIncident update.data.incidentId with
    | none => simp [insertedIncident,resolves]
    | some row => exact resolvedAt_replayed resolves row
  rw [before] at times
  exact (Option.some.inj times).symm

-- The row stays as it is, apart from `updated_at`.
theorem replay_harmless_iff (db : Database) (update : DeviceUpdate) (first second : Time) :
    ((update.store (update.store db first) second).getIncident update.data.incidentId).map undated =
        ((update.store db first).getIncident update.data.incidentId).map undated ↔
      update.storable = false ∨ update.data.hazardState ≠ .resolved ∨ first = second := by
  cases stores : update.storable with
  | false => simp [store_unstorable stores]
  | true =>
    simp only [Bool.true_eq_false,false_or]
    constructor
    · intro same
      by_cases resolves : update.data.hazardState = .resolved
      · exact .inr (resolution_moves stores resolves same)
      · exact .inl resolves
    · intro unresolved
      rw [store_getIncident stores,store_getIncident stores,if_pos rfl,if_pos rfl,Option.map_some,Option.map_some,
        Option.map_some,Option.getD_some,Option.some.injEq]
      cases db.getIncident update.data.incidentId with
      | none => exact merged_inserted unresolved _ _
      | some row => exact merged_again unresolved row _ _

-- The Pi reports twice that the fire is over, and its row is dated anew.
def resolvedUpdate : DeviceUpdate :=
  ⟨{ confirmedIncident with hazardState := .resolved, updatedMonotonicNs := 9000000000 },"ignis-qnxpi-01","boot-test"⟩

theorem replay_resolves_again :
    ¬ ((resolvedUpdate.store (resolvedUpdate.store storedIncident 2000000) 3000000).getIncident
          resolvedUpdate.data.incidentId).map undated =
        ((resolvedUpdate.store storedIncident 2000000).getIncident resolvedUpdate.data.incidentId).map undated := by
  intro same
  have clocks := resolution_moves (by decide +kernel) rfl same
  revert clocks
  decide

end Ignis.Backend
