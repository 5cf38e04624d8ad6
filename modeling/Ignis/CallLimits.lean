import Ignis.BackendRecords

-- The call policy looks only when an attempt is reserved; a report can revive a failed one.
namespace Ignis.Backend
open Tables Database Communications Escalation Runs

variable {settings : Settings} {app : App} {tick : Tick} {db : Database} {incidentId : String}

def spaced (settings : Settings) (a b : CallAttempt) : Prop :=
  a.requestedAt + microseconds settings.globalCallCooldownSeconds ≤ b.requestedAt ∨
    b.requestedAt + microseconds settings.globalCallCooldownSeconds ≤ a.requestedAt

instance (settings : Settings) (a b : CallAttempt) : Decidable (spaced settings a b) :=
  inferInstanceAs (Decidable (_ ∨ _))

theorem spaced_symm {a b : CallAttempt} (apart : spaced settings a b) : spaced settings b a := apart.symm

structure CallLimit (settings : Settings) (db : Database) : Prop where
  counted : ∀ incidentId, db.activeCalls incidentId ≤ settings.maxCallsPerIncident
  apart : ∀ a ∈ db.callAttempts.rows, ∀ b ∈ db.callAttempts.rows, a.active = true → b.active = true → a.id ≠ b.id →
    spaced settings a b

def revived (settings : Settings) (app : App) (tick : Tick) : Option CallAttempt :=
  match effect settings app tick with
  | .reported attemptId report =>
    if activeStatuses.contains report.status then
      (app.database.callAttempts.find attemptId).filter fun attempt => !attempt.active
    else none
  | _ => none

def roomFor (settings : Settings) (db : Database) (attempt : CallAttempt) : Bool :=
  db.activeCalls attempt.incidentId < settings.maxCallsPerIncident &&
    db.callAttempts.rows.all fun other => !other.active || decide (spaced settings attempt other)

def revivedInRoom (settings : Settings) (app : App) (tick : Tick) : Bool :=
  (revived settings app tick).all (roomFor settings app.database)

theorem CallLimit.of_attempts {a b : Database} (same : a.callAttempts = b.callAttempts) (limit : CallLimit settings b) :
    CallLimit settings a := by
  constructor
  · intro incidentId
    rw [activeCalls,same]
    exact limit.counted incidentId
  · rw [same]
    exact limit.apart

theorem initialized_limit : CallLimit settings Database.initialized :=
  ⟨fun _ => Nat.zero_le _,fun _ member => by cases member⟩

theorem called_limit {now : Time} (limit : CallLimit settings db)
    (gate : callable settings db now incidentId = true) :
    CallLimit settings ((Effect.called incidentId).apply settings db now) := by
  obtain ⟨make,numbered,pushed,parts⟩ := called_parts settings db now incidentId
  simp only [callable,policyOpen,Bool.and_eq_true,decide_eq_true_eq,Bool.not_eq_true'] at gate
  obtain ⟨_,⟨_,room⟩,cooled⟩ := gate
  have recent : ∀ b ∈ db.callAttempts.rows, b.active = true →
      b.requestedAt + microseconds settings.globalCallCooldownSeconds ≤ now := by
    intro b member active
    have listed : b.requestedAt ∈ (db.callAttempts.rows.filter CallAttempt.active).map CallAttempt.requestedAt :=
      List.mem_map_of_mem (List.mem_filter.mpr ⟨member,active⟩)
    obtain ⟨latest,newest⟩ := Option.isSome_iff_exists.mp (List.isSome_max?_of_mem listed)
    have below : b.requestedAt ≤ latest := (List.max?_le_iff newest).mp (Nat.le_refl _) _ listed
    have old : ¬ now < latest + microseconds settings.globalCallCooldownSeconds := by
      have known : db.latestRequest = some latest := newest
      rw [coolingDown,known,Option.any_some] at cooled
      exact of_decide_eq_false cooled
    exact Nat.le_trans (Nat.add_le_add_right below _) (Nat.not_lt.mp old)
  constructor
  · intro other
    rw [activeCalls,pushed,Table.countP_push]
    obtain ⟨owner,_,_⟩ := parts db.callAttempts.next
    have before := limit.counted other
    by_cases own : incidentId = other
    · subst own
      have filled : db.activeCalls incidentId + 1 ≤ settings.maxCallsPerIncident := room
      refine Nat.le_trans (Nat.add_le_add_left ?_ _) filled
      split <;> omega
    · rw [owner,if_neg (by simp [own])]
      exact before
  · rw [pushed,Table.rows_push]
    intro a memberA b memberB activeA activeB different
    rw [List.mem_append,List.mem_singleton] at memberA memberB
    obtain ⟨_,requested,_⟩ := parts db.callAttempts.next
    rcases memberA with oldA | rfl
    · rcases memberB with oldB | rfl
      · exact limit.apart a oldA b oldB activeA activeB different
      · exact .inl (by rw [requested]; exact recent a oldA activeA)
    · rcases memberB with oldB | rfl
      · exact .inr (by rw [requested]; exact recent b oldB activeB)
      · exact absurd rfl different

section Reports
variable {now : Time} {attemptId : ℕ} {report : Report} {attempt : CallAttempt}

def reports (db : Database) (now : Time) (attemptId : ℕ) (report : Report) : Table CallAttempt.id :=
  db.callAttempts.modify attemptId (reportedAttempt now report) (reportedAttempt_id now report)

theorem reports_mem {row : CallAttempt} (member : row ∈ (reports db now attemptId report).rows) :
    ∃ old ∈ db.callAttempts.rows, row.id = old.id ∧ row.requestedAt = old.requestedAt ∧
      row.active = if old.id = attemptId then activeStatuses.contains report.status else old.active := by
  obtain ⟨old,inside,rfl⟩ := Table.mem_modify.mp member
  refine ⟨old,inside,?_⟩
  split <;> exact ⟨rfl,rfl,rfl⟩

theorem reported_limit (limit : CallLimit settings db) (found : db.callAttempts.find attemptId = some attempt)
    (harmless : activeStatuses.contains report.status = true → attempt.active = true)
    {after : Database} (same : after.callAttempts = reports db now attemptId report) : CallLimit settings after := by
  constructor
  · intro incidentId
    rw [activeCalls,same]
    refine Nat.le_trans (Table.countP_modify_le _ found fun still => ?_) (limit.counted incidentId)
    obtain ⟨owner,claimed⟩ := Bool.and_eq_true_iff.mp still
    exact Bool.and_eq_true_iff.mpr ⟨owner,harmless claimed⟩
  · rw [same]
    intro a memberA b memberB activeA activeB different
    obtain ⟨oldA,insideA,numberA,requestedA,isA⟩ := reports_mem memberA
    obtain ⟨oldB,insideB,numberB,requestedB,isB⟩ := reports_mem memberB
    have active : ∀ old ∈ db.callAttempts.rows,
        (if old.id = attemptId then activeStatuses.contains report.status else old.active) = true →
          old.active = true := by
      intro old inside claimed
      split at claimed
      · rename_i own
        have equal : attempt = old := Option.some.inj (found.symm.trans (Table.find_iff.mpr ⟨inside,own⟩))
        exact equal ▸ harmless claimed
      · exact claimed
    have apart := limit.apart oldA insideA oldB insideB (active oldA insideA (isA ▸ activeA))
      (active oldB insideB (isB ▸ activeB)) (by rw [← numberA,← numberB]; exact different)
    rw [spaced,requestedA,requestedB]
    exact apart

-- A failed attempt that comes back takes a call of its incident and stands beside every
-- active one, so it needs the room a new call would need.
theorem revived_limit (limit : CallLimit settings db) (found : db.callAttempts.find attemptId = some attempt)
    (failed : attempt.active = false) (returns : activeStatuses.contains report.status = true)
    {after : Database} (same : after.callAttempts = reports db now attemptId report) :
    CallLimit settings after ↔ roomFor settings db attempt = true := by
  have number := Table.find_key found
  have owns (incidentId : String) : (attempt.incidentId == incidentId && attempt.active) = false := by simp [failed]
  constructor
  · intro held
    have one : after.activeCalls attempt.incidentId = db.activeCalls attempt.incidentId + 1 := by
      rw [activeCalls,same]
      refine Table.countP_modify_gain _ found (owns _) ?_
      exact Bool.and_eq_true_iff.mpr ⟨beq_self_eq_true _,returns⟩
    have full := held.counted attempt.incidentId
    rw [one] at full
    refine Bool.and_eq_true_iff.mpr ⟨decide_eq_true full,List.all_eq_true.mpr fun other member => ?_⟩
    cases active : other.active
    · rfl
    · have distinct : other.id ≠ attemptId := by
        intro own
        have equal : attempt = other := Option.some.inj (found.symm.trans (Table.find_iff.mpr ⟨member,own⟩))
        rw [equal,active] at failed
        cases failed
      have stays : other ∈ (reports db now attemptId report).rows :=
        Table.mem_modify.mpr ⟨other,member,by rw [if_neg distinct]⟩
      have comes : reportedAttempt now report attempt ∈ (reports db now attemptId report).rows :=
        Table.mem_modify.mpr ⟨attempt,Table.find_mem found,by rw [if_pos number]⟩
      rw [← same] at stays comes
      have apart := held.apart _ comes _ stays returns active (fun own => distinct (own.symm.trans number))
      exact decide_eq_true apart
  · intro room
    obtain ⟨free,apart⟩ := Bool.and_eq_true_iff.mp room
    have free : db.activeCalls attempt.incidentId < settings.maxCallsPerIncident := of_decide_eq_true free
    have clear : ∀ other ∈ db.callAttempts.rows, other.active = true → spaced settings attempt other := by
      intro other member active
      simpa [active] using List.all_eq_true.mp apart other member
    constructor
    · intro incidentId
      rw [activeCalls,same]
      by_cases own : attempt.incidentId = incidentId
      · subst own
        have one : (reports db now attemptId report).rows.countP
            (fun a => a.incidentId == attempt.incidentId && a.active) = db.activeCalls attempt.incidentId + 1 := by
          refine Table.countP_modify_gain _ found (owns _) ?_
          exact Bool.and_eq_true_iff.mpr ⟨beq_self_eq_true _,returns⟩
        rw [one]
        exact free
      · have equal : (reports db now attemptId report).rows.countP (fun a => a.incidentId == incidentId && a.active) =
            db.activeCalls incidentId := by
          refine Table.countP_modify_same _ found ?_
          have other : (attempt.incidentId == incidentId) = false := by simp [own]
          simp only [reportedAttempt,other,Bool.false_and]
        rw [equal]
        exact limit.counted incidentId
    · rw [same]
      intro a memberA b memberB activeA activeB different
      obtain ⟨oldA,insideA,numberA,requestedA,isA⟩ := reports_mem memberA
      obtain ⟨oldB,insideB,numberB,requestedB,isB⟩ := reports_mem memberB
      rw [isA] at activeA
      rw [isB] at activeB
      rw [spaced,requestedA,requestedB]
      by_cases ownA : oldA.id = attemptId
      · have equal : attempt = oldA := Option.some.inj (found.symm.trans (Table.find_iff.mpr ⟨insideA,ownA⟩))
        have ownB : oldB.id ≠ attemptId := fun ownB => different (by rw [numberA,numberB,ownA,ownB])
        rw [if_neg ownB] at activeB
        exact equal ▸ clear oldB insideB activeB
      · rw [if_neg ownA] at activeA
        by_cases ownB : oldB.id = attemptId
        · have equal : attempt = oldB := Option.some.inj (found.symm.trans (Table.find_iff.mpr ⟨insideB,ownB⟩))
          exact spaced_symm (equal ▸ clear oldA insideA activeA)
        · rw [if_neg ownB] at activeB
          exact limit.apart oldA insideA oldB insideB activeA activeB (by rw [← numberA,← numberB]; exact different)

end Reports

theorem limit_step (limit : CallLimit settings app.database) :
    CallLimit settings (step settings app tick).database ↔ revivedInRoom settings app tick = true := by
  have attempts := attempts_rows (step_rows settings app tick)
  have caused := effect_caused settings app tick
  cases same : effect settings app tick with
  | nothing =>
    have kept := limit.of_attempts (attempts.trans (by rw [same]; rfl))
    simp [revivedInRoom,revived,same,kept]
  | upserted data deviceId bootId =>
    have kept := limit.of_attempts (attempts.trans (by rw [same]; exact attempts_upserted))
    simp [revivedInRoom,revived,same,kept]
  | responded incidentId responseState occupantResponse hazardState =>
    have kept := limit.of_attempts (attempts.trans (by rw [same]; exact attempts_responded))
    simp [revivedInRoom,revived,same,kept]
  | called incidentId =>
    rw [same] at caused attempts
    have gate := called_callable caused
    have kept := (called_limit limit gate).of_attempts attempts
    simp [revivedInRoom,revived,same,kept]
  | reported attemptId report =>
    rw [same] at caused attempts
    obtain ⟨attempt,r,found,_,after,_⟩ | ⟨unknown,unchanged⟩ :=
      reported_cases settings app.database tick.now attemptId report
    · have stored := attempts.trans after
      by_cases returns : activeStatuses.contains report.status = true
      · cases active : attempt.active
        · rw [revived_limit limit found active returns stored]
          simp only [revivedInRoom,revived,same,if_pos returns,found,Option.filter_some,active,Bool.not_false,if_true,
            Option.all_some]
        · have kept := reported_limit limit found (fun _ => active) stored
          simp only [revivedInRoom,revived,same,if_pos returns,found,Option.filter_some,active,Bool.not_true,
            Bool.false_eq_true,if_false,Option.all_none,kept]
      · have kept := reported_limit limit found (fun claimed => absurd claimed returns) stored
        simp only [revivedInRoom,revived,same,if_neg returns,kept,Option.all_none]
    · rw [unchanged] at attempts
      have kept := limit.of_attempts attempts
      rcases unknown with missing | unmapped
      · simp [revivedInRoom,revived,same,missing,kept]
      · exact absurd unmapped (reported_status caused)

-- At every moment of every run, both for the maximum and for the cooldown.
theorem call_limit_iff (settings : Settings) (ticks : List Tick) :
    Throughout (step settings) (fun app => CallLimit settings app.database) fresh ticks ↔
      Along (step settings) (fun app tick => revivedInRoom settings app tick = true) fresh ticks :=
  throughout_iff_along (fun _ => True) (fun _ _ _ => trivial) (fun _ _ _ limit => limit_step limit) trivial
    initialized_limit

-- A webhook fails the first call while its answer is on the way, a second call is let
-- through at once, and then the answer of the first arrives.
def secondCall : List Tick :=
  seeded ++ [⟨2000000,.callDemoDispatch true confirmedIncident.incidentId⟩,webhook 3000000 .failed,
    ⟨4000000,.callDemoDispatch true confirmedIncident.incidentId⟩]
def firstAnswer : Tick := ⟨5000000,.providerAnswered 1 (.response 200 (some (some "conversation",some "sid")))⟩

theorem call_limit_exceeded :
    ¬ Throughout (step demoSettings) (fun app => CallLimit demoSettings app.database) fresh (secondCall ++ [firstAnswer]) ∧
    (run (step demoSettings) fresh (secondCall ++ [firstAnswer])).database.activeCalls confirmedIncident.incidentId = 2 := by
  have two : (run (step demoSettings) fresh (secondCall ++ [firstAnswer])).database.activeCalls
      confirmedIncident.incidentId = 2 := by decide +kernel
  refine ⟨fun kept => ?_,two⟩
  have limit := kept.last.counted confirmedIncident.incidentId
  rw [two] at limit
  exact absurd limit (by decide)

end Ignis.Backend
