import Ignis.EvidenceColumns

-- A provider's report overwrites both ids of its attempt, and only those it brings of the incident.
namespace Ignis.Backend
open Tables Database Communications Runs

abbrev CallIds := Option String × Option String

def attemptIds (attempt : CallAttempt) : CallIds := (attempt.providerConversationId,attempt.providerCallSid)
def incidentIds (row : IncidentRow) : CallIds := (row.callConversationId,row.callSid)
def reportIds (report : Report) : CallIds := (report.conversationId,report.callSid)

def Kept (before after : CallIds) : Prop :=
  (before.1.isSome = true → after.1.isSome = true) ∧ (before.2.isSome = true → after.2.isSome = true)

instance keptDecidable (before after : CallIds) : Decidable (Kept before after) := inferInstanceAs (Decidable (_ ∧ _))

def IdsKept (before after : Database) : Prop :=
  ∀ attemptId attempt, before.callAttempts.find attemptId = some attempt →
    ∃ later, after.callAttempts.find attemptId = some later ∧ Kept (attemptIds attempt) (attemptIds later)

def attemptsOf (db : Database) (incidentId : String) : List CallAttempt :=
  db.callAttempts.rows.filter fun attempt => attempt.incidentId = incidentId

def idsOf (db : Database) (incidentId : String) : Option CallIds := (db.getIncident incidentId).map incidentIds

def IdsAgree (db : Database) : Prop :=
  ∀ incidentId attempt, attemptsOf db incidentId = [attempt] → idsOf db incidentId = some (attemptIds attempt)

def forgets (db : Database) (operation : Time × Operation) : Bool :=
  match operation.2 with
  | .attempt attemptId report =>
    (responseOfStatus report.status).isSome &&
      (db.callAttempts.find attemptId).any fun attempt => !decide (Kept (attemptIds attempt) (reportIds report))
  | _ => false

structure CallRows (db : Database) : Prop where
  known : ∀ incidentId, attemptsOf db incidentId ≠ [] → (idsOf db incidentId).isSome = true
  blank : ∀ incidentId, attemptsOf db incidentId = [] → ∀ ids ∈ idsOf db incidentId, ids = (none,none)

variable {db : Database} {now : Time} {incidentId : String}

theorem Kept.refl (ids : CallIds) : Kept ids ids := ⟨id,id⟩

theorem coalesced (report : Report) (row : IncidentRow) (responseState : ResponseState)
    (kept : Kept (incidentIds row) (reportIds report)) :
    incidentIds (reportedIncident now report responseState row) = reportIds report := by
  have taken : ∀ stored brought : Option String, (stored.isSome = true → brought.isSome = true) → brought.or stored = brought := by
    intro stored brought brings
    cases brought with
    | some text => rfl
    | none =>
      cases stored with
      | none => rfl
      | some text => cases brings rfl
  exact Prod.ext (taken _ _ kept.1) (taken _ _ kept.2)

theorem callRows_frame {after : Database} (rows : CallRows db) (attempts : after.callAttempts = db.callAttempts)
    (ids : ∀ incidentId, idsOf after incidentId = idsOf db incidentId ∨
      (idsOf db incidentId = none ∧ idsOf after incidentId = some (none,none))) : CallRows after := by
  have same : ∀ incidentId, attemptsOf after incidentId = attemptsOf db incidentId := by
    intro incidentId
    rw [attemptsOf,attempts]
    rfl
  constructor
  · intro incidentId some
    rw [same] at some
    have there := rows.known incidentId some
    rcases ids incidentId with kept | ⟨absent,_⟩
    · rw [kept]
      exact there
    · rw [absent] at there
      cases there
  · intro incidentId none held member
    rw [same] at none
    rcases ids incidentId with kept | ⟨_,inserted⟩
    · rw [kept] at member
      exact rows.blank incidentId none held member
    · rw [inserted,Option.mem_some_iff] at member
      exact member.symm

theorem idsAgree_frame {after : Database} (agree : IdsAgree db)
    (attempts : after.callAttempts = db.callAttempts) (ids : ∀ incidentId, idsOf after incidentId = idsOf db incidentId ∨
      (idsOf db incidentId = none ∧ idsOf after incidentId = some (none,none))) : IdsAgree after := by
  intro incidentId attempt single
  rw [attemptsOf,attempts] at single
  have before : idsOf db incidentId = some (attemptIds attempt) := agree incidentId attempt single
  rcases ids incidentId with kept | ⟨absent,_⟩
  · rw [kept]
    exact before
  · rw [absent] at before
    cases before

theorem idsKept_frame {after : Database} (attempts : after.callAttempts = db.callAttempts) : IdsKept db after := by
  intro attemptId attempt found
  exact ⟨attempt,by rw [attempts]; exact found,.refl _⟩

theorem idsOf_modify {k : String} {f : IncidentRow → IncidentRow} {keeps : ∀ row, (f row).incidentId = row.incidentId}
    (same : ∀ row, incidentIds (f row) = incidentIds row) :
    idsOf { db with incidents := db.incidents.modify k f keeps } incidentId = idsOf db incidentId :=
  Table.map_find_modify keeps same

theorem idsOf_stored (update : DeviceUpdate) : idsOf (update.store db now) incidentId = idsOf db incidentId ∨
    (idsOf db incidentId = none ∧ idsOf (update.store db now) incidentId = some (none,none)) := by
  cases stores : update.storable with
  | false =>
    rw [store_unstorable stores]
    exact .inl rfl
  | true =>
    unfold idsOf
    rw [store_getIncident stores]
    split
    · cases db.getIncident incidentId with
      | none => exact .inr ⟨rfl,rfl⟩
      | some row => exact .inl rfl
    · exact .inl rfl

theorem attempts_stored (update : DeviceUpdate) : (update.store db now).callAttempts = db.callAttempts := by
  unfold DeviceUpdate.store upsertIncident
  split <;> rfl

theorem idsOf_answered {responseState : ResponseState} {occupantResponse : Option String}
    {hazardState : Option HazardState} (row : IncidentRow) :
    incidentIds (updatedResponse now responseState occupantResponse hazardState row) = incidentIds row := by
  cases hazardState <;> rfl

theorem attemptsOf_reserved (k : String) : attemptsOf (db.reservedCall now k) incidentId =
    attemptsOf db incidentId ++ if k = incidentId then [requestedAttempt now k db.callAttempts.next] else [] := by
  rw [attemptsOf,reservedCall,Table.rows_push,List.filter_append]
  by_cases own : k = incidentId
  · rw [if_pos own]
    congr 1
    simp [requestedAttempt,own]
  · rw [if_neg own]
    congr 1
    simp [requestedAttempt,own]

theorem idsOf_reserved (k : String) : idsOf (db.reservedCall now k) incidentId = idsOf db incidentId :=
  idsOf_modify fun _ => rfl

theorem callRows_reserved {k : String} (rows : CallRows db) (there : (db.getIncident k).isSome = true) :
    CallRows (db.reservedCall now k) := by
  constructor
  · intro incidentId some
    rw [idsOf_reserved]
    by_cases own : k = incidentId
    · subst own
      rw [idsOf,Option.isSome_map]
      exact there
    · rw [attemptsOf_reserved,if_neg own,List.append_nil] at some
      exact rows.known incidentId some
  · intro incidentId none
    rw [idsOf_reserved]
    rw [attemptsOf_reserved,List.append_eq_nil_iff] at none
    exact rows.blank incidentId none.1

theorem idsAgree_reserved {k : String} (rows : CallRows db) (agree : IdsAgree db) (there : (db.getIncident k).isSome = true) :
    IdsAgree (db.reservedCall now k) := by
  intro incidentId attempt single
  rw [idsOf_reserved]
  rw [attemptsOf_reserved] at single
  by_cases own : k = incidentId
  · subst own
    rw [if_pos rfl] at single
    -- The first attempt of its incident, whose row has no ids yet.
    have first : attemptsOf db k = [] := by
      have lengths := congrArg List.length single
      rw [List.length_append,List.length_singleton,List.length_singleton] at lengths
      exact List.length_eq_zero_iff.mp (by omega)
    rw [first,List.nil_append,List.cons.injEq] at single
    obtain ⟨row,found⟩ := Option.isSome_iff_exists.mp there
    have ids : idsOf db k = some (incidentIds row) := by rw [idsOf,found]; rfl
    rw [ids,rows.blank k first _ ids,← single.1]
    rfl
  · rw [if_neg own,List.append_nil] at single
    exact agree incidentId attempt single

theorem reserved_find {k : String} {attemptId : ℕ} {attempt : CallAttempt} (found : db.callAttempts.find attemptId = some attempt) :
    (db.reservedCall now k).callAttempts.find attemptId = some attempt := by
  have stays : (db.callAttempts.push (requestedAttempt now k) (requestedAttempt_id now k)).find attemptId = some attempt :=
    Table.find_push_kept found
  exact stays

theorem idsKept_reserved (k : String) : IdsKept db (db.reservedCall now k) := by
  intro attemptId attempt found
  exact ⟨attempt,reserved_find found,.refl _⟩

section Reports
variable {after : Database} {attemptId : ℕ} {report : Report} {attempt : CallAttempt}

structure Reports (db : Database) (now : Time) (attemptId : ℕ) (report : Report) (attempt : CallAttempt) (after : Database) : Prop where
  found : db.callAttempts.find attemptId = some attempt
  attempts : after.callAttempts = db.callAttempts.modify attemptId (reportedAttempt now report) (reportedAttempt_id now report)
  incidents : ∃ responseState, after.incidents = db.incidents.modify attempt.incidentId (reportedIncident now report responseState)
    (reportedIncident_incidentId now report responseState)

theorem attemptsOf_reported (reports : Reports db now attemptId report attempt after) : attemptsOf after incidentId =
    (attemptsOf db incidentId).map fun row => if row.id = attemptId then reportedAttempt now report row else row := by
  rw [attemptsOf,reports.attempts,Table.rows_modify,List.filter_map]
  congr 1
  refine List.filter_congr fun row _ => ?_
  rw [Function.comp_apply]
  split <;> rfl

theorem idsOf_other (reports : Reports db now attemptId report attempt after) (other : incidentId ≠ attempt.incidentId) :
    idsOf after incidentId = idsOf db incidentId := by
  obtain ⟨responseState,incidents⟩ := reports.incidents
  rw [idsOf,getIncident,incidents,Table.find_modify_other other]
  rfl

theorem isSome_idsOf_reported (reports : Reports db now attemptId report attempt after) :
    (idsOf after incidentId).isSome = (idsOf db incidentId).isSome := by
  by_cases own : incidentId = attempt.incidentId
  · obtain ⟨responseState,incidents⟩ := reports.incidents
    rw [own,idsOf,getIncident,incidents,Table.find_modify_same,idsOf,getIncident,Option.isSome_map,Option.isSome_map,
      Option.isSome_map]
  · rw [idsOf_other reports own]

theorem mem_attemptsOf (found : db.callAttempts.find attemptId = some attempt) : attempt ∈ attemptsOf db attempt.incidentId :=
  List.mem_filter.mpr ⟨Table.find_mem found,decide_eq_true rfl⟩

theorem callRows_reported (reports : Reports db now attemptId report attempt after) (rows : CallRows db) : CallRows after := by
  constructor
  · intro incidentId some
    rw [attemptsOf_reported reports,ne_eq,List.map_eq_nil_iff] at some
    rw [isSome_idsOf_reported reports]
    exact rows.known incidentId some
  · intro incidentId none
    rw [attemptsOf_reported reports,List.map_eq_nil_iff] at none
    have other : incidentId ≠ attempt.incidentId := by
      intro own
      have member := mem_attemptsOf reports.found
      rw [← own,none] at member
      cases member
    rw [idsOf_other reports other]
    exact rows.blank incidentId none

theorem idsKept_reported (reports : Reports db now attemptId report attempt after) :
    IdsKept db after ↔ Kept (attemptIds attempt) (reportIds report) := by
  have own : after.callAttempts.find attemptId = some (reportedAttempt now report attempt) := by
    rw [reports.attempts,Table.find_modify_same,reports.found]
    rfl
  constructor
  · intro kept
    obtain ⟨later,found,keeps⟩ := kept attemptId attempt reports.found
    rw [own] at found
    cases found
    exact keeps
  · intro keeps other row found
    by_cases same : other = attemptId
    · subst same
      obtain rfl := Option.some.inj (reports.found.symm.trans found)
      exact ⟨_,own,keeps⟩
    · refine ⟨row,?_,.refl _⟩
      rw [reports.attempts,Table.find_modify_other same]
      exact found

theorem idsAgree_reported (reports : Reports db now attemptId report attempt after) (agree : IdsAgree db)
    (keeps : Kept (attemptIds attempt) (reportIds report)) : IdsAgree after := by
  intro incidentId later single
  rw [attemptsOf_reported reports,List.map_eq_singleton_iff] at single
  obtain ⟨row,only,rfl⟩ := single
  have before := agree incidentId row only
  have number := Table.find_key reports.found
  by_cases own : incidentId = attempt.incidentId
  · subst own
    have member := mem_attemptsOf reports.found
    rw [only,List.mem_singleton] at member
    subst member
    rw [if_pos number]
    obtain ⟨incident,there,ids⟩ := Option.map_eq_some_iff.mp before
    obtain ⟨responseState,incidents⟩ := reports.incidents
    have taken : incidentIds (reportedIncident now report responseState incident) = reportIds report :=
      coalesced report incident responseState (by rw [ids]; exact keeps)
    rw [idsOf,getIncident,incidents,Table.find_modify_same,show db.incidents.find attempt.incidentId = some incident from there]
    exact congrArg some taken
  · have other : row.id ≠ attemptId := by
      intro same
      have inside : row ∈ attemptsOf db incidentId := by rw [only]; exact List.mem_singleton_self row
      obtain ⟨stored,owner⟩ := List.mem_filter.mp inside
      have equal : attempt = row := Option.some.inj (reports.found.symm.trans (Table.find_iff.mpr ⟨stored,same⟩))
      exact own (by rw [equal]; exact (of_decide_eq_true owner).symm)
    rw [if_neg other,idsOf_other reports own]
    exact before

end Reports

inductive CallWrite (db : Database) (operation : Time × Operation) (after : Database) : Prop where
  | framed (attempts : after.callAttempts = db.callAttempts)
      (ids : ∀ incidentId, idsOf after incidentId = idsOf db incidentId ∨
        (idsOf db incidentId = none ∧ idsOf after incidentId = some (none,none)))
      (keeps : forgets db operation = false)
  | reserved (k : String) (there : (db.getIncident k).isSome = true) (row : after = db.reservedCall operation.1 k)
      (keeps : forgets db operation = false)
  | reported (attemptId : ℕ) (report : Report) (attempt : CallAttempt)
      (reports : Reports db operation.1 attemptId report attempt after)
      (marks : forgets db operation = !decide (Kept (attemptIds attempt) (reportIds report)))

theorem callWrite_still {operation : Time × Operation} (keeps : forgets db operation = false) : CallWrite db operation db :=
  .framed rfl (fun _ => .inl rfl) keeps

theorem callWrite_store (db : Database) (operation : Time × Operation) : CallWrite db operation (Operation.store db operation) := by
  obtain ⟨now,operation⟩ := operation
  cases operation with
  | update update => exact .framed (attempts_stored update) (fun _ => idsOf_stored update) rfl
  | event incidentId eventType source monotonicNs occurredAt =>
    unfold Operation.store addEvent
    simp only
    split
    · exact .framed rfl (fun _ => .inl rfl) rfl
    · exact callWrite_still rfl
  | response incidentId responseState occupantResponse hazardState =>
    unfold Operation.store updateIncidentResponse
    simp only
    split
    · exact .framed rfl (fun _ => .inl (idsOf_modify idsOf_answered)) rfl
    · exact callWrite_still rfl
  | reserve incidentId cooldownSeconds maxCalls =>
    unfold Operation.store
    simp only
    rcases reserveCallAttempt_cases db now incidentId cooldownSeconds maxCalls with ⟨opened,accepts⟩ | ⟨_,refusal,refuses⟩
    · rw [accepts]
      have there : (db.getIncident incidentId).isSome = true := by
        rw [policyOpen,Bool.and_eq_true,Bool.and_eq_true] at opened
        cases found : db.getIncident incidentId with
        | none =>
          rw [found] at opened
          cases opened.1.1
        | some row => rfl
      exact .reserved incidentId there rfl rfl
    · rw [refuses]
      exact callWrite_still rfl
  | attempt attemptId report =>
    unfold Operation.store updateCallAttempt
    simp only
    cases found : db.callAttempts.find attemptId with
    | none => exact callWrite_still (by simp [forgets,found])
    | some attempt =>
      cases maps : responseOfStatus report.status with
      | none => exact callWrite_still (by simp [forgets,maps])
      | some responseState =>
        exact .reported attemptId report attempt ⟨found,rfl,responseState,rfl⟩ (by simp [forgets,found,maps])

theorem callRows_step {operation : Time × Operation} (rows : CallRows db) : CallRows (Operation.store db operation) := by
  cases callWrite_store db operation with
  | framed attempts ids => exact callRows_frame rows attempts ids
  | reserved k there row =>
    rw [row]
    exact callRows_reserved rows there
  | reported attemptId report attempt reports => exact callRows_reported reports rows

theorem idsKept_step {operation : Time × Operation} : IdsKept db (Operation.store db operation) ↔ forgets db operation = false := by
  cases callWrite_store db operation with
  | framed attempts ids keeps => exact iff_of_true (idsKept_frame attempts) keeps
  | reserved k there row keeps =>
    rw [row]
    exact iff_of_true (idsKept_reserved k) keeps
  | reported attemptId report attempt reports marks =>
    rw [idsKept_reported reports,marks,Bool.not_eq_false',decide_eq_true_eq]

theorem idsAgree_step {operation : Time × Operation} (rows : CallRows db) (agree : IdsAgree db)
    (keeps : forgets db operation = false) : IdsAgree (Operation.store db operation) := by
  cases callWrite_store db operation with
  | framed attempts ids => exact idsAgree_frame agree attempts ids
  | reserved k there row =>
    rw [row]
    exact idsAgree_reserved rows agree there
  | reported attemptId report attempt reports marks =>
    rw [marks,Bool.not_eq_false',decide_eq_true_eq] at keeps
    exact idsAgree_reported reports agree keeps

theorem callRows_initialized : CallRows initialized := by
  constructor
  · intro incidentId some
    exact absurd rfl some
  · intro incidentId none ids member
    cases member

theorem call_ids_iff (operations : List (Time × Operation)) :
    (Along Operation.store (fun db operation => IdsKept db (Operation.store db operation)) initialized operations ∧
      Throughout Operation.store IdsAgree initialized operations) ↔
      Along Operation.store (fun db operation => forgets db operation = false) initialized operations := by
  have kept : Along Operation.store (fun db operation => IdsKept db (Operation.store db operation)) initialized operations ↔
      Along Operation.store (fun db operation => forgets db operation = false) initialized operations :=
    along_congr fun _ _ => idsKept_step
  rw [kept]
  refine ⟨And.left,fun keeps => ⟨keeps,?_⟩⟩
  refine throughout_along (fun db => CallRows db ∧ IdsAgree db) ?_ (fun _ valid => valid.2)
    ⟨callRows_initialized,fun incidentId attempt single => nomatch single⟩ keeps
  rintro db operation keeps ⟨rows,agree⟩
  exact ⟨callRows_step rows,idsAgree_step rows agree keeps⟩

-- The provider's answer brings both ids, and a webhook without ids says that the call is connected.
def answeredCall : List (Time × Operation) :=
  [(1000000,.update ⟨confirmedIncident,⟨"ignis-qnxpi-01","boot-test"⟩⟩),
    (2000000,.reserve confirmedIncident.incidentId 60 1),
    (3000000,.attempt 1 ⟨.initiated,some "conversation",some "sid",none,none⟩)]
def connectedNotice : Time × Operation := (4000000,.attempt 1 ⟨.connected,none,none,none,none⟩)

theorem call_ids_lost :
    ¬ Along Operation.store (fun db operation => IdsKept db (Operation.store db operation)) initialized
        (answeredCall ++ [connectedNotice]) ∧
    ¬ Throughout Operation.store IdsAgree initialized (answeredCall ++ [connectedNotice]) := by
  have forgotten : forgets (run Operation.store initialized answeredCall) connectedNotice = true := by decide +kernel
  have single : (attemptsOf (run Operation.store initialized (answeredCall ++ [connectedNotice])) confirmedIncident.incidentId).map
      attemptIds = [(none,none)] := by decide +kernel
  have incident : idsOf (run Operation.store initialized (answeredCall ++ [connectedNotice])) confirmedIncident.incidentId =
      some (some "conversation",some "sid") := by decide +kernel
  constructor
  · intro kept
    have last := idsKept_step.mp (along_snoc.mp kept).2
    rw [forgotten] at last
    cases last
  · intro all
    obtain ⟨attempt,only,ids⟩ := List.map_eq_singleton_iff.mp single
    have agrees := all.last _ _ only
    rw [incident,ids] at agrees
    cases agrees

end Ignis.Backend
