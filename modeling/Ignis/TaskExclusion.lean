import Ignis.FrozenResponses
import Ignis.ResponseTasks

-- Of one incident's response tasks at most one is live, and it is the one that is registered.
namespace Ignis.Backend
open Tables Database Communications Escalation

variable {settings : Settings} {app : App} {tick : Tick} {db : Database} {now : Time} {incidentId : String}

def live (task : ResponseTask) : Bool := task.phase ≠ .done && !task.cancelled

structure Exclusive (manager : ResponseTimeoutManager) (frozen : String → Prop) : Prop where
  registered : ∀ task ∈ manager.tasks.rows, live task = true →
    manager.registered.find task.incidentId = some ⟨task.incidentId,task.id⟩
  owned : ∀ entry ∈ manager.registered.rows, ∃ task, manager.tasks.find entry.task = some task ∧
    task.incidentId = entry.incidentId
  answered : ∀ task ∈ manager.tasks.rows, task.cancelled = true → frozen task.incidentId ∧
    ∀ other ∈ manager.tasks.rows, live other = true → other.incidentId ≠ task.incidentId

variable {manager : ResponseTimeoutManager} {frozen later : String → Prop} {task : ResponseTask} {phase : Phase}

theorem exclusive_idle : Exclusive idle frozen := by
  refine ⟨?_,?_,?_⟩
  all_goals intro row member; cases member

theorem Exclusive.imp (exclusive : Exclusive manager frozen) (grows : ∀ id, frozen id → later id) :
    Exclusive manager later := by
  refine ⟨exclusive.registered,exclusive.owned,?_⟩
  intro task member cancelled
  obtain ⟨answered,alone⟩ := exclusive.answered task member cancelled
  exact ⟨grows _ answered,alone⟩

theorem Exclusive.alone (exclusive : Exclusive manager frozen) {a b : ResponseTask} (first : a ∈ manager.tasks.rows)
    (second : b ∈ manager.tasks.rows) (liveA : live a = true) (liveB : live b = true)
    (same : a.incidentId = b.incidentId) : a = b := by
  have entryA := exclusive.registered a first liveA
  have entryB := exclusive.registered b second liveB
  rw [same,entryB] at entryA
  have ids : b.id = a.id := congrArg Registration.task (Option.some.inj entryA)
  have foundA : manager.tasks.find a.id = some a := Table.find_iff.mpr ⟨first,rfl⟩
  have foundB : manager.tasks.find a.id = some b := Table.find_iff.mpr ⟨second,ids⟩
  exact Option.some.inj (foundA.symm.trans foundB)

theorem mem_moveTo {id : ℕ} {next : ResponseTask} : next ∈ (moveTo manager id phase).tasks.rows ↔
    ∃ old ∈ manager.tasks.rows, next = if old.id = id then movedTask phase old else old := by
  simp only [moveTo,Table.mem_modify]

theorem Exclusive.follow (exclusive : Exclusive manager frozen) {tasks : Table ResponseTask.id}
    (kept : ∀ id task, manager.tasks.find id = some task → ∃ next, tasks.find id = some next ∧ next.incidentId = task.incidentId)
    (from_old : ∀ next ∈ tasks.rows, ∃ task ∈ manager.tasks.rows, next.id = task.id ∧ next.incidentId = task.incidentId ∧
      next.cancelled = task.cancelled ∧ (live next = true → live task = true)) :
    Exclusive { manager with tasks := tasks } frozen := by
  refine ⟨?_,?_,?_⟩
  · intro next member lives
    obtain ⟨task,inside,id,incident,_,back⟩ := from_old next member
    rw [id,incident]
    exact exclusive.registered task inside (back lives)
  · intro entry member
    obtain ⟨task,found,incident⟩ := exclusive.owned entry member
    obtain ⟨next,stays,same⟩ := kept _ _ found
    exact ⟨next,stays,same.trans incident⟩
  · intro next member cancelled
    obtain ⟨task,inside,_,incident,same,_⟩ := from_old next member
    obtain ⟨answered,alone⟩ := exclusive.answered task inside (same.symm.trans cancelled)
    rw [incident]
    refine ⟨answered,?_⟩
    intro other among lives
    obtain ⟨before,there,_,incident',_,back⟩ := from_old other among
    rw [incident']
    exact alone before there (back lives)

theorem exclusive_moveTo (exclusive : Exclusive manager frozen) (found : manager.tasks.find task.id = some task)
    (goes : phase ≠ .done → task.phase ≠ .done) : Exclusive (moveTo manager task.id phase) frozen := by
  refine exclusive.follow ?_ ?_
  · intro id old there
    rw [Table.find_modify]
    split
    · rename_i same
      rw [← same,there]
      exact ⟨_,rfl,rfl⟩
    · exact ⟨old,there,rfl⟩
  · intro next member
    obtain ⟨old,inside,rfl⟩ := mem_moveTo.mp member
    refine ⟨old,inside,?_⟩
    split
    · rename_i same
      have self : manager.tasks.find task.id = some old := Table.find_iff.mpr ⟨inside,same⟩
      obtain rfl := Option.some.inj (found.symm.trans self)
      refine ⟨rfl,rfl,rfl,?_⟩
      intro lives
      simp only [live,movedTask,Bool.and_eq_true] at lives ⊢
      exact ⟨decide_eq_true (goes (of_decide_eq_true lives.1)),lives.2⟩
    · exact ⟨rfl,rfl,rfl,id⟩

theorem Exclusive.forget (exclusive : Exclusive manager frozen)
    (quiet : ∀ task ∈ manager.tasks.rows, live task = true → task.incidentId ≠ incidentId) :
    Exclusive { manager with registered := manager.registered.erase incidentId } frozen := by
  refine ⟨?_,?_,exclusive.answered⟩
  · intro task member lives
    rw [Table.find_erase,if_neg (quiet task member lives)]
    exact exclusive.registered task member lives
  · intro entry member
    exact exclusive.owned entry (Table.mem_erase.mp member).1

theorem exclusive_finish (exclusive : Exclusive manager frozen) (found : manager.tasks.find task.id = some task)
    (runs : task.phase ≠ .done) : Exclusive (finish manager task) frozen := by
  have member := Table.find_mem found
  have moved : Exclusive (moveTo manager task.id .done) frozen :=
    exclusive_moveTo exclusive found (fun goes => absurd rfl goes)
  refine moved.forget ?_
  intro next inside lives same
  obtain ⟨old,before,rfl⟩ := mem_moveTo.mp inside
  split at lives
  · cases lives
  · rename_i other
    rw [if_neg other] at same
    cases cancelled : task.cancelled with
    | true => exact (exclusive.answered task member cancelled).2 old before lives same
    | false =>
      have alive : live task = true := by
        rw [live,cancelled,Bool.not_false,Bool.and_true]
        exact decide_eq_true runs
      exact other (congrArg ResponseTask.id (exclusive.alone before member lives alive same))

theorem exclusive_createTask (exclusive : Exclusive manager frozen) (thawed : ¬ frozen incidentId)
    (quiet : ∀ task ∈ manager.tasks.rows, live task = true → task.incidentId ≠ incidentId) :
    Exclusive (createTask manager incidentId) frozen := by
  have entry : ∀ id, (createTask manager incidentId).registered.find id =
      if id = incidentId then some ⟨incidentId,manager.tasks.next⟩ else manager.registered.find id := by
    intro id
    simp only [createTask,Table.find_upsert]
    split
    · cases found : manager.registered.find incidentId with
      | none => rfl
      | some row =>
        have key : row.incidentId = incidentId := Table.find_key found
        simp [replaced,key]
    · rfl
  have rows : (createTask manager incidentId).tasks.rows = manager.tasks.rows ++ [newTask incidentId manager.tasks.next] := by
    simp only [createTask,Table.rows_push]
  have among : ∀ task, task ∈ (createTask manager incidentId).tasks.rows ↔
      task ∈ manager.tasks.rows ∨ task = newTask incidentId manager.tasks.next := by
    intro task
    rw [rows,List.mem_append,List.mem_singleton]
  refine ⟨?_,?_,?_⟩
  · intro task member lives
    rw [entry]
    rcases (among task).mp member with old | rfl
    · rw [if_neg (quiet task old lives)]
      exact exclusive.registered task old lives
    · exact if_pos rfl
  · intro row member
    have here := entry row.incidentId
    rw [Table.find_iff.mpr ⟨member,rfl⟩] at here
    split at here
    · rename_i own
      cases here
      refine ⟨newTask incidentId manager.tasks.next,?_,rfl⟩
      simp only [createTask,Table.find_push,if_true]
    · obtain ⟨task,found,incident⟩ := exclusive.owned row (Table.find_mem here.symm)
      have stays : (manager.tasks.push (newTask incidentId) (newTask_id incidentId)).find row.task = some task :=
        Table.find_push_kept found
      exact ⟨task,stays,incident⟩
  · intro task member cancelled
    rcases (among task).mp member with old | rfl
    · obtain ⟨answered,alone⟩ := exclusive.answered task old cancelled
      refine ⟨answered,?_⟩
      intro other inside lives
      rcases (among other).mp inside with before | rfl
      · exact alone other before lives
      · intro same
        have own : incidentId = task.incidentId := same
        rw [← own] at answered
        exact thawed answered
    · cases cancelled

theorem exclusive_observe (exclusive : Exclusive manager (Frozen db)) :
    Exclusive (observe manager db incidentId) (Frozen db) := by
  unfold observe
  split
  · exact exclusive
  · rename_i incident found
    split
    · exact exclusive
    · rename_i awaits
      have thawed : ¬ Frozen db incidentId := by
        intro frozen
        rw [Frozen,response,found,Option.map_some,Option.any_some] at frozen
        rw [not_not] at awaits
        rw [awaits] at frozen
        cases frozen
      split
      · rename_i absent
        refine exclusive_createTask exclusive thawed ?_
        intro task member lives same
        have entry := exclusive.registered task member lives
        rw [same,absent] at entry
        cases entry
      · rename_i existing entry
        split
        · exact exclusive
        · rename_i stopped
          refine exclusive_createTask exclusive thawed ?_
          intro task member lives same
          have own := exclusive.registered task member lives
          rw [same,entry] at own
          have ids : existing.task = task.id := congrArg Registration.task (Option.some.inj own)
          have here : manager.tasks.find existing.task = some task := Table.find_iff.mpr ⟨member,ids.symm⟩
          simp only [running,here,Option.any_some] at stopped
          simp only [live,Bool.and_eq_true] at lives
          exact stopped lives.1

theorem exclusive_cancel (exclusive : Exclusive manager frozen) (grows : ∀ id, frozen id → later id)
    (answered : later incidentId) : Exclusive (Escalation.cancel manager incidentId) later := by
  have all := exclusive.imp grows
  unfold Escalation.cancel
  cases found : manager.registered.find incidentId with
  | none => exact all
  | some existing =>
    have key : existing.incidentId = incidentId := Table.find_key found
    obtain ⟨holder,held,incident⟩ := exclusive.owned existing (Table.find_mem found)
    have kept : ∀ id task, manager.tasks.find id = some task →
        ∃ next, (manager.tasks.modify existing.task cancelledTask cancelledTask_id).find id = some next ∧
          next.incidentId = task.incidentId := by
      intro id task there
      rw [Table.find_modify]
      split
      · rename_i same
        rw [← same,there]
        exact ⟨_,rfl,rfl⟩
      · exact ⟨task,there,rfl⟩
    -- A task that is still live was neither cancelled now nor is it of this incident.
    have alive : ∀ next ∈ (manager.tasks.modify existing.task cancelledTask cancelledTask_id).rows, live next = true →
        next ∈ manager.tasks.rows ∧ next.incidentId ≠ incidentId := by
      intro next member lives
      obtain ⟨old,inside,rfl⟩ := Table.mem_modify.mp member
      split at lives
      · simp [live,cancelledTask] at lives
      · rename_i other
        rw [if_neg other]
        refine ⟨inside,fun same => ?_⟩
        have entry := exclusive.registered old inside lives
        rw [same,found] at entry
        exact other (congrArg Registration.task (Option.some.inj entry)).symm
    refine ⟨?_,?_,?_⟩
    · intro next member lives
      obtain ⟨before,other⟩ := alive next member lives
      rw [Table.find_erase,if_neg other]
      exact exclusive.registered next before lives
    · intro entry member
      obtain ⟨task,there,same⟩ := exclusive.owned entry (Table.mem_erase.mp member).1
      obtain ⟨next,stays,still⟩ := kept _ _ there
      exact ⟨next,stays,still.trans same⟩
    · intro next member cancelled
      simp only [Table.mem_modify] at member
      obtain ⟨old,inside,rfl⟩ := member
      split
      · rename_i same
        have self : manager.tasks.find existing.task = some old := Table.find_iff.mpr ⟨inside,same⟩
        obtain rfl := Option.some.inj (held.symm.trans self)
        have own : (cancelledTask holder).incidentId = incidentId := incident.trans key
        rw [own]
        exact ⟨answered,fun other among lives => (alive other among lives).2⟩
      · rename_i other
        rw [if_neg other] at cancelled
        obtain ⟨still,alone⟩ := all.answered old inside cancelled
        exact ⟨still,fun next among lives => alone next (alive next among lives).1 lives⟩

theorem answersFor_accepted (settings : Settings) (answers : answersFor app tick = some incidentId) :
    ∃ r occupantResponse, (r = .escalating ∨ r = .cancelled) ∧
      effect settings app tick = .responded incidentId r occupantResponse none ∧
      (app.database.getIncident incidentId).isSome = true := by
  obtain ⟨now,input⟩ := tick
  cases input with
  | confirm allowed target source =>
    obtain ⟨gate,accepted⟩ | ⟨_,refusal,refused⟩ := confirm_cases app now allowed target source
    · obtain rfl : target = incidentId := by simpa [answersFor,accepted,Except.isOk,Except.toBool] using answers
      obtain ⟨stored,found,_⟩ := (Option.any_eq_true ..).mp (Bool.and_eq_true_iff.mp gate).2
      exact ⟨.escalating,some "confirmed",.inl rfl,if_pos gate,by rw [found]; rfl⟩
    · simp [answersFor,refused,Except.isOk,Except.toBool] at answers
  | cancel allowed target reason source =>
    obtain ⟨gate,accepted⟩ | ⟨_,refusal,refused⟩ := cancel_cases app now allowed target reason source
    · obtain rfl : target = incidentId := by simpa [answersFor,accepted,Except.isOk,Except.toBool] using answers
      obtain ⟨stored,found,_⟩ := (Option.any_eq_true ..).mp (Bool.and_eq_true_iff.mp gate).2
      exact ⟨.cancelled,some reason.text,.inr rfl,if_pos gate,by rw [found]; rfl⟩
    · simp [answersFor,refused,Except.isOk,Except.toBool] at answers
  | _ => cases answers

theorem answersFor_frozen (answers : answersFor app tick = some incidentId) :
    Frozen (step settings app tick).database incidentId := by
  obtain ⟨r,occupantResponse,answer,responds,stored⟩ := answersFor_accepted settings answers
  obtain ⟨row,found⟩ := Option.isSome_iff_exists.mp stored
  rw [Frozen,response_step,responds,response_responded,if_pos rfl,response_found found]
  rcases answer with rfl | rfl <;> rfl

-- A call that waits for its provider is older than the next attempt, and the task that made
-- it, if a task did, waits for it.
def Waiting (tasks : Table ResponseTask.id) (calls : Table PendingCall.attemptId) (next : ℕ) : Prop :=
  ∀ call ∈ calls.rows, call.attemptId < next ∧
    ∀ id ∈ call.caller, ∃ task, tasks.find id = some task ∧ task.phase = .calling call.attemptId

variable {tasks : Table ResponseTask.id} {calls : Table PendingCall.attemptId} {attempts bound : ℕ}

theorem Waiting.mono (waiting : Waiting tasks calls attempts) (grows : attempts ≤ bound) : Waiting tasks calls bound := by
  intro call member
  obtain ⟨older,caller⟩ := waiting call member
  exact ⟨Nat.lt_of_lt_of_le older grows,caller⟩

theorem Waiting.erase (waiting : Waiting tasks calls attempts) (attemptId : ℕ) :
    Waiting tasks (calls.erase attemptId) attempts := by
  intro call member
  exact waiting call (Table.mem_erase.mp member).1

theorem Waiting.modify (waiting : Waiting tasks calls attempts) {id : ℕ} {f : ResponseTask → ResponseTask}
    (keeps : ∀ task, (f task).id = task.id) (free : ∀ call ∈ calls.rows, call.caller ≠ some id) :
    Waiting (tasks.modify id f keeps) calls attempts := by
  intro call member
  obtain ⟨older,callers⟩ := waiting call member
  refine ⟨older,?_⟩
  intro caller calls
  obtain ⟨task,found,calling⟩ := callers caller calls
  have other : caller ≠ id := by
    rintro rfl
    exact free call member calls
  exact ⟨task,by rw [Table.find_modify,if_neg other]; exact found,calling⟩

theorem Waiting.free (waiting : Waiting tasks calls attempts) (found : tasks.find task.id = some task)
    (ready : waits task = true) : ∀ call ∈ calls.rows, call.caller ≠ some task.id := by
  intro call member caller
  obtain ⟨_,callers⟩ := waiting call member
  obtain ⟨other,there,calling⟩ := callers task.id caller
  obtain rfl := Option.some.inj (found.symm.trans there)
  rw [waits,calling] at ready
  cases ready

theorem Waiting.only (waiting : Waiting tasks calls attempts) {attemptId : ℕ} (found : tasks.find task.id = some task)
    (calling : task.phase = .calling attemptId) : ∀ call ∈ (calls.erase attemptId).rows, call.caller ≠ some task.id := by
  intro call member caller
  obtain ⟨inside,other⟩ := Table.mem_erase.mp member
  obtain ⟨_,callers⟩ := waiting call inside
  obtain ⟨holder,there,same⟩ := callers task.id caller
  obtain rfl := Option.some.inj (found.symm.trans there)
  rw [calling] at same
  cases same
  exact other rfl

theorem Waiting.add (waiting : Waiting tasks calls attempts) {row : PendingCall} {merge : PendingCall → PendingCall}
    {keeps : ∀ call, (merge call).attemptId = call.attemptId} (fresh : row.attemptId = attempts) (newer : attempts < bound)
    (caller : ∀ id ∈ row.caller, ∃ task, tasks.find id = some task ∧ task.phase = .calling row.attemptId) :
    Waiting tasks (calls.upsert row merge keeps) bound := by
  have absent : calls.find row.attemptId = none := by
    apply Table.find_none_iff.mpr
    intro call member same
    have older := (waiting call member).1
    omega
  intro call member
  rw [Table.rows_upsert_absent absent,List.mem_append,List.mem_singleton] at member
  rcases member with old | rfl
  · exact waiting.mono newer.le call old
  · exact ⟨fresh ▸ newer,caller⟩

theorem attempts_next (settings : Settings) (app : App) (tick : Tick) :
    app.database.callAttempts.next ≤ (step settings app tick).database.callAttempts.next := by
  have attempts := attempts_rows (step_rows settings app tick)
  cases same : effect settings app tick with
  | nothing =>
    rw [attempts,same]
    exact Nat.le_refl _
  | upserted data deviceId bootId =>
    rw [attempts,same,attempts_upserted]
  | responded target r occupantResponse hazardState =>
    rw [attempts,same,attempts_responded]
  | called target =>
    obtain ⟨make,numbered,pushed,_⟩ := called_parts settings app.database tick.now target
    rw [attempts,same,pushed,Table.next_push]
    exact Nat.le_succ _
  | reported attemptId report =>
    obtain ⟨_,_,_,_,after,_⟩ | ⟨_,unchanged⟩ := reported_cases settings app.database tick.now attemptId report
    · rw [attempts,same,after,Table.next_modify]
    · rw [attempts,same,unchanged]

theorem attempts_called {target : String} (called : effect settings app tick = .called target) :
    app.database.callAttempts.next < (step settings app tick).database.callAttempts.next := by
  obtain ⟨make,numbered,pushed,_⟩ := called_parts settings app.database tick.now target
  rw [attempts_rows (step_rows settings app tick),called,pushed,Table.next_push]
  exact Nat.lt_succ_self _

structure Orderly (app : App) : Prop where
  exclusive : Exclusive app.timeoutManager (Frozen app.database)
  waiting : Waiting app.timeoutManager.tasks app.calls app.database.callAttempts.next

theorem orderly_launched (database : Database) : Orderly (launched database) := by
  refine ⟨exclusive_idle,?_⟩
  intro call member
  cases member

theorem waits_runs (ready : waits task = true) : task.phase ≠ .done := by
  intro done
  rw [waits,done] at ready
  cases ready

theorem waiting_cancel (waiting : Waiting manager.tasks calls attempts) :
    Waiting (Escalation.cancel manager incidentId).tasks calls attempts := by
  unfold Escalation.cancel
  cases manager.registered.find incidentId with
  | none => exact waiting
  | some existing =>
    intro call member
    obtain ⟨older,callers⟩ := waiting call member
    refine ⟨older,?_⟩
    intro caller calls
    obtain ⟨task,found,calling⟩ := callers caller calls
    simp only [Table.find_modify]
    split
    · rename_i same
      rw [← same,found]
      exact ⟨_,rfl,calling⟩
    · exact ⟨task,found,calling⟩

theorem waiting_observe (waiting : Waiting manager.tasks calls attempts) :
    Waiting (observe manager db incidentId).tasks calls attempts := by
  have created : Waiting (createTask manager incidentId).tasks calls attempts := by
    intro call member
    obtain ⟨older,callers⟩ := waiting call member
    refine ⟨older,?_⟩
    intro caller calls
    obtain ⟨task,found,calling⟩ := callers caller calls
    have stays : (manager.tasks.push (newTask incidentId) (newTask_id incidentId)).find caller = some task :=
      Table.find_push_kept found
    exact ⟨task,stays,calling⟩
  unfold observe
  split
  · exact waiting
  · split
    · exact waiting
    · split
      · exact created
      · split
        · exact waiting
        · exact created

theorem waiting_dialled (waiting : Waiting tasks calls attempts) (found : tasks.find task.id = some task)
    (ready : waits task = true) (newer : attempts < bound) :
    Waiting (tasks.modify task.id (movedTask (.calling attempts)) (movedTask_id _))
      (calls.upsert ⟨attempts,incidentId,some task.id⟩ id fun _ => rfl) bound := by
  refine (waiting.modify (movedTask_id _) (waiting.free found ready)).add rfl newer ?_
  intro caller same
  cases same
  exact ⟨movedTask (.calling attempts) task,by rw [Table.find_modify,if_pos rfl,found]; rfl,rfl⟩

theorem moved_orderly {manager : ResponseTimeoutManager} {calls : Table PendingCall.attemptId}
    (moved : Moved settings app tick manager calls) (orderly : Orderly app) :
    Exclusive manager (Frozen (step settings app tick).database) ∧
      Waiting manager.tasks calls (step settings app tick).database.callAttempts.next := by
  have grows : ∀ id, Frozen app.database id → Frozen (step settings app tick).database id := fun _ => frozen_step
  have exclusive := orderly.exclusive.imp grows
  have waiting := orderly.waiting.mono (attempts_next settings app tick)
  cases moved with
  | same silent => exact ⟨exclusive,waiting⟩
  | suspended silent placed =>
    refine ⟨exclusive,orderly.waiting.add rfl (attempts_called placed) ?_⟩
    intro caller same
    cases same
  | answered accepted =>
    exact ⟨exclusive_cancel orderly.exclusive grows (answersFor_frozen accepted),waiting_cancel waiting⟩
  | observed silent => exact ⟨(exclusive_observe orderly.exclusive).imp grows,waiting_observe waiting⟩
  | moved silent found ready goes =>
    exact ⟨exclusive_moveTo exclusive found fun _ => waits_runs ready,
      waiting.modify (movedTask_id _) (waiting.free found ready)⟩
  | dialled silent found ready placed =>
    exact ⟨exclusive_moveTo exclusive found fun _ => waits_runs ready,
      waiting_dialled orderly.waiting found ready (attempts_called placed)⟩
  | dropped silent found ready cancelled =>
    exact ⟨exclusive_moveTo exclusive found fun goes => absurd rfl goes,
      waiting.modify (movedTask_id _) (waiting.free found ready)⟩
  | finished silent found ready =>
    exact ⟨exclusive_finish exclusive found (waits_runs ready),
      waiting.modify (movedTask_id _) (waiting.free found ready)⟩
  | thrown silent found calling =>
    exact ⟨exclusive_finish exclusive found (by simp [calling]),
      (waiting.erase _).modify (movedTask_id _) (waiting.only found calling)⟩
  | replied silent found caller => exact ⟨exclusive,waiting.erase _⟩
  | resumed silent found caller holder =>
    obtain ⟨task,there,calling⟩ := (waiting _ (Table.find_mem found)).2 _ caller
    obtain rfl := Option.some.inj (holder.symm.trans there)
    exact ⟨exclusive_moveTo exclusive holder fun _ => by simp [calling],
      (waiting.erase _).modify (movedTask_id _) (waiting.only holder calling)⟩
  | failed silent found caller holder =>
    obtain ⟨task,there,calling⟩ := (waiting _ (Table.find_mem found)).2 _ caller
    obtain rfl := Option.some.inj (holder.symm.trans there)
    exact ⟨exclusive_finish exclusive holder (by simp [calling]),
      (waiting.erase _).modify (movedTask_id _) (waiting.only holder calling)⟩
  | restarted silent ends =>
    refine ⟨exclusive_idle,?_⟩
    intro call member
    cases member

theorem orderly_step (orderly : Orderly app) : Orderly (step settings app tick) := by
  obtain ⟨exclusive,waiting⟩ := moved_orderly (step_moved settings app tick) orderly
  exact ⟨exclusive,waiting⟩

end Ignis.Backend
