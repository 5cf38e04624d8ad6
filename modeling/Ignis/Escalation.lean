import Ignis.Database

-- The response timers of `escalation.py`, and the dictionary by which they are found and cancelled.
namespace Ignis.Escalation
open Tables Database

inductive Phase where
  | created
  | sleeping
  | announcing
  | calling (attemptId : ℕ)
  | reporting
  | done
deriving DecidableEq, Repr

structure ResponseTask where
  id : ℕ
  incidentId : String
  phase : Phase
  cancelled : Bool

structure Registration where
  incidentId : String
  task : ℕ

-- `registered` is `_tasks`; `tasks` are all that this process has created.
structure ResponseTimeoutManager where
  tasks : Table ResponseTask.id
  registered : Table Registration.incidentId

variable (manager : ResponseTimeoutManager)

def idle : ResponseTimeoutManager := ⟨.empty,.empty⟩

def running (task : ℕ) : Bool := (manager.tasks.find task).any fun row => row.phase ≠ .done

def newTask (incidentId : String) (id : ℕ) : ResponseTask := ⟨id,incidentId,.created,false⟩
def replaced (task : ℕ) (row : Registration) : Registration := { row with task := task }
def cancelledTask (task : ResponseTask) : ResponseTask := { task with cancelled := true }
def movedTask (phase : Phase) (task : ResponseTask) : ResponseTask := { task with phase := phase }

theorem newTask_id (incidentId : String) (id : ℕ) : (newTask incidentId id).id = id := rfl
theorem replaced_incidentId (task : ℕ) (row : Registration) : (replaced task row).incidentId = row.incidentId := rfl
theorem cancelledTask_id (task : ResponseTask) : (cancelledTask task).id = task.id := rfl
theorem movedTask_id (phase : Phase) (task : ResponseTask) : (movedTask phase task).id = task.id := rfl

def createTask (incidentId : String) : ResponseTimeoutManager where
  tasks := manager.tasks.push (newTask incidentId) (newTask_id incidentId)
  registered := manager.registered.upsert ⟨incidentId,manager.tasks.next⟩ (replaced manager.tasks.next)
    (replaced_incidentId manager.tasks.next)

def observe (db : Database) (incidentId : String) : ResponseTimeoutManager :=
  match db.getIncident incidentId with
  | none => manager
  | some incident =>
    if incident.responseState ≠ .awaitingResponse then manager
    else match manager.registered.find incidentId with
      | none => createTask manager incidentId
      | some existing => if running manager existing.task then manager else createTask manager incidentId

-- A cancelled task ends at its next turn, and is forgotten at once.
def cancel (incidentId : String) : ResponseTimeoutManager :=
  match manager.registered.find incidentId with
  | none => manager
  | some existing =>
    { tasks := manager.tasks.modify existing.task cancelledTask cancelledTask_id
      registered := manager.registered.erase incidentId }

def moveTo (task : ℕ) (phase : Phase) : ResponseTimeoutManager :=
  { manager with tasks := manager.tasks.modify task (movedTask phase) (movedTask_id phase) }

-- The `finally` of `_wait` forgets whichever task the incident has by now.
def finish (task : ResponseTask) : ResponseTimeoutManager :=
  { moveTo manager task.id .done with registered := manager.registered.erase task.incidentId }

end Ignis.Escalation
