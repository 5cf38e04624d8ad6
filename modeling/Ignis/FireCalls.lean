import Ignis.UnansweredFires

namespace Ignis.Backend
open Tables Database Communications Escalation Runs

variable {settings : Settings} {app : App} {incidentId : String} {task : ResponseTask}

def turns (task : ResponseTask) : ℕ := if task.phase = .created then 2 else 1

def resumes (id : ℕ) (times : List Time) : List Tick := times.map fun now => ⟨now,.resume id⟩

structure Fired (before app : App) (task : ResponseTask) : Prop where
  frozen : Frozen app.database task.incidentId
  recorded : timeouts app.database task.incidentId = timeouts before.database task.incidentId + 1
  uncalled : app.database.callAttempts = before.database.callAttempts
  dialling : app.timeoutManager.tasks.find task.id = some (movedTask .announcing task)

def Calls (incidentId : String) (now : Time) (admitted : Bool) (before after : Database) : Prop :=
  if admitted then ∃ attempt : CallAttempt, attempt.incidentId = incidentId ∧ attempt.requestedAt = now ∧
      after.callAttempts.rows = before.callAttempts.rows ++ [attempt]
  else after.callAttempts = before.callAttempts

theorem fired_wake (settings : Settings) (now : Time) (found : app.timeoutManager.tasks.find task.id = some task)
    (waits : Unanswered app.database task.incidentId) : Fired app (wake app now task) task := by
  obtain ⟨stored,there,guard⟩ := (Option.any_eq_true ..).mp waits
  simp only [unanswered,Bool.and_eq_true,decide_eq_true_eq] at guard
  refine ⟨(frozen_wake settings app now waits).2,timeouts_fires settings waits,?_,?_⟩
  · rw [attempts_rows (rows_wake.trans (if_pos waits))]
    exact @attempts_responded settings ..
  · simp only [wake,there,guard.1,guard.2,ne_eq,not_true_eq_false,if_false,Bool.not_true,Bool.false_eq_true,moveTask,moveTo,
      Table.find_modify_same,found,Option.map_some]

theorem timing_turns (settings : Settings) (found : app.timeoutManager.tasks.find task.id = some task)
    (times : timing task = true) (waits : Unanswered app.database task.incidentId) (wakes : List Time)
    (enough : wakes.length = turns task) : Fired app (run (step settings) app (resumes task.id wakes)) task := by
  simp only [timing,Bool.and_eq_true,Bool.or_eq_true,decide_eq_true_eq,Bool.not_eq_true'] at times
  obtain ⟨phase | phase,kept⟩ := times
  · rw [turns,if_pos phase] at enough
    obtain ⟨a,b,rfl⟩ := List.length_eq_two.mp enough
    have slept : step settings app ⟨a,.resume task.id⟩ = moveTask app task .sleeping := by
      simp only [step,resume,found,phase,kept]
    have asleep : (moveTask app task .sleeping).timeoutManager.tasks.find task.id = some (movedTask .sleeping task) := by
      simp only [moveTask,moveTo,Table.find_modify_same,found,Option.map_some]
    have woken : step settings (moveTask app task .sleeping) ⟨b,.resume task.id⟩ =
        wake (moveTask app task .sleeping) b (movedTask .sleeping task) := by
      simp only [step,resume,asleep]
      simp only [movedTask,kept]
    show Fired app (step settings (step settings app ⟨a,.resume task.id⟩) ⟨b,.resume task.id⟩) task
    rw [slept,woken]
    have fires : Fired (moveTask app task .sleeping) (wake (moveTask app task .sleeping) b (movedTask .sleeping task))
        (movedTask .sleeping task) := fired_wake settings b asleep waits
    exact ⟨fires.frozen,fires.recorded,fires.uncalled,fires.dialling⟩
  · rw [turns,if_neg (by simp [phase])] at enough
    obtain ⟨a,rfl⟩ := List.length_eq_one_iff.mp enough
    have woken : step settings app ⟨a,.resume task.id⟩ = wake app a task := by
      simp only [step,resume,found,phase,kept]
    show Fired app (step settings app ⟨a,.resume task.id⟩) task
    rw [woken]
    exact fired_wake settings a found waits

theorem fired_calls {before : App} (fired : Fired before app task) (kept : task.cancelled = false) (now : Time) :
    Calls task.incidentId now (callable settings app.database now task.incidentId) app.database
      (step settings app ⟨now,.resume task.id⟩).database := by
  have effects : effect settings app ⟨now,.resume task.id⟩ =
      if callable settings app.database now task.incidentId then .called task.incidentId else .nothing := by
    simp only [effect,dials,turn,fired.dialling,movedTask,kept,Option.filter_some,Bool.not_false,if_true,decide_true,Bool.true_and]
    cases callable settings app.database now task.incidentId <;> rfl
  have attempts := attempts_rows (step_rows settings app ⟨now,.resume task.id⟩)
  rw [effects] at attempts
  unfold Calls
  cases gate : callable settings app.database now task.incidentId with
  | false =>
    rw [gate] at attempts
    exact attempts
  | true =>
    rw [gate] at attempts
    obtain ⟨make,numbered,pushed,parts⟩ := called_parts settings app.database now task.incidentId
    refine ⟨make app.database.callAttempts.next,(parts _).1,(parts _).2.1,?_⟩
    rw [attempts,if_pos rfl,pushed,Table.rows_push]

theorem attended_calls (settings : Settings) (orderly : Orderly app) (frozen : FiredFrozen app)
    (waits : Unanswered app.database incidentId) (attended : Attended app incidentId) :
    ∃ id count, 1 ≤ count ∧ count ≤ 2 ∧ ∀ (a : Time) (wakes : List Time) (c : Time), wakes.length = count →
      let fired := run (step settings) app (⟨a,.announced incidentId⟩ :: resumes id wakes)
      Frozen fired.database incidentId ∧
      timeouts fired.database incidentId = timeouts app.database incidentId + 1 ∧
      fired.database.callAttempts = app.database.callAttempts ∧
      Calls incidentId c (callable settings fired.database c incidentId) fired.database
        (step settings fired ⟨c,.resume id⟩).database := by
  obtain ⟨same,task,member,rfl,times⟩ := attended_announced orderly frozen waits attended
  refine ⟨task.id,turns task,?_,?_,fun a wakes c enough => ?_⟩
  · unfold turns
    split <;> omega
  · unfold turns
    split <;> omega
  rw [← same] at waits
  have fires := timing_turns settings (Table.find_iff.mpr ⟨member,rfl⟩) times waits wakes enough
  have kept : task.cancelled = false := by
    simp only [timing,Bool.and_eq_true,Bool.not_eq_true'] at times
    exact times.2
  rw [← same]
  exact ⟨fires.frozen,fires.recorded,fires.uncalled,fired_calls fires kept c⟩

end Ignis.Backend
