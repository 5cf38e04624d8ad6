import Mathlib.Logic.Function.Basic
import Ignis.Watchdog

-- The host's table of processes is a history: a process is in it from its spawn until it is reaped.
namespace Ignis.Watchdog
open Runs

-- `main` after its loops: a SIGTERM for every pid, then a wait for each.
def signalled (w : State) : List Pid := (w.children.filter fun child => decide (0 < child.pid)).map Child.pid

variable {w : State} {turn : Turn} {seen : Look} {index : ℕ} {child : Child}

-- The child, if any, that the process of a pid was spawned for. A process is gone from here once
-- `waitpid` has returned its pid; until then the host gives the pid to no other process.
abbrev Processes := Pid → Option ℕ

def settle (index : ℕ) (processes : Processes) : Effect → Processes
  | .reaped pid => Function.update processes pid none
  | .posixSpawn _ _ (some pid) => Function.update processes pid (some index)
  | _ => processes

def NewPid (processes : Processes) : Effect → Prop
  | .posixSpawn _ _ (some pid) => 0 < pid ∧ processes pid = none
  | _ => True

def noteProcesses (w : State) (turn : Turn) (processes : Processes) : Processes :=
  run (settle turn.index) processes (effects w turn)

def hosted : State × Processes → Turn → State × Processes := observed step noteProcesses

def NewPids (s : State × Processes) (turn : Turn) : Prop := Along (settle turn.index) NewPid s.2 (effects s.1 turn)

def Denotes (s : State × Processes) : Prop :=
  ∀ (index : ℕ) (child : Child), s.1.children[index]? = some child → 0 < child.pid → s.2 child.pid = some index

def SignalsLive (s : State × Processes) : Prop := ∀ pid ∈ signalled s.1, (s.2 pid).isSome = true

def failsRespawn (w : State) : Turn → Bool
  | .start _ _ => false
  | .look seen => w.children[seen.index]?.any fun child => child.watched && seen.exited &&
      decide ((Child.budget.prune seen.now child.restarts).length < 3) && seen.outcome.isNone

variable {s : State × Processes}

theorem signalsLive (denotes : Denotes s) : SignalsLive s := by
  intro pid member
  obtain ⟨child,held,rfl⟩ := List.mem_map.mp member
  obtain ⟨there,positive⟩ := List.mem_filter.mp held
  obtain ⟨index,inside,rfl⟩ := List.mem_iff_getElem.mp there
  rw [denotes index _ (List.getElem?_eq_getElem inside) (of_decide_eq_true positive)]
  rfl

theorem denotes_iff (turn : Turn) (held : s.1.children[turn.index]? = some child) : Denotes (hosted s turn) ↔
    (0 < (turn.changes s.1.binDir child).1.pid →
      (hosted s turn).2 (turn.changes s.1.binDir child).1.pid = some turn.index) ∧
    ∀ (index : ℕ) (other : Child), turn.index ≠ index → s.1.children[index]? = some other → 0 < other.pid →
      (hosted s turn).2 other.pid = some index := by
  have machine : (hosted s turn).1 = step s.1 turn := rfl
  constructor
  · intro denotes
    constructor
    · apply denotes turn.index
      rw [machine,child_step,if_pos rfl,held]
      rfl
    · intro index other different there
      apply denotes index
      rw [machine,child_step,if_neg different]
      exact there
  · rintro ⟨own,others⟩ index new there
    rw [machine,child_step] at there
    by_cases same : turn.index = index
    · rw [if_pos same,← same,held,Option.map_some,Option.some.injEq] at there
      rw [← there,← same]
      exact own
    · rw [if_neg same] at there
      exact others index new same there

theorem denotes_absent (absent : s.1.children[turn.index]? = none) : Denotes (hosted s turn) ↔ Denotes s := by
  have nothing : effects s.1 turn = [] := by rw [effects,absent]
  have table : (hosted s turn).2 = s.2 := by
    show noteProcesses s.1 turn s.2 = s.2
    rw [noteProcesses,nothing]
    rfl
  have kids : ∀ index : ℕ, (hosted s turn).1.children[index]? = s.1.children[index]? := by
    intro index
    show (step s.1 turn).children[index]? = _
    rw [child_step]
    split
    · rename_i same
      rw [← same,absent]
      rfl
    · rfl
  unfold Denotes
  rw [table]
  simp only [kids]

theorem reaped_kept {processes : Processes} {pid own : Pid} {mine : ℕ} (held : processes own = some mine) (other : mine ≠ index)
    (there : processes pid = some index) : Function.update processes own none pid = some index := by
  rw [Function.update_of_ne]
  · exact there
  · rintro rfl
    rw [held,Option.some.injEq] at there
    exact other there

theorem added_kept {processes : Processes} {pid new : Pid} {mine : ℕ} (free : processes new = none)
    (there : processes pid = some index) : Function.update processes new (some mine) pid = some index := by
  rw [Function.update_of_ne]
  · exact there
  · rintro rfl
    rw [free] at there
    cases there

theorem watched_pid (watched : child.watched = true) : 0 < child.pid :=
  of_decide_eq_true (Bool.and_eq_true_iff.mp watched).1

theorem denotes_start {outcome : Option Pid} (denotes : Denotes s) (posix : NewPids s (.start index outcome))
    (held : s.1.children[index]? = some child) : Denotes (hosted s (.start index outcome)) := by
  apply (denotes_iff _ held).mpr
  unfold NewPids at posix
  have table : (hosted s (.start index outcome)).2 = run (settle index) s.2 (effects s.1 (.start index outcome)) := rfl
  rw [effects_own _ held] at posix table
  rw [table]
  cases outcome with
  | some pid =>
    have free : s.2 pid = none := posix.1.2
    have own : Function.update s.2 pid (some index) pid = some index := Function.update_self ..
    refine ⟨fun _ => own,?_⟩
    intro place other different there positive
    exact added_kept free (denotes place other there positive)
  | none =>
    refine ⟨denotes index child held,?_⟩
    intro place other different there positive
    exact denotes place other there positive

theorem denotes_look (denotes : Denotes s) (posix : NewPids s (.look seen)) (held : s.1.children[seen.index]? = some child) :
    Denotes (hosted s (.look seen)) ↔ failsRespawn s.1 (.look seen) = false := by
  have looks := looked child s.1.binDir seen.exited seen.now seen.outcome
  have outcome : failsRespawn s.1 (.look seen) = (child.watched && seen.exited &&
      decide ((Child.budget.prune seen.now child.restarts).length < 3) && seen.outcome.isNone) := by
    rw [failsRespawn,held]
    rfl
  rw [denotes_iff (.look seen) held,outcome]
  unfold NewPids at posix
  have table : (hosted s (.look seen)).2 = run (settle seen.index) s.2 (effects s.1 (.look seen)) := rfl
  rw [effects_own (.look seen) held] at posix table
  rw [table]
  have changes : Turn.changes s.1.binDir (.look seen) child =
      child.look s.1.binDir seen.exited seen.now seen.outcome := rfl
  rw [changes] at posix ⊢
  generalize child.look s.1.binDir seen.exited seen.now seen.outcome = result at looks posix ⊢
  generalize seen.outcome = outcome at looks posix ⊢
  cases looks with
  | left given idle =>
    rw [idle]
    refine iff_of_true ⟨denotes seen.index child held,?_⟩ rfl
    intro place other different there positive
    exact denotes place other there positive
  | exhausted given watched ended spent =>
    have mine := denotes seen.index child held (watched_pid watched)
    have full : decide ((Child.budget.prune seen.now child.restarts).length < 3) = false :=
      decide_eq_false (Nat.not_lt.mpr spent)
    rw [full,Bool.and_false,Bool.false_and]
    have cleared : ¬ (0 : ℤ) < -1 := by decide
    refine iff_of_true ⟨fun positive => absurd positive cleared,?_⟩ rfl
    intro place other different there positive
    exact reaped_kept mine different (denotes place other there positive)
  | restarted pid watched ended room =>
    have mine := denotes seen.index child held (watched_pid watched)
    have free : Function.update s.2 child.pid none pid = none := posix.2.2.1.2
    rw [Option.isNone_some,Bool.and_false]
    have own : Function.update (Function.update s.2 child.pid none) pid (some seen.index) pid = some seen.index :=
      Function.update_self ..
    refine iff_of_true ⟨fun _ => own,?_⟩ rfl
    intro place other different there positive
    exact added_kept free (reaped_kept mine different (denotes place other there positive))
  | failed watched ended room =>
    have positive := watched_pid watched
    -- The pid stays in the record, and no process is left that it denotes.
    have gone : Function.update s.2 child.pid none child.pid = none := Function.update_self ..
    rw [watched,ended,decide_eq_true room]
    refine iff_of_false ?_ (by decide)
    rintro ⟨own,_⟩
    have stale : Function.update s.2 child.pid none child.pid = some seen.index := own positive
    rw [gone] at stale
    cases stale

theorem denotes_turn (denotes : Denotes s) (posix : NewPids s turn) :
    Denotes (hosted s turn) ↔ failsRespawn s.1 turn = false := by
  cases held : s.1.children[turn.index]? with
  | none =>
    rw [denotes_absent held]
    refine iff_of_true denotes ?_
    cases turn with
    | start => rfl
    | look seen =>
      have absent : s.1.children[seen.index]? = none := held
      rw [failsRespawn,absent]
      rfl
  | some child =>
    cases turn with
    | start index outcome => exact iff_of_true (denotes_start denotes posix held) rfl
    | look seen => exact denotes_look denotes posix held

theorem pids_live_iff (binDir cameraMode : Option String) (turns : List Turn)
    (posix : Along hosted NewPids (created binDir cameraMode,fun _ => none) turns) :
    Throughout hosted (fun s => Denotes s ∧ SignalsLive s) (created binDir cameraMode,fun _ => none) turns ↔
      Along step (fun w turn => failsRespawn w turn = false) (created binDir cameraMode) turns := by
  have start : Denotes (created binDir cameraMode,fun _ => none) := by
    intro index child held positive
    have member := List.mem_of_getElem? held
    simp only [created,children,List.mem_cons,List.not_mem_nil,or_false] at member
    rcases member with rfl | rfl | rfl | rfl | rfl <;> cases positive
  have exact : ∀ (s : State × Processes) (turn : Turn), NewPids s turn → True → Denotes s ∧ SignalsLive s →
      (Denotes (hosted s turn) ∧ SignalsLive (hosted s turn) ↔ failsRespawn s.1 turn = false) := by
    intro s turn posix _ both
    have turned := denotes_turn both.1 posix
    exact ⟨fun next => turned.mp next.1,fun met => ⟨turned.mpr met,signalsLive (turned.mpr met)⟩⟩
  have lifted := throughout_iff_within (fun _ => True) (fun _ _ _ _ => trivial) exact posix trivial ⟨start,signalsLive start⟩
  rw [lifted]
  exact observed_along (P := fun w turn => failsRespawn w turn = false)

instance newPidDecidable (processes : Processes) : ∀ effect, Decidable (NewPid processes effect)
  | .posixSpawn _ _ (some _) => inferInstanceAs (Decidable (_ ∧ _))
  | .posixSpawn _ _ none => .isTrue trivial
  | .reaped _ => .isTrue trivial
  | .logEvent _ _ _ => .isTrue trivial

instance newPidsDecidable (s : State × Processes) (turn : Turn) : Decidable (NewPids s turn) :=
  decidableAlong s.2 (effects s.1 turn)

-- The camera service ends and is started again.
theorem pids_live_restarted : Throughout hosted (fun s => Denotes s ∧ SignalsLive s) (created none none,fun _ => none)
    [.start 0 (some 7),.look ⟨0,true,second,some 8⟩] :=
  (pids_live_iff none none _ (by decide +kernel)).mpr (by decide +kernel)

-- It ends, cannot be started again, and the shutdown signals the pid that was reaped.
def failedRespawn : List Turn := [.start 0 (some 7),.look ⟨0,true,second,none⟩]

theorem reaped_pid_signalled : Along hosted NewPids (created none none,fun _ => none) failedRespawn ∧
    7 ∈ signalled (run hosted (created none none,fun _ => none) failedRespawn).1 ∧
    (run hosted (created none none,fun _ => none) failedRespawn).2 7 = none ∧
    ¬ Throughout hosted (fun s => Denotes s ∧ SignalsLive s) (created none none,fun _ => none) failedRespawn := by
  have signals : 7 ∈ signalled (run hosted (created none none,fun _ => none) failedRespawn).1 := by decide +kernel
  have reaped : (run hosted (created none none,fun _ => none) failedRespawn).2 7 = none := by decide +kernel
  refine ⟨by decide +kernel,signals,reaped,?_⟩
  intro all
  have live := all.last.2 7 signals
  rw [reaped] at live
  cases live

end Ignis.Watchdog
