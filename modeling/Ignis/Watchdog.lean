import Ignis.Runs
import Ignis.SlidingWindow

-- The watchdog of the camera computer (qnx/watchdog_service/src/main.cpp).
namespace Ignis.Watchdog
open Runs SlidingWindow

abbrev Pid := ℤ

-- Times are nanoseconds of the steady clock.
def second : ℤ := 1000000000

structure Child where
  name : String
  arguments : List String
  pid : Pid := -1
  restarts : List ℤ := []
  exhausted : Bool := false

inductive Severity where
  | debug | info | warning | error | critical
  deriving DecidableEq

-- What the watchdog asks of its host. `outcome` is what `posix_spawn` stores in the pid it is
-- given: nothing when it fails.
inductive Effect where
  | reaped (pid : Pid)
  | posixSpawn (executable : String) (argv : List String) (outcome : Option Pid)
  | logEvent (severity : Severity) (code message : String)
  deriving DecidableEq

def children (cameraMode : String) : List Child :=
  [{ name := "camera_service",arguments := [cameraMode] },
   { name := "inference_service",arguments := [] },
   { name := "incident_engine",arguments := [] },
   { name := "stream_service",arguments := [] },
   { name := "alarm_service",arguments := [] }]

structure State where
  binDir : String
  children : List Child

-- `main` up to its first loop, for `argv[1]` and `IGNIS_CAMERA_MODE`.
def created (binDir cameraMode : Option String) : State :=
  ⟨binDir.getD "/data/home/qnxuser/ignis/bin",children (cameraMode.getD "qnx")⟩

namespace Child
variable (child : Child) (binDir : String)

def executable : String := binDir ++ "/" ++ child.name

def spawnRequest (outcome : Option Pid) : Effect :=
  .posixSpawn (child.executable binDir) (child.executable binDir :: child.arguments) outcome

def spawned (outcome : Option Pid) : Child × Bool :=
  match outcome with
  | some pid => ({ child with pid := pid },true)
  | none => (child,false)

def start (outcome : Option Pid) : Child × List Effect :=
  match child.spawned outcome with
  | (started,true) => (started,[child.spawnRequest binDir outcome])
  | (failed,false) => ({ failed with exhausted := true },
      [child.spawnRequest binDir outcome,.logEvent .error "CHILD_START_FAILED" child.name])

-- A restart is forgotten more than 60 seconds after it.
def budget : Expiry ℤ where
  stale now t := decide (now - t > 60*second)
  older := by
    intro now earlier later order gone
    rw [decide_eq_true_eq] at gone ⊢
    omega
  lasting := by
    intro now next t order gone
    rw [decide_eq_true_eq] at gone ⊢
    omega

def watched : Bool := decide (0 < child.pid) && !child.exhausted

-- One turn of the loop's body: whether `waitpid` returns the pid, the time, and what a spawn gives.
def look (exited : Bool) (now : ℤ) (outcome : Option Pid) : Child × List Effect :=
  if !child.watched then (child,[])
  else if !exited then (child,[])
  else
    let pruned := { child with restarts := budget.prune now child.restarts }
    if pruned.restarts.length ≥ 3 then
      ({ pruned with exhausted := true,pid := -1 },
        [.reaped child.pid,.logEvent .critical "RESTART_BUDGET_EXHAUSTED" child.name])
    else
      let restarting := { pruned with restarts := pruned.restarts ++ [now] }
      let effects := [.reaped child.pid,.logEvent .warning "CHILD_RESTARTING" child.name,
        child.spawnRequest binDir outcome]
      match restarting.spawned outcome with
      | (started,true) => (started,effects)
      | (failed,false) => ({ failed with exhausted := true },effects)

end Child

structure Look where
  index : ℕ
  exited : Bool
  now : ℤ
  outcome : Option Pid

inductive Turn where
  | start (index : ℕ) (outcome : Option Pid)
  | look (seen : Look)

def Turn.index : Turn → ℕ
  | .start index _ => index
  | .look seen => seen.index

def Turn.changes (binDir : String) : Turn → Child → Child × List Effect
  | .start _ outcome,child => child.start binDir outcome
  | .look seen,child => child.look binDir seen.exited seen.now seen.outcome

def step (w : State) (turn : Turn) : State :=
  { w with children := w.children.modify turn.index fun child => (turn.changes w.binDir child).1 }

def effects (w : State) (turn : Turn) : List Effect :=
  match w.children[turn.index]? with
  | some child => (turn.changes w.binDir child).2
  | none => []

def starts (outcomes : List (Option Pid)) : List Turn := outcomes.mapIdx .start

def started (binDir cameraMode : Option String) (outcomes : List (Option Pid)) : State :=
  run step (created binDir cameraMode) (starts outcomes)

variable {w : State} {turn : Turn} {index : ℕ} {child : Child} {binDir : String}
  {exited : Bool} {now : ℤ} {outcome : Option Pid}

inductive Looked (child : Child) (binDir : String) (exited : Bool) (now : ℤ) :
    Option Pid → Child × List Effect → Prop where
  | left (given : Option Pid) : (child.watched && exited) = false → Looked child binDir exited now given (child,[])
  | exhausted (given : Option Pid) : child.watched = true → exited = true →
      3 ≤ (Child.budget.prune now child.restarts).length →
      Looked child binDir exited now given
        ({ child with restarts := Child.budget.prune now child.restarts,exhausted := true,pid := -1 },
          [.reaped child.pid,.logEvent .critical "RESTART_BUDGET_EXHAUSTED" child.name])
  | restarted (pid : Pid) : child.watched = true → exited = true →
      (Child.budget.prune now child.restarts).length < 3 →
      Looked child binDir exited now (some pid)
        ({ child with restarts := Child.budget.prune now child.restarts ++ [now],pid := pid },
          [.reaped child.pid,.logEvent .warning "CHILD_RESTARTING" child.name,child.spawnRequest binDir (some pid)])
  | failed : child.watched = true → exited = true →
      (Child.budget.prune now child.restarts).length < 3 →
      Looked child binDir exited now none
        ({ child with restarts := Child.budget.prune now child.restarts ++ [now],exhausted := true },
          [.reaped child.pid,.logEvent .warning "CHILD_RESTARTING" child.name,child.spawnRequest binDir none])

theorem looked (child : Child) (binDir : String) (exited : Bool) (now : ℤ) (outcome : Option Pid) :
    Looked child binDir exited now outcome (child.look binDir exited now outcome) := by
  unfold Child.look
  cases seen : child.watched with
  | false => exact .left outcome (by simp [seen])
  | true =>
    cases exited with
    | false => exact .left outcome (by simp)
    | true =>
      dsimp only
      by_cases spent : (Child.budget.prune now child.restarts).length ≥ 3
      · simp only [Bool.not_true,Bool.false_eq_true,if_false,if_pos spent]
        exact .exhausted outcome seen rfl spent
      · simp only [Bool.not_true,Bool.false_eq_true,if_false,if_neg spent]
        cases outcome with
        | some pid => exact .restarted pid seen rfl (Nat.lt_of_not_le spent)
        | none => exact .failed seen rfl (Nat.lt_of_not_le spent)

theorem look_left (left : (child.watched && exited) = false) : child.look binDir exited now outcome = (child,[]) := by
  have looks := looked child binDir exited now outcome
  generalize child.look binDir exited now outcome = result at looks ⊢
  cases looks with
  | left => rfl
  | exhausted _ watched ended => rw [watched,ended] at left; cases left
  | restarted _ watched ended => rw [watched,ended] at left; cases left
  | failed watched ended => rw [watched,ended] at left; cases left

theorem child_step (w : State) (turn : Turn) (index : ℕ) : (step w turn).children[index]? =
    if turn.index = index then w.children[index]?.map fun child => (turn.changes w.binDir child).1
    else w.children[index]? := by
  rw [step,List.getElem?_modify]
  split
  · rfl
  · simp

theorem effects_same {v : State} (turn : Turn) (same : w.children[turn.index]? = v.children[turn.index]?)
    (dirs : w.binDir = v.binDir) : effects w turn = effects v turn := by
  rw [effects,effects,same,dirs]

theorem effects_own (turn : Turn) (held : w.children[turn.index]? = some child) :
    effects w turn = (turn.changes w.binDir child).2 := by
  rw [effects,held]

def Effect.spawns : Effect → Bool
  | .posixSpawn _ _ _ => true
  | _ => false

def noteRestart (index : ℕ) (w : State) (seen : Look) (times : List ℤ) : List ℤ :=
  if seen.index = index ∧ (effects w (.look seen)).any Effect.spawns = true then times ++ [seen.now] else times

def lookStep (w : State) (seen : Look) : State := step w (.look seen)

def restarts (index : ℕ) (w : State) (looks : List Look) : List ℤ :=
  (run (observed lookStep (noteRestart index)) (w,[]) looks).2

variable {looks earlier later others : List Look} {seen : Look}

theorem restarts_snoc : restarts index w (looks ++ [seen]) =
    noteRestart index (run lookStep w looks) seen (restarts index w looks) := by
  have machine : (run (observed lookStep (noteRestart index)) (w,[]) looks).1 = run lookStep w looks := observed_machine
  rw [restarts,run_snoc,restarts,← machine]
  rfl

theorem noteRestart_other {times : List ℤ} (other : seen.index ≠ index) : noteRestart index w seen times = times :=
  if_neg fun own => other own.1

theorem noteRestart_own {times : List ℤ} (held : w.children[index]? = some child) (own : seen.index = index) :
    noteRestart index w seen times =
      if (child.look w.binDir seen.exited seen.now seen.outcome).2.any Effect.spawns then times ++ [seen.now] else times := by
  subst own
  rw [noteRestart,effects_own (.look seen) held]
  simp only [true_and]
  rfl

def Budgeted (child : Child) (times : List ℤ) (looks : List Look) : Prop :=
  Child.budget.Follows 3 times (looks.map Look.now) child.restarts

theorem budgeted_look {times : List ℤ} (budgeted : Budgeted child times looks)
    (held : w.children[index]? = some child) (order : ∀ t ∈ looks.map Look.now, t ≤ seen.now) (own : seen.index = index) :
    Budgeted (child.look w.binDir seen.exited seen.now seen.outcome).1 (noteRestart index w seen times) (looks ++ [seen]) := by
  have counts : Child.budget.stale seen.now seen.now = false := by simp [Child.budget,second]
  rw [noteRestart_own held own,Budgeted,List.map_append]
  unfold Budgeted at budgeted
  have looks := looked child w.binDir seen.exited seen.now seen.outcome
  generalize child.look w.binDir seen.exited seen.now seen.outcome = result at looks ⊢
  generalize seen.outcome = outcome at looks
  cases looks with
  | left _ idle => exact budgeted.idle
  | exhausted _ _ _ spent => exact budgeted.pruned order
  | restarted pid _ _ room => exact budgeted.pushed order counts room
  | failed _ _ room => exact budgeted.pushed order counts room

theorem child_look_own (w : State) (own : seen.index = index) : (lookStep w seen).children[index]? =
    w.children[index]?.map fun child => (child.look w.binDir seen.exited seen.now seen.outcome).1 :=
  (child_step w (.look seen) index).trans (if_pos own)

theorem child_look_other (w : State) (other : seen.index ≠ index) : (lookStep w seen).children[index]? = w.children[index]? :=
  (child_step w (.look seen) index).trans (if_neg other)

theorem binDir_run : (run lookStep w looks).binDir = w.binDir := by
  refine invariant (fun later : State => later.binDir = w.binDir) ?_ rfl
  intro later seen same
  exact same

theorem budgeted_run (fresh : ∀ child, w.children[index]? = some child → child.restarts = [])
    (ordered : (looks.map Look.now).Pairwise (· ≤ ·)) (held : (run lookStep w looks).children[index]? = some child) :
    Budgeted child (restarts index w looks) looks := by
  induction looks using List.reverseRecOn generalizing child with
  | nil =>
    rw [Budgeted,fresh child held]
    exact SlidingWindow.Expiry.follows_nil
  | append_singleton looks seen ih =>
    rw [List.map_append] at ordered
    obtain ⟨before,_,order⟩ := List.pairwise_append.mp ordered
    rw [run_snoc] at held
    rw [restarts_snoc]
    by_cases own : seen.index = index
    · rw [child_look_own _ own] at held
      obtain ⟨old,there,rfl⟩ := Option.map_eq_some_iff.mp held
      exact budgeted_look (ih before there) there (fun t member => order t member _ (by simp)) own
    · rw [child_look_other _ own] at held
      rw [noteRestart_other own,Budgeted,List.map_append]
      exact (ih before held).idle

theorem given_up (later : List Look) (held : (run lookStep w earlier).children[index]? = some child) (gone : child.exhausted = true) :
    (run lookStep w (earlier ++ later)).children[index]? = some child ∧
      restarts index w (earlier ++ later) = restarts index w earlier := by
  induction later using List.reverseRecOn with
  | nil => rw [List.append_nil]; exact ⟨held,rfl⟩
  | append_singleton later seen ih =>
    obtain ⟨there,same⟩ := ih
    have left : (child.watched && seen.exited) = false := by simp [Child.watched,gone]
    rw [← List.append_assoc,run_snoc,restarts_snoc]
    by_cases own : seen.index = index
    · rw [child_look_own _ own,noteRestart_own there own,there,Option.map_some,look_left left]
      exact ⟨rfl,same⟩
    · rw [child_look_other _ own,noteRestart_other own]
      exact ⟨there,same⟩

theorem own_looks (w : State) (looks : List Look) (index : ℕ) : (run lookStep w looks).children[index]? =
      (run lookStep w (looks.filter fun seen => seen.index = index)).children[index]? ∧
    restarts index w looks = restarts index w (looks.filter fun seen => seen.index = index) := by
  induction looks using List.reverseRecOn with
  | nil => exact ⟨rfl,rfl⟩
  | append_singleton looks seen ih =>
    obtain ⟨child,times⟩ := ih
    rw [List.filter_append,run_snoc,restarts_snoc,times]
    by_cases own : seen.index = index
    · have single : [seen].filter (fun seen => seen.index = index) = [seen] := by simp [own]
      rw [single,run_snoc,restarts_snoc,child_look_own _ own,child_look_own _ own,child,binDir_run,binDir_run]
      refine ⟨rfl,?_⟩
      subst own
      rw [noteRestart,noteRestart,effects_same (.look seen) child (binDir_run.trans binDir_run.symm)]
    · have none : [seen].filter (fun seen => seen.index = index) = [] := by simp [own]
      rw [none,List.append_nil,child_look_other _ own,noteRestart_other own]
      exact ⟨child,rfl⟩

theorem restarts_absent (absent : (run lookStep w looks).children[index]? = none) : restarts index w looks = [] := by
  induction looks using List.reverseRecOn with
  | nil => rfl
  | append_singleton looks seen ih =>
    rw [run_snoc] at absent
    by_cases own : seen.index = index
    · rw [child_look_own _ own,Option.map_eq_none_iff] at absent
      subst own
      have nothing : effects (run lookStep w looks) (.look seen) = [] := by
        unfold effects Turn.index
        rw [absent]
      rw [restarts_snoc,ih absent,noteRestart,nothing,if_neg (by simp)]
    · rw [child_look_other _ own] at absent
      rw [restarts_snoc,noteRestart_other own,ih absent]

theorem started_restarts (binDir cameraMode : Option String) (outcomes : List (Option Pid)) :
    ∀ (index : ℕ) (child : Child), (started binDir cameraMode outcomes).children[index]? = some child →
      child.restarts = [] := by
  rw [started,starts]
  generalize begun : outcomes.mapIdx Turn.start = turns
  have kinds : ∀ turn ∈ turns, ∃ index outcome, turn = .start index outcome := by
    rw [← begun]
    intro turn member
    obtain ⟨index,inside,rfl⟩ := List.mem_mapIdx.mp member
    exact ⟨_,_,rfl⟩
  refine invariant_along (fun w : State => ∀ (index : ℕ) (child : Child), w.children[index]? = some child →
    child.restarts = []) ?_ ?_ (along_inputs kinds)
  · rintro w turn ⟨place,outcome,rfl⟩ empty index child held
    rw [child_step] at held
    split at held
    · obtain ⟨old,there,rfl⟩ := Option.map_eq_some_iff.mp held
      cases outcome with
      | some pid => exact empty index old there
      | none => exact empty index old there
    · exact empty index child held
  · intro index child held
    have member := List.mem_of_getElem? held
    simp only [created,children,List.mem_cons,List.not_mem_nil,or_false] at member
    rcases member with rfl | rfl | rfl | rfl | rfl <;> rfl

def exhaustedAt (index : ℕ) (w : State) : Bool := w.children[index]?.any Child.exhausted

theorem restart_budget (binDir cameraMode : Option String) (outcomes : List (Option Pid)) (looks : List Look) (index : ℕ)
    (ordered : (looks.map Look.now).Pairwise (· ≤ ·)) :
    let w := started binDir cameraMode outcomes
    (∀ first, ((restarts index w looks).filter fun t => first ≤ t ∧ t ≤ first + 60*second).length ≤ 3) ∧
    (∀ earlier later, looks = earlier ++ later → exhaustedAt index (run lookStep w earlier) = true →
      exhaustedAt index (run lookStep w looks) = true ∧ restarts index w looks = restarts index w earlier) ∧
    (∀ others, (others.filter fun seen => seen.index = index) = (looks.filter fun seen => seen.index = index) →
      (run lookStep w others).children[index]? = (run lookStep w looks).children[index]? ∧
        restarts index w others = restarts index w looks) := by
  intro w
  refine ⟨?_,?_,?_⟩
  · intro first
    have bounded : Child.budget.AtMost 3 (restarts index w looks) := by
      cases held : (run lookStep w looks).children[index]? with
      | none =>
        rw [restarts_absent held]
        exact SlidingWindow.Expiry.atMost_nil
      | some child =>
        exact (budgeted_run (started_restarts binDir cameraMode outcomes index) ordered held).bounded
    apply bounded
    intro t now one two order
    rw [decide_eq_true_eq] at one two
    refine decide_eq_false ?_
    omega
  · rintro earlier later rfl gone
    unfold exhaustedAt at gone ⊢
    cases held : (run lookStep w earlier).children[index]? with
    | none => rw [held] at gone; cases gone
    | some child =>
      rw [held] at gone
      obtain ⟨there,same⟩ := given_up later held gone
      rw [there]
      exact ⟨gone,same⟩
  · intro others same
    have other := own_looks w others index
    rw [same] at other
    obtain ⟨child,times⟩ := own_looks w looks index
    exact ⟨other.1.trans child.symm,other.2.trans times.symm⟩

-- The camera service ends every ten seconds: its fourth exit is the last that is looked at.
def exits : List Look := [10,20,30,40,50].map fun t => ⟨0,true,t*second,some (100 + t)⟩

theorem restart_budget_spent :
    restarts 0 (started none none [some 7,some 8,some 9,some 10,some 11]) exits = [10*second,20*second,30*second] ∧
    (∀ first, ((restarts 0 (started none none [some 7,some 8,some 9,some 10,some 11]) exits).filter fun t =>
      first ≤ t ∧ t ≤ first + 60*second).length ≤ 3) :=
  ⟨by decide +kernel,(restart_budget none none [some 7,some 8,some 9,some 10,some 11] exits 0 (by decide)).1⟩

end Ignis.Watchdog
