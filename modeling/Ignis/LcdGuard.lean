import Ignis.Runs

-- The guard of the LCD helper: a file made with O_EXCL, and taken away when its maker exits.
namespace Ignis.LcdGuard
open Runs

-- Where a helper is in `main`. One that `opened` the file has not registered its cleanup yet.
inductive Stage where
  | waiting
  | opened
  | writing
  | gone
deriving DecidableEq

structure Board where
  locked : Bool
  stage : ℕ → Stage

def cleared : Board := ⟨false,fun _ => .waiting⟩

inductive Input where
  | acquire (helper : ℕ)
  -- `open` fails for another reason than that the file is there.
  | acquireFails (helper : ℕ)
  | atexit (helper : ℕ) (registered : Bool)
  | exit (helper : ℕ)
  | kill (helper : ℕ)

def Board.enter (board : Board) (helper : ℕ) (stage : Stage) : Board :=
  { board with stage := Function.update board.stage helper stage }

def step (board : Board) : Input → Board
  | .acquire helper =>
    if board.stage helper ≠ .waiting then board
    else if board.locked then board.enter helper .gone
    else { board.enter helper .opened with locked := true }
  | .acquireFails helper => if board.stage helper ≠ .waiting then board else board.enter helper .gone
  | .atexit helper registered =>
    if board.stage helper ≠ .opened then board
    else if registered then board.enter helper .writing
    else { board.enter helper .gone with locked := false }
  | .exit helper =>
    if board.stage helper ≠ .writing then board else { board.enter helper .gone with locked := false }
  | .kill helper => board.enter helper .gone

-- A helper that has the file; it uses the SPI bus only then.
def Board.holds (board : Board) (helper : ℕ) : Prop := board.stage helper = .opened ∨ board.stage helper = .writing

variable {board : Board} {input : Input} {helper other : ℕ} {stage : Stage}

@[simp] theorem stage_enter : (board.enter helper stage).stage other = if other = helper then stage else board.stage other := by
  simp only [Board.enter,Function.update_apply]

inductive Moved (board : Board) (input : Input) : Board → Prop where
  | same : Moved board input board
  | took {helper : ℕ} (free : board.locked = false) :
      Moved board input { board.enter helper .opened with locked := true }
  | kept {helper : ℕ} (held : board.holds helper) : Moved board input (board.enter helper .writing)
  | released {helper : ℕ} (held : board.holds helper) : Moved board input { board.enter helper .gone with locked := false }
  | left {helper : ℕ} (absent : board.holds helper → input = .kill helper) : Moved board input (board.enter helper .gone)

theorem step_moved (board : Board) (input : Input) : Moved board input (step board input) := by
  have outside : ∀ {helper}, board.stage helper = .waiting → ¬ board.holds helper := by
    rintro helper waits (held | held) <;> rw [waits] at held <;> cases held
  cases input with
  | acquire helper =>
    simp only [step]
    split
    · exact .same
    · rename_i waits
      split
      · exact .left fun held => absurd held (outside (not_not.mp waits))
      · rename_i free
        exact .took (eq_false_of_ne_true free)
  | acquireFails helper =>
    simp only [step]
    split
    · exact .same
    · rename_i waits
      exact .left fun held => absurd held (outside (not_not.mp waits))
  | atexit helper registered =>
    simp only [step]
    split
    · exact .same
    · rename_i opened
      split
      · exact .kept (.inl (not_not.mp opened))
      · exact .released (.inl (not_not.mp opened))
  | exit helper =>
    simp only [step]
    split
    · exact .same
    · rename_i writes
      exact .released (.inr (not_not.mp writes))
  | kill helper => exact .left fun _ => rfl

structure Single (board : Board) : Prop where
  alone : ∀ a b, board.holds a → board.holds b → a = b
  locked : ∀ a, board.holds a → board.locked = true

theorem holds_gone : (board.enter helper .gone).holds other ↔ board.holds other ∧ other ≠ helper := by
  by_cases own : other = helper <;> simp [Board.holds,own]

theorem holds_opened : (board.enter helper .opened).holds other ↔ board.holds other ∨ other = helper := by
  by_cases own : other = helper <;> simp [Board.holds,own]

theorem holds_kept (held : board.holds helper) : (board.enter helper .writing).holds other ↔ board.holds other := by
  by_cases own : other = helper
  · subst own
    simp [Board.holds] at held ⊢
    exact held
  · simp [Board.holds,own]

theorem single_step (single : Single board) : Single (step board input) := by
  have moved := step_moved board input
  generalize step board input = next at moved
  cases moved with
  | same => exact single
  | took free =>
    have nobody : ∀ a, ¬ board.holds a := fun a held => by
      have there := single.locked a held
      rw [free] at there
      cases there
    refine ⟨fun a b first second => ?_,fun _ _ => rfl⟩
    rw [(holds_opened.mp first).resolve_left (nobody a),(holds_opened.mp second).resolve_left (nobody b)]
  | kept held =>
    exact ⟨fun a b first second => single.alone a b ((holds_kept held).mp first) ((holds_kept held).mp second),
      fun a holds => single.locked a ((holds_kept held).mp holds)⟩
  | released held =>
    have nobody : ∀ a, ¬ (board.enter _ .gone).holds a := fun a holds =>
      (holds_gone.mp holds).2 (single.alone a _ (holds_gone.mp holds).1 held)
    exact ⟨fun a b first _ => absurd first (nobody a),fun a holds => absurd holds (nobody a)⟩
  | left absent =>
    exact ⟨fun a b first second => single.alone a b (holds_gone.mp first).1 (holds_gone.mp second).1,
      fun a holds => single.locked a (holds_gone.mp holds).1⟩

def Tidy (board : Board) : Prop := board.locked = true → ∃ a, board.holds a

def Unkilled (board : Board) (input : Input) : Prop := ∀ helper, input = .kill helper → ¬ board.holds helper

theorem tidy_step (unkilled : Unkilled board input) (tidy : Tidy board) : Tidy (step board input) := by
  have moved := step_moved board input
  generalize step board input = next at moved
  cases moved with
  | same => exact tidy
  | took free => exact fun _ => ⟨_,holds_opened.mpr (.inr rfl)⟩
  | kept held =>
    intro locked
    obtain ⟨a,holds⟩ := tidy locked
    exact ⟨a,(holds_kept held).mpr holds⟩
  | released held => exact fun locked => nomatch locked
  | left absent =>
    intro locked
    obtain ⟨a,holds⟩ := tidy locked
    refine ⟨a,holds_gone.mpr ⟨holds,?_⟩⟩
    rintro rfl
    exact unkilled _ (absent holds) holds

def Stale (board : Board) : Prop := board.locked = true ∧ ∀ a, ¬ board.holds a

theorem stale_step (stale : Stale board) : Stale (step board input) := by
  obtain ⟨locked,nobody⟩ := stale
  have moved := step_moved board input
  generalize step board input = next at moved
  cases moved with
  | same => exact ⟨locked,nobody⟩
  | took free =>
    rw [free] at locked
    cases locked
  | kept held => exact absurd held (nobody _)
  | released held => exact absurd held (nobody _)
  | left absent => exact ⟨locked,fun a holds => nobody a (holds_gone.mp holds).1⟩

theorem single_cleared : Single cleared := by
  refine ⟨?_,?_⟩
  all_goals rintro a
  · rintro b (held | held) <;> cases held
  · rintro (held | held) <;> cases held

-- Once a helper is killed while it has the file, none ever gets it again.
theorem writers_exclude (inputs : List Input) :
    (∀ a b, (run step cleared inputs).holds a → (run step cleared inputs).holds b → a = b) ∧
    (Along step Unkilled cleared inputs → ((run step cleared inputs).locked = true ↔ ∃ a, (run step cleared inputs).holds a)) ∧
    ∀ helper later, (run step cleared inputs).holds helper →
      ∀ a, ¬ (run step cleared (inputs ++ .kill helper :: later)).holds a := by
  have single : Single (run step cleared inputs) := invariant Single (fun _ _ => single_step) single_cleared
  refine ⟨single.alone,fun unkilled => ⟨?_,fun held => single.locked _ held.choose_spec⟩,?_⟩
  · exact invariant_along Tidy (fun _ _ => tidy_step) (fun locked => nomatch locked) unkilled
  · intro helper later held
    have stale : Stale (step (run step cleared inputs) (.kill helper)) := by
      refine ⟨single.locked helper held,fun a holds => ?_⟩
      obtain ⟨before,other⟩ := holds_gone.mp holds
      exact other (single.alone a helper before held)
    rw [run_append,run_cons]
    exact (invariant Stale (fun _ _ => stale_step) stale).2

end Ignis.LcdGuard
