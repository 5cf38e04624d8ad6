import Mathlib.Data.List.Basic
import Mathlib.Data.List.Infix

-- Machines driven by a list of inputs, one total step for each. An input that
-- a state cannot take is a step that leaves the state alone, so every list is a
-- run and nothing is assumed about the order in which inputs arrive.
namespace Runs
variable {σ ε γ : Type*} {step : σ → ε → σ} {s : σ} {es earlier later : List ε} {e : ε}

def run (step : σ → ε → σ) (s : σ) (es : List ε) : σ := es.foldl step s

@[simp] theorem run_nil : run step s [] = s := rfl
@[simp] theorem run_cons : run step s (e :: es) = run step (step s e) es := rfl
theorem run_append : run step s (earlier ++ later) = run step (run step s earlier) later := by
  simp [run]
theorem run_snoc : run step s (es ++ [e]) = step (run step s es) e := by simp [run]

def Along (step : σ → ε → σ) (P : σ → ε → Prop) : σ → List ε → Prop
  | _,[] => True
  | s,e :: rest => P s e ∧ Along step P (step s e) rest

variable {P Q : σ → ε → Prop}

@[simp] theorem along_nil : Along step P s [] := trivial
@[simp] theorem along_cons : Along step P s (e :: es) ↔ P s e ∧ Along step P (step s e) es := Iff.rfl

theorem along_append : Along step P s (earlier ++ later) ↔
    Along step P s earlier ∧ Along step P (run step s earlier) later := by
  induction earlier generalizing s with
  | nil => simp
  | cons e rest ih => simp [ih,and_assoc]

theorem along_snoc : Along step P s (es ++ [e]) ↔ Along step P s es ∧ P (run step s es) e := by
  simp [along_append]

theorem along_iff : Along step P s es ↔
    ∀ earlier e later, es = earlier ++ e :: later → P (run step s earlier) e := by
  constructor
  · rintro met earlier e later rfl
    exact (along_append.mp met).2.1
  · intro each
    induction es using List.reverseRecOn with
    | nil => trivial
    | append_singleton es e ih =>
      refine along_snoc.mpr ⟨ih ?_,each es e [] rfl⟩
      rintro earlier x later rfl
      exact each earlier x (later ++ [e]) (by simp)

theorem Along.imp (weaken : ∀ s e, P s e → Q s e) (met : Along step P s es) : Along step Q s es := by
  induction es generalizing s with
  | nil => trivial
  | cons e rest ih => exact ⟨weaken s e met.1,ih met.2⟩

theorem along_congr (same : ∀ s e, P s e ↔ Q s e) : Along step P s es ↔ Along step Q s es :=
  ⟨Along.imp fun s e => (same s e).mp,Along.imp fun s e => (same s e).mpr⟩

theorem along_inputs {P : ε → Prop} (all : ∀ e ∈ es, P e) : Along step (fun _ e => P e) s es := by
  apply along_iff.mpr
  rintro earlier e later rfl
  exact all e (by simp)

instance decidableAlong [∀ s e, Decidable (P s e)] : ∀ s es, Decidable (Along step P s es)
  | _,[] => .isTrue trivial
  | s,e :: rest => @instDecidableAnd _ _ _ (decidableAlong (step s e) rest)

variable {Held : σ → Prop}

theorem invariant_along (Inv : σ → Prop) (preserved : ∀ s e, P s e → Inv s → Inv (step s e))
    (start : Inv s) (met : Along step P s es) : Inv (run step s es) := by
  induction es generalizing s with
  | nil => exact start
  | cons e rest ih => exact ih (preserved s e met.1 start) met.2

theorem invariant (Inv : σ → Prop) (preserved : ∀ s e, Inv s → Inv (step s e)) (start : Inv s) :
    Inv (run step s es) :=
  invariant_along Inv (P := fun _ _ => True) (fun s e _ => preserved s e) start
    (along_iff.mpr fun _ _ _ _ => trivial)

theorem run_related {R : σ → σ → Prop} (refl : ∀ s, R s s) (trans : ∀ a b c, R a b → R b c → R a c)
    (steps : ∀ s e, R s (step s e)) : R s (run step s es) := by
  induction es generalizing s with
  | nil => exact refl s
  | cons e rest ih => exact trans _ _ _ (steps s e) ih

-- `Held` is true of every state the run passes through, both ends included.
def Throughout (step : σ → ε → σ) (Held : σ → Prop) (s : σ) (es : List ε) : Prop :=
  ∀ earlier, earlier <+: es → Held (run step s earlier)

theorem throughout_nil : Throughout step Held s [] ↔ Held s :=
  ⟨fun all => all [] List.nil_prefix,fun now earlier h => by simpa [List.prefix_nil.mp h] using now⟩

theorem throughout_cons : Throughout step Held s (e :: es) ↔
    Held s ∧ Throughout step Held (step s e) es := by
  constructor
  · intro all
    exact ⟨all [] (List.nil_prefix),fun earlier h => all (e :: earlier) (by simpa using h)⟩
  · rintro ⟨now,rest⟩ earlier h
    cases earlier with
    | nil => exact now
    | cons x earlier =>
      obtain ⟨rfl,tail⟩ := List.cons_prefix_cons.mp h
      exact rest earlier tail

theorem throughout_append : Throughout step Held s (earlier ++ later) ↔
    Throughout step Held s earlier ∧ Throughout step Held (run step s earlier) later := by
  induction earlier generalizing s with
  | nil =>
    rw [List.nil_append,run_nil,throughout_nil]
    exact ⟨fun all => ⟨all [] List.nil_prefix,all⟩,And.right⟩
  | cons e rest ih => rw [List.cons_append,throughout_cons,throughout_cons,run_cons,ih,and_assoc]

theorem Throughout.imp {Kept : σ → Prop} (weaken : ∀ s, Held s → Kept s) (all : Throughout step Held s es) :
    Throughout step Kept s es := fun earlier h => weaken _ (all earlier h)

theorem Throughout.last (all : Throughout step Held s es) : Held (run step s es) :=
  all es (List.prefix_refl es)

theorem Throughout.steps (all : Throughout step Held s es) : Along step (fun s e => Held s ∧ Held (step s e)) s es := by
  induction es generalizing s with
  | nil => trivial
  | cons e rest ih =>
    obtain ⟨now,later⟩ := throughout_cons.mp all
    exact ⟨⟨now,later [] List.nil_prefix⟩,ih later⟩

-- A guard that is exact for one step is exact for whole runs: the invariant `Inv` is
-- what one step may assume of the state besides `Held` itself, `W` what it may
-- assume of the input.
theorem throughout_iff_within (Inv : σ → Prop) {W : σ → ε → Prop} (kept : ∀ s e, W s e → Inv s → Inv (step s e))
    (exact : ∀ s e, W s e → Inv s → Held s → (Held (step s e) ↔ P s e))
    (within : Along step W s es) (valid : Inv s) (start : Held s) :
    Throughout step Held s es ↔ Along step P s es := by
  induction es generalizing s with
  | nil => exact ⟨fun _ => trivial,fun _ => throughout_nil.mpr start⟩
  | cons e rest ih =>
    rw [throughout_cons,along_cons]
    have guard := exact s e within.1 valid start
    have valids := kept s e within.1 valid
    constructor
    · rintro ⟨_,all⟩
      have next : Held (step s e) := all [] List.nil_prefix
      exact ⟨guard.mp next,(ih within.2 valids next).mp all⟩
    · rintro ⟨met,all⟩
      have next := guard.mpr met
      exact ⟨start,(ih within.2 valids next).mpr all⟩

theorem throughout_iff_along (Inv : σ → Prop) (kept : ∀ s e, Inv s → Inv (step s e))
    (exact : ∀ s e, Inv s → Held s → (Held (step s e) ↔ P s e)) (valid : Inv s) (start : Held s) :
    Throughout step Held s es ↔ Along step P s es := by
  have within : Along step (fun _ _ => True) s es := along_iff.mpr fun _ _ _ _ => trivial
  exact throughout_iff_within Inv (fun s e _ => kept s e) (fun s e _ => exact s e) within valid start

theorem throughout_along (Inv : σ → Prop) (kept : ∀ s e, P s e → Inv s → Inv (step s e)) (holds : ∀ s, Inv s → Held s)
    (start : Inv s) (met : Along step P s es) : Throughout step Held s es := by
  rintro earlier ⟨later,rfl⟩
  exact holds _ (invariant_along Inv kept start (along_append.mp met).1)

theorem throughout_iff_guarded (Inv : σ → Prop) (kept : ∀ s e, P s e → Inv s → Inv (step s e)) (holds : ∀ s, Inv s → Held s)
    (breaks : ∀ s e, Inv s → ¬ P s e → ¬ Held (step s e)) (valid : Inv s) :
    Throughout step Held s es ↔ Along step P s es := by
  refine ⟨?_,throughout_along Inv kept holds valid⟩
  intro all
  induction es generalizing s with
  | nil => trivial
  | cons e rest ih =>
    obtain ⟨_,later⟩ := throughout_cons.mp all
    have next : Held (step s e) := later [] List.nil_prefix
    have met : P s e := by
      by_contra broken
      exact breaks s e valid broken next
    exact ⟨met,ih (kept s e met valid) later⟩

-- A history variable rides along without being seen by the machine.
def observed (step : σ → ε → σ) (note : σ → ε → γ → γ) : σ × γ → ε → σ × γ :=
  fun (s,seen) e => (step s e,note s e seen)

theorem observed_machine {note : σ → ε → γ → γ} {seen : γ} :
    (run (observed step note) (s,seen) es).1 = run step s es := by
  induction es generalizing s seen with
  | nil => rfl
  | cons e rest ih => exact ih

theorem observed_along {note : σ → ε → γ → γ} {seen : γ} :
    Along (observed step note) (fun s e => P s.1 e) (s,seen) es ↔ Along step P s es := by
  induction es generalizing s seen with
  | nil => exact Iff.rfl
  | cons e rest ih => exact and_congr_right fun _ => ih

theorem observed_throughout {note : σ → ε → γ → γ} {seen : γ} :
    Throughout (observed step note) (fun s => Held s.1) (s,seen) es ↔ Throughout step Held s es :=
  forall₂_congr fun earlier _ => by
    show Held (run (observed step note) (s,seen) earlier).1 ↔ Held (run step s earlier)
    rw [observed_machine]

end Runs
