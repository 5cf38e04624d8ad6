import Mathlib.Algebra.Group.Hom.Defs
import Mathlib.Algebra.Order.Ring.Abs
import Mathlib.Data.List.Rotate
import Mathlib.Tactic.Abel
import Mathlib.Tactic.Linarith

-- Closed chains of points: sums over their edges, and clipping them at a line.
namespace ClosedChain
variable {α M : Type*}

section Sums
variable [AddMonoid M]

def pathSum (f : α → α → M) : α → List α → M
  | _,[] => 0
  | previous,current :: rest => f previous current + pathSum f current rest

def closedSum (f : α → α → M) (points : List α) : M :=
  match points.getLast? with
  | none => 0
  | some last => pathSum f last points

theorem pathSum_append {f : α → α → M} (start : α) (points more : List α) :
    pathSum f start (points ++ more) = pathSum f start points + pathSum f (points.getLastD start) more := by
  induction points generalizing start with
  | nil => rw [List.nil_append,pathSum,zero_add,List.getLastD_nil]
  | cons current rest ih => rw [List.cons_append,pathSum,pathSum,ih,List.getLastD_cons,add_assoc]

theorem closedSum_of_last {f : α → α → M} {points : List α} {last : α} (ends : points.getLast? = some last) :
    closedSum f points = pathSum f last points := by
  simp only [closedSum,ends]

theorem pathSum_congr {f g : α → α → M} {holds : α → Prop} {start : α} {rest : List α}
    (same : ∀ p q, holds p → holds q → f p q = g p q) (starts : holds start) (points : ∀ p ∈ rest, holds p) :
    pathSum f start rest = pathSum g start rest := by
  induction rest generalizing start with
  | nil => rfl
  | cons current rest ih =>
    have here : holds current := points current List.mem_cons_self
    rw [pathSum,pathSum,same start current starts here,ih here (fun p member => points p (List.mem_cons_of_mem _ member))]

theorem closedSum_congr {f g : α → α → M} {holds : α → Prop} {points : List α}
    (same : ∀ p q, holds p → holds q → f p q = g p q) (all : ∀ p ∈ points, holds p) :
    closedSum f points = closedSum g points := by
  unfold closedSum
  cases ends : points.getLast? with
  | none => rfl
  | some last => exact pathSum_congr same (all last (List.mem_of_getLast? ends)) all

theorem pathSum_map {N : Type*} [AddMonoid N] (φ : M →+ N) (f : α → α → M) (start : α) (rest : List α) :
    pathSum (fun p q => φ (f p q)) start rest = φ (pathSum f start rest) := by
  induction rest generalizing start with
  | nil => exact (map_zero φ).symm
  | cons current rest ih => rw [pathSum,pathSum,map_add,ih]

theorem closedSum_map {N : Type*} [AddMonoid N] (φ : M →+ N) (f : α → α → M) (points : List α) :
    closedSum (fun p q => φ (f p q)) points = φ (closedSum f points) := by
  cases ends : points.getLast? with
  | none => simp only [closedSum,ends,map_zero]
  | some last => rw [closedSum_of_last ends,closedSum_of_last ends,pathSum_map]

theorem pathSum_points {β : Type*} (place : β → α) (f : α → α → M) (start : β) (rest : List β) :
    pathSum f (place start) (rest.map place) = pathSum (fun p q => f (place p) (place q)) start rest := by
  induction rest generalizing start with
  | nil => rfl
  | cons current rest ih => rw [List.map_cons,pathSum,pathSum,ih]

theorem closedSum_points {β : Type*} (place : β → α) (f : α → α → M) (points : List β) :
    closedSum f (points.map place) = closedSum (fun p q => f (place p) (place q)) points := by
  unfold closedSum
  rw [List.getLast?_map]
  cases points.getLast? with
  | none => rfl
  | some last => exact pathSum_points place f last points

end Sums

section Groups
variable [AddCommGroup M]

-- What an edge gains, the chain as a whole does not.
theorem pathSum_telescopes (g : α → M) (start : α) (rest : List α) :
    pathSum (fun p q => g q - g p) start rest = g (rest.getLastD start) - g start := by
  induction rest generalizing start with
  | nil => simp [pathSum]
  | cons current rest ih =>
    rw [pathSum,ih,List.getLastD_cons]
    abel

theorem closedSum_telescopes (g : α → M) (points : List α) : closedSum (fun p q => g q - g p) points = 0 := by
  cases ends : points.getLast? with
  | none => simp only [closedSum,ends]
  | some last =>
    rw [closedSum_of_last ends,pathSum_telescopes,List.getLastD_eq_getLast?,ends]
    exact sub_self _

theorem pathSum_add (f g : α → α → M) (start : α) (rest : List α) :
    pathSum (fun p q => f p q + g p q) start rest = pathSum f start rest + pathSum g start rest := by
  induction rest generalizing start with
  | nil => simp [pathSum]
  | cons current rest ih =>
    rw [pathSum,ih,pathSum,pathSum]
    abel

theorem closedSum_add (f g : α → α → M) (points : List α) :
    closedSum (fun p q => f p q + g p q) points = closedSum f points + closedSum g points := by
  cases ends : points.getLast? with
  | none => simp only [closedSum,ends,add_zero]
  | some last => rw [closedSum_of_last ends,closedSum_of_last ends,closedSum_of_last ends,pathSum_add]

theorem zip_next (f : α → α → M) (total : M) (start : α) (rest : List α) (close : α) :
    ((start :: rest).zip (rest ++ [close])).foldl (fun sum edge => sum + f edge.1 edge.2) total =
      total + pathSum f start rest + f (rest.getLastD start) close := by
  induction rest generalizing total start with
  | nil => simp [pathSum]
  | cons current rest ih =>
    rw [List.cons_append,List.zip_cons_cons,List.foldl_cons,ih,pathSum,List.getLastD_cons,add_assoc total]

theorem foldl_rotate (f : α → α → M) (points : List α) :
    (points.zip (points.rotate 1)).foldl (fun sum edge => sum + f edge.1 edge.2) 0 = closedSum f points := by
  cases points with
  | nil => rfl
  | cons first rest =>
    have last : (first :: rest).getLast? = some (rest.getLastD first) := by
      rw [List.getLast?_cons,List.getLastD_eq_getLast?]
    rw [List.rotate_cons_succ,List.rotate_zero,zip_next,closedSum_of_last last,pathSum,zero_add,add_comm]

theorem closedSum_edges {f g : α → α → M} {points : List α}
    (same : ∀ edge ∈ points.zip (points.rotate 1), f edge.1 edge.2 = g edge.1 edge.2) : closedSum f points = closedSum g points := by
  rw [← foldl_rotate,← foldl_rotate]
  apply List.foldl_ext
  intro sum edge member
  rw [same edge member]

end Groups

-- Clipping a chain at a line, by Sutherland and Hodgman: a point inside is kept, an edge that crosses
-- the line is cut.
section Clipping
variable (inside : α → Prop) [DecidablePred inside] (cut : α → α → α)

def turn (previous current : α) : List α :=
  if inside current then if inside previous then [current] else [cut previous current,current]
  else if inside previous then [cut previous current] else []

def clipFrom : α → List α → List α
  | _,[] => []
  | previous,current :: rest => turn inside cut previous current ++ clipFrom current rest

def clip (input : List α) : List α :=
  match input.getLast? with
  | none => []
  | some last => clipFrom inside cut last input

def tryTurn (tryCut : α → α → Option α) (previous current : α) : Option (List α) :=
  if inside current then if inside previous then some [current] else (tryCut previous current).map fun point => [point,current]
  else if inside previous then (tryCut previous current).map fun point => [point] else some []

def tryClipFrom (tryCut : α → α → Option α) : α → List α → Option (List α)
  | _,[] => some []
  | previous,current :: rest => (tryTurn inside tryCut previous current).bind fun points =>
    (tryClipFrom tryCut current rest).map (points ++ ·)

def tryClip (tryCut : α → α → Option α) (input : List α) : Option (List α) :=
  match input.getLast? with
  | none => some []
  | some last => tryClipFrom inside tryCut last input

variable {inside cut}

theorem tryClip_some {tryCut : α → α → Option α} (cuts : ∀ p q, ¬ (inside p ↔ inside q) → tryCut p q = some (cut p q))
    (input : List α) : tryClip inside tryCut input = some (clip inside cut input) := by
  have turns (p q : α) : tryTurn inside tryCut p q = some (turn inside cut p q) := by
    unfold tryTurn turn
    by_cases qIn : inside q
    · by_cases pIn : inside p
      · rw [if_pos qIn,if_pos pIn,if_pos qIn,if_pos pIn]
      · rw [if_pos qIn,if_neg pIn,if_pos qIn,if_neg pIn,cuts p q (fun same => pIn (same.mpr qIn)),Option.map_some]
    · by_cases pIn : inside p
      · rw [if_neg qIn,if_pos pIn,if_neg qIn,if_pos pIn,cuts p q (fun same => qIn (same.mp pIn)),Option.map_some]
      · rw [if_neg qIn,if_neg pIn,if_neg qIn,if_neg pIn]
  have path (previous : α) (input : List α) : tryClipFrom inside tryCut previous input = some (clipFrom inside cut previous input) := by
    induction input generalizing previous with
    | nil => rfl
    | cons current rest ih => rw [tryClipFrom,clipFrom,turns,ih,Option.bind_some,Option.map_some]
  unfold tryClip clip
  cases input.getLast? with
  | none => rfl
  | some last => exact path last input

theorem clip_inside {input : List α} (all : ∀ p ∈ input, inside p) : clip inside cut input = input := by
  have path (previous : α) (starts : inside previous) (rest : List α) (points : ∀ p ∈ rest, inside p) :
      clipFrom inside cut previous rest = rest := by
    induction rest generalizing previous with
    | nil => rfl
    | cons current rest ih =>
      have here := points current List.mem_cons_self
      rw [clipFrom,turn,if_pos here,if_pos starts,ih current here (fun p member => points p (List.mem_cons_of_mem _ member))]
      rfl
  unfold clip
  cases ends : input.getLast? with
  | none => exact (List.getLast?_eq_none_iff.mp ends).symm
  | some last => exact path last (all last (List.mem_of_getLast? ends)) input all

theorem clipFrom_forall {given holds : α → Prop} {previous : α} {input : List α}
    (kept : ∀ p, given p → inside p → holds p) (cuts : ∀ p q, given p → given q → ¬ (inside p ↔ inside q) → holds (cut p q))
    (starts : given previous) (points : ∀ p ∈ input, given p) : ∀ p ∈ clipFrom inside cut previous input, holds p := by
  induction input generalizing previous with
  | nil => exact fun _ member => absurd member List.not_mem_nil
  | cons current rest ih =>
    have here : given current := points current List.mem_cons_self
    have later := ih here (fun p member => points p (List.mem_cons_of_mem _ member))
    intro p member
    rw [clipFrom] at member
    rcases List.mem_append.mp member with first | after
    · unfold turn at first
      split at first
      · rename_i currentIn
        split at first
        · rw [List.mem_singleton.mp first]
          exact kept current here currentIn
        · rename_i previousOut
          rcases List.mem_cons.mp first with rfl | last
          · exact cuts _ _ starts here (fun same => previousOut (same.mpr currentIn))
          · rw [List.mem_singleton.mp last]
            exact kept current here currentIn
      · rename_i currentOut
        split at first
        · rename_i previousIn
          rw [List.mem_singleton.mp first]
          exact cuts _ _ starts here (fun same => currentOut (same.mp previousIn))
        · exact absurd first List.not_mem_nil
    · exact later p after

theorem clip_forall {given holds : α → Prop} {input : List α}
    (kept : ∀ p, given p → inside p → holds p) (cuts : ∀ p q, given p → given q → ¬ (inside p ↔ inside q) → holds (cut p q))
    (points : ∀ p ∈ input, given p) : ∀ p ∈ clip inside cut input, holds p := by
  unfold clip
  cases ends : input.getLast? with
  | none => exact fun _ member => absurd member List.not_mem_nil
  | some last => exact clipFrom_forall kept cuts (points last (List.mem_of_getLast? ends)) points

end Clipping

section ClippedSums
variable [AddCommGroup M] [LinearOrder M] [IsOrderedAddMonoid M]

-- A function of the edges that clipping changes by no more than an error at each crossing.
structure Kept (inside onLine : α → Prop) (cut : α → α → α) (f error : α → α → M) : Prop where
  leaves : ∀ p q, inside p → ¬ inside q → onLine (cut p q) ∧ |f p (cut p q) - f p q| ≤ error p q
  enters : ∀ p q, ¬ inside p → inside q → onLine (cut p q) ∧ |f (cut p q) q - f p q| ≤ error p q
  outside : ∀ p q, ¬ inside p → ¬ inside q → f p q = 0
  along : ∀ p q, onLine p → onLine q → f p q = 0
  nonneg : ∀ p q, 0 ≤ error p q

-- The last point that came out, beside the last one that was looked at.
def Follows (inside onLine : α → Prop) (p out : α) : Prop := (inside p → out = p) ∧ (¬ inside p → onLine out)

variable {inside onLine : α → Prop} [DecidablePred inside] {cut : α → α → α} {f error : α → α → M} {p q out : α}

theorem turn_sum (kept : Kept inside onLine cut f error) (follows : Follows inside onLine p out) :
    |pathSum f out (turn inside cut p q) - f p q| ≤ error p q ∧
      Follows inside onLine q ((turn inside cut p q).getLastD out) := by
  have small := kept.nonneg p q
  unfold turn
  by_cases pIn : inside p
  · have same : out = p := follows.1 pIn
    subst same
    by_cases qIn : inside q
    · rw [if_pos qIn,if_pos pIn]
      refine ⟨?_,fun _ => rfl,fun qOut => absurd qIn qOut⟩
      simpa [pathSum] using small
    · obtain ⟨line,close⟩ := kept.leaves out q pIn qIn
      rw [if_neg qIn,if_pos pIn]
      refine ⟨?_,fun qIn' => absurd qIn' qIn,fun _ => line⟩
      simpa [pathSum] using close
  · have line : onLine out := follows.2 pIn
    by_cases qIn : inside q
    · obtain ⟨cutLine,close⟩ := kept.enters p q pIn qIn
      rw [if_pos qIn,if_neg pIn]
      refine ⟨?_,fun _ => rfl,fun qOut => absurd qIn qOut⟩
      simpa [pathSum,kept.along out (cut p q) line cutLine] using close
    · rw [if_neg qIn,if_neg pIn]
      refine ⟨?_,fun qIn' => absurd qIn' qIn,fun _ => line⟩
      simpa [pathSum,kept.outside p q pIn qIn] using small

theorem getLastD_append (points more : List α) (start : α) :
    (points ++ more).getLastD start = more.getLastD (points.getLastD start) := by
  induction points generalizing start with
  | nil => rfl
  | cons first rest ih => rw [List.cons_append,List.getLastD_cons,List.getLastD_cons,ih]

theorem clipFrom_sum (input : List α) (kept : Kept inside onLine cut f error) (follows : Follows inside onLine p out) :
    |pathSum f out (clipFrom inside cut p input) - pathSum f p input| ≤ pathSum error p input ∧
      Follows inside onLine (input.getLastD p) ((clipFrom inside cut p input).getLastD out) := by
  induction input generalizing p out with
  | nil => exact ⟨by simp [clipFrom,pathSum],follows⟩
  | cons q rest ih =>
    obtain ⟨first,next⟩ := turn_sum (q := q) kept follows
    obtain ⟨later,last⟩ := ih next
    rw [clipFrom,pathSum_append,pathSum,pathSum]
    refine ⟨?_,?_⟩
    · rw [add_sub_add_comm]
      exact (abs_add_le _ _).trans (add_le_add first later)
    · rw [getLastD_append,List.getLastD_cons]
      exact last

theorem clip_sum (mark : α) (marked : onLine mark) (kept : Kept inside onLine cut f error) (input : List α) :
    |closedSum f (clip inside cut input) - closedSum f input| ≤ closedSum error input := by
  cases ends : input.getLast? with
  | none =>
    have empty : input = [] := List.getLast?_eq_none_iff.mp ends
    subst empty
    simp [clip,closedSum]
  | some last =>
    have clipped : clip inside cut input = clipFrom inside cut last input := by simp only [clip,ends]
    have back : input.getLastD last = last := by rw [List.getLastD_eq_getLast?,ends]; rfl
    rw [clipped,closedSum_of_last ends,closedSum_of_last ends]
    -- the point before the first: the last one itself, or any point of the line
    have starts : ∃ out, Follows inside onLine last out := by
      by_cases lastIn : inside last
      · exact ⟨last,fun _ => rfl,fun lastOut => absurd lastIn lastOut⟩
      · exact ⟨mark,fun lastIn' => absurd lastIn' lastIn,fun _ => marked⟩
    obtain ⟨out,follows⟩ := starts
    obtain ⟨sum,follows⟩ := clipFrom_sum input kept follows
    rw [back] at follows
    cases outEnds : (clipFrom inside cut last input).getLast? with
    | none =>
      have empty : clipFrom inside cut last input = [] := List.getLast?_eq_none_iff.mp outEnds
      rw [empty] at sum ⊢
      exact sum
    | some outLast =>
      rw [List.getLastD_eq_getLast?,outEnds] at follows
      rw [closedSum_of_last outEnds]
      exact (clipFrom_sum input kept follows).1

end ClippedSums

end ClosedChain
