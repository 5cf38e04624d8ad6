import Mathlib.Logic.Function.Basic
import Mathlib.Algebra.Order.Ring.Defs
import Mathlib.Tactic.Linarith
import Ignis.Runs
import Ignis.SlidingWindow

-- The limit on operator actions (`rate_limit.py`): a queue of times for every client, read and pruned
-- only when that client calls.
namespace Ignis.Backend
open Runs SlidingWindow

structure RateLimiter (R : Type) where
  limit : ℤ
  windowSeconds : R
  requests : String → List R

namespace RateLimiter
variable {R : Type} [CommRing R] [LinearOrder R] [IsStrictOrderedRing R]

def created (limit : ℤ) (windowSeconds : R) : RateLimiter R := ⟨limit,windowSeconds,fun _ => []⟩

-- `queue[0] <= now - self.window_seconds`.
def expiry (windowSeconds : R) : Expiry R where
  stale now t := decide (t ≤ now - windowSeconds)
  older := by
    intro now earlier later order gone
    exact decide_eq_true (le_trans order (of_decide_eq_true gone))
  lasting := by
    intro now next t order gone
    exact decide_eq_true (le_trans (of_decide_eq_true gone) (sub_le_sub_right order _))

structure Call (R : Type) where
  key : String
  now : R

variable (limiter : RateLimiter R) (call : Call R)

def pruned : List R := (expiry limiter.windowSeconds).prune call.now (limiter.requests call.key)

def allow : Bool × RateLimiter R :=
  let queue := limiter.pruned call
  if (queue.length : ℤ) ≥ limiter.limit then
    (false,{ limiter with requests := Function.update limiter.requests call.key queue })
  else (true,{ limiter with requests := Function.update limiter.requests call.key (queue ++ [call.now]) })

def step (limiter : RateLimiter R) (call : Call R) : RateLimiter R := (limiter.allow call).2

def noteAllowed (key : String) (limiter : RateLimiter R) (call : Call R) (times : List R) : List R :=
  if call.key = key ∧ (limiter.allow call).1 = true then times ++ [call.now] else times

def allowed (key : String) (limiter : RateLimiter R) (calls : List (Call R)) : List R :=
  (run (observed step (noteAllowed key)) (limiter,[]) calls).2

variable {limiter call} {calls : List (Call R)} {key : String}

theorem allow_iff : (limiter.allow call).1 = true ↔ ((limiter.pruned call).length : ℤ) < limiter.limit := by
  unfold allow
  dsimp only
  split
  · rename_i full
    exact iff_of_false Bool.false_ne_true (not_lt.mpr full)
  · rename_i room
    exact iff_of_true rfl (not_le.mp room)

theorem step_requests : (step limiter call).requests = Function.update limiter.requests call.key
    (if (limiter.allow call).1 = true then limiter.pruned call ++ [call.now] else limiter.pruned call) := by
  unfold step allow
  dsimp only
  split <;> simp

theorem step_limit : (step limiter call).limit = limiter.limit := by
  unfold step allow
  dsimp only
  split <;> rfl

theorem step_window : (step limiter call).windowSeconds = limiter.windowSeconds := by
  unfold step allow
  dsimp only
  split <;> rfl

theorem run_limit : (run step limiter calls).limit = limiter.limit := by
  refine invariant (fun later : RateLimiter R => later.limit = limiter.limit) ?_ rfl
  intro later call same
  rw [step_limit,same]

theorem run_window : (run step limiter calls).windowSeconds = limiter.windowSeconds := by
  refine invariant (fun later : RateLimiter R => later.windowSeconds = limiter.windowSeconds) ?_ rfl
  intro later call same
  rw [step_window,same]

theorem allowed_snoc : allowed key limiter (calls ++ [call]) =
    noteAllowed key (run step limiter calls) call (allowed key limiter calls) := by
  have machine : (run (observed step (noteAllowed key)) (limiter,[]) calls).1 = run step limiter calls := observed_machine
  rw [allowed,run_snoc,allowed,← machine]
  rfl

variable {windowSeconds : R}

theorem follows (limit : ℤ) (key : String) (positive : 0 < windowSeconds) (ordered : (calls.map Call.now).Pairwise (· ≤ ·)) :
    (expiry windowSeconds).Follows limit.toNat (allowed key (created limit windowSeconds) calls) (calls.map Call.now)
      ((run step (created limit windowSeconds) calls).requests key) := by
  induction calls using List.reverseRecOn with
  | nil => exact Expiry.follows_nil
  | append_singleton calls call ih =>
    rw [List.map_append] at ordered ⊢
    obtain ⟨before,_,after⟩ := List.pairwise_append.mp ordered
    have order : ∀ t ∈ calls.map Call.now, t ≤ call.now := fun t member => after t member _ (by simp)
    have counts : (expiry windowSeconds).stale call.now call.now = false := by
      refine decide_eq_false ?_
      linarith
    rw [allowed_snoc,run_snoc,step_requests]
    by_cases own : call.key = key
    · subst own
      have queue : (run step (created limit windowSeconds) calls).pruned call = (expiry windowSeconds).prune call.now
          ((run step (created limit windowSeconds) calls).requests call.key) := by
        rw [pruned,run_window]
        rfl
      rw [Function.update_self,noteAllowed]
      by_cases answer : ((run step (created limit windowSeconds) calls).allow call).1 = true
      · rw [if_pos answer,if_pos ⟨rfl,answer⟩,queue]
        refine (ih before).pushed order counts ?_
        have room := allow_iff.mp answer
        rw [queue,run_limit] at room
        have same : (created limit windowSeconds).limit = limit := rfl
        omega
      · rw [if_neg answer,if_neg (fun both => answer both.2),queue]
        exact (ih before).pruned order
    · rw [Function.update_of_ne (Ne.symm own),noteAllowed,if_neg fun both => own both.1]
      exact (ih before).idle

end RateLimiter
end Ignis.Backend
