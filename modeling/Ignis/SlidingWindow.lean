import Mathlib.Data.List.Basic
import Mathlib.Order.Lattice

-- A queue of recorded times, in order, that is pruned from the front only when it is used.
namespace SlidingWindow
variable {T : Type*} [LinearOrder T]

-- When a recorded time counts no longer.
structure Expiry (T : Type*) [LinearOrder T] where
  stale : T → T → Bool
  older : ∀ {now earlier later}, earlier ≤ later → stale now later = true → stale now earlier = true
  lasting : ∀ {now next t}, now ≤ next → stale now t = true → stale next t = true

namespace Expiry
variable (rule : Expiry T)

def fresh (now t : T) : Bool := !rule.stale now t

def prune (now : T) (queue : List T) : List T := queue.dropWhile (rule.stale now)

variable {rule} {history queue : List T} {last now : T}

theorem prune_eq_filter (sorted : queue.Pairwise (· ≤ ·)) : rule.prune now queue = queue.filter (rule.fresh now) := by
  induction queue with
  | nil => rfl
  | cons t rest ih =>
    obtain ⟨above,tail⟩ := List.pairwise_cons.mp sorted
    cases gone : rule.stale now t with
    | true =>
      have dropped : rule.prune now (t :: rest) = rule.prune now rest := by simp [prune,gone]
      rw [dropped,ih tail]
      simp [fresh,gone]
    | false =>
      have kept : ∀ x ∈ t :: rest, rule.fresh now x = true := by
        intro x member
        have least : t ≤ x := by
          rcases List.mem_cons.mp member with rfl | later
          · exact le_refl _
          · exact above x later
        have counts : rule.stale now x = false := by
          by_contra stale
          have expired := rule.older least (Bool.not_eq_false _ ▸ stale)
          rw [gone] at expired
          cases expired
        rw [fresh,counts]
        rfl
      rw [List.filter_eq_self.mpr kept]
      simp [prune,gone]

-- The queue holds what counts of the history at the time of its last use.
structure Tracks (rule : Expiry T) (history : List T) (last : T) (queue : List T) : Prop where
  sorted : history.Pairwise (· ≤ ·)
  past : ∀ t ∈ history, t ≤ last
  held : queue = history.filter (rule.fresh last)

theorem tracks_nil : Tracks rule [] last [] := ⟨.nil,by simp,rfl⟩

theorem Tracks.prune (tracks : Tracks rule history last queue) (order : last ≤ now) :
    Tracks rule history now (rule.prune now queue) := by
  refine ⟨tracks.sorted,fun t member => le_trans (tracks.past t member) order,?_⟩
  have sorted : queue.Pairwise (· ≤ ·) := by
    rw [tracks.held]
    exact tracks.sorted.filter _
  have counts : ∀ t, rule.fresh now t = true → rule.fresh last t = true := by
    intro t
    simp only [fresh,Bool.not_eq_true']
    intro after
    by_contra before
    have expired := rule.lasting order (Bool.not_eq_false _ ▸ before)
    rw [after] at expired
    cases expired
  rw [prune_eq_filter sorted,tracks.held,List.filter_filter]
  apply List.filter_congr
  intro t member
  cases still : rule.fresh now t with
  | true => rw [counts t still]; rfl
  | false => rfl

theorem Tracks.push (tracks : Tracks rule history now queue) (counts : rule.stale now now = false) :
    Tracks rule (history ++ [now]) now (queue ++ [now]) := by
  refine ⟨?_,?_,?_⟩
  · refine List.pairwise_append.mpr ⟨tracks.sorted,List.pairwise_singleton _ _,?_⟩
    intro t member x last
    rw [List.mem_singleton.mp last]
    exact tracks.past t member
  · intro t member
    rcases List.mem_append.mp member with before | last
    · exact tracks.past t before
    · exact le_of_eq (List.mem_singleton.mp last)
  · rw [List.filter_append,← tracks.held]
    simp [fresh,counts]

def Spans (rule : Expiry T) (span : T → Bool) : Prop :=
  ∀ t now, span t = true → span now = true → t ≤ now → rule.stale now t = false

def AtMost (rule : Expiry T) (limit : ℕ) (history : List T) : Prop :=
  ∀ span, Spans rule span → (history.filter span).length ≤ limit

variable {limit : ℕ}

theorem atMost_nil : AtMost rule limit [] := fun _ _ => Nat.zero_le _

theorem atMost_push (tracks : Tracks rule history now queue) (room : queue.length < limit)
    (bounded : AtMost rule limit history) : AtMost rule limit (history ++ [now]) := by
  intro span spans
  rw [List.filter_append,List.length_append]
  cases within : span now with
  | false => simpa [within] using bounded span spans
  | true =>
    -- Whatever of the span came before is fresh now, so the queue holds it.
    have covered : (history.filter span).length ≤ queue.length := by
      rw [tracks.held,← List.countP_eq_length_filter,← List.countP_eq_length_filter]
      apply List.countP_mono_left
      intro t member inside
      rw [fresh,spans t now inside within (tracks.past t member)]
      rfl
    have single : ([now].filter span).length = 1 := by simp [within]
    omega

-- A queue that has been used, or passed by, at the times of `seen`: pruned at any later time it
-- holds what counts of the history, to which no more than `limit` were added within a span.
structure Follows (rule : Expiry T) (limit : ℕ) (history seen queue : List T) : Prop where
  tracks : ∀ now, (∀ t ∈ seen, t ≤ now) → Tracks rule history now (rule.prune now queue)
  bounded : AtMost rule limit history

variable {seen : List T}

theorem follows_nil : Follows rule limit [] seen [] := ⟨fun _ _ => tracks_nil,atMost_nil⟩

theorem Follows.idle (follows : Follows rule limit history seen queue) :
    Follows rule limit history (seen ++ [now]) queue :=
  ⟨fun _ order => follows.tracks _ fun t member => order t (List.mem_append_left _ member),follows.bounded⟩

theorem Follows.pruned (follows : Follows rule limit history seen queue) (order : ∀ t ∈ seen, t ≤ now) :
    Follows rule limit history (seen ++ [now]) (rule.prune now queue) :=
  ⟨fun _ after => (follows.tracks now order).prune (after now (by simp)),follows.bounded⟩

theorem Follows.pushed (follows : Follows rule limit history seen queue) (order : ∀ t ∈ seen, t ≤ now)
    (counts : rule.stale now now = false) (room : (rule.prune now queue).length < limit) :
    Follows rule limit (history ++ [now]) (seen ++ [now]) (rule.prune now queue ++ [now]) :=
  ⟨fun _ after => ((follows.tracks now order).push counts).prune (after now (by simp)),
    atMost_push (follows.tracks now order) room follows.bounded⟩

end Expiry
end SlidingWindow
