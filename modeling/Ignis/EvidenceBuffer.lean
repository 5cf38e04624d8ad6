import Mathlib.Algebra.BigOperators.Group.List.Basic
import Mathlib.Algebra.GroupWithZero.Nat
import Ignis.Runs
import Ignis.Suffixes

-- The frames kept for an incident (qnx/common/include/ignis/evidence_buffer.hpp): the last ones,
-- as far back as a duration and a number of bytes allow. Timestamps are `UInt64`, whose
-- subtraction wraps; the sizes are of vectors that are in memory together, whose sum a
-- `size_t` holds, and are natural numbers.
namespace Ignis
open Runs Suffixes

structure EvidenceFrame where
  sequence : UInt64
  monotonicNs : UInt64
  jpeg : List UInt8

structure EvidenceBuffer where
  durationNs : UInt64
  maximumBytes : ℕ
  bytes : ℕ
  frames : List EvidenceFrame

namespace EvidenceBuffer

def created (durationNs : UInt64) (maximumBytes : ℕ) : EvidenceBuffer := ⟨durationNs,maximumBytes,0,[]⟩

-- `frames_.back() - frames_.front()` and the byte count against the limits, for a front and a rest.
def exceeds (durationNs : UInt64) (maximumBytes bytes : ℕ) (front : EvidenceFrame) (rest : List EvidenceFrame) : Bool :=
  decide ((rest.getLastD front).monotonicNs - front.monotonicNs > durationNs) || decide (bytes > maximumBytes)

-- The loop of `push`, which ends at the latest when no frame is left.
def evict (durationNs : UInt64) (maximumBytes : ℕ) : List EvidenceFrame → ℕ → List EvidenceFrame × ℕ
  | [],bytes => ([],bytes)
  | front :: rest,bytes =>
    if exceeds durationNs maximumBytes bytes front rest then evict durationNs maximumBytes rest (bytes - front.jpeg.length)
    else (front :: rest,bytes)

def subtractions (durationNs : UInt64) (maximumBytes : ℕ) : List EvidenceFrame → ℕ → List (ℕ × ℕ)
  | [],_ => []
  | front :: rest,bytes =>
    if exceeds durationNs maximumBytes bytes front rest then
      (bytes,front.jpeg.length) :: subtractions durationNs maximumBytes rest (bytes - front.jpeg.length)
    else []

def push (b : EvidenceBuffer) (frame : EvidenceFrame) : EvidenceBuffer :=
  let (frames,bytes) := evict b.durationNs b.maximumBytes (b.frames ++ [frame]) (b.bytes + frame.jpeg.length)
  { b with frames := frames,bytes := bytes }

def pushSubtractions (b : EvidenceBuffer) (frame : EvidenceFrame) : List (ℕ × ℕ) :=
  subtractions b.durationNs b.maximumBytes (b.frames ++ [frame]) (b.bytes + frame.jpeg.length)

def span : List EvidenceFrame → ℕ
  | [] => 0
  | front :: rest => (rest.getLastD front).monotonicNs.toNat - front.monotonicNs.toNat

def size (frames : List EvidenceFrame) : ℕ := (frames.map fun frame => frame.jpeg.length).sum

def Fits (durationNs : UInt64) (maximumBytes : ℕ) (frames : List EvidenceFrame) : Prop :=
  span frames ≤ durationNs.toNat ∧ size frames ≤ maximumBytes

instance fitsDecidable (durationNs : UInt64) (maximumBytes : ℕ) : DecidablePred (Fits durationNs maximumBytes) :=
  fun _ => inferInstanceAs (Decidable (_ ∧ _))

def Ordered (frames : List EvidenceFrame) : Prop := frames.Pairwise fun a b => a.monotonicNs ≤ b.monotonicNs

instance orderedDecidable (frames : List EvidenceFrame) : Decidable (Ordered frames) :=
  inferInstanceAs (Decidable (frames.Pairwise _))

variable {durationNs : UInt64} {maximumBytes bytes : ℕ} {front frame : EvidenceFrame} {rest frames pushed : List EvidenceFrame}

theorem first_le_last (ordered : Ordered (front :: rest)) : front.monotonicNs ≤ (rest.getLastD front).monotonicNs := by
  cases last : rest.getLast? with
  | none =>
    rw [List.getLastD_eq_getLast?,last]
    exact UInt64.le_refl _
  | some final =>
    rw [List.getLastD_eq_getLast?,last]
    exact (List.pairwise_cons.mp ordered).1 final (List.mem_of_getLast? last)

theorem exceeds_iff (ordered : Ordered (front :: rest)) :
    exceeds durationNs maximumBytes (size (front :: rest)) front rest = true ↔ ¬ Fits durationNs maximumBytes (front :: rest) := by
  have order := first_le_last ordered
  rw [exceeds,Bool.or_eq_true,decide_eq_true_eq,decide_eq_true_eq,Fits,not_and_or,not_le,not_le]
  have exact : (rest.getLastD front).monotonicNs - front.monotonicNs > durationNs ↔
      durationNs.toNat < span (front :: rest) := by
    rw [gt_iff_lt,UInt64.lt_iff_toNat_lt,UInt64.toNat_sub_of_le _ _ order,span]
  rw [exact]

theorem size_cons : size (front :: rest) = front.jpeg.length + size rest := by simp [size]
theorem size_snoc : size (frames ++ [frame]) = size frames + frame.jpeg.length := by simp [size]

theorem evict_exact (ordered : Ordered frames) :
    evict durationNs maximumBytes frames (size frames) =
      (trim (Fits durationNs maximumBytes) frames,size (trim (Fits durationNs maximumBytes) frames)) := by
  induction frames with
  | nil => rfl
  | cons front rest ih =>
    rw [evict,trim]
    by_cases fits : Fits durationNs maximumBytes (front :: rest)
    · rw [if_pos fits,if_neg (fun exceeding => (exceeds_iff ordered).mp exceeding fits)]
    · have remaining : size (front :: rest) - front.jpeg.length = size rest := by
        rw [size_cons]
        omega
      rw [if_neg fits,if_pos ((exceeds_iff ordered).mpr fits),remaining,ih (List.pairwise_cons.mp ordered).2]

theorem subtractions_exact : ∀ p ∈ subtractions durationNs maximumBytes frames (size frames), p.2 ≤ p.1 := by
  induction frames with
  | nil =>
    intro p member
    cases member
  | cons front rest ih =>
    intro p member
    have remaining : size (front :: rest) - front.jpeg.length = size rest := by
      rw [size_cons]
      omega
    rw [subtractions] at member
    split at member
    · rcases List.mem_cons.mp member with rfl | later
      · show front.jpeg.length ≤ size (front :: rest)
        rw [size_cons]
        omega
      · rw [remaining] at later
        exact ih p later
    · cases member

theorem fits_nil : Fits durationNs maximumBytes [] := ⟨Nat.zero_le _,Nat.zero_le _⟩

-- In order of time, a list that fits with one more frame at its end fitted before.
theorem fits_shorter (ordered : Ordered (frames ++ [frame])) (fits : Fits durationNs maximumBytes (frames ++ [frame])) :
    Fits durationNs maximumBytes frames := by
  obtain ⟨spans,sizes⟩ := fits
  rw [size_snoc] at sizes
  refine ⟨?_,by omega⟩
  cases frames with
  | nil => exact Nat.zero_le _
  | cons front rest =>
    have order : (rest.getLastD front).monotonicNs ≤ frame.monotonicNs := by
      have last : rest.getLastD front ∈ front :: rest := by
        rw [List.getLastD_eq_getLast?]
        cases tail : rest.getLast? with
        | none => exact List.mem_cons_self
        | some final => exact List.mem_cons_of_mem _ (List.mem_of_getLast? tail)
      exact (List.pairwise_append.mp ordered).2.2 _ last frame List.mem_cons_self
    rw [UInt64.le_iff_toNat_le] at order
    have longer : span (front :: rest ++ [frame]) = frame.monotonicNs.toNat - front.monotonicNs.toNat := by
      simp [span]
    rw [longer] at spans
    rw [span]
    omega

structure Holds (b : EvidenceBuffer) (durationNs : UInt64) (maximumBytes : ℕ) (pushed : List EvidenceFrame) : Prop where
  duration : b.durationNs = durationNs
  maximum : b.maximumBytes = maximumBytes
  frames : Longest (Fits durationNs maximumBytes) pushed b.frames
  bytes : b.bytes = size b.frames

theorem holds_run (ordered : Ordered pushed) :
    Holds (run push (created durationNs maximumBytes) pushed) durationNs maximumBytes pushed := by
  induction pushed using List.reverseRecOn with
  | nil => exact ⟨rfl,rfl,⟨List.suffix_refl [],fits_nil,fun _ suffix _ => suffix⟩,rfl⟩
  | append_singleton pushed frame ih =>
    have holds := ih (List.pairwise_append.mp ordered).1
    rw [run_snoc]
    generalize run push (created durationNs maximumBytes) pushed = b at holds
    have kept : Ordered (b.frames ++ [frame]) := by
      obtain ⟨front,same⟩ := holds.frames.suffix
      rw [← same,List.append_assoc] at ordered
      exact (List.pairwise_append.mp ordered).2.1
    have pushes : push b frame = ⟨durationNs,maximumBytes,size (trim (Fits durationNs maximumBytes) (b.frames ++ [frame])),
        trim (Fits durationNs maximumBytes) (b.frames ++ [frame])⟩ := by
      rw [push,holds.duration,holds.maximum,holds.bytes,← size_snoc,evict_exact kept]
    rw [pushes]
    refine ⟨rfl,rfl,holds.frames.push fits_nil ?_,rfl⟩
    intro s suffix fits
    refine fits_shorter ?_ fits
    obtain ⟨front,rfl⟩ := suffix
    rw [List.append_assoc] at ordered
    exact (List.pairwise_append.mp ordered).2.1

theorem longest_suffix_held (durationNs : UInt64) (maximumBytes : ℕ) (pushed : List EvidenceFrame) (ordered : Ordered pushed) :
    let b := run push (created durationNs maximumBytes) pushed
    Longest (Fits durationNs maximumBytes) pushed b.frames ∧ b.bytes = size b.frames ∧
      ∀ earlier frame later, pushed = earlier ++ frame :: later →
        ∀ p ∈ pushSubtractions (run push (created durationNs maximumBytes) earlier) frame, p.2 ≤ p.1 := by
  intro b
  have holds : Holds b durationNs maximumBytes pushed := holds_run ordered
  refine ⟨holds.frames,holds.bytes,?_⟩
  rintro earlier frame later rfl p member
  have before : Holds (run push (created durationNs maximumBytes) earlier) durationNs maximumBytes earlier :=
    holds_run (List.pairwise_append.mp ordered).1
  rw [pushSubtractions,before.bytes,← size_snoc] at member
  exact subtractions_exact p member

-- A second frame that is larger than the limit empties the buffer, a third is kept again.
theorem longest_suffix_held_large :
    (run push (created 1000 4) [⟨1,10,[1,2]⟩,⟨2,20,[1,2,3,4,5]⟩,⟨3,30,[1]⟩]).frames.map EvidenceFrame.sequence = [3] ∧
    Longest (Fits 1000 4) [⟨1,10,[1,2]⟩,⟨2,20,[1,2,3,4,5]⟩,⟨3,30,[1]⟩]
      (run push (created 1000 4) [⟨1,10,[1,2]⟩,⟨2,20,[1,2,3,4,5]⟩,⟨3,30,[1]⟩]).frames :=
  ⟨by decide +kernel,(longest_suffix_held 1000 4 [⟨1,10,[1,2]⟩,⟨2,20,[1,2,3,4,5]⟩,⟨3,30,[1]⟩] (by decide)).1⟩

end EvidenceBuffer
end Ignis
