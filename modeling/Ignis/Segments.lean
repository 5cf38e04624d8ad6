import Mathlib.Data.List.Basic
import Mathlib.Algebra.Group.Nat.Hom

-- A flat memory: stretches of it that are read, and stretches that are written over.
namespace Segments
variable {α : Type*} {memory data : List α} {offset start count : ℕ}

def segment (memory : List α) (offset count : ℕ) : List α := (memory.drop offset).take count

def overwrite (memory : List α) (offset : ℕ) (data : List α) : List α :=
  memory.take offset ++ data ++ memory.drop (offset + data.length)

theorem length_overwrite (inside : offset + data.length ≤ memory.length) :
    (overwrite memory offset data).length = memory.length := by
  simp only [overwrite,List.length_append,List.length_take,List.length_drop]
  omega

theorem getElem?_overwrite (inside : offset + data.length ≤ memory.length) (k : ℕ) :
    (overwrite memory offset data)[k]? =
      if k < offset then memory[k]? else if k < offset + data.length then data[k - offset]? else memory[k]? := by
  have front : (memory.take offset).length = offset := by
    rw [List.length_take]
    omega
  rw [overwrite,List.append_assoc]
  rcases Nat.lt_or_ge k offset with before | behind
  · rw [if_pos before,List.getElem?_append_left (by omega),List.getElem?_take_of_lt before]
  · rw [if_neg (by omega),List.getElem?_append_right (by omega),front]
    rcases Nat.lt_or_ge k (offset + data.length) with within | after
    · rw [if_pos within,List.getElem?_append_left (by omega)]
    · rw [if_neg (by omega),List.getElem?_append_right (by omega),List.getElem?_drop]
      congr 1
      omega

theorem getElem?_segment (memory : List α) (offset count k : ℕ) :
    (segment memory offset count)[k]? = if k < count then memory[offset + k]? else none := by
  rw [segment,List.getElem?_take,List.getElem?_drop]

theorem segment_overwrite (inside : offset + data.length ≤ memory.length) :
    segment (overwrite memory offset data) offset data.length = data := by
  apply List.ext_getElem?
  intro k
  rw [getElem?_segment]
  split
  · rw [getElem?_overwrite inside,if_neg (by omega),if_pos (by omega),Nat.add_sub_cancel_left]
  · exact (List.getElem?_eq_none (by omega)).symm

theorem segment_apart (inside : offset + data.length ≤ memory.length)
    (apart : start + count ≤ offset ∨ offset + data.length ≤ start) :
    segment (overwrite memory offset data) start count = segment memory start count := by
  apply List.ext_getElem?
  intro k
  rw [getElem?_segment,getElem?_segment]
  split
  · rw [getElem?_overwrite inside]
    rcases apart with before | after
    · rw [if_pos (by omega)]
    · rw [if_neg (by omega),if_neg (by omega)]
  · rfl

end Segments
