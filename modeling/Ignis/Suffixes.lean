import Mathlib.Data.List.Infix

-- The longest suffix of a list that fits.
namespace Suffixes
variable {α : Type*} {fits : List α → Prop} {whole held s : List α} {x : α}

structure Longest (fits : List α → Prop) (whole held : List α) : Prop where
  suffix : held <:+ whole
  fitting : fits held
  longest : ∀ s, s <:+ whole → fits s → s <:+ held

def trim (fits : List α → Prop) [DecidablePred fits] : List α → List α
  | [] => []
  | x :: rest => if fits (x :: rest) then x :: rest else trim fits rest

variable [DecidablePred fits]

theorem longest_trim (empty : fits []) : Longest fits whole (trim fits whole) := by
  induction whole with
  | nil => exact ⟨List.suffix_refl [],empty,fun _ suffix _ => suffix⟩
  | cons x rest ih =>
    rw [trim]
    split
    · rename_i fitting
      exact ⟨List.suffix_refl _,fitting,fun _ suffix _ => suffix⟩
    · rename_i spent
      refine ⟨ih.suffix.trans (List.suffix_cons x rest),ih.fitting,?_⟩
      intro s suffix fitting
      rcases List.suffix_cons_iff.mp suffix with rfl | inner
      · exact absurd fitting spent
      · exact ih.longest s inner fitting

theorem Longest.push (longest : Longest fits whole held) (empty : fits [])
    (shorter : ∀ s, s <:+ whole → fits (s ++ [x]) → fits s) : Longest fits (whole ++ [x]) (trim fits (held ++ [x])) := by
  have trimmed : Longest fits (held ++ [x]) (trim fits (held ++ [x])) := longest_trim empty
  refine ⟨trimmed.suffix.trans ?_,trimmed.fitting,?_⟩
  · obtain ⟨front,rfl⟩ := longest.suffix
    exact ⟨front,by simp⟩
  · intro s suffix fitting
    rcases List.suffix_concat_iff.mp suffix with rfl | ⟨before,rfl,earlier⟩
    · exact List.nil_suffix
    · have inside : before <:+ held := longest.longest before earlier (shorter before earlier fitting)
      obtain ⟨front,rfl⟩ := inside
      exact trimmed.longest (before ++ [x]) ⟨front,by simp⟩ fitting

end Suffixes
