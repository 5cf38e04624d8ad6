import Mathlib.Data.List.Pairwise
import Mathlib.Data.List.Perm.Basic

-- A greedy selection: an item is kept unless it clashes with one that was kept before it.
namespace GreedySelection
variable {α : Type*} {clashes : α → α → Prop} {selected items : List α}

def Apart (clashes : α → α → Prop) (items : List α) : Prop := items.Pairwise fun kept item => ¬ clashes item kept

theorem apart_snoc {item : α} (apart : Apart clashes selected) (free : ∀ kept ∈ selected, ¬ clashes item kept) :
    Apart clashes (selected ++ [item]) := by
  refine List.pairwise_append.mpr ⟨apart,List.pairwise_singleton _ _,?_⟩
  intro kept member last single
  rw [List.mem_singleton.mp single]
  exact free kept member

variable (clashes) [DecidableRel clashes]

def select : List α → List α → List α
  | selected,[] => selected
  | selected,item :: rest =>
    if ∀ kept ∈ selected, ¬ clashes item kept then select (selected ++ [item]) rest else select selected rest

variable {clashes}

theorem select_apart (apart : Apart clashes selected) : Apart clashes (select clashes selected items) := by
  induction items generalizing selected with
  | nil => exact apart
  | cons item rest ih =>
    rw [select]
    split
    · rename_i free
      exact ih (apart_snoc apart free)
    · exact ih apart

theorem select_kept : ∀ kept ∈ selected, kept ∈ select clashes selected items := by
  induction items generalizing selected with
  | nil => exact fun _ member => member
  | cons item rest ih =>
    intro kept member
    rw [select]
    split
    · exact ih kept (List.mem_append_left _ member)
    · exact ih kept member

theorem select_sublist : List.Sublist (select clashes selected items) (selected ++ items) := by
  induction items generalizing selected with
  | nil => rw [List.append_nil]; exact List.Sublist.refl _
  | cons item rest ih =>
    rw [select]
    split
    · have moved : selected ++ item :: rest = (selected ++ [item]) ++ rest := by simp
      rw [moved]
      exact ih
    · exact ih.trans ((List.sublist_cons_self item rest).append_left selected)

theorem select_covers {r : α → α → Prop} (ordered : (selected ++ items).Pairwise r) :
    ∃ dropped, (select clashes selected items ++ dropped).Perm (selected ++ items) ∧
      ∀ item ∈ dropped, ∃ kept ∈ select clashes selected items, clashes item kept ∧ r kept item := by
  induction items generalizing selected with
  | nil => exact ⟨[],by simp [select],by simp⟩
  | cons item rest ih =>
    rw [select]
    split
    · have moved : selected ++ item :: rest = (selected ++ [item]) ++ rest := by simp
      rw [moved] at ordered ⊢
      exact ih ordered
    · rename_i taken
      push Not at taken
      obtain ⟨kept,member,clash⟩ := taken
      have before : r kept item := (List.pairwise_append.mp ordered).2.2 kept member item List.mem_cons_self
      have shorter : (selected ++ rest).Pairwise r :=
        ordered.sublist ((List.sublist_cons_self item rest).append_left selected)
      obtain ⟨dropped,parts,covered⟩ := ih shorter
      refine ⟨item :: dropped,?_,?_⟩
      · exact List.perm_middle.trans ((parts.cons item).trans List.perm_middle.symm)
      · intro other dropping
        rcases List.mem_cons.mp dropping with rfl | later
        · exact ⟨kept,select_kept kept member,clash,before⟩
        · exact covered other later

theorem select_eq (apart : Apart clashes (selected ++ items)) : select clashes selected items = selected ++ items := by
  induction items generalizing selected with
  | nil => rw [select,List.append_nil]
  | cons item rest ih =>
    have free : ∀ kept ∈ selected, ¬ clashes item kept := fun kept member =>
      (List.pairwise_append.mp apart).2.2 kept member item List.mem_cons_self
    have moved : selected ++ item :: rest = (selected ++ [item]) ++ rest := by simp
    rw [select,if_pos free]
    rw [moved] at apart ⊢
    exact ih apart

end GreedySelection
