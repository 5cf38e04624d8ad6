import Mathlib.Order.Lattice
import Mathlib.Data.List.Induction

-- The first of the best items of a list, as a loop keeps it that replaces what it has only by
-- something better.
namespace RunningMaximum
variable {α K : Type*} [LinearOrder K]

section Loop
variable (eligible : α → Bool) (score : α → K) (floor : K)

def pick (best : Option α) (item : α) : Option α :=
  if eligible item = true ∧ best.elim floor score < score item then some item else best

def leader (items : List α) : Option α := items.foldl (pick eligible score floor) none

-- Nothing eligible before the item reaches it, nothing after it surpasses it.
structure First (items : List α) (item : α) : Prop where
  counts : eligible item = true
  above : floor < score item
  place : ∃ before after, items = before ++ item :: after ∧
    (∀ other ∈ before, eligible other = true → score other < score item) ∧
    ∀ other ∈ after, eligible other = true → score other ≤ score item

end Loop

variable {eligible : α → Bool} {score : α → K} {floor : K} {items others before after : List α} {item other : α}

theorem First.mem (first : First eligible score floor items item) : item ∈ items := by
  obtain ⟨before,after,rfl,_,_⟩ := first.place
  exact List.mem_append_right _ List.mem_cons_self

theorem First.bound (first : First eligible score floor items item) :
    ∀ other ∈ items, eligible other = true → score other ≤ score item := by
  obtain ⟨before,after,rfl,less,atMost⟩ := first.place
  intro other member counts
  rcases List.mem_append.mp member with earlier | rest
  · exact le_of_lt (less other earlier counts)
  · rcases List.mem_cons.mp rest with rfl | later
    · exact le_refl _
    · exact atMost other later counts

theorem First.unique (one : First eligible score floor items item) (two : First eligible score floor items other) :
    item = other := by
  have same : score item = score other :=
    le_antisymm (two.bound item one.mem one.counts) (one.bound other two.mem two.counts)
  obtain ⟨before,after,split,less,_⟩ := one.place
  obtain ⟨before',after',split',less',_⟩ := two.place
  -- the two places, whichever comes first
  rcases List.append_eq_append_iff.mp (split.symm.trans split') with ⟨middle,left,right⟩ | ⟨middle,left,right⟩
  · cases middle with
    | nil => exact (List.cons.inj right).1
    | cons head rest =>
      obtain ⟨rfl,_⟩ := List.cons.inj right
      have earlier : item ∈ before' := by rw [left]; exact List.mem_append_right _ List.mem_cons_self
      exact absurd same (ne_of_lt (less' item earlier one.counts))
  · cases middle with
    | nil => exact (List.cons.inj right).1.symm
    | cons head rest =>
      obtain ⟨rfl,_⟩ := List.cons.inj right
      have earlier : other ∈ before := by rw [left]; exact List.mem_append_right _ List.mem_cons_self
      exact absurd same.symm (ne_of_lt (less other earlier two.counts))

theorem First.surpassed (first : First eligible score floor items item) (counts : eligible other = true)
    (better : score item < score other) : First eligible score floor (items ++ [other]) other := by
  refine ⟨counts,first.above.trans better,items,[],rfl,?_,?_⟩
  · intro x member own
    exact (first.bound x member own).trans_lt better
  · intro x member
    cases member

theorem First.kept (first : First eligible score floor items item)
    (worse : eligible other = true → score other ≤ score item) : First eligible score floor (items ++ [other]) item := by
  obtain ⟨before,after,rfl,less,atMost⟩ := first.place
  refine ⟨first.counts,first.above,before,after ++ [other],by simp,less,?_⟩
  intro x member own
  rcases List.mem_append.mp member with earlier | last
  · exact atMost x earlier own
  · rw [List.mem_singleton.mp last] at own ⊢
    exact worse own

theorem leader_spec (eligible : α → Bool) (score : α → K) (floor : K) (items : List α) :
    (leader eligible score floor items = none ∧ ∀ other ∈ items, eligible other = true → score other ≤ floor) ∨
    ∃ item, leader eligible score floor items = some item ∧ First eligible score floor items item := by
  induction items using List.reverseRecOn with
  | nil =>
    refine .inl ⟨rfl,?_⟩
    intro other member
    cases member
  | append_singleton items last ih =>
    have turn : leader eligible score floor (items ++ [last]) = pick eligible score floor (leader eligible score floor items) last := by
      rw [leader,List.foldl_append]
      rfl
    rw [turn]
    rcases ih with ⟨none,low⟩ | ⟨item,found,first⟩
    · rw [none,pick]
      split
      · rename_i better
        refine .inr ⟨last,rfl,better.1,better.2,items,[],rfl,?_,?_⟩
        · intro other member counts
          exact (low other member counts).trans_lt better.2
        · intro other member
          cases member
      · rename_i worse
        refine .inl ⟨rfl,?_⟩
        intro other member counts
        rcases List.mem_append.mp member with earlier | here
        · exact low other earlier counts
        · rw [List.mem_singleton.mp here] at counts ⊢
          exact not_lt.mp fun better => worse ⟨counts,better⟩
    · rw [found,pick]
      split
      · rename_i better
        exact .inr ⟨last,rfl,first.surpassed better.1 better.2⟩
      · rename_i worse
        exact .inr ⟨item,rfl,first.kept fun counts => not_lt.mp fun better => worse ⟨counts,better⟩⟩

theorem leader_some : leader eligible score floor items = some item ↔ First eligible score floor items item := by
  constructor
  · intro found
    rcases leader_spec eligible score floor items with ⟨none,_⟩ | ⟨other,same,first⟩
    · cases none.symm.trans found
    · cases same.symm.trans found
      exact first
  · intro first
    rcases leader_spec eligible score floor items with ⟨_,low⟩ | ⟨other,found,second⟩
    · exact absurd (low item first.mem first.counts) (not_le.mpr first.above)
    · rw [found,second.unique first]

theorem leader_none : leader eligible score floor items = none ↔ ∀ other ∈ items, eligible other = true → score other ≤ floor := by
  constructor
  · intro none
    rcases leader_spec eligible score floor items with ⟨_,low⟩ | ⟨item,found,_⟩
    · exact low
    · cases found.symm.trans none
  · intro low
    rcases leader_spec eligible score floor items with ⟨none,_⟩ | ⟨item,_,first⟩
    · exact none
    · exact absurd (low item first.mem first.counts) (not_le.mpr first.above)

theorem leader_perm (perm : items.Perm others) (first : First eligible score floor items item) :
    ∃ other, First eligible score floor others other ∧ score other = score item := by
  rcases leader_spec eligible score floor others with ⟨_,low⟩ | ⟨other,_,second⟩
  · exact absurd (low item (perm.mem_iff.mp first.mem) first.counts) (not_le.mpr first.above)
  · refine ⟨other,second,le_antisymm ?_ ?_⟩
    · exact first.bound other (perm.mem_iff.mpr second.mem) second.counts
    · exact second.bound item (perm.mem_iff.mp first.mem) first.counts

def Beaten (eligible : α → Bool) (score : α → K) (before after : List α) (item : α) : Prop :=
  eligible item = false ∨ (∃ other ∈ before, eligible other = true ∧ score item ≤ score other) ∨
    ∃ other ∈ after, eligible other = true ∧ score item < score other

theorem not_beaten (counts : eligible item = true) (less : ∀ other ∈ before, eligible other = true → score other < score item)
    (atMost : ∀ other ∈ after, eligible other = true → score other ≤ score item) : ¬ Beaten eligible score before after item := by
  rintro (out | ⟨other,member,own,reaches⟩ | ⟨other,member,own,surpasses⟩)
  · exact Bool.false_ne_true (out.symm.trans counts)
  · exact not_lt.mpr reaches (less other member own)
  · exact not_le.mpr surpasses (atMost other member own)

theorem First.erase (first : First eligible score floor (before ++ other :: after) item)
    (beaten : Beaten eligible score before after other) : First eligible score floor (before ++ after) item := by
  obtain ⟨left,right,split,less,atMost⟩ := first.place
  refine ⟨first.counts,first.above,?_⟩
  rcases List.append_eq_append_iff.mp split with ⟨middle,rfl,rest⟩ | ⟨middle,rfl,rest⟩
  · cases middle with
    | nil =>
      obtain ⟨rfl,rfl⟩ := List.cons.inj rest
      rw [List.append_nil] at less
      exact absurd beaten (not_beaten first.counts less atMost)
    | cons head rest' =>
      obtain ⟨rfl,rfl⟩ := List.cons.inj rest
      refine ⟨before ++ rest',right,by simp,?_,atMost⟩
      intro x member
      rcases List.mem_append.mp member with earlier | later
      · exact less x (List.mem_append_left _ earlier)
      · exact less x (List.mem_append_right _ (List.mem_cons_of_mem _ later))
  · cases middle with
    | nil =>
      obtain ⟨rfl,rfl⟩ := List.cons.inj rest
      rw [List.append_nil] at beaten
      exact absurd beaten (not_beaten first.counts less atMost)
    | cons head rest' =>
      obtain ⟨rfl,rfl⟩ := List.cons.inj rest
      refine ⟨left,rest' ++ after,by simp,less,?_⟩
      intro x member
      rcases List.mem_append.mp member with earlier | later
      · exact atMost x (List.mem_append_left _ earlier)
      · exact atMost x (List.mem_append_right _ (List.mem_cons_of_mem _ later))

theorem leader_erase (beaten : Beaten eligible score before after other) :
    leader eligible score floor (before ++ after) = leader eligible score floor (before ++ other :: after) := by
  have rest : ∀ x ∈ before ++ after, x ∈ before ++ other :: after := by
    intro x member
    rcases List.mem_append.mp member with earlier | later
    · exact List.mem_append_left _ earlier
    · exact List.mem_append_right _ (List.mem_cons_of_mem _ later)
  cases found : leader eligible score floor (before ++ other :: after) with
  | none =>
    have low := leader_none.mp found
    exact leader_none.mpr fun x member => low x (rest x member)
  | some item => exact leader_some.mpr ((leader_some.mp found).erase beaten)

end RunningMaximum
