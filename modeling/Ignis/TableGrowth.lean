import Ignis.Tables

-- A table that never loses a row.
namespace Tables.Table
variable {α κ : Type*} [DecidableEq κ] {key : α → κ} {R : α → α → Prop} {t later last : Table key}

def Grows (R : α → α → Prop) (t later : Table key) : Prop :=
  ∀ k row, t.find k = some row → ∃ next, later.find k = some next ∧ R row next

theorem grows_refl (refl : ∀ row, R row row) : Grows R t t := fun _ row found => ⟨row,found,refl row⟩

theorem Grows.trans (steps : ∀ a b c, R a b → R b c → R a c) (first : Grows R t later) (second : Grows R later last) :
    Grows R t last := by
  intro k row found
  obtain ⟨next,there,follows⟩ := first k row found
  obtain ⟨final,stays,goes⟩ := second k next there
  exact ⟨final,stays,steps row next final follows goes⟩

theorem grows_modify (refl : ∀ row, R row row) {k : κ} {f : α → α} (keeps : ∀ row, key (f row) = key row)
    (changes : ∀ row, t.find k = some row → R row (f row)) : Grows R t (t.modify k f keeps) := by
  intro j row found
  rw [find_modify]
  split
  · rename_i same
    rw [same] at found
    exact ⟨f row,by rw [found]; rfl,changes row found⟩
  · exact ⟨row,found,refl row⟩

theorem grows_upsert (refl : ∀ row, R row row) {row : α} {merge : α → α} (keeps : ∀ row, key (merge row) = key row)
    (merges : ∀ old, t.find (key row) = some old → R old (merge old)) : Grows R t (t.upsert row merge keeps) := by
  intro j old found
  rw [find_upsert]
  split
  · rename_i same
    rw [same] at found
    exact ⟨merge old,by rw [found]; rfl,merges old found⟩
  · exact ⟨old,found,refl old⟩

theorem grows_push {β : Type*} {number : β → ℕ} {R : β → β → Prop} {t : Table number} (refl : ∀ row, R row row)
    (make : ℕ → β) (numbered : ∀ n, number (make n) = n) : Grows R t (t.push make numbered) :=
  fun _ row found => ⟨row,find_push_kept found,refl row⟩

end Tables.Table
