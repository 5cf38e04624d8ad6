import Mathlib.Data.List.Nodup
import Mathlib.Data.List.Count

-- Tables of rows found by a key. Two rows of one table never share a key, and the
-- rows stand in the order of their insertion.
namespace Tables
variable {α κ : Type*} [DecidableEq κ] {key : α → κ}

structure Table (key : α → κ) where
  rows : List α
  distinct : (rows.map key).Nodup

namespace Table
variable (t : Table key)

def empty : Table key := ⟨[],List.nodup_nil⟩

def find (k : κ) : Option α := t.rows.find? fun row => key row = k

def modify (k : κ) (f : α → α) (keeps : ∀ row, key (f row) = key row) : Table key where
  rows := t.rows.map fun row => if key row = k then f row else row
  distinct := by
    have same : (key ∘ fun row => if key row = k then f row else row) = key := by
      funext row
      simp only [Function.comp_apply]
      split
      · exact keeps row
      · rfl
    rw [List.map_map,same]
    exact t.distinct

def erase (k : κ) : Table key where
  rows := t.rows.filter fun row => key row ≠ k
  distinct := t.distinct.sublist (List.filter_sublist.map key)

def insert (row : α) (fresh : t.find (key row) = none) : Table key where
  rows := t.rows ++ [row]
  distinct := by
    rw [List.map_append,List.map_singleton]
    refine t.distinct.append (List.nodup_singleton _) ?_
    rintro k old new
    obtain ⟨other,member,rfl⟩ := List.mem_map.mp old
    rw [List.mem_singleton] at new
    exact absurd new (by simpa using List.find?_eq_none.mp fresh other member)

def upsert (row : α) (merge : α → α) (keeps : ∀ row, key (merge row) = key row) : Table key :=
  match absent : t.find (key row) with
  | none => t.insert row absent
  | some _ => t.modify (key row) merge keeps

variable {t} {k j : κ} {row old : α} {f merge : α → α} {keeps : ∀ row, key (f row) = key row}
variable {keepsMerge : ∀ row, key (merge row) = key row}

@[simp] theorem find_empty : (empty : Table key).find k = none := rfl

theorem find_iff : t.find k = some row ↔ row ∈ t.rows ∧ key row = k := by
  constructor
  · intro found
    exact ⟨List.mem_of_find?_eq_some found,by simpa using List.find?_some found⟩
  · rintro ⟨member,rfl⟩
    cases found : t.find (key row) with
    | none =>
      have missing : key row ≠ key row := by simpa using List.find?_eq_none.mp found row member
      exact absurd rfl missing
    | some other =>
      have inside := List.mem_of_find?_eq_some found
      have same : key other = key row := by simpa using List.find?_some found
      rw [List.inj_on_of_nodup_map t.distinct inside member same]

theorem find_key (found : t.find k = some row) : key row = k := (find_iff.mp found).2
theorem find_mem (found : t.find k = some row) : row ∈ t.rows := (find_iff.mp found).1

theorem find_none_iff : t.find k = none ↔ ∀ row ∈ t.rows, key row ≠ k := by
  simp [find]

theorem find_modify : (t.modify k f keeps).find j = if j = k then (t.find k).map f else t.find j := by
  have spread : ∀ rows : List α, (rows.map fun row => if key row = k then f row else row).find? (key · = j) =
      if j = k then (rows.find? (key · = k)).map f else rows.find? (key · = j) := by
    intro rows
    induction rows with
    | nil => simp
    | cons head rest ih =>
      rw [List.map_cons,List.find?_cons,ih]
      by_cases here : key head = k
      · by_cases same : j = k
        · simp [here,same,keeps]
        · have other : ¬ k = j := fun equal => same equal.symm
          simp [here,same,other,keeps]
      · by_cases same : j = k
        · simp [here,same]
        · simp [here,same,List.find?_cons]
  exact spread t.rows

@[simp] theorem find_modify_same : (t.modify k f keeps).find k = (t.find k).map f := by
  rw [find_modify,if_pos rfl]

theorem find_modify_other (other : j ≠ k) : (t.modify k f keeps).find j = t.find j := by
  rw [find_modify,if_neg other]

theorem map_find_modify {β : Type*} {view : α → β} (keeps : ∀ row, key (f row) = key row)
    (same : ∀ row, view (f row) = view row) :
    ((t.modify k f keeps).find j).map view = (t.find j).map view := by
  rw [find_modify]
  split
  · rename_i own
    rw [own]
    cases t.find k with
    | none => rfl
    | some row => exact congrArg some (same row)
  · rfl

theorem find_insert {fresh : t.find (key row) = none} :
    (t.insert row fresh).find j = if j = key row then some row else t.find j := by
  simp only [find,insert,List.find?_append,List.find?_singleton]
  by_cases same : j = key row
  · subst same
    have absent : t.rows.find? (fun r => decide (key r = key row)) = none := fresh
    simp [absent]
  · have other : ¬ key row = j := fun equal => same equal.symm
    simp [same,other]

theorem find_upsert : (t.upsert row merge keepsMerge).find j =
    if j = key row then some (((t.find (key row)).map merge).getD row) else t.find j := by
  unfold upsert
  split
  · rename_i absent
    rw [find_insert,absent]
    rfl
  · rename_i old found
    rw [find_modify,found]
    rfl

theorem find_erase : (t.erase k).find j = if j = k then none else t.find j := by
  simp only [find,erase,List.find?_filter]
  by_cases same : j = k
  · subst same
    rw [if_pos rfl,List.find?_eq_none]
    intro row _
    simp
  · rw [if_neg same]
    congr 1
    funext row
    by_cases here : key row = j
    · simp [here,same]
    · simp [here]

theorem mem_erase : row ∈ (t.erase k).rows ↔ row ∈ t.rows ∧ key row ≠ k := by
  simp [erase]

theorem mem_modify : row ∈ (t.modify k f keeps).rows ↔
    ∃ old ∈ t.rows, row = if key old = k then f old else old := by
  simp only [modify,List.mem_map]
  constructor
  · rintro ⟨old,member,rfl⟩
    exact ⟨old,member,rfl⟩
  · rintro ⟨old,member,rfl⟩
    exact ⟨old,member,rfl⟩

theorem forall_modify {P : α → Prop} (keeps : ∀ row, key (f row) = key row) (all : ∀ row ∈ t.rows, P row)
    (kept : ∀ row, P row → P (f row)) :
    ∀ row ∈ (t.modify k f keeps).rows, P row := by
  intro row member
  obtain ⟨old,inside,rfl⟩ := mem_modify.mp member
  split
  · exact kept old (all old inside)
  · exact all old inside

theorem rows_modify : (t.modify k f keeps).rows = t.rows.map fun row => if key row = k then f row else row := rfl

theorem rows_upsert_absent (absent : t.find (key row) = none) :
    (t.upsert row merge keepsMerge).rows = t.rows ++ [row] := by
  unfold upsert
  split
  · rfl
  · rename_i old found
    rw [absent] at found
    cases found

theorem rows_upsert_present (found : t.find (key row) = some old) :
    (t.upsert row merge keepsMerge).rows = t.rows.map fun r => if key r = key row then merge r else r := by
  unfold upsert
  split
  · rename_i absent
    rw [found] at absent
    cases absent
  · rfl

-- A change of a row that is there and an insertion or merge of any row may be swapped,
-- as far as `view` sees, if they may be swapped on one row.
theorem map_upsert_modify {β : Type*} (view : α → β) (keeps : ∀ row, key (f row) = key row)
    (keepsMerge : ∀ row, key (merge row) = key row) (there : (t.find k).isSome = true)
    (swaps : ∀ r, view (f (merge r)) = view (merge (f r))) :
    ((t.upsert row merge keepsMerge).modify k f keeps).rows.map view =
      ((t.modify k f keeps).upsert row merge keepsMerge).rows.map view := by
  cases found : t.find (key row) with
  | none =>
    have other : key row ≠ k := by
      intro same
      rw [← same,found] at there
      cases there
    have absent : (t.modify k f keeps).find (key row) = none := by rw [find_modify_other other,found]
    rw [rows_upsert_absent absent,rows_modify,rows_upsert_absent found,rows_modify,List.map_append,List.map_singleton,
      if_neg other]
  | some old =>
    have stays : ∃ moved, (t.modify k f keeps).find (key row) = some moved := by
      rw [find_modify]
      split
      · rename_i same
        rw [← same,found]
        exact ⟨_,rfl⟩
      · exact ⟨old,found⟩
    obtain ⟨moved,present⟩ := stays
    rw [rows_upsert_present present,rows_modify,rows_upsert_present found,rows_modify]
    simp only [List.map_map]
    refine List.map_congr_left fun r _ => ?_
    simp only [Function.comp_apply]
    by_cases merged : key r = key row
    · by_cases changed : key r = k
      · rw [if_pos merged,keepsMerge,if_pos changed,if_pos changed,keeps,if_pos merged]
        exact swaps r
      · rw [if_pos merged,keepsMerge,if_neg changed,if_neg changed,if_pos merged]
    · by_cases changed : key r = k
      · rw [if_neg merged,if_pos changed,keeps,if_neg merged]
      · rw [if_neg merged,if_neg changed,if_neg merged]

theorem forall_upsert {P : α → Prop} (all : ∀ row ∈ t.rows, P row) :
    (∀ old ∈ (t.upsert row merge keepsMerge).rows, P old) ↔ P (((t.find (key row)).map merge).getD row) := by
  have here : (t.upsert row merge keepsMerge).find (key row) = some (((t.find (key row)).map merge).getD row) := by
    rw [find_upsert,if_pos rfl]
  constructor
  · intro after
    exact after _ (find_mem here)
  · intro own old member
    have found : (t.upsert row merge keepsMerge).find (key old) = some old := find_iff.mpr ⟨member,rfl⟩
    rw [find_upsert] at found
    split at found
    · cases found
      exact own
    · exact all old (find_mem found)

theorem countP_modify (keeps : ∀ row, key (f row) = key row) (p : α → Bool) (found : t.find k = some old) :
    (t.modify k f keeps).rows.countP p + (if p old then 1 else 0) =
      t.rows.countP p + (if p (f old) then 1 else 0) := by
  have spread : ∀ rows : List α, (rows.map key).Nodup → old ∈ rows →
      (rows.map fun row => if key row = k then f row else row).countP p + (if p old then 1 else 0) =
        rows.countP p + (if p (f old) then 1 else 0) := by
    intro rows distinct member
    induction rows with
    | nil => cases member
    | cons head rest ih =>
      rw [List.map_cons,List.nodup_cons] at distinct
      rw [List.map_cons,List.countP_cons,List.countP_cons]
      rcases List.mem_cons.mp member with rfl | inside
      · -- The rest of the table holds other keys and is left alone.
        have rest_same : (rest.map fun row => if key row = k then f row else row) = rest := by
          rw [List.map_congr_left (g := id),List.map_id]
          intro row inside
          refine if_neg fun same => distinct.1 ?_
          exact List.mem_map.mpr ⟨row,inside,same.trans (find_key found).symm⟩
        rw [rest_same,if_pos (find_key found)]
        omega
      · have other : key head ≠ k := fun same =>
          distinct.1 (List.mem_map.mpr ⟨old,inside,(find_key found).trans same.symm⟩)
        rw [if_neg other]
        have tail := ih distinct.2 inside
        omega
  exact spread t.rows t.distinct (find_mem found)

theorem countP_modify_le (p : α → Bool) (found : t.find k = some old) (loses : p (f old) = true → p old = true) :
    (t.modify k f keeps).rows.countP p ≤ t.rows.countP p := by
  have moved := countP_modify keeps p found
  cases after : p (f old) with
  | false =>
    simp only [after,Bool.false_eq_true,if_false] at moved
    omega
  | true =>
    simp only [after,loses after] at moved
    omega

theorem countP_modify_same (p : α → Bool) (found : t.find k = some old) (same : p (f old) = p old) :
    (t.modify k f keeps).rows.countP p = t.rows.countP p := by
  have moved := countP_modify keeps p found
  rw [same] at moved
  exact Nat.add_right_cancel moved

theorem countP_modify_gain (p : α → Bool) (found : t.find k = some old) (before : p old = false)
    (after : p (f old) = true) : (t.modify k f keeps).rows.countP p = t.rows.countP p + 1 := by
  have moved := countP_modify keeps p found
  simpa only [before,after,Bool.false_eq_true,if_false,if_true,Nat.add_zero] using moved

end Table

-- A table whose rows are numbered as they come, none ever taken away.
namespace Table
variable {β : Type*} {number : β → ℕ} (t : Table number)

def next : ℕ := (t.rows.map number).foldr max 0 + 1

theorem number_lt_next {t : Table number} {row : β} (member : row ∈ t.rows) : number row < t.next := by
  suffices bounded : ∀ rows : List β, row ∈ rows → number row ≤ (rows.map number).foldr max 0 from
    Nat.lt_succ_of_le (bounded t.rows member)
  intro rows inside
  induction rows with
  | nil => cases inside
  | cons head rest ih =>
    simp only [List.map_cons,List.foldr_cons]
    cases inside with
    | head => omega
    | tail _ later =>
      have below := ih later
      omega

theorem find_next : t.find t.next = none := by
  apply find_none_iff.mpr
  intro row member same
  have below := number_lt_next member
  omega

def push (make : ℕ → β) (numbered : ∀ n, number (make n) = n) : Table number :=
  t.insert (make t.next) (by rw [numbered]; exact t.find_next)

variable {t} {make : ℕ → β} {numbered : ∀ n, number (make n) = n} {n : ℕ}

theorem ext_rows {a b : Table number} (same : a.rows = b.rows) : a = b := by
  cases a
  cases b
  cases same
  rfl

theorem modify_push {f : β → β} (numbered : ∀ n, number (make n) = n) (keeps : ∀ row, number (f row) = number row) :
    (t.push make numbered).modify t.next f keeps = t.push (fun n => f (make n)) fun n => (keeps _).trans (numbered n) := by
  apply ext_rows
  have old : (t.rows.map fun row => if number row = t.next then f row else row) = t.rows := by
    rw [List.map_congr_left (g := id),List.map_id]
    intro row member
    exact if_neg (Nat.ne_of_lt (number_lt_next member))
  simp only [push,insert,modify,List.map_append,List.map_cons,List.map_nil,numbered,if_true,old]

theorem rows_push : (t.push make numbered).rows = t.rows ++ [make t.next] := rfl

theorem next_modify {f : β → β} (keeps : ∀ row, number (f row) = number row) :
    (t.modify n f keeps).next = t.next := by
  have same : (number ∘ fun row => if number row = n then f row else row) = number := by
    funext row
    simp only [Function.comp_apply]
    split
    · exact keeps row
    · rfl
  rw [next,next,rows_modify,List.map_map,same]

theorem next_push : (t.push make numbered).next = t.next + 1 := by
  have spread : ∀ (numbers : List ℕ) (last : ℕ), numbers.foldr max last = max (numbers.foldr max 0) last := by
    intro numbers last
    induction numbers with
    | nil => simp
    | cons head rest ih => rw [List.foldr_cons,List.foldr_cons,ih,Nat.max_assoc]
  have bound : (t.rows.map number).foldr max 0 < t.next := Nat.lt_succ_self _
  rw [next,rows_push,List.map_append,List.map_singleton,numbered,List.foldr_append,spread]
  simp only [List.foldr_cons,List.foldr_nil,Nat.max_zero]
  omega

theorem find_push : (t.push make numbered).find n = if n = t.next then some (make n) else t.find n := by
  unfold push
  rw [find_insert,numbered]
  by_cases same : n = t.next
  · rw [if_pos same,if_pos same,same]
  · rw [if_neg same,if_neg same]

theorem find_push_kept {row : β} (found : t.find n = some row) :
    (t.push make numbered).find n = some row := by
  have below := number_lt_next (find_mem found)
  rw [find_key found] at below
  rw [find_push,if_neg (Nat.ne_of_lt below)]
  exact found

theorem countP_push (p : β → Bool) : (t.push make numbered).rows.countP p =
    t.rows.countP p + if p (make t.next) then 1 else 0 := by
  rw [rows_push,List.countP_append,List.countP_singleton]

end Table
end Tables
