import Mathlib.Data.Set.Insert
import Mathlib.Data.List.Basic

-- A store and the views of those who follow it by announcements. A writer may announce the new
-- value at once, or keep it and announce it later; by then it may be out of date.
namespace Announcements
variable {κ β : Type*}

-- `waiting` are the values that writers have kept to announce, and `busy` the keys of writers
-- that have not come to that yet.
structure Feed (κ β : Type*) where
  store : κ → Option β
  waiting : List (κ × β)
  busy : Set κ
  views : List (Set (κ × β))

def told (k : κ) (v : β) (view : Set (κ × β)) : Set (κ × β) := insert (k,v) { p ∈ view | p.1 ≠ k }

def Feed.Holds (feed : Feed κ β) (p : κ × β) : Prop := feed.store p.1 = some p.2

def Feed.Promised (feed : Feed κ β) (k : κ) : Prop := (∃ v, (k,v) ∈ feed.waiting ∧ feed.store k = some v) ∨ k ∈ feed.busy

def Feed.Current (feed : Feed κ β) : Prop := ∀ view ∈ feed.views, ∀ p ∈ view, feed.Holds p

-- Where a view is out of date, the announcement that corrects it is still to come.
def Feed.Covered (feed : Feed κ β) : Prop := ∀ view ∈ feed.views, ∀ p ∈ view, feed.Holds p ∨ feed.Promised p.1

variable {feed next : Feed κ β} {view : Set (κ × β)} {k : κ} {v : β} {p : κ × β} {index : ℕ}

-- What may happen. A value may be kept in place of others of its key; what is written, or given
-- up, without an announcement must leave the views what they need, like the announcement and
-- the loss of a kept value.
inductive Moved (feed next : Feed κ β) : Prop where
  | written (k : κ) (v : β) (stored : next.store k = some v) (frame : ∀ j, j ≠ k → next.store j = feed.store j)
      (waiting : next.waiting = feed.waiting) (busy : feed.busy ⊆ next.busy) (views : next.views = feed.views.map (told k v))
  | kept (k : κ) (v : β) (stored : next.store k = some v) (frame : ∀ j, j ≠ k → next.store j = feed.store j)
      (added : (k,v) ∈ next.waiting) (others : ∀ p ∈ feed.waiting, p.1 ≠ k → p ∈ next.waiting)
      (busy : feed.busy ⊆ next.busy) (views : next.views = feed.views)
  | silent (keys : Set κ) (sound : ∀ k ∈ keys, (∀ view ∈ feed.views, ∀ p ∈ view, p.1 = k → next.Holds p) ∨ next.Promised k)
      (frame : ∀ j ∉ keys, next.store j = feed.store j) (waiting : next.waiting = feed.waiting)
      (busy : ∀ j ∉ keys, j ∈ feed.busy → j ∈ next.busy) (views : next.views = feed.views)
  | announced (index : ℕ) (k : κ) (v : β) (taken : feed.waiting[index]? = some (k,v)) (store : next.store = feed.store)
      (waiting : next.waiting = feed.waiting.eraseIdx index) (busy : feed.busy ⊆ next.busy)
      (views : next.views = feed.views.map (told k v)) (sound : feed.views = [] ∨ feed.Holds (k,v) ∨ next.Promised k)
  | lost (index : ℕ) (k : κ) (v : β) (taken : feed.waiting[index]? = some (k,v)) (store : next.store = feed.store)
      (waiting : next.waiting = feed.waiting.eraseIdx index) (busy : feed.busy ⊆ next.busy) (views : next.views = feed.views)
      (sound : (∀ view ∈ feed.views, ∀ p ∈ view, p.1 = k → feed.Holds p) ∨ next.Promised k)
  | joined (view : Set (κ × β)) (sound : ∀ p ∈ view, feed.Holds p ∨ feed.Promised p.1) (store : next.store = feed.store)
      (waiting : next.waiting = feed.waiting) (busy : feed.busy ⊆ next.busy) (views : next.views = feed.views ++ [view])
  | parted (store : next.store = feed.store) (waiting : next.waiting = feed.waiting) (busy : feed.busy ⊆ next.busy)
      (views : next.views ⊆ feed.views)
  | closed (views : next.views = [])

theorem mem_told : p ∈ told k v view ↔ p = (k,v) ∨ (p ∈ view ∧ p.1 ≠ k) := Iff.rfl

theorem covered_current (covered : feed.Covered) (quiet : feed.waiting = []) (idle : feed.busy = ∅) : feed.Current := by
  intro view member p shows
  rcases covered view member p shows with holds | ⟨v,waits,_⟩ | busy
  · exact holds
  · rw [quiet] at waits
    cases waits
  · rw [idle] at busy
    cases busy

theorem covered_frame (covered : feed.Holds p ∨ feed.Promised p.1) (store : next.store p.1 = feed.store p.1)
    (waiting : ∀ v, (p.1,v) ∈ feed.waiting → (p.1,v) ∈ next.waiting) (busy : p.1 ∈ feed.busy → p.1 ∈ next.busy) :
    next.Holds p ∨ next.Promised p.1 := by
  rcases covered with holds | ⟨v,waits,stored⟩ | out
  · exact .inl (store.trans holds)
  · exact .inr (.inl ⟨v,waiting v waits,store.trans stored⟩)
  · exact .inr (.inr (busy out))

theorem mem_eraseIdx_other (taken : feed.waiting[index]? = some (k,v)) (member : p ∈ feed.waiting) (other : p.1 ≠ k) :
    p ∈ feed.waiting.eraseIdx index := by
  obtain ⟨position,there⟩ := List.mem_iff_getElem?.mp member
  refine List.mem_eraseIdx_iff_getElem?.mpr ⟨position,?_,there⟩
  rintro rfl
  rw [taken] at there
  cases there
  exact other rfl

theorem covered_moved (covered : feed.Covered) (moved : Moved feed next) : next.Covered := by
  intro view member p shows
  cases moved with
  | written k v stored frame waiting busy views =>
    rw [views] at member
    obtain ⟨old,before,rfl⟩ := List.mem_map.mp member
    rcases mem_told.mp shows with rfl | ⟨shown,other⟩
    · exact .inl stored
    · exact covered_frame (covered old before p shown) (frame p.1 other) (fun _ => waiting ▸ id) (@busy p.1)
  | kept k v stored frame added others busy views =>
    rw [views] at member
    by_cases own : p.1 = k
    · exact .inr (.inl ⟨v,own ▸ added,own ▸ stored⟩)
    · exact covered_frame (covered view member p shows) (frame p.1 own) (fun v waits => others (p.1,v) waits own) (@busy p.1)
  | silent keys sound frame waiting busy views =>
    rw [views] at member
    by_cases own : p.1 ∈ keys
    · exact (sound p.1 own).imp (fun holds => holds view member p shows rfl) id
    · exact covered_frame (covered view member p shows) (frame p.1 own) (fun _ => waiting ▸ id) (busy p.1 own)
  | announced index k v taken store waiting busy views sound =>
    rw [views] at member
    obtain ⟨old,before,rfl⟩ := List.mem_map.mp member
    rcases mem_told.mp shows with rfl | ⟨shown,other⟩
    · rcases sound with none_ | holds | promised
      · rw [none_] at before
        cases before
      · exact .inl ((congrFun store k).trans holds)
      · exact .inr promised
    · refine covered_frame (covered old before p shown) (congrFun store p.1) (fun v waits => ?_) (@busy p.1)
      rw [waiting]
      exact mem_eraseIdx_other taken waits other
  | lost index k v taken store waiting busy views sound =>
    rw [views] at member
    by_cases own : p.1 = k
    · rcases sound with holds | promised
      · exact .inl ((congrFun store p.1).trans (holds view member p shows own))
      · exact .inr (own ▸ promised)
    · refine covered_frame (covered view member p shows) (congrFun store p.1) (fun v waits => ?_) (@busy p.1)
      rw [waiting]
      exact mem_eraseIdx_other taken waits own
  | joined fresh sound store waiting busy views =>
    rw [views] at member
    rcases List.mem_append.mp member with old | new
    · exact covered_frame (covered view old p shows) (congrFun store p.1) (fun _ => waiting ▸ id) (@busy p.1)
    · rw [List.mem_singleton.mp new] at shows
      exact covered_frame (sound p shows) (congrFun store p.1) (fun _ => waiting ▸ id) (@busy p.1)
  | parted store waiting busy views =>
    exact covered_frame (covered view (views member) p shows) (congrFun store p.1) (fun _ => waiting ▸ id) (@busy p.1)
  | closed views =>
    rw [views] at member
    cases member

end Announcements
