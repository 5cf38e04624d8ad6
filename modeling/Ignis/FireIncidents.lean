import Ignis.FireHistory

-- The verifier forgets an abandoned incident by replacing its state, and keeps the number.
namespace Ignis.FireIncidents
open FireVerifier FireHistory

def ended (hazardState : HazardState) : Bool := hazardState = .clear || hazardState = .resolved

variable {R : Type} [Double R] [IntCast R] {verifier : FireVerifier R} {monotonicNs : ℤ} {detections : List (Detection R)}

def issued (verifier : FireVerifier R) (number : ℕ) : String := s!"{verifier.deviceId}-{verifier.bootId}-{number}"

def closes (verifier : FireVerifier R) (monotonicNs : ℤ) (detections : List (Detection R)) : Bool :=
  !verifier.relevant detections && overdue verifier monotonicNs

def abandoned (verifier : FireVerifier R) : Bool :=
  if verifier.state.incidentId.isSome then 1 < verifier.counter else 0 < verifier.counter

structure Naming (verifier : FireVerifier R) : Prop where
  last : verifier.state.incidentId.isSome = true →
    1 ≤ verifier.counter ∧ verifier.state.incidentId = some (issued verifier verifier.counter)
  active : verifier.state.incidentId.isSome = true → ended verifier.state.hazardState = false

section
omit [Double R] [IntCast R]

theorem issued_inj {first second : ℕ} : issued verifier first = issued verifier second ↔ first = second := by
  constructor
  · intro same
    have digits : first.repr = second.repr := by simpa [issued] using same
    have read : Nat.ofDigitChars 10 first.repr.toList 0 = Nat.ofDigitChars 10 second.repr.toList 0 := by rw [digits]
    simpa only [Nat.toList_repr,Nat.ofDigitChars_ten_toDigits] using read
  · rintro rfl
    rfl

end

theorem issued_update (number : ℕ) : issued (verifier.update monotonicNs detections) number = issued verifier number := by
  obtain ⟨_,_,_,same⟩ := update_same verifier monotonicNs detections
  rw [same]
  rfl

section
omit [Double R] [IntCast R]

theorem opened_active (going : verifier.state.incidentId.isSome = true → ended verifier.state.hazardState = false) :
    ended (verifier.opened monotonicNs).state.hazardState = false := by
  unfold opened
  cases present : verifier.state.incidentId with
  | none => rfl
  | some incidentId => exact going (by rw [present]; rfl)

end

theorem raised_active (going : verifier.state.incidentId.isSome = true → ended verifier.state.hazardState = false) :
    ended (verifier.raised monotonicNs).state.hazardState = false := by
  have opens : ended (FireVerifier.opened { verifier with
      state := { verifier.state with lastRelevantNs := monotonicNs } } monotonicNs).state.hazardState = false := opened_active going
  unfold raised
  generalize FireVerifier.opened _ monotonicNs = next at opens
  dsimp only
  split
  · rfl
  · split
    · rfl
    · exact opens

section
omit [IntCast R]

theorem missed_active (monotonicNs : ℤ) (going : ended verifier.state.hazardState = false) :
    (verifier.missed monotonicNs).state.incidentId = none ∨ ended (verifier.missed monotonicNs).state.hazardState = false := by
  simp only [missed]
  split
  · exact .inl rfl
  · split
    · exact .inr rfl
    · split
      · exact .inl rfl
      · exact .inr going

end

inductive Turned (verifier after : FireVerifier R) : Bool → Prop where
  | closed (present : verifier.state.incidentId.isSome = true) (forgets : after.state.incidentId = none)
      (counter : after.counter = verifier.counter) : Turned verifier after true
  | raised (present : after.state.incidentId = some (verifier.state.incidentId.getD (issued verifier (verifier.counter + 1))))
      (counter : after.counter = verifier.counter + if verifier.state.incidentId = none then 1 else 0) :
      Turned verifier after false
  | stays (incidentId : after.state.incidentId = verifier.state.incidentId) (counter : after.counter = verifier.counter) :
      Turned verifier after false

theorem update_turned : Turned verifier (verifier.update monotonicNs detections) (closes verifier monotonicNs detections) := by
  cases relevant : verifier.relevant detections with
  | true =>
    have raises : Raised verifier (verifier.update monotonicNs detections) monotonicNs := update_raised relevant
    have stays : closes verifier monotonicNs detections = false := by rw [closes,relevant]; rfl
    rw [stays]
    exact .raised raises.incidentId raises.counter
  | false =>
    have late : closes verifier monotonicNs detections = overdue verifier monotonicNs := by rw [closes,relevant]; rfl
    rw [late]
    rcases update_missed monotonicNs relevant with ⟨past,forgets⟩ | ⟨early,misses⟩
    · have there : verifier.state.incidentId.isSome = true := by
        unfold overdue at past
        rw [Bool.and_eq_true] at past
        exact past.1
      rw [past,forgets]
      exact .closed there rfl rfl
    · rw [early]
      exact .stays misses.incidentId misses.counter

theorem update_active (naming : Naming verifier)
    (present : (verifier.update monotonicNs detections).state.incidentId.isSome = true) :
    ended (verifier.update monotonicNs detections).state.hazardState = false := by
  have going : (verifier.seen detections).state.incidentId.isSome = true →
      ended (verifier.seen detections).state.hazardState = false := naming.active
  revert present
  simp only [update]
  split
  · exact fun _ => raised_active going
  · split
    · rename_i before
      intro present
      rcases missed_active monotonicNs (going before) with gone | active
      · rw [gone] at present
        cases present
      · exact active
    · exact going

theorem naming_update (naming : Naming verifier) : Naming (verifier.update monotonicNs detections) := by
  refine ⟨fun present => ?_,update_active naming⟩
  rw [issued_update]
  have turned : Turned verifier (verifier.update monotonicNs detections) (closes verifier monotonicNs detections) := update_turned
  generalize verifier.update monotonicNs detections = after at present turned ⊢
  generalize closes verifier monotonicNs detections = closing at turned
  cases turned with
  | closed _ forgets _ =>
    rw [forgets] at present
    cases present
  | raised there counter =>
    cases before : verifier.state.incidentId with
    | none =>
      rw [before] at there counter
      rw [counter]
      exact ⟨Nat.le_add_left 1 _,there⟩
    | some incidentId =>
      obtain ⟨numbered,name⟩ := naming.last (by rw [before]; rfl)
      rw [before] at there counter name
      rw [counter]
      exact ⟨numbered,there.trans name⟩
  | stays same counter =>
    rw [same] at present ⊢
    rw [counter]
    exact naming.last present

theorem abandoned_update (naming : Naming verifier) : abandoned (verifier.update monotonicNs detections) =
    (abandoned verifier || closes verifier monotonicNs detections) := by
  have turned : Turned verifier (verifier.update monotonicNs detections) (closes verifier monotonicNs detections) := update_turned
  have numbered := fun present => (naming.last present).1
  unfold abandoned
  generalize verifier.update monotonicNs detections = after at turned ⊢
  generalize closes verifier monotonicNs detections = closing at turned ⊢
  cases turned with
  | closed present forgets counter =>
    have positive := numbered present
    rw [forgets,counter]
    simp only [Option.isSome_none,Bool.false_eq_true,if_false,Bool.or_true,decide_eq_true_eq]
    omega
  | raised there counter =>
    rw [there,counter]
    cases before : verifier.state.incidentId <;> simp
  | stays same counter =>
    rw [same,counter,Bool.or_false]

omit [Double R] [IntCast R]

theorem abandoned_first (naming : Naming verifier) (left : abandoned verifier = true) :
    1 ≤ verifier.counter ∧ verifier.state.incidentId ≠ some (issued verifier 1) := by
  constructor
  · unfold abandoned at left
    split at left <;> simp only [decide_eq_true_eq] at left <;> omega
  · intro current
    obtain ⟨_,last⟩ := naming.last (by rw [current]; rfl)
    rw [current,Option.some.injEq,issued_inj] at last
    rw [abandoned,current,← last] at left
    cases left

theorem unabandoned_current {number : ℕ} (naming : Naming verifier)
    (none : abandoned verifier = false) (positive : 1 ≤ number) (below : number ≤ verifier.counter) :
    verifier.state.incidentId = some (issued verifier number) := by
  unfold abandoned at none
  split at none
  · rename_i present
    obtain ⟨_,last⟩ := naming.last present
    simp only [decide_eq_false_iff_not] at none
    have only : number = verifier.counter := by omega
    rw [last,only]
  · simp only [decide_eq_false_iff_not] at none
    omega

end Ignis.FireIncidents
