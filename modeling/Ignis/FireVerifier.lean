import Mathlib.Data.Rat.Cast.Defs
import Ignis.States

-- The gate of the Pi (`core.py`), which no single frame passes. Times are nanoseconds.
namespace Ignis

structure Detection (R : Type) where
  className : String
  classId : ℤ
  confidence : R
  bbox : R × R × R × R

structure FireState (R : Type) where
  hazardState : HazardState
  incidentId : Option String
  firstDetectionNs : ℤ
  lastRelevantNs : ℤ
  confirmed : Bool
  fireConfidence : R
  smokeConfidence : R
  secondsPersistent : R

structure FireVerifier (R : Type) where
  deviceId : String
  bootId : String
  windowLength : ℕ
  required : ℕ
  fireThreshold : R
  smokeThreshold : R
  confirmNs : ℤ
  clearNs : ℤ
  resetNs : ℤ
  window : List Bool
  counter : ℕ
  state : FireState R

namespace FireVerifier
variable {R : Type} [Double R] [IntCast R]

def clearState : FireState R := ⟨.clear,none,0,0,false,0,0,0⟩

def created (deviceId bootId : String) : FireVerifier R where
  deviceId := deviceId
  bootId := bootId
  windowLength := 10
  required := 6
  fireThreshold := 0.55
  smokeThreshold := 0.65
  confirmNs := 1500000000
  clearNs := 5000000000
  resetNs := 10000000000
  window := []
  counter := 0
  state := clearState

-- `max(..., default=0.0)` over the detections of one class.
def highest (className : String) (detections : List (Detection R)) : R :=
  match (detections.filter fun item => item.className = className).map Detection.confidence with
  | [] => 0
  | first :: rest => rest.foldl larger first

-- A `deque` of this length drops its oldest entries.
def appended (length : ℕ) (window : List Bool) (relevant : Bool) : List Bool :=
  let grown := window ++ [relevant]
  grown.drop (grown.length - length)

def relevant (verifier : FireVerifier R) (detections : List (Detection R)) : Bool :=
  verifier.fireThreshold ≤ highest "fire" detections || verifier.smokeThreshold ≤ highest "smoke" detections

def hits (window : List Bool) : ℕ := window.count true

def seen (verifier : FireVerifier R) (detections : List (Detection R)) : FireVerifier R :=
  { verifier with
    window := appended verifier.windowLength verifier.window (verifier.relevant detections)
    state := { verifier.state with
      fireConfidence := highest "fire" detections
      smokeConfidence := highest "smoke" detections } }

def opened (verifier : FireVerifier R) (monotonicNs : ℤ) : FireVerifier R :=
  match verifier.state.incidentId with
  | some _ => verifier
  | none =>
    let counter := verifier.counter + 1
    { verifier with
      counter := counter
      state := { verifier.state with
        incidentId := some s!"{verifier.deviceId}-{verifier.bootId}-{counter}"
        firstDetectionNs := monotonicNs
        hazardState := .suspected } }

def raised (verifier : FireVerifier R) (monotonicNs : ℤ) : FireVerifier R :=
  let verifier := opened { verifier with state := { verifier.state with lastRelevantNs := monotonicNs } } monotonicNs
  let elapsed := monotonicNs - verifier.state.firstDetectionNs
  let verifying := max 3 (verifier.required / 2) ≤ hits verifier.window && !verifier.state.confirmed
  let confirms := verifier.required ≤ hits verifier.window && verifier.confirmNs ≤ elapsed
  { verifier with state := { verifier.state with
      secondsPersistent := (elapsed : R) / 1e9
      hazardState :=
        if confirms then .confirmed else if verifying then .verifying else verifier.state.hazardState
      confirmed := verifier.state.confirmed || confirms } }

def forgotten (verifier : FireVerifier R) : FireVerifier R := { verifier with window := [], state := clearState }

def missed (verifier : FireVerifier R) (monotonicNs : ℤ) : FireVerifier R :=
  let missingNs := monotonicNs - verifier.state.lastRelevantNs
  if verifier.state.confirmed && verifier.resetNs ≤ missingNs then forgotten verifier
  else if verifier.state.confirmed && verifier.clearNs ≤ missingNs then
    { verifier with state := { verifier.state with hazardState := .visualSignatureLost } }
  else if !verifier.state.confirmed && verifier.clearNs ≤ missingNs then forgotten verifier
  else verifier

def update (verifier : FireVerifier R) (monotonicNs : ℤ) (detections : List (Detection R)) : FireVerifier R :=
  let next := verifier.seen detections
  if verifier.relevant detections then next.raised monotonicNs
  else if next.state.incidentId.isSome then next.missed monotonicNs
  else next

variable (verifier : FireVerifier R) (monotonicNs : ℤ) (detections : List (Detection R))

theorem raised_first : (verifier.raised monotonicNs).state.firstDetectionNs = verifier.state.firstDetectionNs ∨
    (verifier.raised monotonicNs).state.firstDetectionNs = monotonicNs := by
  simp only [raised,opened]
  cases verifier.state.incidentId with
  | none => exact .inr rfl
  | some incidentId => exact .inl rfl

section
omit [IntCast R]

theorem missed_first : (verifier.missed monotonicNs).state.firstDetectionNs = verifier.state.firstDetectionNs ∨
    (verifier.missed monotonicNs).state.firstDetectionNs = 0 := by
  simp only [missed]
  split
  · exact .inr rfl
  · split
    · exact .inl rfl
    · split
      · exact .inr rfl
      · exact .inl rfl

end

theorem update_first : (verifier.update monotonicNs detections).state.firstDetectionNs ∈
    [verifier.state.firstDetectionNs,monotonicNs,0] := by
  have kept : (verifier.seen detections).state.firstDetectionNs = verifier.state.firstDetectionNs := rfl
  simp only [List.mem_cons,List.not_mem_nil,or_false,update]
  split
  · rcases raised_first (verifier.seen detections) monotonicNs with same | opens
    · exact .inl (same.trans kept)
    · exact .inr (.inl opens)
  · split
    · rcases missed_first (verifier.seen detections) monotonicNs with same | forgets
      · exact .inl (same.trans kept)
      · exact .inr (.inr forgets)
    · exact .inl kept

end FireVerifier
end Ignis
