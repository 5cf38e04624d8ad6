import Ignis.Runs
import Ignis.States
import Mathlib.Data.List.Count

-- The edge incident engine (qnx/common/src/incident.cpp), field for field. The
-- 64-bit timestamps are `UInt64`, whose subtraction wraps as the C++ one does.
namespace Ignis.IncidentEngine
open Runs

structure Box (R : Type) where
  xMin : R
  yMin : R
  xMax : R
  yMax : R

structure IncidentThresholds (R : Type) where
  suspectedFireConfidence : R
  suspectedSmokeConfidence : R
  persistenceWindowFrames : Nat
  persistenceRequiredFrames : Nat
  confirmedFireConfidence : R
  confirmedFireDurationNs : UInt64
  confirmedVisibleDurationNs : UInt64
  clearGracePeriodNs : UInt64
  growthWindowNs : UInt64
  growthMinimumPercent : R
  growthMinimumArea : R
  timingUncertaintySeconds : R

structure FrameEvidence (R : Type) where
  sequence : UInt64
  monotonicNs : UInt64
  fireConfidence : R
  smokeConfidence : R
  fireBox : Box R
  smokeBox : Box R
  zone : String := "Unconfigured area"

structure IncidentSnapshot (R : Type) where
  incidentId : String
  hazardState : HazardState
  responseState : ResponseState
  firstDetectionNs : UInt64
  updatedNs : UInt64
  peakFireConfidence : R
  peakSmokeConfidence : R
  secondsPersistent : R
  firstZone : String
  currentZone : String
  fireRegionGrowthPercent : R
  growthStable : Bool
  smokeFirstKnown : Bool
  smokeFirst : Bool
  smokeToFireDelaySeconds : R
  wasConfirmed : Bool

structure Engine (R : Type) where
  deviceId : String
  bootId : String
  incidentCounter : UInt64
  thresholds : IncidentThresholds R
  snapshot : IncidentSnapshot R
  window : List (FrameEvidence R)
  lastSequence : UInt64
  lastRelevantNs : UInt64
  firstFireNs : UInt64
  firstSmokeNs : UInt64
  sustainedHighFireStartNs : UInt64
  degraded : Bool

variable {R : Type} [Double R]

-- The in-class initialisers of incident.hpp.
def defaultThresholds : IncidentThresholds R :=
  ⟨0.55,0.65,10,6,0.75,2000000000,4000000000,2000000000,3000000000,20.0,0.005,0.5⟩

def emptySnapshot : IncidentSnapshot R :=
  ⟨"",.clear,.idle,0,0,0,0,0,"Unconfigured area","Unconfigured area",0,false,false,false,0,false⟩

def fresh (deviceId bootId : String) (thresholds : IncidentThresholds R) : Engine R :=
  ⟨deviceId,bootId,0,thresholds,emptySnapshot,[],0,0,0,0,0,false⟩

def Box.valid (b : Box R) : Bool :=
  Double.isFinite b.xMin && Double.isFinite b.yMin && Double.isFinite b.xMax && Double.isFinite b.yMax &&
    decide (b.xMin ≥ 0) && decide (b.yMin ≥ 0) && decide (b.xMax ≤ 1) && decide (b.yMax ≤ 1) &&
    decide (b.xMin < b.xMax) && decide (b.yMin < b.yMax)

def Box.area (b : Box R) : R := larger 0 (b.xMax - b.xMin) * larger 0 (b.yMax - b.yMin)

def relevant (t : IncidentThresholds R) (evidence : FrameEvidence R) : Bool :=
  decide (evidence.fireConfidence ≥ t.suspectedFireConfidence) ||
    decide (evidence.smokeConfidence ≥ t.suspectedSmokeConfidence)

def persistenceCount (e : Engine R) : Nat := e.window.countP (relevant e.thresholds)

def incidentName (deviceId bootId : String) (counter : UInt64) : String :=
  deviceId ++ "-" ++ bootId ++ "-" ++ Nat.repr counter.toNat

def beginIncident (e : Engine R) (evidence : FrameEvidence R) : Engine R :=
  let incidentCounter := e.incidentCounter + 1
  {e with
    incidentCounter := incidentCounter
    snapshot := {emptySnapshot with
      incidentId := incidentName e.deviceId e.bootId incidentCounter
      hazardState := .suspected
      responseState := .idle
      firstDetectionNs := evidence.monotonicNs
      updatedNs := evidence.monotonicNs
      firstZone := evidence.zone
      currentZone := evidence.zone}
    firstFireNs := 0
    firstSmokeNs := 0
    sustainedHighFireStartNs := 0}

structure Growth (R : Type) where
  baseline : R
  recent : R
  count : Nat
  previous : R
  positiveSteps : Nat

def growthStep (t : IncidentThresholds R) (now : UInt64) (g : Growth R) (frame : FrameEvidence R) : Growth R :=
  if !frame.fireBox.valid || decide (frame.fireBox.area < t.growthMinimumArea) then g
  else if now - frame.monotonicNs > t.growthWindowNs then g
  else
    let area := frame.fireBox.area
    {baseline := if g.baseline == 0 then area else g.baseline
     recent := if g.count = 0 then area else 0.35 * area + 0.65 * g.recent
     count := g.count + 1
     previous := area
     positiveSteps := if 0 < g.previous ∧ g.previous < area then g.positiveSteps + 1 else g.positiveSteps}

def growthOf (t : IncidentThresholds R) (now : UInt64) (window : List (FrameEvidence R)) : Growth R :=
  window.foldl (growthStep t now) ⟨0,0,0,0,0⟩

-- `none` where the code leaves `growth_stable` false and the growth at zero.
def stableGrowth (t : IncidentThresholds R) (g : Growth R) : Option R :=
  if 4 ≤ g.count ∧ g.baseline ≥ t.growthMinimumArea then
    let growth := (g.recent - g.baseline) / g.baseline * 100.0
    if growth ≥ t.growthMinimumPercent ∧ 2 ≤ g.positiveSteps then some growth else none
  else none

def updateGrowth (e : Engine R) (now : UInt64) : Engine R :=
  let growth := stableGrowth e.thresholds (growthOf e.thresholds now e.window)
  {e with snapshot := {e.snapshot with
    growthStable := growth.isSome
    fireRegionGrowthPercent := growth.getD 0}}

def toSeconds (ns : UInt64) : R := (ns.toNat : R) / 1000000000.0

-- Which of smoke and fire came first, where the two are known and far enough apart.
def sequenceObservation (e : Engine R) : Option (Bool × R) :=
  if e.firstSmokeNs = 0 ∨ e.firstFireNs = 0 then none
  else
    let difference : R := toSeconds (if e.firstSmokeNs > e.firstFireNs
      then e.firstSmokeNs - e.firstFireNs else e.firstFireNs - e.firstSmokeNs)
    if difference ≤ e.thresholds.timingUncertaintySeconds then none
    else some (decide (e.firstSmokeNs < e.firstFireNs),difference)

def updateSequenceObservation (e : Engine R) : Engine R :=
  let observation := sequenceObservation e
  {e with snapshot := {e.snapshot with
    smokeFirstKnown := observation.isSome
    smokeFirst := (observation.map (·.1)).getD e.snapshot.smokeFirst
    smokeToFireDelaySeconds := (observation.map (·.2)).getD e.snapshot.smokeToFireDelaySeconds}}

def confirmVisual (e : Engine R) (now : UInt64) : Engine R :=
  {e with snapshot := {e.snapshot with
    hazardState := .confirmed
    responseState := .awaitingResponse
    wasConfirmed := true
    updatedNs := now}}

def cooccurrenceStep (t : IncidentThresholds R) (found : Nat × UInt64) (frame : FrameEvidence R) : Nat × UInt64 :=
  if frame.fireConfidence ≥ t.suspectedFireConfidence ∧ frame.smokeConfidence ≥ t.suspectedSmokeConfidence then
    (found.1 + 1,if found.2 = 0 then frame.monotonicNs else found.2)
  else found

def confirmationRuleMet (e : Engine R) (now : UInt64) : Bool :=
  let t := e.thresholds
  let highFireDuration := e.sustainedHighFireStartNs != 0 &&
    decide (now - e.sustainedHighFireStartNs ≥ t.confirmedFireDurationNs)
  let visibleDuration := e.snapshot.firstDetectionNs != 0 &&
    decide (now - e.snapshot.firstDetectionNs ≥ t.confirmedVisibleDurationNs) &&
    decide (persistenceCount e ≥ t.persistenceRequiredFrames)
  let cooccurrence := e.window.foldl (cooccurrenceStep t) (0,0)
  let fireAndSmoke := decide (cooccurrence.1 ≥ t.persistenceRequiredFrames) && cooccurrence.2 != 0 &&
    decide (now - cooccurrence.2 ≥ 1000000000)
  highFireDuration || visibleDuration || fireAndSmoke || e.snapshot.growthStable

-- `process`, block by block in the order of the source.
def accepts (e : Engine R) (evidence : FrameEvidence R) : Bool :=
  !(decide (evidence.sequence ≤ e.lastSequence) || evidence.monotonicNs == 0)

def pushWindow (e : Engine R) (evidence : FrameEvidence R) : Engine R :=
  let window := e.window ++ [evidence]
  {e with window := window.drop (window.length - e.thresholds.persistenceWindowFrames)}

def startsIncident (e : Engine R) : Bool :=
  e.snapshot.hazardState == .clear || e.snapshot.hazardState == .resolved

def accumulate (e : Engine R) (evidence : FrameEvidence R) : Engine R :=
  let t := e.thresholds
  let now := evidence.monotonicNs
  {e with
    snapshot := {e.snapshot with
      peakFireConfidence := larger e.snapshot.peakFireConfidence evidence.fireConfidence
      peakSmokeConfidence := larger e.snapshot.peakSmokeConfidence evidence.smokeConfidence
      currentZone := evidence.zone}
    firstFireNs := if evidence.fireConfidence ≥ t.suspectedFireConfidence ∧ e.firstFireNs = 0
      then now else e.firstFireNs
    firstSmokeNs := if evidence.smokeConfidence ≥ t.suspectedSmokeConfidence ∧ e.firstSmokeNs = 0
      then now else e.firstSmokeNs
    sustainedHighFireStartNs :=
      if evidence.fireConfidence ≥ t.confirmedFireConfidence then
        if e.sustainedHighFireStartNs = 0 then now else e.sustainedHighFireStartNs
      else 0}

def absorb (e : Engine R) (evidence : FrameEvidence R) : Engine R :=
  if relevant e.thresholds evidence then
    let seen := {e with lastRelevantNs := evidence.monotonicNs}
    accumulate (if startsIncident seen then beginIncident seen evidence else seen) evidence
  else {e with sustainedHighFireStartNs := 0}

def refreshElapsed (e : Engine R) (now : UInt64) : Engine R :=
  if e.snapshot.firstDetectionNs != 0 then
    {e with snapshot := {e.snapshot with
      updatedNs := now
      secondsPersistent := toSeconds (now - e.snapshot.firstDetectionNs)}}
  else e

def persists (e : Engine R) : Bool :=
  !e.snapshot.wasConfirmed && decide (persistenceCount e ≥ e.thresholds.persistenceRequiredFrames)

def markVerifying (e : Engine R) : Engine R :=
  if persists e then {e with snapshot := {e.snapshot with hazardState := .verifying}} else e

def confirms (e : Engine R) (now : UInt64) : Bool :=
  !e.snapshot.wasConfirmed && e.snapshot.hazardState == .verifying && confirmationRuleMet e now

def decideConfirmation (e : Engine R) (now : UInt64) : Engine R :=
  if confirms e now then confirmVisual e now else e

def signatureGone (e : Engine R) (now : UInt64) : Bool :=
  e.lastRelevantNs != 0 && decide (now - e.lastRelevantNs ≥ e.thresholds.clearGracePeriodNs)

def settle (e : Engine R) (evidence : FrameEvidence R) : Engine R :=
  if !relevant e.thresholds evidence && signatureGone e evidence.monotonicNs then
    if e.snapshot.wasConfirmed then
      {e with snapshot := {e.snapshot with hazardState := .visualSignatureLost}}
    else {e with snapshot := {e.snapshot with hazardState := .clear, responseState := .idle}}
  else if relevant e.thresholds evidence && e.snapshot.wasConfirmed &&
      e.snapshot.hazardState == .visualSignatureLost then
    {e with snapshot := {e.snapshot with hazardState := .confirmed}}
  else e

def gathered (e : Engine R) (evidence : FrameEvidence R) : Engine R :=
  refreshElapsed (absorb (pushWindow {e with lastSequence := evidence.sequence} evidence) evidence)
    evidence.monotonicNs

def judged (e : Engine R) (evidence : FrameEvidence R) : Engine R :=
  updateSequenceObservation (updateGrowth (markVerifying (gathered e evidence)) evidence.monotonicNs)

def process (e : Engine R) (evidence : FrameEvidence R) : Engine R :=
  if !accepts e evidence then e
  else if e.degraded then
    {e with
      lastSequence := evidence.sequence
      snapshot := {e.snapshot with hazardState := .degraded, updatedNs := evidence.monotonicNs}}
  else settle (decideConfirmation (judged e evidence) evidence.monotonicNs) evidence

-- The reason is not looked at.
def cancel (e : Engine R) (_reason : String) : Engine R × Bool :=
  if !e.snapshot.wasConfirmed || e.snapshot.responseState == .callConnected ||
      e.snapshot.responseState == .callCompleted then (e,false)
  else ({e with snapshot := {e.snapshot with responseState := .cancelled}},true)

def confirmOccupant (e : Engine R) : Engine R × Bool :=
  if !e.snapshot.wasConfirmed || e.snapshot.responseState == .cancelled then (e,false)
  else ({e with snapshot := {e.snapshot with responseState := .escalating}},true)

def manualReset (e : Engine R) : Engine R × Bool :=
  if e.snapshot.responseState != .cancelled && e.snapshot.responseState != .callCompleted &&
      e.snapshot.responseState != .callFailed then (e,false)
  else ({e with snapshot := {e.snapshot with hazardState := .resolved}, window := []},true)

def setDegraded (e : Engine R) (degraded : Bool) : Engine R :=
  {e with
    degraded := degraded
    snapshot := {e.snapshot with hazardState :=
      if degraded then .degraded else if e.snapshot.wasConfirmed then .confirmed else .clear}}

inductive Operation (R : Type) where
  | process (evidence : FrameEvidence R)
  | cancel (reason : String)
  | confirmOccupant
  | manualReset
  | setDegraded (degraded : Bool)

def operate (e : Engine R) : Operation R → Engine R
  | .process evidence => process e evidence
  | .cancel reason => (cancel e reason).1
  | .confirmOccupant => (confirmOccupant e).1
  | .manualReset => (manualReset e).1
  | .setDegraded degraded => setDegraded e degraded

-- What the operation answers; `process` and `set_degraded` have no answer to give.
def succeeds (e : Engine R) : Operation R → Bool
  | .process _ => true
  | .cancel reason => (cancel e reason).2
  | .confirmOccupant => (confirmOccupant e).2
  | .manualReset => (manualReset e).2
  | .setDegraded _ => true

def evaluated (e : Engine R) (evidence : FrameEvidence R) : Bool := accepts e evidence && !e.degraded
def begins (e : Engine R) (evidence : FrameEvidence R) : Bool :=
  evaluated e evidence && relevant e.thresholds evidence && startsIncident e

-- The frames of the engine's own tests, whose clock starts at one second.
def frame (sequence milliseconds : Nat) (fire : ℚ) (smoke : ℚ := 0) : FrameEvidence ℚ :=
  { sequence := .ofNat sequence
    monotonicNs := .ofNat (1000000000 + milliseconds * 1000000)
    fireConfidence := fire
    smokeConfidence := smoke
    fireBox := ⟨0.2,0.2,0.4,0.4⟩
    smokeBox := ⟨0.1,0.1,0.6,0.6⟩
    zone := "Stovetop" }

-- Nine frames of strong fire a quarter of a second apart.
def sustained : List (Operation ℚ) :=
  (List.range 9).map fun i => .process (frame (i + 1) (i * 250) 0.80)

example : (run operate (fresh "device" "single" defaultThresholds)
    [.process (frame 1 0 0.60),.process (frame 2 2100 0)]).snapshot.hazardState = .clear := by decide +kernel
example : (run operate (fresh "device" "sustained" defaultThresholds) sustained).snapshot.responseState =
    .awaitingResponse := by decide +kernel

end Ignis.IncidentEngine
