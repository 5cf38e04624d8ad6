import Mathlib.Data.Nat.Notation
import Ignis.Database
import Ignis.FireVerifier
import Ignis.Protocol

-- The camera loop of the Pi and its stream to the laptop (`edge.py`). Clock readings are
-- nanoseconds; a call on the stream goes on until it waits for the network.
namespace Ignis.EdgeLoop
open Database Protocol

-- `time.monotonic_ns` counts in a signed 64-bit number.
abbrev Clock := { ns : ℕ // ns < 2 ^ 63 }

structure Arguments where
  deviceId : String
  bootId : String
  token : String

def hazardName : HazardState → String
  | .clear => "CLEAR"
  | .suspected => "SUSPECTED"
  | .verifying => "VERIFYING"
  | .confirmed => "CONFIRMED"
  | .visualSignatureLost => "VISUAL_SIGNATURE_LOST"
  | .resolved => "RESOLVED"
  | .degraded => "DEGRADED"

-- What a payload says, apart from its constant entries and the rounding of its numbers.
inductive Content where
  | hello (deviceId bootId deviceToken : String)
  | frame (deviceId : String) (frameSequence width height jpegQuality : ℕ) (jpeg : List UInt8)
  | detections (frameSequence monotonicNs : ℕ) (inferenceMs : ℚ) (detections : List (Detection ℚ))
  | incidentUpdate (fields : IncidentFields)
  | timelineEvent (incidentId eventType : String) (hazardState : HazardState)
  | healthUpdate (inferenceMs : ℚ)

def Content.packetType : Content → PacketType
  | .hello .. => .hello
  | .frame .. => .frame
  | .detections .. => .detections
  | .incidentUpdate _ => .incidentUpdate
  | .timelineEvent .. => .incidentTimelineEvent
  | .healthUpdate _ => .healthUpdate

-- A connection is in use, or waits in `receive_ack`. Connections are numbered as they are opened.
structure BackendStream where
  sequence : ℕ
  connection : Option ℕ
  handshake : Option ℕ
  nextReconnect : ℕ

inductive Call where
  | connect
  | send (content : Content) (monotonicNs : Clock)

structure StateRecord where
  monotonicNs : ℕ
  incidentId : String
  hazardState : HazardState
  fireConfidence : ℚ
  smokeConfidence : ℚ

-- The variables of `run`, with the calls on the stream that the current iteration still makes.
structure Pi where
  verifier : FireVerifier ℚ
  stream : BackendStream
  frameSequence : ℕ
  lastHealth : ℕ
  lastState : HazardState
  localLog : List StateRecord
  calls : List Call
  running : Bool

def launched (arguments : Arguments) : Pi where
  verifier := .created arguments.deviceId arguments.bootId
  stream := ⟨1,none,none,0⟩
  frameSequence := 0
  lastHealth := 0
  lastState := .clear
  localLog := []
  calls := [.connect]
  running := true

-- What an iteration reads: the clock, the camera, the detector, and the clock once more
-- when the health update is considered.
structure FrameInput where
  monotonicNs : Clock
  detections : List (Detection ℚ)
  inferenceMs : ℚ
  width : ℕ
  height : ℕ
  jpegQuality : ℕ
  jpeg : List UInt8
  healthNs : ℕ

def primaryBox (detections : List (Detection ℚ)) (className : String) : Option (List Number) :=
  match detections.filter fun item => item.className = className with
  | [] => none
  | first :: rest =>
    let best := rest.foldl (fun best item => if best.confidence < item.confidence then item else best) first
    let (xMin,yMin,xMax,yMax) := best.bbox
    some [((xMin : WithTop ℚ) : Number),((yMin : WithTop ℚ) : Number),((xMax : WithTop ℚ) : Number),
      ((yMax : WithTop ℚ) : Number)]

section Iteration
variable (arguments : Arguments) (pi : Pi) (input : FrameInput)

def verified : FireVerifier ℚ := pi.verifier.update input.monotonicNs.1 input.detections

-- The clock is never negative, so neither is the time of a first detection.
def incidentFields (incidentId : String) : IncidentFields :=
  let state := (verified pi input).state
  { incidentId := incidentId
    deviceId := some arguments.deviceId
    bootId := some arguments.bootId
    hazardState := state.hazardState
    responseState := if state.confirmed then .awaitingResponse else .idle
    firstDetectionMonotonicNs := state.firstDetectionNs.toNat
    updatedMonotonicNs := input.monotonicNs.1
    fireConfidence := ((state.fireConfidence : WithTop ℚ) : Number)
    smokeConfidence := ((state.smokeConfidence : WithTop ℚ) : Number)
    secondsPersistent := ((state.secondsPersistent : WithTop ℚ) : Number)
    firstZone := "Bahen Centre"
    currentZone := "Bahen Centre"
    primaryFireBbox := primaryBox input.detections "fire"
    primarySmokeBbox := primaryBox input.detections "smoke"
    fireRegionGrowthPercent := none
    smokeFirst := none
    smokeToFireDelaySeconds := none
    occupantVisible := none
    cameraHealth := "HEALTHY"
    inferenceHealth := "HEALTHY" }

def changed : Bool := (verified pi input).state.hazardState ≠ pi.lastState

def incidentContents : List Content :=
  match (verified pi input).state.incidentId with
  | none => []
  | some incidentId =>
    let hazardState := (verified pi input).state.hazardState
    .incidentUpdate (incidentFields arguments pi input incidentId) ::
      if changed pi input then [.timelineEvent incidentId ("POC_" ++ hazardName hazardState) hazardState] else []

def healthDue : Bool := pi.lastHealth + 1000000000 ≤ input.healthNs

def contents : List Content :=
  [.frame arguments.deviceId (pi.frameSequence + 1) input.width input.height input.jpegQuality input.jpeg,
    .detections (pi.frameSequence + 1) input.monotonicNs.1 input.inferenceMs input.detections] ++
  incidentContents arguments pi input ++
  if healthDue pi input then [.healthUpdate input.inferenceMs] else []

def stateRecord (incidentId : String) : StateRecord :=
  let state := (verified pi input).state
  ⟨input.monotonicNs.1,incidentId,state.hazardState,state.fireConfidence,state.smokeConfidence⟩

-- An iteration up to its first call on the stream. Nothing else reads what it leaves behind
-- before its last call is over.
def iterate : Pi :=
  if pi.running && pi.calls.isEmpty then
    let next := { pi with
      verifier := verified pi input
      frameSequence := pi.frameSequence + 1
      lastHealth := if healthDue pi input then input.healthNs else pi.lastHealth
      calls := (contents arguments pi input).map fun content => .send content input.monotonicNs }
    match (verified pi input).state.incidentId with
    | none => next
    | some incidentId =>
      if changed pi input then { next with
        lastState := (verified pi input).state.hazardState
        localLog := pi.localLog ++ [stateRecord pi input incidentId] }
      else next
  else pi

end Iteration

-- How the network answers: not at all, with everything accepted, or with an OSError after
-- some of the bytes were taken.
inductive Outcome where
  | refused
  | done
  | failed (written : ℕ)

inductive Wire where
  | nothing
  | opened (bytes : List UInt8)
  | written (connection : ℕ) (bytes : List UInt8)

def closed (stream : BackendStream) (now : Clock) : BackendStream :=
  { stream with connection := none, handshake := none, nextReconnect := now.1 + 2000000000 }

section Calls
variable (arguments : Arguments) (dumps : Content → List UInt8) (pi : Pi) (rest : List Call) (fresh : ℕ)
variable (now : Clock) (outcome : Outcome)

def packet (content : Content) (monotonicNs : Clock) : Packet :=
  ⟨content.packetType,0,pi.stream.sequence,monotonicNs.1,dumps content⟩

def greeting : Content := .hello arguments.deviceId arguments.bootId arguments.token

-- `struct.error` leaves the loop.
def stopped : Pi := { pi with stream := closed pi.stream now, calls := [], running := false }

def hungUp : Pi := { pi with stream := closed pi.stream now, calls := rest }

def numbered : Pi := { pi with stream := { pi.stream with sequence := pi.stream.sequence + 1 } }

def connect : Pi × Wire :=
  if now.1 < pi.stream.nextReconnect then ({ pi with calls := rest },.nothing)
  else match outcome with
  | .refused => (hungUp pi rest now,.nothing)
  | .done =>
    match encodePacket (packet dumps pi (greeting arguments) now) with
    | none => (stopped pi now,.opened [])
    | some bytes =>
      let next := numbered pi
      ({ next with stream := { next.stream with handshake := some fresh } },.opened bytes)
  | .failed written =>
    match encodePacket (packet dumps pi (greeting arguments) now) with
    | none => (stopped pi now,.opened [])
    | some bytes => (hungUp (numbered pi) rest now,.opened (bytes.take written))

def transmit (connection : ℕ) (content : Content) (monotonicNs : Clock) : Pi × Wire :=
  match encodePacket (packet dumps pi content monotonicNs) with
  | none => (stopped pi now,.nothing)
  | some bytes =>
    match outcome with
    | .done => ({ numbered pi with calls := rest },.written connection bytes)
    | .refused => (hungUp (numbered pi) rest now,.nothing)
    | .failed written => (hungUp (numbered pi) rest now,.written connection (bytes.take written))

def established (connection : ℕ) (call : Call) : Pi :=
  { pi with
    stream := { pi.stream with handshake := none, connection := some connection }
    calls := match call with
      | .connect => rest
      | .send .. => call :: rest }

-- The call at work goes on to its next wait. `acknowledged` says which HELLOs were answered.
def proceed (acknowledged : ℕ → Bool) : Pi × Wire :=
  match pi.calls with
  | [] => (pi,.nothing)
  | call :: rest =>
    match pi.stream.handshake with
    | some connection =>
      match outcome with
      | .done => if acknowledged connection then (established pi rest connection call,.nothing) else (pi,.nothing)
      | .refused | .failed _ => (hungUp pi rest now,.nothing)
    | none =>
      match call,pi.stream.connection with
      | .send content monotonicNs,some connection =>
        transmit dumps pi rest now outcome connection content monotonicNs
      | _,_ => connect arguments dumps pi rest fresh now outcome

end Calls

-- What a move of the call at work can do to the loop: it changes the stream, is over or ends the
-- loop, and calls for nothing more.
structure Moved (pi after : Pi) : Prop where
  others : after = { pi with stream := after.stream, calls := after.calls, running := after.running }
  calls : ∀ call ∈ after.calls, call ∈ pi.calls
  running : after.running = true → pi.running = true

section Moves
variable {arguments : Arguments} {dumps : Content → List UInt8} {pi : Pi} {call : Call} {rest : List Call} {fresh : ℕ}
variable {now : Clock} {outcome : Outcome} {stream : BackendStream}

theorem moved_tail (calls : pi.calls = call :: rest) : Moved pi { pi with stream := stream, calls := rest } :=
  ⟨rfl,fun other member => by rw [calls]; exact List.mem_cons_of_mem _ member,id⟩

theorem moved_same : Moved pi { pi with stream := stream } := ⟨rfl,fun _ member => member,id⟩

theorem moved_stopped : Moved pi (stopped pi now) := by
  refine ⟨rfl,?_,?_⟩
  · intro call member
    cases member
  · intro running
    cases running

theorem moved_connect (calls : pi.calls = call :: rest) : Moved pi (connect arguments dumps pi rest fresh now outcome).1 := by
  unfold connect
  split
  · exact moved_tail calls
  · cases outcome with
    | refused => exact moved_tail calls
    | done =>
      cases encodePacket (packet dumps pi (greeting arguments) now) with
      | none => exact moved_stopped
      | some bytes => exact moved_same
    | failed written =>
      cases encodePacket (packet dumps pi (greeting arguments) now) with
      | none => exact moved_stopped
      | some bytes => exact moved_tail calls

theorem moved_transmit {connection : ℕ} {content : Content} {monotonicNs : Clock} (calls : pi.calls = call :: rest) :
    Moved pi (transmit dumps pi rest now outcome connection content monotonicNs).1 := by
  unfold transmit
  cases encodePacket (packet dumps pi content monotonicNs) with
  | none => exact moved_stopped
  | some bytes =>
    cases outcome with
    | refused => exact moved_tail calls
    | done => exact moved_tail calls
    | failed written => exact moved_tail calls

theorem moved_established {connection : ℕ} (calls : pi.calls = call :: rest) : Moved pi (established pi rest connection call) := by
  cases call with
  | connect => exact moved_tail calls
  | send content monotonicNs => exact ⟨rfl,fun other member => by rw [calls]; exact member,id⟩

theorem moved_proceed {acknowledged : ℕ → Bool} : Moved pi (proceed arguments dumps pi fresh now outcome acknowledged).1 := by
  unfold proceed
  cases calls : pi.calls with
  | nil => exact moved_same
  | cons call rest =>
    cases pi.stream.handshake with
    | some connection =>
      cases outcome with
      | done =>
        simp only
        split
        · exact moved_established calls
        · exact moved_same
      | refused => exact moved_tail calls
      | failed written => exact moved_tail calls
    | none =>
      cases call with
      | connect => exact moved_connect calls
      | send content monotonicNs =>
        cases pi.stream.connection with
        | none => exact moved_connect calls
        | some connection => exact moved_transmit calls

end Moves
end Ignis.EdgeLoop
