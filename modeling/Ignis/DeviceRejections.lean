import Ignis.BackendRecords
import Ignis.DeviceSession

-- An unarmed backend drops an update without a word, and rejects the timeline event that follows it.
namespace Ignis.DeviceLink
open Framing Protocol Backend Database DeviceServer EdgeLoop Runs Tables

def delivered (setup : Setup) (system : System) (connection : ℕ) : Option DevicePacket :=
  match queued system connection with
  | none => none
  | some (link,packet,_) =>
    if packet.sequence ≤ link.handler.lastSequence then none
    else link.handler.hello.map fun _ => setup.decoders.device packet.packetType packet.monotonicNs packet.payload

def enrol (setup : Setup) (system : System) (input : Input) (admitted : List String) : List String :=
  match input with
  | .handle connection _ =>
    match delivered setup system connection with
    | some (.incidentUpdate data) => if system.app.armed then data.incidentId :: admitted else admitted
    | _ => admitted
  | _ => admitted

def overfull (setup : Setup) (system : System) (connection count : ℕ) : Bool :=
  match arriving system connection count with
  | none => false
  | some (link,chunk) =>
    setup.device.maxPayloadBytes + headerSize < link.handler.parser.buffer.length + chunk.length

def tolerated (setup : Setup) (system : System) (admitted : List String) (input : Input) : Bool :=
  match input with
  | .read connection count => !overfull setup system connection count
  | .handle connection _ =>
    match delivered setup system connection with
    | some (.timelineEvent event) => event.incidentId ∈ admitted
    | _ => true
  | _ => true

def stores (db : Database) (incidentId : String) : Bool := (db.getIncident incidentId).isSome

def brings (app : App) (packet : DevicePacket) (incidentId : String) : Bool :=
  match packet with
  | .incidentUpdate data => app.armed && incidentId = data.incidentId
  | _ => false

section Backend
variable {settings : Communications.Settings} {app : App} {now : Time} {tick : Tick} {incidentId : String}

theorem stores_response (db : Database) (incidentId : String) : stores db incidentId = (response db incidentId).isSome := by
  simp [stores,response]

theorem stores_step (ours : ∀ hello packet, tick.input ≠ .packet hello packet) :
    stores (Backend.step settings app tick).database incidentId = stores app.database incidentId := by
  rw [stores_response,stores_response,response_rows (step_rows settings app tick)]
  cases same : effect settings app tick with
  | nothing => rfl
  | upserted data deviceId bootId =>
    have caused := effect_caused settings app tick
    rw [same] at caused
    cases caused with
    | update armed => exact absurd rfl (ours _ _)
  | responded other responseState occupantResponse hazardState =>
    rw [response_responded]
    split <;> simp
  | called other =>
    obtain ⟨r,_,after⟩ := response_called settings app.database tick.now other
    rw [after]
    split <;> simp
  | reported attemptId report =>
    obtain ⟨attempt,r,_,_,_,after⟩ | ⟨_,unchanged⟩ := reported_cases settings app.database tick.now attemptId report
    · rw [after]
      split <;> simp
    · rw [unchanged]

theorem stores_upsert {data : IncidentUpdate} {deviceId bootId : String} {db : Database}
    (upserted : app.database.upsertIncident now data deviceId bootId = some db) :
    stores db incidentId = (stores app.database incidentId || decide (incidentId = data.incidentId)) := by
  unfold upsertIncident at upserted
  split at upserted
  · cases upserted
    simp only [stores,getIncident,Table.find_upsert,insertedIncident]
    by_cases same : incidentId = data.incidentId <;> simp [same]
  · cases upserted

theorem stores_event {eventType source : String} {monotonicNs : Option ℕ} {occurredAt : Option String} {db : Database} {other : String}
    (added : app.database.addEvent now other eventType source monotonicNs occurredAt = some db) :
    stores db incidentId = stores app.database incidentId := by
  unfold addEvent at added
  split at added
  · cases added
    rfl
  · cases added

theorem dispatch_cases (app : App) (now : Time) (hello : Hello) {packet : DevicePacket} (safe : harmless packet = true) :
    (∃ event text, packet = .timelineEvent event ∧ stores app.database event.incidentId = false ∧
      dispatch app now hello packet = .error (.protocolError text)) ∨
    ∃ next, dispatch app now hello packet = .ok next ∧
      (∀ event, packet = .timelineEvent event → stores app.database event.incidentId = true) ∧
      ∀ incidentId, stores next.database incidentId = (stores app.database incidentId || brings app packet incidentId) := by
  cases packet with
  | incidentUpdate data =>
    refine .inr ?_
    cases armed : app.armed with
    | false => exact ⟨app,by simp [dispatch,armed],by rintro _ ⟨⟩,fun incidentId => by simp [brings,armed]⟩
    | true =>
      cases upserted : app.database.upsertIncident now data hello.deviceId hello.bootId with
      | none => simp only [harmless] at safe; simp [upsertIncident,safe] at upserted
      | some db =>
        refine ⟨_,by simp only [dispatch,armed,upserted]; rfl,by rintro _ ⟨⟩,fun incidentId => ?_⟩
        simp only [stores_upsert upserted,brings,armed,Bool.true_and]
  | timelineEvent event =>
    cases found : app.database.getIncident event.incidentId with
    | none => exact .inl ⟨event,"timeline event references unknown incident",rfl,by simp [stores,found],by simp only [dispatch,found]⟩
    | some stored =>
      refine .inr ?_
      have known : stores app.database event.incidentId = true := by simp [stores,found]
      cases added : app.database.addEvent now event.incidentId (event.eventType.getD "DEVICE_EVENT") "qnx"
          (some event.monotonicNs) event.wallTimeUtc with
      | none => simp only [harmless] at safe; simp [addEvent,found,safe] at added
      | some db =>
        refine ⟨_,by simp only [dispatch,found,added]; rfl,?_,fun incidentId => ?_⟩
        · rintro other same
          cases same
          exact known
        · simp only [stores_event added,brings,Bool.or_false]
  | invalidUpdate error => cases safe
  | malformed error => cases safe
  | unexpected packetType => cases safe
  | _ => exact .inr ⟨app,rfl,by rintro _ ⟨⟩,fun incidentId => by simp [brings]⟩

end Backend

variable {setup : Setup} {system : System} {connection count : ℕ} {now : Time} {admitted : List String} {input : Input}

theorem handle_effect (connection : ℕ) (now : Time) (configured : Configured setup) (sound : Sound setup system) :
    (∃ event text, delivered setup system connection = some (.timelineEvent event) ∧
      stores system.app.database event.incidentId = false ∧
      (handle setup system connection now).app = system.app ∧
      (handle setup system connection now).rejections = system.rejections ++ [text]) ∨
    ((handle setup system connection now).rejections = system.rejections ∧
      (∀ event, delivered setup system connection = some (.timelineEvent event) →
        stores system.app.database event.incidentId = true) ∧
      ∀ incidentId, stores (handle setup system connection now).app.database incidentId =
        (stores system.app.database incidentId ||
          (delivered setup system connection).any fun packet => brings system.app packet incidentId)) := by
  unfold handle delivered
  cases takes : queued system connection with
  | none => exact .inr ⟨rfl,by rintro _ ⟨⟩,fun _ => by simp⟩
  | some triple =>
    obtain ⟨link,packet,rest⟩ := triple
    obtain ⟨found,running,queue⟩ := queued_parts takes
    obtain ⟨packets,pending⟩ := sound.served connection link found running
    have order : ¬ (packet.sequence : ℤ) ≤ link.handler.lastSequence := in_order pending queue
    simp only [if_neg order]
    rcases handle_cases configured pending queue system.app now with
      ⟨unknown,refused⟩ | ⟨hello,_,⟨unknown,greeted⟩ | ⟨known,ofLoop,dispatched⟩⟩
    · refine .inr ?_
      simp only [refused,unknown,Option.map_none]
      exact ⟨rfl,by rintro _ ⟨⟩,fun _ => by simp [halt]⟩
    · refine .inr ?_
      simp only [greeted,unknown,Option.map_none]
      exact ⟨rfl,by rintro _ ⟨⟩,fun _ => by simp⟩
    · simp only [known,Option.map_some,dispatched]
      rcases dispatch_cases system.app now hello ofLoop with
        ⟨event,text,same,absent,rejected⟩ | ⟨next,taken,there,grows⟩
      · refine .inl ⟨event,text,congrArg some same,absent,?_⟩
        rw [rejected]
        exact ⟨rfl,rfl⟩
      · refine .inr ?_
        rw [taken]
        refine ⟨rfl,fun event same => there event (Option.some.inj same),fun incidentId => ?_⟩
        simpa using grows incidentId

theorem read_effect (connection count : ℕ) (sound : Sound setup system) : (read system connection count).app = system.app ∧
    ((overfull setup system connection count = true ∧
      ∃ text, (read system connection count).rejections = system.rejections ++ [text]) ∨
    (overfull setup system connection count = false ∧ (read system connection count).rejections = system.rejections)) := by
  unfold read overfull
  cases arrives : arriving system connection count with
  | none => exact ⟨rfl,.inr ⟨rfl,rfl⟩⟩
  | some pair =>
    obtain ⟨link,chunk⟩ := pair
    obtain ⟨found,running,drained,rfl⟩ := arriving_parts arrives
    obtain ⟨packets,pending⟩ := sound.served connection link found running
    by_cases above : setup.device.maxPayloadBytes + headerSize <
        link.handler.parser.buffer.length + (link.flight.take count).length
    · simp only [overfull_refused pending above]
      exact ⟨rfl,.inl ⟨decide_eq_true above,_,rfl⟩⟩
    · obtain ⟨handler,left,feeds,_,_,_⟩ := read_pending pending drained (not_lt.mp above)
      simp only [feeds]
      exact ⟨rfl,.inr ⟨decide_eq_false above,rfl⟩⟩

theorem backend_effect {tick : Tick} : (backend setup system tick).rejections = system.rejections ∧
    ∀ incidentId, stores (backend setup system tick).app.database incidentId = stores system.app.database incidentId := by
  unfold backend
  split
  · exact ⟨rfl,fun _ => rfl⟩
  · rename_i restarts
    exact ⟨rfl,fun _ => stores_step (by simp [restarts])⟩
  · rename_i ours _
    exact ⟨rfl,fun _ => stores_step ours⟩

def Known (seen : System × List String) : Prop :=
  ∀ incidentId, incidentId ∈ seen.2 ↔ stores seen.1.app.database incidentId = true

theorem mem_enrol {incidentId : String} : incidentId ∈ enrol setup system (.handle connection now) admitted ↔
    incidentId ∈ admitted ∨ (delivered setup system connection).any (fun packet => brings system.app packet incidentId) = true := by
  simp only [enrol]
  generalize delivered setup system connection = arrives
  cases arrives with
  | none => simp
  | some packet =>
    cases packet with
    | incidentUpdate data => cases armed : system.app.armed <;> simp [brings,armed,or_comm]
    | _ => simp [brings]

theorem known_step (configured : Configured setup) (sound : Sound setup system) (known : Known (system,admitted)) :
    Known (observed (step setup) (enrol setup) (system,admitted) input) := by
  intro incidentId
  have before := known incidentId
  cases input with
  | handle connection now =>
    simp only [observed,step,mem_enrol,before]
    rcases handle_effect connection now configured sound with
      ⟨event,_,arrives,_,same,_⟩ | ⟨_,_,grows⟩
    · rw [same,arrives]
      simp [brings]
    · rw [grows,Bool.or_eq_true]
  | read connection count =>
    simp only [observed,step,enrol,(read_effect connection count sound).1]
    exact before
  | backend tick =>
    simp only [observed,step,enrol,backend_effect.2]
    exact before
  | frame input => exact before
  | proceed now outcome => exact before
  | lost connection => exact before

theorem tolerated_step (configured : Configured setup) (sound : Sound setup system) (known : Known (system,admitted))
    (accepted : system.rejections = []) :
    (step setup system input).rejections = [] ↔ tolerated setup system admitted input = true := by
  cases input with
  | handle connection now =>
    simp only [step,tolerated]
    rcases handle_effect connection now configured sound with
      ⟨event,text,arrives,absent,_,rejected⟩ | ⟨same,there,_⟩
    · have unknown : ¬ event.incidentId ∈ admitted := fun member => by
        have stored := (known _).mp member
        simp only [absent] at stored
        cases stored
      simp [rejected,arrives,unknown]
    · rw [same]
      cases arrives : delivered setup system connection with
      | none => simp [accepted]
      | some packet =>
        cases packet with
        | timelineEvent event => simpa [accepted] using (known _).mpr (there event arrives)
        | _ => simp [accepted]
  | read connection count =>
    simp only [step,tolerated]
    rcases (read_effect connection count sound).2 with ⟨above,text,rejected⟩ | ⟨within,same⟩
    · simp [above,rejected]
    · simp [within,same,accepted]
  | backend tick => simp [step,tolerated,backend_effect.1,accepted]
  | frame input => simp [step,tolerated,accepted]
  | proceed now outcome => simp [step,tolerated,accepted]
  | lost connection => simp [step,tolerated,halt,accepted]

-- No read larger than the parser's buffer allows, and no timeline event of an incident that the armed backend
-- has not had.
theorem device_kept_iff (setup : Setup) (configured : Configured setup) (inputs : List Input)
    (well : Along (step setup) (WellFormed setup) (start setup) inputs) :
    Throughout (step setup) (fun system => system.rejections = []) (start setup) inputs ↔
      Along (observed (step setup) (enrol setup)) (fun seen input => tolerated setup seen.1 seen.2 input = true)
        (start setup,[]) inputs := by
  rw [← observed_throughout]
  have within : Along (observed (step setup) (enrol setup)) (fun seen input => WellFormed setup seen.1 input)
    (start setup,[]) inputs := observed_along.mpr well
  refine throughout_iff_within (fun seen => Sound setup seen.1 ∧ Known seen) ?_ ?_ within ⟨sound_start,?_⟩ rfl
  · rintro ⟨system,admitted⟩ input fine ⟨sound,known⟩
    exact ⟨sound_step configured sound fine,known_step configured sound known⟩
  · rintro ⟨system,admitted⟩ input _ ⟨sound,known⟩ accepted
    exact tolerated_step configured sound known accepted
  · intro incidentId
    simp [start,fresh,Backend.launched,initialized,stores,getIncident]

-- The Pi and the backend with the numbers of the repository's examples. Payloads are written as
-- Python writes them, for numbers of at most two decimals.
def textBytes (text : String) : List UInt8 := text.toList.map fun c => UInt8.ofNat c.toNat
def quoted (text : String) : List UInt8 := [34] ++ textBytes text ++ [34]
def natural (n : ℕ) : List UInt8 := textBytes (toString n)

def bracketed (opening closing : UInt8) (values : List (List UInt8)) : List UInt8 :=
  [opening] ++ [44].intercalate values ++ [closing]

def object (fields : List (String × List UInt8)) : List UInt8 :=
  bracketed 123 125 (fields.map fun (key,value) => quoted key ++ [58] ++ value)

def decimal (x : ℚ) : List UInt8 :=
  let cents := (x * 100).floor.toNat
  let last := if cents % 10 = 0 then "" else toString (cents % 10)
  textBytes (toString (cents / 100) ++ "." ++ toString (cents / 10 % 10) ++ last)

def number (x : Number) : List UInt8 :=
  match x with
  | some (some x) => decimal x
  | _ => textBytes "null"

def box (bbox : Option (List Number)) : List UInt8 :=
  match bbox with
  | none => textBytes "null"
  | some corners => bracketed 91 93 (corners.map number)

def detectionObject (item : Detection ℚ) : List UInt8 :=
  let (xMin,yMin,xMax,yMax) := item.bbox
  object [("class_name",quoted item.className),("class_id",textBytes (toString item.classId)),
    ("confidence",decimal item.confidence),
    ("bbox",object [("x_min",decimal xMin),("y_min",decimal yMin),("x_max",decimal xMax),("y_max",decimal yMax)])]

def incidentObject (fields : IncidentFields) : List UInt8 :=
  let null := textBytes "null"
  let responseState := if fields.responseState = .idle then "IDLE" else "AWAITING_RESPONSE"
  object [("incident_id",quoted fields.incidentId),("device_id",quoted (fields.deviceId.getD "")),
    ("boot_id",quoted (fields.bootId.getD "")),("hazard_state",quoted (hazardName fields.hazardState)),
    ("response_state",quoted responseState),("first_detection_monotonic_ns",natural fields.firstDetectionMonotonicNs),
    ("updated_monotonic_ns",natural fields.updatedMonotonicNs),("fire_confidence",number fields.fireConfidence),
    ("smoke_confidence",number fields.smokeConfidence),("seconds_persistent",number fields.secondsPersistent),
    ("first_zone",quoted fields.firstZone),("current_zone",quoted fields.currentZone),
    ("primary_fire_bbox",box fields.primaryFireBbox),("primary_smoke_bbox",box fields.primarySmokeBbox),
    ("fire_region_growth_percent",null),("smoke_first",null),("smoke_to_fire_delay_seconds",null),
    ("occupant_visible",null),("camera_health",quoted fields.cameraHealth),
    ("inference_health",quoted fields.inferenceHealth)]

def jsonDumps : Content → List UInt8
  | .hello deviceId bootId token =>
    object [("device_id",quoted deviceId),("boot_id",quoted bootId),("protocol_version",natural 1),
      ("software_version",quoted "poc-0.1.0"),("device_token",quoted token),
      ("capabilities",bracketed 91 93 [quoted "poc_camera",quoted "tflite_fire_detection",quoted "jpeg_stream"])]
  | .frame deviceId frameSequence width height jpegQuality jpeg =>
    let metadata := object [("device_id",quoted deviceId),("frame_sequence",natural frameSequence),
      ("width",natural width),("height",natural height),("jpeg_quality",natural jpegQuality),
      ("detections_reference",natural frameSequence),("source_mode",quoted "QNX_POC")]
    bigEndian 4 metadata.length ++ metadata ++ jpeg
  | .detections frameSequence monotonicNs inferenceMs detections =>
    object [("frame_sequence",natural frameSequence),("monotonic_ns",natural monotonicNs),
      ("inference_duration_ms",decimal inferenceMs),("detections",bracketed 91 93 (detections.map detectionObject))]
  | .incidentUpdate fields => incidentObject fields
  | .timelineEvent incidentId eventType hazardState =>
    object [("incident_id",quoted incidentId),("event_type",quoted eventType),
      ("hazard_state",quoted (hazardName hazardState))]
  | .healthUpdate inferenceMs =>
    object [("status",quoted "HEALTHY"),("camera",quoted "HEALTHY"),("inference",quoted "HEALTHY"),
      ("incident_engine",quoted "POC"),("stream",quoted "HEALTHY"),("inference_latency_ms",decimal inferenceMs),
      ("watchdog_restart_count",natural 0),("source_mode",quoted "QNX_POC")]

def sampleArguments : Arguments := ⟨"ignis-qnxpi-01","0a1b2c3d","replace-me"⟩

def sampleFrame : FrameInput where
  monotonicNs := ⟨20000000000,by decide⟩
  detections := [⟨"fire",0,0.75,(0.25,0.25,0.5,0.5)⟩]
  inferenceMs := 12.5
  width := 640
  height := 480
  jpegQuality := 75
  jpeg := [255,216,255,217]
  healthNs := 20100000000

def sampleContents : Table Content.packetType where
  rows := contents sampleArguments (EdgeLoop.launched sampleArguments) sampleFrame
  distinct := by decide +kernel

def validated (fields : IncidentFields) : Option IncidentUpdate :=
  if bounds : (1 ≤ fields.incidentId.length ∧ fields.incidentId.length ≤ 160) ∧
      (∀ id ∈ fields.deviceId, id.length ≤ 80) ∧ (∀ id ∈ fields.bootId, id.length ≤ 80) ∧
      (0 ≤ fields.fireConfidence ∧ fields.fireConfidence ≤ 1) ∧ (0 ≤ fields.smokeConfidence ∧ fields.smokeConfidence ≤ 1) ∧
      0 ≤ fields.secondsPersistent ∧ fields.firstZone.length ≤ 48 ∧ fields.currentZone.length ≤ 48 ∧
      fields.cameraHealth.length ≤ 32 ∧ fields.inferenceHealth.length ≤ 32 then
    some ⟨fields,bounds.1,bounds.2.1,bounds.2.2.1,bounds.2.2.2.1,bounds.2.2.2.2.1,bounds.2.2.2.2.2.1,bounds.2.2.2.2.2.2.1,
      bounds.2.2.2.2.2.2.2.1,bounds.2.2.2.2.2.2.2.2.1,bounds.2.2.2.2.2.2.2.2.2⟩
  else none

def decoded (content : Content) (monotonicNs : ℕ) : DevicePacket :=
  match content with
  | .hello .. => .unexpected "HELLO"
  | .frame .. => .frame
  | .detections .. => .detections
  | .incidentUpdate fields => ((validated fields).map DevicePacket.incidentUpdate).getD (.invalidUpdate "validation error")
  | .timelineEvent incidentId eventType _ => .timelineEvent ⟨incidentId,some eventType,monotonicNs,none⟩
  | .healthUpdate _ => .healthUpdate

def sampleDecoders : Decoders where
  json bytes :=
    if bytes = jsonDumps (greeting sampleArguments) then .ok (greetingFields sampleArguments)
    else .error "invalid JSON payload"
  device packetType monotonicNs bytes :=
    match sampleContents.find packetType with
    | none => .malformed "invalid JSON payload"
    | some content => if bytes = jsonDumps content then decoded content monotonicNs else .malformed "invalid JSON payload"

def sampleSetup : Setup where
  arguments := sampleArguments
  communications := demoSettings
  device := ⟨"ignis-qnxpi-01","replace-me",2097152⟩
  dumps := jsonDumps
  decoders := sampleDecoders

theorem sample_sendable :
    ∀ content ∈ greeting sampleSetup.arguments :: sampleContents.rows, sendable sampleSetup content = true := by
  decide +kernel

theorem sample_greeting : sendable sampleSetup (greeting sampleSetup.arguments) = true :=
  sample_sendable _ (List.mem_cons_self ..)

theorem sample_json {bytes : List UInt8} (written : bytes = jsonDumps (greeting sampleArguments)) :
    sampleDecoders.json bytes = .ok (greetingFields sampleArguments) := if_pos written

theorem sample_configured : Configured sampleSetup where
  device := rfl
  token := rfl
  size := (sendable_sizes sample_greeting).1
  text := sample_json rfl

theorem sample_received {content : Content} (member : content ∈ sampleContents.rows) (monotonicNs : ℕ) :
    received sampleSetup content monotonicNs = decoded content monotonicNs := by
  have found : sampleContents.find content.packetType = some content := Table.find_iff.mpr ⟨member,rfl⟩
  have reads : sampleDecoders.device content.packetType monotonicNs (jsonDumps content) =
      match sampleContents.find content.packetType with
      | none => .malformed "invalid JSON payload"
      | some other => if jsonDumps content = jsonDumps other then decoded other monotonicNs
        else .malformed "invalid JSON payload" := rfl
  show sampleDecoders.device content.packetType monotonicNs (jsonDumps content) = _
  rw [reads,found]
  exact if_pos rfl

theorem sample_plain : ascii sampleSetup.device.deviceToken = true := by decide +kernel

theorem sample_understood : ∀ content ∈ sampleContents.rows,
    understood content sampleFrame.monotonicNs.1 (decoded content sampleFrame.monotonicNs.1) = true := by
  decide +kernel

theorem sample_wellFormed : FrameWellFormed sampleSetup (EdgeLoop.launched sampleArguments) sampleFrame := by
  intro content member
  have fits := sample_sendable content (List.mem_cons_of_mem _ member)
  simp only [sendable,Bool.and_eq_true] at fits
  rw [wellFormed,Bool.and_eq_true,sample_received member]
  exact ⟨fits.1,sample_understood content member⟩

-- The Pi has connected, and its first iteration sees the fire.
def moment : Clock := ⟨10000000000,by decide⟩
def firstFrame : List Input := connecting moment ++ [.frame sampleFrame]

theorem sample_along : Along (step sampleSetup) (WellFormed sampleSetup) (start sampleSetup) firstFrame := by
  obtain ⟨handler,_,_,pi,_,_,_⟩ := connected_start sample_configured sample_plain (sendable_sizes sample_greeting).2 moment
  refine along_snoc.mpr ⟨⟨trivial,trivial,trivial,trivial,trivial⟩,?_⟩
  show FrameWellFormed sampleSetup (run (step sampleSetup) (start sampleSetup) (connecting moment)).pi sampleFrame
  rw [pi]
  exact sample_wellFormed

theorem sample_kept :
    Throughout (step sampleSetup) (fun system => system.rejections = []) (start sampleSetup) firstFrame ↔
      Along (observed (step sampleSetup) (enrol sampleSetup))
        (fun seen input => tolerated sampleSetup seen.1 seen.2 input = true) (start sampleSetup,[]) firstFrame :=
  device_kept_iff sampleSetup sample_configured firstFrame sample_along

-- The backend is unarmed, as it starts. The frame, its detections and the update go over
-- without a word, and the timeline event ends the connection.
def firstFire : List Input := firstFrame ++ (cycles 0 moment 3 ++ cycle 0 moment)

section Unarmed
variable {content : Content} {hello : Hello} {now : Time} {monotonicNs : ℕ}

theorem unarmed_quiet (understands : understood content monotonicNs (decoded content monotonicNs) = true)
    (other : content.packetType ≠ .incidentTimelineEvent) :
    dispatch fresh now hello (decoded content monotonicNs) = .ok fresh := by
  cases content with
  | hello deviceId bootId token => cases understands
  | timelineEvent incidentId eventType hazardState => exact absurd rfl other
  | incidentUpdate fields =>
    simp only [decoded] at understands ⊢
    cases found : validated fields with
    | none => simp [found,understood] at understands
    | some data => rfl
  | _ => rfl

theorem unarmed_rejects (event : content.packetType = .incidentTimelineEvent) :
    dispatch fresh now hello (decoded content monotonicNs) =
      .error (.protocolError "timeline event references unknown incident") := by
  cases content with
  | timelineEvent incidentId eventType hazardState => rfl
  | _ => cases event

end Unarmed

theorem sample_split : ∃ early event late, sampleContents.rows = early ++ event :: late ∧ early.length = 3 ∧
    (∀ content ∈ early, content.packetType ≠ .incidentTimelineEvent) ∧ event.packetType = .incidentTimelineEvent := by
  have types : sampleContents.rows.map Content.packetType =
      [.frame,.detections,.incidentUpdate,.incidentTimelineEvent,.healthUpdate] := by decide +kernel
  generalize sampleContents.rows = rows at types
  obtain ⟨early,later,rfl,first,second⟩ := List.map_eq_append_iff.mp (show rows.map Content.packetType =
    [.frame,.detections,.incidentUpdate] ++ [.incidentTimelineEvent,.healthUpdate] from types)
  obtain ⟨event,late,rfl,kind,_⟩ := List.map_eq_cons_iff.mp second
  refine ⟨early,event,late,rfl,by simpa using congrArg List.length first,fun content member => ?_,kind⟩
  have known := List.mem_map_of_mem (f := Content.packetType) member
  rw [first] at known
  intro same
  rw [same] at known
  simp at known

theorem fire_rejected : Configured sampleSetup ∧
    Along (step sampleSetup) (WellFormed sampleSetup) (start sampleSetup) firstFire ∧
    ¬ Throughout (step sampleSetup) (fun system => system.rejections = []) (start sampleSetup) firstFire := by
  refine ⟨sample_configured,along_append.mpr ⟨sample_along,?_⟩,fun kept => ?_⟩
  · simp [cycles,cycle,List.replicate,WellFormed]
  · obtain ⟨early,event,late,split,three,others,kind⟩ := sample_split
    obtain ⟨hello,linked,app,rejections,sequence⟩ :=
      linked_frame sampleFrame sample_configured sample_plain (sendable_sizes sample_greeting).2 moment
    have inside : ∀ content ∈ early, content ∈ sampleContents.rows := fun content member => by
      rw [split]
      exact List.mem_append_left _ member
    have there : event ∈ sampleContents.rows := by simp [split]
    have calls : sends sampleContents.rows sampleFrame.monotonicNs =
        sends early sampleFrame.monotonicNs ++ .send event sampleFrame.monotonicNs :: sends late sampleFrame.monotonicNs := by
      rw [split]
      simp [sends]
    have sized : ∀ content ∈ early, sendable sampleSetup content = true :=
      fun content member => sample_sendable content (List.mem_cons_of_mem _ (inside content member))
    change Linked sampleSetup _ 0 hello (sends sampleContents.rows sampleFrame.monotonicNs) at linked
    rw [calls] at linked
    have quiet : ∀ content ∈ early, dispatch fresh moment.1 hello (received sampleSetup content sampleFrame.monotonicNs.1) =
        .ok fresh := by
      intro content member
      rw [sample_received (inside content member)]
      exact unarmed_quiet (sample_understood content (inside content member)) (others content member)
    have rejects : dispatch fresh moment.1 hello (received sampleSetup event sampleFrame.monotonicNs.1) =
        .error (.protocolError "timeline event references unknown incident") := by
      rw [sample_received there]
      exact unarmed_rejects kind
    have ends := cycles_rejected linked sized (sample_sendable event (List.mem_cons_of_mem _ there))
      (by rw [sequence,three]; decide) (app.symm ▸ quiet) (app.symm ▸ rejects)
    have last : (run (step sampleSetup) (start sampleSetup) firstFire).rejections = [] := kept.last
    rw [firstFire,run_append,← three] at last
    exact absurd (last.symm.trans ends) (by simp [rejections])

end Ignis.DeviceLink
