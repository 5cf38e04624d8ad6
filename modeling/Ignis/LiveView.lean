import Ignis.TaskExclusion
import Mathlib.Data.List.Sort

-- The backend with its dashboards: `WebSocketHub` and what of the backend broadcasts an
-- incident, and the incidents in the reducer of each dashboard (`state.ts`).
namespace Ignis.LiveView
open Database Escalation Backend

inductive Message where
  | systemSnapshot (incidents : List IncidentRow)
  | incidentUpdate (incident : IncidentRow)
  | frame
  | detections
  | timelineEvent
  | healthUpdate
  | armingUpdate
  | callUpdate
  | configurationUpdate
  | error

-- `Date.parse` of a stored time: milliseconds.
def dateParse (time : Time) : ℕ := time / 1000

def replaceIncident (incidents : List IncidentRow) (update : IncidentRow) : List IncidentRow :=
  (update :: incidents.filter fun incident => incident.incidentId ≠ update.incidentId).insertionSort
    fun left right => dateParse right.updatedAt ≤ dateParse left.updatedAt

def reducer (incidents : List IncidentRow) : Message → List IncidentRow
  | .systemSnapshot snapshot => snapshot
  | .incidentUpdate incident => replaceIncident incidents incident
  | .frame | .detections | .timelineEvent | .healthUpdate | .armingUpdate | .callUpdate | .configurationUpdate | .error => incidents

-- JSON has no number that is not finite: `json.dumps` writes one anyway, and `JSON.parse` throws.
def finite (value : Number) : Bool := value ≠ ⊤ && value ≠ ⊥

def readable (row : IncidentRow) : Bool :=
  finite row.peakFireConfidence && finite row.peakSmokeConfidence && finite row.secondsPersistent &&
  row.maxGrowthPercent.all finite && row.smokeToFireDelaySeconds.all finite &&
  row.primaryFireBbox.all (fun bbox => bbox.all finite) && row.primarySmokeBbox.all fun bbox => bbox.all finite

def Message.readable : Message → Bool
  | .systemSnapshot incidents => incidents.all LiveView.readable
  | .incidentUpdate incident => LiveView.readable incident
  | .frame | .detections | .timelineEvent | .healthUpdate | .armingUpdate | .callUpdate | .configurationUpdate | .error => true

-- `onmessage`, which passes over what it cannot parse.
def receive (incidents : List IncidentRow) (message : Message) : List IncidentRow :=
  if message.readable then reducer incidents message else incidents

def listIncidents (db : Database) (limit : ℕ) : List IncidentRow :=
  (db.incidents.rows.insertionSort fun left right => right.updatedAt ≤ left.updatedAt).take limit

-- A row that a handler, or a response task, has read after its write and will broadcast when
-- its awaits before that are over.
structure Captured where
  row : IncidentRow
  task : Option ℕ

-- `clients` are the dashboards that got their snapshot, each with its incidents.
structure Live where
  app : App
  captured : List Captured
  clients : List (List IncidentRow)

def opened (app : App) : Live := ⟨app,[],[]⟩

def Live.broadcast (live : Live) (message : Message) : Live :=
  { live with clients := live.clients.map fun incidents => receive incidents message }

-- The handlers that announce the row they have changed: the three actions, and `_wait` for
-- which nobody answered.
def announces (app : App) (tick : Tick) : Option (String × Option ℕ) :=
  match tick.input with
  | .confirm allowed incidentId source =>
    if (confirm app tick.now allowed incidentId source).isOk then some (incidentId,none) else none
  | .cancel allowed incidentId reason source =>
    if (cancel app tick.now allowed incidentId reason source).isOk then some (incidentId,none) else none
  | .reset allowed incidentId =>
    if (reset app tick.now allowed incidentId).isOk then some (incidentId,none) else none
  | .resume id =>
    match turn app id with
    | none => none
    | some task =>
      if task.phase = .sleeping && (app.database.getIncident task.incidentId).any unanswered then
        some (task.incidentId,some id) else none
  | _ => none

def capture (app next : App) (tick : Tick) : List Captured :=
  match announces app tick with
  | none => []
  | some (incidentId,task) => ((next.database.getIncident incidentId).map fun row => ⟨row,task⟩).toList

-- A response task that is cancelled does not get to its broadcast.
def survivors (app : App) (tick : Tick) (captured : List Captured) : List Captured :=
  match answersFor app tick with
  | none => captured
  | some incidentId =>
    captured.filter fun kept => (app.timeoutManager.registered.find incidentId).all fun entry => kept.task ≠ some entry.task

-- A device update is read back and broadcast without an await in between.
def updated (app next : App) (tick : Tick) : Option IncidentRow :=
  match tick.input with
  | .packet hello (.incidentUpdate data) =>
    if app.armed && (app.database.upsertIncident tick.now data hello.deviceId hello.bootId).isSome then
      next.database.getIncident data.incidentId else none
  | _ => none

-- A task makes its call only after its announcement.
def Live.announcing (live : Live) (tick : Tick) : Bool :=
  match tick.input with
  | .resume id => live.captured.any fun kept => kept.task = some id
  | _ => false

variable (settings : Communications.Settings)

def Live.backend (live : Live) (tick : Tick) : Live :=
  let next := Backend.step settings live.app tick
  let written := { live with
    app := next
    captured := survivors live.app tick live.captured ++ capture live.app next tick }
  match updated live.app next tick with
  | none => written
  | some row => written.broadcast (.incidentUpdate row)

-- `announce` and `raised` are the two ways on for a handler with a captured row; `other` is
-- any message that is not about an incident. A dashboard that connects may show incidents from
-- before, and `legible` is whether the rest of its snapshot can be parsed.
inductive Input where
  | backend (tick : Tick)
  | announce (index : ℕ)
  | raised (index : ℕ)
  | other (message : Message)
  | connect (shown : List IncidentRow) (legible : Bool)
  | disconnect (client : ℕ)

def about : Message → Bool
  | .systemSnapshot _ | .incidentUpdate _ => true
  | .frame | .detections | .timelineEvent | .healthUpdate | .armingUpdate | .callUpdate | .configurationUpdate | .error => false

def step (live : Live) : Input → Live
  | .backend tick =>
    if live.announcing tick then live
    else match tick.input with
      | .restart => opened (Backend.step settings live.app tick)
      | _ => live.backend settings tick
  | .announce index =>
    match live.captured[index]? with
    | none => live
    | some kept => Live.broadcast { live with captured := live.captured.eraseIdx index } (.incidentUpdate kept.row)
  | .raised index => { live with captured := live.captured.eraseIdx index }
  | .other message => if about message then live else live.broadcast message
  | .connect shown legible =>
    let snapshot := Message.systemSnapshot (listIncidents live.app.database 25)
    { live with clients := live.clients ++ [if legible then receive shown snapshot else shown] }
  | .disconnect client => { live with clients := live.clients.eraseIdx client }

end Ignis.LiveView
