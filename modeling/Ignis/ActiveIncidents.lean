import Ignis.DeviceRejections
import Ignis.HazardTracking

-- The loop reports the verifier's incident only, so nobody tells the laptop of one that is abandoned.
namespace Ignis.DeviceLink
open Framing Protocol Backend Database DeviceServer EdgeLoop Runs Tables FireIncidents

structure Drained (system : System) : Prop where
  calls : system.pi.calls = []
  links : ∀ link ∈ system.links, link.flight = [] ∧ link.handler.parser.held = [] ∧ link.handler.packets = []

def Agreed (system : System) : Prop :=
  ∀ number, 1 ≤ number → number ≤ system.pi.verifier.counter →
    if system.pi.verifier.state.incidentId = some (issued system.pi.verifier number) then
      hazard system.app.database (issued system.pi.verifier number) = some system.pi.verifier.state.hazardState
    else (hazard system.app.database (issued system.pi.verifier number)).any ended = true

section Agreement
variable {setup : Setup} {system : System} {inputs : List Input}

theorem drained_stored (tracked : Tracked setup system) (drained : Drained system) :
    Foretold system.pi.verifier system.app.database [] := by
  obtain ⟨link,packets,links,pending,foretold⟩ := tracked.queue
  obtain ⟨flight,held,queue⟩ := drained.links link (by rw [links]; exact List.mem_cons_self ..)
  have nothing : packets = [] := by
    have exactly := (pending.whole trivial).1
    rw [flight,held] at exactly
    cases packets with
    | nil => rfl
    | cons packet rest =>
      rw [stream_cons,List.append_nil,eq_comm,List.append_eq_nil_iff] at exactly
      exact absurd exactly.1 (bytes_nonempty packet)
  rw [underway,queue,nothing,drained.calls] at foretold
  exact foretold

theorem drained_agreed (tracked : Tracked setup system) (drained : Drained system) :
    Agreed system ↔ abandoned system.pi.verifier = false := by
  have stored := drained_stored tracked drained
  constructor
  · intro agreed
    by_contra left
    rw [Bool.not_eq_false] at left
    -- The first incident is an abandoned one.
    obtain ⟨counted,other⟩ := abandoned_first tracked.naming left
    obtain ⟨hazardState,stores,active,_⟩ := stored 1 (le_refl _) counted
    change hazard system.app.database (issued system.pi.verifier 1) = some hazardState at stores
    have ends := agreed 1 (le_refl _) counted
    rw [if_neg other,stores,Option.any_some,active] at ends
    cases ends
  · intro none number positive below
    obtain ⟨hazardState,stores,_,same⟩ := stored number positive below
    have current := unabandoned_current tracked.naming none positive below
    rw [if_pos current,← same current]
    exact stores

structure Followed (setup : Setup) (system : System) : Prop where
  sound : Sound setup system
  tracked : Tracked setup system

def Undisturbed (setup : Setup) (system : System) (input : Input) : Prop :=
  WellFormed setup system input ∧ resets input = false ∧ Live system ∧ Live (step setup system input)

theorem followed_step {input : Input} (configured : Configured setup) (undisturbed : Undisturbed setup system input)
    (followed : Followed setup system) : Followed setup (step setup system input) := by
  obtain ⟨well,unreset,live,still⟩ := undisturbed
  exact ⟨sound_step configured followed.sound well,
    tracked_step configured followed.sound followed.tracked live well unreset still⟩

theorem abandoned_run (configured : Configured setup) (undisturbed : Along (step setup) (Undisturbed setup) system inputs)
    (followed : Followed setup system) : abandoned (run (step setup) system inputs).pi.verifier = false ↔
      abandoned system.pi.verifier = false ∧ Along (step setup) (fun system input => abandons system input = false) system inputs := by
  induction inputs generalizing system with
  | nil => simp
  | cons input rest ih =>
    rw [run_cons,ih undisturbed.2 (followed_step configured undisturbed.1 followed),along_cons,
      abandoned_step followed.tracked.naming,Bool.or_eq_false_iff,and_assoc]

-- A state before the first frame. Nothing is reported in it.
def Unbegun (setup : Setup) (system : System) : Prop :=
  ∃ opening, (∀ input ∈ opening, isFrame input = false) ∧ run (step setup) (start setup) opening = system

theorem unbegun_parts (configured : Configured setup) (unbegun : Unbegun setup system) :
    Sound setup system ∧ system.pi.verifier = .created setup.arguments.deviceId setup.arguments.bootId := by
  obtain ⟨opening,unframed,rfl⟩ := unbegun
  induction opening using List.reverseRecOn with
  | nil => exact ⟨sound_start,rfl⟩
  | append_singleton opening input ih =>
    obtain ⟨sound,verifier⟩ := ih fun other member => unframed other (List.mem_append_left _ member)
    have last := unframed input (by simp)
    have well : WellFormed setup (run (step setup) (start setup) opening) input := by
      cases input with
      | frame input => cases last
      | _ => trivial
    rw [run_snoc]
    exact ⟨sound_step configured sound well,(verifier_step last).trans verifier⟩

theorem followed_unbegun (configured : Configured setup) (unbegun : Unbegun setup system) (live : Live system) :
    Followed setup system ∧ abandoned system.pi.verifier = false := by
  obtain ⟨sound,verifier⟩ := unbegun_parts configured unbegun
  obtain ⟨link,links,running,_⟩ := live.served
  obtain ⟨packets,pending⟩ := sound.served 0 link (by rw [links]; rfl) running
  have none : system.pi.verifier.counter = 0 := by rw [verifier]; rfl
  have idle : system.pi.verifier.state.incidentId.isSome = false := by rw [verifier]; rfl
  refine ⟨⟨sound,?_,link,packets,links,{ pending with whole := fun _ => pending.whole live.attached },?_⟩,?_⟩
  · constructor <;> simp [idle]
  · intro number positive below
    omega
  · simp [abandoned,idle,none]

-- Once the verifier has forgotten an incident, the Pi and the laptop never agree again.
theorem agreed_iff (setup : Setup) (configured : Configured setup) (system : System) (unbegun : Unbegun setup system)
    (inputs : List Input) (well : Along (step setup) (WellFormed setup) system inputs)
    (live : Throughout (step setup) Live system inputs) (unreset : ∀ input ∈ inputs, resets input = false) :
    (Along (step setup) (fun system input => abandons system input = false) system inputs →
      Throughout (step setup) (fun system => Drained system → Agreed system) system inputs) ∧
    (Drained (run (step setup) system inputs) →
      Throughout (step setup) (fun system => Drained system → Agreed system) system inputs →
      Along (step setup) (fun system input => abandons system input = false) system inputs) := by
  obtain ⟨followed,none⟩ := followed_unbegun configured unbegun (live [] List.nil_prefix)
  have undisturbed : Along (step setup) (Undisturbed setup) system inputs := by
    refine along_iff.mpr fun earlier input later split => ?_
    refine ⟨along_iff.mp well earlier input later split,unreset input ?_,along_iff.mp live.steps earlier input later split⟩
    rw [split]
    simp
  constructor
  · rintro kept earlier ⟨later,rfl⟩ drained
    have within := (along_append.mp undisturbed).1
    have follows := invariant_along (Followed setup) (fun _ _ => followed_step configured) followed within
    apply (drained_agreed follows.tracked drained).mpr
    apply (abandoned_run configured within followed).mpr
    exact ⟨none,(along_append.mp kept).1⟩
  · intro drained agreed
    have follows := invariant_along (Followed setup) (fun _ _ => followed_step configured) followed undisturbed
    have left := (drained_agreed follows.tracked drained).mp (agreed.last drained)
    exact ((abandoned_run configured undisturbed followed).mp left).2

theorem live_steady {before : System} {hello : Hello} (links : before.links.length = 1) (armed : before.app.armed = true)
    (steady : Steady before 0 hello system) : Live system := by
  obtain ⟨link,found,running,greeted⟩ := steady.serves
  obtain ⟨only,same⟩ := List.length_eq_one_iff.mp (steady.links.trans links)
  rw [same] at found
  cases found
  exact ⟨steady.attached,⟨link,same,running,by rw [greeted]; rfl⟩,steady.armed.trans armed⟩

theorem disagreement (drained : Drained (run (step setup) system inputs)) (stale : ¬ Agreed (run (step setup) system inputs)) :
    ¬ Throughout (step setup) (fun system => Drained system → Agreed system) system inputs := by
  intro agreed
  exact stale (agreed.last drained)

theorem drained_linked {hello : Hello} (linked : Linked setup system 0 hello []) (links : system.links.length = 1) :
    Drained system := by
  obtain ⟨handler,idle,_⟩ := linked.idle
  obtain ⟨only,same⟩ := List.length_eq_one_iff.mp links
  have found := idle.link
  rw [same] at found
  cases found
  refine ⟨linked.calls,fun link member => ?_⟩
  rw [same,List.mem_singleton] at member
  subst member
  exact ⟨rfl,idle.empty,idle.drained⟩

theorem along_unframed (unframed : ∀ input ∈ inputs, isFrame input = false) :
    Along (step setup) (WellFormed setup) system inputs := by
  refine along_iff.mpr fun earlier input later split => ?_
  have last := unframed input (by rw [split]; simp)
  cases input with
  | frame input => cases last
  | _ => trivial

theorem along_iteration {connection count : ℕ} {input : FrameInput} {now : Clock}
    (well : FrameWellFormed setup system.pi input) :
    Along (step setup) (WellFormed setup) system (iteration connection now input count) := by
  refine ⟨well,along_unframed fun other member => ?_⟩
  obtain ⟨packet,packets,inside⟩ := List.mem_flatten.mp member
  rw [List.eq_of_mem_replicate packets] at inside
  simp only [cycle,List.mem_cons,List.not_mem_nil,or_false] at inside
  rcases inside with rfl | rfl | rfl <;> rfl

end Agreement

variable {system : System}

def laterFrame : FrameInput :=
  { sampleFrame with monotonicNs := ⟨26000000000,by decide⟩, detections := [], healthNs := 26100000000 }

def afterFire : Pi := iterate sampleArguments { EdgeLoop.launched sampleArguments with calls := [] } sampleFrame

def laterContents : Table Content.packetType where
  rows := contents sampleArguments afterFire laterFrame
  distinct := by decide +kernel

def laterDecoders : Decoders where
  json := sampleDecoders.json
  device packetType monotonicNs bytes :=
    match laterContents.find packetType with
    | none => sampleDecoders.device packetType monotonicNs bytes
    | some content =>
      if bytes = jsonDumps content then decoded content monotonicNs
      else sampleDecoders.device packetType monotonicNs bytes

def laterSetup : Setup := { sampleSetup with decoders := laterDecoders }

def isQuiet : Content → Bool
  | .frame .. | .detections .. | .healthUpdate _ => true
  | _ => false

theorem later_quiet : ∀ content ∈ laterContents.rows, isQuiet content = true := by decide +kernel

theorem later_sendable : ∀ content ∈ laterContents.rows, sendable sampleSetup content = true := by decide +kernel

theorem decoded_quiet {content other : Content} (quiet : isQuiet other = true) (same : other.packetType = content.packetType)
    (monotonicNs : ℕ) : decoded other monotonicNs = decoded content monotonicNs := by
  cases other with
  | frame => cases content with
    | frame => rfl
    | _ => cases same
  | detections => cases content with
    | detections => rfl
    | _ => cases same
  | healthUpdate => cases content with
    | healthUpdate => rfl
    | _ => cases same
  | _ => cases quiet

theorem later_device (content : Content) (monotonicNs : ℕ) : received laterSetup content monotonicNs =
    match laterContents.find content.packetType with
    | none => received sampleSetup content monotonicNs
    | some other => if jsonDumps content = jsonDumps other then decoded other monotonicNs
      else received sampleSetup content monotonicNs := rfl

theorem later_received {content : Content} (member : content ∈ laterContents.rows) (monotonicNs : ℕ) :
    received laterSetup content monotonicNs = decoded content monotonicNs := by
  have found : laterContents.find content.packetType = some content := Table.find_iff.mpr ⟨member,rfl⟩
  rw [later_device,found]
  exact if_pos rfl

theorem first_received {content : Content} (member : content ∈ sampleContents.rows) (monotonicNs : ℕ) :
    received laterSetup content monotonicNs = decoded content monotonicNs := by
  rw [later_device,sample_received member]
  cases found : laterContents.find content.packetType with
  | none => rfl
  | some other =>
    simp only
    split
    · exact decoded_quiet (later_quiet other (Table.find_mem found)) (Table.find_key found) monotonicNs
    · rfl

theorem later_sized (content : Content) : sendable laterSetup content = sendable sampleSetup content := rfl

theorem later_greeting : sendable laterSetup (greeting laterSetup.arguments) = true :=
  (later_sized _).trans sample_greeting

theorem later_configured : Configured laterSetup where
  device := rfl
  token := rfl
  size := (sendable_sizes later_greeting).1
  text := by
    have dumps : laterSetup.dumps = sampleSetup.dumps := rfl
    have arguments : laterSetup.arguments = sampleSetup.arguments := rfl
    have json : laterSetup.decoders.json = sampleSetup.decoders.json := rfl
    rw [dumps,arguments,json]
    exact sample_configured.text

def arming : Input := .backend ⟨moment.1,.putArming true true⟩
def opened : System := step laterSetup (run (step laterSetup) (start laterSetup) (connecting moment)) arming
def greeter : Hello := ⟨"ignis-qnxpi-01","0a1b2c3d"⟩

theorem armed_parts (system : System) : (step laterSetup system arming).pi = system.pi ∧
    (step laterSetup system arming).links = system.links ∧
    (step laterSetup system arming).app = { system.app with armed := true } := ⟨rfl,rfl,rfl⟩

theorem armed_linked {calls : List Call} (linked : Linked laterSetup system 0 greeter calls) :
    Linked laterSetup (step laterSetup system arming) 0 greeter calls := by
  obtain ⟨handler,idle,greeted⟩ := linked.idle
  exact ⟨linked.waits,linked.attached,linked.calls,handler,
    ⟨idle.link,idle.running,idle.drained,idle.sane,idle.empty,idle.behind⟩,greeted⟩

theorem opened_parts : Linked laterSetup opened 0 greeter [] ∧
    opened.pi = { EdgeLoop.launched sampleArguments with stream := ⟨2,some 0,none,0⟩, calls := [] } ∧
    opened.app = { fresh with armed := true } ∧ opened.links.length = 1 := by
  obtain ⟨handler,idle,greeted,pi,app,_,links⟩ :=
    connected_start later_configured sample_plain (sendable_sizes later_greeting).2 moment
  have linked : Linked laterSetup (run (step laterSetup) (start laterSetup) (connecting moment)) 0 greeter [] :=
    ⟨by rw [pi],by rw [pi],by rw [pi],handler,idle,greeted⟩
  obtain ⟨samePi,sameLinks,arms⟩ := armed_parts (run (step laterSetup) (start laterSetup) (connecting moment))
  refine ⟨armed_linked linked,samePi.trans pi,?_,?_⟩
  · rw [opened,arms,app]
  · rw [opened,sameLinks]
    exact links

theorem opened_unbegun : Unbegun laterSetup opened := by
  refine ⟨connecting moment ++ [arming],?_,run_snoc⟩
  decide +kernel

def soon : Clock := ⟨20200000000,by decide⟩
def late : Clock := ⟨26200000000,by decide⟩

-- Six seconds after the fire was seen, with one relevant frame, the verifier has forgotten it.
def fireOut : List Input := iteration 0 soon sampleFrame 5 ++ iteration 0 late laterFrame 3

def firstIncident : String := "ignis-qnxpi-01-0a1b2c3d-1"

theorem contents_stream (arguments : Arguments) (pi : Pi) (input : FrameInput) (stream : BackendStream) (calls : List Call) :
    contents arguments { pi with stream := stream, calls := calls } input = contents arguments pi input := rfl

theorem first_stored : (match dispatched { fresh with armed := true } soon.1 greeter
    (sampleContents.rows.map fun content => decoded content sampleFrame.monotonicNs.1) with
    | .ok app => app.armed && decide (hazard app.database firstIncident = some .suspected)
    | .error _ => false) = true := by decide +kernel

theorem first_iteration : Linked laterSetup (run (step laterSetup) opened (iteration 0 soon sampleFrame 5)) 0 greeter [] ∧
    hazard (run (step laterSetup) opened (iteration 0 soon sampleFrame 5)).app.database firstIncident = some .suspected ∧
    (run (step laterSetup) opened (iteration 0 soon sampleFrame 5)).pi =
      { afterFire with stream := ⟨7,some 0,none,0⟩, calls := [] } ∧
    Throughout (step laterSetup) (Steady opened 0 greeter) opened (iteration 0 soon sampleFrame 5) := by
  obtain ⟨linked,pi,app,links⟩ := opened_parts
  generalize opened = system at linked pi app links ⊢
  have rows : contents laterSetup.arguments system.pi sampleFrame = sampleContents.rows := by
    rw [pi]
    exact contents_stream sampleArguments (EdgeLoop.launched sampleArguments) sampleFrame _ _
  have packets : sampleContents.rows.map (fun content => received laterSetup content sampleFrame.monotonicNs.1) =
      sampleContents.rows.map fun content => decoded content sampleFrame.monotonicNs.1 :=
    List.map_congr_left fun content member => first_received member _
  have stores := first_stored
  cases taken : dispatched { fresh with armed := true } soon.1 greeter
      (sampleContents.rows.map fun content => decoded content sampleFrame.monotonicNs.1) with
  | error error =>
    rw [taken] at stores
    cases stores
  | ok after =>
    rw [taken] at stores
    simp only [Bool.and_eq_true,decide_eq_true_eq] at stores
    have counts : (contents laterSetup.arguments system.pi sampleFrame).length = 5 := by
      rw [rows]
      decide +kernel
    obtain ⟨ends,same,left,steady⟩ := linked_iteration sampleFrame soon linked (by rw [pi]; rfl)
      (by rw [rows]; exact fun content member => (later_sized content).trans (sample_sendable content (List.mem_cons_of_mem _ member)))
      (by rw [counts,pi]; decide) (by rw [rows,packets,app]; exact taken) counts
    refine ⟨ends,by rw [same]; exact stores.2,?_,steady⟩
    rw [left,pi]
    have moved := iterate_stream sampleArguments { EdgeLoop.launched sampleArguments with calls := [] } sampleFrame ⟨2,some 0,none,0⟩
    exact congrArg (fun pi : Pi => { pi with stream := ⟨7,some 0,none,0⟩, calls := [] }) moved

theorem quiet_dispatch {app : App} {now : Time} {hello : Hello} {content : Content} (quiet : isQuiet content = true)
    (monotonicNs : ℕ) : dispatch app now hello (decoded content monotonicNs) = .ok app := by
  cases content with
  | frame | detections | healthUpdate => rfl
  | _ => cases quiet

theorem second_iteration (linked : Linked laterSetup system 0 greeter [])
    (pi : system.pi = { afterFire with stream := ⟨7,some 0,none,0⟩, calls := [] }) :
    Linked laterSetup (run (step laterSetup) system (iteration 0 late laterFrame 3)) 0 greeter [] ∧
    (run (step laterSetup) system (iteration 0 late laterFrame 3)).app = system.app ∧
    (run (step laterSetup) system (iteration 0 late laterFrame 3)).pi.verifier = verified afterFire laterFrame ∧
    Throughout (step laterSetup) (Steady system 0 greeter) system (iteration 0 late laterFrame 3) := by
  have rows : contents laterSetup.arguments system.pi laterFrame = laterContents.rows := by
    rw [pi]
    exact contents_stream sampleArguments afterFire laterFrame _ _
  have packets : laterContents.rows.map (fun content => received laterSetup content laterFrame.monotonicNs.1) =
      laterContents.rows.map fun content => decoded content laterFrame.monotonicNs.1 :=
    List.map_congr_left fun content member => later_received member _
  have taken : dispatched system.app late.1 greeter
      (laterContents.rows.map fun content => decoded content laterFrame.monotonicNs.1) = .ok system.app :=
    dispatched_quiet greeter (List.forall_mem_map.mpr fun content member => quiet_dispatch (later_quiet content member) _)
  have counts : (contents laterSetup.arguments system.pi laterFrame).length = 3 := by
    rw [rows]
    decide +kernel
  have running : afterFire.running = true := by decide +kernel
  obtain ⟨ends,same,left,stays⟩ := linked_iteration laterFrame late linked (by rw [pi]; exact running)
    (by rw [rows]; exact fun content member => (later_sized content).trans (later_sendable content member))
    (by rw [counts,pi]; decide) (by rw [rows,packets]; exact taken) counts
  obtain ⟨_,_,verifier⟩ := iterate_parts laterSetup.arguments system.pi laterFrame (by rw [pi]; exact running) linked.calls
  refine ⟨ends,same,?_,stays⟩
  rw [left]
  refine verifier.trans ?_
  rw [pi]
  rfl

theorem fireOut_ends : Linked laterSetup (run (step laterSetup) opened fireOut) 0 greeter [] ∧
    hazard (run (step laterSetup) opened fireOut).app.database firstIncident = some .suspected ∧
    (run (step laterSetup) opened fireOut).pi.verifier = verified afterFire laterFrame ∧
    Throughout (step laterSetup) (Steady opened 0 greeter) opened fireOut := by
  obtain ⟨linked,stored,pi,steady⟩ := first_iteration
  obtain ⟨ends,same,verifier,stays⟩ := second_iteration linked pi
  have here := steady.last
  rw [fireOut,run_append,throughout_append]
  refine ⟨ends,by rw [same]; exact stored,verifier,steady,stays.imp fun state still => ?_⟩
  exact ⟨still.attached,still.serves,still.links.trans here.links,still.armed.trans here.armed⟩

theorem fireOut_live : Throughout (step laterSetup) Live opened fireOut := by
  obtain ⟨_,_,_,steady⟩ := fireOut_ends
  obtain ⟨_,_,app,links⟩ := opened_parts
  exact steady.imp fun system still => live_steady links (by rw [app]) still

theorem wellFormed_decoded {content : Content} {monotonicNs : ℕ} (fits : sendable sampleSetup content = true)
    (reads : received laterSetup content monotonicNs = decoded content monotonicNs)
    (understands : understood content monotonicNs (decoded content monotonicNs) = true) :
    wellFormed laterSetup content monotonicNs = true := by
  rw [wellFormed,reads,understands,Bool.and_true]
  exact decide_eq_true (sendable_sizes ((later_sized content).trans fits)).1

theorem later_understood : ∀ content ∈ laterContents.rows,
    understood content laterFrame.monotonicNs.1 (decoded content laterFrame.monotonicNs.1) = true := by
  decide +kernel

theorem fireOut_wellFormed : Along (step laterSetup) (WellFormed laterSetup) opened fireOut := by
  rw [fireOut,along_append]
  constructor
  · obtain ⟨_,pi,_,_⟩ := opened_parts
    refine along_iteration fun content member => ?_
    rw [pi] at member
    have inside : content ∈ sampleContents.rows := member
    exact wellFormed_decoded (sample_sendable content (List.mem_cons_of_mem _ inside)) (first_received inside _)
      (sample_understood content inside)
  · obtain ⟨_,_,pi,_⟩ := first_iteration
    refine along_iteration fun content member => ?_
    rw [pi] at member
    have inside : content ∈ laterContents.rows := member
    exact wellFormed_decoded (later_sendable content inside) (later_received inside _) (later_understood content inside)

theorem fireOut_unreset : ∀ input ∈ fireOut, resets input = false := by decide +kernel

theorem fireOut_agreed :
    (Along (step laterSetup) (fun system input => abandons system input = false) opened fireOut →
      Throughout (step laterSetup) (fun system => Drained system → Agreed system) opened fireOut) ∧
    (Drained (run (step laterSetup) opened fireOut) →
      Throughout (step laterSetup) (fun system => Drained system → Agreed system) opened fireOut →
      Along (step laterSetup) (fun system input => abandons system input = false) opened fireOut) :=
  agreed_iff laterSetup later_configured opened opened_unbegun fireOut fireOut_wellFormed fireOut_live fireOut_unreset

theorem firstIncident_stale (verifier : system.pi.verifier = verified afterFire laterFrame)
    (stored : hazard system.app.database firstIncident = some .suspected) : ¬ Agreed system := by
  intro agrees
  have forgets : (verified afterFire laterFrame).counter = 1 ∧ (verified afterFire laterFrame).state.incidentId = none ∧
      issued (verified afterFire laterFrame) 1 = firstIncident := by decide +kernel
  obtain ⟨counter,absent,name⟩ := forgets
  unfold Agreed at agrees
  rw [verifier,counter,absent] at agrees
  have last := agrees 1 (le_refl _) (le_refl _)
  rw [name,stored] at last
  exact absurd last (by decide)

-- The laptop still takes the forgotten incident for a suspected one.
theorem fireOut_disagreed : Configured laterSetup ∧ Unbegun laterSetup opened ∧
    Along (step laterSetup) (WellFormed laterSetup) opened fireOut ∧ Throughout (step laterSetup) Live opened fireOut ∧
    (∀ input ∈ fireOut, resets input = false) ∧ Drained (run (step laterSetup) opened fireOut) ∧
    hazard (run (step laterSetup) opened fireOut).app.database firstIncident = some .suspected ∧
    ¬ Throughout (step laterSetup) (fun system => Drained system → Agreed system) opened fireOut := by
  obtain ⟨linked,stored,verifier,steady⟩ := fireOut_ends
  obtain ⟨_,_,_,links⟩ := opened_parts
  have drained : Drained (run (step laterSetup) opened fireOut) := drained_linked linked (steady.last.links.trans links)
  have stale : ¬ Agreed (run (step laterSetup) opened fireOut) := firstIncident_stale verifier stored
  exact ⟨later_configured,opened_unbegun,fireOut_wellFormed,fireOut_live,fireOut_unreset,drained,stored,
    disagreement drained stale⟩

end Ignis.DeviceLink
