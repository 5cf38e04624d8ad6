import Ignis.FireAlarms

-- Every fire that the Pi confirms is stored as such, and has been answered, has timed out, or has a
-- timer that ends in a call.
namespace Ignis.DeviceLink
open Framing Protocol Backend Database DeviceServer EdgeLoop Runs FireIncidents Tables

section Opening
variable {setup : Setup} {system : System} {link : Link} {next later connection count : ℕ}

-- At most a HELLO is on its way, and nothing after it.
def Hushed (setup : Setup) (next : ℕ) (link : Link) : Prop :=
  link.handler.running = true → ∃ packets, Pending setup next False link packets ∧
    (link.handler.packets ++ packets = [] ∨ link.handler.hello = none ∧ (link.handler.packets ++ packets).length = 1)

structure Hush (setup : Setup) (system : System) : Prop where
  calls : ∀ call ∈ system.pi.calls, call = .connect
  links : ∀ (connection : ℕ) (link : Link), system.links[connection]? = some link → Hushed setup system.pi.stream.sequence link
  unknown : ∀ incidentId, stores system.app.database incidentId = false

theorem hushed_later (hushed : Hushed setup next link) (grows : next ≤ later) : Hushed setup later link := by
  intro running
  obtain ⟨packets,pending,few⟩ := hushed running
  refine ⟨packets,{ pending with below := ?_ },few⟩
  intro number member
  have lower := pending.below number member
  omega

theorem hushed_halted : Hushed setup next (halted link) := by
  intro running
  cases running

theorem hush_start (setup : Setup) : Hush setup (start setup) := by
  refine ⟨?_,?_,?_⟩
  · intro call member
    exact List.mem_singleton.mp member
  · intro connection link found
    cases found
  · exact fun incidentId => rfl

theorem hush_proceed (configured : Configured setup) (hush : Hush setup system) {now : Clock} {outcome : Outcome} :
    Hush setup (step setup system (.proceed now outcome)) := by
  have went := @proceed_cases system.pi setup.arguments setup.dumps system.links.length now outcome (acknowledged system)
  obtain ⟨_,fewer⟩ := @remains_proceed system.pi setup.arguments setup.dumps system.links.length now outcome
    (acknowledged system)
  simp only [step]
  generalize proceed setup.arguments setup.dumps system.pi system.links.length now outcome (acknowledged system) = result
    at went fewer
  obtain ⟨after,wire⟩ := result
  change Went setup.arguments setup.dumps system.pi system.links.length after wire at went
  refine ⟨fun call member => hush.calls call (fewer call member),?_,hush.unknown⟩
  intro connection link found
  show Hushed setup after.stream.sequence link
  cases went with
  | silent grows attached => exact hushed_later (hush.links connection link found) grows
  | dumb grows detached =>
    obtain ⟨_,old⟩ | ⟨_,rfl⟩ := opened_cases found
    · exact hushed_later (hush.links connection link old) grows
    · exact fun _ => ⟨[],dumb_pending,.inl rfl⟩
  | greets packet bytes numbered counts kind payload fits part attached =>
    obtain ⟨_,old⟩ | ⟨_,rfl⟩ := opened_cases found
    · exact hushed_later (hush.links connection link old) (by omega)
    · refine fun _ => ⟨[packet],opened_pending ⟨kind,payload⟩ ⟨fits,?_⟩ (by omega) part False.elim,.inr ⟨rfl,rfl⟩⟩
      rw [payload]
      exact configured.size
  | sends content monotonicNs carrier packet bytes waiting open_ same counts fits part attached =>
    cases hush.calls _ waiting

theorem hush_put (hush : Hush setup system) (fresh : Hushed setup system.pi.stream.sequence link) :
    Hush setup (put system connection link) := by
  refine ⟨hush.calls,fun other now found => ?_,hush.unknown⟩
  simp only [put,List.getElem?_set] at found
  split at found
  · split at found
    · cases found
      exact fresh
    · cases found
  · exact hush.links other now found

theorem hush_halt (hush : Hush setup system) : Hush setup (halt system connection) := by
  refine ⟨hush.calls,fun other now found => ?_,hush.unknown⟩
  obtain ⟨old,_,rfl,_⟩ | ⟨_,before⟩ := written_cases found
  · exact hushed_halted
  · exact hush.links other now before

theorem hush_read (hush : Hush setup system) : Hush setup (read system connection count) := by
  unfold read
  cases arrives : arriving system connection count with
  | none => exact hush
  | some pair =>
    obtain ⟨link,chunk⟩ := pair
    obtain ⟨found,running,drained,rfl⟩ := arriving_parts arrives
    obtain ⟨packets,pending,few⟩ := hush.links connection link found running
    simp only
    by_cases overfull : setup.device.maxPayloadBytes + headerSize <
        link.handler.parser.buffer.length + (link.flight.take count).length
    · rw [overfull_refused pending overfull]
      have halts : Hush setup (halt system connection) := hush_halt hush
      exact ⟨halts.calls,halts.links,halts.unknown⟩
    · obtain ⟨handler,left,feeds,hello,parts,still⟩ := read_pending pending drained (not_lt.mp overfull)
      rw [feeds]
      refine hush_put hush fun _ => ⟨left,still,?_⟩
      rw [drained,List.nil_append] at few
      simp only [parts,hello]
      exact few

theorem hush_handle (configured : Configured setup) (hush : Hush setup system) {now : Time} :
    Hush setup (handle setup system connection now) := by
  unfold handle
  cases takes : queued system connection with
  | none => exact hush
  | some triple =>
    obtain ⟨link,packet,rest⟩ := triple
    obtain ⟨found,running,queue⟩ := queued_parts takes
    obtain ⟨packets,pending,few⟩ := hush.links connection link found running
    rw [queue] at few
    obtain ⟨unknown,single⟩ : link.handler.hello = none ∧ (packet :: rest ++ packets).length = 1 := by
      rcases few with none | few
      · cases none
      · exact few
    have last : rest ++ packets = [] := List.length_eq_zero_iff.mp (Nat.succ.inj single)
    simp only
    rcases handle_cases configured pending queue system.app now with ⟨_,refused⟩ | ⟨hello,still,⟨_,greeted⟩ | ⟨known,_⟩⟩
    · rw [refused]
      exact hush_halt hush
    · rw [greeted]
      have goes : Hush setup (put system connection { link with handler := { link.handler with
          packets := rest, lastSequence := packet.sequence, hello := some hello } }) :=
        hush_put hush fun _ => ⟨packets,still,.inl last⟩
      exact ⟨goes.calls,goes.links,goes.unknown⟩
    · rw [unknown] at known
      cases known

theorem hush_backend (hush : Hush setup system) {tick : Tick} : Hush setup (backend setup system tick) := by
  have unknown : ∀ incidentId, stores (backend setup system tick).app.database incidentId = false :=
    fun incidentId => (backend_effect.2 incidentId).trans (hush.unknown incidentId)
  unfold backend at unknown ⊢
  split
  · exact hush
  · rename_i restarts
    simp only [restarts] at unknown
    refine ⟨hush.calls,fun connection link found => ?_,unknown⟩
    rw [List.getElem?_map] at found
    obtain ⟨old,_,rfl⟩ := Option.map_eq_some_iff.mp found
    exact hushed_halted
  · rename_i ours others
    refine ⟨hush.calls,hush.links,?_⟩
    exact fun incidentId => (stores_step ours).trans (hush.unknown incidentId)

theorem hush_run (configured : Configured setup) {opening : List Input} (unframed : ∀ input ∈ opening, isFrame input = false) :
    Hush setup (run (step setup) (start setup) opening) := by
  refine invariant_along (Hush setup) (fun system input other hush => ?_) (hush_start setup) (along_inputs unframed)
  cases input with
  | frame input => cases other
  | proceed now outcome => exact hush_proceed configured hush
  | read connection count => exact hush_read hush
  | handle connection now => exact hush_handle configured hush
  | lost connection => exact hush_halt hush
  | backend tick => exact hush_backend hush

end Opening

section Calls
variable {setup : Setup} {system : System} {inputs : List Input} {incidentId : String}

theorem hush_quiet {link : Link} {packets : List Packet} (hush : Hush setup system) (live : Live system)
    (links : system.links = [link]) (pending : Pending setup system.pi.stream.sequence True link packets) :
    underway setup link packets system.pi.calls = [] := by
  obtain ⟨other,same,running,greeted⟩ := live.served
  rw [links] at same
  cases same
  obtain ⟨left,begun,few⟩ := hush.links 0 link (by rw [links]; rfl) running
  have none : link.handler.packets ++ left = [] := by
    rcases few with none | ⟨unknown,_⟩
    · exact none
    · simp [unknown] at greeted
  obtain ⟨queue,rfl⟩ := List.append_eq_nil_iff.mp none
  have drained : stream Packet.bytes packets = [] :=
    (pending.whole trivial).1.symm.trans (List.prefix_nil.mp begun.carried)
  have nothing : packets = [] := by
    cases packets with
    | nil => rfl
    | cons packet rest =>
      rw [stream_cons,List.append_eq_nil_iff] at drained
      exact absurd drained.1 (bytes_nonempty packet)
  have silent : system.pi.calls.filterMap (sending setup) = [] := by
    rw [List.filterMap_eq_nil_iff]
    intro call member
    rw [hush.calls call member]
    rfl
  rw [underway,silent,queue,nothing]
  rfl

theorem asking_opened (configured : Configured setup) {opening : List Input} (unframed : ∀ input ∈ opening, isFrame input = false)
    (live : Live (run (step setup) (start setup) opening)) : Asking setup (run (step setup) (start setup) opening) := by
  have unbegun : Unbegun setup (run (step setup) (start setup) opening) := ⟨opening,unframed,rfl⟩
  have hush := hush_run configured unframed
  obtain ⟨_,verifier⟩ := unbegun_parts configured unbegun
  have followed := (followed_unbegun configured unbegun live).1
  obtain ⟨link,packets,links,pending,_⟩ := followed.tracked.queue
  refine ⟨followed,?_,?_,?_⟩
  · rw [verifier]
    exact nofun
  · refine ⟨link,packets,links,pending,?_⟩
    rw [hush_quiet hush live links pending]
    exact fun packet member => nomatch member
  · intro incidentId shows
    have absent := hush.unknown incidentId
    rw [stores,Option.isSome_eq_false_iff,Option.isNone_iff_eq_none] at absent
    rw [hazard,absent] at shows
    cases shows

def internal (tick : Tick) : Bool :=
  match tick.input with
  | .packet .. | .restart => false
  | _ => true

theorem backend_run (setup : Setup) (system : System) {ticks : List Tick} (own : ∀ tick ∈ ticks, internal tick = true) :
    (run (step setup) system (ticks.map .backend)).app = run (Backend.step setup.communications) system.app ticks := by
  induction ticks generalizing system with
  | nil => rfl
  | cons tick ticks ih =>
    have first : (step setup system (.backend tick)).app = Backend.step setup.communications system.app tick := by
      have here := own tick (List.mem_cons_self ..)
      unfold internal at here
      simp only [step,backend]
      split
      · rename_i same
        simp [same] at here
      · rfl
      · rfl
    rw [List.map_cons,run_cons,run_cons,ih _ fun other member => own other (List.mem_cons_of_mem _ member),first]

-- No device update changes the response any more, or the timer of the incident will see to that: then the
-- timeout is recorded once, and one call is made exactly if the call policy lets it through.
def Escalates (setup : Setup) (system : System) (incidentId : String) : Prop :=
  Frozen system.app.database incidentId ∨
  ∃ id count, 1 ≤ count ∧ count ≤ 2 ∧ ∀ (a : Time) (wakes : List Time) (c : Time), wakes.length = count →
    let fired := run (step setup) system ((⟨a,.announced incidentId⟩ :: resumes id wakes).map .backend)
    Frozen fired.app.database incidentId ∧
    timeouts fired.app.database incidentId = timeouts system.app.database incidentId + 1 ∧
    fired.app.database.callAttempts = system.app.database.callAttempts ∧
    Calls incidentId c (Communications.callable setup.communications fired.app.database c incidentId) fired.app.database
      (step setup fired (.backend ⟨c,.resume id⟩)).app.database

theorem tended_escalates (setup : Setup) (tended : Tended system.app) (waits : Unanswered system.app.database incidentId) :
    Escalates setup system incidentId := by
  obtain ⟨id,count,least,most,ends⟩ :=
    attended_calls setup.communications tended.orderly tended.frozen waits (tended.watched incidentId waits)
  refine .inr ⟨id,count,least,most,fun a wakes c enough => ?_⟩
  have own : ∀ tick ∈ (⟨a,.announced incidentId⟩ :: resumes id wakes : List Tick), internal tick = true := by
    intro tick member
    rcases List.mem_cons.mp member with rfl | member
    · rfl
    · obtain ⟨now,_,rfl⟩ := List.mem_map.mp member
      rfl
  obtain ⟨frozen,recorded,uncalled,calls⟩ := ends a wakes c enough
  intro fired
  have same : fired.app = run (Backend.step setup.communications) system.app (⟨a,.announced incidentId⟩ :: resumes id wakes) :=
    backend_run setup system own
  clear_value fired
  have last : (step setup fired (.backend ⟨c,.resume id⟩)).app = Backend.step setup.communications fired.app ⟨c,.resume id⟩ := rfl
  rw [last,same]
  exact ⟨frozen,recorded,uncalled,calls⟩

theorem thawed_awaits {r : ResponseState} (thawed : ¬ (some r).any backendResponse = true) (asked : r ≠ .idle) :
    r = .awaitingResponse := by
  cases r with
  | awaitingResponse => rfl
  | idle => exact absurd rfl asked
  | _ => exact absurd rfl thawed

-- In any order of the steps, as long as the laptop's process goes on and nothing is reset by hand: a fire that
-- the verifier has confirmed is the same incident on the laptop, whose response no device update changes any more,
-- or which has a timer that times out once and makes the call.
theorem fire_called (setup : Setup) (configured : Configured setup) (opening inputs : List Input)
    (unframed : ∀ input ∈ opening, isFrame input = false) (lasts : ∀ input ∈ opening ++ inputs, restarts input = false)
    (well : Along (step setup) (WellFormed setup) (run (step setup) (start setup) opening) inputs)
    (live : Throughout (step setup) Live (run (step setup) (start setup) opening) inputs)
    (unreset : ∀ input ∈ inputs, resets input = false) (incidentId : String)
    (drained : Drained (run (step setup) (start setup) (opening ++ inputs)))
    (current : (run (step setup) (start setup) (opening ++ inputs)).pi.verifier.state.incidentId = some incidentId)
    (confirmed : visible (run (step setup) (start setup) (opening ++ inputs)).pi.verifier.state.hazardState = true) :
    let system := run (step setup) (start setup) (opening ++ inputs)
    hazard system.app.database incidentId = some system.pi.verifier.state.hazardState ∧
    Escalates setup system incidentId := by
  intro system
  have tended : Tended system.app := tended_run tended_fresh lasts
  have undisturbed : Along (step setup) (Undisturbed setup) (run (step setup) (start setup) opening) inputs := by
    refine along_iff.mpr fun earlier input later split => ?_
    refine ⟨along_iff.mp well earlier input later split,unreset input ?_,along_iff.mp live.steps earlier input later split⟩
    rw [split]
    simp
  have asking : Asking setup system := by
    have begins := asking_opened configured unframed (live [] List.nil_prefix)
    have goes := invariant_along (Asking setup) (fun _ _ => asking_step configured) begins undisturbed
    rwa [← run_append] at goes
  have naming := asking.followed.tracked.naming
  obtain ⟨counted,name⟩ := naming.last (by rw [current]; rfl)
  obtain ⟨hazardState,stored,_,same⟩ := drained_stored asking.followed.tracked drained _ counted (le_refl _)
  have own : issued system.pi.verifier system.pi.verifier.counter = incidentId := Option.some.inj (name.symm.trans current)
  rw [same name,own] at stored
  refine ⟨stored,?_⟩
  have shows : hazard system.app.database incidentId = some system.pi.verifier.state.hazardState := stored
  by_cases frozen : Frozen system.app.database incidentId
  · exact .inl frozen
  have asked := asking.asked incidentId (by rw [shows]; exact confirmed)
  refine tended_escalates setup tended (unanswered_iff.mpr ⟨?_,by rw [shows]; exact confirmed⟩)
  have there : (response system.app.database incidentId).isSome = true := by
    rw [← stores_response,stores]
    rw [hazard] at shows
    cases found : system.app.database.getIncident incidentId with
    | none =>
      rw [found] at shows
      cases shows
    | some row => rfl
  rw [Frozen] at frozen
  cases answer : response system.app.database incidentId with
  | none =>
    rw [answer] at there
    cases there
  | some r =>
    rw [answer] at asked frozen
    exact congrArg some (thawed_awaits frozen fun idle => asked (congrArg some idle))

end Calls
-- A fire that burns for six frames, over one and a half seconds.
def burning (ns : Fin (2 ^ 63)) : FrameInput := { sampleFrame with monotonicNs := ⟨ns.1,ns.2⟩ }
def fireFrames : List FrameInput :=
  [burning 20000000000,burning 20300000000,burning 20600000000,burning 20900000000,burning 21200000000,burning 21500000000]

def after (pi : Pi) (input : FrameInput) : Pi := { iterate sampleArguments pi input with
  stream := { pi.stream with sequence := pi.stream.sequence + (contents sampleArguments pi input).length }
  calls := [] }

def written (pi : Pi) : List FrameInput → List Content
  | [] => []
  | input :: rest => contents sampleArguments pi input ++ written (after pi input) rest

def session (pi : Pi) : List FrameInput → List Input
  | [] => []
  | input :: rest =>
    iteration 0 input.monotonicNs input (contents sampleArguments pi input).length ++ session (after pi input) rest

def watching : Pi := { EdgeLoop.launched sampleArguments with stream := ⟨2,some 0,none,0⟩, calls := [] }

def fireContents : Table jsonDumps where
  rows := written watching fireFrames
  distinct := by decide +kernel

def fireDecoders : Decoders where
  json := sampleDecoders.json
  device packetType monotonicNs bytes :=
    match fireContents.find bytes with
    | none => .malformed "invalid JSON payload"
    | some content => if content.packetType = packetType then decoded content monotonicNs else .malformed "invalid JSON payload"

def fireSetup : Setup := { sampleSetup with decoders := fireDecoders }

theorem fire_received {content : Content} (member : content ∈ fireContents.rows) (monotonicNs : ℕ) :
    received fireSetup content monotonicNs = decoded content monotonicNs := by
  have found : fireContents.find (jsonDumps content) = some content := Table.find_iff.mpr ⟨member,rfl⟩
  show fireDecoders.device content.packetType monotonicNs (jsonDumps content) = _
  simp only [fireDecoders,found,if_true]

theorem fire_sized (content : Content) : sendable fireSetup content = sendable sampleSetup content := rfl

-- What the armed laptop makes of these packets, where all are taken.
def kept (pi : Pi) (app : App) : List FrameInput → Option App
  | [] => some app
  | input :: rest =>
    let packets := contents sampleArguments pi input
    if pi.running && packets.all (fun content => sendable sampleSetup content &&
        understood content input.monotonicNs.1 (decoded content input.monotonicNs.1)) &&
        pi.stream.sequence + packets.length ≤ 2 ^ 64 then
      match dispatched app input.monotonicNs.1 greeter (packets.map fun content => decoded content input.monotonicNs.1) with
      | .ok next => kept (after pi input) next rest
      | .error _ => none
    else none

theorem session_run (frames : List FrameInput) {pi : Pi} {app last : App} {system : System}
    (linked : Linked fireSetup system 0 greeter []) (here : system.pi = pi) (stored : system.app = app)
    (inside : ∀ content ∈ written pi frames, content ∈ fireContents.rows) (keeps : kept pi app frames = some last) :
    Linked fireSetup (run (step fireSetup) system (session pi frames)) 0 greeter [] ∧
    (run (step fireSetup) system (session pi frames)).app = last ∧
    (run (step fireSetup) system (session pi frames)).pi = frames.foldl after pi ∧
    Throughout (step fireSetup) (Steady system 0 greeter) system (session pi frames) ∧
    Along (step fireSetup) (WellFormed fireSetup) system (session pi frames) := by
  induction frames generalizing pi app system with
  | nil =>
    cases keeps
    obtain ⟨handler,idle,greeted⟩ := linked.idle
    have open_ : attachedTo system.pi.stream = some 0 := by simp [attachedTo,linked.waits,linked.attached]
    exact ⟨linked,stored,here,throughout_nil.mpr ⟨open_,⟨_,idle.link,idle.running,greeted⟩,rfl,rfl⟩,trivial⟩
  | cons input rest ih =>
    simp only [kept] at keeps
    split at keeps
    · rename_i checks
      simp only [Bool.and_eq_true,List.all_eq_true,decide_eq_true_eq] at checks
      obtain ⟨⟨running,sized⟩,left⟩ := checks
      split at keeps
      · rename_i next taken
        have first : ∀ content ∈ contents sampleArguments pi input, content ∈ fireContents.rows :=
          fun content member => inside content (List.mem_append_left _ member)
        have packets : (contents sampleArguments pi input).map (fun content => received fireSetup content input.monotonicNs.1) =
            (contents sampleArguments pi input).map fun content => decoded content input.monotonicNs.1 :=
          List.map_congr_left fun content member => fire_received (first content member) _
        subst here stored
        rw [← packets] at taken
        obtain ⟨ends,same,moved,steady⟩ := linked_iteration input input.monotonicNs linked running
          (fun content member => (fire_sized content).trans (sized content member).1) left taken rfl
        have well : Along (step fireSetup) (WellFormed fireSetup) system
            (iteration 0 input.monotonicNs input (contents sampleArguments system.pi input).length) := by
          refine along_iteration fun content member => ?_
          have facts := sized content member
          rw [wellFormed,fire_received (first content member),facts.2,Bool.and_true]
          exact decide_eq_true (sendable_sizes ((fire_sized content).trans facts.1)).1
        obtain ⟨linked,app,pi,stays,later⟩ := ih ends moved same
          (fun content member => inside content (List.mem_append_right _ member)) keeps
        have here := steady.last
        rw [session,run_append,throughout_append,along_append]
        refine ⟨linked,app,pi,⟨steady,stays.imp fun state still => ?_⟩,well,later⟩
        exact ⟨still.attached,still.serves,still.links.trans here.links,still.armed.trans here.armed⟩
      · cases keeps
    · cases keeps

theorem fire_greeting : sendable fireSetup (greeting fireSetup.arguments) = true := (fire_sized _).trans sample_greeting

theorem fire_configured : Configured fireSetup where
  device := rfl
  token := rfl
  size := (sendable_sizes fire_greeting).1
  text := by
    have dumps : fireSetup.dumps = sampleSetup.dumps := rfl
    have arguments : fireSetup.arguments = sampleSetup.arguments := rfl
    have json : fireSetup.decoders.json = sampleSetup.decoders.json := rfl
    rw [dumps,arguments,json]
    exact sample_configured.text

def fireOpening : List Input := connecting moment ++ [arming]

theorem arming_parts (setup : Setup) (system : System) : (step setup system arming).pi = system.pi ∧
    (step setup system arming).links = system.links ∧ (step setup system arming).app = { system.app with armed := true } :=
  ⟨rfl,rfl,rfl⟩

theorem arming_linked {setup : Setup} {system : System} {calls : List Call} (linked : Linked setup system 0 greeter calls) :
    Linked setup (step setup system arming) 0 greeter calls := by
  obtain ⟨handler,idle,greeted⟩ := linked.idle
  exact ⟨linked.waits,linked.attached,linked.calls,handler,
    ⟨idle.link,idle.running,idle.drained,idle.sane,idle.empty,idle.behind⟩,greeted⟩

theorem fire_opened : Linked fireSetup (run (step fireSetup) (start fireSetup) fireOpening) 0 greeter [] ∧
    (run (step fireSetup) (start fireSetup) fireOpening).pi = watching ∧
    (run (step fireSetup) (start fireSetup) fireOpening).app = { fresh with armed := true } ∧
    (run (step fireSetup) (start fireSetup) fireOpening).links.length = 1 := by
  obtain ⟨handler,idle,greeted,pi,app,_,links⟩ :=
    connected_start fire_configured sample_plain (sendable_sizes fire_greeting).2 moment
  have linked : Linked fireSetup (run (step fireSetup) (start fireSetup) (connecting moment)) 0 greeter [] :=
    ⟨by rw [pi],by rw [pi],by rw [pi],handler,idle,greeted⟩
  obtain ⟨samePi,sameLinks,arms⟩ := arming_parts fireSetup (run (step fireSetup) (start fireSetup) (connecting moment))
  rw [fireOpening,run_snoc]
  refine ⟨arming_linked linked,samePi.trans pi,?_,?_⟩
  · rw [arms,app]
  · rw [sameLinks]
    exact links

theorem fire_watched : (fireFrames.foldl after watching).verifier.state.incidentId = some firstIncident ∧
    (fireFrames.foldl after watching).verifier.state.hazardState = .confirmed ∧
    (kept watching { fresh with armed := true } fireFrames).isSome = true := by decide +kernel

theorem fire_quiet : (∀ input ∈ fireOpening, isFrame input = false) ∧
    (∀ input ∈ fireOpening ++ session watching fireFrames, restarts input = false) ∧
    (∀ input ∈ session watching fireFrames, resets input = false) := by decide +kernel

theorem burning_called : hazard (run (step fireSetup) (start fireSetup) (fireOpening ++ session watching fireFrames)).app.database
      firstIncident = some .confirmed ∧
    Escalates fireSetup (run (step fireSetup) (start fireSetup) (fireOpening ++ session watching fireFrames)) firstIncident := by
  obtain ⟨linked,pi,app,links⟩ := fire_opened
  obtain ⟨unframed,lasts,unreset⟩ := fire_quiet
  obtain ⟨incidentId,confirmed,keeps⟩ := fire_watched
  obtain ⟨last,keeps⟩ := Option.isSome_iff_exists.mp keeps
  obtain ⟨ends,_,verifier,steady,well⟩ := session_run fireFrames linked pi app (fun content member => member) keeps
  have live := steady.imp fun system still => live_steady links (by rw [app]) still
  have drained := drained_linked ends (steady.last.links.trans links)
  rw [← run_append] at drained verifier
  have called := fire_called fireSetup fire_configured fireOpening (session watching fireFrames) unframed lasts well live unreset
    firstIncident drained (by rw [verifier]; exact incidentId) (by rw [verifier,confirmed]; rfl)
  obtain ⟨stored,escalates⟩ := called
  rw [verifier,confirmed] at stored
  exact ⟨stored,escalates⟩

end Ignis.DeviceLink
