import Ignis.DeviceTraffic
import Ignis.DeviceSession
import Ignis.FireIncidents
import Ignis.HazardRecords

-- What the laptop will have stored of the Pi's incidents once the packets underway are handled.
namespace Ignis.DeviceLink
open Framing Protocol Backend Database DeviceServer EdgeLoop Runs FireIncidents

section Packets
variable {setup : Setup} {content : Content} {packet : DevicePacket} {monotonicNs : ℕ} {incidentId : String}
variable {before : Option HazardState} {pi : Pi} {input : FrameInput} {db : Database}

def reported (incidentId : String) (before : Option HazardState) : Content → Option HazardState
  | .incidentUpdate fields => if incidentId = fields.incidentId then some fields.hazardState else before
  | _ => before

theorem heard_reported (understands : understood content monotonicNs packet = true) :
    heard incidentId before packet = reported incidentId before content := by
  cases content with
  | incidentUpdate fields =>
    cases packet with
    | incidentUpdate data =>
      have same : data.toIncidentFields = fields := by simpa [understood] using understands
      subst same
      rfl
    | _ => cases understands
  | hello deviceId bootId token => cases understands
  | _ =>
    cases packet with
    | incidentUpdate data => cases understands
    | _ => rfl

theorem heard_contents {contents : List Content}
    (well : ∀ content ∈ contents, understood content monotonicNs (received setup content monotonicNs) = true) :
    (contents.map fun content => received setup content monotonicNs).foldl (heard incidentId) before =
      contents.foldl (reported incidentId) before := by
  induction contents generalizing before with
  | nil => rfl
  | cons content rest ih =>
    rw [List.map_cons,List.foldl_cons,List.foldl_cons,heard_reported (well content (List.mem_cons_self ..))]
    exact ih fun other member => well other (List.mem_cons_of_mem _ member)

theorem reported_contents : (contents setup.arguments pi input).foldl (reported incidentId) before =
    if (verified pi input).state.incidentId = some incidentId then some (verified pi input).state.hazardState
    else before := by
  unfold contents incidentContents
  cases present : (verified pi input).state.incidentId with
  | none => cases healthDue pi input <;> rfl
  | some name =>
    have update : reported incidentId before (.incidentUpdate (incidentFields setup.arguments pi input name)) =
        if some name = some incidentId then some (verified pi input).state.hazardState else before := by
      simp only [reported,Option.some.injEq,eq_comm]
      rfl
    rw [← update]
    cases changed pi input <;> cases healthDue pi input <;> rfl

def told (db : Database) (incidentId : String) (packets : List DevicePacket) : Option HazardState :=
  packets.foldl (heard incidentId) (hazard db incidentId)

theorem told_append (packets later : List DevicePacket) :
    told db incidentId (packets ++ later) = later.foldl (heard incidentId) (told db incidentId packets) := List.foldl_append ..

end Packets

-- The packets that `_dispatch` has yet to get: parsed, on the wire, and still to be sent.
def decode (setup : Setup) (packet : Packet) : DevicePacket :=
  setup.decoders.device packet.packetType packet.monotonicNs packet.payload

def sending (setup : Setup) : Call → Option DevicePacket
  | .connect => none
  | .send content monotonicNs => some (received setup content monotonicNs.1)

def underway (setup : Setup) (link : Link) (packets : List Packet) (calls : List Call) : List DevicePacket :=
  (link.handler.packets ++ packets).map (decode setup) ++ calls.filterMap (sending setup)

structure Live (system : System) : Prop where
  attached : attachedTo system.pi.stream = some 0
  served : ∃ link, system.links = [link] ∧ link.handler.running = true ∧ link.handler.hello.isSome = true
  armed : system.app.armed = true

-- Of an open incident the backend will have the current hazard state, and of an abandoned
-- one it will have a state that has not ended.
def Foretold (verifier : FireVerifier ℚ) (db : Database) (packets : List DevicePacket) : Prop :=
  ∀ number, 1 ≤ number → number ≤ verifier.counter → ∃ hazardState,
    told db (issued verifier number) packets = some hazardState ∧ ended hazardState = false ∧
      (verifier.state.incidentId = some (issued verifier number) → hazardState = verifier.state.hazardState)

-- One connection, and the packets that `_dispatch` has yet to get over it.
def Awaits (setup : Setup) (system : System) (awaited : List DevicePacket) : Prop :=
  ∃ link packets, system.links = [link] ∧ Pending setup system.pi.stream.sequence True link packets ∧
    underway setup link packets system.pi.calls = awaited

structure Tracked (setup : Setup) (system : System) : Prop where
  naming : Naming system.pi.verifier
  queue : ∃ link packets, system.links = [link] ∧ Pending setup system.pi.stream.sequence True link packets ∧
    Foretold system.pi.verifier system.app.database (underway setup link packets system.pi.calls)

section Steps
variable {setup : Setup} {system : System} {link : Link} {packets : List Packet} {connection count : ℕ} {awaited : List DevicePacket}

theorem counted {verifier after : FireVerifier ℚ} {closing : Bool} {number : ℕ} (turned : Turned verifier after closing)
    (below : number ≤ after.counter) (other : after.state.incidentId ≠ some (issued verifier number)) :
    number ≤ verifier.counter := by
  cases turned with
  | closed present forgets counter => exact counter ▸ below
  | stays same counter => exact counter ▸ below
  | raised there counter =>
    cases before : verifier.state.incidentId with
    | some incidentId =>
      rw [before,if_neg (Option.some_ne_none _),Nat.add_zero] at counter
      exact counter ▸ below
    | none =>
      rw [before] at there counter
      rw [counter] at below
      rcases Nat.lt_or_ge verifier.counter number with above | fine
      · have last : number = verifier.counter + 1 := Nat.le_antisymm below above
        rw [last] at other
        exact absurd there other
      · exact fine

theorem foretold_update {db : Database} {awaited : List DevicePacket} {pi : Pi} {input : FrameInput}
    (naming : Naming pi.verifier) (foretold : Foretold pi.verifier db awaited)
    (well : ∀ content ∈ contents setup.arguments pi input,
      understood content input.monotonicNs.1 (received setup content input.monotonicNs.1) = true) :
    Foretold (verified pi input) db
      (awaited ++ (contents setup.arguments pi input).map fun content => received setup content input.monotonicNs.1) := by
  intro number positive below
  have name : issued (verified pi input) number = issued pi.verifier number := issued_update number
  rw [told_append,heard_contents well,reported_contents,name]
  split
  · rename_i current
    exact ⟨_,rfl,update_active naming (by unfold verified at current; rw [current]; rfl),fun _ => rfl⟩
  · rename_i other
    obtain ⟨hazardState,tells,active,_⟩ := foretold number positive (counted update_turned below other)
    exact ⟨hazardState,tells,active,fun same => absurd same other⟩

theorem proceed_attached {arguments : Arguments} {dumps : Content → List UInt8} {pi : Pi} {fresh connection : ℕ}
    {now : Clock} {outcome : Outcome} {answers : ℕ → Bool} (attached : attachedTo pi.stream = some connection)
    (old : fresh ≠ connection)
    (still : attachedTo (proceed arguments dumps pi fresh now outcome answers).1.stream = some connection) :
    ((proceed arguments dumps pi fresh now outcome answers).2 = .nothing ∧
      (proceed arguments dumps pi fresh now outcome answers).1.stream.sequence = pi.stream.sequence ∧
      ∀ setup, (proceed arguments dumps pi fresh now outcome answers).1.calls.filterMap (sending setup) =
        pi.calls.filterMap (sending setup)) ∨
    ∃ content monotonicNs rest, pi.calls = .send content monotonicNs :: rest ∧
      (EdgeLoop.packet dumps pi content monotonicNs).header.fits = true ∧
      (proceed arguments dumps pi fresh now outcome answers).2 =
        .written connection (EdgeLoop.packet dumps pi content monotonicNs).bytes ∧
      (proceed arguments dumps pi fresh now outcome answers).1.stream.sequence = pi.stream.sequence + 1 ∧
      (proceed arguments dumps pi fresh now outcome answers).1.calls = rest := by
  unfold proceed at still ⊢
  cases calls : pi.calls with
  | nil => exact .inl ⟨rfl,rfl,fun setup => by simp only [calls]⟩
  | cons call rest =>
    rw [calls] at still
    cases waits : pi.stream.handshake with
    | some other =>
      simp only [waits] at still ⊢
      cases outcome with
      | done =>
        refine .inl ?_
        simp only
        split
        · refine ⟨rfl,rfl,fun setup => ?_⟩
          cases call <;> rfl
        · exact ⟨rfl,rfl,fun setup => by simp only [calls]⟩
      | refused => cases still
      | failed written => cases still
    | none =>
      simp only [waits] at still ⊢
      cases call with
      | connect =>
        simp only [connect] at still ⊢
        split
        · exact .inl ⟨rfl,rfl,fun setup => rfl⟩
        · rename_i due
          rw [if_neg due] at still
          cases outcome with
          | refused => cases still
          | done =>
            simp only at still
            cases encoded : encodePacket (EdgeLoop.packet dumps pi (greeting arguments) now) with
            | none => simp [encoded,stopped,attachedTo,closed] at still
            | some bytes => exact absurd (by simpa [encoded,attachedTo] using still) old
          | failed written =>
            simp only at still
            cases encoded : encodePacket (EdgeLoop.packet dumps pi (greeting arguments) now) with
            | none => simp [encoded,stopped,attachedTo,closed] at still
            | some bytes => simp [encoded,hungUp,attachedTo,closed] at still
      | send content monotonicNs =>
        have there : pi.stream.connection = some connection := by simpa [attachedTo,waits] using attached
        simp only [there,transmit] at still ⊢
        cases encoded : encodePacket (EdgeLoop.packet dumps pi content monotonicNs) with
        | none => simp [encoded,stopped,attachedTo,closed] at still
        | some bytes =>
          obtain ⟨fits,rfl⟩ := encodePacket_some encoded
          cases outcome with
          | done => exact .inr ⟨content,monotonicNs,rest,rfl,fits,rfl,rfl,rfl⟩
          | refused => simp [encoded,hungUp,attachedTo,closed] at still
          | failed written => simp [encoded,hungUp,attachedTo,closed] at still

theorem awaits_frame {input : FrameInput} (awaits : Awaits setup system awaited)
    (turn : (system.pi.running && system.pi.calls.isEmpty) = true) : Awaits setup (step setup system (.frame input))
      (awaited ++ (contents setup.arguments system.pi input).map fun content => received setup content input.monotonicNs.1) := by
  obtain ⟨link,packets,links,pending,rfl⟩ := awaits
  simp only [Bool.and_eq_true,List.isEmpty_iff] at turn
  obtain ⟨stream,calls,_⟩ := iterate_parts setup.arguments system.pi input turn.1 turn.2
  refine ⟨link,packets,links,?_,?_⟩
  · show Pending setup (iterate setup.arguments system.pi input).stream.sequence True link packets
    rw [stream]
    exact pending
  · show underway setup link packets (iterate setup.arguments system.pi input).calls = _
    rw [calls,turn.2]
    simp only [underway,sends,List.filterMap_nil,List.append_nil,List.append_cancel_left_eq,List.filterMap_map]
    exact congrFun List.filterMap_eq_map' _

theorem frame_idle {input : FrameInput} (turn : ¬ (system.pi.running && system.pi.calls.isEmpty) = true) :
    step setup system (.frame input) = system := by
  have same : iterate setup.arguments system.pi input = system.pi := if_neg turn
  simp only [step,same]

theorem awaits_proceed (sound : Sound setup system) (awaits : Awaits setup system awaited) (live : Live system) {now : Clock}
    {outcome : Outcome} (still : Live (step setup system (.proceed now outcome))) :
    Awaits setup (step setup system (.proceed now outcome)) awaited := by
  obtain ⟨link,packets,links,pending,rfl⟩ := awaits
  have number : system.links.length = 1 := by rw [links]; rfl
  have goes := @proceed_attached setup.arguments setup.dumps system.pi system.links.length 0 now outcome (acknowledged system)
    live.attached (by rw [number]; decide) still.attached
  simp only [step]
  generalize proceed setup.arguments setup.dumps system.pi system.links.length now outcome (acknowledged system) = result at goes
  obtain ⟨after,wire⟩ := result
  simp only at goes
  rcases goes with ⟨rfl,sequence,same⟩ | ⟨content,monotonicNs,rest,calls,fits,rfl,sequence,left⟩
  · refine ⟨link,packets,links,?_,?_⟩
    · rw [sequence]
      exact pending
    · rw [underway,underway,same]
  · have ready := sound.calls (.send content monotonicNs) (by rw [calls]; exact List.mem_cons_self ..)
    refine ⟨{ link with flight := link.flight ++ (EdgeLoop.packet setup.dumps system.pi content monotonicNs).bytes },
      packets ++ [EdgeLoop.packet setup.dumps system.pi content monotonicNs],?_,?_,?_⟩
    · simp only [carry,links]
      rfl
    · show Pending setup after.stream.sequence True _ _
      rw [sequence]
      exact written_pending pending trivial ready.2 ⟨fits,ready.1⟩ rfl (List.prefix_refl _) fun _ => rfl
    · show underway setup _ _ after.calls = _
      rw [left,calls]
      simp [underway,sending,decode,received,EdgeLoop.packet]

theorem other_absent (links : system.links = [link]) : system.links[connection + 1]? = none := by
  rw [links]
  rfl

theorem halt_ends (links : system.links = [link]) : ¬ Live (halt system 0) := by
  rintro ⟨_,⟨other,same,running,_⟩,_⟩
  simp only [halt,links] at same
  cases same
  cases running

theorem halt_other (links : system.links = [link]) : halt system (connection + 1) = system := by
  have same : system.links.modify (connection + 1) halted = system.links := by simp [links]
  simp only [halt,same]

theorem awaits_read (awaits : Awaits setup system awaited) (still : Live (read system connection count)) :
    Awaits setup (read system connection count) awaited := by
  obtain ⟨link,packets,links,pending,rfl⟩ := awaits
  unfold read at still ⊢
  cases arrives : arriving system connection count with
  | none => exact ⟨link,packets,links,pending,rfl⟩
  | some pair =>
    obtain ⟨reader,chunk⟩ := pair
    obtain ⟨found,running,drained,rfl⟩ := arriving_parts arrives
    cases connection with
    | succ connection =>
      rw [other_absent links] at found
      cases found
    | zero =>
      rw [links] at found
      cases found
      simp only [arrives] at still ⊢
      by_cases overfull : setup.device.maxPayloadBytes + headerSize <
          link.handler.parser.buffer.length + (link.flight.take count).length
      · rw [overfull_refused pending overfull] at still
        exact absurd ⟨still.attached,still.served,still.armed⟩ (halt_ends links)
      · obtain ⟨handler,left,feeds,_,parts,later⟩ := read_pending pending drained (not_lt.mp overfull)
        rw [feeds]
        refine ⟨⟨link.flight.drop count,handler⟩,left,?_,later,?_⟩
        · simp only [put,links]
          rfl
        · show underway setup _ left system.pi.calls = _
          simp only [underway,parts,drained,List.nil_append]

theorem read_kept : (read system connection count).pi = system.pi ∧ (read system connection count).app = system.app := by
  unfold read
  split
  · exact ⟨rfl,rfl⟩
  · split <;> exact ⟨rfl,rfl⟩

theorem handle_pi {now : Time} : (handle setup system connection now).pi = system.pi := by
  unfold handle
  split
  · rfl
  · split <;> rfl

theorem awaits_handle (configured : Configured setup) (awaits : Awaits setup system awaited) (live : Live system) {now : Time}
    (still : Live (handle setup system connection now)) :
    (Awaits setup (handle setup system connection now) awaited ∧ (handle setup system connection now).app = system.app) ∨
    ∃ hello packet rest, awaited = packet :: rest ∧ Awaits setup (handle setup system connection now) rest ∧
      dispatch system.app now hello packet = .ok (handle setup system connection now).app := by
  obtain ⟨link,packets,links,pending,rfl⟩ := awaits
  unfold handle at still ⊢
  cases takes : queued system connection with
  | none => exact .inl ⟨⟨link,packets,links,pending,rfl⟩,rfl⟩
  | some triple =>
    obtain ⟨reader,packet,rest⟩ := triple
    obtain ⟨found,running,queue⟩ := queued_parts takes
    cases connection with
    | succ connection =>
      rw [other_absent links] at found
      cases found
    | zero =>
      rw [links] at found
      cases found
      obtain ⟨server,same,_,greeted⟩ := live.served
      rw [links] at same
      cases same
      simp only [takes] at still ⊢
      rcases handle_cases configured pending queue system.app now with ⟨unknown,_⟩ | ⟨hello,later,⟨unknown,_⟩ | ⟨_,_,dispatched⟩⟩
      · simp [unknown] at greeted
      · simp [unknown] at greeted
      · rw [dispatched] at still ⊢
        cases taken : dispatch system.app now hello (setup.decoders.device packet.packetType packet.monotonicNs packet.payload) with
        | error error =>
          rw [taken] at still
          have halts := halt_ends links
          cases error with
          | protocolError text => exact absurd ⟨still.attached,still.served,still.armed⟩ halts
          | _ => exact absurd still halts
        | ok app =>
          refine .inr ⟨hello,decode setup packet,_,?_,⟨_,packets,?_,later,rfl⟩,taken⟩
          · simp only [underway,queue,List.cons_append,List.map_cons]
            rfl
          · simp only [put,links]
            rfl

theorem backend_live {tick : Tick} (awaits : Awaits setup system awaited) (still : Live (backend setup system tick)) :
    backend setup system tick = system ∨ (∀ hello packet, tick.input ≠ .packet hello packet) ∧
      backend setup system tick = { system with app := Backend.step setup.communications system.app tick } := by
  obtain ⟨link,packets,links,_⟩ := awaits
  unfold backend at still ⊢
  split
  · exact .inl rfl
  · rename_i restarts
    simp only [restarts] at still
    obtain ⟨other,same,running,_⟩ := still.served
    simp only [links,List.map_cons,List.map_nil] at same
    cases same
    cases running
  · rename_i ours _
    exact .inr ⟨ours,rfl⟩

theorem awaits_backend {tick : Tick} (awaits : Awaits setup system awaited) (still : Live (backend setup system tick)) :
    Awaits setup (backend setup system tick) awaited := by
  rcases backend_live awaits still with same | ⟨_,same⟩ <;> rw [same] <;> exact awaits

theorem Tracked.awaits (tracked : Tracked setup system) :
    ∃ awaited, Awaits setup system awaited ∧ Foretold system.pi.verifier system.app.database awaited := by
  obtain ⟨link,packets,links,pending,foretold⟩ := tracked.queue
  exact ⟨_,⟨link,packets,links,pending,rfl⟩,foretold⟩

theorem awaits_tracked (naming : Naming system.pi.verifier) (awaits : Awaits setup system awaited)
    (foretold : Foretold system.pi.verifier system.app.database awaited) : Tracked setup system := by
  obtain ⟨link,packets,links,pending,rfl⟩ := awaits
  exact ⟨naming,link,packets,links,pending,foretold⟩

theorem tracked_frame {input : FrameInput} (tracked : Tracked setup system) (well : FrameWellFormed setup system.pi input) :
    Tracked setup (step setup system (.frame input)) := by
  by_cases turn : (system.pi.running && system.pi.calls.isEmpty) = true
  · obtain ⟨awaited,awaits,foretold⟩ := tracked.awaits
    have understands : ∀ content ∈ contents setup.arguments system.pi input,
        understood content input.monotonicNs.1 (received setup content input.monotonicNs.1) = true := by
      intro content member
      have facts := well content member
      rw [wellFormed,Bool.and_eq_true] at facts
      exact facts.2
    have later : Awaits setup (step setup system (.frame input)) _ := awaits_frame awaits turn
    have parts := turn
    simp only [Bool.and_eq_true,List.isEmpty_iff] at parts
    obtain ⟨_,_,verifier⟩ := iterate_parts setup.arguments system.pi input parts.1 parts.2
    apply awaits_tracked _ later
    · show Foretold (iterate setup.arguments system.pi input).verifier system.app.database _
      rw [verifier]
      exact foretold_update tracked.naming foretold understands
    · show Naming (iterate setup.arguments system.pi input).verifier
      rw [verifier]
      exact naming_update tracked.naming
  · rw [frame_idle turn]
    exact tracked

theorem tracked_proceed (sound : Sound setup system) (tracked : Tracked setup system) (live : Live system) {now : Clock}
    {outcome : Outcome} (still : Live (step setup system (.proceed now outcome))) :
    Tracked setup (step setup system (.proceed now outcome)) := by
  obtain ⟨awaited,awaits,foretold⟩ := tracked.awaits
  have verifier : (step setup system (.proceed now outcome)).pi.verifier = system.pi.verifier := remains_proceed.1
  apply awaits_tracked _ (awaits_proceed sound awaits live still)
  · show Foretold (step setup system (.proceed now outcome)).pi.verifier system.app.database awaited
    rw [verifier]
    exact foretold
  · rw [verifier]
    exact tracked.naming

theorem tracked_read (tracked : Tracked setup system) (still : Live (read system connection count)) :
    Tracked setup (read system connection count) := by
  obtain ⟨awaited,awaits,foretold⟩ := tracked.awaits
  have later := awaits_read awaits still
  obtain ⟨pi,app⟩ := @read_kept system connection count
  apply awaits_tracked _ later
  · rw [pi,app]
    exact foretold
  · rw [pi]
    exact tracked.naming

theorem tracked_handle (configured : Configured setup) (tracked : Tracked setup system) (live : Live system) {now : Time}
    (still : Live (handle setup system connection now)) : Tracked setup (handle setup system connection now) := by
  obtain ⟨awaited,awaits,foretold⟩ := tracked.awaits
  have naming : Naming (handle setup system connection now).pi.verifier := by
    rw [handle_pi]
    exact tracked.naming
  rcases awaits_handle configured awaits live still with ⟨later,same⟩ | ⟨hello,packet,rest,rfl,later,taken⟩
  · apply awaits_tracked naming later
    rw [handle_pi,same]
    exact foretold
  · apply awaits_tracked naming later
    rw [handle_pi]
    intro number positive below
    obtain ⟨hazardState,tells,rest⟩ := foretold number positive below
    refine ⟨hazardState,?_,rest⟩
    rw [← tells,told,told,List.foldl_cons,hazard_dispatch live.armed taken]

theorem tracked_backend {tick : Tick} (tracked : Tracked setup system) (unreset : isReset tick.input = false)
    (still : Live (backend setup system tick)) : Tracked setup (backend setup system tick) := by
  obtain ⟨awaited,awaits,foretold⟩ := tracked.awaits
  have later := awaits_backend awaits still
  rcases backend_live awaits still with same | ⟨ours,same⟩
  · rw [same]
    exact tracked
  · rw [same] at later ⊢
    refine awaits_tracked ?_ later ?_
    · exact tracked.naming
    intro number positive below
    obtain ⟨hazardState,tells,rest⟩ := foretold number positive below
    refine ⟨hazardState,?_,rest⟩
    rw [← tells,told,told,hazard_step ours unreset]

def resets : Input → Bool
  | .backend tick => isReset tick.input
  | _ => false

theorem tracked_step {input : Input} (configured : Configured setup) (sound : Sound setup system)
    (tracked : Tracked setup system) (live : Live system) (well : WellFormed setup system input)
    (unreset : resets input = false) (still : Live (step setup system input)) : Tracked setup (step setup system input) := by
  cases input with
  | frame input => exact tracked_frame tracked well
  | proceed now outcome => exact tracked_proceed sound tracked live still
  | read connection count => exact tracked_read tracked still
  | handle connection now => exact tracked_handle configured tracked live still
  | lost connection =>
    obtain ⟨link,packets,links,_⟩ := tracked.queue
    cases connection with
    | zero => exact absurd still (halt_ends links)
    | succ connection =>
      simp only [step,halt_other links]
      exact tracked
  | backend tick => exact tracked_backend tracked unreset still

def abandons (system : System) : Input → Bool
  | .frame input => system.pi.running && system.pi.calls.isEmpty &&
    closes system.pi.verifier input.monotonicNs.1 input.detections
  | _ => false

def isFrame : Input → Bool
  | .frame _ => true
  | _ => false

theorem verifier_step {input : Input} (other : isFrame input = false) :
    (step setup system input).pi.verifier = system.pi.verifier := by
  cases input with
  | frame input => cases other
  | proceed now outcome => exact remains_proceed.1
  | read connection count =>
    simp only [step,read]
    split
    · rfl
    · split <;> rfl
  | handle connection now =>
    simp only [step,handle]
    split
    · rfl
    · split <;> rfl
  | lost connection => rfl
  | backend tick =>
    simp only [step,backend]
    split <;> rfl

theorem abandoned_step {input : Input} (naming : Naming system.pi.verifier) :
    abandoned (step setup system input).pi.verifier = (abandoned system.pi.verifier || abandons system input) := by
  cases framed : isFrame input with
  | false =>
    have quiet : abandons system input = false := by
      cases input with
      | frame input => cases framed
      | _ => rfl
    rw [verifier_step framed,quiet,Bool.or_false]
  | true =>
    cases input with
    | frame input =>
      simp only [step,abandons]
      by_cases turn : (system.pi.running && system.pi.calls.isEmpty) = true
      · have parts := turn
        simp only [Bool.and_eq_true,List.isEmpty_iff] at parts
        obtain ⟨_,_,verifier⟩ := iterate_parts setup.arguments system.pi input parts.1 parts.2
        rw [verifier,turn,Bool.true_and]
        exact abandoned_update naming
      · have same : iterate setup.arguments system.pi input = system.pi := if_neg turn
        rw [same,Bool.eq_false_iff.mpr turn,Bool.false_and,Bool.or_false]
    | _ => cases framed

end Steps

end Ignis.DeviceLink
