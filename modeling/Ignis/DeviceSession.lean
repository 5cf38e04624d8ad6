import Ignis.DeviceTraffic

-- An undisturbed session: the Pi sends a packet, and the backend reads and handles it before the next
-- one is sent.
namespace Ignis.DeviceLink
open Framing Protocol Backend Database DeviceServer EdgeLoop Runs

structure Idle (setup : Setup) (system : System) (connection : ℕ) (handler : Handler) : Prop where
  link : system.links[connection]? = some ⟨[],handler⟩
  running : handler.running = true
  drained : handler.packets = []
  sane : handler.parser.Sane setup.device.maxPayloadBytes
  empty : handler.parser.held = []
  behind : handler.lastSequence < system.pi.stream.sequence

def cycle (connection : ℕ) (now : Clock) : List Input :=
  [.proceed now .done,.read connection 65536,.handle connection now.1]

variable {setup : Setup} {system : System} {connection : ℕ} {hello : Hello} {handler : Handler} {packet : Packet}

theorem bytes_nonempty (packet : Packet) : packet.bytes ≠ [] := by
  intro empty
  have size := length_bytes packet
  rw [empty,List.length_nil,headerSize] at size
  omega

theorem read_packet (system : System) (connection : ℕ) (handler : Handler) (found : system.links[connection]? = some ⟨packet.bytes,handler⟩) (running : handler.running = true)
    (drained : handler.packets = []) (sane : handler.parser.Sane setup.device.maxPayloadBytes)
    (empty : handler.parser.held = []) (sendable : packet.Sendable setup.device.maxPayloadBytes)
    (small : packet.bytes.length ≤ 65536) :
    ∃ parser, parser.Sane setup.device.maxPayloadBytes ∧ parser.held = [] ∧ read system connection 65536 =
      put system connection ⟨[],{ handler with parser := parser, packets := [packet] }⟩ := by
  have taken : packet.bytes.take 65536 = packet.bytes := List.take_of_length_le small
  have arrives : arriving system connection 65536 = some (⟨packet.bytes,handler⟩,packet.bytes) := by
    simp [arriving,found,Handler.chunk,running,drained,taken,bytes_nonempty,small]
  have bounded : (stream Packet.bytes [packet]).length ≤ setup.device.maxPayloadBytes + headerSize := by
    have limit := sendable.2
    rw [stream_cons,stream_nil,List.append_nil,length_bytes]
    omega
  obtain ⟨parser,fed,sane,empty⟩ := feed_whole sane empty (by simpa using sendable) bounded
  rw [stream_cons,stream_nil,List.append_nil] at fed
  refine ⟨parser,sane,empty,?_⟩
  simp only [read,arrives,Handler.feed,fed,List.drop_of_length_le small]

theorem queued_packet {parser : PacketParser} (link : Link) (found : system.links[connection]? = some link)
    (running : handler.running = true) :
    queued (put system connection ⟨[],{ handler with parser := parser, packets := [packet] }⟩) connection =
      some (⟨[],{ handler with parser := parser, packets := [packet] }⟩,packet,[]) := by
  have inside : connection < system.links.length := by
    by_contra beyond
    rw [List.getElem?_eq_none (not_lt.mp beyond)] at found
    cases found
  simp [queued,put,inside,running]

theorem packet_fits {dumps : Content → List UInt8} {pi : Pi} {content : Content}
    (small : (dumps content).length + headerSize ≤ 65536) (left : pi.stream.sequence < 2 ^ 64) (monotonicNs : Clock) :
    encodePacket (EdgeLoop.packet dumps pi content monotonicNs) =
      some (EdgeLoop.packet dumps pi content monotonicNs).bytes := by
  have clock := monotonicNs.2
  rw [headerSize] at small
  exact if_pos (header_fits (show 0 < 2 ^ 16 by decide) (show (dumps content).length < 2 ^ 32 by omega) left
    (show monotonicNs.1 < 2 ^ 64 by omega))

theorem dispatch_armed {app next : App} {now : Time} {packet : DevicePacket}
    (taken : dispatch app now hello packet = .ok next) : next.armed = app.armed := by
  cases packet with
  | incidentUpdate data =>
    simp only [dispatch] at taken
    split at taken
    · cases taken
      rfl
    · split at taken
      · cases taken
      · cases taken
        rfl
  | timelineEvent data =>
    simp only [dispatch] at taken
    split at taken
    · cases taken
    · split at taken
      · cases taken
      · cases taken
        rfl
  | invalidUpdate error =>
    simp only [dispatch] at taken
    split at taken
    · cases taken
      rfl
    · cases taken
  | malformed error => cases taken
  | unexpected packetType => cases taken
  | _ =>
    cases taken
    rfl

structure Steady (before : System) (connection : ℕ) (hello : Hello) (system : System) : Prop where
  attached : attachedTo system.pi.stream = some connection
  serves : ∃ link, system.links[connection]? = some link ∧ link.handler.running = true ∧ link.handler.hello = some hello
  links : system.links.length = before.links.length
  armed : system.app.armed = before.app.armed

section Sending
variable {content : Content} {monotonicNs : Clock} {rest : List Call}

structure Sent (setup : Setup) (system after : System) (connection : ℕ) (hello : Hello) (rest : List Call) : Prop where
  pi : after.pi = { numbered system.pi with calls := rest }
  same : after.rejections = system.rejections
  idle : ∃ handler, Idle setup after connection handler ∧ handler.hello = some hello

def launchedPacket (system : System) (connection : ℕ) (rest : List Call) (packet : Packet) : System := { system with
  pi := { numbered system.pi with calls := rest }
  links := system.links.modify connection fun link => { link with flight := link.flight ++ packet.bytes } }

def fedPacket (handler : Handler) (parser : PacketParser) (packet : Packet) : Handler :=
  { handler with parser := parser, packets := [packet] }

def handledPacket (handler : Handler) (parser : PacketParser) (packet : Packet) : Handler :=
  { handler with parser := parser, packets := [], lastSequence := packet.sequence }

theorem cycle_parts (now : Clock) (idle : Idle setup system connection handler) (greeted : handler.hello = some hello)
    (waits : system.pi.stream.handshake = none) (attached : system.pi.stream.connection = some connection)
    (calls : system.pi.calls = .send content monotonicNs :: rest)
    (limit : (setup.dumps content).length ≤ setup.device.maxPayloadBytes)
    (small : (setup.dumps content).length + headerSize ≤ 65536) (left : system.pi.stream.sequence < 2 ^ 64) :
    ∃ packet parser, packet.sequence = system.pi.stream.sequence ∧ parser.Sane setup.device.maxPayloadBytes ∧ parser.held = [] ∧
      step setup system (.proceed now .done) = launchedPacket system connection rest packet ∧
      read (launchedPacket system connection rest packet) connection 65536 =
        put (launchedPacket system connection rest packet) connection ⟨[],fedPacket handler parser packet⟩ ∧
      queued (put (launchedPacket system connection rest packet) connection ⟨[],fedPacket handler parser packet⟩) connection =
        some (⟨[],fedPacket handler parser packet⟩,packet,[]) ∧
      (fedPacket handler parser packet).handle setup.device setup.decoders system.app now.1 packet [] =
        match dispatch system.app now.1 hello (received setup content monotonicNs.1) with
        | .error error => .error error
        | .ok app => .ok (handledPacket handler parser packet,app) := by
  have fits := packet_fits small left monotonicNs
  generalize same : EdgeLoop.packet setup.dumps system.pi content monotonicNs = packet at fits
  have number : packet.sequence = system.pi.stream.sequence := by
    rw [← same]
    rfl
  have sendable : packet.Sendable setup.device.maxPayloadBytes := by
    refine ⟨(encodePacket_some fits).1,?_⟩
    rw [← same]
    exact limit
  have size : packet.bytes.length ≤ 65536 := by
    rw [length_bytes,← same]
    simp only [EdgeLoop.packet]
    omega
  have transmits : step setup system (.proceed now .done) = launchedPacket system connection rest packet := by
    simp only [step,proceed,calls,waits,attached,transmit,same,fits,carry]
    rfl
  have found : (launchedPacket system connection rest packet).links[connection]? = some ⟨packet.bytes,handler⟩ := by
    simp [launchedPacket,idle.link]
  obtain ⟨parser,sane,empty,reads⟩ := read_packet (launchedPacket system connection rest packet) connection handler found
    idle.running idle.drained idle.sane idle.empty sendable size
  refine ⟨packet,parser,number,sane,empty,transmits,reads,queued_packet ⟨packet.bytes,handler⟩ found idle.running,?_⟩
  have order : ¬ (packet.sequence : ℤ) ≤ handler.lastSequence := by
    have behind := idle.behind
    rw [number]
    omega
  have reading : setup.decoders.device packet.packetType packet.monotonicNs packet.payload =
      received setup content monotonicNs.1 := by
    rw [← same]
    rfl
  cases taken : dispatch system.app now.1 hello (received setup content monotonicNs.1) <;>
    simp only [Handler.handle,fedPacket,handledPacket,if_neg order,greeted,reading,taken]

theorem cycle_send (now : Clock) (idle : Idle setup system connection handler) (greeted : handler.hello = some hello)
    (waits : system.pi.stream.handshake = none) (attached : system.pi.stream.connection = some connection)
    (calls : system.pi.calls = .send content monotonicNs :: rest)
    (limit : (setup.dumps content).length ≤ setup.device.maxPayloadBytes)
    (small : (setup.dumps content).length + headerSize ≤ 65536) (left : system.pi.stream.sequence < 2 ^ 64) :
    (∀ app, dispatch system.app now.1 hello (received setup content monotonicNs.1) = .ok app →
      Sent setup system (run (step setup) system (cycle connection now)) connection hello rest ∧
      (run (step setup) system (cycle connection now)).app = app ∧
      Throughout (step setup) (Steady system connection hello) system (cycle connection now)) ∧
    ∀ text, dispatch system.app now.1 hello (received setup content monotonicNs.1) = .error (.protocolError text) →
      (run (step setup) system (cycle connection now)).rejections = system.rejections ++ [text] := by
  obtain ⟨packet,parser,number,sane,empty,transmits,reads,takes,handles⟩ :=
    cycle_parts now idle greeted waits attached calls limit small left
  let sent : System := launchedPacket system connection rest packet
  let fed : System := put sent connection ⟨[],fedPacket handler parser packet⟩
  have second : step setup sent (.read connection 65536) = fed := reads
  have state : fed.app = system.app := rfl
  have inside : connection < system.links.length := by
    by_contra beyond
    have missing := idle.link
    rw [List.getElem?_eq_none (not_lt.mp beyond)] at missing
    cases missing
  constructor
  · intro app taken
    let after : System := { put fed connection ⟨[],handledPacket handler parser packet⟩ with app := app }
    have third : step setup fed (.handle connection now.1) = after := by
      show handle setup fed connection now.1 = after
      rw [handle,takes]
      simp only [state,handles,taken]
      rfl
    have final : run (step setup) system (cycle connection now) = after := by
      rw [cycle,run_cons,transmits,run_cons,second,run_cons,third,run_nil]
    have open_ : attachedTo system.pi.stream = some connection := by simp [attachedTo,waits,attached]
    have last : after.links[connection]? = some ⟨[],handledPacket handler parser packet⟩ := by
      simp [after,fed,put,sent,launchedPacket,inside]
    rw [final]
    refine ⟨⟨rfl,rfl,_,⟨last,idle.running,rfl,sane,empty,?_⟩,greeted⟩,rfl,?_⟩
    · simp [after,fed,put,sent,launchedPacket,handledPacket,numbered,number]
    · rw [cycle,throughout_cons,transmits,throughout_cons,second,throughout_cons,third,throughout_nil]
      refine ⟨⟨open_,?_,rfl,rfl⟩,⟨open_,?_,?_,rfl⟩,⟨open_,?_,?_,rfl⟩,⟨open_,?_,?_,dispatch_armed taken⟩⟩
      · exact ⟨_,idle.link,idle.running,greeted⟩
      · exact ⟨⟨packet.bytes,handler⟩,by simp [launchedPacket,idle.link],idle.running,greeted⟩
      · simp [launchedPacket]
      · exact ⟨⟨[],fedPacket handler parser packet⟩,by simp [fed,put,sent,launchedPacket,inside],idle.running,greeted⟩
      · simp [fed,put,sent,launchedPacket]
      · exact ⟨_,last,idle.running,greeted⟩
      · simp [after,fed,put,sent,launchedPacket]
  · intro text rejected
    have ends : run (step setup) system (cycle connection now) = handle setup fed connection now.1 := by
      rw [cycle,run_cons,transmits,run_cons,second]
      rfl
    rw [ends,handle,takes]
    simp only [state,handles,rejected]
    rfl

end Sending

def connecting (now : Clock) : List Input := cycle 0 now ++ [.proceed now .done]

theorem connected_start (configured : Configured setup) (plain : ascii setup.device.deviceToken = true)
    (small : (setup.dumps (greeting setup.arguments)).length + headerSize ≤ 65536) (now : Clock) :
    ∃ handler, Idle setup (run (step setup) (start setup) (connecting now)) 0 handler ∧
      handler.hello = some ⟨setup.device.expectedDeviceId,setup.arguments.bootId⟩ ∧
      (run (step setup) (start setup) (connecting now)).pi =
        { EdgeLoop.launched setup.arguments with stream := ⟨2,some 0,none,0⟩, calls := [] } ∧
      (run (step setup) (start setup) (connecting now)).app = fresh ∧
      (run (step setup) (start setup) (connecting now)).rejections = [] ∧
      (run (step setup) (start setup) (connecting now)).links.length = 1 := by
  have fits := packet_fits small (show (EdgeLoop.launched setup.arguments).stream.sequence < 2 ^ 64 from Nat.one_lt_two_pow (by decide)) now
  generalize same : EdgeLoop.packet setup.dumps (EdgeLoop.launched setup.arguments) (greeting setup.arguments) now = packet at fits
  have sendable : packet.Sendable setup.device.maxPayloadBytes := by
    refine ⟨(encodePacket_some fits).1,?_⟩
    rw [← same]
    exact configured.size
  have size : packet.bytes.length ≤ 65536 := by
    rw [length_bytes,← same]
    simp only [EdgeLoop.packet]
    omega
  have greets : Greeting setup packet := by
    rw [← same]
    exact ⟨rfl,rfl⟩
  let handler := accepted setup.device
  let begun : Pi := { EdgeLoop.launched setup.arguments with stream := ⟨2,none,some 0,0⟩ }
  let sent : System := ⟨begun,[⟨packet.bytes,handler⟩],fresh,[]⟩
  have opens : connect setup.arguments setup.dumps (EdgeLoop.launched setup.arguments) [] 0 now .done =
      (begun,.opened packet.bytes) := by
    have allowed : ¬ now.1 < (EdgeLoop.launched setup.arguments).stream.nextReconnect := Nat.not_lt_zero _
    rw [connect,if_neg allowed]
    simp only [same,fits]
    rfl
  have connects : step setup (start setup) (.proceed now .done) = sent := by
    have turn : EdgeLoop.proceed setup.arguments setup.dumps (start setup).pi (start setup).links.length now .done
        (acknowledged (start setup)) = connect setup.arguments setup.dumps (EdgeLoop.launched setup.arguments) [] 0 now .done := rfl
    rw [step,turn,opens]
    rfl
  obtain ⟨parser,sane,empty,reads⟩ := read_packet sent 0 handler rfl rfl rfl
    (created_sane setup.device.maxPayloadBytes) rfl sendable size
  let fed : Handler := { handler with parser := parser, packets := [packet] }
  have takes : queued (put sent 0 ⟨[],fed⟩) 0 = some (⟨[],fed⟩,packet,[]) := queued_packet ⟨packet.bytes,handler⟩ rfl rfl
  have order : ¬ (packet.sequence : ℤ) ≤ handler.lastSequence := by
    simp only [handler,accepted]
    omega
  have greeted := greet_greeting configured greets
  rw [if_pos plain] at greeted
  let known : Hello := ⟨setup.device.expectedDeviceId,setup.arguments.bootId⟩
  let after : Handler := { fed with packets := [], lastSequence := packet.sequence, hello := some known }
  have handles : fed.handle setup.device setup.decoders fresh now.1 packet [] = .ok (after,fresh) := by
    simp only [Handler.handle,fed,if_neg order]
    simp only [handler,accepted,greeted]
    rfl
  have third : run (step setup) (start setup) (cycle 0 now) = { put sent 0 ⟨[],after⟩ with app := fresh } := by
    show handle setup (read (step setup (start setup) (.proceed now .done)) 0 65536) 0 now.1 = _
    rw [connects,reads]
    change handle setup (put sent 0 ⟨[],fed⟩) 0 now.1 = _
    rw [handle,takes]
    have state : (put sent 0 ⟨[],fed⟩).app = fresh := rfl
    simp only [state,handles]
    rfl
  have final : run (step setup) (start setup) (connecting now) =
      ⟨{ EdgeLoop.launched setup.arguments with stream := ⟨2,some 0,none,0⟩, calls := [] },[⟨[],after⟩],fresh,[]⟩ := by
    rw [connecting,run_snoc,third]
    rfl
  rw [final]
  refine ⟨after,⟨rfl,rfl,rfl,sane,empty,?_⟩,rfl,rfl,rfl,rfl,rfl⟩
  show (packet.sequence : ℤ) < 2
  rw [← same]
  exact show ((1 : ℕ) : ℤ) < 2 by decide

structure Linked (setup : Setup) (system : System) (connection : ℕ) (hello : Hello) (calls : List Call) : Prop where
  waits : system.pi.stream.handshake = none
  attached : system.pi.stream.connection = some connection
  calls : system.pi.calls = calls
  idle : ∃ handler, Idle setup system connection handler ∧ handler.hello = some hello

def sends (contents : List Content) (monotonicNs : Clock) : List Call := contents.map fun content => .send content monotonicNs
def cycles (connection : ℕ) (now : Clock) (count : ℕ) : List Input := (List.replicate count (cycle connection now)).flatten

def sendable (setup : Setup) (content : Content) : Bool :=
  (setup.dumps content).length ≤ setup.device.maxPayloadBytes && (setup.dumps content).length + headerSize ≤ 65536

theorem sendable_sizes {content : Content} (fits : sendable setup content = true) :
    (setup.dumps content).length ≤ setup.device.maxPayloadBytes ∧ (setup.dumps content).length + headerSize ≤ 65536 := by
  simpa only [sendable,Bool.and_eq_true,decide_eq_true_eq] using fits

section Calls
variable {contents : List Content} {content : Content} {monotonicNs now : Clock} {rest : List Call}

def dispatched (app : App) (now : Time) (hello : Hello) (packets : List DevicePacket) : Except DeviceError App :=
  packets.foldlM (fun app packet => dispatch app now hello packet) app

theorem cycles_send (contents : List Content) {app : App}
    (linked : Linked setup system connection hello (sends contents monotonicNs ++ rest))
    (sized : ∀ content ∈ contents, sendable setup content = true)
    (left : system.pi.stream.sequence + contents.length ≤ 2 ^ 64)
    (taken : dispatched system.app now.1 hello (contents.map fun content => received setup content monotonicNs.1) = .ok app) :
    Linked setup (run (step setup) system (cycles connection now contents.length)) connection hello rest ∧
      (run (step setup) system (cycles connection now contents.length)).app = app ∧
      (run (step setup) system (cycles connection now contents.length)).rejections = system.rejections ∧
      (run (step setup) system (cycles connection now contents.length)).pi = { system.pi with
        stream := { system.pi.stream with sequence := system.pi.stream.sequence + contents.length }
        calls := rest } ∧
      Throughout (step setup) (Steady system connection hello) system (cycles connection now contents.length) := by
  obtain ⟨handler,idle,greeted⟩ := linked.idle
  induction contents generalizing system handler with
  | nil =>
    have calls := linked.calls
    have open_ : attachedTo system.pi.stream = some connection := by simp [attachedTo,linked.waits,linked.attached]
    cases taken
    exact ⟨linked,rfl,rfl,by rw [← show system.pi.calls = rest from calls]; rfl,
      throughout_nil.mpr ⟨open_,⟨_,idle.link,idle.running,greeted⟩,rfl,rfl⟩⟩
  | cons content contents ih =>
    have fits := sendable_sizes (sized content (List.mem_cons_self ..))
    rw [List.length_cons] at left
    rw [List.map_cons,dispatched,List.foldlM_cons] at taken
    cases first : dispatch system.app now.1 hello (received setup content monotonicNs.1) with
    | error error =>
      rw [first] at taken
      cases taken
    | ok middle =>
      rw [first] at taken
      obtain ⟨sent,same,steady⟩ := (cycle_send now idle greeted linked.waits linked.attached linked.calls fits.1 fits.2
        (by omega)).1 middle first
      have split : cycles connection now (content :: contents).length = cycle connection now ++ cycles connection now contents.length := by
        simp [cycles,List.replicate_succ]
      rw [split,run_append,throughout_append]
      have here := steady.last
      generalize run (step setup) system (cycle connection now) = next at sent same here ⊢
      obtain ⟨server,serves,greets⟩ := sent.idle
      have later : Linked setup next connection hello (sends contents monotonicNs ++ rest) := by
        refine ⟨?_,?_,?_,sent.idle⟩ <;> rw [sent.pi]
        · exact linked.waits
        · exact linked.attached
        · rfl
      have counts : next.pi.stream.sequence = system.pi.stream.sequence + 1 := by
        rw [sent.pi]
        rfl
      obtain ⟨ends,app,rejections,pi,stays⟩ := ih later (fun other member => sized other (List.mem_cons_of_mem _ member))
        (by omega) (by rw [same]; exact taken) server serves greets
      refine ⟨ends,app,rejections.trans sent.same,?_,steady,stays.imp fun state still => ?_⟩
      · rw [pi,sent.pi]
        simp only [numbered,List.length_cons]
        rw [Nat.add_assoc,Nat.add_comm 1]
      · exact ⟨still.attached,still.serves,still.links.trans here.links,still.armed.trans here.armed⟩

theorem dispatched_quiet (hello : Hello) {app : App} {packets : List DevicePacket}
    (quiet : ∀ packet ∈ packets, dispatch app now.1 hello packet = .ok app) : dispatched app now.1 hello packets = .ok app := by
  induction packets with
  | nil => rfl
  | cons packet rest ih =>
    rw [dispatched,List.foldlM_cons,quiet packet (List.mem_cons_self ..)]
    exact ih fun other member => quiet other (List.mem_cons_of_mem _ member)

theorem cycles_rejected {text : String}
    (linked : Linked setup system connection hello (sends contents monotonicNs ++ .send content monotonicNs :: rest))
    (sized : ∀ other ∈ contents, sendable setup other = true) (fits : sendable setup content = true)
    (left : system.pi.stream.sequence + contents.length < 2 ^ 64)
    (quiet : ∀ other ∈ contents, dispatch system.app now.1 hello (received setup other monotonicNs.1) = .ok system.app)
    (rejected : dispatch system.app now.1 hello (received setup content monotonicNs.1) = .error (.protocolError text)) :
    (run (step setup) system (cycles connection now contents.length ++ cycle connection now)).rejections =
      system.rejections ++ [text] := by
  have taken := dispatched_quiet hello (List.forall_mem_map.mpr quiet)
  obtain ⟨later,app,rejections,pi,_⟩ := cycles_send contents linked sized (by omega) taken
  have sequence : (run (step setup) system (cycles connection now contents.length)).pi.stream.sequence =
      system.pi.stream.sequence + contents.length := by rw [pi]
  obtain ⟨handler,idle,greeted⟩ := later.idle
  obtain ⟨limit,small⟩ := sendable_sizes fits
  rw [run_append,← rejections]
  refine (cycle_send now idle greeted later.waits later.attached later.calls limit small (by omega)).2 text ?_
  rw [app]
  exact rejected

end Calls

theorem iterate_parts (arguments : Arguments) (pi : Pi) (input : FrameInput) (running : pi.running = true)
    (idle : pi.calls = []) : (iterate arguments pi input).stream = pi.stream ∧
      (iterate arguments pi input).calls = sends (contents arguments pi input) input.monotonicNs ∧
      (iterate arguments pi input).verifier = verified pi input := by
  unfold iterate
  rw [if_pos (by simp [running,idle])]
  cases (verified pi input).state.incidentId with
  | none => exact ⟨rfl,rfl,rfl⟩
  | some incidentId =>
    simp only
    split <;> exact ⟨rfl,rfl,rfl⟩

theorem linked_iterate (input : FrameInput) (linked : Linked setup system connection hello [])
    (running : system.pi.running = true) : Linked setup (step setup system (.frame input)) connection hello
      (sends (contents setup.arguments system.pi input) input.monotonicNs) := by
  obtain ⟨stream,calls,_⟩ := iterate_parts setup.arguments system.pi input running linked.calls
  obtain ⟨handler,idle,greeted⟩ := linked.idle
  refine ⟨?_,?_,calls,handler,⟨idle.link,idle.running,idle.drained,idle.sane,idle.empty,?_⟩,greeted⟩
  · show (iterate setup.arguments system.pi input).stream.handshake = none
    rw [stream]
    exact linked.waits
  · show (iterate setup.arguments system.pi input).stream.connection = some connection
    rw [stream]
    exact linked.attached
  · show handler.lastSequence < (iterate setup.arguments system.pi input).stream.sequence
    rw [stream]
    exact idle.behind

def iteration (connection : ℕ) (now : Clock) (input : FrameInput) (count : ℕ) : List Input :=
  .frame input :: cycles connection now count

theorem linked_iteration (input : FrameInput) (now : Clock) {app : App} (linked : Linked setup system connection hello [])
    (running : system.pi.running = true)
    (sized : ∀ content ∈ contents setup.arguments system.pi input, sendable setup content = true)
    (left : system.pi.stream.sequence + (contents setup.arguments system.pi input).length ≤ 2 ^ 64)
    (taken : dispatched system.app now.1 hello ((contents setup.arguments system.pi input).map fun content =>
      received setup content input.monotonicNs.1) = .ok app) {count : ℕ}
    (counts : (contents setup.arguments system.pi input).length = count) :
    Linked setup (run (step setup) system (iteration connection now input count)) connection hello [] ∧
      (run (step setup) system (iteration connection now input count)).app = app ∧
      (run (step setup) system (iteration connection now input count)).pi = { iterate setup.arguments system.pi input with
        stream := { system.pi.stream with sequence := system.pi.stream.sequence + count }
        calls := [] } ∧
      Throughout (step setup) (Steady system connection hello) system (iteration connection now input count) := by
  obtain ⟨stream,_,_⟩ := iterate_parts setup.arguments system.pi input running linked.calls
  have begun := linked_iterate input linked running
  have moved : (step setup system (.frame input)).pi.stream = system.pi.stream := stream
  rw [← List.append_nil (sends _ _)] at begun
  obtain ⟨ends,app,_,pi,steady⟩ := cycles_send (contents setup.arguments system.pi input) begun sized (by rw [moved]; exact left) taken
  rw [counts,moved] at pi
  rw [counts] at ends app steady
  have open_ : attachedTo system.pi.stream = some connection := by simp [attachedTo,linked.waits,linked.attached]
  obtain ⟨handler,idle,greeted⟩ := linked.idle
  rw [iteration,run_cons,throughout_cons]
  refine ⟨ends,app,pi,⟨open_,⟨_,idle.link,idle.running,greeted⟩,rfl,rfl⟩,steady.imp fun state still => ?_⟩
  exact ⟨still.attached,still.serves,still.links,still.armed⟩

theorem iterate_stream (arguments : Arguments) (pi : Pi) (input : FrameInput) (stream : BackendStream) :
    iterate arguments { pi with stream := stream } input = { iterate arguments pi input with stream := stream } := by
  unfold iterate
  by_cases turn : (pi.running && pi.calls.isEmpty) = true
  · rw [if_pos turn,if_pos turn]
    have same : verified { pi with stream := stream } input = verified pi input := rfl
    rw [same]
    cases (verified pi input).state.incidentId with
    | none => rfl
    | some incidentId =>
      have changes : changed { pi with stream := stream } input = changed pi input := rfl
      simp only [changes]
      cases changed pi input <;> rfl
  · rw [if_neg turn,if_neg turn]

theorem linked_frame (input : FrameInput) (configured : Configured setup) (plain : ascii setup.device.deviceToken = true)
    (small : (setup.dumps (greeting setup.arguments)).length + headerSize ≤ 65536) (now : Clock) :
    ∃ hello, Linked setup (run (step setup) (start setup) (connecting now ++ [.frame input])) 0 hello
        (sends (contents setup.arguments (EdgeLoop.launched setup.arguments) input) input.monotonicNs) ∧
      (run (step setup) (start setup) (connecting now ++ [.frame input])).app = fresh ∧
      (run (step setup) (start setup) (connecting now ++ [.frame input])).rejections = [] ∧
      (run (step setup) (start setup) (connecting now ++ [.frame input])).pi.stream.sequence = 2 := by
  obtain ⟨handler,idle,greeted,pi,app,rejections,_⟩ := connected_start configured plain small now
  rw [run_snoc]
  generalize run (step setup) (start setup) (connecting now) = system at idle pi app rejections
  have linked : Linked setup system 0 ⟨setup.device.expectedDeviceId,setup.arguments.bootId⟩ [] := by
    refine ⟨?_,?_,?_,handler,idle,greeted⟩ <;> rw [pi]
  have running : system.pi.running = true := by rw [pi]; rfl
  have same : contents setup.arguments system.pi input =
      contents setup.arguments (EdgeLoop.launched setup.arguments) input := by
    rw [pi]
    rfl
  obtain ⟨stream,_,_⟩ := iterate_parts setup.arguments system.pi input running linked.calls
  refine ⟨_,same ▸ linked_iterate input linked running,app,rejections,?_⟩
  show (iterate setup.arguments system.pi input).stream.sequence = 2
  rw [stream,pi]

end Ignis.DeviceLink
