import Ignis.DeviceLink

-- What is on its way on every connection: one HELLO, then packets with rising numbers, cut anywhere.
namespace Ignis.DeviceLink
open Framing Protocol Backend Database DeviceServer EdgeLoop

def understood (content : Content) (monotonicNs : ℕ) (packet : DevicePacket) : Bool :=
  match content,packet with
  | .frame ..,.frame | .detections ..,.detections | .healthUpdate _,.healthUpdate => true
  | .incidentUpdate fields,.incidentUpdate data => data.toIncidentFields = fields
  | .timelineEvent incidentId eventType _,.timelineEvent event =>
    event.incidentId = incidentId && event.eventType = some eventType && event.monotonicNs = monotonicNs &&
      event.wallTimeUtc = none
  | _,_ => false

def greetingFields (arguments : Arguments) : List (String × Json) :=
  [("device_id",.string arguments.deviceId),("boot_id",.string arguments.bootId),
    ("protocol_version",.number 1 "1" "1"),("software_version",.string "poc-0.1.0"),
    ("device_token",.string arguments.token),
    ("capabilities",.container "['poc_camera', 'tflite_fire_detection', 'jpeg_stream']")]

section Payloads
variable (setup : Setup)

def received (content : Content) (monotonicNs : ℕ) : DevicePacket :=
  setup.decoders.device content.packetType monotonicNs (setup.dumps content)

def wellFormed (content : Content) (monotonicNs : ℕ) : Bool :=
  (setup.dumps content).length ≤ setup.device.maxPayloadBytes && understood content monotonicNs (received setup content monotonicNs)

structure Configured : Prop where
  device : setup.arguments.deviceId = setup.device.expectedDeviceId
  token : setup.arguments.token = setup.device.deviceToken
  size : (setup.dumps (greeting setup.arguments)).length ≤ setup.device.maxPayloadBytes
  text : setup.decoders.json (setup.dumps (greeting setup.arguments)) = .ok (greetingFields setup.arguments)

-- `_dispatch` has nothing against such a packet, unless it is about an unknown incident.
def harmless : DevicePacket → Bool
  | .incidentUpdate data => fitsInteger data.firstDetectionMonotonicNs && fitsInteger data.updatedMonotonicNs
  | .timelineEvent event => fitsInteger event.monotonicNs
  | .invalidUpdate _ | .malformed _ | .unexpected _ => false
  | _ => true

def Greeting (packet : Packet) : Prop :=
  packet.packetType = .hello ∧ packet.payload = setup.dumps (greeting setup.arguments)

def OfLoop (packet : Packet) : Prop :=
  harmless (setup.decoders.device packet.packetType packet.monotonicNs packet.payload) = true

def Introduced : Option Hello → List Packet → Prop
  | some _,packets => ∀ packet ∈ packets, OfLoop setup packet
  | none,[] => True
  | none,first :: rest => Greeting setup first ∧ ∀ packet ∈ rest, OfLoop setup packet

end Payloads

def numbers (handler : Handler) (packets : List Packet) : List ℤ :=
  handler.lastSequence :: (handler.packets ++ packets).map fun packet => (packet.sequence : ℤ)

-- Of these packets, sent over the connection, the handler has not parsed any yet. As long
-- as the stream is attached they are exactly what it has sent.
structure Pending (setup : Setup) (next : ℕ) (attached : Prop) (link : Link) (packets : List Packet) : Prop where
  sane : link.handler.parser.Sane setup.device.maxPayloadBytes
  sendable : ∀ packet ∈ packets, packet.Sendable setup.device.maxPayloadBytes
  carried : link.handler.parser.held ++ link.flight <+: stream Packet.bytes packets
  introduced : Introduced setup link.handler.hello (link.handler.packets ++ packets)
  rising : (numbers link.handler packets).Pairwise (· < ·)
  below : ∀ number ∈ numbers link.handler packets, number < next
  whole : attached → link.handler.parser.held ++ link.flight = stream Packet.bytes packets ∧
    (link.handler.hello.isSome = true ∨ link.handler.packets ++ packets ≠ [])

def Served (setup : Setup) (next : ℕ) (attached : Prop) (link : Link) : Prop :=
  link.handler.running = true → ∃ packets, Pending setup next attached link packets

def attachedTo (stream : BackendStream) : Option ℕ := stream.handshake.or stream.connection

def ready (setup : Setup) : Call → Prop
  | .connect => True
  | .send content monotonicNs =>
    (setup.dumps content).length ≤ setup.device.maxPayloadBytes ∧ harmless (received setup content monotonicNs.1) = true

structure Sound (setup : Setup) (system : System) : Prop where
  calls : ∀ call ∈ system.pi.calls, ready setup call
  first : system.pi.verifier.state.firstDetectionNs < 2 ^ 63
  served : ∀ connection link, system.links[connection]? = some link →
    Served setup system.pi.stream.sequence (attachedTo system.pi.stream = some connection) link

variable {setup : Setup} {system : System} {link : Link} {next later : ℕ} {attached still : Prop}

theorem served_later (served : Served setup next attached link) (grows : next ≤ later) (detached : still → attached) :
    Served setup later still link := by
  intro running
  obtain ⟨packets,pending⟩ := served running
  refine ⟨packets,{ pending with below := ?_, whole := fun there => pending.whole (detached there) }⟩
  intro number member
  have lower := pending.below number member
  omega

theorem served_halted : Served setup next attached (halted link) := by
  intro running
  cases running

theorem sound_start : Sound setup (start setup) where
  calls := by
    intro call member
    rw [List.mem_singleton.mp member]
    trivial
  first := show (0 : ℤ) < 2 ^ 63 by decide
  served := by
    intro connection link found
    cases found

section Frames
variable {pi : Pi} {input : FrameInput} {arguments : Arguments}

def FrameWellFormed (setup : Setup) (pi : Pi) (input : FrameInput) : Prop :=
  ∀ content ∈ contents setup.arguments pi input, wellFormed setup content input.monotonicNs.1 = true

theorem verified_first (input : FrameInput) (bounded : pi.verifier.state.firstDetectionNs < 2 ^ 63) :
    (verified pi input).state.firstDetectionNs < 2 ^ 63 := by
  have first := FireVerifier.update_first pi.verifier input.monotonicNs.1 input.detections
  have clock := input.monotonicNs.2
  simp only [List.mem_cons,List.not_mem_nil,or_false] at first
  unfold verified
  rcases first with same | opens | forgets <;> omega

theorem update_mem {fields : IncidentFields} (member : .incidentUpdate fields ∈ contents arguments pi input) :
    ∃ incidentId, fields = incidentFields arguments pi input incidentId := by
  unfold contents at member
  rw [List.mem_append,List.mem_append] at member
  obtain (early | incident) | late := member
  · simp at early
  · unfold incidentContents at incident
    cases same : (verified pi input).state.incidentId with
    | none => simp [same] at incident
    | some incidentId =>
      simp only [same,List.mem_cons] at incident
      obtain equal | event := incident
      · cases equal
        exact ⟨incidentId,rfl⟩
      · split at event <;> simp at event
  · split at late <;> simp at late

theorem received_harmless {content : Content} (member : content ∈ contents arguments pi input)
    (bounded : pi.verifier.state.firstDetectionNs < 2 ^ 63)
    (understands : understood content input.monotonicNs.1 (received setup content input.monotonicNs.1) = true) :
    harmless (received setup content input.monotonicNs.1) = true := by
  have clock := input.monotonicNs.2
  generalize received setup content input.monotonicNs.1 = packet at understands ⊢
  cases packet with
  | incidentUpdate data =>
    cases content with
    | incidentUpdate fields =>
      obtain ⟨incidentId,rfl⟩ := update_mem member
      have first : (incidentFields arguments pi input incidentId).firstDetectionMonotonicNs =
          (verified pi input).state.firstDetectionNs.toNat := rfl
      have updated : (incidentFields arguments pi input incidentId).updatedMonotonicNs = input.monotonicNs.1 := rfl
      have same : data.toIncidentFields = incidentFields arguments pi input incidentId := by simpa [understood] using understands
      have limit := verified_first input bounded
      simp only [harmless,fitsInteger,Bool.and_eq_true,decide_eq_true_eq,same,first,updated]
      omega
    | _ => cases understands
  | timelineEvent event =>
    cases content with
    | timelineEvent incidentId eventType hazardState =>
      simp only [understood,Bool.and_eq_true,decide_eq_true_eq] at understands
      simpa [harmless,fitsInteger,understands.1.2] using clock
    | _ => cases understands
  | invalidUpdate error => cases content <;> cases understands
  | malformed error => cases content <;> cases understands
  | unexpected packetType => cases content <;> cases understands
  | _ => rfl

theorem sound_frame (sound : Sound setup system) (well : FrameWellFormed setup system.pi input) :
    Sound setup (step setup system (.frame input)) := by
  have sends : ∀ call ∈ (contents setup.arguments system.pi input).map fun content => Call.send content input.monotonicNs,
      ready setup call := by
    intro call member
    obtain ⟨content,inside,rfl⟩ := List.mem_map.mp member
    have facts := well content inside
    simp only [wellFormed,Bool.and_eq_true,decide_eq_true_eq] at facts
    exact ⟨facts.1,received_harmless inside sound.first facts.2⟩
  have limit := verified_first input sound.first
  simp only [step,iterate]
  split
  · cases (verified system.pi input).state.incidentId with
    | none => exact ⟨sends,limit,sound.served⟩
    | some incidentId =>
      simp only
      split <;> exact ⟨sends,limit,sound.served⟩
  · exact sound

end Frames

section Calls
variable {pi after : Pi} {wire : Wire} {arguments : Arguments} {dumps : Content → List UInt8} {fresh : ℕ}
variable {now : Clock} {outcome : Outcome} {answers : ℕ → Bool} {packet : Packet} {packets : List Packet} {bytes : List UInt8}

-- What a turn of the call at work may do: nothing on the network, a new connection with
-- its HELLO or the beginning of it, or the same with a packet on the connection in use.
inductive Went (arguments : Arguments) (dumps : Content → List UInt8) (pi : Pi) (fresh : ℕ) (after : Pi) : Wire → Prop where
  | silent (grows : pi.stream.sequence ≤ after.stream.sequence)
      (attached : attachedTo after.stream = attachedTo pi.stream ∨ attachedTo after.stream = none) :
      Went arguments dumps pi fresh after .nothing
  | dumb (grows : pi.stream.sequence ≤ after.stream.sequence) (detached : attachedTo after.stream = none) :
      Went arguments dumps pi fresh after (.opened [])
  | greets (packet : Packet) (bytes : List UInt8) (numbered : packet.sequence = pi.stream.sequence)
      (counts : after.stream.sequence = pi.stream.sequence + 1)
      (kind : packet.packetType = .hello) (payload : packet.payload = dumps (greeting arguments))
      (fits : packet.header.fits = true) (part : bytes <+: packet.bytes)
      (attached : attachedTo after.stream = none ∨ (attachedTo after.stream = some fresh ∧ bytes = packet.bytes)) :
      Went arguments dumps pi fresh after (.opened bytes)
  | sends (content : Content) (monotonicNs : Clock) (connection : ℕ) (packet : Packet) (bytes : List UInt8)
      (waiting : Call.send content monotonicNs ∈ pi.calls) (open_ : attachedTo pi.stream = some connection)
      (same : packet = EdgeLoop.packet dumps pi content monotonicNs)
      (counts : after.stream.sequence = pi.stream.sequence + 1)
      (fits : packet.header.fits = true) (part : bytes <+: packet.bytes)
      (attached : attachedTo after.stream = none ∨ (attachedTo after.stream = some connection ∧ bytes = packet.bytes)) :
      Went arguments dumps pi fresh after (.written connection bytes)

theorem connect_cases {rest : List Call} :
    Went arguments dumps pi fresh (connect arguments dumps pi rest fresh now outcome).1
      (connect arguments dumps pi rest fresh now outcome).2 := by
  unfold connect
  split
  · exact .silent (le_refl _) (.inl rfl)
  · cases outcome with
    | refused => exact .silent (le_refl _) (.inr rfl)
    | done =>
      cases encoded : encodePacket (EdgeLoop.packet dumps pi (greeting arguments) now) with
      | none => exact .dumb (le_refl _) rfl
      | some bytes =>
        obtain ⟨fits,rfl⟩ := encodePacket_some encoded
        exact .greets _ _ rfl rfl rfl rfl fits (List.prefix_refl _) (.inr ⟨rfl,rfl⟩)
    | failed written =>
      cases encoded : encodePacket (EdgeLoop.packet dumps pi (greeting arguments) now) with
      | none => exact .dumb (le_refl _) rfl
      | some bytes =>
        obtain ⟨fits,rfl⟩ := encodePacket_some encoded
        exact .greets _ _ rfl rfl rfl rfl fits (List.take_prefix ..) (.inl rfl)

theorem transmit_cases {content : Content} {monotonicNs : Clock} {connection : ℕ} {rest : List Call}
    (waiting : Call.send content monotonicNs ∈ pi.calls) (attached : attachedTo pi.stream = some connection) :
    Went arguments dumps pi fresh (transmit dumps pi rest now outcome connection content monotonicNs).1
      (transmit dumps pi rest now outcome connection content monotonicNs).2 := by
  unfold transmit
  cases encoded : encodePacket (EdgeLoop.packet dumps pi content monotonicNs) with
  | none => exact .silent (le_refl _) (.inr rfl)
  | some bytes =>
    obtain ⟨fits,rfl⟩ := encodePacket_some encoded
    cases outcome with
    | refused => exact .silent (Nat.le_succ _) (.inr rfl)
    | done => exact .sends _ _ _ _ _ waiting attached rfl rfl fits (List.prefix_refl _) (.inr ⟨attached,rfl⟩)
    | failed written => exact .sends _ _ _ _ _ waiting attached rfl rfl fits (List.take_prefix ..) (.inl rfl)

theorem proceed_cases : Went arguments dumps pi fresh (proceed arguments dumps pi fresh now outcome answers).1
    (proceed arguments dumps pi fresh now outcome answers).2 := by
  unfold proceed
  cases calls : pi.calls with
  | nil => exact .silent (le_refl _) (.inl rfl)
  | cons call rest =>
    cases waits : pi.stream.handshake with
    | some connection =>
      cases outcome with
      | done =>
        simp only
        split
        · exact .silent (le_refl _) (.inl (by simp [established,attachedTo,waits]))
        · exact .silent (le_refl _) (.inl rfl)
      | refused => exact .silent (le_refl _) (.inr rfl)
      | failed written => exact .silent (le_refl _) (.inr rfl)
    | none =>
      cases call with
      | connect => exact connect_cases
      | send content monotonicNs =>
        cases carrier : pi.stream.connection with
        | none => exact connect_cases
        | some connection => exact transmit_cases (by simp [calls]) (by simp [attachedTo,waits,carrier])

def Remains (pi after : Pi) : Prop := after.verifier = pi.verifier ∧ ∀ call ∈ after.calls, call ∈ pi.calls

theorem remains_proceed : Remains pi (proceed arguments dumps pi fresh now outcome answers).1 := by
  have moved : Moved pi (proceed arguments dumps pi fresh now outcome answers).1 := moved_proceed
  exact ⟨by rw [moved.others],moved.calls⟩

theorem opened_pending (greets : Greeting setup packet) (sendable : packet.Sendable setup.device.maxPayloadBytes)
    (numbered : packet.sequence < next) (part : bytes <+: packet.bytes) (complete : attached → bytes = packet.bytes) :
    Pending setup next attached ⟨bytes,accepted setup.device⟩ [packet] where
  sane := created_sane setup.device.maxPayloadBytes
  sendable := by
    intro other member
    rw [List.mem_singleton.mp member]
    exact sendable
  carried := by simpa [accepted,PacketParser.created,PacketParser.held] using part
  introduced := ⟨greets,fun _ member => nomatch member⟩
  rising := by
    simp only [numbers,accepted,List.nil_append,List.map_cons,List.map_nil,List.pairwise_cons,List.mem_singleton,
      forall_eq,List.not_mem_nil,false_implies,implies_true,List.Pairwise.nil,and_true]
    omega
  below := by
    intro number member
    simp only [numbers,accepted,List.nil_append,List.map_cons,List.map_nil,List.mem_cons,List.not_mem_nil,or_false] at member
    omega
  whole there := by
    refine ⟨?_,.inr (by simp [accepted])⟩
    simpa [accepted,PacketParser.created,PacketParser.held] using complete there

theorem dumb_pending : Pending setup next False ⟨[],accepted setup.device⟩ [] where
  sane := created_sane setup.device.maxPayloadBytes
  sendable _ member := nomatch member
  carried := List.prefix_refl _
  introduced := trivial
  rising := by simp [numbers,accepted]
  below := by
    intro number member
    have only : number = -1 := by simpa [numbers,accepted] using member
    omega
  whole there := there.elim

theorem numbers_snoc {handler : Handler} :
    numbers handler (packets ++ [packet]) = numbers handler packets ++ [(packet.sequence : ℤ)] := by
  simp [numbers]

theorem introduced_snoc {hello : Option Hello} (introduced : Introduced setup hello packets)
    (begun : hello.isSome = true ∨ packets ≠ []) (ofLoop : OfLoop setup packet) :
    Introduced setup hello (packets ++ [packet]) := by
  cases hello with
  | some hello =>
    intro other member
    rcases List.mem_append.mp member with early | late
    · exact introduced other early
    · rw [List.mem_singleton.mp late]
      exact ofLoop
  | none =>
    cases packets with
    | nil => simp at begun
    | cons first rest =>
      refine ⟨introduced.1,fun other member => ?_⟩
      rcases List.mem_append.mp member with early | late
      · exact introduced.2 other early
      · rw [List.mem_singleton.mp late]
        exact ofLoop

theorem written_pending (pending : Pending setup next attached link packets) (open_ : attached)
    (ofLoop : OfLoop setup packet) (sendable : packet.Sendable setup.device.maxPayloadBytes)
    (numbered : packet.sequence = next) (part : bytes <+: packet.bytes) (complete : still → bytes = packet.bytes) :
    Pending setup (next + 1) still { link with flight := link.flight ++ bytes } (packets ++ [packet]) where
  sane := pending.sane
  sendable := by
    intro other member
    rcases List.mem_append.mp member with early | late
    · exact pending.sendable other early
    · rw [List.mem_singleton.mp late]
      exact sendable
  carried := by
    rw [← List.append_assoc,(pending.whole open_).1,stream_append,List.prefix_append_right_inj]
    simpa using part
  introduced := by
    rw [← List.append_assoc]
    exact introduced_snoc pending.introduced (pending.whole open_).2 ofLoop
  rising := by
    show (numbers link.handler (packets ++ [packet])).Pairwise (· < ·)
    rw [numbers_snoc,numbered,List.pairwise_append]
    refine ⟨pending.rising,List.pairwise_singleton .., ?_⟩
    intro number member last isLast
    rw [List.mem_singleton.mp isLast]
    exact pending.below number member
  below := by
    intro number member
    change number ∈ numbers link.handler (packets ++ [packet]) at member
    rw [numbers_snoc,numbered,List.mem_append,List.mem_singleton] at member
    rcases member with early | late
    · have lower := pending.below number early
      omega
    · omega
  whole there := by
    refine ⟨?_,?_⟩
    · rw [← List.append_assoc,(pending.whole open_).1,complete there]
      simp
    · exact .inr (by simp)

end Calls

theorem opened_cases {links : List Link} {opened : Link} {connection : ℕ}
    (found : (links ++ [opened])[connection]? = some link) :
    (connection < links.length ∧ links[connection]? = some link) ∨ (connection = links.length ∧ link = opened) := by
  rcases Nat.lt_trichotomy connection links.length with old | fresh | beyond
  · rw [List.getElem?_append_left old] at found
    exact .inl ⟨old,found⟩
  · subst fresh
    rw [List.getElem?_concat_length] at found
    exact .inr ⟨rfl,(Option.some.inj found).symm⟩
  · rw [List.getElem?_eq_none (by simp; omega)] at found
    cases found

theorem written_cases {links : List Link} {f : Link → Link} {connection carrier : ℕ}
    (found : (links.modify carrier f)[connection]? = some link) :
    (∃ old, links[carrier]? = some old ∧ link = f old ∧ connection = carrier) ∨
    (carrier ≠ connection ∧ links[connection]? = some link) := by
  rw [List.getElem?_modify] at found
  by_cases same : carrier = connection
  · subst same
    cases before : links[carrier]? with
    | none => simp [before] at found
    | some old => exact .inl ⟨old,rfl,by simpa [before] using found.symm,rfl⟩
  · exact .inr ⟨same,by simpa [same] using found⟩

theorem sound_proceed (configured : Configured setup) (sound : Sound setup system) {now : Clock} {outcome : Outcome} :
    Sound setup (step setup system (.proceed now outcome)) := by
  have went := @proceed_cases system.pi setup.arguments setup.dumps system.links.length now outcome (acknowledged system)
  obtain ⟨verifier,fewer⟩ := @remains_proceed system.pi setup.arguments setup.dumps system.links.length now outcome
    (acknowledged system)
  simp only [step]
  generalize proceed setup.arguments setup.dumps system.pi system.links.length now outcome (acknowledged system) = result
    at went verifier fewer
  obtain ⟨after,wire⟩ := result
  change Went setup.arguments setup.dumps system.pi system.links.length after wire at went
  refine ⟨fun call member => sound.calls call (fewer call member),verifier ▸ sound.first,?_⟩
  intro connection link found
  show Served setup after.stream.sequence (attachedTo after.stream = some connection) link
  cases went with
  | silent grows attached =>
    refine served_later (sound.served connection link found) grows fun there => ?_
    rcases attached with same | gone
    · exact same ▸ there
    · simp [gone] at there
  | dumb grows detached =>
    obtain ⟨_,old⟩ | ⟨_,rfl⟩ := opened_cases found
    · exact served_later (sound.served connection link old) grows fun there => by simp [detached] at there
    · have nothing : ¬ attachedTo after.stream = some connection := by simp [detached]
      exact fun _ => ⟨[],by simpa [nothing] using dumb_pending⟩
  | greets packet bytes numbered counts kind payload fits part attached =>
    obtain ⟨inside,old⟩ | ⟨_,rfl⟩ := opened_cases found
    · refine served_later (sound.served connection link old) (by omega) fun there => ?_
      rcases attached with gone | ⟨here,_⟩
      · simp [gone] at there
      · simp only [here,Option.some.injEq] at there
        omega
    · refine fun _ => ⟨[packet],opened_pending ⟨kind,payload⟩ ⟨fits,?_⟩ (by omega) part ?_⟩
      · rw [payload]
        exact configured.size
      · intro there
        rcases attached with gone | ⟨_,complete⟩
        · simp [gone] at there
        · exact complete
  | sends content monotonicNs carrier packet bytes waiting open_ same counts fits part attached =>
    have call := sound.calls _ waiting
    obtain ⟨old,before,rfl,rfl⟩ | ⟨other,before⟩ := written_cases found
    · intro running
      obtain ⟨packets,pending⟩ := sound.served connection old before running
      refine ⟨packets ++ [packet],?_⟩
      rw [counts]
      refine written_pending pending open_ ?_ ⟨fits,?_⟩ (by rw [same]; rfl) part ?_
      · rw [same]
        exact call.2
      · rw [same]
        exact call.1
      · intro there
        rcases attached with gone | ⟨_,complete⟩
        · simp [gone] at there
        · exact complete
    · refine served_later (sound.served connection link before) (by omega) fun there => ?_
      rcases attached with gone | ⟨here,_⟩
      · simp [gone] at there
      · rw [here] at there
        exact absurd (Option.some.inj there) other

section Connections
variable {connection count : ℕ} {packet : Packet} {packets rest : List Packet} {chunk : List UInt8} {handler : Handler}

theorem arriving_parts (arrives : arriving system connection count = some (link,chunk)) :
    system.links[connection]? = some link ∧ link.handler.running = true ∧ link.handler.packets = [] ∧
      chunk = link.flight.take count := by
  unfold arriving at arrives
  cases found : system.links[connection]? with
  | none => simp [found] at arrives
  | some other =>
    simp only [found,Option.map_eq_some_iff,Prod.mk.injEq] at arrives
    obtain ⟨taken,chunks,rfl,rfl⟩ := arrives
    unfold Handler.chunk at chunks
    simp only at chunks
    split at chunks
    · rename_i gate
      simp only [Bool.and_eq_true,List.isEmpty_iff] at gate
      exact ⟨rfl,gate.1.1.1,gate.1.1.2,(Option.some.inj chunks).symm⟩
    · cases chunks

theorem queued_parts (takes : queued system connection = some (link,packet,rest)) :
    system.links[connection]? = some link ∧ link.handler.running = true ∧ link.handler.packets = packet :: rest := by
  unfold queued at takes
  cases found : system.links[connection]? with
  | none => simp [found] at takes
  | some other =>
    simp only [found] at takes
    split at takes
    · rename_i runs queue
      cases takes
      exact ⟨rfl,runs,queue⟩
    · cases takes

theorem read_pending (pending : Pending setup next attached link packets) (drained : link.handler.packets = [])
    (bounded : link.handler.parser.buffer.length + (link.flight.take count).length ≤
      setup.device.maxPayloadBytes + headerSize) :
    ∃ handler left, link.handler.feed (link.flight.take count) = .ok handler ∧
      handler.hello = link.handler.hello ∧ handler.packets ++ left = packets ∧
      Pending setup next attached ⟨link.flight.drop count,handler⟩ left := by
  have cut : link.handler.parser.held ++ link.flight =
      (link.handler.parser.held ++ link.flight.take count) ++ link.flight.drop count := by
    rw [List.append_assoc,List.take_append_drop]
  have carried := pending.carried
  rw [cut] at carried
  obtain ⟨done,left,parser,rfl,fed,sane,parts,_⟩ :=
    feed_stream pending.sane pending.sendable ((List.prefix_append ..).trans carried) bounded
  have same : numbers { link.handler with parser := parser, packets := done } left = numbers link.handler (done ++ left) := by
    simp [numbers,drained]
  refine ⟨{ link.handler with parser := parser, packets := done },left,by rw [Handler.feed,fed],rfl,rfl,?_⟩
  refine ⟨sane,fun packet member => pending.sendable packet (List.mem_append_right done member),?_,?_,?_,?_,?_⟩
  · rw [parts,List.append_assoc,stream_append,List.prefix_append_right_inj] at carried
    exact carried
  · simpa [drained] using pending.introduced
  · rw [same]
    exact pending.rising
  · rw [same]
    exact pending.below
  · intro there
    obtain ⟨exactly,begun⟩ := pending.whole there
    rw [cut,parts,List.append_assoc,stream_append,List.append_cancel_left_eq] at exactly
    exact ⟨exactly,by simpa [drained] using begun⟩

theorem overfull_refused (pending : Pending setup next attached link packets)
    (overfull : setup.device.maxPayloadBytes + headerSize < link.handler.parser.buffer.length + chunk.length) :
    link.handler.feed chunk = .error "connection buffer exceeded maximum packet size" := by
  rw [Handler.feed,PacketParser.feed,pending.sane.1,if_pos overfull]

theorem greet_greeting (configured : Configured setup) (greets : Greeting setup packet) :
    greet setup.device setup.decoders packet =
      if ascii setup.device.deviceToken then .ok ⟨setup.device.expectedDeviceId,setup.arguments.bootId⟩
      else .error .typeError := by
  have read : greet setup.device setup.decoders packet =
      authenticate setup.device (greetingFields setup.arguments) := by
    simp only [greet,greets.1,greets.2,configured.text,ne_eq,not_true_eq_false,if_false]
  rw [read]
  simp only [authenticate,greetingFields,List.lookup_cons,String.reduceBEq,Json.isOne,decide_true,Bool.not_true,
    Bool.false_eq_true,if_false,configured.device,ne_eq,not_true_eq_false,compareDigest,Json.str,configured.token,Json.column]
  cases ascii setup.device.deviceToken <;> rfl

theorem in_order (pending : Pending setup next attached link packets) (queue : link.handler.packets = packet :: rest) :
    ¬ (packet.sequence : ℤ) ≤ link.handler.lastSequence := by
  have rising := pending.rising
  simp only [numbers,queue,List.cons_append,List.map_cons,List.pairwise_cons,List.mem_cons,forall_eq_or_imp] at rising
  omega

theorem handle_cases (configured : Configured setup) (pending : Pending setup next attached link packets)
    (queue : link.handler.packets = packet :: rest) (app : App) (now : Time) :
    (link.handler.hello = none ∧
      link.handler.handle setup.device setup.decoders app now packet rest = .error .typeError) ∨
    ∃ hello, Pending setup next attached { link with handler := { link.handler with
        packets := rest, lastSequence := packet.sequence, hello := some hello } } packets ∧
      ((link.handler.hello = none ∧ link.handler.handle setup.device setup.decoders app now packet rest = .ok
        ({ link.handler with packets := rest, lastSequence := packet.sequence, hello := some hello },app)) ∨
      (link.handler.hello = some hello ∧ OfLoop setup packet ∧
        link.handler.handle setup.device setup.decoders app now packet rest =
          match dispatch app now hello (setup.decoders.device packet.packetType packet.monotonicNs packet.payload) with
          | .error error => .error error
          | .ok app => .ok ({ link.handler with packets := rest, lastSequence := packet.sequence, hello := some hello },app))) := by
  have rising := pending.rising
  have introduced := pending.introduced
  have order := in_order pending queue
  have moves : ∀ hello, Introduced setup (some hello) (rest ++ packets) → Pending setup next attached
      { link with handler := { link.handler with
        packets := rest, lastSequence := packet.sequence, hello := some hello } } packets := by
    intro hello later
    have shorter : ∀ number ∈ numbers { link.handler with
        packets := rest, lastSequence := packet.sequence, hello := some hello } packets,
        number ∈ numbers link.handler packets := by
      intro number member
      simp only [numbers,queue,List.cons_append,List.map_cons,List.mem_cons] at member ⊢
      exact .inr member
    refine ⟨pending.sane,pending.sendable,pending.carried,later,?_,?_,?_⟩
    · simp only [numbers,queue,List.cons_append,List.map_cons,List.pairwise_cons] at rising ⊢
      exact rising.2
    · exact fun number member => pending.below number (shorter number member)
    · exact fun there => ⟨(pending.whole there).1,.inl rfl⟩
  unfold Handler.handle
  simp only [if_neg order]
  rw [queue] at introduced
  cases known : link.handler.hello with
  | none =>
    rw [known] at introduced
    have greeted := greet_greeting configured introduced.1
    split at greeted
    · exact .inr ⟨⟨setup.device.expectedDeviceId,setup.arguments.bootId⟩,moves _ introduced.2,
        .inl ⟨rfl,by simp only [greeted]⟩⟩
    · exact .inl ⟨rfl,by simp only [greeted]⟩
  | some hello =>
    rw [known] at introduced
    refine .inr ⟨hello,moves hello fun other member => introduced other (List.mem_cons_of_mem _ member),.inr ⟨rfl,?_,?_⟩⟩
    · exact introduced packet (List.mem_cons_self ..)
    · cases taken : dispatch app now hello (setup.decoders.device packet.packetType packet.monotonicNs packet.payload) <;>
        simp only [taken]

theorem served_put (sound : Sound setup system) (fresh : Served setup system.pi.stream.sequence
    (attachedTo system.pi.stream = some connection) link) : Sound setup (put system connection link) := by
  refine ⟨sound.calls,sound.first,fun other now found => ?_⟩
  simp only [put,List.getElem?_set] at found
  split at found
  · rename_i same
    subst same
    split at found
    · cases found
      exact fresh
    · cases found
  · exact sound.served other now found

theorem sound_halt (sound : Sound setup system) : Sound setup (halt system connection) := by
  refine ⟨sound.calls,sound.first,fun other now found => ?_⟩
  obtain ⟨old,_,rfl,_⟩ | ⟨_,before⟩ := written_cases found
  · exact served_halted
  · exact sound.served other now before

theorem sound_same {app : App} {rejections : List String} (sound : Sound setup system) :
    Sound setup { system with app := app, rejections := rejections } := ⟨sound.calls,sound.first,sound.served⟩

theorem sound_read (sound : Sound setup system) : Sound setup (read system connection count) := by
  unfold read
  cases arrives : arriving system connection count with
  | none => exact sound
  | some pair =>
    obtain ⟨link,chunk⟩ := pair
    obtain ⟨found,running,drained,rfl⟩ := arriving_parts arrives
    simp only
    cases fed : link.handler.feed (link.flight.take count) with
    | error text => exact sound_same (sound_halt sound)
    | ok handler =>
      refine served_put sound fun _ => ?_
      obtain ⟨packets,pending⟩ := sound.served connection link found running
      by_cases overfull : setup.device.maxPayloadBytes + headerSize <
          link.handler.parser.buffer.length + (link.flight.take count).length
      · rw [overfull_refused pending overfull] at fed
        cases fed
      · obtain ⟨after,left,feeds,_,_,still⟩ := read_pending pending drained (not_lt.mp overfull)
        rw [feeds] at fed
        cases fed
        exact ⟨left,still⟩

theorem sound_handle (configured : Configured setup) (sound : Sound setup system) {now : Time} :
    Sound setup (handle setup system connection now) := by
  unfold handle
  cases takes : queued system connection with
  | none => exact sound
  | some triple =>
    obtain ⟨link,packet,rest⟩ := triple
    obtain ⟨found,running,queue⟩ := queued_parts takes
    obtain ⟨packets,pending⟩ := sound.served connection link found running
    simp only
    rcases handle_cases configured pending queue system.app now with ⟨_,refused⟩ | ⟨hello,still,⟨_,greeted⟩ | ⟨_,_,dispatched⟩⟩
    · rw [refused]
      exact sound_halt sound
    · rw [greeted]
      exact sound_same (served_put sound fun _ => ⟨packets,still⟩)
    · rw [dispatched]
      cases dispatch system.app now hello (setup.decoders.device packet.packetType packet.monotonicNs packet.payload) with
      | ok app => exact sound_same (served_put sound fun _ => ⟨packets,still⟩)
      | error error =>
        cases error with
        | protocolError text => exact sound_same (sound_halt sound)
        | _ => exact sound_halt sound

theorem sound_backend (sound : Sound setup system) {tick : Tick} : Sound setup (backend setup system tick) := by
  unfold backend
  split
  · exact sound
  · refine ⟨sound.calls,sound.first,fun connection link found => ?_⟩
    rw [List.getElem?_map] at found
    obtain ⟨old,_,rfl⟩ := Option.map_eq_some_iff.mp found
    exact served_halted
  · exact sound_same sound

end Connections

def WellFormed (setup : Setup) (system : System) : Input → Prop
  | .frame input => FrameWellFormed setup system.pi input
  | _ => True

theorem sound_step (configured : Configured setup) (sound : Sound setup system) {input : Input}
    (well : WellFormed setup system input) : Sound setup (step setup system input) := by
  cases input with
  | frame input => exact sound_frame sound well
  | proceed now outcome => exact sound_proceed configured sound
  | read connection count => exact sound_read sound
  | handle connection now => exact sound_handle configured sound
  | lost connection => exact sound_halt sound
  | backend tick => exact sound_backend sound
end Ignis.DeviceLink
