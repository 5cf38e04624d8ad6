import Mathlib.Data.List.Flatten
import Ignis.Coalescing

-- `BackendStream` of the Pi with any calls on it, and the connections it makes.
namespace Ignis.Delivery
open Framing Protocol Backend DeviceServer EdgeLoop DeviceLink DeviceReception

structure Sent where
  packets : List Packet
  bytes : List UInt8

structure Sender where
  sequence : ℕ
  connection : Option Sent
  nextReconnect : ℕ
  -- The connections that are not used any more.
  closed : List Sent

def created : Sender := ⟨1,none,0,[]⟩

-- `create_connection`, `sendall` of the HELLO and `receive_ack`: an OSError at one of them,
-- another exception of the last, or an acknowledgement.
inductive Answer where
  | refused
  | interrupted (written : ℕ)
  | unanswered
  | garbled
  | acknowledged

-- With the readings of the clock: before, for the HELLO, and after a failure.
structure Attempt where
  now : ℕ
  monotonicNs : ℕ
  later : ℕ
  answer : Answer

inductive Written where
  | done
  | interrupted (written later : ℕ)

inductive Call where
  | connect (attempt : Attempt)
  | send (packetType : PacketType) (payload : List UInt8) (monotonicNs : ℕ) (attempt : Attempt) (written : Written)
  | close

def Sender.connections (sender : Sender) : List Sent := sender.closed ++ sender.connection.toList

def Sender.close (sender : Sender) : Sender := { sender with connection := none, closed := sender.connections }

def Sender.failed (sender : Sender) (later : ℕ) : Sender := { sender.close with nextReconnect := later + 2000000000 }

def Sender.packet (sender : Sender) (packetType : PacketType) (payload : List UInt8) (monotonicNs : ℕ) : Packet :=
  ⟨packetType,0,sender.sequence,monotonicNs,payload⟩

section Calls
variable (setup : Setup)

def Sender.hello (sender : Sender) (monotonicNs : ℕ) : Packet :=
  sender.packet .hello (setup.dumps (greeting setup.arguments)) monotonicNs

def Sender.greeted (sender : Sender) (monotonicNs : ℕ) (bytes : List UInt8) : Sent := ⟨[sender.hello setup monotonicNs],bytes⟩

-- Where `connect` raises something else than an OSError, `self.connection` is left as it is.
def Sender.connect (sender : Sender) (attempt : Attempt) : Sender :=
  if attempt.now < sender.nextReconnect then sender
  else match attempt.answer,encodePacket (sender.hello setup attempt.monotonicNs) with
  | .refused,_ => sender.failed attempt.later
  | _,none => sender
  | .interrupted written,some bytes =>
    let next := { sender.close with sequence := sender.sequence + 1 }
    { next with
      closed := next.closed ++ [sender.greeted setup attempt.monotonicNs (bytes.take written)]
      nextReconnect := attempt.later + 2000000000 }
  | .unanswered,some bytes =>
    let next := { sender.close with sequence := sender.sequence + 1 }
    { next with
      closed := next.closed ++ [sender.greeted setup attempt.monotonicNs bytes]
      nextReconnect := attempt.later + 2000000000 }
  | .garbled,some bytes =>
    { sender with
      sequence := sender.sequence + 1
      closed := sender.closed ++ [sender.greeted setup attempt.monotonicNs bytes] }
  | .acknowledged,some bytes =>
    { sender.close with
      sequence := sender.sequence + 1
      connection := some (sender.greeted setup attempt.monotonicNs bytes) }

def Sender.transmit (sender : Sender) (sent : Sent) (packet : Packet) (written : Written) : Sender :=
  match encodePacket packet with
  | none => sender
  | some bytes =>
    let next := { sender with sequence := sender.sequence + 1 }
    match written with
    | .done => { next with connection := some ⟨sent.packets ++ [packet],sent.bytes ++ bytes⟩ }
    | .interrupted written later =>
      { next with connection := some ⟨sent.packets ++ [packet],sent.bytes ++ bytes.take written⟩ }.failed later

def Sender.send (sender : Sender) (packetType : PacketType) (payload : List UInt8) (monotonicNs : ℕ) (attempt : Attempt)
    (written : Written) : Sender :=
  let sender := if sender.connection.isNone then sender.connect setup attempt else sender
  match sender.connection with
  | none => sender
  | some sent => sender.transmit sent (sender.packet packetType payload monotonicNs) written

def Sender.step (sender : Sender) : Call → Sender
  | .connect attempt => sender.connect setup attempt
  | .send packetType payload monotonicNs attempt written => sender.send setup packetType payload monotonicNs attempt written
  | .close => sender.close

def sender (calls : List Call) : Sender := calls.foldl (Sender.step setup) created

def Call.Small : Call → Prop
  | .send _ payload _ _ _ => payload.length ≤ setup.device.maxPayloadBytes
  | _ => True

end Calls

structure Link where
  sent : Sent
  reads : List (List UInt8)

def contained : List Packet → ℕ → List Packet
  | [],_ => []
  | packet :: rest,count =>
    if packet.bytes.length ≤ count then packet :: contained rest (count - packet.bytes.length) else []

section Links
variable (setup : Setup)

structure Link.Arrives (link : Link) : Prop where
  front : link.reads.flatten <+: link.sent.bytes
  reads : Reads setup.device setup.decoders link.reads

def Link.reports (link : Link) : List Report := (serve setup.device setup.decoders link.reads).reports

def Link.Introduced (link : Link) : Prop :=
  ∃ hello ∈ link.sent.packets.head?, hello.bytes.length ≤ link.reads.flatten.length

def hello : Hello := ⟨setup.device.expectedDeviceId,setup.arguments.bootId⟩

-- Where a HELLO arrives whole it is accepted, and what is wholly behind it is dispatched in
-- order. Nothing else is reported, and no number is dispatched twice.
structure Delivered (links : List Link) : Prop where
  each : ∀ link ∈ links, link.Introduced → ∃ first rest, link.sent.packets = first :: rest ∧ Greeting setup first ∧
    link.reports setup = .authenticated (hello setup) first ::
      (contained rest (link.reads.flatten.length - first.bytes.length)).map (.dispatched (hello setup))
  once : (links.flatMap fun link => (dispatched (link.reports setup)).map Packet.sequence).Nodup

end Links

structure Ordered (setup : Setup) (next : ℕ) (sent : Sent) : Prop where
  greets : ∃ first ∈ sent.packets.head?, Greeting setup first
  sendable : ∀ packet ∈ sent.packets, packet.Sendable setup.device.maxPayloadBytes
  rising : sent.packets.Pairwise fun earlier later => earlier.sequence < later.sequence
  below : ∀ packet ∈ sent.packets, packet.sequence < next
  front : sent.bytes <+: stream Packet.bytes sent.packets

structure Sound (setup : Setup) (sender : Sender) : Prop where
  ordered : ∀ sent ∈ sender.connections, Ordered setup sender.sequence sent
  whole : ∀ sent ∈ sender.connection, sent.bytes = stream Packet.bytes sent.packets
  distinct : ((sender.connections.flatMap Sent.packets).map Packet.sequence).Nodup

variable {setup : Setup} {sender : Sender} {sent : Sent} {packet : Packet} {packets done left : List Packet}
variable {bytes rest : List UInt8} {links : List Link} {link : Link} {next later : ℕ}

theorem sound_created : Sound setup created where
  ordered _ member := nomatch member
  whole _ member := nomatch member
  distinct := List.nodup_nil

theorem ordered_later (ordered : Ordered setup next sent) (grows : next ≤ later) : Ordered setup later sent :=
  { ordered with below := fun packet member => (ordered.below packet member).trans_le grows }

theorem sound_close (sound : Sound setup sender) : Sound setup sender.close where
  ordered := by simpa [Sender.connections,Sender.close] using sound.ordered
  whole _ member := nomatch member
  distinct := by simpa [Sender.connections,Sender.close] using sound.distinct

theorem sound_failed (sound : Sound setup sender) (later : ℕ) : Sound setup (sender.failed later) :=
  ⟨(sound_close sound).ordered,(sound_close sound).whole,(sound_close sound).distinct⟩

theorem numbers_below (sound : Sound setup sender) :
    ∀ number ∈ (sender.connections.flatMap Sent.packets).map Packet.sequence, number < sender.sequence := by
  intro number member
  obtain ⟨packet,among,rfl⟩ := List.mem_map.mp member
  obtain ⟨sent,found,inside⟩ := List.mem_flatMap.mp among
  exact (sound.ordered sent found).below packet inside

theorem distinct_next (sound : Sound setup sender) (number : packet.sequence = sender.sequence)
    {others : List Packet} (more : others.Perm (sender.connections.flatMap Sent.packets ++ [packet])) :
    (others.map Packet.sequence).Nodup := by
  rw [(more.map Packet.sequence).nodup_iff,List.map_append,List.nodup_append]
  refine ⟨sound.distinct,List.nodup_singleton _,?_⟩
  intro earlier member other last same
  have lower := numbers_below sound earlier member
  rw [same,List.mem_singleton.mp last,number] at lower
  exact absurd lower (lt_irrefl _)

theorem sound_opened (configured : Configured setup) (sound : Sound setup sender) {monotonicNs : ℕ}
    (encoded : encodePacket (sender.hello setup monotonicNs) = some bytes) {part : List UInt8} (front : part <+: bytes)
    {after : Sender} (sequence : after.sequence = sender.sequence + 1)
    (connections : after.connections.Perm (sender.connections ++ [sender.greeted setup monotonicNs part]))
    (whole : ∀ sent ∈ after.connection, sent.bytes = stream Packet.bytes sent.packets) : Sound setup after := by
  obtain ⟨fits,rfl⟩ := encodePacket_some encoded
  have opened : Ordered setup after.sequence (sender.greeted setup monotonicNs part) := by
    refine ⟨⟨_,rfl,rfl,rfl⟩,?_,List.pairwise_singleton _ _,?_,?_⟩
    · intro packet member
      rw [List.mem_singleton.mp member]
      exact ⟨fits,configured.size⟩
    · intro packet member
      rw [List.mem_singleton.mp member,sequence]
      exact Nat.lt_succ_self _
    · simpa [Sender.greeted] using front
  refine ⟨?_,whole,?_⟩
  · intro sent member
    rcases List.mem_append.mp (connections.mem_iff.mp member) with early | last
    · exact ordered_later (sound.ordered sent early) (by omega)
    · rw [List.mem_singleton.mp last]
      exact opened
  · refine distinct_next sound (show (sender.hello setup monotonicNs).sequence = sender.sequence from rfl) ?_
    have flat := connections.flatMap_right Sent.packets
    rwa [List.flatMap_append,List.flatMap_singleton] at flat

theorem sound_connect (configured : Configured setup) (sound : Sound setup sender) (attempt : Attempt) :
    Sound setup (sender.connect setup attempt) := by
  unfold Sender.connect
  split
  · exact sound
  · split
    · exact sound_failed sound _
    · exact sound
    · rename_i written bytes _ encoded
      refine sound_opened configured sound encoded (List.take_prefix written bytes) rfl ?_ (fun _ member => nomatch member)
      simp [Sender.connections,Sender.close]
    · rename_i bytes _ encoded
      refine sound_opened configured sound encoded (List.prefix_refl bytes) rfl ?_ (fun _ member => nomatch member)
      simp [Sender.connections,Sender.close]
    · rename_i bytes _ encoded
      refine sound_opened configured sound encoded (List.prefix_refl bytes) rfl ?_ sound.whole
      simp only [Sender.connections,List.append_assoc]
      exact List.perm_append_comm.append_left _
    · rename_i bytes _ encoded
      refine sound_opened configured sound encoded (List.prefix_refl bytes) rfl (List.Perm.refl _) ?_
      intro sent member
      obtain rfl := Option.some.inj member
      rw [(encodePacket_some encoded).2]
      simp [Sender.greeted]

theorem sound_extended (sound : Sound setup sender) (used : sender.connection = some sent)
    (sendable : packet.Sendable setup.device.maxPayloadBytes) (number : packet.sequence = sender.sequence)
    {part : List UInt8} (front : part <+: packet.bytes) {after : Sender} (sequence : after.sequence = sender.sequence + 1)
    (connections : after.connections = sender.closed ++ [⟨sent.packets ++ [packet],sent.bytes ++ part⟩])
    (whole : ∀ sent ∈ after.connection, sent.bytes = stream Packet.bytes sent.packets) : Sound setup after := by
  have before : sender.connections = sender.closed ++ [sent] := by rw [Sender.connections,used]; rfl
  have ordered := sound.ordered sent (by rw [before]; simp)
  have longer : Ordered setup after.sequence ⟨sent.packets ++ [packet],sent.bytes ++ part⟩ := by
    refine ⟨?_,?_,?_,?_,?_⟩
    · obtain ⟨first,member,greets⟩ := ordered.greets
      refine ⟨first,?_,greets⟩
      simp only [List.head?_append]
      rw [Option.mem_def.mp member]
      rfl
    · intro other member
      rcases List.mem_append.mp member with early | last
      · exact ordered.sendable other early
      · rwa [List.mem_singleton.mp last]
    · refine List.pairwise_append.mpr ⟨ordered.rising,List.pairwise_singleton _ _,?_⟩
      intro earlier early other last
      rw [List.mem_singleton.mp last,number]
      exact ordered.below earlier early
    · intro other member
      rw [sequence]
      rcases List.mem_append.mp member with early | last
      · exact (ordered.below other early).trans (Nat.lt_succ_self _)
      · rw [List.mem_singleton.mp last,number]
        exact Nat.lt_succ_self _
    · rw [sound.whole sent used,stream_append,stream_cons,stream_nil,List.append_nil]
      exact (List.prefix_append_right_inj _).mpr front
  refine ⟨?_,whole,?_⟩
  · intro other member
    rw [connections] at member
    rcases List.mem_append.mp member with early | last
    · exact ordered_later (sound.ordered other (by rw [before]; exact List.mem_append_left _ early)) (by omega)
    · rw [List.mem_singleton.mp last]
      exact longer
  · refine distinct_next sound number ?_
    rw [connections,before]
    simp

theorem sound_transmit (sound : Sound setup sender) (used : sender.connection = some sent)
    (small : packet.payload.length ≤ setup.device.maxPayloadBytes) (number : packet.sequence = sender.sequence)
    (written : Written) : Sound setup (sender.transmit sent packet written) := by
  unfold Sender.transmit
  cases encoded : encodePacket packet with
  | none => exact sound
  | some bytes =>
    obtain ⟨fits,rfl⟩ := encodePacket_some encoded
    cases written with
    | done =>
      refine sound_extended sound used ⟨fits,small⟩ number (List.prefix_refl _) rfl rfl ?_
      rintro _ ⟨⟩
      simp [sound.whole sent used]
    | interrupted written later =>
      refine sound_extended sound used ⟨fits,small⟩ number (List.take_prefix written packet.bytes) rfl ?_ (fun _ member => nomatch member)
      simp [Sender.failed,Sender.close,Sender.connections]

theorem sound_step (configured : Configured setup) (sound : Sound setup sender) {call : Call} (small : call.Small setup) :
    Sound setup (sender.step setup call) := by
  cases call with
  | connect attempt => exact sound_connect configured sound attempt
  | close => exact sound_close sound
  | send packetType payload monotonicNs attempt written =>
    have connected : Sound setup (if sender.connection.isNone then sender.connect setup attempt else sender) := by
      split
      · exact sound_connect configured sound attempt
      · exact sound
    simp only [Sender.step,Sender.send]
    split
    · exact connected
    · rename_i sent used
      exact sound_transmit connected used (show payload.length ≤ _ from small) rfl written

theorem sound_calls (configured : Configured setup) {calls : List Call} (small : ∀ call ∈ calls, call.Small setup) :
    Sound setup (Delivery.sender setup calls) := by
  induction calls using List.reverseRecOn with
  | nil => exact sound_created
  | append_singleton calls call ih =>
    have goes : Delivery.sender setup (calls ++ [call]) = (Delivery.sender setup calls).step setup call := by
      simp [Delivery.sender]
    rw [goes]
    exact sound_step configured (ih fun other member => small other (List.mem_append_left _ member)) (small call (by simp))

theorem contained_front (incomplete : Incomplete Packet.bytes rest left) :
    contained (done ++ left) (stream Packet.bytes done ++ rest).length = done := by
  induction done with
  | nil =>
    cases left with
    | nil => rfl
    | cons packet left => exact if_neg (not_le.mpr incomplete)
  | cons packet done ih =>
    have size : (stream Packet.bytes (packet :: done) ++ rest).length =
        packet.bytes.length + (stream Packet.bytes done ++ rest).length := by
      rw [stream_cons,List.append_assoc,List.length_append]
    rw [List.cons_append,contained,size,if_pos (Nat.le_add_right _ _),Nat.add_sub_cancel_left,ih]

theorem contained_sublist (packets : List Packet) (count : ℕ) : (contained packets count).Sublist packets := by
  induction packets generalizing count with
  | nil => exact .slnil
  | cons packet rest ih =>
    unfold contained
    split
    · exact (ih _).cons_cons packet
    · exact List.nil_sublist _

theorem link_reports (configured : Configured setup) (plain : ascii setup.device.deviceToken = true)
    (ordered : Ordered setup next link.sent) (arrives : link.Arrives setup) :
    link.reports setup = expected (hello setup) (contained link.sent.packets link.reads.flatten.length) := by
  obtain ⟨done,left,rest,split,scans,parts,incomplete⟩ := scans_prefix (online setup.device.maxPayloadBytes)
    (fun _ => scan_bytes) ordered.sendable (arrives.front.trans ordered.front)
  have welcome : Welcome setup.device setup.decoders (hello setup) link.sent.packets := by
    refine ⟨?_,ordered.rising⟩
    intro first member
    obtain ⟨other,same,greets⟩ := ordered.greets
    obtain rfl : first = other := Option.mem_unique member same
    have greeted := greet_greeting configured greets
    rwa [if_pos plain] at greeted
  rw [split,parts,contained_front incomplete]
  exact (serve_served arrives.reads scans (welcome_front (split ▸ welcome))).met.reports

theorem never_authenticated (foreign : ¬ ascii setup.device.deviceToken = true) (packet : Packet) (accepted : Hello) :
    greet setup.device setup.decoders packet ≠ .ok accepted := by
  have undecided : ∀ supplied, compareDigest supplied setup.device.deviceToken = none := fun supplied =>
    if_neg (by simp [foreign])
  intro greeted
  unfold greet authenticate at greeted
  simp only [undecided] at greeted
  repeat' split at greeted
  all_goals cases greeted

theorem link_numbers (configured : Configured setup) (ordered : Ordered setup next link.sent) (arrives : link.Arrives setup) :
    ((dispatched (link.reports setup)).map Packet.sequence).Sublist (link.sent.packets.map Packet.sequence) := by
  refine List.Sublist.map _ ?_
  by_cases plain : ascii setup.device.deviceToken = true
  · rw [link_reports configured plain ordered arrives,dispatched_expected]
    exact (List.tail_sublist _).trans (contained_sublist _ _)
  · have handed := (serve_strange (never_authenticated plain) link.reads).handed
    rw [Link.reports,handed]
    exact List.nil_sublist _

theorem delivered_iff (setup : Setup) (configured : Configured setup) (calls : List Call)
    (small : ∀ call ∈ calls, call.Small setup) (links : List Link)
    (sent : links.map Link.sent = (Delivery.sender setup calls).connections) (arrives : ∀ link ∈ links, link.Arrives setup) :
    Delivered setup links ↔ ascii setup.device.deviceToken = true ∨ ∀ link ∈ links, ¬ link.Introduced := by
  have sound := sound_calls configured small
  have ordered : ∀ link ∈ links, Ordered setup (Delivery.sender setup calls).sequence link.sent := fun link member =>
    sound.ordered link.sent (sent ▸ List.mem_map_of_mem member)
  have once : (links.flatMap fun link => (dispatched (link.reports setup)).map Packet.sequence).Nodup := by
    have distinct := sound.distinct
    rw [← sent,List.flatMap_map,List.map_flatMap] at distinct
    exact distinct.sublist (List.Sublist.flatMap_right links fun link member =>
      link_numbers configured (ordered link member) (arrives link member))
  constructor
  · intro delivered
    refine or_iff_not_imp_left.mpr fun foreign link member introduced => ?_
    obtain ⟨first,rest,_,_,reports⟩ := delivered.each link member introduced
    refine (serve_strange (never_authenticated foreign) link.reads).authenticated (hello setup) first ?_
    rw [← Link.reports,reports]
    exact List.mem_cons_self ..
  · intro condition
    refine ⟨fun link member introduced => ?_,once⟩
    have plain : ascii setup.device.deviceToken = true :=
      condition.resolve_right fun none => none link member introduced
    have reports := link_reports configured plain (ordered link member) (arrives link member)
    obtain ⟨first,found,whole⟩ := introduced
    obtain ⟨other,same,greets⟩ := (ordered link member).greets
    obtain rfl : first = other := Option.mem_unique found same
    obtain ⟨rest,packets⟩ := List.head?_eq_some_iff.mp found
    refine ⟨first,rest,packets,greets,?_⟩
    rw [reports,packets,contained,if_pos whole,expected]

-- One `send` on a fresh stream: the connection is made first, or its HELLO is not answered.
def attempt (answer : Answer) : Attempt := ⟨10000000000,10000000000,15000000000,answer⟩
def oneSend (answer : Answer) : List Call := [.send .healthUpdate [123,125] 20000000000 (attempt answer) .done]

theorem small_oneSend (answer : Answer) (room : 2 ≤ setup.device.maxPayloadBytes) :
    ∀ call ∈ oneSend answer, call.Small setup := by
  intro call member
  rw [List.mem_singleton.mp member]
  exact room

def firstHello (setup : Setup) : Packet := created.hello setup 10000000000
def firstHealth : Packet := ⟨.healthUpdate,0,2,20000000000,[123,125]⟩

theorem first_sendable (configured : Configured setup) (limits : setup.device.maxPayloadBytes = 2097152) :
    (firstHello setup).Sendable setup.device.maxPayloadBytes ∧ firstHealth.Sendable setup.device.maxPayloadBytes := by
  have size : (firstHello setup).payload.length ≤ setup.device.maxPayloadBytes := configured.size
  have fits : (firstHello setup).header.fits = true :=
    header_fits (show 0 < 2 ^ 16 by decide) (by omega) (show 1 < 2 ^ 64 by decide) (show 10000000000 < 2 ^ 64 by decide)
  have health : firstHealth.header.fits = true := by decide +kernel
  refine ⟨⟨fits,size⟩,health,?_⟩
  rw [limits]
  decide

theorem sent_acknowledged (configured : Configured setup) (limits : setup.device.maxPayloadBytes = 2097152) :
    (Delivery.sender setup (oneSend .acknowledged)).connections =
      [⟨[firstHello setup,firstHealth],(firstHello setup).bytes ++ firstHealth.bytes⟩] := by
  obtain ⟨first,second⟩ := first_sendable configured limits
  have hello : encodePacket (created.hello setup 10000000000) = some (firstHello setup).bytes := if_pos first.1
  have health : encodePacket firstHealth = some firstHealth.bytes := if_pos second.1
  have connected : created.connect setup (attempt .acknowledged) =
      ⟨2,some ⟨[firstHello setup],(firstHello setup).bytes⟩,0,[]⟩ := by
    simp only [Sender.connect,attempt,hello]
    rfl
  have sends : Delivery.sender setup (oneSend .acknowledged) =
      Sender.transmit ⟨2,some ⟨[firstHello setup],(firstHello setup).bytes⟩,0,[]⟩ ⟨[firstHello setup],(firstHello setup).bytes⟩
        firstHealth .done := by
    show (created.send setup .healthUpdate [123,125] 20000000000 (attempt .acknowledged) .done) = _
    simp only [Sender.send,created,Option.isNone_none,if_true]
    rw [← created,connected]
    rfl
  rw [sends,Sender.transmit,health]
  rfl

theorem sent_unanswered (configured : Configured setup) (limits : setup.device.maxPayloadBytes = 2097152) :
    (Delivery.sender setup (oneSend .unanswered)).connections = [⟨[firstHello setup],(firstHello setup).bytes⟩] := by
  obtain ⟨first,_⟩ := first_sendable configured limits
  have hello : encodePacket (created.hello setup 10000000000) = some (firstHello setup).bytes := if_pos first.1
  have connected : created.connect setup (attempt .unanswered) =
      ⟨2,none,17000000000,[⟨[firstHello setup],(firstHello setup).bytes⟩]⟩ := by
    simp only [Sender.connect,attempt,hello]
    rfl
  show (created.send setup .healthUpdate [123,125] 20000000000 (attempt .unanswered) .done).connections = _
  simp only [Sender.send,created,Option.isNone_none,if_true]
  rw [← created,connected]
  rfl

-- With the sample's token both packets are delivered.
def sampleLink : Link :=
  ⟨⟨[firstHello sampleSetup,firstHealth],(firstHello sampleSetup).bytes ++ firstHealth.bytes⟩,
    [(firstHello sampleSetup).bytes,firstHealth.bytes]⟩

theorem sample_welcome : Welcome sampleSetup.device sampleSetup.decoders (hello sampleSetup) [firstHello sampleSetup] where
  greets first member := by
    obtain rfl := Option.some.inj member
    have greeted := greet_greeting sample_configured (show Greeting sampleSetup (firstHello sampleSetup) from ⟨rfl,rfl⟩)
    rwa [if_pos sample_plain] at greeted
  rising := List.pairwise_singleton _ _

theorem sample_arrives : sampleLink.Arrives sampleSetup where
  front := by
    rw [sampleLink,List.flatten_cons,List.flatten_singleton]
  reads := by
    obtain ⟨first,_⟩ := first_sendable sample_configured rfl
    have reads := reads_packets sample_welcome (fun packet member => List.mem_singleton.mp member ▸ first)
      (show firstHealth.bytes ≠ [] by decide) (show firstHealth.bytes.length ≤ 2097152 + headerSize by decide)
    exact reads

theorem sample_delivered : Delivered sampleSetup [sampleLink] := by
  refine (delivered_iff sampleSetup sample_configured (oneSend .acknowledged) (small_oneSend _ (by decide)) [sampleLink] ?_ ?_).mpr
    (.inl sample_plain)
  · exact (sent_acknowledged sample_configured rfl).symm
  · intro link member
    rw [List.mem_singleton.mp member]
    exact sample_arrives

-- A token with an accent, on both sides. `json.dumps` writes it with an escape.
def foreignArguments : Arguments := { sampleArguments with token := "cl\u00e9" }

def foreignDumps : Content → List UInt8
  | .hello deviceId bootId _ => jsonDumps (.hello deviceId bootId "cl\\u00e9")
  | content => jsonDumps content

def foreignSetup : Setup where
  arguments := foreignArguments
  communications := sampleSetup.communications
  device := ⟨"ignis-qnxpi-01","cl\u00e9",2097152⟩
  dumps := foreignDumps
  decoders :=
    { json bytes :=
        if bytes = foreignDumps (greeting foreignArguments) then .ok (greetingFields foreignArguments)
        else .error "invalid JSON payload"
      device := sampleDecoders.device }

theorem foreign_json {bytes : List UInt8} (written : bytes = foreignDumps (greeting foreignArguments)) :
    foreignSetup.decoders.json bytes = .ok (greetingFields foreignArguments) := if_pos written

theorem foreign_configured : Configured foreignSetup where
  device := rfl
  token := rfl
  size := by decide +kernel
  text := foreign_json rfl

def foreignLink : Link := ⟨⟨[firstHello foreignSetup],(firstHello foreignSetup).bytes⟩,[(firstHello foreignSetup).bytes]⟩

-- Its HELLO arrives whole, and `compare_digest` raises.
theorem foreign_refused :
    Configured foreignSetup ∧ (∀ call ∈ oneSend .unanswered, call.Small foreignSetup) ∧
    [foreignLink].map Link.sent = (Delivery.sender foreignSetup (oneSend .unanswered)).connections ∧
    (∀ link ∈ [foreignLink], link.Arrives foreignSetup) ∧ foreignLink.Introduced ∧
    ¬ Delivered foreignSetup [foreignLink] := by
  have foreign : ¬ ascii foreignSetup.device.deviceToken = true := by decide +kernel
  have introduced : foreignLink.Introduced := by
    refine ⟨firstHello foreignSetup,rfl,?_⟩
    rw [foreignLink,List.flatten_singleton]
  refine ⟨foreign_configured,small_oneSend _ (by decide),(sent_unanswered foreign_configured rfl).symm,?_,introduced,?_⟩
  · intro link member
    rw [List.mem_singleton.mp member]
    obtain ⟨⟨_,small⟩,_⟩ := first_sendable foreign_configured rfl
    refine ⟨by rw [foreignLink,List.flatten_singleton],reads_single ?_ ?_⟩
    · exact List.ne_nil_of_length_pos (by rw [length_bytes,headerSize]; omega)
    · rw [length_bytes]
      omega
  · intro delivered
    obtain ⟨first,rest,_,_,reports⟩ := delivered.each foreignLink (by simp) introduced
    refine (serve_strange (never_authenticated foreign) foreignLink.reads).authenticated (hello foreignSetup) first ?_
    rw [← Link.reports,reports]
    exact List.mem_cons_self ..

end Ignis.Delivery
