import Ignis.QnxParser
import Ignis.Reassembly

-- The backend sets a header aside once it is there, the C++ side reads it again each time.
namespace Ignis.WireAgreement
open Framing

def answers {σ α β ε : Type*} (feed : σ → List β → Except ε (List α × σ)) (parser : σ) : List (List β) → List (Except ε (List α))
  | [] => []
  | chunk :: rest =>
    match feed parser chunk with
    | .error error => [.error error]
    | .ok (items,next) => .ok items :: answers feed next rest

-- An answer of the C++ side as the backend gives it.
def answer : Except String (List QnxProtocol.Packet) → Except String (List Protocol.Packet)
  | .error text => .error (QnxProtocol.errorText text)
  | .ok packets => .ok (packets.map QnxProtocol.Packet.backend)

structure Same (maximumPayload : UInt64) (qnx : QnxProtocol.PacketParser) (backend : Protocol.PacketParser) : Prop where
  maximum : qnx.maximumPayload = maximumPayload
  sane : backend.Sane maximumPayload.toNat
  holds : backend.held = qnx.buffer

variable {maximumPayload : UInt64} {qnx next : QnxProtocol.PacketParser} {backend : Protocol.PacketParser}
variable {chunk : List UInt8} {packets : List QnxProtocol.Packet} {text : String}

theorem created_same (maximumPayload : UInt64) :
    Same maximumPayload (.created maximumPayload) (.created maximumPayload.toNat) :=
  ⟨rfl,Protocol.created_sane maximumPayload.toNat,rfl⟩

theorem same_bounded (same : Same maximumPayload qnx backend)
    (small : qnx.buffer.length + chunk.length ≤ maximumPayload.toNat + QnxProtocol.packetHeaderSize) :
    backend.buffer.length + chunk.length ≤ maximumPayload.toNat + Protocol.headerSize := by
  have held : backend.buffer.length ≤ backend.held.length := Protocol.buffer_le_held
  have size : Protocol.headerSize = QnxProtocol.packetHeaderSize := rfl
  rw [same.holds] at held
  omega

theorem feed_same (same : Same maximumPayload qnx backend) (chunk : List UInt8) :
    qnx.feed chunk = .error "connection buffer exceeds maximum packet size" ∨
    (∃ text, qnx.feed chunk = .error text ∧ backend.feed chunk = .error (QnxProtocol.errorText text)) ∨
    ∃ packets next after, qnx.feed chunk = .ok (packets,next) ∧
      backend.feed chunk = .ok (packets.map QnxProtocol.Packet.backend,after) ∧ Same maximumPayload next after := by
  have goes := QnxProtocol.feed_fed same.maximum chunk
  generalize qnx.feed chunk = outcome at goes
  cases goes with
  | refused => exact .inl rfl
  | failed packets text small scans =>
    have seen := scans.map (QnxProtocol.scan_same maximumPayload)
    rw [← same.holds] at seen
    exact .inr (.inl ⟨text,rfl,(Protocol.feed_scans same.sane (same_bounded same small)).fails _ _ seen⟩)
  | returned packets next small scans maximum =>
    have seen := scans.map (QnxProtocol.scan_same maximumPayload)
    rw [← same.holds] at seen
    obtain ⟨after,fed,holds,sane,_⟩ := (Protocol.feed_scans same.sane (same_bounded same small)).waits _ _ seen
    exact .inr (.inr ⟨packets,next,after,rfl,fed,maximum,sane,holds⟩)

theorem answers_same (same : Same maximumPayload qnx backend) (chunks : List (List UInt8))
    (bounded : .error "connection buffer exceeds maximum packet size" ∉ answers QnxProtocol.PacketParser.feed qnx chunks) :
    answers Protocol.PacketParser.feed backend chunks = (answers QnxProtocol.PacketParser.feed qnx chunks).map answer := by
  induction chunks generalizing qnx backend with
  | nil => rfl
  | cons chunk rest ih =>
    rw [answers] at bounded
    rw [answers,answers]
    obtain refused | ⟨text,fails,other⟩ | ⟨packets,next,after,fed,other,still⟩ := feed_same same chunk
    · rw [refused] at bounded
      exact absurd (List.mem_singleton.mpr rfl) bounded
    · rw [fails,other]
      rfl
    · rw [fed] at bounded
      rw [fed,other,List.map_cons]
      exact congrArg _ (ih still fun member => bounded (List.mem_cons_of_mem _ member))

-- As long as the C++ side has room for what comes in, up to and with the first call that fails.
theorem wire_agrees :
    (∀ packet : QnxProtocol.Packet, packet.payload.length < 2 ^ 32 →
      Protocol.encodePacket packet.backend = some (QnxProtocol.serializePacket packet)) ∧
    ∀ (maximumPayload : UInt64) (chunks : List (List UInt8)),
      .error "connection buffer exceeds maximum packet size" ∉
        answers QnxProtocol.PacketParser.feed (.created maximumPayload) chunks →
      answers Protocol.PacketParser.feed (.created maximumPayload.toNat) chunks =
        (answers QnxProtocol.PacketParser.feed (.created maximumPayload) chunks).map answer := by
  refine ⟨fun packet small => ?_,fun maximumPayload chunks bounded => answers_same (created_same maximumPayload) chunks bounded⟩
  rw [Protocol.encodePacket,if_pos (QnxProtocol.backend_fits packet small),QnxProtocol.serializePacket_bytes packet small]

-- A packet, and a header that is none: both parsers fail at the second call.
theorem garbage_agrees :
    Protocol.encodePacket QnxProtocol.sample.backend = some (QnxProtocol.serializePacket QnxProtocol.sample) ∧
    answers Protocol.PacketParser.feed (.created 1024) [QnxProtocol.serializePacket QnxProtocol.sample,List.replicate 32 0] =
      [.ok [QnxProtocol.sample.backend],.error "invalid packet magic"] := by
  have qnx : answers QnxProtocol.PacketParser.feed (.created 1024)
      [QnxProtocol.serializePacket QnxProtocol.sample,List.replicate 32 0] =
        [.ok [QnxProtocol.sample],.error "invalid magic"] := by decide +kernel
  refine ⟨wire_agrees.1 QnxProtocol.sample (by decide),?_⟩
  have same := wire_agrees.2 1024 [QnxProtocol.serializePacket QnxProtocol.sample,List.replicate 32 0]
    (by rw [qnx]; decide)
  rw [qnx] at same
  exact same

end Ignis.WireAgreement
