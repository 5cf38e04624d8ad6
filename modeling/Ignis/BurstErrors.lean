import Ignis.QnxParser
import Ignis.ShiftRegister

-- What the checksum of a packet sees: a burst of changed bits no longer than its register.
namespace Ignis.BurstErrors
open QnxProtocol ShiftRegister

def polynomial : BitVec 32 := 0xEDB88320#32

-- The bits of a payload from byte 0 on, the lowest bit of each byte first.
def byteBits (byte : UInt8) : List Bool := (List.range 8).map byte.toBitVec.getLsbD
def payloadBits (payload : List UInt8) : List Bool := payload.flatMap byteBits

structure Burst (payload changed : List UInt8) : Prop where
  lengths : payload.length = changed.length
  other : payload ≠ changed
  within : ∃ start, ∀ i, (payloadBits payload)[i]? ≠ (payloadBits changed)[i]? → start ≤ i ∧ i < start + 32

variable {payload changed : List UInt8}

theorem length_byteBits (byte : UInt8) : (byteBits byte).length = 8 := rfl

theorem byteBits_injective : Function.Injective byteBits := by
  intro a b same
  apply UInt8.toBitVec_inj.mp
  apply BitVec.eq_of_getLsbD_eq
  intro i inside
  have bits := congrArg (fun bits => bits[i]?) same
  simpa [byteBits,inside] using bits

theorem payloadBits_injective (lengths : payload.length = changed.length) (same : payloadBits payload = payloadBits changed) :
    payload = changed := by
  induction payload generalizing changed with
  | nil => exact (List.length_eq_zero_iff.mp lengths.symm).symm
  | cons byte rest ih =>
    cases changed with
    | nil => cases lengths
    | cons other more =>
      obtain ⟨first,later⟩ := List.append_inj same rfl
      rw [byteBits_injective first,ih (Nat.succ.inj lengths) later]

theorem crcByte_feed (register : BitVec 32) (byte : UInt8) :
    Protocol.crcByte register byte = feed polynomial register (byteBits byte) := by
  have bits : (word (byteBits byte) : BitVec 32) = BitVec.ofNat 32 byte.toNat := by
    apply BitVec.eq_of_getLsbD_eq
    intro i inside
    rw [getLsbD_word inside,BitVec.getLsbD_ofNat,decide_eq_true inside,Bool.true_and]
    by_cases low : i < 8
    · have bit : byte.toBitVec.getLsbD i = byte.toNat.testBit i := rfl
      rw [← bit]
      simp [byteBits,low]
    · have clear : byte.toNat.testBit i = false := by
        apply Nat.testBit_lt_two_pow
        have size : byte.toNat < 2 ^ 8 := byte.toNat_lt
        exact size.trans_le (Nat.pow_le_pow_right (by decide) (not_lt.mp low))
      rw [clear,List.getD_eq_getElem?_getD,List.getElem?_eq_none (not_lt.mp low)]
      rfl
  rw [feed_load (by rw [length_byteBits]; decide),bits]
  rfl

theorem crc32_feed (payload : List UInt8) :
    Protocol.crc32 payload = feed polynomial 0xFFFFFFFF#32 (payloadBits payload) ^^^ 0xFFFFFFFF#32 := by
  have register : ∀ start, payload.foldl Protocol.crcByte start = feed polynomial start (payloadBits payload) := by
    induction payload with
    | nil => exact fun _ => rfl
    | cons byte rest ih =>
      intro start
      have bits : payloadBits (byte :: rest) = byteBits byte ++ payloadBits rest := rfl
      rw [List.foldl_cons,ih,crcByte_feed,bits,feed_append]
  rw [Protocol.crc32,register]

theorem crc32_burst (burst : Burst payload changed) : Protocol.crc32 changed ≠ Protocol.crc32 payload := by
  obtain ⟨start,within⟩ := burst.within
  have lengths : ∀ payload : List UInt8, (payloadBits payload).length = payload.length * 8 := by
    intro payload
    induction payload with
    | nil => rfl
    | cons byte rest ih =>
      have bits : payloadBits (byte :: rest) = byteBits byte ++ payloadBits rest := rfl
      rw [bits,List.length_append,ih,length_byteBits,List.length_cons]
      omega
  have top : polynomial.getLsbD (32 - 1) = true := by decide
  have registers : feed polynomial 0xFFFFFFFF#32 (payloadBits payload) ≠ feed polynomial 0xFFFFFFFF#32 (payloadBits changed) :=
    feed_burst top (by rw [lengths,lengths,burst.lengths])
      (fun same => burst.other (payloadBits_injective burst.lengths same)) start within
  rw [crc32_feed,crc32_feed]
  intro same
  exact registers ((BitVec.xor_left_inj _).mp same).symm

def corrupted (packet : Packet) (changed : List UInt8) : List UInt8 :=
  (serializePacket packet).take packetHeaderSize ++ changed

variable {packet : Packet} {maximumPayload : UInt64}

theorem errorText_crc {text : String} (same : errorText text = "payload CRC mismatch") : text = "payload CRC mismatch" := by
  unfold errorText at same
  split_ifs at same with one two three four
  · exact absurd same (by decide)
  · exact absurd same (by decide)
  · exact absurd same (by decide)
  · exact absurd same (by decide)
  · exact same

theorem scan_corrupted (lengths : packet.payload.length = changed.length) (small : packet.payload.length < 2 ^ 32)
    (limit : packet.payload.length ≤ maximumPayload.toNat) (differs : Protocol.crc32 changed ≠ Protocol.crc32 packet.payload) :
    scan maximumPayload (corrupted packet changed) = .fail "payload CRC mismatch" := by
  have bytes : corrupted packet changed = packet.backend.header.pack ++ changed := by
    have front : (packet.backend.header.pack ++ packet.backend.payload).take packetHeaderSize = packet.backend.header.pack :=
      List.take_left' (Protocol.length_pack packet.backend.header)
    rw [corrupted,serializePacket_bytes packet small,Protocol.Packet.bytes,front]
  have whole : Protocol.scan maximumPayload.toNat (corrupted packet changed) = .fail "payload CRC mismatch" := by
    have announced : packet.backend.header.length = changed.length := lengths
    have crc : packet.backend.header.crc = (Protocol.crc32 packet.payload).toNat := rfl
    rw [bytes,Protocol.scan_pack (backend_fits packet small) limit,Protocol.scanPayload,announced,if_neg (lt_irrefl _),
      List.take_length,crc,if_pos fun same => differs (BitVec.eq_of_toNat_eq same)]
  have both := scan_same maximumPayload (corrupted packet changed)
  rw [whole] at both
  cases scanned : scan maximumPayload (corrupted packet changed) with
  | wait => rw [scanned] at both; cases both
  | take => rw [scanned] at both; cases both
  | fail text =>
    rw [scanned] at both
    have texts : errorText text = "payload CRC mismatch" := by
      injection both with same
      exact same.symm
    rw [errorText_crc texts]

theorem burst_detected (packet : Packet) (changed : List UInt8) (burst : Burst packet.payload changed) :
    crc32 changed ≠ crc32 packet.payload ∧
    ∀ parser : PacketParser, parser.buffer = [] → packet.payload.length < 2 ^ 32 →
      packetHeaderSize + packet.payload.length ≤ (parser.maximumPayload + UInt64.ofNat packetHeaderSize).toNat →
        parser.feed (corrupted packet changed) = .error "payload CRC mismatch" := by
  have differs := crc32_burst burst
  refine ⟨?_,?_⟩
  · intro same
    apply differs
    rw [← crc32_same,← crc32_same,same]
  · intro parser empty small room
    have size : (corrupted packet changed).length = packetHeaderSize + packet.payload.length := by
      rw [corrupted,List.length_append,List.length_take,length_serializePacket,burst.lengths]
      omega
    have limit : packet.payload.length ≤ parser.maximumPayload.toNat := by
      have bound := wrapped_bound parser.maximumPayload
      omega
    rw [PacketParser.feed,if_neg (by rw [empty,size,List.length_nil]; omega)]
    dsimp only
    rw [empty,List.nil_append,Framing.drain,PacketParser.next]
    dsimp only
    rw [scan_corrupted burst.lengths small limit differs]

-- The three bytes of the tests' PING, with four bits of the last two turned.
def burstPing : List UInt8 := [1,0x82,0x0D]

theorem burstPing_burst : Burst sample.payload burstPing where
  lengths := rfl
  other := by decide
  within := by
    refine ⟨0,?_⟩
    intro i differs
    refine ⟨Nat.zero_le i,?_⟩
    by_contra far
    have one : (payloadBits sample.payload)[i]? = none := List.getElem?_eq_none (by
      have size : (payloadBits sample.payload).length = 24 := by decide
      omega)
    have two : (payloadBits burstPing)[i]? = none := List.getElem?_eq_none (by
      have size : (payloadBits burstPing).length = 24 := by decide
      omega)
    exact differs (one.trans two.symm)

theorem burst_detected_ping : (PacketParser.created 1024).feed (corrupted sample burstPing) = .error "payload CRC mismatch" :=
  (burst_detected sample burstPing burstPing_burst).2 (.created 1024) rfl (by decide) (by decide)

end Ignis.BurstErrors
