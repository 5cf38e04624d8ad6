import Ignis.Protocol

-- The packets of the C++ side (`protocol.cpp`), with its fixed-width integers.
namespace Ignis.QnxProtocol
open Framing

inductive PacketType where
  | hello | helloAck
  | frame | detections | incidentUpdate | incidentTimelineEvent | healthUpdate | evidenceManifest | logEvent
  | configAck | configUpdate | occupantConfirm | occupantCancel | manualReset | callStatusUpdate | ping | pong
deriving DecidableEq, Repr

def PacketType.value : PacketType → UInt8
  | .hello => 1
  | .helloAck => 2
  | .frame => 10
  | .detections => 11
  | .incidentUpdate => 12
  | .incidentTimelineEvent => 13
  | .healthUpdate => 14
  | .evidenceManifest => 15
  | .logEvent => 16
  | .configAck => 20
  | .configUpdate => 100
  | .occupantConfirm => 101
  | .occupantCancel => 102
  | .manualReset => 103
  | .callStatusUpdate => 104
  | .ping => 105
  | .pong => 106

def packetTypes : List PacketType :=
  [.hello,.helloAck,.frame,.detections,.incidentUpdate,.incidentTimelineEvent,.healthUpdate,.evidenceManifest,
    .logEvent,.configAck,.configUpdate,.occupantConfirm,.occupantCancel,.manualReset,.callStatusUpdate,.ping,.pong]

-- `known_packet_type`, and the type that the cast of a known value gives.
def knownPacketType (value : UInt8) : Option PacketType := packetTypes.find? fun known => known.value = value

structure Packet where
  type : PacketType
  flags : UInt16
  sequence : UInt64
  monotonicNs : UInt64
  payload : List UInt8
deriving DecidableEq

def packetHeaderSize : ℕ := 32
def protocolVersion : UInt8 := 1

def writeU16 (value : UInt16) : List UInt8 := [(value >>> 8).toUInt8,value.toUInt8]
def writeU32 (value : UInt32) : List UInt8 :=
  [(value >>> 24).toUInt8,(value >>> 16).toUInt8,(value >>> 8).toUInt8,(value >>> 0).toUInt8]
def writeU64 (value : UInt64) : List UInt8 :=
  [(value >>> 56).toUInt8,(value >>> 48).toUInt8,(value >>> 40).toUInt8,(value >>> 32).toUInt8,
    (value >>> 24).toUInt8,(value >>> 16).toUInt8,(value >>> 8).toUInt8,(value >>> 0).toUInt8]

def shiftU16 (value : UInt16) (byte : UInt8) : UInt16 := (value <<< 8) ||| byte.toUInt16
def shiftU32 (value : UInt32) (byte : UInt8) : UInt32 := (value <<< 8) ||| byte.toUInt32
def shiftU64 (value : UInt64) (byte : UInt8) : UInt64 := (value <<< 8) ||| byte.toUInt64

def readU16 (input : List UInt8) : UInt16 := (input.take 2).foldl shiftU16 0
def readU32 (input : List UInt8) : UInt32 := (input.take 4).foldl shiftU32 0
def readU64 (input : List UInt8) : UInt64 := (input.take 8).foldl shiftU64 0

def crcBit (crc : UInt32) : UInt32 :=
  let mask := -(crc &&& 1)
  (crc >>> 1) ^^^ (0xEDB88320 &&& mask)

def crcByte (crc : UInt32) (byte : UInt8) : UInt32 := Nat.iterate crcBit 8 (crc ^^^ byte.toUInt32)

def crc32 (data : List UInt8) : UInt32 := ~~~(data.foldl crcByte 0xFFFFFFFF)

def serializePacket (packet : Packet) : List UInt8 :=
  [73,71,78,83] ++ [protocolVersion] ++ [packet.type.value] ++ writeU16 packet.flags ++
    writeU32 (UInt32.ofNat packet.payload.length) ++ writeU64 packet.sequence ++ writeU64 packet.monotonicNs ++
    writeU32 (crc32 packet.payload) ++ packet.payload

def scan (maximumPayload : UInt64) (buffer : List UInt8) : Scan Packet UInt8 String :=
  if buffer.length < packetHeaderSize then .wait
  else if buffer.take 4 ≠ [73,71,78,83] then .fail "invalid magic"
  else if buffer.getD 4 0 ≠ protocolVersion then .fail "unsupported version"
  else match knownPacketType (buffer.getD 5 0) with
  | none => .fail "unknown packet type"
  | some type =>
    let payloadLength := readU32 (buffer.drop 8)
    if maximumPayload < payloadLength.toUInt64 then .fail "payload exceeds maximum"
    else if buffer.length < packetHeaderSize + payloadLength.toNat then .wait
    else
      let payload := (buffer.drop packetHeaderSize).take payloadLength.toNat
      let packet := ⟨type,readU16 (buffer.drop 6),readU64 (buffer.drop 12),readU64 (buffer.drop 20),payload⟩
      if crc32 payload ≠ readU32 (buffer.drop 28) then .fail "payload CRC mismatch"
      else .take packet (buffer.drop (packetHeaderSize + payloadLength.toNat))

structure PacketParser where
  maximumPayload : UInt64
  buffer : List UInt8
deriving DecidableEq

def PacketParser.created (maximumPayload : UInt64) : PacketParser := ⟨maximumPayload,[]⟩

def PacketParser.next (parser : PacketParser) : Except String (Option Packet × PacketParser) :=
  match scan parser.maximumPayload parser.buffer with
  | .wait => .ok (none,parser)
  | .fail text => .error text
  | .take packet rest => .ok (some packet,{ parser with buffer := rest })

-- The sum with the header size may wrap around; the sizes of what is in memory do not.
def PacketParser.feed (parser : PacketParser) (data : List UInt8) : Except String (List Packet × PacketParser) :=
  if (parser.maximumPayload + UInt64.ofNat packetHeaderSize).toNat < parser.buffer.length + data.length then
    .error "connection buffer exceeds maximum packet size"
  else
    let buffer := parser.buffer ++ data
    drain PacketParser.next (buffer.length + 1) { parser with buffer := buffer }

section Widths
variable {bytes : List UInt8} {offset : ℕ}

theorem foldl_value {α : Type} (toNat : α → ℕ) (shift : α → UInt8 → α) (size : ℕ)
    (shifts : ∀ value byte, toNat (shift value byte) = (toNat value * 256 + byte.toNat) % size)
    (bytes : List UInt8) (value : α) (small : toNat value < size) :
    toNat (bytes.foldl shift value) = (toNat value * 256 ^ bytes.length + bigEndianValue bytes) % size := by
  induction bytes generalizing value with
  | nil => simp [bigEndianValue,Nat.mod_eq_of_lt small]
  | cons byte rest ih =>
    have next : toNat (shift value byte) < size := by
      rw [shifts]
      exact Nat.mod_lt _ (by omega)
    rw [List.foldl_cons,ih _ next,shifts,bigEndianValue,List.length_cons,pow_succ]
    have parts : toNat value * (256 ^ rest.length * 256) + (byte.toNat * 256 ^ rest.length + bigEndianValue rest) =
        (toNat value * 256 + byte.toNat) * 256 ^ rest.length + bigEndianValue rest := by ring
    rw [parts,Nat.add_mod,Nat.mod_mul_mod,← Nat.add_mod]

theorem or_byte (value width : ℕ) (byte : UInt8) :
    (value <<< 8 % 2 ^ (8 + width)) ||| byte.toNat = (value * 256 + byte.toNat) % 2 ^ (8 + width) := by
  have low : byte.toNat < 2 ^ 8 := byte.toNat_lt
  have high : value <<< 8 % 2 ^ (8 + width) = 2 ^ 8 * (value % 2 ^ width) := by
    rw [Nat.shiftLeft_eq,pow_add,Nat.mul_comm,Nat.mul_mod_mul_left]
  have last : (value * 256 + byte.toNat) % 2 ^ 8 = byte.toNat := by omega
  have front : (value * 256 + byte.toNat) / 2 ^ 8 = value := by omega
  rw [high,← Nat.two_pow_add_eq_or_of_lt low,pow_add,Nat.mod_mul,last,front,Nat.add_comm]

theorem shiftU16_value (value : UInt16) (byte : UInt8) :
    (shiftU16 value byte).toNat = (value.toNat * 256 + byte.toNat) % 2 ^ 16 := by
  simpa [shiftU16] using or_byte value.toNat 8 byte

theorem shiftU32_value (value : UInt32) (byte : UInt8) :
    (shiftU32 value byte).toNat = (value.toNat * 256 + byte.toNat) % 2 ^ 32 := by
  simpa [shiftU32] using or_byte value.toNat 24 byte

theorem shiftU64_value (value : UInt64) (byte : UInt8) :
    (shiftU64 value byte).toNat = (value.toNat * 256 + byte.toNat) % 2 ^ 64 := by
  simpa [shiftU64] using or_byte value.toNat 56 byte

theorem writeU16_bytes (value : UInt16) : writeU16 value = bigEndian 2 value.toNat := by
  simp only [writeU16,bigEndian,← UInt8.toNat_inj,List.cons.injEq]
  simp [Nat.shiftRight_eq_div_pow]

theorem writeU32_bytes (value : UInt32) : writeU32 value = bigEndian 4 value.toNat := by
  simp only [writeU32,bigEndian,← UInt8.toNat_inj,List.cons.injEq]
  simp [Nat.shiftRight_eq_div_pow]

theorem writeU64_bytes (value : UInt64) : writeU64 value = bigEndian 8 value.toNat := by
  simp only [writeU64,bigEndian,← UInt8.toNat_inj,List.cons.injEq]
  simp [Nat.shiftRight_eq_div_pow]

theorem readU16_value : (readU16 (bytes.drop offset)).toNat = field offset 2 bytes := by
  have spelled := foldl_value UInt16.toNat shiftU16 (2 ^ 16) shiftU16_value ((bytes.drop offset).take 2) 0 (by decide)
  have small : field offset 2 bytes < 2 ^ 16 := field_lt
  rw [readU16,spelled]
  simpa [field] using Nat.mod_eq_of_lt small

theorem readU32_value : (readU32 (bytes.drop offset)).toNat = field offset 4 bytes := by
  have spelled := foldl_value UInt32.toNat shiftU32 (2 ^ 32) shiftU32_value ((bytes.drop offset).take 4) 0 (by decide)
  have small : field offset 4 bytes < 2 ^ 32 := field_lt
  rw [readU32,spelled]
  simpa [field] using Nat.mod_eq_of_lt small

theorem readU64_value : (readU64 (bytes.drop offset)).toNat = field offset 8 bytes := by
  have spelled := foldl_value UInt64.toNat shiftU64 (2 ^ 64) shiftU64_value ((bytes.drop offset).take 8) 0 (by decide)
  have small : field offset 8 bytes < 2 ^ 64 := field_lt
  rw [readU64,spelled]
  simpa [field] using Nat.mod_eq_of_lt small

end Widths

-- The checksum of the backend, with the branch on the lowest bit written as a mask.
theorem crcBit_same (crc : UInt32) : (crcBit crc).toBitVec = Protocol.crcBit crc.toBitVec := by
  have lowest : crc.toBitVec &&& 1#32 = BitVec.setWidth 32 (BitVec.ofBool (crc.toBitVec.getLsbD 0)) :=
    BitVec.and_one_eq_setWidth_ofBool_getLsbD
  have mask : (crcBit crc).toBitVec = (crc.toBitVec >>> 1) ^^^ (0xEDB88320#32 &&& -(crc.toBitVec &&& 1#32)) := rfl
  rw [mask,lowest,Protocol.crcBit]
  cases crc.toBitVec.getLsbD 0 with
  | false =>
    have none : 0xEDB88320#32 &&& -(BitVec.setWidth 32 (BitVec.ofBool false)) = 0#32 := by decide
    rw [none,BitVec.xor_zero]
    rfl
  | true =>
    have all : 0xEDB88320#32 &&& -(BitVec.setWidth 32 (BitVec.ofBool true)) = 0xEDB88320#32 := by decide
    rw [all]
    rfl

theorem crcByte_same (crc : UInt32) (byte : UInt8) : (crcByte crc byte).toBitVec = Protocol.crcByte crc.toBitVec byte := by
  have bits : Function.Semiconj UInt32.toBitVec crcBit^[8] Protocol.crcBit^[8] :=
    Function.Semiconj.iterate_right crcBit_same 8
  have start : (crc ^^^ byte.toUInt32).toBitVec = crc.toBitVec ^^^ BitVec.ofNat 32 byte.toNat := by
    have widened : byte.toUInt32.toBitVec = BitVec.ofNat 32 byte.toNat := BitVec.eq_of_toNat_eq (by simp)
    rw [UInt32.toBitVec_xor,widened]
  rw [Protocol.crcByte,← start]
  exact bits (crc ^^^ byte.toUInt32)

theorem crc32_same (data : List UInt8) : (crc32 data).toBitVec = Protocol.crc32 data := by
  have register : ∀ crc : UInt32, (data.foldl crcByte crc).toBitVec = data.foldl Protocol.crcByte crc.toBitVec := by
    induction data with
    | nil => exact fun _ => rfl
    | cons byte rest ih =>
      intro crc
      rw [List.foldl_cons,ih,crcByte_same]
      rfl
  rw [crc32,UInt32.toBitVec_not,register,Protocol.crc32]
  exact (BitVec.xor_allOnes ..).symm

def PacketType.backend : PacketType → Protocol.PacketType
  | .hello => .hello
  | .helloAck => .helloAck
  | .frame => .frame
  | .detections => .detections
  | .incidentUpdate => .incidentUpdate
  | .incidentTimelineEvent => .incidentTimelineEvent
  | .healthUpdate => .healthUpdate
  | .evidenceManifest => .evidenceManifest
  | .logEvent => .logEvent
  | .configAck => .configAck
  | .configUpdate => .configUpdate
  | .occupantConfirm => .occupantConfirm
  | .occupantCancel => .occupantCancel
  | .manualReset => .manualReset
  | .callStatusUpdate => .callStatusUpdate
  | .ping => .ping
  | .pong => .pong

def Packet.backend (packet : Packet) : Protocol.Packet :=
  ⟨packet.type.backend,packet.flags.toNat,packet.sequence.toNat,packet.monotonicNs.toNat,packet.payload⟩

def errorText (text : String) : String :=
  if text = "invalid magic" then "invalid packet magic"
  else if text = "unsupported version" then "unsupported protocol version"
  else if text = "payload exceeds maximum" then "payload exceeds configured maximum"
  else if text = "connection buffer exceeds maximum packet size" then "connection buffer exceeded maximum packet size"
  else text

theorem value_code (type : PacketType) : type.value.toNat = type.backend.code := by
  cases type <;> rfl

theorem backend_fits (packet : Packet) (small : packet.payload.length < 2 ^ 32) : packet.backend.header.fits = true :=
  Protocol.header_fits packet.flags.toNat_lt small packet.sequence.toNat_lt packet.monotonicNs.toNat_lt

theorem serializePacket_bytes (packet : Packet) (small : packet.payload.length < 2 ^ 32) :
    serializePacket packet = packet.backend.bytes := by
  have length : (UInt32.ofNat packet.payload.length).toNat = packet.payload.length := by
    simpa using Nat.mod_eq_of_lt small
  have crc : (crc32 packet.payload).toNat = (Protocol.crc32 packet.payload).toNat := by
    rw [← crc32_same]
    rfl
  have type : [packet.type.value] = bigEndian 1 packet.type.backend.code := by cases packet.type <;> rfl
  have version : [protocolVersion] = bigEndian 1 Protocol.version := rfl
  have bytes : packet.backend.bytes = Protocol.magic ++ (bigEndian 1 Protocol.version ++
      (bigEndian 1 packet.type.backend.code ++ (bigEndian 2 packet.flags.toNat ++ (bigEndian 4 packet.payload.length ++
        (bigEndian 8 packet.sequence.toNat ++ (bigEndian 8 packet.monotonicNs.toNat ++
          (bigEndian 4 (Protocol.crc32 packet.payload).toNat ++ []))))))) ++ packet.payload := rfl
  rw [bytes,serializePacket,writeU16_bytes,writeU32_bytes,writeU64_bytes,writeU64_bytes,writeU32_bytes,length,crc,type,version]
  simp only [List.append_assoc,List.append_nil]
  rfl

theorem known_same (value : UInt8) :
    Protocol.PacketType.ofCode value.toNat = (knownPacketType value).map PacketType.backend := by
  have types : Protocol.packetTypes = packetTypes.map PacketType.backend := rfl
  have same : ((fun known : Protocol.PacketType => decide (known.code = value.toNat)) ∘ PacketType.backend) =
      fun known => decide (known.value = value) := by
    funext known
    simp only [Function.comp_apply,← value_code,UInt8.toNat_inj]
  rw [Protocol.PacketType.ofCode,types,List.find?_map,same]
  rfl

theorem scan_same (maximumPayload : UInt64) (buffer : List UInt8) :
    Protocol.scan maximumPayload.toNat buffer = (scan maximumPayload buffer).map Packet.backend errorText := by
  have size : Protocol.headerSize = packetHeaderSize := rfl
  rw [Protocol.scan,scan,size]
  by_cases short : buffer.length < packetHeaderSize
  · rw [if_pos short,if_pos short]
    rfl
  · have long : 32 ≤ buffer.length := not_lt.mp short
    have start : (buffer.take packetHeaderSize).take 4 = buffer.take 4 := by rw [List.take_take]; rfl
    have version : field 4 1 (buffer.take packetHeaderSize) = (buffer.getD 4 0).toNat := by
      rw [field_take (by decide),field_byte (by omega)]
    have type : field 5 1 (buffer.take packetHeaderSize) = (buffer.getD 5 0).toNat := by
      rw [field_take (by decide),field_byte (by omega)]
    have flags : field 6 2 (buffer.take packetHeaderSize) = (readU16 (buffer.drop 6)).toNat := by
      rw [field_take (by decide),readU16_value]
    have length : field 8 4 (buffer.take packetHeaderSize) = (readU32 (buffer.drop 8)).toNat := by
      rw [field_take (by decide),readU32_value]
    have sequence : field 12 8 (buffer.take packetHeaderSize) = (readU64 (buffer.drop 12)).toNat := by
      rw [field_take (by decide),readU64_value]
    have monotonicNs : field 20 8 (buffer.take packetHeaderSize) = (readU64 (buffer.drop 20)).toNat := by
      rw [field_take (by decide),readU64_value]
    have crc : field 28 4 (buffer.take packetHeaderSize) = (readU32 (buffer.drop 28)).toNat := by
      rw [field_take (by decide),readU32_value]
    rw [if_neg short,if_neg short,Protocol.readHeader,start,version,type,flags,length,sequence,monotonicNs,crc,known_same]
    generalize readU32 (buffer.drop 8) = payloadLength
    by_cases magic : buffer.take 4 ≠ [73,71,78,83]
    · rw [if_pos magic,if_pos (show buffer.take 4 ≠ Protocol.magic from magic)]
      rfl
    · rw [if_neg magic,if_neg (show ¬ buffer.take 4 ≠ Protocol.magic from magic)]
      by_cases old : buffer.getD 4 0 ≠ protocolVersion
      · have other : (buffer.getD 4 0).toNat ≠ Protocol.version := fun same => old (UInt8.toNat_inj.mp same)
        rw [if_pos old,if_pos other]
        rfl
      · have current : ¬ (buffer.getD 4 0).toNat ≠ Protocol.version := by
          rw [not_ne_iff.mp old]
          decide
        rw [if_neg old,if_neg current]
        cases knownPacketType (buffer.getD 5 0) with
        | none => rfl
        | some type =>
          simp only [Option.map_some]
          by_cases large : maximumPayload < payloadLength.toUInt64
          · have larger : maximumPayload.toNat < payloadLength.toNat := UInt64.lt_iff_toNat_lt.mp large
            rw [if_pos large,if_pos larger]
            rfl
          · have fits : ¬ maximumPayload.toNat < payloadLength.toNat := fun larger => large (UInt64.lt_iff_toNat_lt.mpr larger)
            rw [if_neg large,if_neg fits]
            simp only [Protocol.scanPayload,List.length_drop,List.drop_drop]
            by_cases missing : buffer.length < packetHeaderSize + payloadLength.toNat
            · have behind : buffer.length - packetHeaderSize < payloadLength.toNat := by omega
              rw [if_pos missing,if_pos behind]
              rfl
            · have behind : ¬ buffer.length - packetHeaderSize < payloadLength.toNat := by omega
              rw [if_neg missing,if_neg behind]
              have crcs : ∀ payload, (Protocol.crc32 payload).toNat = (crc32 payload).toNat := by
                intro payload
                rw [← crc32_same]
                rfl
              rw [crcs]
              generalize (buffer.drop packetHeaderSize).take payloadLength.toNat = payload
              by_cases wrong : crc32 payload ≠ readU32 (buffer.drop 28)
              · have different : (crc32 payload).toNat ≠ (readU32 (buffer.drop 28)).toNat :=
                  fun same => wrong (UInt32.toNat_inj.mp same)
                rw [if_pos wrong,if_pos different]
                rfl
              · have equal : ¬ (crc32 payload).toNat ≠ (readU32 (buffer.drop 28)).toNat := by
                  rw [not_ne_iff.mp wrong]
                  exact not_not_intro rfl
                rw [if_neg wrong,if_neg equal]
                rfl

end Ignis.QnxProtocol
