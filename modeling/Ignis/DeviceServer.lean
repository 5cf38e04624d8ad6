import Ignis.Backend
import Ignis.Protocol

-- The handler of `DeviceTcpServer` reads a chunk and handles its packets one after the other; other code
-- of the backend may run between two of them.
namespace Ignis.DeviceServer
open Protocol Backend

-- A decoded JSON value, as far as the handling of a HELLO looks at it: numbers and
-- containers come with the text that `str` gives of them, numbers also with the one that a column
-- stores. What no column takes (an integer beyond 64 bits, NaN, a lone surrogate) counts as a container.
inductive Json where
  | null
  | boolean (value : Bool)
  | number (value : Database.Number) (text column : String)
  | string (text : String)
  | container (text : String)
deriving DecidableEq

def Json.str : Json → String
  | .null => "None"
  | .boolean true => "True"
  | .boolean false => "False"
  | .number _ text _ | .string text | .container text => text

def Json.isOne : Json → Bool
  | .boolean value => value
  | .number value _ _ => value = 1
  | _ => false

-- What a TEXT NOT NULL column stores of it: containers are not supported.
def Json.column : Json → Option String
  | .null | .container _ => none
  | .boolean value => some (if value then "1" else "0")
  | .number _ _ text | .string text => some text

structure DeviceSettings where
  expectedDeviceId : String
  deviceToken : String
  maxPayloadBytes : ℕ

-- The decoders of payloads: `Packet.json` for a HELLO; `decode_frame_payload`, `Packet.json`
-- and `model_validate` for what comes after it.
structure Decoders where
  json : List UInt8 → Except String (List (String × Json))
  device : PacketType → ℕ → List UInt8 → DevicePacket

def ascii (text : String) : Bool := text.toList.all fun c => c.toNat < 128

def compareDigest (supplied expected : String) : Option Bool :=
  if ascii supplied && ascii expected then some (supplied = expected) else none

-- `_authenticate`. The registry and the devices table are not stored here, but a HELLO
-- that `upsert_device` cannot store is turned away.
def authenticate (settings : DeviceSettings) (hello : List (String × Json)) : Except DeviceError Hello :=
  match hello.lookup "device_id",hello.lookup "boot_id",hello.lookup "protocol_version",
    hello.lookup "software_version",hello.lookup "device_token" with
  | some deviceId,some bootId,some protocolVersion,some softwareVersion,some deviceToken =>
    if !protocolVersion.isOne then .error (.protocolError "HELLO protocol version mismatch")
    else if deviceId ≠ .string settings.expectedDeviceId then .error (.protocolError "unknown device")
    else match compareDigest deviceToken.str settings.deviceToken with
    | none => .error .typeError
    | some false => .error (.protocolError "authentication failed")
    | some true =>
      match bootId.column,softwareVersion.column with
      | some bootId,some _ => .ok ⟨settings.expectedDeviceId,bootId⟩
      | _,_ => .error .databaseError
  | _,_,_,_,_ => .error (.protocolError "HELLO missing required fields")

structure Handler where
  parser : PacketParser
  hello : Option Hello
  lastSequence : ℤ
  packets : List Packet
  running : Bool

def accepted (settings : DeviceSettings) : Handler := ⟨.created settings.maxPayloadBytes,none,-1,[],true⟩

variable (settings : DeviceSettings) (decoders : Decoders)

-- The chunk that `reader.read(65_536)` returns when this many bytes have arrived.
def Handler.chunk (handler : Handler) (flight : List UInt8) (count : ℕ) : Option (List UInt8) :=
  let chunk := flight.take count
  if handler.running && handler.packets.isEmpty && chunk ≠ [] && chunk.length ≤ 65536 then some chunk else none

def Handler.feed (handler : Handler) (chunk : List UInt8) : Except String Handler :=
  match handler.parser.feed chunk with
  | .error text => .error text
  | .ok (packets,parser) => .ok { handler with parser := parser, packets := packets }

def greet (packet : Packet) : Except DeviceError Hello :=
  if packet.packetType ≠ .hello then .error (.protocolError "HELLO must be the first packet")
  else match decoders.json packet.payload with
  | .error text => .error (.protocolError text)
  | .ok hello => authenticate settings hello

def Handler.handle (handler : Handler) (app : App) (now : Database.Time) (packet : Packet) (rest : List Packet) :
    Except DeviceError (Handler × App) :=
  let next := { handler with packets := rest }
  if packet.sequence ≤ handler.lastSequence then .ok (next,app)
  else
    let next := { next with lastSequence := packet.sequence }
    match handler.hello with
    | none =>
      match greet settings decoders packet with
      | .error error => .error error
      | .ok hello => .ok ({ next with hello := some hello },app)
    | some hello =>
      match dispatch app now hello (decoders.device packet.packetType packet.monotonicNs packet.payload) with
      | .error error => .error error
      | .ok app => .ok (next,app)

end Ignis.DeviceServer
