import Ignis.DeviceServer

-- The device server with all its connections, and what they share: the registry, the devices table,
-- and the rest of the backend.
namespace Ignis.DeviceRegistry
open Tables Protocol Backend DeviceServer Database

structure DeviceConnection where
  deviceId : String
  writer : ℕ
deriving DecidableEq

-- What is kept of a FRAME, of DETECTIONS and of a HEALTH_UPDATE is made from these.
structure Registry where
  connections : Table DeviceConnection.deviceId
  latestFrame : Option Packet
  latestDetections : Option (List UInt8)
  latestHealth : Option (String × List UInt8)

structure DeviceRow where
  deviceId : String
  bootId : String
  softwareVersion : String
  connected : Bool
  connectedAt : Option Time
  disconnectedAt : Option Time
  lastSeenAt : Time
  capabilities : Option Json
  health : Option (List UInt8)

structure Shared where
  registry : Registry
  devices : Table DeviceRow.deviceId
  app : App

-- `dispatched` are the packets that `_dispatch` was called for, each with its connection.
structure System where
  shared : Shared
  handlers : List Handler
  dispatched : List (ℕ × Packet)

def launched (devices : Table DeviceRow.deviceId) (app : App) : System := ⟨⟨⟨.empty,none,none,none⟩,devices,app⟩,[],[]⟩

-- `register`. That the old writer is closed shows when its connection ends.
def Shared.register (shared : Shared) (deviceId : String) (writer : ℕ) : Shared :=
  { shared with registry := { shared.registry with
      connections := shared.registry.connections.upsert ⟨deviceId,writer⟩
        (fun connection => { connection with writer := writer }) fun _ => rfl } }

def Shared.upsertDevice (shared : Shared) (now : Time) (hello : Hello) (fields : List (String × Json)) : Shared :=
  let softwareVersion := ((fields.lookup "software_version").bind Json.column).getD "unknown"
  let capabilities := fields.lookup "capabilities"
  { shared with
    devices := shared.devices.upsert
      ⟨hello.deviceId,hello.bootId,softwareVersion,true,some now,none,now,capabilities,none⟩
      (fun row => { row with
        bootId := hello.bootId
        softwareVersion := softwareVersion
        connected := true
        connectedAt := some now
        disconnectedAt := none
        lastSeenAt := now
        capabilities := capabilities }) fun _ => rfl }

def Shared.markDeviceDisconnected (shared : Shared) (now : Time) (hello : Hello) : Shared :=
  { shared with
    devices := shared.devices.modify hello.deviceId (fun row =>
      if row.bootId = hello.bootId then { row with connected := false, disconnectedAt := some now, lastSeenAt := now }
      else row) fun row => by split <;> rfl }

-- `unregister`, in the `finally` of a handler that has a HELLO, and what follows if the
-- connection was the current one.
def Shared.leave (shared : Shared) (now : Time) (writer : ℕ) : Option Hello → Shared
  | none => shared
  | some hello =>
    match shared.registry.connections.find hello.deviceId with
    | none => shared
    | some current =>
      if current.writer = writer then
        Shared.markDeviceDisconnected { shared with registry := { shared.registry with
          connections := shared.registry.connections.erase hello.deviceId } } now hello
      else shared

def Shared.dispatch (decoders : Decoders) (shared : Shared) (now : Time) (hello : Hello) (packet : Packet) :
    Except DeviceError Shared :=
  match Backend.dispatch shared.app now hello (decoders.device packet.packetType packet.monotonicNs packet.payload) with
  | .error error => .error error
  | .ok app =>
    let next := { shared with app := app }
    match packet.packetType with
    | .frame => .ok { next with registry := { next.registry with latestFrame := some packet } }
    | .detections => .ok { next with registry := { next.registry with latestDetections := some packet.payload } }
    | .healthUpdate => .ok { next with
        registry := { next.registry with latestHealth := some (hello.deviceId,packet.payload) }
        devices := next.devices.modify hello.deviceId
          (fun row => { row with health := some packet.payload, lastSeenAt := now }) fun _ => rfl }
    | _ => .ok next

variable (settings : DeviceSettings) (decoders : Decoders) (communications : Communications.Settings)

def System.put (system : System) (writer : ℕ) (handler : Handler) : System :=
  { system with handlers := system.handlers.set writer handler }

def System.finish (system : System) (now : Time) (writer : ℕ) (handler : Handler) : System :=
  { system with
    shared := system.shared.leave now writer handler.hello
    handlers := system.handlers.set writer { handler with running := false } }

def System.read (system : System) (now : Time) (writer : ℕ) (handler : Handler) (chunk : List UInt8) : System :=
  if chunk = [] then system.finish now writer handler
  else match handler.feed chunk with
  | .error _ => system.finish now writer handler
  | .ok next => system.put writer next

def helloFields (packet : Packet) : List (String × Json) := (decoders.json packet.payload).toOption.getD []

-- `_authenticate` registers the connection before `upsert_device` gets the HELLO.
def System.authenticate (system : System) (now : Time) (writer : ℕ) (handler : Handler) (packet : Packet) : System :=
  let registered := system.shared.register settings.expectedDeviceId writer
  match greet settings decoders packet with
  | .error .databaseError => { system with shared := registered }.finish now writer handler
  | .error _ => system.finish now writer handler
  | .ok hello =>
    { system with shared := registered.upsertDevice now hello (helloFields decoders packet) }.put writer
      { handler with hello := some hello }

def System.handle (system : System) (now : Time) (writer : ℕ) (handler : Handler) (packet : Packet) (rest : List Packet) :
    System :=
  let next := { handler with packets := rest }
  if packet.sequence ≤ handler.lastSequence then system.put writer next
  else
    let next := { next with lastSequence := packet.sequence }
    match handler.hello with
    | none => system.authenticate settings decoders now writer next packet
    | some hello =>
      let called := { system with dispatched := system.dispatched ++ [(writer,packet)] }
      match system.shared.dispatch decoders now hello packet with
      | .error _ => called.finish now writer next
      | .ok shared => { called with shared := shared }.put writer next

-- The connection goes away under a handler, or its task is cancelled: `lost`.
inductive Input where
  | opened
  | read (writer : ℕ) (chunk : List UInt8) (now : Time)
  | handle (writer : ℕ) (now : Time)
  | lost (writer : ℕ) (now : Time)
  | backend (tick : Tick)

def System.running (system : System) (writer : ℕ) : Option Handler :=
  system.handlers[writer]?.filter fun handler => handler.running

def System.backend (system : System) (tick : Tick) : System :=
  match tick.input with
  | .packet .. | .restart => system
  | _ => { system with shared := { system.shared with app := Backend.step communications system.shared.app tick } }

def step (system : System) : Input → System
  | .opened => { system with handlers := system.handlers ++ [accepted settings] }
  | .read writer chunk now =>
    match system.running writer with
    | none => system
    | some handler => if handler.packets.isEmpty then system.read now writer handler chunk else system
  | .handle writer now =>
    match system.running writer with
    | none => system
    | some handler =>
      match handler.packets with
      | [] => system
      | packet :: rest => system.handle settings decoders now writer handler packet rest
  | .lost writer now =>
    match system.running writer with
    | none => system
    | some handler => system.finish now writer handler
  | .backend tick => system.backend communications tick

end Ignis.DeviceRegistry
