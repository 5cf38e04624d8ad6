import Ignis.DeviceServer
import Ignis.EdgeLoop
import Ignis.Runs

-- The Pi, its connections and the backend together. A connection delivers its bytes in
-- order and may lose the end of them; everything else happens in any order.
namespace Ignis.DeviceLink
open Protocol Backend DeviceServer EdgeLoop

structure Setup where
  arguments : Arguments
  communications : Communications.Settings
  device : DeviceSettings
  dumps : Content → List UInt8
  decoders : Decoders

structure Link where
  flight : List UInt8
  handler : Handler

-- `rejections` are the texts of the warning "device protocol connection rejected".
structure System where
  pi : Pi
  links : List Link
  app : App
  rejections : List String

inductive Input where
  | frame (input : FrameInput)
  | proceed (now : Clock) (outcome : Outcome)
  | read (connection count : ℕ)
  | handle (connection : ℕ) (now : Database.Time)
  | lost (connection : ℕ)
  | backend (tick : Tick)

variable (setup : Setup) (system : System)

def start : System := ⟨EdgeLoop.launched setup.arguments,[],fresh,[]⟩

def carry (links : List Link) : Wire → List Link
  | .nothing => links
  | .opened bytes => links ++ [⟨bytes,accepted setup.device⟩]
  | .written connection bytes => links.modify connection fun link => { link with flight := link.flight ++ bytes }

def acknowledged (connection : ℕ) : Bool :=
  system.links[connection]?.any fun link => link.handler.hello.isSome

def halted (link : Link) : Link := { link with handler := { link.handler with running := false } }

def halt (connection : ℕ) : System := { system with links := system.links.modify connection halted }

def put (connection : ℕ) (link : Link) : System := { system with links := system.links.set connection link }

def reject (connection : ℕ) (text : String) : System :=
  { halt system connection with rejections := system.rejections ++ [text] }

def arriving (connection count : ℕ) : Option (Link × List UInt8) :=
  match system.links[connection]? with
  | none => none
  | some link => (link.handler.chunk link.flight count).map fun chunk => (link,chunk)

def queued (connection : ℕ) : Option (Link × Packet × List Packet) :=
  match system.links[connection]? with
  | none => none
  | some link =>
    match link.handler.running,link.handler.packets with
    | true,packet :: rest => some (link,packet,rest)
    | _,_ => none

def read (connection count : ℕ) : System :=
  match arriving system connection count with
  | none => system
  | some (link,chunk) =>
    match link.handler.feed chunk with
    | .error text => reject system connection text
    | .ok handler => put system connection ⟨link.flight.drop count,handler⟩

def handle (connection : ℕ) (now : Database.Time) : System :=
  match queued system connection with
  | none => system
  | some (link,packet,rest) =>
    match link.handler.handle setup.device setup.decoders system.app now packet rest with
    | .error (.protocolError text) => reject system connection text
    | .error _ => halt system connection
    | .ok (handler,app) => { put system connection { link with handler := handler } with app := app }

-- The backend's own inputs; device packets come over the connections only.
def backend (tick : Tick) : System :=
  match tick.input with
  | .packet .. => system
  | .restart => { system with app := Backend.step setup.communications system.app tick, links := system.links.map halted }
  | _ => { system with app := Backend.step setup.communications system.app tick }

def step : Input → System
  | .frame input => { system with pi := iterate setup.arguments system.pi input }
  | .proceed now outcome =>
    let (pi,wire) := EdgeLoop.proceed setup.arguments setup.dumps system.pi system.links.length now outcome
      (acknowledged system)
    { system with pi := pi, links := carry setup system.links wire }
  | .read connection count => read system connection count
  | .handle connection now => handle setup system connection now
  | .lost connection => halt system connection
  | .backend tick => backend setup system tick

end Ignis.DeviceLink
