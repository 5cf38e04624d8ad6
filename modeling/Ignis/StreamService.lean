import Ignis.Delivery
import Ignis.HelloText
import Ignis.QnxProtocol
import Ignis.Runs

-- The C++ stream service with its connections (`stream_service/src/main.cpp`), and what the
-- backend takes of them.
namespace Ignis.StreamService
open Runs Framing FramePayload JsonValues JsonText HelloText QnxProtocol

-- The answers of `::send`: how much it takes of the rest, an interruption, or a failure; at a broken
-- pipe the process gets a SIGPIPE. Where no answer is given, it takes everything.
inductive Sent where
  | took (count : ℕ)
  | interrupted
  | failed
  | brokenPipe

inductive Outcome where
  | sent | failed | killed

def sendAll : List Sent → List UInt8 → List UInt8 × Outcome
  | _,[] => ([],.sent)
  | [],data => (data,.sent)
  | .interrupted :: rest,data => sendAll rest data
  | .failed :: _,_ => ([],.failed)
  | .brokenPipe :: _,_ => ([],.killed)
  | .took count :: rest,data =>
    if count = 0 then ([],.failed)
    else
      let (taken,outcome) := sendAll rest (data.drop count)
      (data.take count ++ taken,outcome)

def env (value : Option String) (fallback : String) : String :=
  match value with
  | none => fallback
  | some value => if value = "" then fallback else value

structure Environment where
  ignisDeviceId : Option String
  ignisDeviceToken : Option String
  startedNs : UInt64

def Environment.deviceId (environment : Environment) : String := env environment.ignisDeviceId "ignis-qnxpi-01"
def Environment.token (environment : Environment) : String := env environment.ignisDeviceToken ""

structure Line where
  packets : List Packet
  bytes : List UInt8

-- `connection` is the socket of the inner loop.
structure Service where
  sequence : UInt64
  backoffMs : ℕ
  running : Bool
  connection : Option Line
  closed : List Line

-- Without a token `main` returns before its loop.
def started (environment : Environment) : Service := ⟨1,250,environment.token ≠ "",none,[]⟩

inductive Input where
  | connectFailed
  | connected (monotonicNs : UInt64) (sends : List Sent)
  | health (monotonicNs : UInt64) (sends : List Sent)
  | stop

def Environment.bootId (environment : Environment) : String := toString environment.startedNs.toNat

def Environment.hello (environment : Environment) : List UInt8 :=
  HelloText.hello (utf8 environment.deviceId) (utf8 environment.bootId) (utf8 environment.token)

def health : List UInt8 :=
  utf8 ("\x7b\"status\":\"DEGRADED\",\"camera\":\"UNKNOWN\",\"inference\":\"UNKNOWN\",\"incident_engine\":\"HEALTHY\"," ++
    "\"stream\":\"HEALTHY\",\"watchdog_restart_count\":0\x7d")

def Service.lines (service : Service) : List Line := service.closed ++ service.connection.toList

-- One turn of a loop; the service leaves both once it is told to stop.
def step (environment : Environment) (service : Service) : Input → Service
  | .connectFailed =>
    if service.running ∧ service.connection.isNone then { service with backoffMs := min 10000 (service.backoffMs * 2) }
    else service
  | .connected monotonicNs sends =>
    if service.running ∧ service.connection.isNone then
      let packet := ⟨.hello,0,service.sequence,monotonicNs,environment.hello⟩
      let (taken,outcome) := sendAll sends (serializePacket packet)
      let next := { service with sequence := service.sequence + 1, backoffMs := 250 }
      match outcome with
      | .sent => { next with connection := some ⟨[packet],taken⟩ }
      | .failed => { next with closed := service.closed ++ [⟨[packet],taken⟩] }
      | .killed => { next with running := false, closed := service.closed ++ [⟨[packet],taken⟩] }
    else service
  | .health monotonicNs sends =>
    match service.connection with
    | none => service
    | some line =>
      if service.running then
        let packet := ⟨.healthUpdate,0,service.sequence,monotonicNs,health⟩
        let (taken,outcome) := sendAll sends (serializePacket packet)
        let longer : Line := ⟨line.packets ++ [packet],line.bytes ++ taken⟩
        let next := { service with sequence := service.sequence + 1 }
        match outcome with
        | .sent => { next with connection := some longer }
        | .failed => { next with connection := none, closed := service.closed ++ [longer] }
        | .killed => { next with running := false, connection := none, closed := service.closed ++ [longer] }
      else { service with connection := none, closed := service.closed ++ [line] }
  | .stop => { service with running := false }

variable {environment : Environment} {service : Service} {line : Line} {packet : Packet} {data : List UInt8} {sends : List Sent}

theorem sendAll_front (sends : List Sent) (data : List UInt8) :
    (sendAll sends data).1 <+: data ∧ ((sendAll sends data).2 = .sent → (sendAll sends data).1 = data) := by
  induction sends generalizing data with
  | nil =>
    cases data with
    | nil => exact ⟨List.prefix_rfl,fun _ => rfl⟩
    | cons => exact ⟨List.prefix_rfl,fun _ => rfl⟩
  | cons verdict rest ih =>
    cases data with
    | nil => exact ⟨List.prefix_rfl,fun _ => rfl⟩
    | cons byte data =>
      cases verdict with
      | interrupted => exact ih (byte :: data)
      | failed | brokenPipe => exact ⟨List.nil_prefix,nofun⟩
      | took count =>
        simp only [sendAll]
        split
        · exact ⟨List.nil_prefix,nofun⟩
        · obtain ⟨front,whole⟩ := ih ((byte :: data).drop count)
          refine ⟨?_,fun sent => ?_⟩
          · have split := List.take_append_drop count (byte :: data)
            conv_rhs => rw [← split]
            exact (List.prefix_append_right_inj _).mpr front
          · rw [whole sent,List.take_append_drop]

structure Ordered (environment : Environment) (next : ℕ) (line : Line) : Prop where
  greets : ∃ sequence monotonicNs, line.packets.head? = some ⟨.hello,0,sequence,monotonicNs,environment.hello⟩
  payloads : ∀ packet ∈ line.packets, packet.payload = environment.hello ∨ packet.payload = health
  rising : line.packets.Pairwise fun earlier later => earlier.sequence.toNat < later.sequence.toNat
  below : ∀ packet ∈ line.packets, packet.sequence.toNat < next
  front : line.bytes <+: stream serializePacket line.packets

structure Sound (environment : Environment) (service : Service) : Prop where
  ordered : ∀ line ∈ service.lines, Ordered environment service.sequence.toNat line
  whole : ∀ line ∈ service.connection, line.bytes = stream serializePacket line.packets
  rising : (service.lines.flatMap Line.packets).Pairwise fun earlier later => earlier.sequence.toNat < later.sequence.toNat

theorem sound_started : Sound environment (started environment) := ⟨nofun,nofun,List.Pairwise.nil⟩

theorem ordered_later {next later : ℕ} (ordered : Ordered environment next line) (grows : next ≤ later) :
    Ordered environment later line :=
  { ordered with below := fun packet member => (ordered.below packet member).trans_le grows }

theorem sequence_next (room : service.sequence.toNat + 1 < 2 ^ 64) :
    (service.sequence + 1).toNat = service.sequence.toNat + 1 := by
  rw [UInt64.toNat_add]
  exact Nat.mod_eq_of_lt room

theorem packets_below (sound : Sound environment service) :
    ∀ packet ∈ service.lines.flatMap Line.packets, packet.sequence.toNat < service.sequence.toNat := by
  intro packet member
  obtain ⟨line,found,inside⟩ := List.mem_flatMap.mp member
  exact (sound.ordered line found).below packet inside

theorem sound_sent (sound : Sound environment service) (room : service.sequence.toNat + 1 < 2 ^ 64)
    {next : Service} {others : List Line} (sequence : next.sequence = service.sequence + 1) (number : packet.sequence = service.sequence)
    (older : ∀ line ∈ others, line ∈ service.lines) (lines : next.lines = others ++ [line])
    (packets : (others ++ [line]).flatMap Line.packets = service.lines.flatMap Line.packets ++ [packet])
    (ordered : Ordered environment (service.sequence.toNat + 1) line)
    (whole : ∀ line ∈ next.connection, line.bytes = stream serializePacket line.packets) : Sound environment next := by
  have count : next.sequence.toNat = service.sequence.toNat + 1 := sequence ▸ sequence_next room
  refine ⟨fun other member => ?_,whole,?_⟩
  · rw [count]
    rw [lines] at member
    rcases List.mem_append.mp member with early | last
    · exact ordered_later (sound.ordered other (older other early)) (Nat.le_succ _)
    · rw [List.mem_singleton.mp last]
      exact ordered
  · rw [lines,packets]
    refine List.pairwise_append.mpr ⟨sound.rising,List.pairwise_singleton _ _,fun earlier early last only => ?_⟩
    rw [List.mem_singleton.mp only,number]
    exact packets_below sound earlier early

theorem ordered_hello (monotonicNs : UInt64) (sends : List Sent) :
    let packet : Packet := ⟨.hello,0,service.sequence,monotonicNs,environment.hello⟩
    Ordered environment (service.sequence.toNat + 1) ⟨[packet],(sendAll sends (serializePacket packet)).1⟩ := by
  intro packet
  refine ⟨⟨_,_,rfl⟩,?_,List.pairwise_singleton _ _,?_,?_⟩
  · intro other member
    rw [List.mem_singleton.mp member]
    exact .inl rfl
  · intro other member
    rw [List.mem_singleton.mp member]
    exact Nat.lt_succ_self _
  · rw [stream_cons,stream_nil,List.append_nil]
    exact (sendAll_front sends _).1

theorem ordered_health (monotonicNs : UInt64) (sends : List Sent) (ordered : Ordered environment service.sequence.toNat line)
    (whole : line.bytes = stream serializePacket line.packets) :
    let packet : Packet := ⟨.healthUpdate,0,service.sequence,monotonicNs,health⟩
    Ordered environment (service.sequence.toNat + 1)
      ⟨line.packets ++ [packet],line.bytes ++ (sendAll sends (serializePacket packet)).1⟩ := by
  intro packet
  refine ⟨?_,?_,?_,?_,?_⟩
  · obtain ⟨sequence,monotonicNs,first⟩ := ordered.greets
    exact ⟨sequence,monotonicNs,by rw [List.head?_append,first]; rfl⟩
  · intro other member
    rcases List.mem_append.mp member with early | last
    · exact ordered.payloads other early
    · rw [List.mem_singleton.mp last]
      exact .inr rfl
  · refine List.pairwise_append.mpr ⟨ordered.rising,List.pairwise_singleton _ _,fun earlier early other last => ?_⟩
    rw [List.mem_singleton.mp last]
    exact ordered.below earlier early
  · intro other member
    rcases List.mem_append.mp member with early | last
    · exact (ordered.below other early).trans (Nat.lt_succ_self _)
    · rw [List.mem_singleton.mp last]
      exact Nat.lt_succ_self _
  · rw [whole,stream_append,stream_cons,stream_nil,List.append_nil]
    exact (List.prefix_append_right_inj _).mpr (sendAll_front sends _).1

theorem sound_step (sound : Sound environment service) (room : service.sequence.toNat + 1 < 2 ^ 64) (input : Input) :
    Sound environment (step environment service input) ∧
      (step environment service input).sequence.toNat ≤ service.sequence.toNat + 1 := by
  cases input with
  | connectFailed =>
    simp only [step]
    split
    · exact ⟨⟨sound.ordered,sound.whole,sound.rising⟩,Nat.le_succ _⟩
    · exact ⟨sound,Nat.le_succ _⟩
  | stop => exact ⟨⟨sound.ordered,sound.whole,sound.rising⟩,Nat.le_succ _⟩
  | connected monotonicNs sends =>
    simp only [step]
    split
    · rename_i free
      have none : service.connection = none := Option.isNone_iff_eq_none.mp free.2
      have lines : service.lines = service.closed := by simp [Service.lines,none]
      obtain ⟨front,whole⟩ := sendAll_front sends (serializePacket ⟨.hello,0,service.sequence,monotonicNs,environment.hello⟩)
      have number : Packet.sequence ⟨.hello,0,service.sequence,monotonicNs,environment.hello⟩ = service.sequence := rfl
      have opened {next : Service} (sequence : next.sequence = service.sequence + 1)
          (all : next.lines = service.closed ++ [⟨[⟨.hello,0,service.sequence,monotonicNs,environment.hello⟩],
            (sendAll sends (serializePacket ⟨.hello,0,service.sequence,monotonicNs,environment.hello⟩)).1⟩])
          (whole : ∀ line ∈ next.connection, line.bytes = stream serializePacket line.packets) : Sound environment next := by
        refine sound_sent sound room sequence number (fun line member => lines ▸ member) all ?_ (ordered_hello monotonicNs sends) whole
        rw [List.flatMap_append,List.flatMap_singleton,lines]
      split
      · rename_i sent
        refine ⟨opened rfl rfl ?_,(sequence_next room).le⟩
        rintro _ ⟨⟩
        rw [stream_cons,stream_nil,List.append_nil]
        exact whole sent
      · exact ⟨opened rfl (by simp [Service.lines,none]) (by simp [none]),(sequence_next room).le⟩
      · exact ⟨opened rfl (by simp [Service.lines,none]) (by simp [none]),(sequence_next room).le⟩
    · exact ⟨sound,Nat.le_succ _⟩
  | health monotonicNs sends =>
    simp only [step]
    split
    · exact ⟨sound,Nat.le_succ _⟩
    · rename_i line used
      have lines : service.lines = service.closed ++ [line] := by simp [Service.lines,used]
      have written := sound.whole line used
      have last : line ∈ service.lines := by simp [lines]
      obtain ⟨front,whole⟩ := sendAll_front sends (serializePacket ⟨.healthUpdate,0,service.sequence,monotonicNs,health⟩)
      have number : Packet.sequence ⟨.healthUpdate,0,service.sequence,monotonicNs,health⟩ = service.sequence := rfl
      have longer {next : Service} (sequence : next.sequence = service.sequence + 1)
          (all : next.lines = service.closed ++ [⟨line.packets ++ [⟨.healthUpdate,0,service.sequence,monotonicNs,health⟩],
            line.bytes ++ (sendAll sends (serializePacket ⟨.healthUpdate,0,service.sequence,monotonicNs,health⟩)).1⟩])
          (whole : ∀ line ∈ next.connection, line.bytes = stream serializePacket line.packets) : Sound environment next := by
        refine sound_sent sound room sequence number (fun line member => lines ▸ List.mem_append_left _ member) all ?_
          (ordered_health monotonicNs sends (sound.ordered line last) written) whole
        rw [lines,List.flatMap_append,List.flatMap_append,List.flatMap_singleton,List.flatMap_singleton,List.append_assoc]
      split
      · split
        · rename_i sent
          refine ⟨longer rfl rfl ?_,(sequence_next room).le⟩
          rintro _ ⟨⟩
          rw [written,stream_append,stream_cons,stream_nil,List.append_nil,whole sent]
        · exact ⟨longer rfl (by simp [Service.lines]) nofun,(sequence_next room).le⟩
        · exact ⟨longer rfl (by simp [Service.lines]) nofun,(sequence_next room).le⟩
      · have same : Service.lines { service with connection := none, closed := service.closed ++ [line] } = service.lines := by
          simp [Service.lines,used]
        exact ⟨⟨same ▸ sound.ordered,nofun,same ▸ sound.rising⟩,Nat.le_succ _⟩

theorem sound_run (environment : Environment) (inputs : List Input) (short : inputs.length + 1 < 2 ^ 64) :
    Sound environment (run (step environment) (started environment) inputs) ∧
      (run (step environment) (started environment) inputs).sequence.toNat ≤ inputs.length + 1 := by
  induction inputs using List.reverseRecOn with
  | nil => exact ⟨sound_started,le_rfl⟩
  | append_singleton inputs input ih =>
    rw [List.length_append,List.length_singleton] at short ⊢
    obtain ⟨sound,count⟩ := ih (by omega)
    rw [run_snoc]
    obtain ⟨next,more⟩ := sound_step sound (by omega) input
    exact ⟨next,by omega⟩

end Ignis.StreamService
