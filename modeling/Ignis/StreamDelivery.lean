import Ignis.StreamService
import Mathlib

-- The stream service and the backend together: which service is let in, and what of its packets is
-- handed on.
namespace Ignis.StreamService
open Runs Framing FramePayload JsonValues JsonText HelloText
open DeviceServer (DeviceSettings Decoders greet compareDigest ascii)
open DeviceReception (Session Report Reads Welcome Met Served serve dispatched expected)

section Reading
variable {R : Type} (real : Str → R) (shown : Json R → DeviceServer.Json)

-- A lone surrogate is shown as a character that is not of ASCII either.
def character (code : ℕ) : Char := if code.isValidChar then Char.ofNat code else '\uFFFD'
def asText (text : Str) : String := .ofList (text.map character)

-- A decoded value as the handling of a HELLO sees it; `shown` gives it the floats and the containers.
def field : Json R → DeviceServer.Json
  | .null => .null
  | .boolean value => .boolean value
  | .integer value =>
    if -2 ^ 63 ≤ value ∧ value < 2 ^ 63 then .number (value : ℚ) (toString value) (toString value) else .container (toString value)
  | .text value => if value.all fun code => code.isValidChar then .string (asText value) else .container (asText value)
  | other => shown other

def json (payload : List UInt8) : Except String (List (String × DeviceServer.Json)) :=
  match (decodeUtf8 payload).bind fun text => loads real (codes text) with
  | some (.object fields) => .ok (fields.map fun (key,value) => (asText key,field shown value))
  | some _ => .error "JSON payload must be an object"
  | none => .error "invalid JSON payload"

end Reading

-- The service's name and token, without their control characters, are those that the backend
-- expects, and `compare_digest` takes the token.
def Admitted (environment : Environment) (settings : DeviceSettings) : Prop :=
  printableText environment.deviceId = settings.expectedDeviceId ∧ printableText environment.token = settings.deviceToken ∧
    ascii settings.deviceToken = true

variable {R : Type} {real : Str → R} {shown : Json R → DeviceServer.Json}
variable {environment : Environment} {settings : DeviceSettings} {decoders : Decoders}

theorem valid_code (c : Char) : c.toNat.isValidChar := c.valid

theorem character_code (c : Char) : character c.toNat = c := by
  unfold character
  rw [if_pos (valid_code c)]
  exact Char.ofNat_toNat c

theorem asText_codes (text : String) : asText (codes text) = text := by
  rw [asText,codes,List.map_map]
  have same : character ∘ Char.toNat = id := funext character_code
  rw [same,List.map_id,String.ofList_toList]

theorem field_codes (text : String) : field shown (.text (codes text)) = .string text := by
  have valid : (codes text).all (fun code => code.isValidChar) = true := by
    rw [List.all_eq_true]
    intro code member
    obtain ⟨c,_,rfl⟩ := List.mem_map.mp member
    exact decide_eq_true (valid_code c)
  simp only [field,valid,if_true,asText_codes]

theorem printable_boot (environment : Environment) : printableText environment.bootId = environment.bootId := by
  have digits : (environment.bootId.toList.filter fun c => 0x20 ≤ c.toNat) = environment.bootId.toList := by
    refine List.filter_eq_self.mpr fun c member => ?_
    have digit : c.isDigit = true := by
      refine Nat.isDigit_of_mem_toDigits (b := 10) (n := environment.startedNs.toNat) (by decide) (by decide) ?_
      simpa [Environment.bootId] using member
    simp only [Char.isDigit,Bool.and_eq_true,decide_eq_true_eq,ge_iff_le,UInt32.le_iff_toNat_le] at digit
    exact decide_eq_true (le_trans (by decide) digit.1)
  rw [printableText,digits,String.ofList_toList]

theorem json_hello (environment : Environment) : json real shown environment.hello = .ok
    [("device_id",.string (printableText environment.deviceId)),("boot_id",.string environment.bootId),
      ("protocol_version",.number 1 "1" "1"),("software_version",.string "0.1.0"),
      ("device_token",.string (printableText environment.token)),
      ("capabilities",shown (.array (capabilities.map .text)))] := by
  obtain ⟨device,boot,secret,one,two,three,parsed⟩ := hello_parses real (utf8 environment.deviceId) (utf8 environment.bootId)
    (utf8 environment.token) _ _ _ decodeUtf8_utf8 decodeUtf8_utf8 decodeUtf8_utf8
  rw [printable_utf8,decodeUtf8_utf8,Option.some.injEq] at one two three
  rw [printable_boot] at two
  subst one two three
  have read : (decodeUtf8 environment.hello).bind (fun text => loads real (codes text)) = some (.object
      (helloFields (codes (printableText environment.deviceId)) (codes environment.bootId) (codes (printableText environment.token)))) := by
    unfold packetJson at parsed
    cases decoded : decodeUtf8 environment.hello with
    | none =>
      rw [show HelloText.hello _ _ _ = environment.hello from rfl,decoded] at parsed
      cases parsed
    | some text =>
      rw [show HelloText.hello _ _ _ = environment.hello from rfl,decoded,Option.bind_some] at parsed
      rw [Option.bind_some]
      split at parsed
      · rename_i fields loaded
        rw [loaded,Option.some.inj parsed]
      · cases parsed
  have one : field shown (.integer 1) = .number 1 "1" "1" := rfl
  simp only [json,read,helloFields,List.map_cons,List.map_nil,asText_codes,field_codes,one]
  rfl

def greeting (environment : Environment) (sequence monotonicNs : UInt64) : Protocol.Packet :=
  QnxProtocol.Packet.backend ⟨.hello,0,sequence,monotonicNs,environment.hello⟩

theorem authenticate_hello (shown : DeviceServer.Json) : DeviceServer.authenticate settings
    [("device_id",.string (printableText environment.deviceId)),("boot_id",.string environment.bootId),
      ("protocol_version",.number 1 "1" "1"),("software_version",.string "0.1.0"),
      ("device_token",.string (printableText environment.token)),("capabilities",shown)] =
    if printableText environment.deviceId ≠ settings.expectedDeviceId then .error (.protocolError "unknown device")
    else match compareDigest (printableText environment.token) settings.deviceToken with
      | none => .error .typeError
      | some false => .error (.protocolError "authentication failed")
      | some true => .ok ⟨settings.expectedDeviceId,environment.bootId⟩ := by
  have one : (DeviceServer.Json.number 1 "1" "1").isOne = true := rfl
  by_cases device : printableText environment.deviceId = settings.expectedDeviceId
  · cases compared : compareDigest (printableText environment.token) settings.deviceToken with
    | none => simp [DeviceServer.authenticate,List.lookup,one,DeviceServer.Json.str,device,compared]
    | some same =>
      cases same <;> simp [DeviceServer.authenticate,List.lookup,one,DeviceServer.Json.str,DeviceServer.Json.column,device,compared]
  · simp [DeviceServer.authenticate,List.lookup,one,device]

theorem greet_hello (decodes : decoders.json = json real shown) (sequence monotonicNs : UInt64) :
    greet settings decoders (greeting environment sequence monotonicNs) =
    if printableText environment.deviceId ≠ settings.expectedDeviceId then .error (.protocolError "unknown device")
    else match compareDigest (printableText environment.token) settings.deviceToken with
      | none => .error .typeError
      | some false => .error (.protocolError "authentication failed")
      | some true => .ok ⟨settings.expectedDeviceId,environment.bootId⟩ := by
  have payload : decoders.json (greeting environment sequence monotonicNs).payload = json real shown environment.hello :=
    congrFun decodes environment.hello
  have type : (greeting environment sequence monotonicNs).packetType = .hello := rfl
  simp only [greet,type,ne_eq,not_true_eq_false,if_false,payload,json_hello]
  exact authenticate_hello _

theorem greet_admitted (decodes : decoders.json = json real shown) (admitted : Admitted environment settings)
    (sequence monotonicNs : UInt64) :
    greet settings decoders (greeting environment sequence monotonicNs) = .ok ⟨settings.expectedDeviceId,environment.bootId⟩ := by
  obtain ⟨device,token,plain⟩ := admitted
  rw [greet_hello decodes,if_neg (not_not.mpr device),token,compareDigest]
  simp [plain]

theorem greet_refused (decodes : decoders.json = json real shown) (foreign : ¬ Admitted environment settings) :
    ∃ error, ∀ sequence monotonicNs, greet settings decoders (greeting environment sequence monotonicNs) = .error error := by
  simp only [greet_hello decodes]
  by_cases device : printableText environment.deviceId = settings.expectedDeviceId
  · simp only [ne_eq,device,not_true_eq_false,if_false]
    cases compared : compareDigest (printableText environment.token) settings.deviceToken with
    | none => exact ⟨_,fun _ _ => rfl⟩
    | some same =>
      cases same with
      | false => exact ⟨_,fun _ _ => rfl⟩
      | true =>
        unfold compareDigest at compared
        split at compared
        · rename_i plain
          simp only [Bool.and_eq_true] at plain
          simp only [Option.some.injEq,decide_eq_true_eq] at compared
          exact absurd ⟨device,compared,plain.2⟩ foreign
        · cases compared
  · simp only [ne_eq,device,not_false_eq_true,if_true]
    exact ⟨_,fun _ _ => rfl⟩

section Refusal
open Protocol
variable {hello : Backend.Hello} {error : Backend.DeviceError} {session : Session} {packets : List Packet} {packet : Packet}
variable {chunks : List (List UInt8)} {rest : List UInt8}

theorem handle_stopped (stopped : session.running = false) (packets : List Packet) :
    packets.foldl (Session.handle settings decoders) session = session := by
  induction packets with
  | nil => rfl
  | cons packet packets ih =>
    have same : session.handle settings decoders packet = session := by simp [Session.handle,stopped]
    rw [List.foldl_cons,same,ih]

theorem handle_refused (met : Met hello session []) (refuses : greet settings decoders packet = .error error) (others : List Packet) :
    ((packet :: others).foldl (Session.handle settings decoders) session).running = false ∧
      ((packet :: others).foldl (Session.handle settings decoders) session).reports = [.refused error] := by
  have rises : ¬ (packet.sequence : ℤ) ≤ session.lastSequence := not_le.mpr (met.below packet nofun)
  have unknown : session.hello = none := met.greeted
  have refused : session.handle settings decoders packet =
      Session.refuse { session with lastSequence := packet.sequence } error := by
    simp only [Session.handle,met.running,unknown,refuses,if_neg rises,Bool.not_true,Bool.false_eq_true,if_false]
  rw [List.foldl_cons,refused,handle_stopped rfl]
  refine ⟨rfl,?_⟩
  rw [Session.refuse,met.reports]
  rfl

theorem serve_refused (reads : Reads settings decoders chunks)
    (scans : Scans (scan settings.maxPayloadBytes) chunks.flatten packets (.waits rest)) (some : packets ≠ [])
    (refuses : ∀ first ∈ packets.head?, greet settings decoders first = .error error) :
    (serve settings decoders chunks).running = false ∧ (serve settings decoders chunks).reports = [.refused error] := by
  induction chunks using List.reverseRecOn generalizing packets rest with
  | nil =>
    obtain ⟨rfl,_⟩ := scans.unique (.waits (online settings.maxPayloadBytes).empty)
    exact absurd rfl some
  | append_singleton chunks chunk ih =>
    rw [List.flatten_append,List.flatten_singleton] at scans
    obtain ⟨front,held,more,rfl,before,behind⟩ := scans.divided (online settings.maxPayloadBytes)
    rw [DeviceReception.serve_snoc]
    cases front with
    | cons first front =>
      obtain ⟨stopped,reports⟩ := ih (DeviceReception.reads_front reads) before (List.cons_ne_nil first front) refuses
      have same : (serve settings decoders chunks).read settings decoders chunk = serve settings decoders chunks := by
        simp [Session.read,stopped]
      rw [same]
      exact ⟨stopped,reports⟩
    | nil =>
      have served : Served settings ⟨"",""⟩ (serve settings decoders chunks) [] held :=
        DeviceReception.serve_served (DeviceReception.reads_front reads) before
          ⟨(fun _ member => by cases member),List.Pairwise.nil⟩
      rw [← served.holds] at behind
      have bounded := reads.bounded chunks chunk [] rfl served.met.running
      obtain ⟨after,fed,_,_,_⟩ := (feed_scans served.sane bounded).waits _ _ behind
      have nonempty : chunk ≠ [] := reads.nonempty chunk (by simp)
      have goes : (serve settings decoders chunks).read settings decoders chunk =
          more.foldl (Session.handle settings decoders) { serve settings decoders chunks with parser := after } := by
        simp [Session.read,served.met.running,nonempty,fed]
      rw [goes]
      cases more with
      | nil => exact absurd rfl some
      | cons first others =>
        have met : Met ⟨"",""⟩ { serve settings decoders chunks with parser := after } [] :=
          ⟨served.met.running,served.met.greeted,served.met.below,served.met.reports⟩
        exact handle_refused met (refuses first rfl) others

end Refusal

structure Link where
  line : Line
  reads : List (List UInt8)

def Link.packets (link : Link) : List Protocol.Packet := link.line.packets.map QnxProtocol.Packet.backend

def Link.whole (link : Link) : List Protocol.Packet := Delivery.contained link.packets link.reads.flatten.length

-- Wherever the reads end: `reader.read(65_536)` answers with some of what was sent.
structure Link.Arrives (link : Link) : Prop where
  front : link.reads.flatten <+: link.line.bytes
  reads : ∀ chunk ∈ link.reads, chunk ≠ [] ∧ chunk.length ≤ 65536

variable {link : Link} {next : ℕ} {hello : Backend.Hello} {error : Backend.DeviceError} {bytes : List UInt8}

theorem stream_backend {packets : List QnxProtocol.Packet} (small : ∀ packet ∈ packets, packet.payload.length < 2 ^ 32) :
    stream QnxProtocol.serializePacket packets = stream Protocol.Packet.bytes (packets.map QnxProtocol.Packet.backend) := by
  induction packets with
  | nil => rfl
  | cons packet packets ih =>
    rw [List.map_cons,stream_cons,stream_cons,QnxProtocol.serializePacket_bytes packet (small packet (by simp)),
      ih fun other member => small other (List.mem_cons_of_mem _ member)]

theorem health_short (environment : Environment) : health.length ≤ environment.hello.length := by
  have size : health.length = 136 := by decide +kernel
  have first : (utf8 "\",\"protocol_version\":1,\"software_version\":\"0.1.0\",\"device_token\":\"").length = 66 := by
    decide +kernel
  have last : (utf8 "\",\"capabilities\":[\"camera\",\"fire_smoke_inference\",\"incident_engine\",\"evidence_buffer\"]\x7d").length = 87 := by
    decide +kernel
  rw [size,Environment.hello,HelloText.hello]
  simp only [List.length_append,first,last]
  omega

theorem bytes_scans (ordered : Ordered environment next link.line) (front : bytes <+: link.line.bytes)
    (room : environment.hello.length + 65536 ≤ settings.maxPayloadBytes) (bounded : settings.maxPayloadBytes < 2 ^ 32) :
    ∃ rest, Framing.Scans (Protocol.scan settings.maxPayloadBytes) bytes (Delivery.contained link.packets bytes.length) (.waits rest) ∧
      Delivery.contained link.packets bytes.length <+: link.packets ∧ rest.length ≤ environment.hello.length + Protocol.headerSize := by
  have size : ∀ packet ∈ link.line.packets, packet.payload.length ≤ environment.hello.length := by
    intro packet member
    rcases ordered.payloads packet member with same | same <;> rw [same]
    exact health_short environment
  have small : ∀ packet ∈ link.line.packets, packet.payload.length < 2 ^ 32 := fun packet member =>
    (size packet member).trans_lt (by omega)
  have sendable : ∀ packet ∈ link.packets, packet.Sendable settings.maxPayloadBytes := by
    intro packet member
    obtain ⟨packet,among,rfl⟩ := List.mem_map.mp member
    exact ⟨QnxProtocol.backend_fits packet (small packet among),(size packet among).trans (by omega)⟩
  have front := front.trans ordered.front
  rw [stream_backend small] at front
  obtain ⟨done,left,rest,split,scans,parts,incomplete⟩ :=
    scans_prefix (Protocol.online settings.maxPayloadBytes) (fun _ => Protocol.scan_bytes) sendable front
  have whole : Delivery.contained link.packets bytes.length = done := by
    rw [parts,show link.packets = done ++ left from split]
    exact Delivery.contained_front incomplete
  rw [whole]
  refine ⟨rest,scans,⟨left,split.symm⟩,?_⟩
  cases left with
  | nil =>
    rw [show rest = [] from incomplete]
    exact Nat.zero_le _
  | cons packet left =>
    have missing : rest.length < packet.bytes.length := incomplete
    obtain ⟨original,among,rfl⟩ := List.mem_map.mp (show packet ∈ link.packets from split ▸ by simp)
    have long := size original among
    rw [Protocol.length_bytes] at missing
    have payload : original.backend.payload = original.payload := rfl
    rw [payload] at missing
    omega

section Verdicts
variable {taken : List Protocol.Packet}

def Accepts (environment : Environment) (settings : DeviceSettings) (decoders : Decoders) (hello : Backend.Hello) : Prop :=
  ∀ sequence monotonicNs, greet settings decoders (greeting environment sequence monotonicNs) = .ok hello

def Refuses (environment : Environment) (settings : DeviceSettings) (decoders : Decoders) (error : Backend.DeviceError) : Prop :=
  ∀ sequence monotonicNs, greet settings decoders (greeting environment sequence monotonicNs) = .error error

theorem front_greets (ordered : Ordered environment next link.line) (front : taken <+: link.packets) :
    ∀ first ∈ taken.head?, ∃ sequence monotonicNs, first = greeting environment sequence monotonicNs := by
  intro first member
  obtain ⟨sequence,monotonicNs,head⟩ := ordered.greets
  refine ⟨sequence,monotonicNs,?_⟩
  obtain ⟨others,whole⟩ := List.head?_eq_some_iff.mp member
  obtain ⟨later,split⟩ := front
  have first_packet : link.packets.head? = some (greeting environment sequence monotonicNs) := by
    rw [Link.packets,List.head?_map,head]
    rfl
  rw [← split,whole] at first_packet
  exact Option.some.inj first_packet

theorem front_welcome (accepts : Accepts environment settings decoders hello)
    (ordered : Ordered environment next link.line) (front : taken <+: link.packets) : Welcome settings decoders hello taken := by
  refine ⟨fun first member => ?_,?_⟩
  · obtain ⟨sequence,monotonicNs,rfl⟩ := front_greets ordered front first member
    exact accepts sequence monotonicNs
  · have rising : link.packets.Pairwise fun earlier later => earlier.sequence < later.sequence := List.pairwise_map.mpr ordered.rising
    exact rising.sublist front.sublist

theorem front_refused (refuses : Refuses environment settings decoders error)
    (ordered : Ordered environment next link.line) (front : taken <+: link.packets) :
    ∀ first ∈ taken.head?, greet settings decoders first = .error error := by
  intro first member
  obtain ⟨sequence,monotonicNs,rfl⟩ := front_greets ordered front first member
  exact refuses sequence monotonicNs

-- Between two reads the parser holds less than one packet of the service, and so it has room for
-- the next read, unless the connection has ended.
theorem link_reads (verdict : Accepts environment settings decoders hello ∨ Refuses environment settings decoders error)
    (ordered : Ordered environment next link.line) (room : environment.hello.length + 65536 ≤ settings.maxPayloadBytes)
    (bounded : settings.maxPayloadBytes < 2 ^ 32) {chunks : List (List UInt8)} (front : chunks.flatten <+: link.line.bytes)
    (reads : ∀ chunk ∈ chunks, chunk ≠ [] ∧ chunk.length ≤ 65536) : Reads settings decoders chunks := by
  induction chunks using List.reverseRecOn with
  | nil => exact DeviceReception.reads_nil
  | append_singleton chunks chunk ih =>
    rw [List.flatten_append] at front
    have before := (List.prefix_append chunks.flatten _).trans front
    have earlier := ih before fun chunk member => reads chunk (List.mem_append_left _ member)
    obtain ⟨nonempty,short⟩ := reads chunk (by simp)
    obtain ⟨rest,scans,whole,little⟩ := bytes_scans ordered before room bounded
    refine DeviceReception.reads_more earlier nonempty fun running => ?_
    have fits {hello : Backend.Hello} {packets : List Protocol.Packet}
        (served : Served settings hello (serve settings decoders chunks) packets rest) :
        (serve settings decoders chunks).parser.buffer.length + chunk.length ≤ settings.maxPayloadBytes + Protocol.headerSize := by
      have full : (serve settings decoders chunks).parser.buffer.length ≤ rest.length := served.holds ▸ Protocol.buffer_le_held
      omega
    rcases verdict with accepts | refuses
    · exact fits (DeviceReception.serve_served earlier scans (front_welcome accepts ordered whole))
    · by_cases none : Delivery.contained link.packets chunks.flatten.length = []
      · rw [none] at scans
        have welcome : Welcome settings decoders ⟨"",""⟩ [] := ⟨nofun,List.Pairwise.nil⟩
        exact fits (DeviceReception.serve_served earlier scans welcome)
      · have stopped := (serve_refused earlier scans none (front_refused refuses ordered whole)).1
        cases running.symm.trans stopped

theorem link_admitted (accepts : Accepts environment settings decoders hello)
    (ordered : Ordered environment next link.line) (arrives : link.Arrives)
    (room : environment.hello.length + 65536 ≤ settings.maxPayloadBytes) (bounded : settings.maxPayloadBytes < 2 ^ 32) :
    (serve settings decoders link.reads).reports = expected hello link.whole := by
  obtain ⟨rest,scans,front,_⟩ := bytes_scans ordered arrives.front room bounded
  have verdict : Accepts environment settings decoders hello ∨ Refuses environment settings decoders .typeError := .inl accepts
  have reads := link_reads verdict ordered room bounded arrives.front arrives.reads
  exact (DeviceReception.serve_served reads scans (front_welcome accepts ordered front)).met.reports

theorem link_refused (refuses : Refuses environment settings decoders error)
    (ordered : Ordered environment next link.line) (arrives : link.Arrives)
    (room : environment.hello.length + 65536 ≤ settings.maxPayloadBytes) (bounded : settings.maxPayloadBytes < 2 ^ 32) :
    (serve settings decoders link.reads).reports = if link.whole = [] then [] else [.refused error] := by
  obtain ⟨rest,scans,front,_⟩ := bytes_scans ordered arrives.front room bounded
  have verdict : Accepts environment settings decoders ⟨"",""⟩ ∨ Refuses environment settings decoders error := .inr refuses
  have reads := link_reads verdict ordered room bounded arrives.front arrives.reads
  split
  · rename_i none
    rw [show Delivery.contained link.packets link.reads.flatten.length = [] from none] at scans
    have served : Served settings ⟨"",""⟩ (serve settings decoders link.reads) [] rest :=
      DeviceReception.serve_served reads scans ⟨nofun,List.Pairwise.nil⟩
    exact served.met.reports
  · rename_i some
    exact (serve_refused reads scans some (front_refused refuses ordered front)).2

end Verdicts

theorem silent_run (silent : environment.token = "") (inputs : List Input) :
    (run (step environment) (started environment) inputs).lines = [] := by
  have still : (run (step environment) (started environment) inputs).running = false ∧
      (run (step environment) (started environment) inputs).lines = [] := by
    refine invariant (fun service : Service => service.running = false ∧ service.lines = []) ?_ ⟨by simp [started,silent],rfl⟩
    rintro service input ⟨stopped,unused⟩
    have free : service.connection = none := by
      cases used : service.connection with
      | none => rfl
      | some line => simp [Service.lines,used] at unused
    cases input with
    | stop => exact ⟨rfl,unused⟩
    | _ => simp [step,stopped,free,unused]
  exact still.2

-- However often the service connects anew, and wherever its sends and the backend's reads break off.
theorem service_delivers (real : Str → R) (shown : Json R → DeviceServer.Json) (environment : Environment)
    (settings : DeviceSettings) (device : Protocol.PacketType → ℕ → List UInt8 → Backend.DevicePacket) (inputs : List Input) (links : List Link)
    (room : environment.hello.length + 65536 ≤ settings.maxPayloadBytes) (bounded : settings.maxPayloadBytes < 2 ^ 32)
    (short : inputs.length + 1 < 2 ^ 64)
    (lines : links.map Link.line = (run (step environment) (started environment) inputs).lines)
    (arrives : ∀ link ∈ links, link.Arrives) :
    let reports (link : Link) := (serve settings ⟨json real shown,device⟩ link.reads).reports
    (environment.token = "" → links = []) ∧
    (Admitted environment settings → ∀ link ∈ links,
      reports link = expected ⟨settings.expectedDeviceId,environment.bootId⟩ link.whole) ∧
    (¬ Admitted environment settings → ∃ error, ∀ link ∈ links,
      reports link = if link.whole = [] then [] else [.refused error]) ∧
    (links.flatMap fun link => dispatched (reports link)).Pairwise fun earlier later => earlier.sequence < later.sequence := by
  intro reports
  obtain ⟨sound,_⟩ := sound_run environment inputs short
  have ordered : ∀ link ∈ links, Ordered environment (run (step environment) (started environment) inputs).sequence.toNat link.line :=
    fun link member => sound.ordered link.line (lines ▸ List.mem_map_of_mem member)
  have admits (admitted : Admitted environment settings) : ∀ link ∈ links,
      reports link = expected ⟨settings.expectedDeviceId,environment.bootId⟩ link.whole := fun link member =>
    link_admitted (greet_admitted rfl admitted) (ordered link member) (arrives link member) room bounded
  have refuses (foreign : ¬ Admitted environment settings) : ∃ error, ∀ link ∈ links,
      reports link = if link.whole = [] then [] else [.refused error] := by
    have decodes : Decoders.json ⟨json real shown,device⟩ = json real shown := rfl
    obtain ⟨error,refused⟩ := greet_refused decodes foreign
    exact ⟨error,fun link member => link_refused refused (ordered link member) (arrives link member) room bounded⟩
  refine ⟨fun silent => ?_,admits,refuses,?_⟩
  · rw [silent_run silent inputs] at lines
    exact List.map_eq_nil_iff.mp lines
  have handed : ∀ link ∈ links, (dispatched (reports link)).Sublist link.packets := by
    intro link member
    obtain ⟨_,_,front,_⟩ := bytes_scans (ordered link member) (arrives link member).front room bounded
    by_cases admitted : Admitted environment settings
    · rw [admits admitted link member,DeviceReception.dispatched_expected]
      exact (List.tail_sublist _).trans front.sublist
    · obtain ⟨error,refused⟩ := refuses admitted
      rw [refused link member]
      split <;> exact List.nil_sublist _
  have rising : (links.flatMap Link.packets).Pairwise fun earlier later => earlier.sequence < later.sequence := by
    have all : links.flatMap Link.packets =
        ((run (step environment) (started environment) inputs).lines.flatMap Line.packets).map QnxProtocol.Packet.backend := by
      rw [← lines,List.flatMap_map,List.map_flatMap]
      rfl
    rw [all]
    exact List.pairwise_map.mpr sound.rising
  exact rising.sublist (List.Sublist.flatMap_right links handed)

-- Two connections: the second report breaks off on the first of them, and the other begins anew.
def home : Environment := ⟨some "ignis-qnxpi-01",some "replace-me",7⟩
def homeSettings : DeviceSettings := ⟨"ignis-qnxpi-01","replace-me",2097152⟩
def homePacket (sequence monotonicNs : UInt64) : QnxProtocol.Packet := ⟨.healthUpdate,0,sequence,monotonicNs,health⟩
def homeHello (sequence monotonicNs : UInt64) : QnxProtocol.Packet := ⟨.hello,0,sequence,monotonicNs,home.hello⟩
def homeInputs : List Input :=
  [.connectFailed,.connected 10 [.interrupted,.took 20],.health 20 [],.health 30 [.took 7,.failed],.connected 40 [],.health 50 []]

def homeLinks : List Link :=
  [⟨⟨[homeHello 1 10,homePacket 2 20,homePacket 3 30],QnxProtocol.serializePacket (homeHello 1 10) ++
      QnxProtocol.serializePacket (homePacket 2 20) ++ (QnxProtocol.serializePacket (homePacket 3 30)).take 7⟩,
    [(QnxProtocol.serializePacket (homeHello 1 10)).take 100,
      (QnxProtocol.serializePacket (homeHello 1 10)).drop 100 ++ QnxProtocol.serializePacket (homePacket 2 20)]⟩,
   ⟨⟨[homeHello 4 40,homePacket 5 50],QnxProtocol.serializePacket (homeHello 4 40) ++ QnxProtocol.serializePacket (homePacket 5 50)⟩,
    [QnxProtocol.serializePacket (homeHello 4 40)]⟩]

theorem home_delivered :
    homeLinks.map (fun link =>
      (serve homeSettings ⟨json id fun _ => .container "[...]",fun _ _ _ => .healthUpdate⟩ link.reads).reports) =
    homeLinks.map fun link => expected ⟨"ignis-qnxpi-01",home.bootId⟩ link.whole := by
  apply List.map_congr_left
  refine (service_delivers id (fun _ => .container "[...]") home homeSettings (fun _ _ _ => .healthUpdate) homeInputs homeLinks
    (by decide +kernel) (by decide) (by decide) (by rfl) ?_).2.1 ?_
  · intro link member
    rcases List.mem_pair.mp member with rfl | rfl
    · exact ⟨by decide +kernel,by decide +kernel⟩
    · exact ⟨by decide +kernel,by decide +kernel⟩
  · exact ⟨by decide +kernel,by decide +kernel,by decide +kernel⟩

end Ignis.StreamService
