import Ignis.DeviceServer
import Ignis.Reassembly

-- One connection of the device server as long as `_dispatch` returns.
namespace Ignis.DeviceReception
open Framing Protocol Backend DeviceServer

-- What the handler does about its packets: `_authenticate` accepts one, `_dispatch` gets one,
-- OUT_OF_ORDER_SEQUENCE is broadcast, or an exception ends the connection.
inductive Report where
  | authenticated (hello : Hello) (packet : Packet)
  | dispatched (hello : Hello) (packet : Packet)
  | outOfOrder (sequence : ℕ) (lastSequence : ℤ)
  | refused (error : DeviceError)

def dispatched (reports : List Report) : List Packet :=
  reports.filterMap fun report => match report with
    | .dispatched _ packet => some packet
    | _ => none

structure Session where
  parser : PacketParser
  hello : Option Hello
  lastSequence : ℤ
  running : Bool
  reports : List Report

def accepted (settings : DeviceSettings) : Session := ⟨.created settings.maxPayloadBytes,none,-1,true,[]⟩

def Session.refuse (session : Session) (error : DeviceError) : Session :=
  { session with running := false, reports := session.reports ++ [.refused error] }

section Handling
variable (settings : DeviceSettings) (decoders : Decoders)

def Session.handle (session : Session) (packet : Packet) : Session :=
  if !session.running then session
  else if packet.sequence ≤ session.lastSequence then
    { session with reports := session.reports ++ [.outOfOrder packet.sequence session.lastSequence] }
  else
    let next := { session with lastSequence := packet.sequence }
    match session.hello with
    | none =>
      match greet settings decoders packet with
      | .error error => next.refuse error
      | .ok hello => { next with hello := some hello, reports := next.reports ++ [.authenticated hello packet] }
    | some hello => { next with reports := next.reports ++ [.dispatched hello packet] }

-- A read without bytes is the end of the stream.
def Session.read (session : Session) (chunk : List UInt8) : Session :=
  if !session.running then session
  else if chunk = [] then { session with running := false }
  else match session.parser.feed chunk with
  | .error text => session.refuse (.protocolError text)
  | .ok (packets,parser) => packets.foldl (Session.handle settings decoders) { session with parser := parser }

def serve (chunks : List (List UInt8)) : Session := chunks.foldl (Session.read settings decoders) (accepted settings)

structure Reads (chunks : List (List UInt8)) : Prop where
  nonempty : ∀ chunk ∈ chunks, chunk ≠ []
  bounded : ∀ earlier chunk later, chunks = earlier ++ chunk :: later → (serve settings decoders earlier).running = true →
    (serve settings decoders earlier).parser.buffer.length + chunk.length ≤ settings.maxPayloadBytes + headerSize

structure Welcome (hello : Hello) (packets : List Packet) : Prop where
  greets : ∀ first ∈ packets.head?, greet settings decoders first = .ok hello
  rising : packets.Pairwise fun earlier later => earlier.sequence < later.sequence

end Handling

def expected (hello : Hello) : List Packet → List Report
  | [] => []
  | greeting :: packets => .authenticated hello greeting :: packets.map (.dispatched hello)

variable {settings : DeviceSettings} {decoders : Decoders} {hello : Hello} {session : Session}
variable {packets more : List Packet} {packet : Packet} {chunk bytes rest : List UInt8} {chunks earlier later : List (List UInt8)}

structure Met (hello : Hello) (session : Session) (packets : List Packet) : Prop where
  running : session.running = true
  greeted : session.hello = if packets = [] then none else some hello
  below : ∀ packet : Packet, (∀ earlier ∈ packets, earlier.sequence < packet.sequence) → session.lastSequence < packet.sequence
  reports : session.reports = expected hello packets

theorem dispatched_expected (hello : Hello) (packets : List Packet) : dispatched (expected hello packets) = packets.tail := by
  cases packets with
  | nil => rfl
  | cons first rest => simp [dispatched,expected,List.filterMap_map]

theorem accepted_met : Met hello (accepted settings) [] where
  running := rfl
  greeted := rfl
  below packet _ := show (-1 : ℤ) < packet.sequence by omega
  reports := rfl

theorem handle_met (met : Met hello session packets) (welcome : Welcome settings decoders hello (packets ++ [packet])) :
    Met hello (session.handle settings decoders packet) (packets ++ [packet]) := by
  have lower : ∀ earlier ∈ packets, earlier.sequence < packet.sequence := fun earlier member =>
    (List.pairwise_append.mp welcome.rising).2.2 earlier member packet (List.mem_singleton.mpr rfl)
  have rises : ¬ (packet.sequence : ℤ) ≤ session.lastSequence := not_le.mpr (met.below packet lower)
  have last : ∀ other : Packet, (∀ earlier ∈ packets ++ [packet], earlier.sequence < other.sequence) →
      (packet.sequence : ℤ) < other.sequence := by
    intro other above
    exact_mod_cast above packet (by simp)
  have goes := met.greeted
  cases packets with
  | nil =>
    have greets : greet settings decoders packet = .ok hello := welcome.greets packet rfl
    rw [if_pos rfl] at goes
    simp only [Session.handle,met.running,goes,greets,if_neg rises,Bool.not_true,Bool.false_eq_true,if_false]
    exact ⟨rfl,rfl,last,by rw [met.reports]; rfl⟩
  | cons first rest =>
    rw [if_neg (List.cons_ne_nil first rest)] at goes
    simp only [Session.handle,met.running,goes,if_neg rises,Bool.not_true,Bool.false_eq_true,if_false]
    refine ⟨rfl,by simp,last,?_⟩
    rw [met.reports]
    simp [expected]

-- The handler of the whole backend goes on in the same way whenever its `_dispatch` returns.
theorem handle_handler {handler next : Handler} {app after : App} {now : Database.Time} {queue : List Packet}
    (running : handler.running = true) (handled : handler.handle settings decoders app now packet queue = .ok (next,after))
    (reports : List Report) : ∃ more,
      Session.handle settings decoders ⟨handler.parser,handler.hello,handler.lastSequence,true,reports⟩ packet =
        ⟨next.parser,next.hello,next.lastSequence,next.running,reports ++ [more]⟩ := by
  unfold Handler.handle at handled
  by_cases late : packet.sequence ≤ handler.lastSequence
  · simp only [late,if_true] at handled
    cases handled
    exact ⟨.outOfOrder packet.sequence handler.lastSequence,by simp [Session.handle,late,running]⟩
  · simp only [late,if_false] at handled
    cases greeted : handler.hello with
    | none =>
      simp only [greeted] at handled
      cases verdict : greet settings decoders packet with
      | error error =>
        rw [verdict] at handled
        cases handled
      | ok hello =>
        rw [verdict] at handled
        cases handled
        exact ⟨.authenticated hello packet,by simp [Session.handle,late,verdict,running]⟩
    | some hello =>
      simp only [greeted] at handled
      split at handled
      · cases handled
      · cases handled
        exact ⟨.dispatched hello packet,by simp [Session.handle,late,running]⟩

theorem handle_keeps (session : Session) (packet : Packet) : (session.handle settings decoders packet).parser = session.parser := by
  unfold Session.handle
  split
  · rfl
  · split
    · rfl
    · split
      · split <;> rfl
      · rfl

theorem welcome_front (welcome : Welcome settings decoders hello (packets ++ more)) : Welcome settings decoders hello packets := by
  refine ⟨?_,(List.pairwise_append.mp welcome.rising).1⟩
  intro first member
  refine welcome.greets first ?_
  cases packets with
  | nil => cases member
  | cons => exact member

theorem handle_all (met : Met hello session packets) (welcome : Welcome settings decoders hello (packets ++ more)) :
    Met hello (more.foldl (Session.handle settings decoders) session) (packets ++ more) ∧
      (more.foldl (Session.handle settings decoders) session).parser = session.parser := by
  induction more generalizing session packets with
  | nil => exact ⟨by simpa using met,rfl⟩
  | cons packet more ih =>
    have split : packets ++ packet :: more = packets ++ [packet] ++ more := by simp
    rw [split] at welcome ⊢
    obtain ⟨still,parser⟩ := ih (handle_met met (welcome_front welcome)) welcome
    exact ⟨still,parser.trans (handle_keeps session packet)⟩

structure Served (settings : DeviceSettings) (hello : Hello) (session : Session) (packets : List Packet) (rest : List UInt8) : Prop where
  met : Met hello session packets
  sane : session.parser.Sane settings.maxPayloadBytes
  holds : session.parser.held = rest

theorem read_served (served : Served settings hello session packets rest) (nonempty : chunk ≠ [])
    (bounded : session.parser.buffer.length + chunk.length ≤ settings.maxPayloadBytes + headerSize)
    (scans : Scans (scan settings.maxPayloadBytes) (rest ++ chunk) more (.waits bytes))
    (welcome : Welcome settings decoders hello (packets ++ more)) :
    Served settings hello (session.read settings decoders chunk) (packets ++ more) bytes := by
  rw [← served.holds] at scans
  obtain ⟨after,fed,holds,sane,_⟩ := (feed_scans served.sane bounded).waits _ _ scans
  have fresh : Met hello { session with parser := after } packets :=
    ⟨served.met.running,served.met.greeted,served.met.below,served.met.reports⟩
  obtain ⟨met,parser⟩ := handle_all fresh welcome
  have goes : session.read settings decoders chunk =
      more.foldl (Session.handle settings decoders) { session with parser := after } := by
    simp [Session.read,served.met.running,nonempty,fed]
  rw [goes]
  exact ⟨met,parser ▸ sane,parser ▸ holds⟩

theorem reads_front (reads : Reads settings decoders (earlier ++ later)) : Reads settings decoders earlier := by
  refine ⟨fun chunk member => reads.nonempty chunk (List.mem_append_left _ member),?_⟩
  rintro before chunk behind rfl
  exact reads.bounded before chunk (behind ++ later) (by simp)

theorem serve_snoc : serve settings decoders (chunks ++ [chunk]) = (serve settings decoders chunks).read settings decoders chunk := by
  simp [serve]

theorem serve_served (reads : Reads settings decoders chunks)
    (scans : Scans (scan settings.maxPayloadBytes) chunks.flatten packets (.waits rest))
    (welcome : Welcome settings decoders hello packets) :
    Served settings hello (serve settings decoders chunks) packets rest := by
  induction chunks using List.reverseRecOn generalizing packets rest with
  | nil =>
    obtain ⟨rfl,same⟩ := scans.unique (.waits (online settings.maxPayloadBytes).empty)
    cases same
    exact ⟨accepted_met,created_sane settings.maxPayloadBytes,rfl⟩
  | append_singleton chunks chunk ih =>
    rw [List.flatten_append,List.flatten_singleton] at scans
    obtain ⟨front,held,more,rfl,before,behind⟩ := scans.divided (online settings.maxPayloadBytes)
    have served := ih (reads_front reads) before (welcome_front welcome)
    rw [serve_snoc]
    exact read_served served (reads.nonempty chunk (by simp)) (reads.bounded chunks chunk [] rfl served.met.running) behind welcome

structure Strange (session : Session) : Prop where
  hello : session.hello = none
  authenticated : ∀ hello packet, .authenticated hello packet ∉ session.reports
  handed : dispatched session.reports = []

theorem handle_strange (never : ∀ packet hello, greet settings decoders packet ≠ .ok hello) (strange : Strange session)
    (packet : Packet) : Strange (session.handle settings decoders packet) := by
  have reported : ∀ report : Report, (∀ hello packet, .authenticated hello packet ≠ report) →
      dispatched [report] = [] →
      (∀ hello packet, .authenticated hello packet ∉ session.reports ++ [report]) ∧
        dispatched (session.reports ++ [report]) = [] := by
    intro report other none
    refine ⟨fun hello packet member => ?_,?_⟩
    · rcases List.mem_append.mp member with early | last
      · exact strange.authenticated hello packet early
      · exact other hello packet (List.mem_singleton.mp last)
    · rw [dispatched,List.filterMap_append]
      exact List.append_eq_nil_iff.mpr ⟨strange.handed,none⟩
  simp only [Session.handle,strange.hello]
  split
  · exact strange
  · split
    · obtain ⟨authenticated,handed⟩ := reported (.outOfOrder packet.sequence session.lastSequence) (fun _ _ same => nomatch same) rfl
      exact ⟨rfl,authenticated,handed⟩
    · split
      · rename_i error _
        obtain ⟨authenticated,handed⟩ := reported (.refused error) (fun _ _ same => nomatch same) rfl
        exact ⟨rfl,authenticated,handed⟩
      · rename_i hello greeted
        exact absurd greeted (never packet hello)

theorem serve_strange (never : ∀ packet hello, greet settings decoders packet ≠ .ok hello) (chunks : List (List UInt8)) :
    Strange (serve settings decoders chunks) := by
  have handles : ∀ (packets : List Packet) (session : Session), Strange session →
      Strange (packets.foldl (Session.handle settings decoders) session) := by
    intro packets
    induction packets with
    | nil => exact fun _ strange => strange
    | cons packet rest ih => exact fun _ strange => ih _ (handle_strange never strange packet)
  induction chunks using List.reverseRecOn with
  | nil => exact ⟨rfl,fun _ _ member => (nomatch member),rfl⟩
  | append_singleton chunks chunk ih =>
    rw [serve_snoc]
    unfold Session.read
    split
    · exact ih
    · split
      · exact ⟨ih.hello,ih.authenticated,ih.handed⟩
      · split
        · refine ⟨ih.hello,fun hello packet member => ?_,?_⟩
          · rcases List.mem_append.mp member with early | last
            · exact ih.authenticated hello packet early
            · cases List.mem_singleton.mp last
          · rw [Session.refuse,dispatched,List.filterMap_append]
            exact List.append_eq_nil_iff.mpr ⟨ih.handed,rfl⟩
        · exact handles _ _ ⟨ih.hello,ih.authenticated,ih.handed⟩

theorem reads_nil : Reads settings decoders [] where
  nonempty _ member := nomatch member
  bounded earlier chunk later split := by simp at split

theorem reads_more (reads : Reads settings decoders chunks) (nonempty : chunk ≠ [])
    (small : (serve settings decoders chunks).running = true →
      (serve settings decoders chunks).parser.buffer.length + chunk.length ≤ settings.maxPayloadBytes + headerSize) :
    Reads settings decoders (chunks ++ [chunk]) where
  nonempty other member := by
    rcases List.mem_append.mp member with early | last
    · exact reads.nonempty other early
    · rwa [List.mem_singleton.mp last]
  bounded earlier other later split running := by
    rcases List.eq_nil_or_concat later with rfl | ⟨later,last,rfl⟩
    · obtain ⟨rfl,same⟩ := List.append_inj' split rfl
      obtain rfl : chunk = other := List.singleton_injective same
      exact small running
    · rw [List.concat_eq_append,← List.cons_append,← List.append_assoc] at split
      exact reads.bounded earlier other later (List.append_inj' split rfl).1 running

theorem reads_snoc (reads : Reads settings decoders chunks)
    (served : Served settings hello (serve settings decoders chunks) packets rest) (nonempty : chunk ≠ [])
    (small : rest.length + chunk.length ≤ settings.maxPayloadBytes + headerSize) :
    Reads settings decoders (chunks ++ [chunk]) := by
  have full : (serve settings decoders chunks).parser.buffer.length ≤ rest.length := served.holds ▸ buffer_le_held
  exact reads_more reads nonempty fun _ => by omega

theorem reads_single (nonempty : chunk ≠ []) (small : chunk.length ≤ settings.maxPayloadBytes + headerSize) :
    Reads settings decoders [chunk] := by
  have start : Served settings ⟨"",""⟩ (serve settings decoders []) [] [] :=
    ⟨accepted_met,created_sane settings.maxPayloadBytes,rfl⟩
  exact reads_snoc reads_nil start nonempty (by simpa using small)

theorem flatten_packets : (packets.map Packet.bytes).flatten = stream Packet.bytes packets := List.flatMap_def.symm

theorem reads_packets (welcome : Welcome settings decoders hello packets)
    (sendable : ∀ packet ∈ packets, packet.Sendable settings.maxPayloadBytes) (nonempty : chunk ≠ [])
    (small : chunk.length ≤ settings.maxPayloadBytes + headerSize) :
    Reads settings decoders (packets.map Packet.bytes ++ [chunk]) := by
  have scans : ∀ some : List Packet, (∀ packet ∈ some, packet.Sendable settings.maxPayloadBytes) →
      Scans (scan settings.maxPayloadBytes) (some.map Packet.bytes).flatten some (.waits []) := by
    intro some sendable
    have all := scans_stream (online settings.maxPayloadBytes) (fun _ => scan_bytes) sendable (.waits (online _).empty)
    rwa [List.append_nil,List.append_nil,← flatten_packets] at all
  have fits : ([] : List UInt8).length + chunk.length ≤ settings.maxPayloadBytes + headerSize := by simpa using small
  have front : Reads settings decoders (packets.map Packet.bytes) := by
    clear nonempty small fits
    induction packets using List.reverseRecOn with
    | nil => exact reads_nil
    | append_singleton packets packet ih =>
      have earlier : ∀ packet ∈ packets, packet.Sendable settings.maxPayloadBytes := fun packet member =>
        sendable packet (List.mem_append_left _ member)
      have reads := ih (welcome_front welcome) earlier
      have size : packet.payload.length ≤ settings.maxPayloadBytes := (sendable packet (by simp)).2
      rw [List.map_append,List.map_singleton]
      refine reads_snoc reads (serve_served reads (scans packets earlier) (welcome_front welcome)) ?_ ?_
      · exact List.ne_nil_of_length_pos (by rw [length_bytes,headerSize]; omega)
      · rw [length_bytes,List.length_nil]
        omega
  exact reads_snoc front (serve_served front (scans packets sendable) welcome) nonempty fits

end Ignis.DeviceReception
