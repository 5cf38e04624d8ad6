import Ignis.DeviceReception
import Ignis.DeviceRejections

-- Good packets and then bytes that are none. `feed` returns nothing of a read that it rejects,
-- so the good packets of that read are lost.
namespace Ignis.DeviceReception
open Framing Protocol Backend DeviceServer

def refusal (maxPayloadBytes : ℕ) (bad : List UInt8) : ℕ :=
  match readHeader maxPayloadBytes (bad.take headerSize) with
  | .error _ => headerSize
  | .ok header => headerSize + header.length

variable {settings : DeviceSettings} {decoders : Decoders} {hello : Hello} {session : Session} {maxPayloadBytes : ℕ}
variable {packets more goods : List Packet} {packet greeting : Packet} {text : String}
variable {chunk bytes rest bad front : List UInt8} {chunks earlier later : List (List UInt8)}

theorem scan_short (short : bytes.length < headerSize) : scan maxPayloadBytes bytes = .wait := if_pos short

theorem scan_refusal (rejected : scan maxPayloadBytes bad = .fail text) :
    (refusal maxPayloadBytes bad ≤ bad.length ∧ 0 < refusal maxPayloadBytes bad) ∧
    ∀ count, scan maxPayloadBytes (bad.take count) =
      if count < refusal maxPayloadBytes bad then .wait else .fail text := by
  have few : ∀ count, count < headerSize → scan maxPayloadBytes (bad.take count) = .wait := fun count short =>
    scan_short ((List.length_take_le count bad).trans_lt short)
  rcases scan_cases maxPayloadBytes bad with ⟨_,waits⟩ | ⟨other,long,read,fails⟩ | ⟨header,behind,fits,small,whole,read,_,goes⟩
  · rw [waits] at rejected
    cases rejected
  · rw [fails] at rejected
    cases rejected
    have point : refusal maxPayloadBytes bad = headerSize := by rw [refusal,read]
    rw [point]
    refine ⟨⟨long,by decide⟩,fun count => ?_⟩
    by_cases short : count < headerSize
    · rw [if_pos short,few count short]
    · have enough : ¬ (bad.take count).length < headerSize := by
        rw [List.length_take]
        omega
      have same : (bad.take count).take headerSize = bad.take headerSize := by
        rw [List.take_take,Nat.min_eq_left (by omega)]
      rw [if_neg short,scan,if_neg enough,same,read]
  · have point : refusal maxPayloadBytes bad = headerSize + header.length := by rw [refusal,read]
    rw [goes] at rejected
    rcases scanPayload_cases header behind with ⟨_,waits⟩ | ⟨enough,wrong,fails⟩ | ⟨_,_,takes⟩
    · rw [waits] at rejected
      cases rejected
    · rw [fails] at rejected
      cases rejected
      have size : bad.length = headerSize + behind.length := by rw [whole,List.length_append,length_pack]
      rw [point,size]
      refine ⟨⟨Nat.add_le_add_left enough _,by rw [headerSize]; omega⟩,fun count => ?_⟩
      by_cases short : count < headerSize
      · rw [if_pos (by omega),few count short]
      · have split : bad.take count = header.pack ++ behind.take (count - headerSize) := by
          rw [whole,List.take_append,length_pack,List.take_of_length_le (by rw [length_pack]; omega)]
        rw [split,scan_pack fits small]
        by_cases missing : count < headerSize + header.length
        · have fewer : (behind.take (count - headerSize)).length < header.length := by
            rw [List.length_take]
            omega
          rw [if_pos missing,scanPayload,if_pos fewer]
        · have all : ¬ (behind.take (count - headerSize)).length < header.length := by
            rw [List.length_take]
            omega
          have payload : (behind.take (count - headerSize)).take header.length = behind.take header.length := by
            rw [List.take_take,Nat.min_eq_left (by omega)]
          rw [if_neg missing,scanPayload,if_neg all,payload,if_pos wrong]
    · rw [takes] at rejected
      cases rejected

theorem scans_before (sendable : ∀ packet ∈ packets, packet.Sendable maxPayloadBytes)
    (rejected : scan maxPayloadBytes bad = .fail text) (carried : bytes <+: stream Packet.bytes packets ++ bad)
    (short : bytes.length < (stream Packet.bytes packets).length + refusal maxPayloadBytes bad) :
    ∃ done left rest, packets = done ++ left ∧ Scans (scan maxPayloadBytes) bytes done (.waits rest) ∧
      (left = [] ↔ (stream Packet.bytes packets).length ≤ bytes.length) := by
  by_cases inside : bytes.length < (stream Packet.bytes packets).length
  · obtain ⟨done,left,rest,rfl,scans,parts,_⟩ := scans_prefix (online maxPayloadBytes) (fun _ => scan_bytes) sendable
      (List.prefix_of_prefix_length_le carried (List.prefix_append ..) (Nat.le_of_lt inside))
    refine ⟨done,left,rest,rfl,scans,iff_of_false ?_ (not_le.mpr inside)⟩
    rintro rfl
    rw [parts,List.append_nil,List.length_append] at inside
    exact absurd inside (not_lt.mpr (Nat.le_add_right _ _))
  · obtain ⟨behind,rfl⟩ : stream Packet.bytes packets <+: bytes :=
      List.prefix_of_prefix_length_le (List.prefix_append ..) carried (not_lt.mp inside)
    have part : behind = bad.take behind.length :=
      List.prefix_iff_eq_take.mp ((List.prefix_append_right_inj _).mp carried)
    rw [List.length_append] at short
    have waits : scan maxPayloadBytes behind = .wait := by
      rw [part,(scan_refusal rejected).2,if_pos (by omega)]
    have scans := scans_stream (online maxPayloadBytes) (fun _ => scan_bytes) sendable (.waits waits)
    rw [List.append_nil] at scans
    exact ⟨packets,[],behind,(List.append_nil _).symm,scans,iff_of_true rfl (not_lt.mp inside)⟩

theorem scans_after (sendable : ∀ packet ∈ packets, packet.Sendable maxPayloadBytes)
    (rejected : scan maxPayloadBytes bad = .fail text) (carried : bytes <+: stream Packet.bytes packets ++ bad)
    (long : (stream Packet.bytes packets).length + refusal maxPayloadBytes bad ≤ bytes.length) :
    Scans (scan maxPayloadBytes) bytes packets (.fails text) := by
  obtain ⟨behind,rfl⟩ : stream Packet.bytes packets <+: bytes :=
    List.prefix_of_prefix_length_le (List.prefix_append ..) carried (by omega)
  have part : behind = bad.take behind.length :=
    List.prefix_iff_eq_take.mp ((List.prefix_append_right_inj _).mp carried)
  rw [List.length_append] at long
  have fails : scan maxPayloadBytes behind = .fail text := by
    rw [part,(scan_refusal rejected).2,if_neg (by omega)]
  have scans := scans_stream (online maxPayloadBytes) (fun _ => scan_bytes) sendable (.fails fails)
  rwa [List.append_nil] at scans

theorem boundary (threshold : ℕ) (positive : 0 < threshold) (long : threshold ≤ chunks.flatten.length) :
    ∃ earlier chunk later, chunks = earlier ++ chunk :: later ∧ earlier.flatten.length < threshold ∧
      threshold ≤ (earlier ++ [chunk]).flatten.length := by
  induction chunks using List.reverseRecOn with
  | nil => exact absurd long (not_le.mpr positive)
  | append_singleton chunks chunk ih =>
    by_cases already : threshold ≤ chunks.flatten.length
    · obtain ⟨earlier,last,later,rfl,before,after⟩ := ih already
      exact ⟨earlier,last,later ++ [chunk],by simp,before,after⟩
    · exact ⟨chunks,chunk,[],rfl,not_le.mp already,long⟩

theorem read_refused (decoders : Decoders) (served : Served settings hello session packets rest) (nonempty : chunk ≠ [])
    (bounded : session.parser.buffer.length + chunk.length ≤ settings.maxPayloadBytes + headerSize)
    (scans : Scans (scan settings.maxPayloadBytes) (rest ++ chunk) more (.fails text)) :
    session.read settings decoders chunk = session.refuse (.protocolError text) := by
  rw [← served.holds] at scans
  have refused := (feed_scans served.sane bounded).fails _ _ scans
  simp [Session.read,served.met.running,nonempty,refused]

theorem stopped_reads (stopped : session.running = false) : later.foldl (Session.read settings decoders) session = session := by
  induction later with
  | nil => rfl
  | cons chunk later ih =>
    have goes : session.read settings decoders chunk = session := by simp [Session.read,stopped]
    rw [List.foldl_cons,goes,ih]

theorem serve_refused (reads : Reads settings decoders chunks) (split : chunks = earlier ++ chunk :: later)
    (welcome : Welcome settings decoders hello packets)
    (before : Scans (scan settings.maxPayloadBytes) earlier.flatten packets (.waits rest))
    (fails : Scans (scan settings.maxPayloadBytes) (earlier ++ [chunk]).flatten more (.fails text)) :
    dispatched (serve settings decoders chunks).reports = packets.tail := by
  subst split
  have served := serve_served (reads_front reads) before welcome
  have bounded := reads.bounded earlier chunk later rfl served.met.running
  rw [List.flatten_append,List.flatten_singleton] at fails
  obtain ⟨last,split,behind⟩ := before.behind (online settings.maxPayloadBytes) fails
  have refused := read_refused decoders served (reads.nonempty chunk (by simp)) bounded behind
  have ends : serve settings decoders (earlier ++ chunk :: later) =
      (serve settings decoders earlier).refuse (.protocolError text) := by
    rw [serve,List.foldl_append,List.foldl_cons,← serve,refused,stopped_reads rfl]
  rw [ends,← dispatched_expected hello,← served.met.reports]
  simp [Session.refuse,dispatched]

-- Where there are good packets, a read ends behind them and before the rejected bytes are found out.
theorem good_handed_iff (settings : DeviceSettings) (decoders : Decoders) (hello : Hello) (greeting : Packet)
    (goods : List Packet) (bad : List UInt8) (text : String) (chunks : List (List UInt8))
    (welcome : Welcome settings decoders hello (greeting :: goods))
    (sendable : ∀ packet ∈ greeting :: goods, packet.Sendable settings.maxPayloadBytes)
    (rejected : scan settings.maxPayloadBytes bad = .fail text)
    (cut : chunks.flatten = stream Packet.bytes (greeting :: goods) ++ bad) (reads : Reads settings decoders chunks) :
    dispatched (serve settings decoders chunks).reports = goods ↔
      goods = [] ∨ ∃ earlier later, chunks = earlier ++ later ∧
        (stream Packet.bytes (greeting :: goods)).length ≤ earlier.flatten.length ∧
        earlier.flatten.length < (stream Packet.bytes (greeting :: goods)).length + refusal settings.maxPayloadBytes bad := by
  have point := (scan_refusal rejected).1
  obtain ⟨earlier,chunk,later,split,before,after⟩ :=
    boundary ((stream Packet.bytes (greeting :: goods)).length + refusal settings.maxPayloadBytes bad) (by omega)
      (by rw [cut,List.length_append]; omega)
  have carried : ∀ front back, chunks = front ++ back → front.flatten <+: stream Packet.bytes (greeting :: goods) ++ bad := by
    intro front back parts
    rw [← cut,parts,List.flatten_append]
    exact List.prefix_append ..
  have fails := scans_after sendable rejected (carried (earlier ++ [chunk]) later (by simp [split])) after
  obtain ⟨done,left,rest,parts,scans,all⟩ := scans_before sendable rejected (carried earlier _ split) before
  have handed : dispatched (serve settings decoders chunks).reports = done.tail :=
    serve_refused reads split (welcome_front (parts ▸ welcome)) scans fails
  rw [handed]
  have whole : left = [] ↔ ∃ earlier later, chunks = earlier ++ later ∧
      (stream Packet.bytes (greeting :: goods)).length ≤ earlier.flatten.length ∧
      earlier.flatten.length < (stream Packet.bytes (greeting :: goods)).length + refusal settings.maxPayloadBytes bad := by
    rw [all]
    constructor
    · exact fun there => ⟨earlier,chunk :: later,split,there,before⟩
    · rintro ⟨front,back,other,there,short⟩
      have comparable : front <+: earlier ∨ earlier ++ [chunk] <+: front := by
        have one : front <+: chunks := ⟨back,other.symm⟩
        by_cases size : front.length ≤ earlier.length
        · exact .inl (List.prefix_of_prefix_length_le one ⟨_,split.symm⟩ size)
        · refine .inr (List.prefix_of_prefix_length_le ⟨later,by simp [split]⟩ one ?_)
          rw [List.length_append,List.length_singleton]
          omega
      rcases comparable with ⟨more,rfl⟩ | ⟨more,rfl⟩
      · rw [List.flatten_append,List.length_append]
        omega
      · rw [List.flatten_append,List.length_append] at short
        omega
  rw [← whole]
  cases done with
  | nil =>
    obtain rfl : greeting :: goods = left := parts
    simp [eq_comm]
  | cons first done =>
    obtain ⟨rfl,rfl⟩ := List.cons.inj parts
    rw [List.tail_cons]
    constructor
    · intro same
      exact .inr (by simpa using same)
    · rintro (none | rfl)
      · rw [none,(List.append_eq_nil_iff.mp none).1]
      · exact (List.append_nil _).symm

-- A connection of the sample Pi: its HELLO, a HEALTH_UPDATE, and 32 bytes that are no header.
def sampleHello : Packet := ⟨.hello,0,1,10000000000,DeviceLink.jsonDumps (EdgeLoop.greeting DeviceLink.sampleArguments)⟩
def sampleHealth : Packet := ⟨.healthUpdate,0,2,20000000000,[123,125]⟩
def zeros : List UInt8 := List.replicate 32 0

theorem zeros_rejected : scan 2097152 zeros = .fail "invalid packet magic" := by
  have read : readHeader 2097152 (zeros.take headerSize) = .error "invalid packet magic" := if_pos (by decide)
  rw [scan,if_neg (by decide),read]

theorem sample_welcome :
    Welcome DeviceLink.sampleSetup.device DeviceLink.sampleDecoders ⟨"ignis-qnxpi-01","0a1b2c3d"⟩ [sampleHello,sampleHealth] where
  greets first member := by
    obtain rfl : sampleHello = first := Option.some.inj member
    have greets := DeviceLink.greet_greeting DeviceLink.sample_configured (show DeviceLink.Greeting _ sampleHello from ⟨rfl,rfl⟩)
    rw [if_pos DeviceLink.sample_plain] at greets
    exact greets
  rising := by simp [sampleHello,sampleHealth]

theorem sample_good : ∀ packet ∈ [sampleHello,sampleHealth], packet.Sendable 2097152 := by
  have size : sampleHello.payload.length ≤ 2097152 := DeviceLink.sample_configured.size
  have hello : sampleHello.Sendable 2097152 := ⟨header_fits (by decide) (by omega) (by decide) (by decide),size⟩
  have health : sampleHealth.Sendable 2097152 := by
    refine ⟨header_fits ?_ ?_ ?_ ?_,?_⟩ <;> decide
  simp [hello,health]

theorem sample_separate :
    Reads DeviceLink.sampleSetup.device DeviceLink.sampleDecoders ([sampleHello,sampleHealth].map Packet.bytes ++ [zeros]) :=
  reads_packets sample_welcome sample_good (by decide) (by decide)

theorem sample_first :
    Welcome DeviceLink.sampleSetup.device DeviceLink.sampleDecoders ⟨"ignis-qnxpi-01","0a1b2c3d"⟩ [sampleHello] ∧
    ∀ packet ∈ [sampleHello], packet.Sendable 2097152 := by
  have both : [sampleHello,sampleHealth] = [sampleHello] ++ [sampleHealth] := rfl
  refine ⟨welcome_front (both ▸ sample_welcome),fun packet member => sample_good packet ?_⟩
  rw [both]
  exact List.mem_append_left _ member

theorem sample_together :
    Reads DeviceLink.sampleSetup.device DeviceLink.sampleDecoders [sampleHello.bytes,sampleHealth.bytes ++ zeros] := by
  show Reads _ _ ([sampleHello].map Packet.bytes ++ [sampleHealth.bytes ++ zeros])
  refine reads_packets sample_first.1 sample_first.2 ?_ ?_
  · decide
  · rw [List.length_append,length_bytes]
    decide

-- Three reads: the HEALTH_UPDATE is handed on before the rejected bytes come.
theorem separate_handed :
    dispatched (serve DeviceLink.sampleSetup.device DeviceLink.sampleDecoders
      ([sampleHello,sampleHealth].map Packet.bytes ++ [zeros])).reports = [sampleHealth] := by
  have cut : ([sampleHello,sampleHealth].map Packet.bytes ++ [zeros]).flatten =
      stream Packet.bytes [sampleHello,sampleHealth] ++ zeros := by
    rw [List.flatten_append,flatten_packets,List.flatten_singleton]
  refine (good_handed_iff _ _ _ sampleHello [sampleHealth] zeros _ _ sample_welcome sample_good zeros_rejected cut
    sample_separate).mpr (.inr ⟨[sampleHello,sampleHealth].map Packet.bytes,[zeros],rfl,?_,?_⟩)
  · rw [flatten_packets]
  · rw [flatten_packets]
    exact Nat.lt_add_of_pos_right (scan_refusal zeros_rejected).1.2

-- Two reads of the same bytes: the HEALTH_UPDATE comes with the rejected bytes and is handed on to nobody.
theorem coalesced_lost :
    Welcome DeviceLink.sampleSetup.device DeviceLink.sampleDecoders ⟨"ignis-qnxpi-01","0a1b2c3d"⟩ [sampleHello,sampleHealth] ∧
    (∀ packet ∈ [sampleHello,sampleHealth], packet.Sendable 2097152) ∧
    scan 2097152 zeros = .fail "invalid packet magic" ∧
    [sampleHello.bytes,sampleHealth.bytes ++ zeros].flatten = stream Packet.bytes [sampleHello,sampleHealth] ++ zeros ∧
    Reads DeviceLink.sampleSetup.device DeviceLink.sampleDecoders [sampleHello.bytes,sampleHealth.bytes ++ zeros] ∧
    dispatched (serve DeviceLink.sampleSetup.device DeviceLink.sampleDecoders
      [sampleHello.bytes,sampleHealth.bytes ++ zeros]).reports ≠ [sampleHealth] := by
  have cut : [sampleHello.bytes,sampleHealth.bytes ++ zeros].flatten = stream Packet.bytes [sampleHello,sampleHealth] ++ zeros := by
    simp
  refine ⟨sample_welcome,sample_good,zeros_rejected,cut,sample_together,?_⟩
  have point := (scan_refusal zeros_rejected).1
  have fails : Scans (scan 2097152) [sampleHello.bytes,sampleHealth.bytes ++ zeros].flatten [sampleHello,sampleHealth]
      (.fails "invalid packet magic") := by
    refine scans_after sample_good zeros_rejected (cut ▸ List.prefix_rfl) ?_
    rw [cut,List.length_append]
    omega
  have before : Scans (scan 2097152) [sampleHello.bytes].flatten [sampleHello] (.waits []) := by
    have all := scans_stream (online 2097152) (fun _ => scan_bytes) sample_first.2 (.waits (online _).empty)
    simpa using all
  have split : [sampleHello.bytes,sampleHealth.bytes ++ zeros] = [sampleHello.bytes] ++ (sampleHealth.bytes ++ zeros) :: [] := rfl
  rw [serve_refused sample_together split sample_first.1 before fails]
  exact (List.cons_ne_nil sampleHealth []).symm

end Ignis.DeviceReception
