import Ignis.Protocol

-- The parser's bound is checked before anything is parsed, so where the reads end decides whether it is met.
namespace Ignis.Protocol
open Framing

def PacketParser.feedAll (parser : PacketParser) : List (List UInt8) → Except String (List Packet × PacketParser)
  | [] => .ok ([],parser)
  | chunk :: rest =>
    match parser.feed chunk with
    | .error text => .error text
    | .ok (packets,next) =>
      match next.feedAll rest with
      | .error text => .error text
      | .ok (later,last) => .ok (packets ++ later,last)

-- The buffered bytes once this many bytes of the packets have arrived: the packet at work
-- without its header, or what is there of the header.
def waiting : List Packet → ℕ → ℕ
  | [],_ => 0
  | packet :: rest,arrived =>
    if packet.bytes.length ≤ arrived then waiting rest (arrived - packet.bytes.length)
    else if headerSize ≤ arrived then arrived - headerSize
    else arrived

def ReadsFit (maxPayloadBytes : ℕ) (packets : List Packet) (chunks : List (List UInt8)) (arrived : ℕ) : Prop :=
  ∀ earlier chunk later, chunks = earlier ++ chunk :: later →
    waiting packets (arrived + earlier.flatten.length) + chunk.length ≤ maxPayloadBytes + headerSize

variable {maxPayloadBytes : ℕ} {parser : PacketParser} {packets done left : List Packet}

theorem created_settled : (PacketParser.created maxPayloadBytes).Settled := fun _ => show 0 < headerSize by decide

theorem created_incomplete (packets : List Packet) :
    Incomplete Packet.bytes (PacketParser.created maxPayloadBytes).held packets := by
  cases packets with
  | nil => rfl
  | cons packet rest =>
    show 0 < packet.bytes.length
    rw [length_bytes,headerSize]
    omega

theorem waiting_done (arrived : ℕ) :
    waiting (done ++ left) ((stream Packet.bytes done).length + arrived) = waiting left arrived := by
  induction done with
  | nil => simp
  | cons packet done ih =>
    have enough : packet.bytes.length ≤ (stream Packet.bytes (packet :: done)).length + arrived := by
      rw [stream_cons,List.length_append]
      omega
    have rest : (stream Packet.bytes (packet :: done)).length + arrived - packet.bytes.length =
        (stream Packet.bytes done).length + arrived := by
      rw [stream_cons,List.length_append]
      omega
    rw [List.cons_append,waiting,if_pos enough,rest,ih]

theorem buffer_waiting (settled : parser.Settled) (incomplete : Incomplete Packet.bytes parser.held packets) :
    parser.buffer.length = waiting packets parser.held.length := by
  have size : parser.buffer.length =
      if headerSize ≤ parser.held.length then parser.held.length - headerSize else parser.held.length := by
    unfold PacketParser.held
    cases same : parser.expected with
    | none => simp only [if_neg (not_le.mpr (settled same))]
    | some header =>
      have long : headerSize ≤ (header.pack ++ parser.buffer).length := by
        rw [List.length_append,length_pack]
        omega
      rw [if_pos long,List.length_append,length_pack,Nat.add_sub_cancel_left]
  cases packets with
  | nil =>
    have empty : parser.held = [] := incomplete
    rw [size,empty]
    rfl
  | cons packet rest =>
    have short : parser.held.length < packet.bytes.length := incomplete
    rw [size,waiting,if_neg (not_le.mpr short)]

theorem reads_fit_cons {chunk : List UInt8} {rest : List (List UInt8)} {arrived : ℕ} :
    ReadsFit maxPayloadBytes packets (chunk :: rest) arrived ↔
      waiting packets arrived + chunk.length ≤ maxPayloadBytes + headerSize ∧
        ReadsFit maxPayloadBytes packets rest (arrived + chunk.length) := by
  constructor
  · intro fit
    refine ⟨by simpa using fit [] chunk rest rfl,fun earlier other later split => ?_⟩
    have bound := fit (chunk :: earlier) other later (by rw [split]; rfl)
    rwa [List.flatten_cons,List.length_append,← Nat.add_assoc] at bound
  · rintro ⟨first,fit⟩ earlier other later split
    cases earlier with
    | nil =>
      obtain ⟨rfl,rfl⟩ := List.cons.inj split
      simpa using first
    | cons head earlier =>
      obtain ⟨rfl,behind⟩ := List.cons.inj split
      rw [List.flatten_cons,List.length_append,← Nat.add_assoc]
      exact fit earlier other later behind

theorem reassembles_iff {chunks : List (List UInt8)} (sane : parser.Sane maxPayloadBytes) (settled : parser.Settled)
    (sendable : ∀ packet ∈ packets, packet.Sendable maxPayloadBytes)
    (incomplete : Incomplete Packet.bytes parser.held packets)
    (cut : parser.held ++ chunks.flatten = stream Packet.bytes packets) :
    (∃ last, parser.feedAll chunks = .ok (packets,last)) ↔ ReadsFit maxPayloadBytes packets chunks parser.held.length := by
  induction chunks generalizing parser packets with
  | nil =>
    rw [List.flatten_nil,List.append_nil] at cut
    refine iff_of_true ?_ fun earlier chunk later split => by simp at split
    cases packets with
    | nil => exact ⟨parser,rfl⟩
    | cons packet rest =>
      have short : parser.held.length < packet.bytes.length := incomplete
      rw [cut,stream_cons,List.length_append] at short
      omega
  | cons chunk rest ih =>
    have full := buffer_waiting settled incomplete
    rw [reads_fit_cons,← full]
    by_cases bounded : parser.buffer.length + chunk.length ≤ maxPayloadBytes + headerSize
    · rw [List.flatten_cons,← List.append_assoc] at cut
      obtain ⟨done,left,next,rfl,fed,saneNext,parts,still,settledNext⟩ :=
        feed_stream sane sendable ⟨_,cut⟩ bounded
      have behind : next.held ++ rest.flatten = stream Packet.bytes left := by
        rw [parts,List.append_assoc,stream_append,List.append_cancel_left_eq] at cut
        exact cut
      have more := ih saneNext settledNext (fun packet member => sendable packet (List.mem_append_right done member)) still
        behind
      have arrived : parser.held.length + chunk.length = (stream Packet.bytes done).length + next.held.length := by
        rw [← List.length_append,parts,List.length_append]
      have shift : ReadsFit maxPayloadBytes (done ++ left) rest (parser.held.length + chunk.length) ↔
          ReadsFit maxPayloadBytes left rest next.held.length := by
        simp only [ReadsFit,arrived,Nat.add_assoc,waiting_done]
      rw [shift,← more,and_iff_right bounded]
      simp only [PacketParser.feedAll,fed]
      cases next.feedAll rest with
      | error text => simp
      | ok result => simp [Prod.ext_iff]
    · have refused : parser.feed chunk = .error "connection buffer exceeded maximum packet size" := by
        rw [PacketParser.feed,if_pos (by rw [sane.1]; omega)]
      simp [PacketParser.feedAll,refused,bounded]

theorem encoded_stream {encodings : List (List UInt8)} (encoded : packets.map encodePacket = encodings.map some) :
    (∀ packet ∈ packets, packet.header.fits = true) ∧ encodings.flatten = stream Packet.bytes packets := by
  induction packets generalizing encodings with
  | nil =>
    obtain rfl : encodings = [] := by simpa using encoded.symm
    exact ⟨by simp,rfl⟩
  | cons packet packets ih =>
    cases encodings with
    | nil => cases encoded
    | cons bytes encodings =>
      obtain ⟨first,rest⟩ := List.cons.inj encoded
      obtain ⟨fits,rfl⟩ := encodePacket_some first
      obtain ⟨all,flat⟩ := ih rest
      refine ⟨fun other member => ?_,by rw [List.flatten_cons,flat,stream_cons]⟩
      rcases List.mem_cons.mp member with rfl | later
      · exact fits
      · exact all other later

-- No read, with what is buffered of the packet at work, may go beyond the maximum and one header.
theorem reassembly_iff (maxPayloadBytes : ℕ) (packets : List Packet) (encodings chunks : List (List UInt8))
    (encoded : packets.map encodePacket = encodings.map some)
    (small : ∀ packet ∈ packets, packet.payload.length ≤ maxPayloadBytes)
    (cut : chunks.flatten = encodings.flatten) :
    (∃ last, (PacketParser.created maxPayloadBytes).feedAll chunks = .ok (packets,last)) ↔
      ReadsFit maxPayloadBytes packets chunks 0 := by
  obtain ⟨fits,flat⟩ := encoded_stream encoded
  exact reassembles_iff (created_sane maxPayloadBytes) created_settled (fun packet member => ⟨fits packet member,small packet member⟩)
    (created_incomplete packets) (by rw [cut,flat]; rfl)

def ping (sequence : ℕ) : Packet := ⟨.ping,0,sequence,0,[]⟩

theorem pings_reassembled :
    (∃ last, (PacketParser.created 2097152).feedAll [(ping 2).bytes ++ (ping 3).bytes] = .ok ([ping 2,ping 3],last)) ↔
      ReadsFit 2097152 [ping 2,ping 3] [(ping 2).bytes ++ (ping 3).bytes] 0 :=
  reassembly_iff 2097152 [ping 2,ping 3] [(ping 2).bytes,(ping 3).bytes] [(ping 2).bytes ++ (ping 3).bytes]
    (by decide +kernel) (by decide) (by simp)

-- The largest payload of the default maximum, with the two behind it in the read of its last byte.
def largest : Packet := ⟨.frame,0,1,0,List.replicate 2097152 0⟩

def reads : List (List UInt8) :=
  (largest.header.pack ++ List.replicate 65504 0) :: List.replicate 31 (List.replicate 65536 0) ++
    [List.replicate 31 0,0 :: ((ping 2).bytes ++ (ping 3).bytes)]

theorem flatten_reads (front back : List UInt8) (first count size last : ℕ) :
    ((front ++ List.replicate first 0) :: List.replicate count (List.replicate size 0) ++
        [List.replicate last 0,0 :: back]).flatten =
      front ++ List.replicate (first + count * size + last + 1) 0 ++ back := by
  have middle : (List.replicate count (List.replicate size (0 : UInt8))).flatten = List.replicate (count * size) 0 :=
    List.flatten_replicate_replicate
  have ends : (0 :: back : List UInt8) = List.replicate 1 0 ++ back := rfl
  rw [List.flatten_append,List.flatten_cons,middle,List.flatten_cons,List.flatten_singleton,ends]
  simp only [← List.append_assoc,List.replicate_add]

theorem coalesced_refused :
    [largest,ping 2,ping 3].map encodePacket = [largest.bytes,(ping 2).bytes,(ping 3).bytes].map some ∧
    (∀ packet ∈ [largest,ping 2,ping 3], packet.payload.length ≤ 2097152) ∧
    reads.flatten = [largest.bytes,(ping 2).bytes,(ping 3).bytes].flatten ∧
    (∀ chunk ∈ reads, chunk.length ≤ 65536) ∧
    ¬ ∃ last, (PacketParser.created 2097152).feedAll reads = .ok ([largest,ping 2,ping 3],last) := by
  have size : largest.payload.length = 2097152 := List.length_replicate
  have small : ∀ packet ∈ [largest,ping 2,ping 3], packet.payload.length ≤ 2097152 := by
    simp only [List.forall_mem_cons,size,ping]
    exact ⟨le_refl _,by decide,by decide,fun _ member => nomatch member⟩
  have encoded : [largest,ping 2,ping 3].map encodePacket = [largest.bytes,(ping 2).bytes,(ping 3).bytes].map some := by
    have first : encodePacket largest = some largest.bytes :=
      if_pos (header_fits (by decide) (by rw [size]; decide) (by decide) (by decide))
    rw [List.map_cons,first]
    rfl
  have cut : reads.flatten = [largest.bytes,(ping 2).bytes,(ping 3).bytes].flatten := by
    have total : 65504 + 31 * 65536 + 31 + 1 = 2097152 := by norm_num
    rw [reads,flatten_reads,total]
    simp only [List.flatten_cons,List.flatten_nil,List.append_nil]
    rfl
  refine ⟨encoded,small,cut,?_,?_⟩
  · intro chunk member
    rw [reads,List.mem_append,List.mem_cons] at member
    rcases member with (rfl | middle) | ends
    · rw [List.length_append,length_pack,List.length_replicate]
      decide
    · rw [List.eq_of_mem_replicate middle,List.length_replicate]
    · rcases List.mem_pair.mp ends with rfl | rfl
      · rw [List.length_replicate]
        decide
      · rw [List.length_cons,List.length_append,length_bytes,length_bytes]
        decide
  · obtain ⟨fits,flat⟩ := encoded_stream encoded
    rw [reassembles_iff (created_sane 2097152) created_settled (fun packet member => ⟨fits packet member,small packet member⟩)
      (created_incomplete _) (by rw [cut,flat]; rfl)]
    intro fit
    let before := (largest.header.pack ++ List.replicate 65504 0) :: List.replicate 31 (List.replicate 65536 0) ++
      [List.replicate 31 0]
    have arrived : before.flatten.length = 2097183 := by
      rw [List.flatten_append,List.flatten_cons,List.flatten_replicate_replicate,List.flatten_singleton]
      simp only [List.length_append,length_pack,List.length_replicate]
      decide
    have buffered : waiting [largest,ping 2,ping 3] 2097183 = 2097151 := by
      have bytes : largest.bytes.length = 2097184 := by rw [length_bytes,size]; decide
      rw [waiting,bytes,if_neg (by decide),if_pos (by decide)]
      decide
    have last := fit before (0 :: ((ping 2).bytes ++ (ping 3).bytes)) [] (by simp only [reads,before,List.append_assoc]; rfl)
    have empty : (PacketParser.created 2097152).held.length = 0 := rfl
    rw [arrived,empty,Nat.zero_add,buffered,List.length_cons,List.length_append,length_bytes,length_bytes] at last
    exact absurd last (by decide)

end Ignis.Protocol
