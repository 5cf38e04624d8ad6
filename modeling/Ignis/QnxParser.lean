import Ignis.QnxProtocol

-- The parser of the C++ side over any sequence of calls: what goes in comes out in packets or is still
-- in the buffer.
namespace Ignis.QnxProtocol
open Framing

def PacketParser.feedAll (parser : PacketParser) : List (List UInt8) → Except String (List Packet × PacketParser)
  | [] => .ok ([],parser)
  | chunk :: rest =>
    match parser.feed chunk with
    | .error text => .error text
    | .ok (packets,next) =>
      match next.feedAll rest with
      | .error text => .error text
      | .ok (later,last) => .ok (packets ++ later,last)

variable {maximumPayload : UInt64} {parser next last : PacketParser} {buffer chunk rest : List UInt8} {packet : Packet}
variable {packets : List Packet} {chunks earlier later : List (List UInt8)}

theorem scan_shrinks (maximumPayload : UInt64) : Shrinks (scan maximumPayload) := by
  intro bytes packet rest takes
  have same := scan_same maximumPayload bytes
  rw [takes] at same
  exact (Protocol.online maximumPayload.toNat).shrinks _ _ _ same

theorem scan_take (takes : scan maximumPayload buffer = .take packet rest) : buffer = serializePacket packet ++ rest := by
  have same := scan_same maximumPayload buffer
  rw [takes] at same
  obtain ⟨parts,fits,_⟩ := Protocol.scan_take same
  rw [serializePacket_bytes packet (Protocol.payload_fits fits),parts]

theorem follows (maximumPayload : UInt64) : Follows (scan maximumPayload) PacketParser.next PacketParser.buffer
    (fun parser => parser.maximumPayload = maximumPayload) (fun _ => True) where
  wait parser same waits := by
    refine ⟨parser,?_,rfl,same,trivial⟩
    rw [PacketParser.next,same,waits]
  fail parser text same fails := by rw [PacketParser.next,same,fails]
  take parser packet rest same takes := by
    refine ⟨{ parser with buffer := rest },?_,rfl,same⟩
    rw [PacketParser.next,same,takes]

theorem wrapped_bound (maximumPayload : UInt64) :
    (maximumPayload + UInt64.ofNat packetHeaderSize).toNat ≤ maximumPayload.toNat + packetHeaderSize := by
  rw [UInt64.toNat_add]
  exact Nat.mod_le _ _

inductive Fed (maximumPayload : UInt64) (parser : PacketParser) (chunk : List UInt8) :
    Except String (List Packet × PacketParser) → Prop where
  | refused (large : (maximumPayload + UInt64.ofNat packetHeaderSize).toNat < parser.buffer.length + chunk.length) :
      Fed maximumPayload parser chunk (.error "connection buffer exceeds maximum packet size")
  | failed (packets : List Packet) (text : String)
      (small : parser.buffer.length + chunk.length ≤ maximumPayload.toNat + packetHeaderSize)
      (scans : Scans (scan maximumPayload) (parser.buffer ++ chunk) packets (.fails text)) :
      Fed maximumPayload parser chunk (.error text)
  | returned (packets : List Packet) (next : PacketParser)
      (small : parser.buffer.length + chunk.length ≤ maximumPayload.toNat + packetHeaderSize)
      (scans : Scans (scan maximumPayload) (parser.buffer ++ chunk) packets (.waits next.buffer))
      (same : next.maximumPayload = maximumPayload) : Fed maximumPayload parser chunk (.ok (packets,next))

theorem feed_fed (same : parser.maximumPayload = maximumPayload) (chunk : List UInt8) :
    Fed maximumPayload parser chunk (parser.feed chunk) := by
  rw [PacketParser.feed,same]
  by_cases large : (maximumPayload + UInt64.ofNat packetHeaderSize).toNat < parser.buffer.length + chunk.length
  · rw [if_pos large]
    exact .refused large
  · rw [if_neg large]
    have small := (not_lt.mp large).trans (wrapped_bound maximumPayload)
    let filled : PacketParser := ⟨maximumPayload,parser.buffer ++ chunk⟩
    have start : filled.maximumPayload = maximumPayload := rfl
    have enough : filled.buffer.length < (parser.buffer ++ chunk).length + 1 := Nat.lt_succ_self _
    show Fed maximumPayload parser chunk (drain PacketParser.next ((parser.buffer ++ chunk).length + 1) filled)
    obtain ⟨packets,next,drained,scans,same,_⟩ | ⟨packets,text,drained,scans⟩ :=
      drain_answers (scan_shrinks maximumPayload) (follows maximumPayload) start enough
    · rw [drained]
      exact .returned packets next small scans same
    · rw [drained]
      exact .failed packets text small scans

structure Resting (maximumPayload : UInt64) (parser : PacketParser) : Prop where
  same : parser.maximumPayload = maximumPayload
  waits : scan maximumPayload parser.buffer = .wait
  bounded : parser.buffer.length ≤ maximumPayload.toNat + packetHeaderSize

theorem created_resting (maximumPayload : UInt64) : Resting maximumPayload (.created maximumPayload) :=
  ⟨rfl,if_pos (show 0 < packetHeaderSize by decide),Nat.zero_le _⟩

theorem feed_lossless (resting : Resting maximumPayload parser) (fed : parser.feed chunk = .ok (packets,next)) :
    Resting maximumPayload next ∧ parser.buffer ++ chunk = stream serializePacket packets ++ next.buffer ∧
      (parser.buffer ++ chunk).length ≤ maximumPayload.toNat + packetHeaderSize := by
  have goes := feed_fed resting.same chunk
  rw [fed] at goes
  cases goes with
  | returned packets next small scans same =>
    have taken : ∀ bytes packet rest, scan maximumPayload bytes = .take packet rest →
        bytes = serializePacket packet ++ rest ∧ True := fun _ _ _ takes => ⟨scan_take takes,trivial⟩
    obtain ⟨parts,_⟩ := scans.lossless taken
    have size : (parser.buffer ++ chunk).length ≤ maximumPayload.toNat + packetHeaderSize := by
      rwa [List.length_append]
    refine ⟨⟨same,scans.waiting,le_trans ?_ size⟩,parts,size⟩
    rw [parts,List.length_append]
    exact Nat.le_add_left _ _

theorem feedAll_cons (fed : parser.feedAll (chunk :: chunks) = .ok (packets,last)) :
    ∃ first next rest, parser.feed chunk = .ok (first,next) ∧ next.feedAll chunks = .ok (rest,last) ∧ packets = first ++ rest := by
  rw [PacketParser.feedAll] at fed
  cases first : parser.feed chunk with
  | error text => rw [first] at fed; cases fed
  | ok result =>
    obtain ⟨before,next⟩ := result
    rw [first] at fed
    simp only at fed
    cases behind : next.feedAll chunks with
    | error text => rw [behind] at fed; cases fed
    | ok result =>
      obtain ⟨rest,last⟩ := result
      rw [behind] at fed
      cases fed
      exact ⟨before,next,rest,rfl,behind,rfl⟩

theorem feedAll_split (fed : parser.feedAll (earlier ++ later) = .ok (packets,last)) :
    ∃ before between after, parser.feedAll earlier = .ok (before,between) ∧ between.feedAll later = .ok (after,last) := by
  induction earlier generalizing parser packets with
  | nil => exact ⟨[],parser,packets,rfl,fed⟩
  | cons chunk earlier ih =>
    obtain ⟨first,next,rest,fed,behind,_⟩ := feedAll_cons fed
    obtain ⟨before,between,after,front,back⟩ := ih behind
    exact ⟨first ++ before,between,after,by rw [PacketParser.feedAll,fed]; simp only [front],back⟩

theorem feedAll_lossless (resting : Resting maximumPayload parser) (fed : parser.feedAll chunks = .ok (packets,last)) :
    Resting maximumPayload last ∧ parser.buffer ++ chunks.flatten = stream serializePacket packets ++ last.buffer := by
  induction chunks generalizing parser packets with
  | nil =>
    cases fed
    exact ⟨resting,List.append_nil _⟩
  | cons chunk chunks ih =>
    obtain ⟨first,next,rest,taken,behind,rfl⟩ := feedAll_cons fed
    obtain ⟨still,parts,_⟩ := feed_lossless resting taken
    obtain ⟨ends,whole⟩ := ih still behind
    refine ⟨ends,?_⟩
    rw [List.flatten_cons,← List.append_assoc,parts,List.append_assoc,whole,stream_append,List.append_assoc]

theorem waits_short (waits : scan maximumPayload buffer = .wait) :
    buffer.length < packetHeaderSize + (readU32 (buffer.drop 8)).toNat := by
  rw [scan] at waits
  split at waits
  · omega
  · split at waits
    · cases waits
    · split at waits
      · cases waits
      · split at waits
        · cases waits
        · simp only at waits
          split at waits
          · cases waits
          · split at waits
            · assumption
            · split at waits <;> cases waits

theorem length_serializePacket (packet : Packet) :
    (serializePacket packet).length = packetHeaderSize + packet.payload.length := by
  simp only [serializePacket,writeU16,writeU32,writeU64,List.length_append,List.length_cons,List.length_nil]
  rfl

-- Even a payload whose size does not fit its field is announced with no more bytes than it has.
theorem announced_length (packet : Packet) (rest : List UInt8) :
    (readU32 ((serializePacket packet ++ rest).drop 8)).toNat ≤ packet.payload.length := by
  have spelled : ((serializePacket packet ++ rest).drop 8).take 4 = writeU32 (UInt32.ofNat packet.payload.length) := rfl
  rw [readU32_value,field,spelled,writeU32_bytes,bigEndianValue_bigEndian]
  refine (Nat.mod_le _ _).trans ?_
  rw [UInt32.toNat_ofNat']
  exact Nat.mod_le _ _

theorem waits_incomplete (waits : scan maximumPayload buffer = .wait) (packet : Packet) (rest : List UInt8) :
    buffer ≠ serializePacket packet ++ rest := by
  rintro rfl
  have short := waits_short waits
  have announced := announced_length packet rest
  rw [List.length_append,length_serializePacket] at short
  omega

theorem feeds_lossless (maximumPayload : UInt64) (chunks : List (List UInt8)) (packets : List Packet) (last : PacketParser)
    (succeeded : (PacketParser.created maximumPayload).feedAll chunks = .ok (packets,last)) :
    stream serializePacket packets ++ last.buffer = chunks.flatten ∧
    last.buffer.length ≤ maximumPayload.toNat + packetHeaderSize ∧
    (∀ earlier chunk later, chunks = earlier ++ chunk :: later → ∃ before between,
      (PacketParser.created maximumPayload).feedAll earlier = .ok (before,between) ∧
        (between.buffer ++ chunk).length ≤ maximumPayload.toNat + packetHeaderSize) ∧
    ∀ packet rest, last.buffer ≠ serializePacket packet ++ rest := by
  obtain ⟨ends,parts⟩ := feedAll_lossless (created_resting maximumPayload) succeeded
  refine ⟨parts.symm,ends.bounded,?_,waits_incomplete ends.waits⟩
  rintro earlier chunk later rfl
  obtain ⟨before,between,after,front,back⟩ := feedAll_split succeeded
  obtain ⟨resting,_⟩ := feedAll_lossless (created_resting maximumPayload) front
  obtain ⟨first,next,rest,fed,_⟩ := feedAll_cons back
  exact ⟨before,between,front,(feed_lossless resting fed).2.2⟩

-- A packet in three pieces, one of them empty, with the beginning of another.
def sample : Packet := ⟨.ping,0,7,123,[1,2,3]⟩

theorem sample_lossless :
    (PacketParser.created 1024).feedAll [(serializePacket sample).take 13,[],(serializePacket sample).drop 13 ++ [73]] =
      .ok ([sample],⟨1024,[73]⟩) ∧
    stream serializePacket [sample] ++ [73] =
      [(serializePacket sample).take 13,[],(serializePacket sample).drop 13 ++ [73]].flatten := by
  have fed : (PacketParser.created 1024).feedAll
      [(serializePacket sample).take 13,[],(serializePacket sample).drop 13 ++ [73]] = .ok ([sample],⟨1024,[73]⟩) := by
    decide +kernel
  exact ⟨fed,(feeds_lossless 1024 _ _ _ fed).1⟩

end Ignis.QnxProtocol
