import Ignis.Scanning

-- The packets of `protocol.py`.
namespace Ignis.Protocol
open Framing

inductive PacketType where
  | hello | helloAck
  | frame | detections | incidentUpdate | incidentTimelineEvent | healthUpdate | evidenceManifest | logEvent
  | configAck | configUpdate | occupantConfirm | occupantCancel | manualReset | callStatusUpdate | ping | pong
deriving DecidableEq, Repr

def PacketType.code : PacketType → ℕ
  | .hello => 1
  | .helloAck => 2
  | .frame => 10
  | .detections => 11
  | .incidentUpdate => 12
  | .incidentTimelineEvent => 13
  | .healthUpdate => 14
  | .evidenceManifest => 15
  | .logEvent => 16
  | .configAck => 20
  | .configUpdate => 100
  | .occupantConfirm => 101
  | .occupantCancel => 102
  | .manualReset => 103
  | .callStatusUpdate => 104
  | .ping => 105
  | .pong => 106

def packetTypes : List PacketType :=
  [.hello,.helloAck,.frame,.detections,.incidentUpdate,.incidentTimelineEvent,.healthUpdate,.evidenceManifest,
    .logEvent,.configAck,.configUpdate,.occupantConfirm,.occupantCancel,.manualReset,.callStatusUpdate,.ping,.pong]

def PacketType.ofCode (rawType : ℕ) : Option PacketType := packetTypes.find? fun known => known.code = rawType

theorem ofCode_code (packetType : PacketType) : PacketType.ofCode packetType.code = some packetType := by
  cases packetType <;> rfl

theorem PacketType.code_fits (packetType : PacketType) : packetType.code < 256 ^ 1 := by
  cases packetType <;> decide

-- The reflected CRC-32 of zlib, one bit of the register at a time.
def crcBit (register : BitVec 32) : BitVec 32 :=
  if register.getLsbD 0 then (register >>> 1) ^^^ 0xEDB88320#32 else register >>> 1

def crcByte (register : BitVec 32) (byte : UInt8) : BitVec 32 :=
  Nat.iterate crcBit 8 (register ^^^ BitVec.ofNat 32 byte.toNat)

def crc32 (payload : List UInt8) : BitVec 32 := payload.foldl crcByte 0xFFFFFFFF#32 ^^^ 0xFFFFFFFF#32

structure Packet where
  packetType : PacketType
  flags : ℕ
  sequence : ℕ
  monotonicNs : ℕ
  payload : List UInt8
deriving DecidableEq

structure Header where
  packetType : PacketType
  flags : ℕ
  length : ℕ
  sequence : ℕ
  monotonicNs : ℕ
  crc : ℕ
deriving DecidableEq

def magic : List UInt8 := [73,71,78,83]
def version : ℕ := 1
def headerSize : ℕ := 32

-- `HEADER.pack` of "!4sBBHIQQI", which raises `struct.error` for a value out of its range.
def Header.fields (header : Header) : List (ℕ × ℕ) :=
  [(1,version),(1,header.packetType.code),(2,header.flags),(4,header.length),(8,header.sequence),
    (8,header.monotonicNs),(4,header.crc)]

def Header.pack (header : Header) : List UInt8 := magic ++ packed header.fields

def Header.fits (header : Header) : Bool := header.fields.all fun (width,n) => n < 256 ^ width

def Packet.header (packet : Packet) : Header :=
  ⟨packet.packetType,packet.flags,packet.payload.length,packet.sequence,packet.monotonicNs,(crc32 packet.payload).toNat⟩

def Packet.bytes (packet : Packet) : List UInt8 := packet.header.pack ++ packet.payload

def encodePacket (packet : Packet) : Option (List UInt8) :=
  if packet.header.fits then some packet.bytes else none

-- The checks of a header that is wholly there, in the order of `feed`.
def readHeader (maxPayloadBytes : ℕ) (raw : List UInt8) : Except String Header :=
  if raw.take 4 ≠ magic then .error "invalid packet magic"
  else if field 4 1 raw ≠ version then .error "unsupported protocol version"
  else match PacketType.ofCode (field 5 1 raw) with
  | none => .error "unknown packet type"
  | some packetType =>
    if maxPayloadBytes < field 8 4 raw then .error "payload exceeds configured maximum"
    else .ok ⟨packetType,field 6 2 raw,field 8 4 raw,field 12 8 raw,field 20 8 raw,field 28 4 raw⟩

structure PacketParser where
  maxPayloadBytes : ℕ
  buffer : List UInt8
  expected : Option Header

def PacketParser.created (maxPayloadBytes : ℕ) : PacketParser := ⟨maxPayloadBytes,[],none⟩

def PacketParser.expect (parser : PacketParser) : Except String (Option (Header × List UInt8)) :=
  match parser.expected with
  | some header => .ok (some (header,parser.buffer))
  | none =>
    if parser.buffer.length < headerSize then .ok none
    else match readHeader parser.maxPayloadBytes (parser.buffer.take headerSize) with
    | .error text => .error text
    | .ok header => .ok (some (header,parser.buffer.drop headerSize))

def PacketParser.next (parser : PacketParser) : Except String (Option Packet × PacketParser) :=
  match parser.expect with
  | .error text => .error text
  | .ok none => .ok (none,parser)
  | .ok (some (header,buffer)) =>
    if buffer.length < header.length then .ok (none,{ parser with buffer := buffer, expected := some header })
    else
      let payload := buffer.take header.length
      if (crc32 payload).toNat ≠ header.crc then .error "payload CRC mismatch"
      else
        let packet := ⟨header.packetType,header.flags,header.sequence,header.monotonicNs,payload⟩
        .ok (some packet,{ parser with buffer := buffer.drop header.length, expected := none })

-- Every packet has a header, so the loop makes fewer turns than there are bytes.
def PacketParser.feed (parser : PacketParser) (chunk : List UInt8) : Except String (List Packet × PacketParser) :=
  if parser.maxPayloadBytes + headerSize < parser.buffer.length + chunk.length then
    .error "connection buffer exceeded maximum packet size"
  else
    let buffer := parser.buffer ++ chunk
    drain PacketParser.next (headerSize + buffer.length + 1) { parser with buffer := buffer }

theorem length_pack (header : Header) : header.pack.length = headerSize := by
  rw [Header.pack,List.length_append,length_packed]
  rfl

theorem length_bytes (packet : Packet) : packet.bytes.length = headerSize + packet.payload.length := by
  rw [Packet.bytes,List.length_append,length_pack]

theorem field_pack {header : Header} {offset width n : ℕ} (fits : header.fits = true) (earlier later : List (ℕ × ℕ))
    (split : header.fields = earlier ++ (width,n) :: later) (start : magic.length + widths earlier = offset) :
    field offset width header.pack = n := by
  have small : n < 256 ^ width := by simpa using List.all_eq_true.mp fits (width,n) (by simp [split])
  rw [Header.pack,split]
  exact field_packed magic earlier later start small

theorem readHeader_pack {maxPayloadBytes : ℕ} {header : Header} (fits : header.fits = true)
    (small : header.length ≤ maxPayloadBytes) : readHeader maxPayloadBytes header.pack = .ok header := by
  have rawVersion : field 4 1 header.pack = version := field_pack fits [] _ rfl rfl
  have rawType : field 5 1 header.pack = header.packetType.code := field_pack fits [_] _ rfl rfl
  have flags : field 6 2 header.pack = header.flags := field_pack fits [_,_] _ rfl rfl
  have length : field 8 4 header.pack = header.length := field_pack fits [_,_,_] _ rfl rfl
  have sequence : field 12 8 header.pack = header.sequence := field_pack fits [_,_,_,_] _ rfl rfl
  have monotonicNs : field 20 8 header.pack = header.monotonicNs := field_pack fits [_,_,_,_,_] _ rfl rfl
  have crc : field 28 4 header.pack = header.crc := field_pack fits [_,_,_,_,_,_] _ rfl rfl
  have start : header.pack.take 4 = magic := List.take_left' rfl
  have bounded : ¬ maxPayloadBytes < header.length := by omega
  simp only [readHeader,start,rawVersion,rawType,flags,length,sequence,monotonicNs,crc,ofCode_code,ne_eq,
    not_true_eq_false,if_false,bounded]

def PacketParser.held (parser : PacketParser) : List UInt8 :=
  match parser.expected with
  | none => parser.buffer
  | some header => header.pack ++ parser.buffer

def Packet.Sendable (maxPayloadBytes : ℕ) (packet : Packet) : Prop :=
  packet.header.fits = true ∧ packet.payload.length ≤ maxPayloadBytes

def PacketParser.Sane (maxPayloadBytes : ℕ) (parser : PacketParser) : Prop :=
  parser.maxPayloadBytes = maxPayloadBytes ∧
    ∀ header ∈ parser.expected, header.fits = true ∧ header.length ≤ maxPayloadBytes

variable {maxPayloadBytes : ℕ} {parser : PacketParser} {packet : Packet} {rest : List UInt8}

theorem created_sane (maxPayloadBytes : ℕ) : (PacketParser.created maxPayloadBytes).Sane maxPayloadBytes :=
  ⟨rfl,fun _ member => nomatch member⟩

theorem buffer_le_held : parser.buffer.length ≤ parser.held.length := by
  unfold PacketParser.held
  cases parser.expected with
  | none => exact le_refl _
  | some header =>
    rw [List.length_append]
    exact Nat.le_add_left _ _

theorem encodePacket_some {bytes : List UInt8} (encoded : encodePacket packet = some bytes) :
    packet.header.fits = true ∧ bytes = packet.bytes := by
  unfold encodePacket at encoded
  split at encoded
  · rename_i fits
    exact ⟨fits,(Option.some.inj encoded).symm⟩
  · cases encoded

theorem header_fits (flags : packet.flags < 2 ^ 16) (length : packet.payload.length < 2 ^ 32)
    (sequence : packet.sequence < 2 ^ 64) (monotonicNs : packet.monotonicNs < 2 ^ 64) : packet.header.fits = true := by
  have code := packet.packetType.code_fits
  have crc := (crc32 packet.payload).isLt
  simp only [Header.fits,Header.fields,Packet.header,version,List.all_cons,List.all_nil,Bool.and_true,Bool.and_eq_true,
    decide_eq_true_eq]
  exact ⟨by omega,code,by omega,by omega,by omega,by omega,by omega⟩

theorem payload_fits (fits : packet.header.fits = true) : packet.payload.length < 2 ^ 32 := by
  have inside : (4,packet.payload.length) ∈ packet.header.fields := by simp [Header.fields,Packet.header]
  simpa using List.all_eq_true.mp fits _ inside

theorem ofCode_some {rawType : ℕ} {packetType : PacketType} (known : PacketType.ofCode rawType = some packetType) :
    packetType.code = rawType := by
  simpa using List.find?_some known

theorem readHeader_parts {raw : List UInt8} {header : Header} (whole : raw.length = headerSize)
    (read : readHeader maxPayloadBytes raw = .ok header) :
    header.fits = true ∧ header.length ≤ maxPayloadBytes ∧ header.pack = raw := by
  unfold readHeader at read
  split at read
  · cases read
  · rename_i start
    split at read
    · cases read
    · rename_i current
      split at read
      · cases read
      · rename_i packetType known
        split at read
        · cases read
        · rename_i small
          cases read
          have code := ofCode_some known
          have fields : Header.fields ⟨packetType,field 6 2 raw,field 8 4 raw,field 12 8 raw,field 20 8 raw,field 28 4 raw⟩ =
              fieldsAt raw 4 [1,1,2,4,8,8,4] := by
            simp only [Header.fields,code,← not_ne_iff.mp current,fieldsAt]
          refine ⟨?_,not_lt.mp small,?_⟩
          · simp only [Header.fits,fields,fieldsAt,List.all_cons,List.all_nil,field_lt,decide_true,Bool.and_self]
          · have behind : packed (fieldsAt raw 4 [1,1,2,4,8,8,4]) = (raw.drop 4).take 28 :=
              packed_fieldsAt (by rw [whole]; decide)
            have all : (raw.drop 4).take 28 = raw.drop 4 :=
              List.take_of_length_le (by rw [List.length_drop,whole]; decide)
            rw [Header.pack,fields,behind,all,← not_ne_iff.mp start,List.take_append_drop]

-- What the bytes at hand are, whatever part of them the parser has set aside.
def scanPayload (header : Header) (behind : List UInt8) : Scan Packet UInt8 String :=
  if behind.length < header.length then .wait
  else if (crc32 (behind.take header.length)).toNat ≠ header.crc then .fail "payload CRC mismatch"
  else .take ⟨header.packetType,header.flags,header.sequence,header.monotonicNs,behind.take header.length⟩
    (behind.drop header.length)

def scan (maxPayloadBytes : ℕ) (bytes : List UInt8) : Scan Packet UInt8 String :=
  if bytes.length < headerSize then .wait
  else match readHeader maxPayloadBytes (bytes.take headerSize) with
  | .error text => .fail text
  | .ok header => scanPayload header (bytes.drop headerSize)

theorem scan_pack {header : Header} {behind : List UInt8} (fits : header.fits = true)
    (small : header.length ≤ maxPayloadBytes) : scan maxPayloadBytes (header.pack ++ behind) = scanPayload header behind := by
  have long : ¬ (header.pack ++ behind).length < headerSize := by
    rw [List.length_append,length_pack]
    omega
  rw [scan,if_neg long,List.take_left' (length_pack header),List.drop_left' (length_pack header),
    readHeader_pack fits small]

theorem scan_cases (maxPayloadBytes : ℕ) (bytes : List UInt8) :
    (bytes.length < headerSize ∧ scan maxPayloadBytes bytes = .wait) ∨
    (∃ text, headerSize ≤ bytes.length ∧ readHeader maxPayloadBytes (bytes.take headerSize) = .error text ∧
      scan maxPayloadBytes bytes = .fail text) ∨
    ∃ header behind, header.fits = true ∧ header.length ≤ maxPayloadBytes ∧ bytes = header.pack ++ behind ∧
      readHeader maxPayloadBytes (bytes.take headerSize) = .ok header ∧ behind = bytes.drop headerSize ∧
      scan maxPayloadBytes bytes = scanPayload header behind := by
  by_cases short : bytes.length < headerSize
  · exact .inl ⟨short,if_pos short⟩
  · refine .inr ?_
    have whole : (bytes.take headerSize).length = headerSize := by
      rw [List.length_take]
      omega
    cases read : readHeader maxPayloadBytes (bytes.take headerSize) with
    | error text => exact .inl ⟨text,not_lt.mp short,rfl,by rw [scan,if_neg short,read]⟩
    | ok header =>
      obtain ⟨fits,small,pack⟩ := readHeader_parts whole read
      refine .inr ⟨header,bytes.drop headerSize,fits,small,?_,rfl,rfl,by rw [scan,if_neg short,read]⟩
      rw [pack,List.take_append_drop]

theorem scanPayload_cases (header : Header) (behind : List UInt8) :
    (behind.length < header.length ∧ scanPayload header behind = .wait) ∨
    (header.length ≤ behind.length ∧ (crc32 (behind.take header.length)).toNat ≠ header.crc ∧
      scanPayload header behind = .fail "payload CRC mismatch") ∨
    (header.length ≤ behind.length ∧ (crc32 (behind.take header.length)).toNat = header.crc ∧ scanPayload header behind =
      .take ⟨header.packetType,header.flags,header.sequence,header.monotonicNs,behind.take header.length⟩
        (behind.drop header.length)) := by
  unfold scanPayload
  by_cases short : behind.length < header.length
  · exact .inl ⟨short,if_pos short⟩
  · rw [if_neg short]
    by_cases wrong : (crc32 (behind.take header.length)).toNat ≠ header.crc
    · exact .inr (.inl ⟨not_lt.mp short,wrong,if_pos wrong⟩)
    · exact .inr (.inr ⟨not_lt.mp short,not_ne_iff.mp wrong,if_neg wrong⟩)

theorem scanPayload_append {header : Header} {behind more : List UInt8} (enough : header.length ≤ behind.length) :
    scanPayload header (behind ++ more) = match scanPayload header behind with
      | .take item rest => .take item (rest ++ more)
      | verdict => verdict := by
  have long : ¬ (behind ++ more).length < header.length := by
    rw [List.length_append]
    omega
  simp only [scanPayload,if_neg long,if_neg (not_lt.mpr enough),List.take_append_of_le_length enough,
    List.drop_append_of_le_length enough]
  split <;> rfl

theorem online (maxPayloadBytes : ℕ) : Online (scan maxPayloadBytes) where
  empty := if_pos (show 0 < headerSize by decide)
  shrinks bytes item rest takes := by
    rcases scan_cases maxPayloadBytes bytes with ⟨_,waits⟩ | ⟨_,_,_,fails⟩ | ⟨header,behind,_,_,whole,_,_,goes⟩
    · rw [waits] at takes; cases takes
    · rw [fails] at takes; cases takes
    · rw [goes] at takes
      rcases scanPayload_cases header behind with ⟨_,waits⟩ | ⟨_,_,fails⟩ | ⟨_,_,done⟩
      · rw [waits] at takes; cases takes
      · rw [fails] at takes; cases takes
      · rw [done] at takes
        cases takes
        rw [whole,List.length_append,length_pack,List.length_drop,headerSize]
        omega
  fail_append bytes error more fails := by
    rcases scan_cases maxPayloadBytes bytes with ⟨_,waits⟩ | ⟨text,long,read,failed⟩ | ⟨header,behind,fits,small,whole,_,_,goes⟩
    · rw [waits] at fails; cases fails
    · rw [failed] at fails
      cases fails
      have longer : ¬ (bytes ++ more).length < headerSize := by
        rw [List.length_append]
        omega
      rw [scan,if_neg longer,List.take_append_of_le_length long,read]
    · rw [goes] at fails
      rcases scanPayload_cases header behind with ⟨_,waits⟩ | ⟨enough,_,failed⟩ | ⟨_,_,done⟩
      · rw [waits] at fails; cases fails
      · rw [whole,List.append_assoc,scan_pack fits small,scanPayload_append enough,fails]
      · rw [done] at fails; cases fails
  take_append bytes item rest more takes := by
    rcases scan_cases maxPayloadBytes bytes with ⟨_,waits⟩ | ⟨_,_,_,fails⟩ | ⟨header,behind,fits,small,whole,_,_,goes⟩
    · rw [waits] at takes; cases takes
    · rw [fails] at takes; cases takes
    · rw [goes] at takes
      rcases scanPayload_cases header behind with ⟨_,waits⟩ | ⟨_,_,fails⟩ | ⟨enough,_,_⟩
      · rw [waits] at takes; cases takes
      · rw [fails] at takes; cases takes
      · rw [whole,List.append_assoc,scan_pack fits small,scanPayload_append enough,takes]

theorem scan_take {bytes : List UInt8} (takes : scan maxPayloadBytes bytes = .take packet rest) :
    bytes = packet.bytes ++ rest ∧ packet.Sendable maxPayloadBytes := by
  rcases scan_cases maxPayloadBytes bytes with ⟨_,waits⟩ | ⟨_,_,_,fails⟩ | ⟨header,behind,fits,small,whole,_,_,goes⟩
  · rw [waits] at takes; cases takes
  · rw [fails] at takes; cases takes
  · rw [goes] at takes
    rcases scanPayload_cases header behind with ⟨_,waits⟩ | ⟨_,_,fails⟩ | ⟨enough,crc,done⟩
    · rw [waits] at takes; cases takes
    · rw [fails] at takes; cases takes
    · rw [done] at takes
      cases takes
      have size : (behind.take header.length).length = header.length := by
        rw [List.length_take]
        omega
      have same : Packet.header ⟨header.packetType,header.flags,header.sequence,header.monotonicNs,
          behind.take header.length⟩ = header := by
        simp only [Packet.header,size,crc]
      refine ⟨?_,?_⟩
      · rw [whole,Packet.bytes,same,List.append_assoc,List.take_append_drop]
      · rw [Packet.Sendable,same]
        exact ⟨fits,by simpa [size] using small⟩

theorem scan_bytes (sendable : packet.Sendable maxPayloadBytes) : scan maxPayloadBytes packet.bytes = .take packet [] := by
  have size : packet.header.length = packet.payload.length := rfl
  have crc : (crc32 packet.payload).toNat = packet.header.crc := rfl
  rw [Packet.bytes,scan_pack sendable.1 sendable.2]
  simp [scanPayload,size,crc]
  rfl

def PacketParser.Settled (parser : PacketParser) : Prop := parser.expected = none → parser.buffer.length < headerSize

theorem expect_cases (sane : parser.Sane maxPayloadBytes) :
    (parser.expect = .ok none ∧ parser.held.length < headerSize ∧ parser.Settled) ∨
    (∃ text, parser.expect = .error text ∧ scan maxPayloadBytes parser.held = .fail text) ∨
    ∃ header buffer, parser.expect = .ok (some (header,buffer)) ∧ parser.held = header.pack ++ buffer ∧
      header.fits = true ∧ header.length ≤ maxPayloadBytes := by
  unfold PacketParser.expect PacketParser.Settled PacketParser.held
  cases same : parser.expected with
  | some header =>
    obtain ⟨fits,small⟩ := sane.2 header same
    exact .inr (.inr ⟨header,parser.buffer,rfl,rfl,fits,small⟩)
  | none =>
    simp only [sane.1]
    rcases scan_cases maxPayloadBytes parser.buffer with
      ⟨short,_⟩ | ⟨text,long,read,fails⟩ | ⟨header,behind,fits,small,whole,read,rfl,_⟩
    · exact .inl ⟨if_pos short,short,fun _ => short⟩
    · exact .inr (.inl ⟨text,by rw [if_neg (not_lt.mpr long),read],fails⟩)
    · have long : ¬ parser.buffer.length < headerSize := by
        rw [whole,List.length_append,length_pack]
        omega
      exact .inr (.inr ⟨header,_,by rw [if_neg long,read],whole,fits,small⟩)

theorem next_cases (sane : parser.Sane maxPayloadBytes) :
    (scan maxPayloadBytes parser.held = .wait ∧ ∃ after, parser.next = .ok (none,after) ∧ after.held = parser.held ∧
      after.Sane maxPayloadBytes ∧ after.Settled) ∨
    (∃ text, scan maxPayloadBytes parser.held = .fail text ∧ parser.next = .error text) ∨
    ∃ packet after, scan maxPayloadBytes parser.held = .take packet after.held ∧ parser.next = .ok (some packet,after) ∧
      after.Sane maxPayloadBytes := by
  unfold PacketParser.next
  obtain ⟨waits,short,settled⟩ | ⟨text,stops,fails⟩ | ⟨header,buffer,works,holds,fits,small⟩ := expect_cases sane
  · exact .inl ⟨if_pos short,parser,by rw [waits],rfl,sane,settled⟩
  · exact .inr (.inl ⟨text,fails,by rw [stops]⟩)
  · have goes : scan maxPayloadBytes parser.held = scanPayload header buffer := by rw [holds,scan_pack fits small]
    rw [works,goes]
    rcases scanPayload_cases header buffer with ⟨short,waits⟩ | ⟨enough,wrong,fails⟩ | ⟨enough,crc,done⟩
    · refine .inl ⟨waits,{ parser with buffer := buffer, expected := some header },if_pos short,holds.symm,
        ⟨sane.1,?_⟩,fun missing => nomatch missing⟩
      rintro other same
      cases same
      exact ⟨fits,small⟩
    · refine .inr (.inl ⟨_,fails,?_⟩)
      simp only [if_neg (not_lt.mpr enough),if_pos wrong]
    · refine .inr (.inr ⟨_,{ parser with buffer := buffer.drop header.length, expected := none },done,?_,sane.1,?_⟩)
      · simp only [if_neg (not_lt.mpr enough),crc,ne_eq,not_true_eq_false,if_false]
      · rintro other same
        cases same

theorem follows (maxPayloadBytes : ℕ) : Follows (scan maxPayloadBytes) PacketParser.next PacketParser.held
    (PacketParser.Sane maxPayloadBytes) PacketParser.Settled where
  wait parser sane waits := by
    obtain ⟨_,goes⟩ | ⟨text,fails,_⟩ | ⟨packet,after,takes,_⟩ := next_cases sane
    · exact goes
    · rw [waits] at fails; cases fails
    · rw [waits] at takes; cases takes
  fail parser text sane fails := by
    obtain ⟨waits,_⟩ | ⟨other,same,goes⟩ | ⟨packet,after,takes,_⟩ := next_cases sane
    · rw [fails] at waits; cases waits
    · rw [fails] at same; cases same; exact goes
    · rw [fails] at takes; cases takes
  take parser packet rest sane takes := by
    obtain ⟨waits,_⟩ | ⟨text,fails,_⟩ | ⟨other,after,same,goes,still⟩ := next_cases sane
    · rw [takes] at waits; cases waits
    · rw [takes] at fails; cases fails
    · rw [takes] at same; cases same; exact ⟨after,goes,rfl,still⟩

structure Fed (maxPayloadBytes : ℕ) (parser : PacketParser) (chunk : List UInt8) : Prop where
  waits : ∀ packets rest, Scans (scan maxPayloadBytes) (parser.held ++ chunk) packets (.waits rest) →
    ∃ after, parser.feed chunk = .ok (packets,after) ∧ after.held = rest ∧ after.Sane maxPayloadBytes ∧ after.Settled
  fails : ∀ packets text, Scans (scan maxPayloadBytes) (parser.held ++ chunk) packets (.fails text) →
    parser.feed chunk = .error text

theorem feed_scans {chunk : List UInt8} (sane : parser.Sane maxPayloadBytes)
    (bounded : parser.buffer.length + chunk.length ≤ maxPayloadBytes + headerSize) : Fed maxPayloadBytes parser chunk := by
  let filled : PacketParser := { parser with buffer := parser.buffer ++ chunk }
  have holds : filled.held = parser.held ++ chunk := by
    simp only [filled,PacketParser.held]
    cases parser.expected with
    | none => rfl
    | some header => exact (List.append_assoc ..).symm
  have enough : filled.held.length < headerSize + (parser.buffer ++ chunk).length + 1 := by
    simp only [filled,PacketParser.held]
    cases parser.expected with
    | none => simp only; omega
    | some header => rw [List.length_append,length_pack]; omega
  have drains : parser.feed chunk = drain PacketParser.next (headerSize + (parser.buffer ++ chunk).length + 1) filled := by
    rw [PacketParser.feed,if_neg (by rw [sane.1]; omega)]
  have start : filled.Sane maxPayloadBytes := ⟨sane.1,sane.2⟩
  constructor
  · intro packets rest scans
    rw [← holds] at scans
    rw [drains]
    exact drain_waits (online maxPayloadBytes).shrinks (follows maxPayloadBytes) start enough scans
  · intro packets text scans
    rw [← holds] at scans
    rw [drains]
    exact drain_fails (online maxPayloadBytes).shrinks (follows maxPayloadBytes) start enough scans

theorem feed_stream {packets : List Packet} {chunk : List UInt8} (sane : parser.Sane maxPayloadBytes)
    (sendable : ∀ packet ∈ packets, packet.Sendable maxPayloadBytes)
    (carried : parser.held ++ chunk <+: stream Packet.bytes packets)
    (bounded : parser.buffer.length + chunk.length ≤ maxPayloadBytes + headerSize) :
    ∃ done left after, packets = done ++ left ∧ parser.feed chunk = .ok (done,after) ∧ after.Sane maxPayloadBytes ∧
      parser.held ++ chunk = stream Packet.bytes done ++ after.held ∧ Incomplete Packet.bytes after.held left ∧
      after.Settled := by
  obtain ⟨done,left,rest,split,scans,parts,incomplete⟩ :=
    scans_prefix (online maxPayloadBytes) (fun _ => scan_bytes) sendable carried
  obtain ⟨after,fed,rfl,saneAfter,settled⟩ := (feed_scans sane bounded).waits done rest scans
  exact ⟨done,left,after,split,fed,saneAfter,parts,incomplete,settled⟩

theorem feed_whole {packets : List Packet} (sane : parser.Sane maxPayloadBytes) (empty : parser.held = [])
    (sendable : ∀ packet ∈ packets, packet.Sendable maxPayloadBytes)
    (bounded : (stream Packet.bytes packets).length ≤ maxPayloadBytes + headerSize) :
    ∃ after, parser.feed (stream Packet.bytes packets) = .ok (packets,after) ∧ after.Sane maxPayloadBytes ∧ after.held = [] := by
  have drained : parser.buffer = [] := by
    unfold PacketParser.held at empty
    cases same : parser.expected with
    | none => simpa [same] using empty
    | some header => rw [same,List.append_eq_nil_iff] at empty; exact empty.2
  have small : parser.buffer.length + (stream Packet.bytes packets).length ≤ maxPayloadBytes + headerSize := by
    rw [drained,List.length_nil,Nat.zero_add]
    exact bounded
  obtain ⟨done,left,after,rfl,fed,saneAfter,parts,incomplete,_⟩ :=
    feed_stream sane sendable (by rw [empty,List.nil_append]) small
  rw [empty,List.nil_append,stream_append,List.append_cancel_left_eq] at parts
  cases left with
  | nil => exact ⟨after,by simpa using fed,saneAfter,parts.symm⟩
  | cons packet rest =>
    simp only [Incomplete,← parts,stream_cons,List.length_append] at incomplete
    omega

end Ignis.Protocol
