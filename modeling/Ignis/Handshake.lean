import Ignis.Delivery

-- What the calls on `BackendStream` give back, for every peer: its acknowledgement is read in whatever
-- pieces it comes, and every step of reading it fails with an exception of its own.
namespace Ignis.Delivery
open Framing Protocol Runs EdgeLoop DeviceLink

-- The exceptions of `json.loads`. None of them is an OSError.
inductive DecodeError where
  | jsonDecodeError | unicodeDecodeError | valueError | recursionError

inductive Exception where
  | osError
  | connectionError
  | structError
  | decode (error : DecodeError)

def Exception.caught : Exception → Bool
  | .osError | .connectionError => true
  | .structError | .decode _ => false

-- What `json.loads` makes of a payload: a dict, with the truth of its "accepted", or another value.
inductive Reply where
  | dict (accepted : Bool)
  | other

-- How a peer treats a new connection. Of an established one the reads are given, whatever was asked
-- of each: an empty one is its end, and after the last the socket raises.
inductive Peer where
  | refused
  | interrupted (written : ℕ)
  | established (reads : List (List UInt8))

-- `recv` gives no more than was asked for; the rest of a read is there for the next.
def receiveExact : List (List UInt8) → ℕ → Except Exception (List UInt8 × List (List UInt8))
  | reads,0 => .ok ([],reads)
  | [],_ + 1 => .error .osError
  | [] :: _,_ + 1 => .error .connectionError
  | (byte :: more) :: rest,length + 1 =>
    if length < more.length then .ok ((byte :: more).take (length + 1),(byte :: more).drop (length + 1) :: rest)
    else match receiveExact rest (length - more.length) with
    | .error exception => .error exception
    | .ok (result,left) => .ok (byte :: more ++ result,left)

section Acknowledgement
variable (loads : List UInt8 → Except DecodeError Reply)

def judged (payload : List UInt8) : Except Exception Unit :=
  match loads payload with
  | .error error => .error (.decode error)
  | .ok (.dict true) => .ok ()
  | .ok (.dict false) => .error .connectionError
  | .ok .other => .error .connectionError

def receiveAck (reads : List (List UInt8)) : Except Exception Unit :=
  match receiveExact reads headerSize with
  | .error exception => .error exception
  | .ok (header,rest) =>
    if header.take 4 ≠ magic ∨ field 4 1 header ≠ version ∨ field 5 1 header ≠ PacketType.helloAck.code then
      .error .connectionError
    else match receiveExact rest (field 8 4 header) with
    | .error exception => .error exception
    | .ok (payload,_) =>
      if (crc32 payload).toNat ≠ field 28 4 header then .error .connectionError else judged loads payload

-- What came before the end of a connection, and the payload of the acknowledgement that it starts with.
def arrived : List (List UInt8) → List UInt8
  | [] => []
  | [] :: _ => []
  | (byte :: more) :: rest => byte :: more ++ arrived rest

def acknowledgement (bytes : List UInt8) : Option (List UInt8) :=
  if bytes.length < headerSize then none
  else if bytes.take 4 ≠ magic ∨ field 4 1 bytes ≠ version ∨ field 5 1 bytes ≠ PacketType.helloAck.code then none
  else if (bytes.drop headerSize).length < field 8 4 bytes then none
  else if (crc32 ((bytes.drop headerSize).take (field 8 4 bytes))).toNat ≠ field 28 4 bytes then none
  else some ((bytes.drop headerSize).take (field 8 4 bytes))

def Peer.acknowledges : Peer → Option (List UInt8)
  | .established reads => acknowledgement (arrived reads)
  | _ => none

def Peer.raises (peer : Peer) : Bool := peer.acknowledges.any fun payload => !(loads payload).isOk

def Peer.accepts (peer : Peer) : Bool :=
  peer.acknowledges.any fun payload => match loads payload with
    | .ok (.dict accepted) => accepted
    | _ => false

end Acknowledgement

structure Dial where
  now : ℕ
  monotonicNs : ℕ
  later : ℕ
  peer : Peer

structure Sending where
  packetType : PacketType
  payload : List UInt8
  monotonicNs : ℕ
  dial : Dial
  written : Written

section Calls
variable (setup : Setup) (loads : List UInt8 → Except DecodeError Reply)

def Dial.attempt (dial : Dial) : Attempt where
  now := dial.now
  monotonicNs := dial.monotonicNs
  later := dial.later
  answer := match dial.peer with
    | .refused => .refused
    | .interrupted written => .interrupted written
    | .established reads =>
      match receiveAck loads reads with
      | .ok () => .acknowledged
      | .error exception => if exception.caught then .unanswered else .garbled

def Sender.handshake (sender : Sender) (dial : Dial) : Except Exception Unit :=
  match dial.peer,encodePacket (sender.hello setup dial.monotonicNs) with
  | .refused,_ => .error .osError
  | _,none => .error .structError
  | .interrupted _,some _ => .error .osError
  | .established reads,some _ => receiveAck loads reads

def Sender.connects (sender : Sender) (dial : Dial) : Except Exception Bool :=
  if dial.now < sender.nextReconnect then .ok false
  else match sender.handshake setup loads dial with
  | .ok () => .ok true
  | .error exception => if exception.caught then .ok false else .error exception

def Sender.transmits (sender : Sender) (sending : Sending) : Except Exception Bool :=
  match encodePacket (sender.packet sending.packetType sending.payload sending.monotonicNs) with
  | none => .error .structError
  | some _ =>
    match sending.written with
    | .done => .ok true
    | .interrupted _ _ => .ok false

def Sender.sends (sender : Sender) (sending : Sending) : Except Exception Bool :=
  if sender.connection.isNone then
    match sender.connects setup loads sending.dial with
    | .ok true => (sender.connect setup (sending.dial.attempt loads)).transmits sending
    | result => result
  else sender.transmits sending

def Sender.afterSend (sender : Sender) (sending : Sending) : Sender :=
  sender.send setup sending.packetType sending.payload sending.monotonicNs (sending.dial.attempt loads) sending.written

-- The stream as the loop finds it: as it was made, or after the call of `connect` before the loop.
def opened : Option Dial → Sender
  | none => created
  | some dial => created.connect setup (dial.attempt loads)

structure Reconnects (sender : Sender) : Prop where
  down : sender.connection = none
  again : ∀ dial : Dial, sender.nextReconnect ≤ dial.now → sender.handshake setup loads dial = .ok () →
    sender.connects setup loads dial = .ok true ∧ (sender.connect setup (dial.attempt loads)).connection.isSome = true

def Graceful (result : Except Exception Bool) (after : Sender) : Prop :=
  ∃ done, result = .ok done ∧ (done = false → Reconnects setup loads after)

def Sender.dials (sender : Sender) (dial : Dial) : Bool :=
  sender.nextReconnect ≤ dial.now && match dial.peer with
    | .refused => false
    | _ => true

def Sender.safeDial (sender : Sender) (dial : Dial) : Bool :=
  !sender.dials dial || ((sender.hello setup dial.monotonicNs).header.fits && !dial.peer.raises loads)

def Sending.numbered (sending : Sending) (sequence : ℕ) : Packet :=
  ⟨sending.packetType,0,sequence,sending.monotonicNs,sending.payload⟩

-- The number of the packet that is sent is the next one, or the one after a HELLO.
def Sender.safe (sender : Sender) (sending : Sending) : Bool :=
  match sender.connection with
  | some _ => (sending.numbered sender.sequence).header.fits
  | none =>
    sender.safeDial setup loads sending.dial &&
      (!(sender.dials sending.dial && sending.dial.peer.accepts loads) || (sending.numbered (sender.sequence + 1)).header.fits)

end Calls

theorem receiveExact_whole (reads : List (List UInt8)) (length : ℕ) (enough : length ≤ (arrived reads).length) :
    ∃ left, receiveExact reads length = .ok ((arrived reads).take length,left) ∧ arrived left = (arrived reads).drop length := by
  induction reads generalizing length with
  | nil =>
    obtain rfl : length = 0 := Nat.le_zero.mp enough
    exact ⟨[],rfl,rfl⟩
  | cons chunk rest ih =>
    cases length with
    | zero => exact ⟨chunk :: rest,by rw [receiveExact,List.take_zero],rfl⟩
    | succ length =>
      cases chunk with
      | nil => exact absurd enough (by simp [arrived])
      | cons byte more =>
        by_cases inside : length < more.length
        · have longer : length + 1 ≤ (byte :: more).length := by
            rw [List.length_cons]
            omega
          refine ⟨(byte :: more).drop (length + 1) :: rest,?_,?_⟩
          · rw [receiveExact,if_pos inside,arrived,List.take_append_of_le_length longer]
          · obtain ⟨next,behind,split⟩ := List.exists_cons_of_length_pos (l := more.drop length) (by rw [List.length_drop]; omega)
            rw [arrived,List.drop_append_of_le_length longer,List.drop_succ_cons,split]
            rfl
        · -- The whole read is taken, and the rest of the request asks for more.
          have covers : (byte :: more).length ≤ length + 1 := by
            rw [List.length_cons]
            omega
          have asks : length + 1 - (byte :: more).length = length - more.length := by
            rw [List.length_cons]
            omega
          have behind : length - more.length ≤ (arrived rest).length := by
            rw [arrived,List.length_append,List.length_cons] at enough
            omega
          obtain ⟨left,reads,drops⟩ := ih (length - more.length) behind
          refine ⟨left,?_,?_⟩
          · rw [receiveExact,if_neg inside,reads,arrived,List.take_append,List.take_of_length_le covers,asks]
          · rw [drops,arrived,List.drop_append,List.drop_of_length_le covers,asks,List.nil_append]

theorem receiveExact_short (reads : List (List UInt8)) (length : ℕ) (short : (arrived reads).length < length) :
    ∃ exception, receiveExact reads length = .error exception ∧ exception.caught = true := by
  induction reads generalizing length with
  | nil =>
    cases length with
    | zero => cases short
    | succ length => exact ⟨.osError,rfl,rfl⟩
  | cons chunk rest ih =>
    cases length with
    | zero => cases short
    | succ length =>
      cases chunk with
      | nil => exact ⟨.connectionError,rfl,rfl⟩
      | cons byte more =>
        rw [arrived,List.length_append,List.length_cons] at short
        obtain ⟨exception,raises,caught⟩ := ih (length - more.length) (by omega)
        refine ⟨exception,?_,caught⟩
        rw [receiveExact,if_neg (by omega),raises]

theorem receiveAck_cases (loads : List UInt8 → Except DecodeError Reply) (reads : List (List UInt8)) :
    (acknowledgement (arrived reads) = none ∧ ∃ exception, receiveAck loads reads = .error exception ∧ exception.caught = true) ∨
    ∃ payload, acknowledgement (arrived reads) = some payload ∧ receiveAck loads reads = judged loads payload := by
  unfold receiveAck acknowledgement
  by_cases short : (arrived reads).length < headerSize
  · obtain ⟨exception,raises,caught⟩ := receiveExact_short reads headerSize short
    exact .inl ⟨if_pos short,exception,by rw [raises],caught⟩
  · obtain ⟨rest,header,behind⟩ := receiveExact_whole reads headerSize (not_lt.mp short)
    have start : ((arrived reads).take headerSize).take 4 = (arrived reads).take 4 := by
      rw [List.take_take]
      rfl
    have current : field 4 1 ((arrived reads).take headerSize) = field 4 1 (arrived reads) := field_take (by decide)
    have rawType : field 5 1 ((arrived reads).take headerSize) = field 5 1 (arrived reads) := field_take (by decide)
    have length : field 8 4 ((arrived reads).take headerSize) = field 8 4 (arrived reads) := field_take (by decide)
    have crc : field 28 4 ((arrived reads).take headerSize) = field 28 4 (arrived reads) := field_take (by decide)
    rw [header,if_neg short]
    simp only [start,current,rawType,length,crc,← behind]
    split
    · exact .inl ⟨rfl,.connectionError,rfl,rfl⟩
    · by_cases few : (arrived rest).length < field 8 4 (arrived reads)
      · obtain ⟨exception,raises,caught⟩ := receiveExact_short rest _ few
        exact .inl ⟨if_pos few,exception,by rw [raises],caught⟩
      · obtain ⟨left,payload,_⟩ := receiveExact_whole rest _ (not_lt.mp few)
        rw [if_neg few,payload]
        simp only
        split
        · exact .inl ⟨rfl,.connectionError,rfl,rfl⟩
        · exact .inr ⟨_,rfl,rfl⟩

variable {setup : Setup} {loads : List UInt8 → Except DecodeError Reply} {sender : Sender} {dial : Dial} {sending : Sending}

theorem encodePacket_none {packet : Packet} (large : encodePacket packet = none) : packet.header.fits = false := by
  unfold encodePacket at large
  split at large
  · cases large
  · rename_i unfit
    exact Bool.not_eq_true _ ▸ unfit

inductive Dialed (setup : Setup) (loads : List UInt8 → Except DecodeError Reply) (sender : Sender) (dial : Dial) : Prop where
  | unavailable (result : sender.connects setup loads dial = .ok false)
      (down : (sender.connect setup (dial.attempt loads)).connection = none)
      (safe : sender.safeDial setup loads dial = true) (idle : (sender.dials dial && dial.peer.accepts loads) = false)
  | connected (sent : Sent) (result : sender.connects setup loads dial = .ok true)
      (up : (sender.connect setup (dial.attempt loads)).connection = some sent)
      (sequence : (sender.connect setup (dial.attempt loads)).sequence = sender.sequence + 1)
      (safe : sender.safeDial setup loads dial = true) (answers : (sender.dials dial && dial.peer.accepts loads) = true)
  | raised (exception : Exception) (result : sender.connects setup loads dial = .error exception)
      (harms : sender.safeDial setup loads dial = false)

theorem connects_raised {exception : Exception} (due : sender.nextReconnect ≤ dial.now)
    (raises : sender.handshake setup loads dial = .error exception) :
    sender.connects setup loads dial = if exception.caught then .ok false else .error exception := by
  rw [Sender.connects,if_neg (not_lt.mpr due),raises]

theorem connects_done (due : sender.nextReconnect ≤ dial.now) (done : sender.handshake setup loads dial = .ok ()) :
    sender.connects setup loads dial = .ok true := by
  rw [Sender.connects,if_neg (not_lt.mpr due),done]

theorem handshake_established {now monotonicNs later : ℕ} {reads : List (List UInt8)} {bytes : List UInt8}
    (encoded : encodePacket (sender.hello setup monotonicNs) = some bytes) :
    sender.handshake setup loads ⟨now,monotonicNs,later,.established reads⟩ = receiveAck loads reads := by
  rw [Sender.handshake,encoded]

theorem dialed_early (down : sender.connection = none) (early : dial.now < sender.nextReconnect) : Dialed setup loads sender dial := by
  have waits : sender.dials dial = false := by
    rw [Sender.dials,decide_eq_false (not_le.mpr early)]
    rfl
  refine .unavailable (if_pos early) ?_ ?_ ?_
  · rw [Sender.connect,if_pos (show (dial.attempt loads).now < sender.nextReconnect from early)]
    exact down
  · rw [Sender.safeDial,waits]
    rfl
  · rw [waits]
    rfl

section Due
variable {now monotonicNs later : ℕ} {reads : List (List UInt8)} {bytes : List UInt8}

theorem due_attempt {peer : Peer} (due : sender.nextReconnect ≤ now) :
    ¬ (Dial.attempt loads ⟨now,monotonicNs,later,peer⟩).now < sender.nextReconnect := not_lt.mpr due

theorem dialed_refused (due : sender.nextReconnect ≤ now) : Dialed setup loads sender ⟨now,monotonicNs,later,.refused⟩ := by
  have waits : sender.dials ⟨now,monotonicNs,later,.refused⟩ = false := by rw [Sender.dials,Bool.and_false]
  have raises : sender.handshake setup loads ⟨now,monotonicNs,later,.refused⟩ = .error .osError := by rw [Sender.handshake]
  refine .unavailable (connects_raised due raises) ?_ ?_ ?_
  · rw [Sender.connect,if_neg (due_attempt due)]
    rfl
  · rw [Sender.safeDial,waits]
    rfl
  · rw [waits]
    rfl

theorem dials_due {peer : Peer} (due : sender.nextReconnect ≤ now) (listens : peer ≠ .refused) :
    sender.dials ⟨now,monotonicNs,later,peer⟩ = true := by
  rw [Sender.dials,decide_eq_true due]
  cases peer with
  | refused => exact absurd rfl listens
  | interrupted written => rfl
  | established reads => rfl

theorem dialed_large {peer : Peer} (due : sender.nextReconnect ≤ now) (listens : peer ≠ .refused)
    (large : encodePacket (sender.hello setup monotonicNs) = none) : Dialed setup loads sender ⟨now,monotonicNs,later,peer⟩ := by
  have raises : sender.handshake setup loads ⟨now,monotonicNs,later,peer⟩ = .error .structError := by
    rw [Sender.handshake,large]
    cases peer with
    | refused => exact absurd rfl listens
    | interrupted written => rfl
    | established reads => rfl
  refine .raised .structError (connects_raised due raises) ?_
  rw [Sender.safeDial,dials_due due listens,encodePacket_none large]
  rfl

theorem dialed_interrupted {written : ℕ} (due : sender.nextReconnect ≤ now)
    (encoded : encodePacket (sender.hello setup monotonicNs) = some bytes) :
    Dialed setup loads sender ⟨now,monotonicNs,later,.interrupted written⟩ := by
  have dials : sender.dials ⟨now,monotonicNs,later,.interrupted written⟩ = true := dials_due due nofun
  have raises : sender.handshake setup loads ⟨now,monotonicNs,later,.interrupted written⟩ = .error .osError := by
    rw [Sender.handshake,encoded]
  refine .unavailable (connects_raised due raises) ?_ ?_ ?_
  · rw [Sender.connect,if_neg (due_attempt due)]
    simp only [Dial.attempt,encoded]
    rfl
  · rw [Sender.safeDial,dials,(encodePacket_some encoded).1]
    rfl
  · rw [dials]
    rfl

theorem dialed_unanswered {exception : Exception} (due : sender.nextReconnect ≤ now)
    (encoded : encodePacket (sender.hello setup monotonicNs) = some bytes)
    (raises : receiveAck loads reads = .error exception) (caught : exception.caught = true)
    (decodes : (Peer.established reads).raises loads = false) (rejects : (Peer.established reads).accepts loads = false) :
    Dialed setup loads sender ⟨now,monotonicNs,later,.established reads⟩ := by
  have dials : sender.dials ⟨now,monotonicNs,later,.established reads⟩ = true := dials_due due nofun
  refine .unavailable ?_ ?_ ?_ ?_
  · rw [connects_raised due ((handshake_established encoded).trans raises),caught]
    rfl
  · rw [Sender.connect,if_neg (due_attempt due)]
    simp only [Dial.attempt,raises,caught,if_true,encoded]
    rfl
  · rw [Sender.safeDial,dials,(encodePacket_some encoded).1,decodes]
    rfl
  · rw [rejects,Bool.and_false]

theorem dialed_established (due : sender.nextReconnect ≤ now)
    (encoded : encodePacket (sender.hello setup monotonicNs) = some bytes) :
    Dialed setup loads sender ⟨now,monotonicNs,later,.established reads⟩ := by
  obtain ⟨silent,exception,raises,caught⟩ | ⟨payload,answer,judges⟩ := receiveAck_cases loads reads
  · refine dialed_unanswered due encoded raises caught ?_ ?_
    · rw [Peer.raises,Peer.acknowledges,silent]
      rfl
    · rw [Peer.accepts,Peer.acknowledges,silent]
      rfl
  · have acknowledges : (Peer.established reads).acknowledges = some payload := answer
    have dials : sender.dials ⟨now,monotonicNs,later,.established reads⟩ = true := dials_due due nofun
    cases read : loads payload with
    | error error =>
      rw [judged,read] at judges
      refine .raised (.decode error) (connects_raised due ((handshake_established encoded).trans judges)) ?_
      rw [Sender.safeDial,dials,Peer.raises,acknowledges,Option.any_some,read,(encodePacket_some encoded).1]
      rfl
    | ok reply =>
      have decodes : (Peer.established reads).raises loads = false := by
        rw [Peer.raises,acknowledges,Option.any_some,read]
        rfl
      rw [judged,read] at judges
      cases reply with
      | other =>
        refine dialed_unanswered due encoded judges rfl decodes ?_
        rw [Peer.accepts,acknowledges,Option.any_some,read]
      | dict accepted =>
        have answers : (Peer.established reads).accepts loads = accepted := by
          rw [Peer.accepts,acknowledges,Option.any_some,read]
        cases accepted with
        | false => exact dialed_unanswered due encoded judges rfl decodes answers
        | true =>
          refine .connected (sender.greeted setup monotonicNs bytes)
            (connects_done due ((handshake_established encoded).trans judges)) ?_ ?_ ?_ ?_
          · rw [Sender.connect,if_neg (due_attempt due)]
            simp only [Dial.attempt,judges,encoded]
          · rw [Sender.connect,if_neg (due_attempt due)]
            simp only [Dial.attempt,judges,encoded]
          · rw [Sender.safeDial,dials,(encodePacket_some encoded).1,decodes]
            rfl
          · rw [dials,answers]
            rfl

end Due

theorem dialed (down : sender.connection = none) (dial : Dial) : Dialed setup loads sender dial := by
  by_cases early : dial.now < sender.nextReconnect
  · exact dialed_early down early
  · obtain ⟨now,monotonicNs,later,peer⟩ := dial
    have due : sender.nextReconnect ≤ now := not_lt.mp early
    cases encoded : encodePacket (sender.hello setup monotonicNs) with
    | none =>
      cases peer with
      | refused => exact dialed_refused due
      | interrupted written => exact dialed_large due nofun encoded
      | established reads => exact dialed_large due nofun encoded
    | some bytes =>
      cases peer with
      | refused => exact dialed_refused due
      | interrupted written => exact dialed_interrupted due encoded
      | established reads => exact dialed_established due encoded

theorem reconnects_down (down : sender.connection = none) : Reconnects setup loads sender := by
  refine ⟨down,fun dial due accepted => ?_⟩
  have result : sender.connects setup loads dial = .ok true := connects_done due accepted
  refine ⟨result,?_⟩
  have outcome : Dialed setup loads sender dial := dialed down dial
  cases outcome with
  | unavailable other => rw [result] at other; cases other
  | connected sent _ up => rw [up]; rfl
  | raised exception other => rw [result] at other; cases other

theorem graceful_error {exception : Exception} {after : Sender} : ¬ Graceful setup loads (.error exception) after := by
  rintro ⟨done,result,_⟩
  cases result

theorem connects_graceful (down : sender.connection = none) (dial : Dial) :
    Graceful setup loads (sender.connects setup loads dial) (sender.connect setup (dial.attempt loads)) ↔
      sender.safeDial setup loads dial = true := by
  have outcome : Dialed setup loads sender dial := dialed down dial
  cases outcome with
  | unavailable result low safe =>
    rw [result]
    exact iff_of_true ⟨false,rfl,fun _ => reconnects_down low⟩ safe
  | connected sent result up sequence safe =>
    rw [result]
    exact iff_of_true ⟨true,rfl,nofun⟩ safe
  | raised exception result harms =>
    rw [result,harms]
    exact iff_of_false graceful_error Bool.false_ne_true

theorem transmits_graceful (sent : Sent) (sending : Sending) :
    Graceful setup loads (sender.transmits sending)
        (sender.transmit sent (sender.packet sending.packetType sending.payload sending.monotonicNs) sending.written) ↔
      (sending.numbered sender.sequence).header.fits = true := by
  rw [show sending.numbered sender.sequence = sender.packet sending.packetType sending.payload sending.monotonicNs from rfl]
  unfold Sender.transmits Sender.transmit
  cases encoded : encodePacket (sender.packet sending.packetType sending.payload sending.monotonicNs) with
  | none =>
    rw [encodePacket_none encoded]
    exact iff_of_false graceful_error Bool.false_ne_true
  | some bytes =>
    refine iff_of_true ?_ (encodePacket_some encoded).1
    cases sending.written with
    | done => exact ⟨true,rfl,nofun⟩
    | interrupted written later => exact ⟨false,rfl,fun _ => reconnects_down rfl⟩

theorem sends_graceful (sender : Sender) (sending : Sending) :
    Graceful setup loads (sender.sends setup loads sending) (sender.afterSend setup loads sending) ↔
      sender.safe setup loads sending = true := by
  unfold Sender.sends Sender.afterSend Sender.send Sender.safe
  cases state : sender.connection with
  | some sent =>
    simp only [Option.isNone_some,Bool.false_eq_true,if_false,state]
    exact transmits_graceful sent sending
  | none =>
    simp only [Option.isNone_none,if_true]
    have outcome : Dialed setup loads sender sending.dial := dialed state sending.dial
    cases outcome with
    | unavailable result low safe idle =>
      rw [result,low,safe,idle]
      exact iff_of_true ⟨false,rfl,fun _ => reconnects_down low⟩ rfl
    | connected sent result up sequence safe answers =>
      rw [result,up,safe,answers,← sequence]
      exact transmits_graceful sent sending
    | raised exception result harms =>
      rw [result,harms]
      exact iff_of_false graceful_error Bool.false_ne_true

theorem safe_raises (down : sender.connection = none) (dials : sender.dials sending.dial = true)
    (raises : sending.dial.peer.raises loads = true) : sender.safe setup loads sending = false := by
  simp only [Sender.safe,down,Sender.safeDial,dials,raises,Bool.not_true,Bool.and_false,Bool.or_false,Bool.false_and]

-- For every peer and every sequence of sends: only a number too large for its header, or an acknowledgement that
-- makes `json.loads` raise, ends the loop.
theorem stream_survives_iff (setup : Setup) (loads : List UInt8 → Except DecodeError Reply) (start : Option Dial)
    (sendings : List Sending) :
    ((∀ dial ∈ start, Graceful setup loads (created.connects setup loads dial) (opened setup loads (some dial))) ∧
      Along (Sender.afterSend setup loads) (fun sender sending => Graceful setup loads (sender.sends setup loads sending)
        (sender.afterSend setup loads sending)) (opened setup loads start) sendings) ↔
    (∀ dial ∈ start, created.safeDial setup loads dial = true) ∧
      Along (Sender.afterSend setup loads) (fun sender sending => sender.safe setup loads sending = true)
        (opened setup loads start) sendings := by
  refine and_congr ?_ (along_congr fun sender sending => sends_graceful sender sending)
  exact forall₂_congr fun dial _ => connects_graceful rfl dial

-- An acknowledgement with an empty payload, of which `json.loads` makes nothing.
def sampleLoads (payload : List UInt8) : Except DecodeError Reply :=
  if payload = ("\x7b\"accepted\":true\x7d".toList.map fun c => UInt8.ofNat c.toNat) then .ok (.dict true)
  else .error .jsonDecodeError

def emptyAcknowledgement : List UInt8 := Header.pack ⟨.helloAck,0,0,0,0,0⟩
def firstSend : Sending :=
  ⟨.healthUpdate,[123,125],20000000000,⟨10000000000,10000000000,15000000000,.established [emptyAcknowledgement]⟩,.done⟩

theorem empty_acknowledgement_raises :
    ¬ Along (Sender.afterSend sampleSetup sampleLoads) (fun sender sending => Graceful sampleSetup sampleLoads
      (sender.sends sampleSetup sampleLoads sending) (sender.afterSend sampleSetup sampleLoads sending))
      (opened sampleSetup sampleLoads none) [firstSend] := by
  have whole : acknowledgement (arrived [emptyAcknowledgement]) = some [] := by decide +kernel
  have raises : (Peer.established [emptyAcknowledgement]).raises sampleLoads = true := by
    rw [Peer.raises,Peer.acknowledges,whole]
    rfl
  have dials : created.dials firstSend.dial = true := by decide
  have harmed : created.safe sampleSetup sampleLoads firstSend = false := safe_raises rfl dials raises
  rintro ⟨graceful,_⟩
  have safe : created.safe sampleSetup sampleLoads firstSend = true := (sends_graceful created firstSend).mp graceful
  rw [harmed] at safe
  cases safe

end Ignis.Delivery
