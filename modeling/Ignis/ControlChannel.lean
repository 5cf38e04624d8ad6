import Ignis.Backend
import Mathlib.Algebra.Group.Nat.Hom

-- What the backend writes to the devices, `device_registry.py`, `put_zones` and `announce_action`,
-- with the row of the configurations table.
namespace Ignis.ControlChannel
open Runs Ignis.Backend
variable {V : Type}

inductive Message (V : Type) where
  | helloAck
  | pong (pingSequence : ℕ)
  | configUpdate (version : ℕ) (value : V)
  | occupantConfirm (incidentId : String) (source : Source)
  | occupantCancel (incidentId : String) (reason : CancelReason) (source : Source)
  | manualReset (incidentId : String) (source : Source)

-- `greeting` while `_authenticate` waits for its answer to be sent, `serving` once the handler
-- has a `hello`, `ended` from its `finally` on.
inductive Phase where
  | fresh | greeting | serving | ended
deriving DecidableEq

structure Line (V : Type) where
  phase : Phase
  closing : Bool
  outboundSequence : ℕ
  written : List (ℕ × Message V)

structure Backend (V : Type) where
  lines : List (Line V)
  current : Option ℕ
  zones : Option (ℕ × V)

-- `send`: what it answers also depends on the drain.
def Line.send (message : Message V) (line : Line V) : Line V :=
  if line.closing then line
  else { line with outboundSequence := line.outboundSequence + 1, written := line.written ++ [(line.outboundSequence,message)] }

def Line.close (line : Line V) : Line V := { line with closing := true }
def Line.enter (phase : Phase) (line : Line V) : Line V := { line with phase := phase }

def Backend.change (backend : Backend V) (writer : ℕ) (f : Line V → Line V) : Backend V :=
  { backend with lines := backend.lines.modify writer f }

def Backend.phase (backend : Backend V) (writer : ℕ) : Option Phase := (backend.lines[writer]?).map Line.phase

def Backend.register (backend : Backend V) (writer : ℕ) : Backend V :=
  match backend.current with
  | none => { backend with current := some writer }
  | some old => if old = writer then backend else { backend.change old Line.close with current := some writer }

def Backend.unregister (backend : Backend V) (writer : ℕ) : Backend V :=
  if backend.current = some writer then { backend with current := none } else backend

def Backend.sendControl (backend : Backend V) (message : Message V) : Backend V :=
  match backend.current with
  | none => backend
  | some writer => backend.change writer (Line.send message)

-- `put_configuration`, which the column's 64 bits bound.
def accepts (zones : Option (ℕ × V)) (version : ℕ) : Bool :=
  zones.all (fun stored => stored.1 < version) && version < 2 ^ 63

inductive Action where
  | confirm (incidentId : String) (source : Source)
  | cancel (incidentId : String) (reason : CancelReason) (source : Source)
  | reset (incidentId : String)

def Action.message : Action → Message V
  | .confirm incidentId source => .occupantConfirm incidentId source
  | .cancel incidentId reason source => .occupantCancel incidentId reason source
  | .reset incidentId => .manualReset incidentId .manual

-- `authenticate` has a HELLO that passes every check; `stored` is whether `upsert_device` can store it.
-- The transport of a connection may begin to close at any time. `announceAction` comes some time
-- after its handler's writes; `expected` is whether the incident is of the expected device.
inductive Input (V : Type) where
  | opened
  | authenticate (writer : ℕ) (stored : Bool)
  | greeted (writer : ℕ)
  | ping (writer : ℕ) (sequence : ℕ)
  | leave (writer : ℕ)
  | close (writer : ℕ)
  | putZones (version : ℕ) (value : V)
  | announceAction (expected : Bool) (action : Action)
  | restart

def Backend.authenticate (backend : Backend V) (writer : ℕ) (stored : Bool) : Backend V :=
  let registered := backend.register writer
  if stored then registered.change writer fun line => (line.enter .greeting).send .helloAck
  else registered.change writer fun line => (line.enter .ended).close

def Backend.restarted (defaults : ℕ × V) (backend : Backend V) : Backend V :=
  { lines := backend.lines.map fun line => (line.enter .ended).close
    current := none
    zones := some (backend.zones.getD defaults) }

def step (defaults : ℕ × V) (backend : Backend V) : Input V → Backend V
  | .opened => { backend with lines := backend.lines ++ [⟨.fresh,false,1,[]⟩] }
  | .authenticate writer stored => if backend.phase writer = some .fresh then backend.authenticate writer stored else backend
  | .greeted writer => if backend.phase writer = some .greeting then backend.change writer (Line.enter .serving) else backend
  | .ping writer sequence => if backend.phase writer = some .serving then backend.sendControl (.pong sequence) else backend
  | .leave writer =>
    if backend.phase writer = some .ended then backend
    else if backend.phase writer = some .serving then (backend.unregister writer).change writer (Line.enter .ended)
    else backend.change writer fun line => (line.enter .ended).close
  | .close writer => backend.change writer Line.close
  | .putZones version value =>
    if accepts backend.zones version then
      Backend.sendControl { backend with zones := some (version,value) } (.configUpdate version value)
    else backend
  | .announceAction expected action => if expected then backend.sendControl action.message else backend
  | .restart => backend.restarted defaults

def launched (defaults : ℕ × V) (zones : Option (ℕ × V)) : Backend V := Backend.restarted defaults ⟨[],none,zones⟩

def stores (backend : Backend V) : Input V → List (ℕ × V)
  | .putZones version value => if accepts backend.zones version then [(version,value)] else []
  | _ => []

def storedBy (defaults : ℕ × V) : Backend V → List (Input V) → List (ℕ × V)
  | _,[] => []
  | backend,input :: rest => stores backend input ++ storedBy defaults (step defaults backend input) rest

def Line.updates (line : Line V) : List (ℕ × V) :=
  line.written.filterMap fun packet => match packet.2 with
    | .configUpdate version value => some (version,value)
    | _ => none

structure Fine (zones : Option (ℕ × V)) (here : Prop) (line : Line V) : Prop where
  numbers : line.written.map Prod.fst = List.range' 1 line.written.length
  next : line.outboundSequence = line.written.length + 1
  headed : line.written = [] ∨ ∃ rest, line.written = (1,.helloAck) :: rest ∧ ∀ packet ∈ rest, packet.2 ≠ .helloAck
  silent : line.phase = .fresh → line.written = [] ∧ ¬ here
  speaks : here → line.closing = true ∨ line.written ≠ []
  aside : ¬ here → line.phase = .greeting ∨ line.phase = .serving → line.closing = true
  rising : line.updates.Pairwise fun a b => a.1 < b.1
  bounded : ∀ update ∈ line.updates, ∃ stored, zones = some stored ∧ update.1 ≤ stored.1

structure Sound (backend : Backend V) : Prop where
  lines : ∀ writer line, backend.lines[writer]? = some line → Fine backend.zones (backend.current = some writer) line
  held : ∀ writer, backend.current = some writer → writer < backend.lines.length

variable {defaults : ℕ × V} {backend : Backend V} {zones : Option (ℕ × V)} {here : Prop} {line : Line V} {writer version : ℕ}
variable {value : V} {stored : ℕ × V} {message : Message V} {input : Input V}

theorem message_ack (action : Action) : (action.message : Message V) ≠ .helloAck := by cases action <;> nofun

theorem message_update (action : Action) (version : ℕ) (value : V) : action.message ≠ .configUpdate version value := by
  cases action <;> nofun

theorem updates_send (line : Line V) (message : Message V) : (line.send message).updates =
    line.updates ++ if line.closing then [] else match message with
      | .configUpdate version value => [(version,value)]
      | _ => [] := by
  unfold Line.send
  split
  · simp
  · cases message <;> simp [Line.updates]

theorem fine_send (fine : Fine zones here line) (speaks : line.closing = true ∨ line.written ≠ [])
    (other : message ≠ .helloAck)
    (newer : ∀ version value, message = .configUpdate version value →
      (∃ stored, zones = some stored ∧ version ≤ stored.1) ∧ ∀ update ∈ line.updates, update.1 < version) :
    Fine zones here (line.send message) := by
  rcases Bool.eq_false_or_eq_true line.closing with closing | closing
  · have same : line.send message = line := if_pos closing
    rw [same]
    exact fine
  have written : (line.send message).written = line.written ++ [(line.outboundSequence,message)] := by
    simp [Line.send,closing]
  have phase : (line.send message).phase = line.phase := by simp [Line.send,closing]
  have nonempty : line.written ≠ [] := speaks.resolve_left (by simp [closing])
  have updates := updates_send line message
  simp only [closing,Bool.false_eq_true,if_false] at updates
  refine ⟨?_,?_,?_,?_,?_,?_,?_,?_⟩
  · rw [written,List.map_append,List.length_append,fine.numbers,fine.next]
    rw [List.length_singleton,List.range'_1_concat,Nat.add_comm 1]
    rfl
  · rw [written]
    simp [Line.send,closing,fine.next]
  · obtain ⟨rest,same,others⟩ := fine.headed.resolve_left nonempty
    refine .inr ⟨rest ++ [(line.outboundSequence,message)],by rw [written,same]; rfl,fun packet member => ?_⟩
    rcases List.mem_append.mp member with early | last
    · exact others packet early
    · rw [List.mem_singleton.mp last]
      exact other
  · rw [phase]
    exact fun fresh => absurd (fine.silent fresh).1 nonempty
  · exact fun _ => .inr (by rw [written]; simp)
  · rw [phase]
    intro gone alive
    exact absurd (fine.aside gone alive) (by simp [closing])
  · rw [updates]
    cases message with
    | configUpdate version value =>
      refine List.pairwise_append.mpr ⟨fine.rising,List.pairwise_singleton _ _,fun update member last behind => ?_⟩
      rw [List.mem_singleton.mp behind]
      exact (newer version value rfl).2 update member
    | _ => simpa using fine.rising
  · rw [updates]
    cases message with
    | configUpdate version value =>
      intro update member
      rcases List.mem_append.mp member with early | last
      · exact fine.bounded update early
      · rw [List.mem_singleton.mp last]
        exact (newer version value rfl).1
    | _ => simpa using fine.bounded

theorem fine_shift {later : Prop} {phase : Phase} {closing : Bool} (fine : Fine zones here line)
    (silent : phase = .fresh → line.written = [] ∧ ¬ later) (speaks : later → closing = true ∨ line.written ≠ [])
    (aside : ¬ later → phase = .greeting ∨ phase = .serving → closing = true) :
    Fine zones later { line with phase := phase, closing := closing } :=
  ⟨fine.numbers,fine.next,fine.headed,silent,speaks,aside,fine.rising,fine.bounded⟩

theorem fine_close (fine : Fine zones here line) : Fine zones here line.close :=
  fine_shift fine fine.silent (fun _ => .inl rfl) fun _ _ => rfl

theorem fine_end {later : Prop} (fine : Fine zones here line) : Fine zones later (line.enter .ended).close := by
  have ended : Fine zones later { line with phase := .ended, closing := true } :=
    fine_shift fine nofun (fun _ => .inl rfl) fun _ _ => rfl
  exact ended

theorem fine_newer {later : Option (ℕ × V)} (fine : Fine zones here line)
    (grows : ∀ stored, zones = some stored → ∃ newer, later = some newer ∧ stored.1 ≤ newer.1) : Fine later here line := by
  refine ⟨fine.numbers,fine.next,fine.headed,fine.silent,fine.speaks,fine.aside,fine.rising,fun update member => ?_⟩
  obtain ⟨stored,same,bounded⟩ := fine.bounded update member
  obtain ⟨newer,found,above⟩ := grows stored same
  exact ⟨newer,found,bounded.trans above⟩

theorem change_line (backend : Backend V) (writer other : ℕ) (f : Line V → Line V) :
    (backend.change writer f).lines[other]? = (backend.lines[other]?).map fun line => if writer = other then f line else line := by
  rw [Backend.change,List.getElem?_modify]
  rfl

theorem sound_change {f : Line V → Line V} (sound : Sound backend)
    (fine : ∀ line, backend.lines[writer]? = some line → Fine backend.zones (backend.current = some writer) (f line)) :
    Sound (backend.change writer f) := by
  refine ⟨fun other line found => ?_,fun other current => ?_⟩
  · rw [change_line] at found
    obtain ⟨before,there,rfl⟩ := Option.map_eq_some_iff.mp found
    split
    · rename_i same
      subst same
      exact fine before there
    · exact sound.lines other before there
  · rw [Backend.change,List.length_modify]
    exact sound.held other current

theorem sound_sendControl (sound : Sound backend) (other : message ≠ .helloAck)
    (newer : ∀ version value, message = .configUpdate version value →
      (∃ stored, backend.zones = some stored ∧ version ≤ stored.1) ∧
        ∀ line ∈ backend.lines, ∀ update ∈ line.updates, update.1 < version) : Sound (backend.sendControl message) := by
  unfold Backend.sendControl
  split
  · exact sound
  · rename_i writer current
    refine sound_change sound fun line found => ?_
    have fine := sound.lines writer line found
    refine fine_send fine (fine.speaks current) other fun version value same => ?_
    obtain ⟨stored,below⟩ := newer version value same
    exact ⟨stored,below line (List.mem_of_getElem? found)⟩

-- The other connection's writer is closed before anything is written to the new one.
theorem register_line (backend : Backend V) (writer other : ℕ) : (backend.register writer).lines[other]? =
    (backend.lines[other]?).map fun line => if backend.current = some other ∧ other ≠ writer then line.close else line := by
  unfold Backend.register
  cases current : backend.current with
  | none => simp
  | some old =>
    simp only [Option.some.injEq]
    split
    · rename_i same
      subst same
      have never : ¬ (old = other ∧ other ≠ old) := fun both => both.2 both.1.symm
      simp only [if_neg never,Option.map_id']
    · rename_i apart
      have both : (old = other ∧ other ≠ writer) ↔ old = other := ⟨And.left,fun same => ⟨same,same ▸ apart⟩⟩
      simp only [both]
      exact change_line backend old other Line.close

theorem register_current (backend : Backend V) (writer : ℕ) : (backend.register writer).current = some writer := by
  unfold Backend.register
  split
  · rfl
  · rename_i old current
    split
    · rename_i same
      rw [current,same]
    · rfl

theorem register_zones (backend : Backend V) (writer : ℕ) : (backend.register writer).zones = backend.zones := by
  unfold Backend.register
  split
  · rfl
  · split <;> rfl

theorem fine_greet (fine : Fine zones here line) (fresh : line.phase = .fresh) :
    Fine zones True ((line.enter .greeting).send .helloAck) := by
  have empty := (fine.silent fresh).1
  have one : line.outboundSequence = 1 := by rw [fine.next,empty]; rfl
  rcases Bool.eq_false_or_eq_true line.closing with closing | closing
  · have same : (line.enter .greeting).send .helloAck = line.enter .greeting := if_pos closing
    rw [same]
    exact fine_shift fine nofun (fun _ => .inl closing) fun _ _ => closing
  · have sent : (line.enter .greeting).send .helloAck = ⟨.greeting,false,2,[(1,.helloAck)]⟩ := by
      simp [Line.send,Line.enter,closing,one,empty]
    rw [sent]
    refine ⟨rfl,rfl,.inr ⟨[],rfl,nofun⟩,nofun,fun _ => .inr (by simp),fun gone => absurd trivial gone,?_,?_⟩
    · exact List.Pairwise.nil
    · exact fun update member => nomatch member

theorem sound_authenticate (sound : Sound backend) (stored : Bool) (fresh : backend.phase writer = some .fresh) :
    Sound (backend.authenticate writer stored) := by
  obtain ⟨line,found,phase⟩ := Option.map_eq_some_iff.mp fresh
  have free : backend.current ≠ some writer := ((sound.lines writer line found).silent phase).2
  have inside : writer < backend.lines.length := (List.getElem?_eq_some_iff.mp found).1
  have own : (backend.register writer).lines[writer]? = some line := by
    rw [register_line,found,Option.map_some,if_neg fun both => both.2 rfl]
  have registered (f : Line V → Line V) (fine : Fine backend.zones True (f line)) :
      Sound ((backend.register writer).change writer f) := by
    refine ⟨fun other after there => ?_,fun other current => ?_⟩
    · have current : (backend.register writer).current = some writer := register_current backend writer
      have zones : (backend.register writer).zones = backend.zones := register_zones backend writer
      rw [change_line] at there
      by_cases same : writer = other
      · subst same
        rw [own,Option.map_some,if_pos rfl] at there
        cases there
        simpa only [Backend.change,current,zones] using fine
      · rw [register_line,Option.map_map] at there
        obtain ⟨before,earlier,rfl⟩ := Option.map_eq_some_iff.mp there
        have before_fine := sound.lines other before earlier
        simp only [Backend.change,current,zones,Function.comp_apply,if_neg same,Option.some.injEq]
        have both : (backend.current = some other ∧ other ≠ writer) ↔ backend.current = some other :=
          ⟨And.left,fun held => ⟨held,Ne.symm same⟩⟩
        simp only [both]
        split
        · rename_i held
          refine fine_shift before_fine ?_ (fun _ => .inl rfl) fun _ _ => rfl
          exact fun fresh => absurd held (before_fine.silent fresh).2
        · rename_i other_held
          refine fine_shift before_fine ?_ (fun here => absurd here same) fun _ alive => before_fine.aside other_held alive
          exact fun fresh => ⟨(before_fine.silent fresh).1,same⟩
    · rw [show ((backend.register writer).change writer f).current = some writer from register_current backend writer] at current
      obtain rfl := Option.some.inj current
      rw [Backend.change,List.length_modify]
      exact (List.getElem?_eq_some_iff.mp own).1
  have fine := sound.lines writer line found
  unfold Backend.authenticate
  cases stored with
  | true => exact registered _ (fine_greet fine phase)
  | false => exact registered _ (fine_end fine)

theorem phase_line {phase : Phase} (at_phase : backend.phase writer = some phase) :
    ∀ line, backend.lines[writer]? = some line → line.phase = phase := by
  intro line found
  rw [Backend.phase,found] at at_phase
  exact Option.some.inj at_phase

theorem sound_leave (sound : Sound backend) : Sound (step defaults backend (.leave writer)) := by
  simp only [step]
  split
  · exact sound
  · split
    · rename_i serving
      have free : (backend.unregister writer).current ≠ some writer := by
        unfold Backend.unregister
        split
        · nofun
        · assumption
      have same {other : ℕ} (apart : writer ≠ other) :
          (backend.unregister writer).current = some other ↔ backend.current = some other := by
        unfold Backend.unregister
        split
        · rename_i held
          simp [held,apart]
        · exact Iff.rfl
      have lines : (backend.unregister writer).lines = backend.lines ∧ (backend.unregister writer).zones = backend.zones := by
        unfold Backend.unregister
        split <;> exact ⟨rfl,rfl⟩
      refine ⟨fun other line found => ?_,fun other current => ?_⟩
      · rw [change_line,lines.1] at found
        obtain ⟨before,there,rfl⟩ := Option.map_eq_some_iff.mp found
        have fine := sound.lines other before there
        rw [Backend.change,lines.2]
        by_cases own : writer = other
        · subst own
          rw [if_pos rfl]
          exact fine_shift fine nofun (fun held => absurd held free) nofun
        · rw [if_neg own,propext (same own)]
          exact fine
      · rw [Backend.change,List.length_modify,lines.1]
        have apart : writer ≠ other := fun same => free (same ▸ current)
        exact sound.held other ((same apart).mp current)
    · exact sound_change sound fun line found => fine_end (sound.lines writer line found)

theorem sound_step (sound : Sound backend) : Sound (step defaults backend input) := by
  cases input with
  | opened =>
    refine ⟨fun writer line found => ?_,fun writer current => ?_⟩
    · simp only [step] at found ⊢
      rcases Nat.lt_or_ge writer backend.lines.length with inside | outside
      · rw [List.getElem?_append_left inside] at found
        exact sound.lines writer line found
      · have free : backend.current ≠ some writer := fun held => absurd (sound.held writer held) (Nat.not_lt.mpr outside)
        rw [List.getElem?_append_right outside,List.getElem?_singleton] at found
        split at found
        · cases found
          exact ⟨rfl,rfl,.inl rfl,fun _ => ⟨rfl,free⟩,fun held => absurd held free,nofun,List.Pairwise.nil,nofun⟩
        · cases found
    · have inside := sound.held writer current
      simp only [step,List.length_append]
      omega
  | authenticate writer stored =>
    simp only [step]
    split
    · rename_i fresh
      exact sound_authenticate sound stored fresh
    · exact sound
  | greeted writer =>
    simp only [step]
    split
    · rename_i greeting
      refine sound_change sound fun line found => ?_
      have fine := sound.lines writer line found
      exact fine_shift fine nofun fine.speaks fun gone _ => fine.aside gone (.inl (phase_line greeting line found))
    · exact sound
  | ping writer sequence =>
    simp only [step]
    split
    · exact sound_sendControl sound nofun nofun
    · exact sound
  | leave writer => exact sound_leave sound
  | close writer => exact sound_change sound fun line found => fine_close (sound.lines writer line found)
  | putZones version value =>
    simp only [step]
    split
    · rename_i accepted
      have above (stored : ℕ × V) (same : backend.zones = some stored) : stored.1 < version := by
        simp only [accepts,same,Option.all_some,Bool.and_eq_true,decide_eq_true_eq] at accepted
        exact accepted.1
      have stored : Sound { backend with zones := some (version,value) } :=
        ⟨fun writer line found => fine_newer (sound.lines writer line found) fun stored same =>
          ⟨(version,value),rfl,(above stored same).le⟩,sound.held⟩
      refine sound_sendControl stored nofun fun other _ same => ?_
      cases same
      refine ⟨⟨_,rfl,le_rfl⟩,fun line member update written => ?_⟩
      obtain ⟨writer,_,rfl⟩ := List.getElem_of_mem member
      obtain ⟨last,found,below⟩ := (sound.lines writer _ (List.getElem?_eq_getElem _)).bounded update written
      exact below.trans_lt (above last found)
    · exact sound
  | announceAction expected action =>
    simp only [step]
    split
    · exact sound_sendControl sound (message_ack action) fun version value same => absurd same (message_update action version value)
    · exact sound
  | restart =>
    refine ⟨fun writer line found => ?_,nofun⟩
    simp only [step,Backend.restarted,List.getElem?_map] at found
    obtain ⟨before,earlier,rfl⟩ := Option.map_eq_some_iff.mp found
    refine fine_newer (fine_end (sound.lines writer before earlier)) fun stored same => ?_
    exact ⟨stored,by simp [step,Backend.restarted,same],le_rfl⟩

theorem sound_launched (defaults : ℕ × V) (zones : Option (ℕ × V)) : Sound (launched defaults zones) :=
  ⟨fun _ _ found => by simp [launched,Backend.restarted] at found,nofun⟩

theorem sound_run (defaults : ℕ × V) (zones : Option (ℕ × V)) (inputs : List (Input V)) :
    Sound (run (step defaults) (launched defaults zones) inputs) :=
  invariant Sound (fun _ _ => sound_step) (sound_launched defaults zones)

theorem sendControl_zones (backend : Backend V) (message : Message V) : (backend.sendControl message).zones = backend.zones := by
  unfold Backend.sendControl
  split <;> rfl

theorem unregister_zones (backend : Backend V) (writer : ℕ) : (backend.unregister writer).zones = backend.zones := by
  unfold Backend.unregister
  split <;> rfl

theorem zones_step (defaults : ℕ × V) (input : Input V) (there : backend.zones = some stored) :
    (step defaults backend input).zones = some ((stores backend input).getLast?.getD stored) ∧
      ∀ update ∈ stores backend input, stored.1 < update.1 := by
  cases input with
  | putZones version value =>
    simp only [step,stores]
    split
    · rename_i accepted
      refine ⟨(sendControl_zones _ _).trans rfl,fun update member => ?_⟩
      rw [List.mem_singleton.mp member]
      simp only [accepts,there,Option.all_some,Bool.and_eq_true,decide_eq_true_eq] at accepted
      exact accepted.1
    · exact ⟨there,nofun⟩
  | authenticate writer stores =>
    refine ⟨?_,nofun⟩
    simp only [step]
    split
    · unfold Backend.authenticate
      split <;> exact (register_zones backend writer).trans there
    · exact there
  | leave writer =>
    refine ⟨?_,nofun⟩
    simp only [step]
    split
    · exact there
    · split
      · exact (unregister_zones backend writer).trans there
      · exact there
  | ping writer sequence =>
    refine ⟨?_,nofun⟩
    simp only [step]
    split
    · exact (sendControl_zones _ _).trans there
    · exact there
  | announceAction expected action =>
    refine ⟨?_,nofun⟩
    simp only [step]
    split
    · exact (sendControl_zones _ _).trans there
    · exact there
  | greeted writer =>
    refine ⟨?_,nofun⟩
    simp only [step]
    split <;> exact there
  | restart => exact ⟨by simp [step,Backend.restarted,there,stores],nofun⟩
  | opened => exact ⟨there,nofun⟩
  | close writer => exact ⟨there,nofun⟩

theorem stores_cases (backend : Backend V) (input : Input V) :
    stores backend input = [] ∨ ∃ update, stores backend input = [update] := by
  unfold stores
  split
  · split
    · exact .inr ⟨_,rfl⟩
    · exact .inl rfl
  · exact .inl rfl

theorem zones_run (defaults : ℕ × V) (inputs : List (Input V)) (there : backend.zones = some stored) :
    (run (step defaults) backend inputs).zones = some ((storedBy defaults backend inputs).getLast?.getD stored) ∧
      (stored :: storedBy defaults backend inputs).Pairwise fun a b => a.1 < b.1 := by
  induction inputs generalizing backend stored with
  | nil => exact ⟨there,List.pairwise_singleton _ _⟩
  | cons input rest ih =>
    obtain ⟨next,above⟩ := zones_step defaults input there
    obtain ⟨last,rises⟩ := ih next
    rw [run_cons,last,storedBy]
    rcases stores_cases backend input with none | ⟨update,one⟩
    · rw [none] at rises ⊢
      exact ⟨rfl,rises⟩
    · rw [one] at above rises ⊢
      refine ⟨by simp [List.getLast?_cons],List.pairwise_cons.mpr ⟨fun later member => ?_,rises⟩⟩
      have first := above update (List.mem_singleton.mpr rfl)
      rcases List.mem_cons.mp member with rfl | behind
      · exact first
      · exact first.trans (List.rel_of_pairwise_cons rises behind)

-- What `next` leaves of a connection that has been introduced: if it is current and open there, it was so
-- before, and has been sent these.
def Hears (backend next : Backend V) (writer : ℕ) (line : Line V) (sent : List (ℕ × V)) : Prop :=
  ∃ after, next.lines[writer]? = some after ∧ after.phase ≠ .fresh ∧
    (next.current = some writer → after.closing = false →
      backend.current = some writer ∧ line.closing = false ∧ after.updates = line.updates ++ sent)

theorem hears_same (found : backend.lines[writer]? = some line) (met : line.phase ≠ .fresh) : Hears backend backend writer line [] :=
  ⟨line,found,met,fun current opened => ⟨current,opened,(List.append_nil _).symm⟩⟩

theorem hears_change {f : Line V → Line V} {next : Backend V} {other : ℕ} (found : backend.lines[writer]? = some line)
    (met : line.phase ≠ .fresh) (lines : next.lines = backend.lines) (current : next.current = some writer → backend.current = some writer)
    (phase : (f line).phase ≠ .fresh) (closing : (f line).closing = false → line.closing = false)
    (updates : (f line).updates = line.updates) : Hears backend (next.change other f) writer line [] := by
  refine ⟨if other = writer then f line else line,?_,?_,fun held opened => ⟨current held,?_,?_⟩⟩
  · rw [change_line,lines,found]
    rfl
  · split <;> assumption
  · split at opened
    · exact closing opened
    · exact opened
  · split
    · rw [updates,List.append_nil]
    · exact (List.append_nil _).symm

theorem unregister_kept (backend : Backend V) (other writer : ℕ) : (backend.unregister other).lines = backend.lines ∧
    ((backend.unregister other).current = some writer → backend.current = some writer) := by
  unfold Backend.unregister
  split
  · exact ⟨rfl,nofun⟩
  · exact ⟨rfl,id⟩

theorem updates_other (line : Line V) (other : ∀ version value, message ≠ .configUpdate version value) :
    (line.send message).updates = line.updates := by
  rw [updates_send]
  split
  · exact List.append_nil _
  · cases message with
    | configUpdate version value => exact absurd rfl (other version value)
    | _ => exact List.append_nil _

theorem send_kept (line : Line V) (message : Message V) :
    (line.send message).phase = line.phase ∧ (line.send message).closing = line.closing := by
  unfold Line.send
  split <;> exact ⟨rfl,rfl⟩

theorem hears_sendControl (found : backend.lines[writer]? = some line) (met : line.phase ≠ .fresh)
    (other : ∀ version value, message ≠ .configUpdate version value) : Hears backend (backend.sendControl message) writer line [] := by
  unfold Backend.sendControl
  split
  · exact hears_same found met
  · obtain ⟨phase,closing⟩ := send_kept line message
    exact hears_change found met rfl id (phase ▸ met) (closing ▸ id) (updates_other line other)

theorem hears_step (defaults : ℕ × V) (input : Input V) (found : backend.lines[writer]? = some line) (met : line.phase ≠ .fresh) :
    Hears backend (step defaults backend input) writer line (stores backend input) := by
  have same := hears_same found met
  cases input with
  | opened =>
    refine ⟨line,?_,met,fun current opened => ⟨current,opened,(List.append_nil _).symm⟩⟩
    exact (List.getElem?_append_left (List.getElem?_eq_some_iff.mp found).1).trans found
  | authenticate other stored =>
    simp only [step]
    split
    · rename_i fresh
      have apart : other ≠ writer := by
        rintro rfl
        exact met (phase_line fresh line found)
      have current (f : Line V → Line V) : ((backend.register other).change other f).current = some other :=
        register_current backend other
      have kept (f : Line V → Line V) : ((backend.register other).change other f).lines[writer]? =
          some (if backend.current = some writer ∧ writer ≠ other then line.close else line) := by
        rw [change_line,register_line,found,Option.map_some,Option.map_some,if_neg apart]
      have phase : (if backend.current = some writer ∧ writer ≠ other then line.close else line).phase ≠ .fresh := by
        split <;> exact met
      have vacuous (f : Line V → Line V) : ((backend.register other).change other f).current ≠ some writer := by
        rw [current]
        exact fun held => apart (Option.some.inj held)
      unfold Backend.authenticate
      cases stored <;> exact ⟨_,kept _,phase,fun held => absurd held (vacuous _)⟩
    · exact same
  | greeted other =>
    simp only [step]
    split
    · exact hears_change found met rfl id nofun id rfl
    · exact same
  | ping other sequence =>
    simp only [step]
    split
    · exact hears_sendControl found met nofun
    · exact same
  | leave other =>
    simp only [step]
    split
    · exact same
    · split
      · obtain ⟨lines,current⟩ := unregister_kept backend other writer
        exact hears_change found met lines current nofun id rfl
      · exact hears_change found met rfl id nofun nofun rfl
  | close other => exact hears_change found met rfl id met nofun rfl
  | announceAction expected action =>
    simp only [step]
    split
    · exact hears_sendControl found met (message_update action)
    · exact same
  | putZones version value =>
    simp only [step,stores]
    split
    · unfold Backend.sendControl
      split
      · rename_i none
        exact ⟨line,found,met,fun current => by cases none.symm.trans current⟩
      · rename_i target current
        refine ⟨if target = writer then line.send (.configUpdate version value) else line,?_,?_,fun held opened => ?_⟩
        · rw [change_line]
          exact congrArg (Option.map _) found
        · split
          · rw [(send_kept line _).1]
            exact met
          · exact met
        · obtain rfl : target = writer := Option.some.inj (current.symm.trans held)
          rw [if_pos rfl,(send_kept line _).2] at opened
          refine ⟨current,opened,?_⟩
          rw [if_pos rfl,updates_send]
          simp [opened]
    · exact same
  | restart =>
    refine ⟨(line.enter .ended).close,?_,nofun,nofun⟩
    simp [step,Backend.restarted,found]

theorem hears_run (defaults : ℕ × V) (inputs : List (Input V)) (found : backend.lines[writer]? = some line)
    (met : line.phase ≠ .fresh) :
    Hears backend (run (step defaults) backend inputs) writer line (storedBy defaults backend inputs) := by
  induction inputs generalizing backend line with
  | nil => exact hears_same found met
  | cons input rest ih =>
    obtain ⟨middle,next,known,before⟩ := hears_step defaults input found met
    obtain ⟨after,last,still,later⟩ := ih next known
    refine ⟨after,last,still,fun current opened => ?_⟩
    obtain ⟨here,willing,updates⟩ := later current opened
    obtain ⟨held,free,sent⟩ := before here willing
    exact ⟨held,free,by rw [updates,sent,List.append_assoc]; rfl⟩

def Line.Open (line : Line V) : Prop := (line.phase = .greeting ∨ line.phase = .serving) ∧ line.closing = false

theorem sound_alone (sound : Sound backend) (found : backend.lines[writer]? = some line) (opened : line.Open) :
    backend.current = some writer := by
  by_contra free
  have closing := (sound.lines writer line found).aside free opened.1
  exact absurd (closing.symm.trans opened.2) nofun

theorem updates_greeted (defaults : ℕ × V) (sound : Sound backend) (fresh : backend.phase writer = some .fresh) :
    ∃ line, (step defaults backend (.authenticate writer true)).lines[writer]? = some line ∧ line.phase ≠ .fresh ∧ line.updates = [] := by
  obtain ⟨line,found,phase⟩ := Option.map_eq_some_iff.mp fresh
  have fine := sound.lines writer line found
  have empty : line.updates = [] := by
    rw [Line.updates,(fine.silent phase).1]
    rfl
  refine ⟨(line.enter .greeting).send .helloAck,?_,?_,?_⟩
  · simp only [step,if_pos fresh,Backend.authenticate,if_true]
    rw [change_line,register_line,found,Option.map_some,Option.map_some,if_pos rfl,if_neg fun both => both.2 rfl]
  · rw [(send_kept _ _).1]
    nofun
  · rw [updates_send,show (line.enter .greeting).updates = line.updates from rfl,empty]
    split <;> rfl

-- Over every run and every restart: what is stored rises in version; a connection reads one HELLO_ACK and then
-- packets without a gap in their numbers; no two are open at once; and the open one has been sent every
-- configuration stored since it was introduced, in that order.
theorem control_exact (defaults : ℕ × V) (zones : Option (ℕ × V)) (inputs : List (Input V)) :
    let start := launched defaults zones
    let backend := run (step defaults) start inputs
    (backend.zones = some ((storedBy defaults start inputs).getLast?.getD (zones.getD defaults)) ∧
      (zones.getD defaults :: storedBy defaults start inputs).Pairwise fun a b => a.1 < b.1) ∧
    (∀ line ∈ backend.lines, line.written.map Prod.fst = List.range' 1 line.written.length ∧
      (line.written = [] ∨ ∃ rest, line.written = (1,.helloAck) :: rest ∧ ∀ packet ∈ rest, packet.2 ≠ .helloAck) ∧
      line.updates.Pairwise fun a b => a.1 < b.1) ∧
    (∀ (a b : ℕ) (one two : Line V), backend.lines[a]? = some one → backend.lines[b]? = some two → one.Open → two.Open → a = b) ∧
    ∀ (earlier : List (Input V)) (writer : ℕ) (later : List (Input V)), inputs = earlier ++ .authenticate writer true :: later →
      (run (step defaults) start earlier).phase writer = some .fresh →
      ∀ line : Line V, backend.lines[writer]? = some line → line.Open →
        line.updates = storedBy defaults (run (step defaults) start (earlier ++ [.authenticate writer true])) later ∧
          (line.updates ≠ [] → backend.zones = line.updates.getLast?) := by
  intro start backend
  have sound : Sound backend := sound_run defaults zones inputs
  have began : start.zones = some (zones.getD defaults) := rfl
  refine ⟨zones_run defaults inputs began,?_,?_,?_⟩
  · intro line member
    obtain ⟨writer,inside,rfl⟩ := List.getElem_of_mem member
    have fine := sound.lines writer _ (List.getElem?_eq_getElem inside)
    exact ⟨fine.numbers,fine.headed,fine.rising⟩
  · intro a b one two first second opened willing
    have here := sound_alone sound first opened
    rw [sound_alone sound second willing] at here
    exact (Option.some.inj here).symm
  · rintro earlier writer later rfl fresh line found opened
    have current := sound_alone sound found opened
    have ends : backend = run (step defaults) (run (step defaults) start (earlier ++ [.authenticate writer true])) later := by
      rw [← run_append,List.append_assoc]
      rfl
    have zoned := (zones_run defaults (earlier ++ [.authenticate writer true]) began).1
    obtain ⟨greeted,there,met,none⟩ := updates_greeted defaults (sound_run defaults zones earlier) fresh
    have joined : step defaults (run (step defaults) start earlier) (.authenticate writer true) =
        run (step defaults) start (earlier ++ [.authenticate writer true]) := run_snoc.symm
    rw [joined] at there
    obtain ⟨after,last,_,hears⟩ := hears_run defaults later there met
    rw [← ends] at last hears
    obtain rfl : line = after := Option.some.inj (found.symm.trans last)
    have updates := (hears current opened.2).2.2
    rw [none,List.nil_append] at updates
    refine ⟨updates,fun some => ?_⟩
    have row := (zones_run defaults later zoned).1
    rw [← ends,← updates] at row
    rw [row,List.getLast?_eq_some_getLast some]
    rfl

end Ignis.ControlChannel
