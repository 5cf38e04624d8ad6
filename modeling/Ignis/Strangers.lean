import Ignis.DeviceRegistry
import Ignis.DeviceRejections
import Ignis.Reassembly

-- A connection on which no HELLO is accepted, among any others.
namespace Ignis.DeviceRegistry
open Runs Tables Protocol Backend DeviceServer Database

-- The right device with the right token, and a boot id or a software version that the devices
-- table cannot store.
def Unstorable (settings : DeviceSettings) (fields : List (String × Json)) : Prop :=
  ∃ bootId protocolVersion softwareVersion deviceToken,
    fields.lookup "device_id" = some (.string settings.expectedDeviceId) ∧ fields.lookup "boot_id" = some bootId ∧
    fields.lookup "protocol_version" = some protocolVersion ∧ fields.lookup "software_version" = some softwareVersion ∧
    fields.lookup "device_token" = some deviceToken ∧ protocolVersion.isOne = true ∧
    compareDigest deviceToken.str settings.deviceToken = some true ∧ (bootId.column = none ∨ softwareVersion.column = none)

def Stranding (settings : DeviceSettings) (decoders : Decoders) (packet : Packet) : Prop :=
  packet.packetType = .hello ∧ ∃ fields, decoders.json packet.payload = .ok fields ∧ Unstorable settings fields

variable {settings : DeviceSettings} {decoders : Decoders} {communications : Communications.Settings}
variable {system next : System} {writer other : ℕ} {handler after : Handler} {packet : Packet} {rest : List Packet} {now : Time}

theorem authenticate_unstorable (fields : List (String × Json)) :
    DeviceServer.authenticate settings fields = .error .databaseError ↔ Unstorable settings fields := by
  unfold DeviceServer.authenticate Unstorable
  split
  · rename_i deviceId bootId protocolVersion softwareVersion deviceToken foundId foundBoot foundVersion foundSoftware foundToken
    simp only [foundId,foundBoot,foundVersion,foundSoftware,foundToken,Option.some.injEq,exists_and_left,exists_eq_left']
    cases protocolVersion.isOne with
    | false => simp
    | true =>
      by_cases expected : deviceId = .string settings.expectedDeviceId
      · cases compareDigest deviceToken.str settings.deviceToken with
        | none => simp [expected]
        | some same =>
          cases same with
          | false => simp [expected]
          | true => cases bootId.column <;> cases softwareVersion.column <;> simp [expected]
      · simp [expected]
  · rename_i missing
    refine iff_of_false (by simp) ?_
    rintro ⟨_,_,_,_,foundId,foundBoot,foundVersion,foundSoftware,foundToken,_⟩
    exact missing _ _ _ _ _ foundId foundBoot foundVersion foundSoftware foundToken

theorem greet_stranding (packet : Packet) :
    greet settings decoders packet = .error .databaseError ↔ Stranding settings decoders packet := by
  unfold greet Stranding
  by_cases hello : packet.packetType = .hello
  · cases read : decoders.json packet.payload with
    | error text => simp [hello]
    | ok fields => simp [hello,authenticate_unstorable]
  · simp [hello]

def Registered (system : System) : Prop :=
  ∀ connection ∈ system.shared.registry.connections.rows, ∃ handler, system.handlers[connection.writer]? = some handler ∧
    (handler.running = true → handler.hello.isSome = true)

structure Moves (writer : ℕ) (handler after : Handler) (system next : System) : Prop where
  handlers : next.handlers = system.handlers.set writer after
  rows : ∀ connection ∈ next.shared.registry.connections.rows,
    connection ∈ system.shared.registry.connections.rows ∨ connection.writer = writer
  settled : after.running = false ∨ after.hello.isSome = true ∨
    (next.shared.registry.connections.rows ⊆ system.shared.registry.connections.rows ∧ after.hello = handler.hello)

theorem running_found (runs : system.running writer = some handler) :
    system.handlers[writer]? = some handler ∧ handler.running = true := by
  simpa [System.running,Option.filter_eq_some_iff] using runs

theorem registered_moves (registered : Registered system) (runs : system.running writer = some handler)
    (moves : Moves writer handler after system next) : Registered next := by
  obtain ⟨found,running⟩ := running_found runs
  have size : writer < system.handlers.length := (List.getElem?_eq_some_iff.mp found).1
  intro connection member
  rw [moves.handlers]
  by_cases own : connection.writer = writer
  · refine ⟨after,by rw [own]; simp [size],fun goes => ?_⟩
    rcases moves.settled with ended | accepted | ⟨rows,same⟩
    · rw [ended] at goes
      cases goes
    · exact accepted
    · obtain ⟨before,there,accepted⟩ := registered connection (rows member)
      rw [own,found] at there
      cases there
      rw [same]
      exact accepted running
  · obtain ⟨before,there,accepted⟩ := registered connection ((moves.rows connection member).resolve_right own)
    exact ⟨before,by rw [List.getElem?_set_ne (Ne.symm own)]; exact there,accepted⟩

theorem leave_rows (shared : Shared) (now : Time) (writer : ℕ) (hello : Option Hello) :
    (shared.leave now writer hello).registry.connections.rows ⊆ shared.registry.connections.rows := by
  cases hello with
  | none => exact List.Subset.refl _
  | some hello =>
    unfold Shared.leave
    split
    · rename_i same
      cases same
    · rename_i same
      cases same
      split
      · exact List.Subset.refl _
      · split
        · exact List.filter_subset_self _
        · exact List.Subset.refl _

theorem register_rows (shared : Shared) (deviceId : String) (writer : ℕ) :
    ∀ connection ∈ (shared.register deviceId writer).registry.connections.rows,
      connection ∈ shared.registry.connections.rows ∨ connection.writer = writer := by
  refine (Table.forall_upsert fun connection member => .inl member).mpr (.inr ?_)
  cases shared.registry.connections.find deviceId with
  | none => rfl
  | some old => rfl

theorem moves_finish (rows : ∀ connection ∈ next.shared.registry.connections.rows,
      connection ∈ system.shared.registry.connections.rows ∨ connection.writer = writer)
    (same : next.handlers = system.handlers) :
    Moves writer handler { after with running := false } system (next.finish now writer after) where
  handlers := by rw [← same]; rfl
  rows connection member := rows connection (leave_rows next.shared now writer after.hello member)
  settled := .inl rfl

theorem moves_put (same : after.hello = handler.hello) (shared : next.shared.registry.connections = system.shared.registry.connections)
    (handlers : next.handlers = system.handlers) : Moves writer handler after system (next.put writer after) where
  handlers := by rw [← handlers]; rfl
  rows connection member := .inl (shared ▸ member)
  settled := .inr (.inr ⟨by rw [← shared]; exact List.Subset.refl _,same⟩)

theorem dispatch_connections {shared changed : Shared} {hello : Hello}
    (called : shared.dispatch decoders now hello packet = .ok changed) :
    changed.registry.connections = shared.registry.connections := by
  unfold Shared.dispatch at called
  split at called
  · cases called
  · split at called <;> cases called <;> rfl

theorem moves_authenticate : ∃ last,
    Moves writer handler last system (system.authenticate settings decoders now writer after packet) := by
  have registers := register_rows system.shared settings.expectedDeviceId writer
  unfold System.authenticate
  split
  · exact ⟨_,moves_finish registers rfl⟩
  · exact ⟨_,moves_finish (fun connection member => .inl member) rfl⟩
  · exact ⟨_,rfl,registers,.inr (.inl rfl)⟩

theorem moves_handle (system : System) (now : Time) (writer : ℕ) (handler : Handler) (packet : Packet) (rest : List Packet) : ∃ last, Moves writer handler last system
    (system.handle settings decoders now writer handler packet rest) := by
  unfold System.handle
  split
  · exact ⟨_,moves_put rfl rfl rfl⟩
  · split
    · exact moves_authenticate
    · split
      · exact ⟨_,moves_finish (fun connection member => .inl member) rfl⟩
      · rename_i changed called
        exact ⟨_,moves_put rfl (dispatch_connections called) rfl⟩

theorem moves_read (system : System) (now : Time) (writer : ℕ) (handler : Handler) (chunk : List UInt8) : ∃ last,
    Moves writer handler last system (system.read now writer handler chunk) := by
  unfold System.read
  split
  · exact ⟨_,moves_finish (fun connection member => .inl member) rfl⟩
  · split
    · exact ⟨_,moves_finish (fun connection member => .inl member) rfl⟩
    · rename_i fed
      refine ⟨_,moves_put ?_ rfl rfl⟩
      unfold Handler.feed at fed
      split at fed
      · cases fed
      · cases fed
        rfl

def concerns (writer : ℕ) : Input → Bool
  | .read other _ _ | .handle other _ | .lost other _ => other = writer
  | .opened | .backend _ => false

theorem step_moves {input : Input} (own : concerns writer input = true) :
    step settings decoders communications system input = system ∨ ∃ handler last, system.running writer = some handler ∧
      Moves writer handler last system (step settings decoders communications system input) := by
  cases input with
  | opened => cases own
  | backend tick => cases own
  | read other chunk now =>
    obtain rfl : other = writer := by simpa [concerns] using own
    cases runs : system.running other with
    | none => exact .inl (by simp [step,runs])
    | some handler =>
      by_cases idle : handler.packets.isEmpty = true
      · obtain ⟨last,moves⟩ := moves_read system now other handler chunk
        exact .inr ⟨handler,last,rfl,by simpa [step,runs,idle] using moves⟩
      · exact .inl (by simp [step,runs,idle])
  | handle other now =>
    obtain rfl : other = writer := by simpa [concerns] using own
    cases runs : system.running other with
    | none => exact .inl (by simp [step,runs])
    | some handler =>
      cases queue : handler.packets with
      | nil => exact .inl (by simp [step,runs,queue])
      | cons packet rest =>
        obtain ⟨last,moves⟩ := moves_handle system now other handler packet rest
        exact .inr ⟨handler,last,rfl,by simpa [step,runs,queue] using moves⟩
  | lost other now =>
    obtain rfl : other = writer := by simpa [concerns] using own
    cases runs : system.running other with
    | none => exact .inl (by simp [step,runs])
    | some handler =>
      have moves : Moves other handler { handler with running := false } system (system.finish now other handler) :=
        moves_finish (fun connection member => .inl member) rfl
      exact .inr ⟨handler,_,rfl,by simpa [step,runs] using moves⟩

theorem backend_kept (communications : Communications.Settings) (system : System) (tick : Tick) : (system.backend communications tick).handlers = system.handlers ∧
    (system.backend communications tick).shared.registry = system.shared.registry ∧
    (system.backend communications tick).dispatched = system.dispatched := by
  unfold System.backend
  split <;> exact ⟨rfl,rfl,rfl⟩

theorem registered_step (registered : Registered system) (input : Input) :
    Registered (step settings decoders communications system input) := by
  have own : ∀ writer, concerns writer input = true → Registered (step settings decoders communications system input) := by
    intro writer own
    rcases step_moves own with same | ⟨handler,last,runs,moves⟩
    · rw [same]
      exact registered
    · exact registered_moves registered runs moves
  cases input with
  | read writer chunk now => exact own writer (by simp [concerns])
  | handle writer now => exact own writer (by simp [concerns])
  | lost writer now => exact own writer (by simp [concerns])
  | opened =>
    intro connection member
    obtain ⟨handler,found,accepted⟩ := registered connection member
    exact ⟨handler,by rw [step,List.getElem?_append_left (List.getElem?_eq_some_iff.mp found).1]; exact found,accepted⟩
  | backend tick =>
    obtain ⟨handlers,registry,_⟩ := backend_kept communications system tick
    intro connection member
    simp only [step] at member ⊢
    rw [registry] at member
    rw [handlers]
    exact registered connection member

def strands (settings : DeviceSettings) (decoders : Decoders) (writer : ℕ) (system : System) : Input → Prop
  | .handle other _ => other = writer ∧ ∃ handler packet rest, system.running writer = some handler ∧
      handler.packets = packet :: rest ∧ handler.lastSequence < packet.sequence ∧ handler.hello = none ∧
      Stranding settings decoders packet
  | _ => False

def Unknown (writer : ℕ) (system : System) : Prop := ∀ handler, system.handlers[writer]? = some handler → handler.hello = none

theorem register_changes (shared : Shared) (deviceId : String)
    (absent : ∀ connection ∈ shared.registry.connections.rows, connection.writer ≠ writer) :
    shared.register deviceId writer ≠ shared := by
  intro same
  have found : (shared.register deviceId writer).registry.connections.find deviceId =
      some (((shared.registry.connections.find deviceId).map fun connection => { connection with writer := writer }).getD
        ⟨deviceId,writer⟩) := by
    rw [Shared.register,Table.find_upsert,if_pos rfl]
  rw [same] at found
  refine absent _ (Table.find_mem found) ?_
  cases shared.registry.connections.find deviceId with
  | none => rfl
  | some old => rfl

theorem absent_unknown (registered : Registered system) (runs : system.running writer = some handler)
    (unknown : handler.hello = none) : ∀ connection ∈ system.shared.registry.connections.rows, connection.writer ≠ writer := by
  rintro connection member rfl
  obtain ⟨found,running⟩ := running_found runs
  obtain ⟨other,there,accepted⟩ := registered connection member
  rw [found] at there
  cases there
  rw [unknown] at accepted
  cases accepted running

theorem authenticate_quiet (registered : Registered system) (runs : system.running writer = some handler)
    (same : after.hello = handler.hello) (unknown : handler.hello = none)
    (still : Unknown writer (system.authenticate settings decoders now writer after packet)) :
    (system.authenticate settings decoders now writer after packet).dispatched = system.dispatched ∧
      ((system.authenticate settings decoders now writer after packet).shared = system.shared ↔
        ¬ Stranding settings decoders packet) := by
  have blank : after.hello = none := same.trans unknown
  have size : writer < system.handlers.length := (List.getElem?_eq_some_iff.mp (running_found runs).1).1
  rw [← greet_stranding]
  unfold System.authenticate at still ⊢
  cases verdict : greet settings decoders packet with
  | ok hello =>
    rw [verdict] at still
    have accepted := still { after with hello := some hello } (by simp [System.put,size])
    cases accepted
  | error error =>
    cases error with
    | databaseError =>
      have changes := register_changes system.shared settings.expectedDeviceId (absent_unknown registered runs unknown)
      refine ⟨rfl,iff_of_false ?_ (not_not_intro rfl)⟩
      simpa [System.finish,blank,Shared.leave] using changes
    | protocolError text => exact ⟨rfl,iff_of_true (by simp [System.finish,blank,Shared.leave]) (by simp)⟩
    | overflow => exact ⟨rfl,iff_of_true (by simp [System.finish,blank,Shared.leave]) (by simp)⟩
    | typeError => exact ⟨rfl,iff_of_true (by simp [System.finish,blank,Shared.leave]) (by simp)⟩

theorem finish_quiet (system : System) (now : Time) (writer : ℕ) (unknown : handler.hello = none) : (system.finish now writer handler).shared = system.shared ∧
    (system.finish now writer handler).dispatched = system.dispatched := by
  simp [System.finish,unknown,Shared.leave]

theorem step_quiet {input : Input} (registered : Registered system) (unknown : Unknown writer system)
    (still : Unknown writer (step settings decoders communications system input)) (own : concerns writer input = true) :
    (step settings decoders communications system input).dispatched = system.dispatched ∧
      ((step settings decoders communications system input).shared = system.shared ↔
        ¬ strands settings decoders writer system input) := by
  cases input with
  | opened => cases own
  | backend tick => cases own
  | read other chunk now =>
    obtain rfl : other = writer := by simpa [concerns] using own
    refine and_comm.mp ?_
    rw [iff_true_right (show ¬ strands settings decoders other system (.read other chunk now) from id),step]
    cases runs : system.running other with
    | none => exact ⟨rfl,rfl⟩
    | some handler =>
      have ends := finish_quiet system now other (unknown handler (running_found runs).1)
      simp only
      split
      · unfold System.read
        split
        · exact ends
        · split
          · exact ends
          · exact ⟨rfl,rfl⟩
      · exact ⟨rfl,rfl⟩
  | lost other now =>
    obtain rfl : other = writer := by simpa [concerns] using own
    refine and_comm.mp ?_
    rw [iff_true_right (show ¬ strands settings decoders other system (.lost other now) from id),step]
    cases runs : system.running other with
    | none => exact ⟨rfl,rfl⟩
    | some handler => exact finish_quiet system now other (unknown handler (running_found runs).1)
  | handle other now =>
    obtain rfl : other = writer := by simpa [concerns] using own
    simp only [step] at still ⊢
    cases runs : system.running other with
    | none => simp [strands,runs]
    | some handler =>
      have blank := unknown handler (running_found runs).1
      simp only [runs] at still ⊢
      cases queue : handler.packets with
      | nil => simp [strands,runs,queue]
      | cons packet rest =>
        simp only [queue,System.handle,blank] at still ⊢
        by_cases late : packet.sequence ≤ handler.lastSequence
        · simp [late,System.put,strands,runs,queue]
        · simp only [if_neg late] at still ⊢
          have guard : strands settings decoders other system (.handle other now) ↔ Stranding settings decoders packet := by
            simp [strands,runs,queue,blank,not_le.mp late]
          rw [guard]
          exact authenticate_quiet registered runs blank.symm blank still

theorem registered_launched (devices : Table DeviceRow.deviceId) (app : App) : Registered (launched devices app) :=
  fun _ member => absurd member List.not_mem_nil

theorem step_dispatched (input : Input) :
    (step settings decoders communications system input).dispatched = system.dispatched ∨
    ∃ other packet, concerns other input = true ∧
      (step settings decoders communications system input).dispatched = system.dispatched ++ [(other,packet)] := by
  have authenticates : ∀ other handler packet now,
      (system.authenticate settings decoders now other handler packet).dispatched = system.dispatched := by
    intro other handler packet now
    unfold System.authenticate
    split <;> rfl
  cases input with
  | opened => exact .inl rfl
  | backend tick => exact .inl (backend_kept communications system tick).2.2
  | lost other now =>
    refine .inl ?_
    simp only [step]
    split <;> rfl
  | read other chunk now =>
    refine .inl ?_
    simp only [step]
    split
    · rfl
    · split
      · unfold System.read
        split
        · rfl
        · split <;> rfl
      · rfl
  | handle other now =>
    simp only [step]
    split
    · exact .inl rfl
    · rename_i handler runs
      cases queue : handler.packets with
      | nil => exact .inl rfl
      | cons packet rest =>
        simp only [System.handle]
        split
        · exact .inl rfl
        · split
          · exact .inl (authenticates ..)
          · refine .inr ⟨other,packet,by simp [concerns],?_⟩
            split <;> rfl

theorem stranger_quiet_iff (settings : DeviceSettings) (decoders : Decoders) (communications : Communications.Settings)
    (devices : Table DeviceRow.deviceId) (app : App) (inputs : List Input) (writer : ℕ)
    (never : Throughout (step settings decoders communications) (Unknown writer) (launched devices app) inputs) :
    ((∀ packet, (writer,packet) ∉ (run (step settings decoders communications) (launched devices app) inputs).dispatched) ∧
      Along (step settings decoders communications) (fun system input => concerns writer input = true →
        (step settings decoders communications system input).shared = system.shared) (launched devices app) inputs) ↔
    Along (step settings decoders communications) (fun system input => ¬ strands settings decoders writer system input)
      (launched devices app) inputs := by
  have state : ∀ earlier input later, inputs = earlier ++ input :: later →
      Registered (run (step settings decoders communications) (launched devices app) earlier) ∧
      Unknown writer (run (step settings decoders communications) (launched devices app) earlier) ∧
      Unknown writer (step settings decoders communications
        (run (step settings decoders communications) (launched devices app) earlier) input) := by
    rintro earlier input later rfl
    refine ⟨invariant Registered (fun _ input registered => registered_step registered input)
      (registered_launched devices app),never earlier (List.prefix_append ..),?_⟩
    have after : Unknown writer (run (step settings decoders communications) (launched devices app) (earlier ++ [input])) :=
      never (earlier ++ [input]) ⟨later,by simp⟩
    rwa [run_snoc] at after
  have handed : ∀ packet, (writer,packet) ∉
      (run (step settings decoders communications) (launched devices app) inputs).dispatched := by
    intro packet
    induction inputs using List.reverseRecOn with
    | nil => exact List.not_mem_nil
    | append_singleton inputs input ih =>
      have before := ih (fun earlier front => never earlier (front.trans (List.prefix_append ..)))
        fun earlier other later split => state earlier other (later ++ [input]) (by simp [split])
      obtain ⟨registered,unknown,still⟩ := state inputs input [] rfl
      rw [run_snoc]
      rcases step_dispatched input with same | ⟨other,called,own,more⟩
      · rwa [same]
      · by_cases mine : other = writer
        · subst mine
          rwa [(step_quiet registered unknown still own).1]
        · rw [more,List.mem_append,List.mem_singleton]
          rintro (early | last)
          · exact before early
          · exact mine (Prod.mk.inj last).1.symm
  rw [and_iff_right handed,along_iff,along_iff]
  refine forall₄_congr fun earlier input later split => ?_
  obtain ⟨registered,unknown,still⟩ := state earlier input later split
  cases own : concerns writer input with
  | true => simpa using (step_quiet registered unknown still own).2
  | false =>
    refine iff_of_true (fun impossible => nomatch impossible) fun stranding => ?_
    cases input with
    | handle other now =>
      rw [concerns,decide_eq_false_iff_not] at own
      exact own stranding.1
    | opened | read | lost | backend => exact stranding

theorem first_packet (decoders : Decoders) (communications : Communications.Settings) (devices : Table DeviceRow.deviceId) (app : App) (now : Time)
    (sendable : packet.Sendable settings.maxPayloadBytes) : ∃ parser,
      run (step settings decoders communications) (launched devices app) [.opened,.read 0 packet.bytes now] =
        ⟨(launched devices app).shared,[⟨parser,none,-1,[packet],true⟩],[]⟩ := by
  have size : (Framing.stream Packet.bytes [packet]).length ≤ settings.maxPayloadBytes + headerSize := by
    have small := sendable.2
    rw [Framing.stream_cons,Framing.stream_nil,List.append_nil,length_bytes]
    omega
  obtain ⟨parser,fed,_,_⟩ := feed_whole (created_sane settings.maxPayloadBytes) rfl
    (fun other member => List.mem_singleton.mp member ▸ sendable) size
  have bytes : Framing.stream Packet.bytes [packet] = packet.bytes := by simp
  rw [bytes] at fed
  have some_ : packet.bytes ≠ [] := List.ne_nil_of_length_pos (by rw [length_bytes,headerSize]; omega)
  refine ⟨parser,?_⟩
  let opened : System := ⟨(launched devices app).shared,[accepted settings],[]⟩
  have runs : opened.running 0 = some (accepted settings) := rfl
  have taken : (accepted settings).feed packet.bytes = .ok ⟨parser,none,-1,[packet],true⟩ := by
    have start : (accepted settings).parser = .created settings.maxPayloadBytes := rfl
    rw [Handler.feed,start,fed]
    rfl
  have begins : step settings decoders communications (launched devices app) .opened = opened := rfl
  rw [run_cons,run_cons,run_nil,begins]
  simp only [step,runs]
  rw [if_pos (show (accepted settings).packets.isEmpty = true from rfl),System.read,if_neg some_,taken]
  rfl

section Attempts
variable {error : DeviceError} {parser : PacketParser} {shared : Shared} {devices : Table DeviceRow.deviceId} {app : App}

theorem takes_up (sequence : 0 < packet.sequence) :
    step settings decoders communications ⟨shared,[⟨parser,none,-1,[packet],true⟩],[]⟩ (.handle 0 now) =
      System.authenticate settings decoders ⟨shared,[⟨parser,none,-1,[packet],true⟩],[]⟩ now 0
        ⟨parser,none,packet.sequence,[],true⟩ packet := by
  have runs : System.running ⟨shared,[⟨parser,none,-1,[packet],true⟩],[]⟩ 0 = some ⟨parser,none,-1,[packet],true⟩ := rfl
  have rises : ¬ (packet.sequence : ℤ) ≤ -1 := by omega
  simp only [step,runs]
  rw [System.handle,if_neg rises]

theorem unknown_single (only : system.handlers = [handler]) (unknown : handler.hello = none) : Unknown 0 system := by
  intro other found
  rw [only] at found
  cases found
  exact unknown

theorem refused_unknown (refused : greet settings decoders packet = .error error) :
    Unknown 0 (System.authenticate settings decoders ⟨shared,[⟨parser,none,-1,[packet],true⟩],[]⟩ now 0
      ⟨parser,none,packet.sequence,[],true⟩ packet) := by
  unfold System.authenticate
  rw [refused]
  cases error <;> exact unknown_single rfl rfl

theorem attempt_unknown (sendable : packet.Sendable settings.maxPayloadBytes) (sequence : 0 < packet.sequence)
    (refused : greet settings decoders packet = .error error) :
    Throughout (step settings decoders communications) (Unknown 0) (launched devices app)
      [.opened,.read 0 packet.bytes now,.handle 0 now] := by
  obtain ⟨parser,read⟩ := first_packet decoders communications devices app now sendable
  rw [run_cons,run_cons,run_nil] at read
  have start : Unknown 0 (launched devices app) := by
    intro handler found
    cases found
  have opened : Unknown 0 (step settings decoders communications (launched devices app) .opened) := by
    intro handler found
    cases found
    rfl
  refine throughout_cons.mpr ⟨start,throughout_cons.mpr ⟨opened,?_⟩⟩
  rw [read]
  refine throughout_cons.mpr ⟨unknown_single rfl rfl,throughout_nil.mpr ?_⟩
  rw [takes_up sequence]
  exact refused_unknown refused

theorem attempt_harmless (sendable : packet.Sendable settings.maxPayloadBytes)
    (refused : greet settings decoders packet = .error error) (other : error ≠ .databaseError) :
    Along (step settings decoders communications) (fun system input => ¬ strands settings decoders 0 system input)
      (launched devices app) [.opened,.read 0 packet.bytes now,.handle 0 now] := by
  obtain ⟨parser,read⟩ := first_packet decoders communications devices app now sendable
  rw [run_cons,run_cons,run_nil] at read
  refine ⟨id,id,?_,trivial⟩
  rw [read]
  rintro ⟨_,handler,taken,rest,runs,queue,_,_,stranding⟩
  cases runs
  cases queue
  rw [← greet_stranding,refused] at stranding
  exact other (Except.error.inj stranding)

theorem authenticate_stranded (stranded : greet settings decoders packet = .error .databaseError) (unknown : handler.hello = none) :
    system.authenticate settings decoders now writer handler packet =
      ⟨system.shared.register settings.expectedDeviceId writer,system.handlers.set writer { handler with running := false },
        system.dispatched⟩ := by
  simp [System.authenticate,stranded,System.finish,unknown,Shared.leave]

theorem attempt_stranded (sendable : packet.Sendable settings.maxPayloadBytes) (sequence : 0 < packet.sequence)
    (stranded : greet settings decoders packet = .error .databaseError) : ∃ parser,
    run (step settings decoders communications) (launched devices app) [.opened,.read 0 packet.bytes now,.handle 0 now] =
      ⟨(launched devices app).shared.register settings.expectedDeviceId 0,[⟨parser,none,packet.sequence,[],false⟩],[]⟩ := by
  obtain ⟨parser,read⟩ := first_packet decoders communications devices app now sendable
  rw [run_cons,run_cons,run_nil] at read
  refine ⟨parser,?_⟩
  rw [run_cons,run_cons,run_cons,run_nil,read,takes_up sequence,authenticate_stranded stranded rfl]
  rfl

theorem register_fresh (deviceId : String) : ((launched devices app).shared.register deviceId 0).registry.connections.find deviceId =
    some ⟨deviceId,0⟩ := by
  rw [Shared.register,Table.find_upsert,if_pos rfl]
  rfl

end Attempts

-- A HELLO with a wrong token, and one with the right token whose boot id is a list.
def helloPayload (bootId : List UInt8) (token : String) : List UInt8 :=
  DeviceLink.object [("device_id",DeviceLink.quoted "ignis-qnxpi-01"),("boot_id",bootId),("protocol_version",DeviceLink.natural 1),
    ("software_version",DeviceLink.quoted "test"),("device_token",DeviceLink.quoted token)]

def helloEntries (bootId : Json) (token : String) : List (String × Json) :=
  [("device_id",.string "ignis-qnxpi-01"),("boot_id",bootId),("protocol_version",.number 1 "1" "1"),
    ("software_version",.string "test"),("device_token",.string token)]

def wrongToken : List UInt8 := helloPayload (DeviceLink.quoted "bad-token") "wrong"
def listedBoot : List UInt8 := helloPayload [91,93] "replace-me"

def strangeDecoders : Decoders where
  json bytes :=
    if bytes = wrongToken then .ok (helloEntries (.string "bad-token") "wrong")
    else if bytes = listedBoot then .ok (helloEntries (.container "[]") "replace-me")
    else .error "invalid JSON payload"
  device _ _ _ := .malformed "invalid JSON payload"

def strangeSettings : DeviceSettings := ⟨"ignis-qnxpi-01","replace-me",2097152⟩

def greetingOf (payload : List UInt8) : Packet := ⟨.hello,0,1,1,payload⟩

def attemptOf (payload : List UInt8) : List Input :=
  [.opened,.read 0 (greetingOf payload).bytes 1000000,.handle 0 1000000]

theorem payloads_small : wrongToken.length ≤ 2097152 ∧ listedBoot.length ≤ 2097152 := by decide +kernel

theorem payloads_differ : listedBoot ≠ wrongToken := by decide +kernel

theorem greeting_sendable {payload : List UInt8} (small : payload.length ≤ 2097152) : (greetingOf payload).Sendable 2097152 :=
  ⟨header_fits (show 0 < 2 ^ 16 by decide) (show payload.length < 2 ^ 32 by omega) (show 1 < 2 ^ 64 by decide)
    (show 1 < 2 ^ 64 by decide),small⟩

theorem read_wrong {bytes : List UInt8} (written : bytes = wrongToken) :
    strangeDecoders.json bytes = .ok (helloEntries (.string "bad-token") "wrong") := if_pos written

theorem read_listed {bytes : List UInt8} (written : bytes = listedBoot) :
    strangeDecoders.json bytes = .ok (helloEntries (.container "[]") "replace-me") := by
  have other : bytes ≠ wrongToken := written ▸ payloads_differ
  exact (if_neg other).trans (if_pos written)

theorem greet_wrong : greet strangeSettings strangeDecoders (greetingOf wrongToken) =
    .error (.protocolError "authentication failed") := by
  have compared : compareDigest "wrong" "replace-me" = some false := by decide +kernel
  have type : ¬ (greetingOf wrongToken).packetType ≠ .hello := fun other => other rfl
  rw [greet,if_neg type,read_wrong (show (greetingOf wrongToken).payload = wrongToken from rfl)]
  simp only [DeviceServer.authenticate,helloEntries,List.lookup_cons,String.reduceBEq,Json.isOne,decide_true,Bool.not_true,
    Bool.false_eq_true,if_false,strangeSettings,ne_eq,not_true_eq_false,Json.str,compared]

theorem stranding_listed : Stranding strangeSettings strangeDecoders (greetingOf listedBoot) := by
  refine ⟨rfl,_,read_listed rfl,.container "[]",.number 1 "1" "1",.string "test",.string "replace-me",?_⟩
  decide +kernel

-- Nothing is done about a HELLO with a wrong token.
theorem wrong_token_quiet :
    let machine := step strangeSettings strangeDecoders Backend.demoSettings
    (∀ packet, (0,packet) ∉ (run machine (launched .empty fresh) (attemptOf wrongToken)).dispatched) ∧
    Along machine (fun system input => concerns 0 input = true → (machine system input).shared = system.shared)
      (launched .empty fresh) (attemptOf wrongToken) := by
  intro machine
  have sendable : (greetingOf wrongToken).Sendable strangeSettings.maxPayloadBytes := greeting_sendable payloads_small.1
  have first : 0 < (greetingOf wrongToken).sequence := Nat.one_pos
  have never : Throughout machine (Unknown 0) (launched .empty fresh) (attemptOf wrongToken) :=
    attempt_unknown sendable first greet_wrong
  refine (stranger_quiet_iff strangeSettings strangeDecoders Backend.demoSettings .empty fresh (attemptOf wrongToken) 0 never).mpr ?_
  exact attempt_harmless sendable greet_wrong (by decide)

-- The HELLO with the list is not accepted either, and leaves its ended connection registered.
theorem listed_boot_registered :
    let machine := step strangeSettings strangeDecoders Backend.demoSettings
    let last := run machine (launched .empty fresh) (attemptOf listedBoot)
    Throughout machine (Unknown 0) (launched .empty fresh) (attemptOf listedBoot) ∧
    (launched .empty fresh).shared.registry.connections.find "ignis-qnxpi-01" = none ∧
    last.shared.registry.connections.find "ignis-qnxpi-01" = some ⟨"ignis-qnxpi-01",0⟩ ∧ last.running 0 = none := by
  intro machine last
  have sendable : (greetingOf listedBoot).Sendable strangeSettings.maxPayloadBytes := greeting_sendable payloads_small.2
  have first : 0 < (greetingOf listedBoot).sequence := Nat.one_pos
  have refused := (greet_stranding _).mpr stranding_listed
  obtain ⟨parser,ends⟩ : ∃ parser, last = ⟨(launched .empty fresh).shared.register "ignis-qnxpi-01" 0,
      [⟨parser,none,(greetingOf listedBoot).sequence,[],false⟩],[]⟩ := attempt_stranded sendable first refused
  refine ⟨attempt_unknown sendable first refused,rfl,?_,?_⟩
  · rw [ends]
    exact register_fresh "ignis-qnxpi-01"
  · rw [ends]
    rfl

end Ignis.DeviceRegistry
