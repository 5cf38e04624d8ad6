import Ignis.Strangers
import Mathlib.Logic.Function.Basic

-- `_authenticate` registers the connection and stores its HELLO before its answer is sent; only after
-- that has the handler a `hello` of its own.
namespace Ignis.DeviceRegistry
open Runs Tables Protocol Backend DeviceServer Database

-- `greeting` has the HELLO of each handler that waits in `_authenticate`.
structure Served where
  system : System
  greeting : ℕ → Option Hello

inductive Moment where
  | link (input : Input)
  | greeted (writer : ℕ)

variable (settings : DeviceSettings) (decoders : Decoders) (communications : Communications.Settings)

-- The HELLO in this packet, if the handler takes it up and both the registry and the devices
-- table take it.
def accepts (handler : Handler) (packet : Packet) : Option Hello :=
  if packet.sequence ≤ handler.lastSequence || handler.hello.isSome then none
  else (greet settings decoders packet).toOption

def Served.handle (served : Served) (now : Time) (writer : ℕ) (handler : Handler) (packet : Packet) (rest : List Packet) : Served :=
  match accepts settings decoders handler packet with
  | none => { served with system := served.system.handle settings decoders now writer handler packet rest }
  | some hello =>
    let shared := (served.system.shared.register settings.expectedDeviceId writer).upsertDevice now hello (helloFields decoders packet)
    { system := System.put { served.system with shared := shared } writer
        { handler with packets := rest, lastSequence := packet.sequence }
      greeting := Function.update served.greeting writer (some hello) }

-- A handler that waits in `_authenticate` neither reads nor handles a packet. It may end
-- there like anywhere else, and `hello` is then still `None` for its `finally`.
def Served.step (served : Served) : Moment → Served
  | .greeted writer =>
    match served.system.running writer,served.greeting writer with
    | some handler,some hello =>
      ⟨served.system.put writer { handler with hello := some hello },Function.update served.greeting writer none⟩
    | _,_ => served
  | .link (.handle writer now) =>
    match served.system.running writer,served.greeting writer with
    | some handler,none =>
      match handler.packets with
      | [] => served
      | packet :: rest => served.handle settings decoders now writer handler packet rest
    | _,_ => served
  | .link (.read writer chunk now) =>
    match served.greeting writer with
    | some _ => served
    | none => { served with system := DeviceRegistry.step settings decoders communications served.system (.read writer chunk now) }
  | .link (.lost writer now) =>
    match served.system.running writer with
    | none => served
    | some handler => ⟨served.system.finish now writer handler,Function.update served.greeting writer none⟩
  | .link input => { served with system := DeviceRegistry.step settings decoders communications served.system input }

def installed (app : App) : Served := ⟨launched .empty app,fun _ => none⟩

def record (shared : Shared) (deviceId : String) : Option (String × Bool) :=
  (shared.devices.find deviceId).map fun row => (row.bootId,row.connected)

def holder (shared : Shared) (deviceId : String) : Option ℕ :=
  (shared.registry.connections.find deviceId).map fun connection => connection.writer

structure RecordsExact (served : Served) : Prop where
  released : ∀ writer handler, served.system.handlers[writer]? = some handler → handler.running = false →
    ∀ connection ∈ served.system.shared.registry.connections.rows, connection.writer ≠ writer
  flagged : (record served.system.shared settings.expectedDeviceId).any (fun stored => stored.2) =
    (holder served.system.shared settings.expectedDeviceId).isSome

-- A HELLO that passes the token check and cannot be stored; the end of a handler that is
-- still greeting and has not been replaced.
def Cleaned (served : Served) : Moment → Prop
  | .link (.handle writer _) => ∀ handler packet rest, served.system.running writer = some handler →
      served.greeting writer = none → handler.packets = packet :: rest → handler.lastSequence < packet.sequence →
      handler.hello = none → ¬ Stranding settings decoders packet
  | .link (.lost writer _) => ∀ handler, served.system.running writer = some handler →
      (served.greeting writer).isSome = true → holder served.system.shared settings.expectedDeviceId ≠ some writer
  | _ => True

variable {settings : DeviceSettings} {decoders : Decoders} {communications : Communications.Settings}
variable {served next : Served} {shared changed : Shared} {writer other : ℕ} {handler after : Handler} {hello : Hello}
variable {packet : Packet} {rest : List Packet} {now : Time} {moment : Moment} {deviceId device : String}

-- The operations on the registry and on the devices table, as the holder of a device and its
-- record show them.
theorem holder_find {connection : DeviceConnection} (found : shared.registry.connections.find deviceId = some connection) :
    holder shared deviceId = some connection.writer := by
  unfold holder
  rw [found]
  rfl

theorem register_holder : holder (shared.register deviceId writer) device =
    if device = deviceId then some writer else holder shared device := by
  unfold holder
  rw [Shared.register,Table.find_upsert]
  by_cases own : device = deviceId
  · rw [if_pos own,if_pos own]
    cases shared.registry.connections.find deviceId with
    | none => rfl
    | some old => rfl
  · rw [if_neg own,if_neg own]

theorem upsertDevice_record (fields : List (String × Json)) : record (shared.upsertDevice now hello fields) device =
    if device = hello.deviceId then some (hello.bootId,true) else record shared device := by
  unfold record
  rw [Shared.upsertDevice,Table.find_upsert]
  by_cases own : device = hello.deviceId
  · rw [if_pos own,if_pos own]
    cases shared.devices.find hello.deviceId with
    | none => rfl
    | some old => rfl
  · rw [if_neg own,if_neg own]

theorem markDeviceDisconnected_record : record (shared.markDeviceDisconnected now hello) device =
    if device = hello.deviceId then (record shared device).map fun stored => (stored.1,stored.2 && stored.1 ≠ hello.bootId)
    else record shared device := by
  unfold record
  rw [Shared.markDeviceDisconnected,Table.find_modify]
  by_cases own : device = hello.deviceId
  · rw [if_pos own,if_pos own,own]
    cases shared.devices.find hello.deviceId with
    | none => rfl
    | some row =>
      by_cases boot : row.bootId = hello.bootId
      · simp [boot]
      · simp [boot]
  · rw [if_neg own,if_neg own]

theorem leave_other (other : holder shared hello.deviceId ≠ some writer) : shared.leave now writer (some hello) = shared := by
  simp only [Shared.leave]
  cases found : shared.registry.connections.find hello.deviceId with
  | none => rfl
  | some current =>
    have replaced : current.writer ≠ writer := by
      intro same
      rw [← same] at other
      exact other (holder_find found)
    exact if_neg replaced

theorem leave_current (now : Time) (current : holder shared hello.deviceId = some writer) :
    holder (shared.leave now writer (some hello)) hello.deviceId = none ∧
    record (shared.leave now writer (some hello)) hello.deviceId =
      (record shared hello.deviceId).map fun stored => (stored.1,stored.2 && stored.1 ≠ hello.bootId) := by
  simp only [Shared.leave]
  unfold holder at current
  cases found : shared.registry.connections.find hello.deviceId with
  | none =>
    rw [found] at current
    cases current
  | some connection =>
    rw [found] at current
    simp only [if_pos (Option.some.inj current)]
    constructor
    · unfold holder
      rw [Shared.markDeviceDisconnected,Table.find_erase,if_pos rfl]
      rfl
    · rw [markDeviceDisconnected_record,if_pos rfl]
      rfl

theorem dispatch_record (called : shared.dispatch decoders now hello packet = .ok changed) :
    record changed device = record shared device := by
  unfold Shared.dispatch at called
  split at called
  · cases called
  · split at called
    · cases called; rfl
    · cases called; rfl
    · cases called
      unfold record
      apply Table.map_find_modify
      · intro row
        rfl
      · intro row
        rfl
    · cases called; rfl

def helloOf (served : Served) (writer : ℕ) (handler : Handler) : Option Hello := handler.hello <|> served.greeting writer

structure Exact (settings : DeviceSettings) (served : Served) : Prop where
  single : ∀ connection ∈ served.system.shared.registry.connections.rows, connection.deviceId = settings.expectedDeviceId
  fresh : ∀ writer, served.system.handlers.length ≤ writer → served.greeting writer = none
  waiting : ∀ writer handler, served.system.running writer = some handler → (served.greeting writer).isSome = true →
    handler.hello = none
  named : ∀ writer handler hello, served.system.running writer = some handler → helloOf served writer handler = some hello →
    hello.deviceId = settings.expectedDeviceId
  held : ∀ writer, holder served.system.shared settings.expectedDeviceId = some writer → ∃ handler hello,
    served.system.running writer = some handler ∧ helloOf served writer handler = some hello ∧
    record served.system.shared settings.expectedDeviceId = some (hello.bootId,true)
  free : holder served.system.shared settings.expectedDeviceId = none →
    (record served.system.shared settings.expectedDeviceId).any (fun stored => stored.2) = false

theorem exact_installed (app : App) : Exact settings (installed app) where
  single connection member := absurd member List.not_mem_nil
  fresh _ _ := rfl
  waiting _ _ _ waits := by cases waits
  named writer handler hello runs := by cases runs
  held writer holds := by cases holds
  free _ := rfl

theorem running_ended (found : served.system.handlers[writer]? = some handler) (ended : handler.running = false) :
    served.system.running writer = none := by
  simp [System.running,found,ended]

theorem exact_holds (exact : Exact settings served) : RecordsExact settings served := by
  refine ⟨?_,?_⟩
  · rintro writer handler found ended connection member rfl
    have own := exact.single connection member
    have holds := holder_find (Table.find_iff.mpr ⟨member,own⟩)
    obtain ⟨_,_,runs,_⟩ := exact.held _ holds
    rw [running_ended found ended] at runs
    cases runs
  · cases holds : holder served.system.shared settings.expectedDeviceId with
    | none => rw [exact.free holds]; rfl
    | some writer =>
      obtain ⟨_,_,_,_,stored⟩ := exact.held writer holds
      rw [stored]
      rfl

theorem stale_breaks (holds : holder served.system.shared deviceId = some writer)
    (found : served.system.handlers[writer]? = some handler) (ended : handler.running = false) :
    ¬ RecordsExact settings served := by
  rintro ⟨released,_⟩
  obtain ⟨connection,registered,rfl⟩ := Option.map_eq_some_iff.mp holds
  exact released _ handler found ended connection (Table.find_mem registered) rfl

structure Put (served next : Served) (writer : ℕ) (handler after : Handler) : Prop where
  runs : served.system.running writer = some handler
  handlers : next.system.handlers = served.system.handlers.set writer after
  greeting : ∀ other, other ≠ writer → next.greeting other = served.greeting other

inductive Turned (settings : DeviceSettings) (decoders : Decoders) (served : Served) (moment : Moment) (next : Served) : Prop where
  | idle (handlers : next.system.handlers = served.system.handlers) (greeting : next.greeting = served.greeting)
      (connections : next.system.shared.registry.connections = served.system.shared.registry.connections)
      (devices : next.system.shared.devices = served.system.shared.devices) (clean : Cleaned settings decoders served moment)
  | opened (handlers : next.system.handlers = served.system.handlers ++ [accepted settings])
      (greeting : next.greeting = served.greeting) (shared : next.system.shared = served.system.shared)
      (clean : Cleaned settings decoders served moment)
  | kept (writer : ℕ) (handler after : Handler) (put : Put served next writer handler after) (running : after.running = true)
      (same : helloOf next writer after = helloOf served writer handler)
      (waits : (next.greeting writer).isSome = true → after.hello = none)
      (connections : next.system.shared.registry.connections = served.system.shared.registry.connections)
      (records : ∀ device, record next.system.shared device = record served.system.shared device)
      (clean : Cleaned settings decoders served moment)
  | registered (writer : ℕ) (handler after : Handler) (hello : Hello) (now : Time) (fields : List (String × Json))
      (put : Put served next writer handler after) (running : after.running = true) (unknown : after.hello = none)
      (greeted : next.greeting writer = some hello) (expected : hello.deviceId = settings.expectedDeviceId)
      (shared : next.system.shared =
        (served.system.shared.register settings.expectedDeviceId writer).upsertDevice now hello fields)
      (clean : Cleaned settings decoders served moment)
  | ended (writer : ℕ) (handler after : Handler) (now : Time) (put : Put served next writer handler after)
      (halted : after.running = false) (shared : next.system.shared = served.system.shared.leave now writer handler.hello)
      (clean : Cleaned settings decoders served moment ↔ ((served.greeting writer).isSome = true →
        holder served.system.shared settings.expectedDeviceId ≠ some writer))
  | stranded (writer : ℕ) (handler after : Handler) (put : Put served next writer handler after) (halted : after.running = false)
      (shared : next.system.shared = served.system.shared.register settings.expectedDeviceId writer)
      (unclean : ¬ Cleaned settings decoders served moment)

theorem put_self (put : Put served next writer handler after) : next.system.handlers[writer]? = some after := by
  have size := (List.getElem?_eq_some_iff.mp (running_found put.runs).1).1
  rw [put.handlers,List.getElem?_set_self size]

theorem put_running (put : Put served next writer handler after) (running : after.running = true) :
    next.system.running writer = some after := by
  simp [System.running,put_self put,running]

theorem put_other (put : Put served next writer handler after) (different : other ≠ writer) :
    next.system.running other = served.system.running other := by
  unfold System.running
  rw [put.handlers,List.getElem?_set_ne (Ne.symm different)]

theorem put_halted (put : Put served next writer handler after) (halted : after.running = false) :
    next.system.running writer = none := running_ended (put_self put) halted

theorem put_cases {last : Handler} (put : Put served next writer handler after) (runs : next.system.running other = some last) :
    (other = writer ∧ last = after) ∨ (other ≠ writer ∧ served.system.running other = some last) := by
  by_cases mine : other = writer
  · subst mine
    obtain ⟨found,_⟩ := running_found runs
    rw [put_self put] at found
    exact .inl ⟨rfl,(Option.some.inj found).symm⟩
  · rw [put_other put mine] at runs
    exact .inr ⟨mine,runs⟩

theorem put_hello (put : Put served next writer handler after) (different : other ≠ writer) (handler : Handler) :
    helloOf next other handler = helloOf served other handler := by
  unfold helloOf
  rw [put.greeting other different]

theorem put_fresh (put : Put served next writer handler after) (exact : Exact settings served) :
    ∀ other, next.system.handlers.length ≤ other → next.greeting other = none := by
  intro other beyond
  have size := (List.getElem?_eq_some_iff.mp (running_found put.runs).1).1
  rw [put.handlers,List.length_set] at beyond
  rw [put.greeting other (by omega)]
  exact exact.fresh other beyond

theorem exact_opened (exact : Exact settings served) (handlers : next.system.handlers = served.system.handlers ++ [accepted settings])
    (greeting : next.greeting = served.greeting) (shared : next.system.shared = served.system.shared) : Exact settings next := by
  have later : ∀ writer handler, next.system.running writer = some handler →
      served.system.running writer = some handler ∨ (writer = served.system.handlers.length ∧ handler.hello = none) := by
    intro writer handler runs
    obtain ⟨found,running⟩ := running_found runs
    rw [handlers] at found
    rcases Nat.lt_or_ge writer served.system.handlers.length with old | new
    · rw [List.getElem?_append_left old] at found
      exact .inl (by simp [System.running,found,running])
    · have size : writer < served.system.handlers.length + 1 := by
        simpa using (List.getElem?_eq_some_iff.mp found).1
      obtain rfl : writer = served.system.handlers.length := by omega
      rw [List.getElem?_concat_length] at found
      cases found
      exact .inr ⟨rfl,rfl⟩
  have earlier : ∀ writer handler, served.system.running writer = some handler → next.system.running writer = some handler := by
    intro writer handler runs
    obtain ⟨found,running⟩ := running_found runs
    simp [System.running,handlers,List.getElem?_append_left (List.getElem?_eq_some_iff.mp found).1,found,running]
  have hellos : ∀ writer handler, helloOf next writer handler = helloOf served writer handler := by
    intro writer handler
    unfold helloOf
    rw [greeting]
  refine ⟨?_,?_,?_,?_,?_,?_⟩
  · rw [shared]
    exact exact.single
  · intro writer beyond
    rw [handlers,List.length_append] at beyond
    rw [greeting]
    exact exact.fresh writer (by omega)
  · intro writer handler runs waits
    rw [greeting] at waits
    rcases later writer handler runs with before | ⟨_,unknown⟩
    · exact exact.waiting writer handler before waits
    · exact unknown
  · intro writer handler hello runs own
    rw [hellos] at own
    rcases later writer handler runs with before | ⟨rfl,unknown⟩
    · exact exact.named writer handler hello before own
    · unfold helloOf at own
      rw [unknown,exact.fresh _ (Nat.le_refl _)] at own
      cases own
  · intro writer holds
    rw [shared] at holds ⊢
    obtain ⟨handler,hello,runs,own,stored⟩ := exact.held writer holds
    exact ⟨handler,hello,earlier writer handler runs,by rw [hellos]; exact own,stored⟩
  · rw [shared]
    exact exact.free

theorem holder_same (connections : next.system.shared.registry.connections = served.system.shared.registry.connections) :
    holder next.system.shared device = holder served.system.shared device := by
  unfold holder
  rw [connections]

theorem exact_kept (exact : Exact settings served) (put : Put served next writer handler after) (running : after.running = true)
    (same : helloOf next writer after = helloOf served writer handler)
    (waits : (next.greeting writer).isSome = true → after.hello = none)
    (connections : next.system.shared.registry.connections = served.system.shared.registry.connections)
    (records : ∀ device, record next.system.shared device = record served.system.shared device) : Exact settings next := by
  have own := put_running put running
  refine ⟨?_,put_fresh put exact,?_,?_,?_,?_⟩
  · rw [connections]
    exact exact.single
  · intro other last runs greets
    rcases put_cases put runs with ⟨rfl,rfl⟩ | ⟨mine,runs⟩
    · exact waits greets
    · rw [put.greeting other mine] at greets
      exact exact.waiting other last runs greets
  · intro other last hello runs goes
    rcases put_cases put runs with ⟨rfl,rfl⟩ | ⟨mine,runs⟩
    · rw [same] at goes
      exact exact.named other handler hello put.runs goes
    · rw [put_hello put mine] at goes
      exact exact.named other last hello runs goes
  · intro other holds
    rw [holder_same connections] at holds
    rw [records]
    obtain ⟨last,hello,runs,goes,stored⟩ := exact.held other holds
    by_cases mine : other = writer
    · subst mine
      rw [put.runs] at runs
      cases runs
      exact ⟨after,hello,own,by rw [same]; exact goes,stored⟩
    · exact ⟨last,hello,by rw [put_other put mine]; exact runs,by rw [put_hello put mine]; exact goes,stored⟩
  · rw [holder_same connections,records]
    exact exact.free

theorem exact_registered {fields : List (String × Json)} (exact : Exact settings served)
    (put : Put served next writer handler after) (running : after.running = true) (unknown : after.hello = none)
    (greeted : next.greeting writer = some hello) (expected : hello.deviceId = settings.expectedDeviceId)
    (shared : next.system.shared =
      (served.system.shared.register settings.expectedDeviceId writer).upsertDevice now hello fields) : Exact settings next := by
  have own := put_running put running
  have goes : helloOf next writer after = some hello := by
    unfold helloOf
    rw [unknown,greeted]
    rfl
  have holds : holder next.system.shared settings.expectedDeviceId = some writer := by
    rw [shared]
    exact register_holder.trans (if_pos rfl)
  have stored : record next.system.shared settings.expectedDeviceId = some (hello.bootId,true) := by
    rw [shared,upsertDevice_record,if_pos expected.symm]
  refine ⟨?_,put_fresh put exact,?_,?_,?_,?_⟩
  · intro connection member
    rw [shared] at member
    refine (Table.forall_upsert exact.single).mpr ?_ connection member
    cases found : served.system.shared.registry.connections.find settings.expectedDeviceId with
    | none => rfl
    | some old =>
      have key := Table.find_key found
      exact key
  · intro other last runs greets
    rcases put_cases put runs with ⟨rfl,rfl⟩ | ⟨mine,runs⟩
    · exact unknown
    · rw [put.greeting other mine] at greets
      exact exact.waiting other last runs greets
  · intro other last introduced runs named
    rcases put_cases put runs with ⟨rfl,rfl⟩ | ⟨mine,runs⟩
    · rw [goes] at named
      cases named
      exact expected
    · rw [put_hello put mine] at named
      exact exact.named other last introduced runs named
  · intro other now_
    rw [holds] at now_
    cases now_
    exact ⟨after,hello,own,goes,stored⟩
  · intro free
    rw [holds] at free
    cases free

theorem holder_hello (exact : Exact settings served) (runs : served.system.running writer = some handler)
    (holds : holder served.system.shared settings.expectedDeviceId = some writer)
    (clean : (served.greeting writer).isSome = true → holder served.system.shared settings.expectedDeviceId ≠ some writer) :
    ∃ hello, handler.hello = some hello ∧ hello.deviceId = settings.expectedDeviceId ∧
      record served.system.shared settings.expectedDeviceId = some (hello.bootId,true) := by
  obtain ⟨_,hello,there,goes,stored⟩ := exact.held writer holds
  rw [runs] at there
  cases there
  refine ⟨hello,?_,exact.named writer handler hello runs goes,stored⟩
  unfold helloOf at goes
  cases greets : served.greeting writer with
  | none => simpa [greets] using goes
  | some greeted => exact absurd holds (clean (by rw [greets]; rfl))

theorem leave_same (exact : Exact settings served) (runs : served.system.running writer = some handler) (now : Time)
    (holds : holder served.system.shared settings.expectedDeviceId ≠ some writer) :
    served.system.shared.leave now writer handler.hello = served.system.shared := by
  cases known : handler.hello with
  | none => rfl
  | some hello =>
    have goes : helloOf served writer handler = some hello := by
      unfold helloOf
      rw [known]
      rfl
    have named := exact.named writer handler hello runs goes
    exact leave_other (named ▸ holds)

theorem exact_ended (exact : Exact settings served) (put : Put served next writer handler after) (halted : after.running = false)
    (shared : next.system.shared = served.system.shared.leave now writer handler.hello)
    (clean : (served.greeting writer).isSome = true → holder served.system.shared settings.expectedDeviceId ≠ some writer) :
    Exact settings next := by
  have others : ∀ other last, next.system.running other = some last → other ≠ writer ∧ served.system.running other = some last := by
    intro other last runs
    rcases put_cases put runs with ⟨rfl,rfl⟩ | kept
    · rw [put_halted put halted] at runs
      cases runs
    · exact kept
  have rows : next.system.shared.registry.connections.rows ⊆ served.system.shared.registry.connections.rows := by
    rw [shared]
    exact leave_rows _ now writer handler.hello
  have waiting : ∀ other last, next.system.running other = some last → (next.greeting other).isSome = true → last.hello = none := by
    intro other last runs greets
    obtain ⟨different,runs⟩ := others other last runs
    rw [put.greeting other different] at greets
    exact exact.waiting other last runs greets
  have named : ∀ other last hello, next.system.running other = some last → helloOf next other last = some hello →
      hello.deviceId = settings.expectedDeviceId := by
    intro other last hello runs goes
    obtain ⟨different,runs⟩ := others other last runs
    rw [put_hello put different] at goes
    exact exact.named other last hello runs goes
  refine ⟨fun connection member => exact.single connection (rows member),put_fresh put exact,waiting,named,?_,?_⟩
  · intro other holding
    by_cases holds : holder served.system.shared settings.expectedDeviceId = some writer
    · obtain ⟨hello,known,expected,_⟩ := holder_hello exact put.runs holds clean
      have left := leave_current now (expected ▸ holds)
      rw [← known,← shared,expected,holding] at left
      cases left.1
    · rw [leave_same exact put.runs now holds] at shared
      rw [shared] at holding ⊢
      have different : other ≠ writer := by
        rintro rfl
        exact holds holding
      obtain ⟨last,hello,runs,goes,stored⟩ := exact.held other holding
      exact ⟨last,hello,by rw [put_other put different]; exact runs,by rw [put_hello put different]; exact goes,stored⟩
  · intro free
    by_cases holds : holder served.system.shared settings.expectedDeviceId = some writer
    · obtain ⟨hello,known,expected,stored⟩ := holder_hello exact put.runs holds clean
      have left := leave_current now (expected ▸ holds)
      rw [← known,← shared,expected,stored] at left
      rw [left.2]
      simp
    · rw [leave_same exact put.runs now holds] at shared
      rw [shared] at free ⊢
      exact exact.free free

theorem exact_idle (exact : Exact settings served) (handlers : next.system.handlers = served.system.handlers)
    (greeting : next.greeting = served.greeting)
    (connections : next.system.shared.registry.connections = served.system.shared.registry.connections)
    (devices : next.system.shared.devices = served.system.shared.devices) : Exact settings next := by
  have running : ∀ writer, next.system.running writer = served.system.running writer := by
    intro writer
    unfold System.running
    rw [handlers]
  have hellos : ∀ writer handler, helloOf next writer handler = helloOf served writer handler := by
    intro writer handler
    unfold helloOf
    rw [greeting]
  have records : ∀ device, record next.system.shared device = record served.system.shared device := by
    intro device
    unfold record
    rw [devices]
  refine ⟨?_,?_,?_,?_,?_,?_⟩
  · rw [connections]
    exact exact.single
  · rw [handlers,greeting]
    exact exact.fresh
  · simp only [running,greeting]
    exact exact.waiting
  · simp only [running,hellos]
    exact exact.named
  · simp only [running,hellos,records,holder_same connections]
    exact exact.held
  · rw [records,holder_same connections]
    exact exact.free

theorem exact_turned (exact : Exact settings served) (turned : Turned settings decoders served moment next)
    (clean : Cleaned settings decoders served moment) : Exact settings next := by
  cases turned with
  | idle handlers greeting connections devices _ => exact exact_idle exact handlers greeting connections devices
  | opened handlers greeting shared _ => exact exact_opened exact handlers greeting shared
  | kept writer handler after put running same waits connections records _ =>
    exact exact_kept exact put running same waits connections records
  | registered writer handler after hello now fields put running unknown greeted expected shared _ =>
    exact exact_registered exact put running unknown greeted expected shared
  | ended writer handler after now put halted shared cleans => exact exact_ended exact put halted shared (cleans.mp clean)
  | stranded writer handler after put halted shared unclean => exact absurd clean unclean

theorem breaks_turned (exact : Exact settings served) (turned : Turned settings decoders served moment next)
    (unclean : ¬ Cleaned settings decoders served moment) : ¬ RecordsExact settings next := by
  cases turned with
  | idle handlers greeting connections devices clean => exact absurd clean unclean
  | opened handlers greeting shared clean => exact absurd clean unclean
  | kept writer handler after put running same waits connections records clean => exact absurd clean unclean
  | registered writer handler after hello now fields put running unknown greeted expected shared clean => exact absurd clean unclean
  | ended writer handler after now put halted shared cleans =>
    obtain ⟨greets,holds⟩ : (served.greeting writer).isSome = true ∧
        holder served.system.shared settings.expectedDeviceId = some writer := by
      simpa [cleans] using unclean
    have unknown := exact.waiting writer handler put.runs greets
    rw [unknown] at shared
    have still : holder next.system.shared settings.expectedDeviceId = some writer := by
      rw [shared]
      exact holds
    exact stale_breaks still (put_self put) halted
  | stranded writer handler after put halted shared _ =>
    have holds : holder next.system.shared settings.expectedDeviceId = some writer := by
      rw [shared]
      exact register_holder.trans (if_pos rfl)
    exact stale_breaks holds (put_self put) halted

theorem accepts_some (accepted : accepts settings decoders handler packet = some hello) :
    handler.lastSequence < packet.sequence ∧ handler.hello = none ∧ greet settings decoders packet = .ok hello := by
  unfold accepts at accepted
  split at accepted
  · cases accepted
  · rename_i awaits
    obtain ⟨rises,unknown⟩ : handler.lastSequence < packet.sequence ∧ handler.hello = none := by simpa using awaits
    cases greets : greet settings decoders packet with
    | error error =>
      rw [greets] at accepted
      cases accepted
    | ok other =>
      rw [greets] at accepted
      exact ⟨rises,unknown,by rw [Option.some.inj accepted]⟩

theorem greet_expected (greets : greet settings decoders packet = .ok hello) : hello.deviceId = settings.expectedDeviceId := by
  unfold greet at greets
  split at greets
  · cases greets
  · split at greets
    · cases greets
    · rename_i fields _
      unfold DeviceServer.authenticate at greets
      repeat' split at greets
      all_goals cases greets
      rfl

theorem cleaned_handle (settings : DeviceSettings) (decoders : Decoders) (now : Time)
    (runs : served.system.running writer = some handler) (idle : served.greeting writer = none)
    (queue : handler.packets = packet :: rest) : Cleaned settings decoders served (.link (.handle writer now)) ↔
      (handler.lastSequence < packet.sequence → handler.hello = none → ¬ Stranding settings decoders packet) := by
  constructor
  · intro clean rises unknown
    exact clean handler packet rest runs idle queue rises unknown
  · rintro clean other taken later there _ head rises unknown
    rw [runs] at there
    cases there
    rw [queue] at head
    cases head
    exact clean rises unknown

theorem turned_finish {last : Handler} (runs : served.system.running writer = some handler) (idle : served.greeting writer = none)
    (same : last.hello = handler.hello) (system : System) (shared : system.shared = served.system.shared)
    (handlers : system.handlers = served.system.handlers) (clean : Cleaned settings decoders served moment) :
    Turned settings decoders served moment { served with system := system.finish now writer last } := by
  refine .ended writer handler { last with running := false } now ⟨runs,?_,fun _ _ => rfl⟩ rfl ?_ (iff_of_true clean ?_)
  · rw [← handlers]
    rfl
  · rw [← same,← shared]
    rfl
  · intro waits
    rw [idle] at waits
    cases waits

theorem turned_put (runs : served.system.running writer = some handler) (idle : served.greeting writer = none)
    (running : after.running = true) (same : after.hello = handler.hello) (system : System)
    (connections : system.shared.registry.connections = served.system.shared.registry.connections)
    (records : ∀ device, record system.shared device = record served.system.shared device)
    (handlers : system.handlers = served.system.handlers) (clean : Cleaned settings decoders served moment) :
    Turned settings decoders served moment { served with system := system.put writer after } := by
  refine .kept writer handler after ⟨runs,?_,fun _ _ => rfl⟩ running ?_ ?_ connections records clean
  · rw [← handlers]
    rfl
  · unfold helloOf
    rw [same]
  · intro waits
    rw [idle] at waits
    cases waits

theorem turned_system (runs : served.system.running writer = some handler) (idle : served.greeting writer = none)
    (queue : handler.packets = packet :: rest) (refused : accepts settings decoders handler packet = none) :
    Turned settings decoders served (.link (.handle writer now))
      { served with system := served.system.handle settings decoders now writer handler packet rest } := by
  have running := (running_found runs).2
  have cleans := cleaned_handle settings decoders now runs idle queue
  unfold System.handle
  split
  · rename_i stale
    have clean := cleans.mpr fun rises => absurd stale (by omega)
    exact turned_put runs idle (by exact running) (by rfl) served.system rfl (fun _ => rfl) rfl clean
  · rename_i rises
    split
    · rename_i unknown
      have unaccepted : ¬ ∃ hello, greet settings decoders packet = .ok hello := by
        rintro ⟨hello,greets⟩
        simp [accepts,show handler.hello = none from unknown,greets,Except.toOption] at refused
        omega
      unfold System.authenticate
      split
      · rename_i stranding
        refine .stranded writer handler _ ⟨runs,rfl,fun _ _ => rfl⟩ rfl ?_ ?_
        · have blank : handler.hello = none := unknown
          simp [System.finish,blank,Shared.leave]
        · rw [cleans]
          intro clean
          exact clean (by omega) unknown ((greet_stranding packet).mp stranding)
      · rename_i error other greets
        have clean := cleans.mpr fun _ _ stranding => by
          rw [(greet_stranding packet).mpr stranding] at greets
          exact other (Except.error.inj greets).symm
        exact turned_finish runs idle (by rfl) served.system rfl rfl clean
      · rename_i hello greets
        exact absurd ⟨hello,greets⟩ unaccepted
    · rename_i hello known
      have clean := cleans.mpr fun _ unknown => by
        have same : handler.hello = some hello := known
        rw [unknown] at same
        cases same
      split
      · exact turned_finish runs idle (by rfl) _ (by rfl) (by rfl) clean
      · rename_i shared called
        refine turned_put runs idle (by exact running) (by rfl) _ ?_ ?_ (by rfl) clean
        · exact dispatch_connections called
        · exact fun _ => dispatch_record called

theorem turned_handle (runs : served.system.running writer = some handler) (idle : served.greeting writer = none)
    (queue : handler.packets = packet :: rest) :
    Turned settings decoders served (.link (.handle writer now)) (served.handle settings decoders now writer handler packet rest) := by
  unfold Served.handle
  cases taken : accepts settings decoders handler packet with
  | none => exact turned_system runs idle queue taken
  | some hello =>
    obtain ⟨_,unknown,greets⟩ := accepts_some taken
    have clean : Cleaned settings decoders served (.link (.handle writer now)) := by
      refine (cleaned_handle settings decoders now runs idle queue).mpr fun _ _ stranding => ?_
      rw [(greet_stranding packet).mpr stranding] at greets
      cases greets
    refine .registered writer handler _ hello now (helloFields decoders packet) ⟨runs,rfl,?_⟩ (running_found runs).2 unknown
      (Function.update_self ..) (greet_expected greets) rfl clean
    intro other different
    exact Function.update_of_ne different _ _

theorem turned_read (chunk : List UInt8) :
    Turned settings decoders served (.link (.read writer chunk now))
      (served.step settings decoders communications (.link (.read writer chunk now))) := by
  have clean : Cleaned settings decoders served (.link (.read writer chunk now)) := trivial
  simp only [Served.step]
  cases greets : served.greeting writer with
  | some hello => exact .idle rfl rfl rfl rfl clean
  | none =>
    simp only [step]
    cases runs : served.system.running writer with
    | none => exact .idle rfl rfl rfl rfl clean
    | some handler =>
      simp only
      split
      · unfold System.read
        split
        · exact turned_finish runs greets (by rfl) served.system rfl rfl clean
        · split
          · exact turned_finish runs greets (by rfl) served.system rfl rfl clean
          · rename_i fed parsed
            unfold Handler.feed at parsed
            split at parsed
            · cases parsed
            · cases parsed
              exact turned_put runs greets (by exact (running_found runs).2) (by rfl) served.system rfl (fun _ => rfl) rfl clean
      · exact .idle rfl rfl rfl rfl clean

theorem turned_lost : Turned settings decoders served (.link (.lost writer now))
    (served.step settings decoders communications (.link (.lost writer now))) := by
  simp only [Served.step]
  cases runs : served.system.running writer with
  | none =>
    refine .idle rfl rfl rfl rfl fun handler there => ?_
    rw [runs] at there
    cases there
  | some handler =>
    refine .ended writer handler { handler with running := false } now ⟨runs,rfl,?_⟩ rfl rfl ?_
    · intro other different
      exact Function.update_of_ne different _ _
    · constructor
      · intro clean
        exact clean handler runs
      · intro clean other _
        exact clean

theorem turned_greeted (exact : Exact settings served) : Turned settings decoders served (.greeted writer)
    (served.step settings decoders communications (.greeted writer)) := by
  simp only [Served.step]
  split
  · rename_i handler hello runs waits
    have unknown := exact.waiting writer handler runs (by rw [waits]; rfl)
    refine .kept writer handler { handler with hello := some hello } ⟨runs,rfl,?_⟩ (running_found runs).2 ?_ ?_ rfl
      (fun _ => rfl) trivial
    · intro other different
      exact Function.update_of_ne different _ _
    · unfold helloOf
      rw [unknown,waits]
      rfl
    · intro greets
      have over_ : Function.update served.greeting writer none writer = none := Function.update_self ..
      simp only [over_] at greets
      cases greets
  · exact .idle rfl rfl rfl rfl trivial

theorem turned_step (exact : Exact settings served) (moment : Moment) : Turned settings decoders served moment
    (served.step settings decoders communications moment) := by
  cases moment with
  | greeted writer => exact turned_greeted exact
  | link input =>
    cases input with
    | opened => exact .opened rfl rfl rfl trivial
    | read writer chunk now => exact turned_read chunk
    | lost writer now => exact turned_lost
    | backend tick =>
      obtain ⟨handlers,registry,_⟩ := backend_kept communications served.system tick
      refine .idle handlers rfl (by simp only [Served.step,step,registry]) ?_ trivial
      simp only [Served.step,step,System.backend]
      split <;> rfl
    | handle writer now =>
      have nothing : Cleaned settings decoders served (.link (.handle writer now)) →
          Turned settings decoders served (.link (.handle writer now)) served := fun clean => .idle rfl rfl rfl rfl clean
      simp only [Served.step]
      split
      · rename_i handler runs greets
        split
        · rename_i queue
          refine nothing fun other packet rest there _ head => ?_
          rw [runs] at there
          cases there
          rw [queue] at head
          cases head
        · rename_i packet rest queue
          exact turned_handle runs greets queue
      · rename_i absent
        refine nothing fun other packet rest there greets => ?_
        exact absurd greets (absent other there)

-- In every run, whatever the settings and the devices.
theorem connection_records_iff (settings : DeviceSettings) (decoders : Decoders) (communications : Communications.Settings)
    (app : App) (moments : List Moment) :
    Throughout (Served.step settings decoders communications) (RecordsExact settings) (installed app) moments ↔
      Along (Served.step settings decoders communications) (Cleaned settings decoders) (installed app) moments := by
  apply throughout_iff_guarded (Exact settings)
  · intro served moment clean exact
    exact exact_turned exact (turned_step exact moment) clean
  · intro served exact
    exact exact_holds exact
  · intro served moment exact unclean
    exact breaks_turned exact (turned_step exact moment) unclean
  · exact exact_installed app

theorem links_served (bytes : List UInt8) (app : App) :
    run (Served.step settings decoders communications) (installed app) [.link .opened,.link (.read 0 bytes now)] =
      ⟨run (step settings decoders communications) (launched .empty app) [.opened,.read 0 bytes now],fun _ => none⟩ := rfl

-- The HELLO whose boot id is a list: its handler has ended, and is still registered.
theorem listed_boot_stale : ¬ Throughout (Served.step strangeSettings strangeDecoders Backend.demoSettings)
    (RecordsExact strangeSettings) (installed fresh) ((attemptOf listedBoot).map .link) := by
  intro all
  have ends := all.last
  have split_ : (attemptOf listedBoot).map Moment.link =
      [.link .opened,.link (.read 0 (greetingOf listedBoot).bytes 1000000)] ++ [.link (.handle 0 1000000)] := rfl
  rw [split_,run_snoc] at ends
  have exact : Exact strangeSettings (run (Served.step strangeSettings strangeDecoders Backend.demoSettings) (installed fresh)
      [.link .opened,.link (.read 0 (greetingOf listedBoot).bytes 1000000)]) :=
    invariant_along (P := Cleaned strangeSettings strangeDecoders) (Exact strangeSettings)
      (fun served moment clean exact => exact_turned exact (turned_step exact moment) clean) (exact_installed fresh)
      ⟨trivial,trivial,trivial⟩
  refine breaks_turned exact (turned_step exact (.link (.handle 0 1000000))) ?_ ends
  have sendable : (greetingOf listedBoot).Sendable strangeSettings.maxPayloadBytes := greeting_sendable payloads_small.2
  obtain ⟨parser,read⟩ := first_packet strangeDecoders Backend.demoSettings .empty fresh 1000000 sendable
  rw [links_served,read]
  intro clean
  exact clean ⟨parser,none,-1,[greetingOf listedBoot],true⟩ (greetingOf listedBoot) [] rfl rfl rfl
    (show (-1 : ℤ) < 1 by decide) rfl stranding_listed

end Ignis.DeviceRegistry
