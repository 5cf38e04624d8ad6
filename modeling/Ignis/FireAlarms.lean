import Ignis.ActiveIncidents
import Ignis.FireCalls

-- From the camera to the phone: what the laptop makes of a fire that the Pi has confirmed, when every
-- packet of its loop has come through.
namespace Ignis.DeviceLink
open Framing Protocol Backend Database DeviceServer EdgeLoop Runs FireIncidents Tables

def Carried (setup : Setup) (holds : DevicePacket → Prop) (system : System) : Prop :=
  ∃ link packets, system.links = [link] ∧ Pending setup system.pi.stream.sequence True link packets ∧
    ∀ packet ∈ underway setup link packets system.pi.calls, holds packet

section Carrying
variable {setup : Setup} {system : System} {holds : DevicePacket → Prop} {connection count : ℕ}

theorem carried_iff : Carried setup holds system ↔ ∃ awaited, Awaits setup system awaited ∧ ∀ packet ∈ awaited, holds packet := by
  constructor
  · intro carried
    obtain ⟨link,packets,links,pending,all⟩ := carried
    exact ⟨_,⟨link,packets,links,pending,rfl⟩,all⟩
  · intro queued
    obtain ⟨awaited,⟨link,packets,links,pending,rfl⟩,all⟩ := queued
    exact ⟨link,packets,links,pending,all⟩

theorem carried_frame {input : FrameInput} (carried : Carried setup holds system)
    (held : ∀ content ∈ contents setup.arguments system.pi input, holds (received setup content input.monotonicNs.1)) :
    Carried setup holds (step setup system (.frame input)) := by
  by_cases turn : (system.pi.running && system.pi.calls.isEmpty) = true
  · obtain ⟨awaited,awaits,all⟩ := carried_iff.mp carried
    refine carried_iff.mpr ⟨_,awaits_frame awaits turn,fun packet member => ?_⟩
    rcases List.mem_append.mp member with before | new
    · exact all packet before
    · obtain ⟨content,there,rfl⟩ := List.mem_map.mp new
      exact held content there
  · rw [frame_idle turn]
    exact carried

theorem carried_proceed (sound : Sound setup system) (carried : Carried setup holds system) (live : Live system) {now : Clock}
    {outcome : Outcome} (still : Live (step setup system (.proceed now outcome))) :
    Carried setup holds (step setup system (.proceed now outcome)) := by
  obtain ⟨awaited,awaits,all⟩ := carried_iff.mp carried
  exact carried_iff.mpr ⟨awaited,awaits_proceed sound awaits live still,all⟩

theorem carried_read (carried : Carried setup holds system) (still : Live (read system connection count)) :
    Carried setup holds (read system connection count) := by
  obtain ⟨awaited,awaits,all⟩ := carried_iff.mp carried
  exact carried_iff.mpr ⟨awaited,awaits_read awaits still,all⟩

theorem carried_handle (configured : Configured setup) (carried : Carried setup holds system) (live : Live system) {now : Time}
    (still : Live (handle setup system connection now)) : Carried setup holds (handle setup system connection now) ∧
      ((handle setup system connection now).app = system.app ∨ ∃ hello packet, holds packet ∧
        dispatch system.app now hello packet = .ok (handle setup system connection now).app) := by
  obtain ⟨awaited,awaits,all⟩ := carried_iff.mp carried
  rcases awaits_handle configured awaits live still with ⟨later,same⟩ | ⟨hello,packet,rest,rfl,later,taken⟩
  · exact ⟨carried_iff.mpr ⟨awaited,later,all⟩,.inl same⟩
  · obtain ⟨first,others⟩ := List.forall_mem_cons.mp all
    exact ⟨carried_iff.mpr ⟨rest,later,others⟩,.inr ⟨hello,packet,first,taken⟩⟩

theorem carried_backend {tick : Tick} (carried : Carried setup holds system) (still : Live (backend setup system tick)) :
    Carried setup holds (backend setup system tick) := by
  obtain ⟨awaited,awaits,all⟩ := carried_iff.mp carried
  exact carried_iff.mpr ⟨awaited,awaits_backend awaits still,all⟩

end Carrying
def Confident (verifier : FireVerifier ℚ) : Prop := visible verifier.state.hazardState = true → verifier.state.confirmed = true

def Asks : DevicePacket → Prop
  | .incidentUpdate data => visible data.hazardState = true → data.responseState = .awaitingResponse
  | _ => True

def Asked (db : Database) : Prop := ∀ incidentId, (hazard db incidentId).any visible = true → response db incidentId ≠ some .idle

section Asking
variable {setup : Setup} {pi : Pi} {input : FrameInput} {verifier : FireVerifier ℚ} {db later : Database} {now : Time}

theorem confident_raised (confident : Confident verifier) (monotonicNs : ℤ) : Confident (verifier.raised monotonicNs) := by
  have opens : Confident (FireVerifier.opened { verifier with
      state := { verifier.state with lastRelevantNs := monotonicNs } } monotonicNs) := by
    unfold FireVerifier.opened
    cases verifier.state.incidentId with
    | none => exact nofun
    | some incidentId => exact confident
  unfold FireVerifier.raised
  generalize FireVerifier.opened _ monotonicNs = next at opens
  intro shows
  dsimp only at shows ⊢
  split at shows
  · rename_i confirms
    rw [confirms,Bool.or_true]
  · split at shows
    · cases shows
    · rw [opens shows,Bool.true_or]

theorem confident_missed (confident : Confident verifier) (monotonicNs : ℤ) : Confident (verifier.missed monotonicNs) := by
  unfold FireVerifier.missed
  dsimp only
  split
  · exact nofun
  · split
    · rename_i lost
      intro _
      rw [Bool.and_eq_true] at lost
      exact lost.1
    · split
      · exact nofun
      · exact confident

theorem confident_update (confident : Confident verifier) (monotonicNs : ℤ) (detections : List (Detection ℚ)) :
    Confident (verifier.update monotonicNs detections) := by
  have seen : Confident (verifier.seen detections) := confident
  unfold FireVerifier.update
  dsimp only
  split
  · exact confident_raised seen monotonicNs
  · split
    · exact confident_missed seen monotonicNs
    · exact seen

theorem contents_asks {content : Content} (confident : Confident (verified pi input)) (well : FrameWellFormed setup pi input)
    (member : content ∈ contents setup.arguments pi input) : Asks (received setup content input.monotonicNs.1) := by
  have facts := well content member
  rw [wellFormed,Bool.and_eq_true] at facts
  have understands := facts.2
  cases packet : received setup content input.monotonicNs.1 with
  | incidentUpdate data =>
    rw [packet] at understands
    cases content with
    | incidentUpdate fields =>
      have same : data.toIncidentFields = fields := by simpa [understood] using understands
      obtain ⟨incidentId,rfl⟩ := update_mem member
      have hazardState : data.hazardState = (verified pi input).state.hazardState := congrArg IncidentFields.hazardState same
      have responseState : data.responseState = if (verified pi input).state.confirmed then .awaitingResponse else .idle :=
        congrArg IncidentFields.responseState same
      intro shows
      rw [hazardState] at shows
      rw [responseState,if_pos (confident shows)]
    | _ => cases understands
  | _ => trivial

theorem asked_upserted {data : IncidentUpdate} {hello : Hello} (asked : Asked db) (asks : Asks (.incidentUpdate data))
    (upserted : db.upsertIncident now data hello.deviceId hello.bootId = some later) : Asked later := by
  let update : DeviceUpdate := ⟨data,hello⟩
  have stored : update.store db now = later := by rw [DeviceUpdate.store,upserted,Option.getD_some]
  have stores : update.storable = true := by
    unfold upsertIncident at upserted
    split at upserted
    · rename_i fits
      exact fits
    · cases upserted
  intro incidentId shows
  rw [hazard_upserted upserted,heard] at shows
  rw [← stored,response_stored stores]
  by_cases own : incidentId = data.incidentId
  · rw [if_pos own,Option.any_some] at shows
    have waits : data.responseState = .awaitingResponse := asks shows
    rw [if_pos own]
    cases response db incidentId with
    | none => simp [update,waits]
    | some before =>
      simp only [update,waits]
      cases before <;> simp [backendResponse]
  · rw [if_neg own] at shows
    rw [if_neg own]
    exact asked incidentId shows

theorem asked_rows (same : rows later = rows db) (asked : Asked db) : Asked later := by
  intro incidentId shows
  rw [hazard_rows same] at shows
  rw [response_rows same]
  exact asked incidentId shows

theorem asked_dispatch {app next : App} {hello : Hello} {packet : DevicePacket} (asked : Asked app.database) (asks : Asks packet)
    (taken : dispatch app now hello packet = .ok next) : Asked next.database := by
  cases packet with
  | incidentUpdate data =>
    simp only [dispatch] at taken
    split at taken
    · cases taken
      exact asked
    · split at taken
      · cases taken
      · rename_i later upserted
        cases taken
        exact asked_upserted asked asks upserted
  | timelineEvent data =>
    have stepped := step_rows demoSettings app ⟨now,.packet hello (.timelineEvent data)⟩
    simp only [Backend.step,taken,orUnchanged] at stepped
    exact asked_rows stepped asked
  | invalidUpdate error =>
    simp only [dispatch] at taken
    split at taken
    · cases taken
      exact asked
    · cases taken
  | malformed error => cases taken
  | unexpected packetType => cases taken
  | _ =>
    cases taken
    exact asked

theorem provider_unidle {status : CallStatus} {r : ResponseState} (maps : responseOfStatus status = some r) : r ≠ .idle := by
  cases status <;> cases maps <;> simp

theorem asked_backend {settings : Communications.Settings} {app : App} {tick : Tick} (asked : Asked app.database)
    (ours : ∀ hello packet, tick.input ≠ .packet hello packet) (unreset : isReset tick.input = false) :
    Asked (Backend.step settings app tick).database := by
  intro incidentId shows
  rw [hazard_step ours unreset] at shows
  have responded := response_responded_step settings app tick incidentId
  generalize response (Backend.step settings app tick).database incidentId = after at responded
  cases responded with
  | kept => exact asked incidentId shows
  | answered responds answer => rcases answer with rfl | rfl <;> simp
  | called calls requested => rcases requested with rfl | rfl <;> simp
  | reported reports found owner maps => simpa using provider_unidle maps
  | device upserts stores own thawed =>
    obtain ⟨_,hello,packet⟩ := upserted_packet upserts
    exact absurd packet (ours hello _)

end Asking
structure Tended (app : App) : Prop where
  orderly : Orderly app
  frozen : FiredFrozen app
  watched : ∀ incidentId, Watched incidentId app

def restarts : Input → Bool
  | .backend ⟨_,.restart⟩ => true
  | _ => false

section Alarms
variable {setup : Setup} {system : System} {input : Input} {inputs : List Input} {incidentId : String}

theorem tended_fresh : Tended fresh :=
  ⟨orderly_launched _,nofun,fun _ waits => absurd waits Bool.false_ne_true⟩

theorem tended_tick {settings : Communications.Settings} {app : App} {tick : Tick} (tended : Tended app)
    (lasts : tick.input ≠ .restart) : Tended (Backend.step settings app tick) :=
  ⟨orderly_step tended.orderly,firedFrozen_step tended.orderly lasts tended.frozen,
    fun incidentId => watched_step tended.orderly tended.frozen lasts (tended.watched incidentId)⟩

theorem app_step (setup : Setup) (system : System) (lasts : restarts input = false) :
    (step setup system input).app = system.app ∨
      ∃ tick, tick.input ≠ .restart ∧ (step setup system input).app = Backend.step setup.communications system.app tick := by
  cases input with
  | frame input => exact .inl rfl
  | proceed now outcome => exact .inl rfl
  | lost connection => exact .inl rfl
  | read connection count =>
    simp only [step,read]
    split
    · exact .inl rfl
    · split <;> exact .inl rfl
  | handle connection now =>
    simp only [step,handle]
    cases queued system connection with
    | none => exact .inl rfl
    | some triple =>
      obtain ⟨link,packet,rest⟩ := triple
      simp only [Handler.handle]
      split
      · exact .inl rfl
      · exact .inl rfl
      · rename_i handler app handled
        split at handled
        · cases handled
          exact .inl rfl
        · split at handled
          · split at handled
            · cases handled
            · cases handled
              exact .inl rfl
          · split at handled
            · cases handled
            · rename_i hello _ _ next taken
              cases handled
              let decoded := setup.decoders.device packet.packetType packet.monotonicNs packet.payload
              refine .inr ⟨⟨now,.packet hello decoded⟩,(fun restart => by cases restart),?_⟩
              exact (congrArg (orUnchanged system.app) taken).symm
  | backend tick =>
    simp only [step,backend]
    split
    · exact .inl rfl
    · rename_i restart
      obtain ⟨now,_⟩ := tick
      simp only at restart
      subst restart
      cases lasts
    · rename_i goes
      exact .inr ⟨tick,goes,rfl⟩

theorem tended_step (tended : Tended system.app) (lasts : restarts input = false) : Tended (step setup system input).app := by
  rcases app_step setup system lasts with same | ⟨tick,goes,same⟩
  · rw [same]
    exact tended
  · rw [same]
    exact tended_tick tended goes

theorem tended_run (tended : Tended system.app) (lasts : ∀ input ∈ inputs, restarts input = false) :
    Tended (run (step setup) system inputs).app :=
  invariant_along (fun system : System => Tended system.app) (fun _ _ lasts tended => tended_step tended lasts) tended (along_inputs lasts)

structure Asking (setup : Setup) (system : System) : Prop where
  followed : Followed setup system
  confident : Confident system.pi.verifier
  carried : Carried setup Asks system
  asked : Asked system.app.database

theorem asking_step (configured : Configured setup) (undisturbed : Undisturbed setup system input) (asking : Asking setup system) :
    Asking setup (step setup system input) := by
  have followed := followed_step configured undisturbed asking.followed
  obtain ⟨well,unreset,live,still⟩ := undisturbed
  obtain ⟨⟨sound,_⟩,confident,carried,asked⟩ := asking
  have steady : isFrame input = false → (step setup system input).pi.verifier = system.pi.verifier := verifier_step
  cases input with
  | frame input =>
    have confirms : Confident (verified system.pi input) := confident_update confident _ _
    refine ⟨followed,?_,carried_frame carried fun content => contents_asks confirms well,asked⟩
    by_cases turn : (system.pi.running && system.pi.calls.isEmpty) = true
    · have parts := turn
      simp only [Bool.and_eq_true,List.isEmpty_iff] at parts
      obtain ⟨_,_,verifier⟩ := iterate_parts setup.arguments system.pi input parts.1 parts.2
      exact (congrArg Confident verifier).mpr confirms
    · rw [frame_idle turn]
      exact confident
  | proceed now outcome => exact ⟨followed,steady rfl ▸ confident,carried_proceed sound carried live still,asked⟩
  | read connection count =>
    refine ⟨followed,steady rfl ▸ confident,carried_read carried still,?_⟩
    exact (congrArg (fun app : App => Asked app.database) read_kept.2).mpr asked
  | handle connection now =>
    obtain ⟨later,same | ⟨hello,packet,asks,taken⟩⟩ := carried_handle configured carried live still
    · exact ⟨followed,steady rfl ▸ confident,later,(congrArg (fun app : App => Asked app.database) same).mpr asked⟩
    · exact ⟨followed,steady rfl ▸ confident,later,asked_dispatch asked asks taken⟩
  | lost connection =>
    obtain ⟨link,packets,links,rest⟩ := carried
    refine ⟨followed,steady rfl ▸ confident,?_,asked⟩
    cases connection with
    | zero => exact absurd still (halt_ends links)
    | succ connection =>
      simp only [step,halt_other links]
      exact ⟨link,packets,links,rest⟩
  | backend tick =>
    refine ⟨followed,steady rfl ▸ confident,carried_backend carried still,?_⟩
    obtain ⟨awaited,awaits,_⟩ := carried_iff.mp carried
    rcases backend_live awaits still with same | ⟨ours,same⟩
    · exact (congrArg (fun system : System => Asked system.app.database) same).mpr asked
    · exact (congrArg (fun system : System => Asked system.app.database) same).mpr (asked_backend asked ours unreset)

end Alarms
end Ignis.DeviceLink
