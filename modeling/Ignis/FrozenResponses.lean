import Ignis.Redelivery
import Ignis.Responses

-- The device writes a response while it is idle or awaits an answer; after that only the backend does.
namespace Ignis.Backend
open Tables Database Communications Escalation

variable {settings : Settings} {app : App} {tick : Tick} {db : Database} {now : Time} {incidentId : String}

def Frozen (db : Database) (incidentId : String) : Prop := (response db incidentId).any backendResponse = true

instance decidableFrozen (db : Database) (incidentId : String) : Decidable (Frozen db incidentId) :=
  inferInstanceAs (Decidable (_ = true))

theorem response_stored {update : DeviceUpdate} (stores : update.storable = true) :
    response (update.store db now) incidentId =
      if incidentId = update.data.incidentId then
        some (match response db incidentId with
          | none => update.data.responseState
          | some stored => if backendResponse stored then stored else update.data.responseState)
      else response db incidentId := by
  rw [response,store_getIncident stores]
  split
  · unfold response
    cases db.getIncident incidentId <;> rfl
  · rfl

inductive Responded (settings : Settings) (app : App) (tick : Tick) (incidentId : String) : Option ResponseState → Prop where
  | kept : Responded settings app tick incidentId (response app.database incidentId)
  | answered {r : ResponseState} {occupantResponse : Option String}
      (responds : effect settings app tick = .responded incidentId r occupantResponse none)
      (answer : r = .escalating ∨ r = .cancelled) : Responded settings app tick incidentId (some r)
  | called {r : ResponseState} (calls : effect settings app tick = .called incidentId)
      (requested : r = .callRequested ∨ r = .callInitiated) : Responded settings app tick incidentId (some r)
  | reported {r : ResponseState} {attempt : CallAttempt} {report : Report}
      (reports : effect settings app tick = .reported attempt.id report)
      (found : app.database.callAttempts.find attempt.id = some attempt) (owner : attempt.incidentId = incidentId)
      (maps : responseOfStatus report.status = some r) : Responded settings app tick incidentId (some r)
  | device {update : DeviceUpdate}
      (upserts : effect settings app tick = .upserted update.data update.hello.deviceId update.hello.bootId)
      (stores : update.storable = true) (own : update.data.incidentId = incidentId)
      (thawed : ¬ Frozen app.database incidentId) : Responded settings app tick incidentId (some update.data.responseState)

theorem upserted_packet {data : IncidentUpdate} {deviceId bootId : String}
    (upserts : effect settings app tick = .upserted data deviceId bootId) :
    app.armed = true ∧ ∃ hello, tick.input = .packet hello (.incidentUpdate data) := by
  have caused := effect_caused settings app tick
  rw [upserts] at caused
  cases caused with
  | update armed => exact ⟨armed,_,rfl⟩

theorem response_responded_step (settings : Settings) (app : App) (tick : Tick) (incidentId : String) :
    Responded settings app tick incidentId (response (step settings app tick).database incidentId) := by
  have caused := effect_caused settings app tick
  have kept : ∀ {r}, r = response app.database incidentId → Responded settings app tick incidentId r := by
    rintro r rfl
    exact .kept
  rw [response_step]
  cases same : effect settings app tick with
  | nothing => exact .kept
  | upserted data deviceId bootId =>
    let update : DeviceUpdate := ⟨data,deviceId,bootId⟩
    have after : (Effect.upserted data deviceId bootId).apply settings app.database tick.now =
        update.store app.database tick.now := rfl
    rw [after]
    cases stores : update.storable with
    | false =>
      rw [store_unstorable stores]
      exact .kept
    | true =>
      rw [response_stored stores]
      split
      · rename_i own
        cases before : response app.database incidentId with
        | none =>
          refine .device same stores own.symm ?_
          rw [Frozen,before]
          simp
        | some r =>
          dsimp only
          split
          · exact kept before.symm
          · rename_i thawed
            refine .device same stores own.symm ?_
            rw [Frozen,before]
            exact thawed
      · exact .kept
  | responded target r occupantResponse hazardState =>
    rw [response_responded]
    split
    · rename_i own
      subst own
      rw [same] at caused
      cases stored : response app.database incidentId with
      | none => exact kept stored.symm
      | some old =>
        rw [Option.map_some]
        cases caused with
        | confirm found guard => exact .answered same (.inl rfl)
        | cancel found guard => exact .answered same (.inr rfl)
        | wake runs found guard => exact .answered same (.inl rfl)
        | reset found guard => exact kept (response_found found).symm
    · exact .kept
  | called target =>
    obtain ⟨r,provider,after⟩ := response_called settings app.database tick.now target
    rw [after]
    split
    · rename_i own
      subst own
      cases stored : response app.database incidentId with
      | none => exact kept stored.symm
      | some old => exact .called same provider
    · exact .kept
  | reported attemptId report =>
    obtain ⟨attempt,r,found,maps,_,after⟩ | ⟨_,unchanged⟩ :=
      reported_cases settings app.database tick.now attemptId report
    · rw [after]
      obtain rfl : attempt.id = attemptId := Table.find_key found
      split
      · rename_i own
        cases stored : response app.database incidentId with
        | none => exact kept stored.symm
        | some old => exact .reported same found own.symm maps
      · exact .kept
    · rw [unchanged]
      exact .kept

theorem thawed_step {update : DeviceUpdate}
    (upserts : effect settings app tick = .upserted update.data update.hello.deviceId update.hello.bootId)
    (stores : update.storable = true) (thawed : ¬ Frozen app.database update.data.incidentId) :
    response (step settings app tick).database update.data.incidentId = some update.data.responseState := by
  have after : response (update.store app.database tick.now) update.data.incidentId = some update.data.responseState := by
    rw [response_stored stores,if_pos rfl]
    cases before : response app.database update.data.incidentId with
    | none => rfl
    | some r =>
      rw [Frozen,before,Option.any_some] at thawed
      dsimp only
      rw [if_neg thawed]
  rw [response_step,upserts]
  exact after

theorem frozen_responded {r : Option ResponseState} (responded : Responded settings app tick incidentId r)
    (frozen : Frozen app.database incidentId) : r.any backendResponse = true := by
  cases responded with
  | kept => exact frozen
  | answered _ answer => rcases answer with rfl | rfl <;> rfl
  | called _ requested => rcases requested with rfl | rfl <;> rfl
  | reported _ _ _ maps => exact status_answers maps
  | device _ _ _ thawed => exact absurd frozen thawed

theorem frozen_step (frozen : Frozen app.database incidentId) : Frozen (step settings app tick).database incidentId :=
  frozen_responded (response_responded_step settings app tick incidentId) frozen

end Ignis.Backend
