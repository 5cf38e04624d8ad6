import Ignis.Database

-- The calls of `communications.py`: who may be called and when, and what becomes of a call whose
-- provider answers.
namespace Ignis.Communications
open Database

inductive CallProvider where
  | elevenlabs | mock
deriving DecidableEq, Repr

structure Settings where
  elevenlabsApiKey : String
  dispatchAgentId : String
  phoneNumberId : String
  demoCallsEnabled : Bool
  demoDispatchNumber : String
  demoAllowedNumbers : List String
  globalCallCooldownSeconds : ℕ
  maxCallsPerIncident : ℕ
  callProvider : CallProvider
  providerWebhookSecret : String

structure CommunicationError where
  code : String
  statusCode : ℕ
deriving DecidableEq, Repr

-- The zeros of Unicode's decimal digits, which `\d` accepts in a `str` pattern.
def decimalZeros : List ℕ :=
  [0x30,0x660,0x6f0,0x7c0,0x966,0x9e6,0xa66,0xae6,0xb66,0xbe6,0xc66,0xce6,0xd66,0xde6,0xe50,0xed0,0xf20,
   0x1040,0x1090,0x17e0,0x1810,0x1946,0x19d0,0x1a80,0x1a90,0x1b50,0x1bb0,0x1c40,0x1c50,
   0xa620,0xa8d0,0xa900,0xa9d0,0xa9f0,0xaa50,0xabf0,0xff10,0x104a0,0x10d30,0x11066,0x110f0,0x11136,
   0x111d0,0x112f0,0x11450,0x114d0,0x11650,0x116c0,0x11730,0x118e0,0x11950,0x11c50,0x11d50,0x11da0,
   0x11f50,0x16a60,0x16ac0,0x16b50,0x1d7ce,0x1d7d8,0x1d7e2,0x1d7ec,0x1d7f6,0x1e140,0x1e2f0,0x1e4f0,
   0x1e950,0x1fbf0]

def decimalDigit (c : Char) : Bool := decimalZeros.any fun digit => digit ≤ c.toNat && c.toNat < digit + 10

-- `^\+[1-9]\d{7,14}$` as a full match.
def e164 (destination : String) : Bool :=
  match destination.toList with
  | '+' :: first :: rest =>
    '1' ≤ first && first ≤ '9' && 7 ≤ rest.length && rest.length ≤ 14 && rest.all decimalDigit
  | _ => false

def emergencyNumbers : List String := ["000","110","112","118","119","911","999"]

def emergency (destination : String) : Bool :=
  let digits := destination.toList.dropWhile (· == '+')
  emergencyNumbers.contains (.ofList digits) || emergencyNumbers.contains (.ofList (digits.drop (digits.length - 3)))

def validateDestination (destination : String) (allowed : List String) : Except CommunicationError Unit :=
  if !e164 destination then .error ⟨"destination_not_valid_e164",400⟩
  else if emergency destination then .error ⟨"emergency_numbers_are_forbidden",403⟩
  else if !allowed.contains destination then .error ⟨"destination_not_allowlisted",403⟩
  else .ok ()

def configured (settings : Settings) : Bool :=
  settings.elevenlabsApiKey ≠ "" && settings.dispatchAgentId ≠ "" && settings.phoneNumberId ≠ ""

def admitDemoCall (settings : Settings) (db : Database) (incidentId : String) :
    Except CommunicationError IncidentRow :=
  if !settings.demoCallsEnabled then .error ⟨"demo_calls_disabled",403⟩
  else match validateDestination settings.demoDispatchNumber settings.demoAllowedNumbers with
  | .error refusal => .error refusal
  | .ok _ => match db.getIncident incidentId with
    | none => .error ⟨"incident_not_found",404⟩
    | some incident =>
      if incident.confirmedAt = none then .error ⟨"incident_not_visually_confirmed",409⟩
      else if incident.responseState = .cancelled then .error ⟨"incident_cancelled",409⟩
      else if settings.callProvider = .elevenlabs && !configured settings then
        .error ⟨"dispatch_provider_not_configured",503⟩
      else .ok incident

-- `safe_incident_context` rounds the delay, and no float rounds from infinity.
def contextRaises (incident : IncidentRow) : Bool := incident.smokeToFireDelaySeconds = some ⊤

inductive Progress where
  | accepted
  | raised
  | posting
deriving DecidableEq, Repr

def initiated (conversationId callSid : Option String) : Report := ⟨.initiated,conversationId,callSid,none,none⟩

def requestDemoCall (settings : Settings) (db : Database) (now : Time) (incidentId : String) :
    Except CommunicationError (Database × ℕ × Progress) :=
  match admitDemoCall settings db incidentId with
  | .error refusal => .error refusal
  | .ok incident =>
    match db.reserveCallAttempt now incidentId settings.globalCallCooldownSeconds settings.maxCallsPerIncident with
    | .error policy => .error ⟨policy.text,409⟩
    | .ok (attemptId,reserved) =>
      if contextRaises incident then .ok (reserved,attemptId,.raised)
      else match settings.callProvider with
      | .mock =>
        let report := initiated (some s!"mock-{attemptId}") none
        .ok ((reserved.updateCallAttempt now attemptId report).getD reserved,attemptId,.accepted)
      | .elevenlabs => .ok (reserved,attemptId,.posting)

-- What `await self.client.post` gives back. A body is the pair of ids of a JSON object,
-- each one missing where it is falsy; anything else under a success code raises.
inductive ProviderAnswer where
  | timeout
  | connectionError
  | response (statusCode : ℕ) (body : Option (Option String × Option String))
  | raised

def failed (errorCode errorMessageSafe : String) : Report := ⟨.failed,none,none,some errorCode,some errorMessageSafe⟩

-- The report that the answer stores. Where an exception leaves the attempt alone there is none.
def ProviderAnswer.report : ProviderAnswer → Option Report
  | .timeout => some ⟨.unknown,none,none,some "provider_timeout",
      some "Provider outcome is unknown; automatic retry was suppressed."⟩
  | .connectionError => some (failed "provider_connection_error" "Could not reach the configured call provider.")
  | .response statusCode body =>
    if 400 ≤ statusCode then
      some (failed s!"provider_http_{statusCode}" "The call provider rejected the request.")
    else body.map fun ids => initiated ids.1 ids.2
  | .raised => none

inductive Outcome where
  | result
  | refused (error : CommunicationError)
  | raised

def ProviderAnswer.outcome : ProviderAnswer → Outcome
  | .timeout => .refused ⟨"call_provider_outcome_unknown",502⟩
  | .connectionError => .refused ⟨"call_provider_connection_error",502⟩
  | .response statusCode body =>
    if 400 ≤ statusCode then .refused ⟨"call_provider_rejected_request",502⟩
    else if body.isSome then .result else .raised
  | .raised => .raised

def finishDemoCall (db : Database) (now : Time) (attemptId : ℕ) (answer : ProviderAnswer) : Database :=
  match answer.report with
  | none => db
  | some report => (db.updateCallAttempt now attemptId report).getD db

-- `hmac.compare_digest` on texts, which raises TypeError outside ASCII.
def compareDigest (a b : String) : Option Bool :=
  if a.toList.all (·.toNat < 128) && b.toList.all (·.toNat < 128) then some (a = b) else none

def authenticateProviderWebhook (settings : Settings) (supplied : Option String) : Option Bool :=
  match supplied with
  | none => some false
  | some text =>
    if settings.providerWebhookSecret = "" || text = "" then some false
    else compareDigest settings.providerWebhookSecret text

def callable (settings : Settings) (db : Database) (now : Time) (incidentId : String) : Bool :=
  settings.demoCallsEnabled &&
  (validateDestination settings.demoDispatchNumber settings.demoAllowedNumbers).isOk &&
  (settings.callProvider = .mock || configured settings) &&
  db.policyOpen now incidentId settings.globalCallCooldownSeconds settings.maxCallsPerIncident

def placedCall (settings : Settings) (db : Database) (now : Time) (incidentId : String) : Database × ℕ × Progress :=
  let reserved := db.reservedCall now incidentId
  let attemptId := db.callAttempts.next
  if (db.getIncident incidentId).any contextRaises then (reserved,attemptId,.raised)
  else match settings.callProvider with
  | .mock =>
    let report := initiated (some s!"mock-{attemptId}") none
    ((reserved.updateCallAttempt now attemptId report).getD reserved,attemptId,.accepted)
  | .elevenlabs => (reserved,attemptId,.posting)

-- What the first checks ask of the incident the policy asks again.
theorem admitDemoCall_cases (settings : Settings) (db : Database) (incidentId : String) :
    (∃ incident, admitDemoCall settings db incidentId = .ok incident ∧ db.getIncident incidentId = some incident ∧
      settings.demoCallsEnabled = true ∧
      (validateDestination settings.demoDispatchNumber settings.demoAllowedNumbers).isOk = true ∧
      (settings.callProvider = .mock ∨ configured settings = true)) ∨
    ((∃ refusal, admitDemoCall settings db incidentId = .error refusal) ∧
      ∀ now, callable settings db now incidentId = false) := by
  unfold admitDemoCall callable Database.policyOpen
  cases enabled : settings.demoCallsEnabled
  · exact .inr ⟨⟨_,rfl⟩,by simp⟩
  · cases destination : validateDestination settings.demoDispatchNumber settings.demoAllowedNumbers with
    | error refusal => exact .inr ⟨⟨_,rfl⟩,by simp [Except.isOk,Except.toBool]⟩
    | ok _ =>
      cases found : db.getIncident incidentId with
      | none => exact .inr ⟨⟨_,rfl⟩,by simp⟩
      | some row =>
        by_cases unconfirmed : row.confirmedAt = none
        · exact .inr ⟨⟨_,by simp [unconfirmed]; rfl⟩,by simp [Database.eligible,unconfirmed]⟩
        · by_cases cancelled : row.responseState = .cancelled
          · exact .inr ⟨⟨_,by simp [unconfirmed,cancelled]; rfl⟩,by simp [Database.eligible,cancelled]⟩
          · cases provider : settings.callProvider
            · cases ready : configured settings
              · exact .inr ⟨⟨_,by simp [unconfirmed,cancelled]; rfl⟩,by simp⟩
              · exact .inl ⟨row,by simp [unconfirmed,cancelled],rfl,rfl,rfl,.inr rfl⟩
            · exact .inl ⟨row,by simp [unconfirmed,cancelled],rfl,rfl,rfl,.inl rfl⟩

theorem requestDemoCall_cases (settings : Settings) (db : Database) (now : Time) (incidentId : String) :
    (callable settings db now incidentId = true ∧
      requestDemoCall settings db now incidentId = .ok (placedCall settings db now incidentId)) ∨
    (callable settings db now incidentId = false ∧
      ∃ refusal, requestDemoCall settings db now incidentId = .error refusal) := by
  unfold requestDemoCall
  obtain ⟨incident,admitted,found,enabled,destination,provider⟩ | ⟨⟨refusal,refused⟩,closed⟩ :=
    admitDemoCall_cases settings db incidentId
  · rw [admitted]
    obtain ⟨opened,reserved⟩ | ⟨shut,refusal,refused⟩ := db.reserveCallAttempt_cases now incidentId
      settings.globalCallCooldownSeconds settings.maxCallsPerIncident
    · refine .inl ⟨by simp [callable,enabled,destination,provider,opened],?_⟩
      simp only [reserved,placedCall,found,Option.any_some]
      split
      · rfl
      · cases settings.callProvider <;> rfl
    · exact .inr ⟨by simp [callable,shut],_,by simp only [refused]; rfl⟩
  · exact .inr ⟨closed now,refusal,by simp only [refused]⟩

end Ignis.Communications
