import Ignis.CallGate
import Ignis.TaskExclusion
import Ignis.JsonValues

-- The settings of the backend as it reads them from its environment (`config.py`), and what they let
-- its runs do.
namespace Ignis.ServiceSettings
open Runs Backend Communications

-- `int` gives a number or the text of its ValueError.
variable (int : String → Except String ℤ) (getenv : String → Option String)

structure Settings where
  appEnv : String
  appPort : ℤ
  qnxTcpPort : ℤ
  deviceToken : String
  expectedDeviceId : String
  elevenlabsApiKey : String
  dispatchAgentId : String
  phoneNumberId : String
  demoCallsEnabled : Bool
  demoDispatchNumber : String
  demoAllowedNumbers : List String
  globalCallCooldownSeconds : ℤ
  maxCallsPerIncident : ℤ
  callProvider : String
  enableSimulatorEndpoints : Bool
  providerWebhookSecret : String
  responseTimeoutSeconds : ℤ

def strip (text : String) : String :=
  .ofList ((text.toList.dropWhile fun c => JsonValues.isSpace c.toNat).rdropWhile fun c => JsonValues.isSpace c.toNat)

-- `str.lower`, as far as the words below can tell: beyond ASCII only the Kelvin sign becomes one of their letters.
def lowerChar (c : Char) : Char := if c.toNat = 0x212A then 'k' else c.toLower
def word (text : String) : String := .ofList ((strip text).toList.map lowerChar)

def yes : List String := ["1","true","yes","on"]
def no : List String := ["0","false","no","off"]

def readBool (name : String) (default : Bool) : Except String Bool :=
  match getenv name with
  | none => .ok default
  | some raw =>
    if word raw ∈ yes then .ok true
    else if word raw ∈ no then .ok false
    else .error s!"{name} must be true or false"

def readInt (name : String) (default minimum maximum : ℤ) : Except String ℤ := do
  let value ← (getenv name).elim (.ok default) int
  if minimum ≤ value ∧ value ≤ maximum then .ok value
  else .error s!"{name} must be between {minimum} and {maximum}"

def items (raw : String) : List String := ((raw.toList.splitOn ',').map fun item => strip (.ofList item)).filter (· ≠ "")
def readCsv (name : String) : List String := items ((getenv name).getD "")

def Settings.validate (settings : Settings) : Except String Unit :=
  if settings.deviceToken = "" ∨ 512 < settings.deviceToken.length then
    .error "IGNIS_DEVICE_TOKEN must contain 1 to 512 characters"
  else if settings.appEnv = "production" ∧ settings.deviceToken = "replace-me" then
    .error "The development device token is forbidden in production"
  else if settings.callProvider ≠ "elevenlabs" ∧ settings.callProvider ≠ "mock" then
    .error "DEMO_CALL_PROVIDER must be elevenlabs or mock"
  else if settings.callProvider = "mock" ∧ settings.appEnv = "production" then
    .error "The mock call provider is forbidden in production"
  else if settings.demoCallsEnabled ∧ settings.demoDispatchNumber = "" then
    .error "DEMO_DISPATCH_NUMBER is required when demo calls are enabled"
  else .ok ()

def fromEnv : Except String Settings := do
  let appPort ← readInt int getenv "APP_PORT" 8000 1 65535
  let qnxTcpPort ← readInt int getenv "QNX_TCP_PORT" 9001 0 65535
  let demoCallsEnabled ← readBool getenv "DEMO_CALLS_ENABLED" false
  let globalCallCooldownSeconds ← readInt int getenv "DEMO_GLOBAL_CALL_COOLDOWN_SECONDS" 60 0 86400
  let maxCallsPerIncident ← readInt int getenv "DEMO_MAX_CALLS_PER_INCIDENT" 1 1 3
  let enableSimulatorEndpoints ← readBool getenv "ENABLE_SIMULATOR_ENDPOINTS" true
  let responseTimeoutSeconds ← readInt int getenv "IGNIS_RESPONSE_TIMEOUT_SECONDS" 10 2 300
  let settings : Settings := {
    appEnv := (getenv "APP_ENV").getD "development"
    appPort := appPort
    qnxTcpPort := qnxTcpPort
    deviceToken := (getenv "IGNIS_DEVICE_TOKEN").getD "replace-me"
    expectedDeviceId := (getenv "IGNIS_EXPECTED_DEVICE_ID").getD "ignis-qnxpi-01"
    elevenlabsApiKey := (getenv "ELEVENLABS_API_KEY").getD ""
    dispatchAgentId := (getenv "ELEVENLABS_DISPATCH_AGENT_ID").getD ""
    phoneNumberId := (getenv "ELEVENLABS_PHONE_NUMBER_ID").getD ""
    demoCallsEnabled := demoCallsEnabled
    demoDispatchNumber := strip ((getenv "DEMO_DISPATCH_NUMBER").getD "")
    demoAllowedNumbers := readCsv getenv "DEMO_ALLOWED_NUMBERS"
    globalCallCooldownSeconds := globalCallCooldownSeconds
    maxCallsPerIncident := maxCallsPerIncident
    callProvider := word ((getenv "DEMO_CALL_PROVIDER").getD "elevenlabs")
    enableSimulatorEndpoints := enableSimulatorEndpoints
    providerWebhookSecret := (getenv "PROVIDER_WEBHOOK_SECRET").getD ""
    responseTimeoutSeconds := responseTimeoutSeconds }
  settings.validate
  return settings

def Settings.communications (settings : Settings) : Communications.Settings where
  elevenlabsApiKey := settings.elevenlabsApiKey
  dispatchAgentId := settings.dispatchAgentId
  phoneNumberId := settings.phoneNumberId
  demoCallsEnabled := settings.demoCallsEnabled
  demoDispatchNumber := settings.demoDispatchNumber
  demoAllowedNumbers := settings.demoAllowedNumbers
  globalCallCooldownSeconds := settings.globalCallCooldownSeconds.toNat
  maxCallsPerIncident := settings.maxCallsPerIncident.toNat
  callProvider := if settings.callProvider = "mock" then .mock else .elevenlabs
  providerWebhookSecret := settings.providerWebhookSecret

def dispatchNumber : String := strip ((getenv "DEMO_DISPATCH_NUMBER").getD "")

-- Calls are asked for by name, to a number that is on the list and is none of an emergency service, with
-- the provider's credentials or outside production without a provider.
structure OptedIn : Prop where
  enabled : ∃ raw, getenv "DEMO_CALLS_ENABLED" = some raw ∧ word raw ∈ yes
  listed : ∃ raw, getenv "DEMO_ALLOWED_NUMBERS" = some raw ∧ dispatchNumber getenv ∈ items raw
  formed : e164 (dispatchNumber getenv) = true ∧ emergency (dispatchNumber getenv) = false
  provider : (∃ raw, getenv "DEMO_CALL_PROVIDER" = some raw ∧ word raw = "mock") ∨
    ∀ name ∈ ["ELEVENLABS_API_KEY","ELEVENLABS_DISPATCH_AGENT_ID","ELEVENLABS_PHONE_NUMBER_ID"],
      ∃ raw, getenv name = some raw ∧ raw ≠ ""

structure Checked (settings : Settings) : Prop where
  ports : 1 ≤ settings.appPort ∧ settings.appPort ≤ 65535 ∧ 0 ≤ settings.qnxTcpPort ∧ settings.qnxTcpPort ≤ 65535
  token : settings.deviceToken ≠ "" ∧ settings.deviceToken.length ≤ 512
  cooldown : 0 ≤ settings.globalCallCooldownSeconds ∧ settings.globalCallCooldownSeconds ≤ 86400
  calls : 1 ≤ settings.maxCallsPerIncident ∧ settings.maxCallsPerIncident ≤ 3
  timeout : 2 ≤ settings.responseTimeoutSeconds ∧ settings.responseTimeoutSeconds ≤ 300
  provider : settings.callProvider = "elevenlabs" ∨ settings.callProvider = "mock"
  production : settings.appEnv = "production" → settings.deviceToken ≠ "replace-me" ∧ settings.callProvider ≠ "mock"

variable {int : String → Except String ℤ} {getenv : String → Option String} {settings : Settings}

theorem bind_ok {α β : Type} {value : Except String α} {next : α → Except String β} {result : β} :
    (value >>= next) = .ok result ↔ ∃ input, value = .ok input ∧ next input = .ok result := by
  cases value <;> simp [bind,Except.bind]

theorem readBool_true {name : String} (read : readBool getenv name false = .ok true) :
    ∃ raw, getenv name = some raw ∧ word raw ∈ yes := by
  unfold readBool at read
  split at read
  · cases read
  · rename_i raw given
    split at read
    · rename_i affirmed
      exact ⟨raw,given,affirmed⟩
    · split at read <;> cases read

theorem readBool_yes {name raw : String} {default : Bool} (given : getenv name = some raw) (affirmed : word raw ∈ yes) :
    readBool getenv name default = .ok true := by
  simp [readBool,given,affirmed]

theorem readInt_bounds {name : String} {default minimum maximum value : ℤ}
    (read : readInt int getenv name default minimum maximum = .ok value) : minimum ≤ value ∧ value ≤ maximum := by
  unfold readInt at read
  obtain ⟨number,_,checked⟩ := bind_ok.mp read
  split at checked
  · rename_i bounds
    rw [← Except.ok.inj checked]
    exact bounds
  · cases checked

theorem validate_ok (valid : settings.validate = .ok ()) :
    (settings.deviceToken ≠ "" ∧ settings.deviceToken.length ≤ 512) ∧
    (settings.callProvider = "elevenlabs" ∨ settings.callProvider = "mock") ∧
    (settings.appEnv = "production" → settings.deviceToken ≠ "replace-me" ∧ settings.callProvider ≠ "mock") := by
  unfold Settings.validate at valid
  split_ifs at valid with token development provider mock number
  refine ⟨?_,?_,fun production => ⟨fun same => development ⟨production,same⟩,fun same => mock ⟨same,production⟩⟩⟩
  · simpa only [not_or,Nat.not_lt] using token
  · by_contra neither
    exact provider (by simpa only [not_or] using neither)

theorem loaded_parts (loaded : fromEnv int getenv = .ok settings) :
    Checked settings ∧ readBool getenv "DEMO_CALLS_ENABLED" false = .ok settings.demoCallsEnabled ∧
    settings.demoDispatchNumber = dispatchNumber getenv ∧ settings.demoAllowedNumbers = readCsv getenv "DEMO_ALLOWED_NUMBERS" ∧
    settings.callProvider = word ((getenv "DEMO_CALL_PROVIDER").getD "elevenlabs") ∧
    settings.elevenlabsApiKey = (getenv "ELEVENLABS_API_KEY").getD "" ∧
    settings.dispatchAgentId = (getenv "ELEVENLABS_DISPATCH_AGENT_ID").getD "" ∧
    settings.phoneNumberId = (getenv "ELEVENLABS_PHONE_NUMBER_ID").getD "" := by
  unfold fromEnv at loaded
  simp only [bind_ok] at loaded
  obtain ⟨appPort,first,qnxTcpPort,second,enabled,calls,cooldown,third,most,fourth,simulator,_,timeout,fifth,_,valid,same⟩ := loaded
  cases same
  obtain ⟨token,provider,production⟩ := validate_ok valid
  have bounds := readInt_bounds first
  have tcp := readInt_bounds second
  exact ⟨⟨⟨bounds.1,bounds.2,tcp.1,tcp.2⟩,token,readInt_bounds third,readInt_bounds fourth,readInt_bounds fifth,provider,production⟩,
    calls,rfl,rfl,rfl,rfl,rfl,rfl⟩

def permits (settings : Communications.Settings) : Bool :=
  settings.demoCallsEnabled && (validateDestination settings.demoDispatchNumber settings.demoAllowedNumbers).isOk &&
    (settings.callProvider = .mock || configured settings)

theorem callable_permits (settings : Communications.Settings) (db : Database) (now : Database.Time) (incidentId : String) :
    callable settings db now incidentId =
      (permits settings && db.policyOpen now incidentId settings.globalCallCooldownSeconds settings.maxCallsPerIncident) := rfl

theorem given_nonempty {name : String} : (getenv name).getD "" ≠ "" ↔ ∃ raw, getenv name = some raw ∧ raw ≠ "" := by
  cases getenv name <;> simp

theorem validateDestination_iff (destination : String) (allowed : List String) :
    (validateDestination destination allowed).isOk = true ↔
      e164 destination = true ∧ emergency destination = false ∧ destination ∈ allowed := by
  refine ⟨validateDestination_ok,fun ⟨formed,safe,listed⟩ => ?_⟩
  simp [validateDestination,formed,safe,listed,Except.isOk,Except.toBool]

theorem enabled_iff (read : readBool getenv "DEMO_CALLS_ENABLED" false = .ok settings.demoCallsEnabled) :
    settings.demoCallsEnabled = true ↔ ∃ raw, getenv "DEMO_CALLS_ENABLED" = some raw ∧ word raw ∈ yes := by
  constructor
  · intro enabled
    rw [enabled] at read
    exact readBool_true read
  · rintro ⟨raw,given,affirmed⟩
    exact (Except.ok.inj ((readBool_yes given affirmed).symm.trans read)).symm

theorem listed_iff (number : String) :
    number ∈ readCsv getenv "DEMO_ALLOWED_NUMBERS" ↔ ∃ raw, getenv "DEMO_ALLOWED_NUMBERS" = some raw ∧ number ∈ items raw := by
  unfold readCsv
  cases getenv "DEMO_ALLOWED_NUMBERS" with
  | none =>
    have empty : items "" = [] := by decide
    simp [empty]
  | some raw => simp

theorem mock_iff : word ((getenv "DEMO_CALL_PROVIDER").getD "elevenlabs") = "mock" ↔
    ∃ raw, getenv "DEMO_CALL_PROVIDER" = some raw ∧ word raw = "mock" := by
  cases getenv "DEMO_CALL_PROVIDER" with
  | none =>
    have other : word "elevenlabs" ≠ "mock" := by decide
    simp [other]
  | some raw => simp

theorem permits_iff (loaded : fromEnv int getenv = .ok settings) : permits settings.communications = true ↔ OptedIn getenv := by
  obtain ⟨_,enabled,number,listed,provider,key,agent,phone⟩ := loaded_parts loaded
  have credentials : configured settings.communications = true ↔
      ∀ name ∈ ["ELEVENLABS_API_KEY","ELEVENLABS_DISPATCH_AGENT_ID","ELEVENLABS_PHONE_NUMBER_ID"],
        ∃ raw, getenv name = some raw ∧ raw ≠ "" := by
    simp [configured,Settings.communications,key,agent,phone,given_nonempty,and_assoc]
  have mock : settings.communications.callProvider = .mock ↔ ∃ raw, getenv "DEMO_CALL_PROVIDER" = some raw ∧ word raw = "mock" := by
    rw [← mock_iff,← provider]
    simp [Settings.communications]
  have parts : permits settings.communications = true ↔ (settings.demoCallsEnabled = true ∧
      (e164 settings.demoDispatchNumber = true ∧ emergency settings.demoDispatchNumber = false ∧
        settings.demoDispatchNumber ∈ settings.demoAllowedNumbers)) ∧
      (settings.communications.callProvider = .mock ∨ configured settings.communications = true) := by
    rw [← validateDestination_iff]
    simp [permits,Settings.communications]
  rw [parts,enabled_iff enabled,number,listed,listed_iff,mock,credentials]
  constructor
  · rintro ⟨⟨asked,formed,safe,known⟩,paid⟩
    exact ⟨asked,known,⟨formed,safe⟩,paid⟩
  · rintro ⟨asked,known,⟨formed,safe⟩,paid⟩
    exact ⟨⟨asked,formed,safe,known⟩,paid⟩

variable {app : App} {tick : Tick}

theorem next_step (settings : Communications.Settings) (closed : permits settings = false) (app : App) (tick : Tick) :
    (step settings app tick).database.callAttempts.next = app.database.callAttempts.next := by
  have attempts := attempts_rows (step_rows settings app tick)
  have caused := effect_caused settings app tick
  cases same : effect settings app tick with
  | nothing => rw [attempts,same]; rfl
  | upserted data deviceId bootId => rw [attempts,same,attempts_upserted]
  | responded target r occupantResponse hazardState => rw [attempts,same,attempts_responded]
  | called target =>
    rw [same] at caused
    have opened := called_callable caused
    rw [callable_permits,closed,Bool.false_and] at opened
    cases opened
  | reported attemptId report =>
    obtain ⟨_,_,_,_,after,_⟩ | ⟨_,unchanged⟩ := reported_cases settings app.database tick.now attemptId report
    · rw [attempts,same,after,Tables.Table.next_modify]
    · rw [attempts,same,unchanged]

theorem next_run (settings : Communications.Settings) (app : App) (ticks : List Tick) :
    app.database.callAttempts.next ≤ (run (step settings) app ticks).database.callAttempts.next ∧
      (permits settings = false →
        (run (step settings) app ticks).database.callAttempts.next = app.database.callAttempts.next) := by
  constructor
  · exact invariant (fun after : App => app.database.callAttempts.next ≤ after.database.callAttempts.next)
      (fun after tick grown => grown.trans (attempts_next settings after tick)) le_rfl
  · intro closed
    exact invariant (fun after : App => after.database.callAttempts.next = app.database.callAttempts.next)
      (fun after tick same => (next_step settings closed after tick).trans same) rfl

-- An environment that opts in leaves nothing but the call policy between an incident and its call.
theorem no_call_unasked (int : String → Except String ℤ) (getenv : String → Option String) (settings : Settings)
    (loaded : fromEnv int getenv = .ok settings) :
    Checked settings ∧
    (∀ (app : App) (ticks : List Tick),
      app.database.callAttempts.next ≠ (run (step settings.communications) app ticks).database.callAttempts.next →
        OptedIn getenv) ∧
    (OptedIn getenv → ∀ (db : Database) (now : Database.Time) (incidentId : String),
      callable settings.communications db now incidentId = db.policyOpen now incidentId
        settings.globalCallCooldownSeconds.toNat settings.maxCallsPerIncident.toNat) := by
  have permitted := permits_iff loaded
  refine ⟨(loaded_parts loaded).1,fun app ticks placed => ?_,fun asked db now incidentId => ?_⟩
  · by_contra unasked
    have closed : permits settings.communications = false := by
      rw [← Bool.not_eq_true,permitted]
      exact unasked
    exact placed ((next_run settings.communications app ticks).2 closed).symm
  · rw [callable_permits,permitted.mpr asked,Bool.true_and]
    rfl

-- An environment that names only a token, and one that opts in outside production.
def tokenOnly (name : String) : Option String := if name = "IGNIS_DEVICE_TOKEN" then some "secret" else none
def rehearsal (name : String) : Option String :=
  [("IGNIS_DEVICE_TOKEN","secret"),("DEMO_CALLS_ENABLED"," Yes"),("DEMO_DISPATCH_NUMBER","+14165550123 "),
    ("DEMO_ALLOWED_NUMBERS","+14165550100, +14165550123,"),("DEMO_CALL_PROVIDER","Mock"),
    ("DEMO_GLOBAL_CALL_COOLDOWN_SECONDS","30"),("DEMO_MAX_CALLS_PER_INCIDENT","2")].lookup name
def decimal (raw : String) : Except String ℤ :=
  if raw ≠ "" ∧ raw.toList.all Char.isDigit then .ok (raw.toList.foldl (fun value c => 10 * value + (c.toNat - 48 : ℕ)) 0)
  else .error s!"invalid literal for int() with base 10: '{raw}'"

theorem rehearsal_calls :
    (∃ settings, fromEnv decimal tokenOnly = .ok settings ∧ ∀ ticks,
      (run (step settings.communications) fresh ticks).database.callAttempts.next = fresh.database.callAttempts.next) ∧
    ∃ settings, fromEnv decimal rehearsal = .ok settings ∧ ∀ (db : Database) (now : Database.Time) (incidentId : String),
      callable settings.communications db now incidentId = db.policyOpen now incidentId 30 2 := by
  constructor
  · obtain ⟨settings,loaded⟩ : ∃ settings, fromEnv decimal tokenOnly = .ok settings := ⟨_,rfl⟩
    refine ⟨settings,loaded,fun ticks => ?_⟩
    by_contra placed
    obtain ⟨raw,given,_⟩ := ((no_call_unasked decimal tokenOnly settings loaded).2.1 fresh ticks (Ne.symm placed)).enabled
    cases given
  · have read : (fromEnv decimal rehearsal).toOption.map (fun settings =>
        (settings.globalCallCooldownSeconds,settings.maxCallsPerIncident)) = some (30,2) := by decide +kernel
    obtain ⟨settings,given,limits⟩ := Option.map_eq_some_iff.mp read
    have loaded : fromEnv decimal rehearsal = .ok settings := by
      cases known : fromEnv decimal rehearsal with
      | error text =>
        rw [known] at given
        cases given
      | ok value =>
        rw [known] at given
        exact congrArg Except.ok (Option.some.inj given)
    obtain ⟨cooldown,most⟩ := Prod.ext_iff.mp limits
    have asked : OptedIn rehearsal := by
      refine ⟨⟨" Yes",by decide +kernel,by decide +kernel⟩,⟨_,rfl,by decide +kernel⟩,by decide +kernel,.inl ⟨"Mock",?_,?_⟩⟩
      · decide +kernel
      · decide +kernel
    refine ⟨settings,loaded,fun db now incidentId => ?_⟩
    rw [(no_call_unasked decimal rehearsal settings loaded).2.2 asked,show settings.globalCallCooldownSeconds = 30 from cooldown,
      show settings.maxCallsPerIncident = 2 from most]
    rfl

end Ignis.ServiceSettings
