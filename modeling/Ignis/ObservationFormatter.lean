import Mathlib.Data.List.Chain
import Mathlib.Data.Rat.Floor
import Ignis.EvidenceColumns
import Ignis.Communications
import Ignis.JsonValues

-- The sentences that are spoken of an incident, and which of them say that flames were seen.
namespace Ignis.ObservationFormatter
open Database Backend JsonValues

-- `sanitize_zone`; what is left of a zone is ASCII.
def zoneCharacter (c : ℕ) : Bool :=
  (65 ≤ c && c ≤ 90) || (97 ≤ c && c ≤ 122) || (48 ≤ c && c ≤ 57) || (codes " .,'()&-").contains c

def sanitizeZone (value : String) : Str :=
  let text := (strip ((codes value).filter zoneCharacter)).take 48
  if text = [] then codes "unconfigured area" else text

-- `lower` and `casefold` of a text of ASCII characters.
def lower (text : Str) : Str := text.map fun c => if 65 ≤ c ∧ c ≤ 90 then c + 32 else c

-- `round` of a float, with a half going to the even neighbour.
def roundEven (q : ℚ) : ℤ :=
  let below := ⌊q⌋
  if q - below < 1 / 2 then below
  else if 1 / 2 < q - below then below + 1
  else if below % 2 = 0 then below
  else below + 1

def integerText (value : ℤ) : Str := if value < 0 then 45 :: decimal value.natAbs else decimal value.toNat

def numberWords : List (ℤ × Str) :=
  [(1,codes "one"),(2,codes "two"),(3,codes "three"),(4,codes "four"),(5,codes "five"),(6,codes "six"),(7,codes "seven"),
    (8,codes "eight"),(9,codes "nine"),(10,codes "ten")]

def durationText (value : ℤ) : Str := (numberWords.lookup value).getD (integerText value)

-- `_rounded_duration`: no integer is near infinity, which raises.
def roundedDuration : Option Number → Option (Option Str)
  | none => some none
  | some none => some none
  | some (some none) => none
  | some (some (some seconds)) => some (if seconds < 3 / 4 then none else some (durationText (roundEven seconds)))

structure Observations where
  observedOrigin : Str
  sequenceObservation : Str
  growthObservation : Str
  occupantObservation : Str
  causeStatement : Str

def Observations.texts (observations : Observations) : List Str :=
  [observations.observedOrigin,observations.sequenceObservation,observations.growthObservation,
    observations.occupantObservation,observations.causeStatement]

def unconfigured (zone : Str) : Bool := [codes "unconfigured area",codes "general room",codes "unknown"].contains (lower zone)

def originText (zone : Str) : Str :=
  if unconfigured zone then codes "The source is not visible from the camera."
  else codes "Visible flames first appeared in the configured " ++ lower zone ++ codes " zone."

-- An empty delay counts as none.
def sequenceText (smokeFirst : Option Bool) (delay : Option Str) : Str :=
  match smokeFirst,delay.filter (· ≠ []) with
  | some true,some delay => codes "Smoke was detected approximately " ++ delay ++ codes " seconds before visible flames."
  | some false,some delay => codes "Visible flames were detected approximately " ++ delay ++ codes " seconds before smoke."
  | _,_ => codes "The visual sequence could not be determined reliably."

def finite (q : ℚ) : Number := ((q : WithTop ℚ) : Number)

def expanded (growth : Option Number) : Bool := growth.any fun percent => finite 20 ≤ percent && percent ≤ finite 1000

def growthText (growth : Option Number) : Str :=
  if expanded growth then codes "The visible fire region expanded during verification."
  else codes "Stable visual-region growth was not established."

def occupantText : Option Bool → Str
  | some true => codes "An occupant was visibly detected."
  | some false => codes "No occupant was visibly detected in the available frame."
  | none => codes "Occupant visibility was not determined."

def formatObservations (firstZone : String) (smokeToFireDelaySeconds : Option Number) (smokeFirst : Option Bool)
    (growth : Option Number) (occupantVisible : Option Bool) : Option Observations :=
  (roundedDuration smokeToFireDelaySeconds).map fun delay =>
    { observedOrigin := (originText (sanitizeZone firstZone)).take 180
      sequenceObservation := (sequenceText smokeFirst delay).take 180
      growthObservation := growthText growth
      occupantObservation := occupantText occupantVisible
      causeStatement := codes "The exact cause is unconfirmed." }

-- The part of `safe_incident_context` that comes from `format_observations`; a stored row has
-- its growth under `max_growth_percent` alone.
def contextObservations (incident : IncidentRow) : Option Observations :=
  formatObservations incident.firstZone incident.smokeToFireDelaySeconds incident.smokeFirst incident.maxGrowthPercent
    incident.occupantVisible

theorem contextObservations_raises (incident : IncidentRow) :
    contextObservations incident = none ↔ Communications.contextRaises incident = true := by
  rw [contextObservations,formatObservations,Option.map_eq_none_iff,Communications.contextRaises,decide_eq_true_eq]
  match incident.smokeToFireDelaySeconds with
  | none => simp [roundedDuration]
  | some none => exact ⟨fun raised => (by cases raised),fun same => by cases same⟩
  | some (some none) => exact ⟨fun _ => rfl,fun _ => rfl⟩
  | some (some (some seconds)) => exact ⟨fun raised => (by cases raised),fun same => by cases same⟩

variable {zone start rest delay text : Str} {smokeFirst : Option Bool}

def Says (phrase : String) (text : Str) : Prop := codes phrase <:+: lower text

instance decidableSays (phrase : String) (text : Str) : Decidable (Says phrase text) :=
  inferInstanceAs (Decidable (codes phrase <:+: lower text))

def StatesFlames (text : Str) : Prop := Says "visible flames" text

instance decidableStatesFlames (text : Str) : Decidable (StatesFlames text) :=
  inferInstanceAs (Decidable (Says "visible flames" text))

theorem lower_append (before after : Str) : lower (before ++ after) = lower before ++ lower after := List.map_append

theorem states_start (states : StatesFlames start) (short : start.length ≤ 180) (rest : Str) : StatesFlames ((start ++ rest).take 180) := by
  have kept : (start ++ rest).take 180 = start ++ rest.take (180 - start.length) := by
    rw [List.take_append,List.take_of_length_le short]
  rw [StatesFlames,Says,kept,lower_append]
  exact states.trans (List.prefix_append _ _).isInfix

-- A text with no `s` behind an `e`, and no `i` behind an `f`.
def Apart (text : Str) : Prop := text.IsChain fun c d => ¬ (c = 101 ∧ d = 115) ∧ ¬ (c = 102 ∧ d = 105)

def Silent (text : Str) : Prop := ¬ StatesFlames text ∧ ¬ Says "visible fire region" text

instance decidableSilent (text : Str) : Decidable (Silent text) :=
  inferInstanceAs (Decidable (¬ Says "visible flames" text ∧ ¬ Says "visible fire region" text))

theorem apart_silent (apart : Apart (lower text)) : Silent text := by
  have phrases : ¬ Apart (codes "visible flames") ∧ ¬ Apart (codes "visible fire region") := by
    unfold Apart
    decide +kernel
  exact ⟨fun states => phrases.1 ( List.IsChain.infix apart states),fun states => phrases.2 ( List.IsChain.infix apart states)⟩

theorem origin_states (zone : Str) : if unconfigured zone then Silent ((originText zone).take 180) else StatesFlames ((originText zone).take 180) := by
  unfold originText
  split
  · decide +kernel
  · rw [List.append_assoc]
    exact states_start (by decide +kernel) (by decide +kernel) _

theorem apart_append {before after : Str} (one : Apart before) (two : Apart after) (last : ∀ c ∈ before.getLast?, c ≠ 101 ∧ c ≠ 102) :
    Apart (before ++ after) := by
  refine List.IsChain.append one two ?_
  intro c final d _
  exact ⟨fun pair => (last c final).1 pair.1,fun pair => (last c final).2 pair.1⟩

theorem digits_apart (digits : ∀ c ∈ text, 48 ≤ c ∧ c ≤ 57) : Apart text := by
  induction text with
  | nil => exact .nil
  | cons c text ih =>
    have small := digits c List.mem_cons_self
    have rest := ih fun d member => digits d (List.mem_cons_of_mem _ member)
    have alone : Apart [c] := .singleton c
    refine apart_append alone rest ?_
    intro d final
    have same : c = d := Option.some.inj final
    exact ⟨by omega,by omega⟩

theorem lower_digits (digits : ∀ c ∈ text, 48 ≤ c ∧ c ≤ 57) : lower text = text := by
  rw [lower]
  conv_rhs => rw [← List.map_id text]
  apply List.map_congr_left
  intro c member
  have small := digits c member
  rw [if_neg (by omega)]
  rfl

-- So many digits push the end of the sentence out of its 180 characters.
theorem long_silent (digits : ∀ c ∈ delay, 48 ≤ c ∧ c ≤ 57) (long : 117 < delay.length) :
    Silent ((codes "Smoke was detected approximately " ++ delay ++ codes " seconds before visible flames.").take 180) := by
  have front : (codes "Smoke was detected approximately ").length = 33 := by decide
  have back : codes " seconds before visible flames." = codes " seconds before visible flame" ++ codes "s." := by decide
  have whole : 180 ≤ (codes "Smoke was detected approximately " ++ delay ++ codes " seconds before visible flame").length := by
    have tail : (codes " seconds before visible flame").length = 29 := by decide
    rw [List.length_append,List.length_append,front,tail]
    omega
  have cut : (codes "Smoke was detected approximately " ++ delay ++ codes " seconds before visible flames.").take 180 =
      (codes "Smoke was detected approximately " ++ delay ++ codes " seconds before visible flame").take 180 := by
    rw [back,← List.append_assoc,List.take_append_of_le_length whole]
  have apart : Apart (lower (codes "Smoke was detected approximately " ++ delay ++ codes " seconds before visible flame")) := by
    have ends : Apart (lower (codes "Smoke was detected approximately ")) ∧ Apart (lower (codes " seconds before visible flame")) := by
      unfold Apart
      decide +kernel
    rw [lower_append,lower_append,lower_digits digits]
    apply apart_append
    · apply apart_append ends.1 (digits_apart digits)
      decide +kernel
    · exact ends.2
    · intro c final
      have filled : delay ≠ [] := by
        rintro rfl
        cases long
      rw [List.getLast?_append_of_ne_nil _ filled] at final
      have small := digits c (List.mem_of_getLast? final)
      exact ⟨by omega,by omega⟩
  rw [cut]
  apply apart_silent
  have taken : lower ((codes "Smoke was detected approximately " ++ delay ++ codes " seconds before visible flame").take 180) =
      (lower (codes "Smoke was detected approximately " ++ delay ++ codes " seconds before visible flame")).take 180 := List.map_take
  rw [taken]
  exact List.IsChain.infix apart (List.take_prefix 180 _).isInfix

theorem short_states (short : delay.length ≤ 117) :
    StatesFlames ((codes "Smoke was detected approximately " ++ delay ++ codes " seconds before visible flames.").take 180) := by
  have back : codes " seconds before visible flames." = codes " seconds before visible flames" ++ codes "." := by decide
  have lengths : (codes "Smoke was detected approximately ").length = 33 ∧ (codes " seconds before visible flames").length = 30 := by decide
  rw [back,← List.append_assoc]
  apply states_start
  · rw [StatesFlames,Says,lower_append]
    have phrase : StatesFlames (codes " seconds before visible flames") := by decide +kernel
    exact phrase.trans (List.suffix_append _ _).isInfix
  · rw [List.length_append,List.length_append,lengths.1,lengths.2]
    omega

theorem flames_first_states (delay : Str) :
    StatesFlames ((codes "Visible flames were detected approximately " ++ delay ++ codes " seconds before smoke.").take 180) := by
  rw [List.append_assoc]
  exact states_start (by decide +kernel) (by decide +kernel) _

theorem numberWords_mem {value : ℤ} (word : numberWords.lookup value = some text) : (value,text) ∈ numberWords := by
  obtain ⟨before,after,split,_⟩ := List.lookup_eq_some_iff.mp word
  rw [split]
  exact List.mem_append_right _ List.mem_cons_self

theorem durationText_length {value : ℤ} (positive : 0 ≤ value) :
    (durationText value).length ≤ 117 ∧ value < 10 ^ 117 ∨
    (117 < (durationText value).length ∧ 10 ^ 117 ≤ value ∧ ∀ c ∈ durationText value, 48 ≤ c ∧ c ≤ 57) := by
  unfold durationText
  cases word : numberWords.lookup value with
  | some text =>
    have small : ∀ entry ∈ numberWords, entry.2.length ≤ 117 ∧ entry.1 < 10 ^ 117 := by decide
    exact .inl (small (value,text) (numberWords_mem word))
  | none =>
    have number : integerText value = decimal value.toNat := if_neg (by omega)
    rw [Option.getD_none,number]
    have length : (decimal value.toNat).length ≤ 117 ↔ value.toNat < 10 ^ 117 := by
      rw [decimal,List.length_map,Nat.length_toDigits_le_iff (by decide) (by decide)]
    have cast : (value.toNat : ℤ) = value := Int.toNat_of_nonneg positive
    by_cases short : (decimal value.toNat).length ≤ 117
    · refine .inl ⟨short,?_⟩
      have below := length.mp short
      omega
    · have above := mt length.mpr short
      exact .inr ⟨Nat.lt_of_not_le short,by omega,decimal_digits value.toNat⟩

theorem durationText_filled (value : ℤ) : durationText value ≠ [] := by
  unfold durationText
  cases word : numberWords.lookup value with
  | some text =>
    have filled : ∀ entry ∈ numberWords, entry.2 ≠ [] := by decide
    exact filled (value,text) (numberWords_mem word)
  | none =>
    rw [Option.getD_none,integerText]
    split
    · exact List.cons_ne_nil _ _
    · exact decimal_ne_nil _

theorem roundEven_positive {seconds : ℚ} (reliable : ¬ seconds < 3 / 4) : 0 ≤ roundEven seconds := by
  have below : 0 ≤ ⌊seconds⌋ := Int.floor_nonneg.mpr (le_trans (by norm_num) (not_lt.mp reliable))
  unfold roundEven
  simp only
  split
  · exact below
  · split
    · omega
    · split
      · exact below
      · omega

def reliableDelay : Option Number → Option ℚ
  | some (some (some seconds)) => if seconds < 3 / 4 then none else some seconds
  | _ => none

def spokenDelay (delay : Option Number) : Option Str := (reliableDelay delay).map fun seconds => durationText (roundEven seconds)

theorem roundedDuration_spoken {delay : Option Number} (finite : delay ≠ some ⊤) : roundedDuration delay = some (spokenDelay delay) := by
  match delay with
  | none => rfl
  | some none => rfl
  | some (some none) => exact absurd rfl finite
  | some (some (some seconds)) =>
    rw [roundedDuration,spokenDelay,reliableDelay]
    split <;> rfl

theorem reliableDelay_reliable {delay : Option Number} {seconds : ℚ} (known : reliableDelay delay = some seconds) : ¬ seconds < 3 / 4 := by
  match delay with
  | none => cases known
  | some none => cases known
  | some (some none) => cases known
  | some (some (some other)) =>
    rw [reliableDelay] at known
    split at known
    · cases known
    · cases known
      assumption

def SilentSequence (smokeFirst : Option Bool) (delay : Option Number) : Prop :=
  ∀ seconds ∈ reliableDelay delay, smokeFirst ≠ some false ∧ (smokeFirst = some true → 10 ^ 117 ≤ roundEven seconds)

theorem sequence_states (smokeFirst : Option Bool) (delay : Option Number) :
    (SilentSequence smokeFirst delay → Silent ((sequenceText smokeFirst (spokenDelay delay)).take 180)) ∧
    (¬ SilentSequence smokeFirst delay → StatesFlames ((sequenceText smokeFirst (spokenDelay delay)).take 180)) := by
  have unreliable : Silent ((codes "The visual sequence could not be determined reliably.").take 180) := by decide +kernel
  unfold SilentSequence spokenDelay
  cases known : reliableDelay delay with
  | none =>
    have text (smokeFirst : Option Bool) : sequenceText smokeFirst ((none : Option ℚ).map fun seconds => durationText (roundEven seconds)) =
        codes "The visual sequence could not be determined reliably." := by
      cases smokeFirst with
      | none => rfl
      | some order => cases order <;> rfl
    rw [text]
    exact ⟨fun _ => unreliable,fun loud => absurd (fun seconds none => by cases none) loud⟩
  | some seconds =>
    have positive := roundEven_positive (reliableDelay_reliable known)
    have truthy : (some (durationText (roundEven seconds))).filter (· ≠ []) = some (durationText (roundEven seconds)) := by
      rw [Option.filter_some,if_pos (decide_eq_true (durationText_filled _))]
    rw [Option.map_some]
    unfold sequenceText
    rw [truthy]
    match smokeFirst with
    | none => exact ⟨fun _ => unreliable,fun loud => absurd (fun _ _ => ⟨by decide,by intro same; cases same⟩) loud⟩
    | some false => exact ⟨fun silent => absurd rfl (silent seconds rfl).1,fun _ => flames_first_states _⟩
    | some true =>
      rcases durationText_length positive with ⟨short,below⟩ | ⟨long,above,digits⟩
      · exact ⟨fun silent => absurd ((silent seconds rfl).2 rfl) (not_le.mpr below),fun _ => short_states short⟩
      · refine ⟨fun _ => long_silent digits long,fun loud => absurd ?_ loud⟩
        intro other same
        cases same
        exact ⟨by decide,fun _ => above⟩

theorem growth_states (growth : Option Number) : ¬ StatesFlames (growthText growth) ∧
    (Says "visible fire region" (growthText growth) ↔ expanded growth = true) := by
  cases known : expanded growth with
  | true =>
    rw [growthText,known,if_pos rfl]
    decide +kernel
  | false =>
    rw [growthText,known,if_neg Bool.false_ne_true]
    decide +kernel

theorem occupant_silent (occupantVisible : Option Bool) : Silent (occupantText occupantVisible) := by
  match occupantVisible with
  | none => decide +kernel
  | some false => decide +kernel
  | some true => decide +kernel

def SilentRow (firstZone : String) (smokeFirst : Option Bool) (delay : Option Number) : Prop :=
  unconfigured (sanitizeZone firstZone) = true ∧ SilentSequence smokeFirst delay

theorem observations_states {incident : IncidentRow} {observations : Observations}
    (formed : contextObservations incident = some observations) :
    ((∀ text ∈ observations.texts, ¬ StatesFlames text) ↔
      SilentRow incident.firstZone incident.smokeFirst incident.smokeToFireDelaySeconds) ∧
    ((∀ text ∈ observations.texts, Silent text) ↔
      SilentRow incident.firstZone incident.smokeFirst incident.smokeToFireDelaySeconds ∧ expanded incident.maxGrowthPercent = false) := by
  have finite : incident.smokeToFireDelaySeconds ≠ some ⊤ := by
    intro infinite
    rw [contextObservations,formatObservations,infinite] at formed
    cases formed
  rw [contextObservations,formatObservations,roundedDuration_spoken finite,Option.map_some,Option.some.injEq] at formed
  subst formed
  have cause : Silent (codes "The exact cause is unconfirmed.") := by decide +kernel
  have origin := origin_states (sanitizeZone incident.firstZone)
  obtain ⟨quiet,loud⟩ := sequence_states incident.smokeFirst incident.smokeToFireDelaySeconds
  obtain ⟨plain,region⟩ := growth_states incident.maxGrowthPercent
  have occupant := occupant_silent incident.occupantVisible
  simp only [Observations.texts,List.forall_mem_cons,List.not_mem_nil,false_implies,implies_true,and_true]
  -- Where the origin or the sequence states flames, neither side of the two equivalences holds.
  have silentOrigin (silent : ¬ StatesFlames ((originText (sanitizeZone incident.firstZone)).take 180)) :
      unconfigured (sanitizeZone incident.firstZone) = true := by
    cases known : unconfigured (sanitizeZone incident.firstZone) with
    | true => rfl
    | false =>
      rw [known] at origin
      exact absurd origin silent
  have silentSequence (silent : ¬ StatesFlames ((sequenceText incident.smokeFirst (spokenDelay incident.smokeToFireDelaySeconds)).take 180)) :
      SilentSequence incident.smokeFirst incident.smokeToFireDelaySeconds := by
    by_contra spoken
    exact silent (loud spoken)
  refine ⟨⟨?_,?_⟩,?_,?_⟩
  · rintro ⟨one,two,_⟩
    exact ⟨silentOrigin one,silentSequence two⟩
  · rintro ⟨zone,sequence⟩
    rw [zone] at origin
    exact ⟨origin.1,(quiet sequence).1,plain,occupant.1,cause.1⟩
  · rintro ⟨one,two,three,_⟩
    exact ⟨⟨silentOrigin one.1,silentSequence two.1⟩,Bool.eq_false_iff.mpr fun grown => three.2 (region.mpr grown)⟩
  · rintro ⟨⟨zone,sequence⟩,growth⟩
    rw [zone] at origin
    exact ⟨origin,quiet sequence,⟨plain,fun said => Bool.false_ne_true (growth.symm.trans (region.mp said))⟩,occupant,cause⟩

def SmokeOnly (updates : List (Time × DeviceUpdate)) : Prop := ∀ delivery ∈ updates, delivery.2.data.fireConfidence = 0

def Unspoken (updates : List (Time × DeviceUpdate)) : Prop :=
  ∃ first ∈ updates.head?, SilentRow first.2.data.firstZone (earliest (fun data => data.smokeFirst) updates)
    (earliest (fun data => data.smokeToFireDelaySeconds) updates)

theorem row_unspoken {updates : List (Time × DeviceUpdate)} {incident : IncidentRow} (folded : Folded updates (evidence incident)) :
    (Unspoken updates ↔ SilentRow incident.firstZone incident.smokeFirst incident.smokeToFireDelaySeconds) ∧
    earliest (fun data => data.smokeToFireDelaySeconds) updates = incident.smokeToFireDelaySeconds ∧
    largest (fun data => data.fireRegionGrowthPercent) updates = incident.maxGrowthPercent := by
  refine ⟨?_,folded.smokeToFireDelaySeconds,folded.maxGrowthPercent⟩
  obtain ⟨now,update,head,_,_,zone,_⟩ := folded.first
  have stored : incident.firstZone = update.data.firstZone := zone
  rw [Unspoken,folded.smokeFirst,folded.smokeToFireDelaySeconds,head,stored]
  constructor
  · rintro ⟨first,same,silent⟩
    cases same
    exact silent
  · intro silent
    exact ⟨(now,update),rfl,silent⟩

def smokeIncident (firstZone : String) (firstZoneLength : firstZone.length ≤ 48) : IncidentUpdate :=
  { confirmedIncident with
    fireConfidence := 0
    firstZone := firstZone
    fireRegionGrowthPercent := none
    smokeFirst := none
    smokeToFireDelaySeconds := none
    fireConfidenceRange := by decide +kernel
    firstZoneLength := firstZoneLength }

def smokeUpdate (firstZone : String) (firstZoneLength : firstZone.length ≤ 48) : DeviceUpdate :=
  ⟨smokeIncident firstZone firstZoneLength,"ignis-qnxpi-01","boot-test"⟩

theorem smoke_stored (firstZone : String) (firstZoneLength : firstZone.length ≤ 48) :
    (Runs.run Operation.store initialized [(1000000,.update (smokeUpdate firstZone firstZoneLength))]).getIncident
      confirmedIncident.incidentId =
        some (insertedIncident 1000000 (smokeIncident firstZone firstZoneLength) "ignis-qnxpi-01" "boot-test") := by
  rw [Runs.run_cons,Runs.run_nil]
  have stores : (smokeUpdate firstZone firstZoneLength).storable = true := rfl
  show ((smokeUpdate firstZone firstZoneLength).store initialized 1000000).getIncident confirmedIncident.incidentId = _
  have own : confirmedIncident.incidentId = (smokeUpdate firstZone firstZoneLength).data.incidentId := rfl
  rw [store_getIncident stores,if_pos own]
  rfl

theorem smoke_received (firstZone : String) (firstZoneLength : firstZone.length ≤ 48) :
    SmokeOnly (received confirmedIncident.incidentId [(1000000,.update (smokeUpdate firstZone firstZoneLength))]) := by
  intro delivery member
  rw [received_update,if_pos ⟨rfl,rfl⟩,List.mem_singleton] at member
  rw [member]
  rfl

theorem observations_grounded (operations : List (Time × Operation)) (incidentId : String) (incident : IncidentRow)
    (found : (Runs.run Operation.store initialized operations).getIncident incidentId = some incident) :
    ((SmokeOnly (received incidentId operations) → ∀ observations, contextObservations incident = some observations →
        ∀ text ∈ observations.texts, ¬ StatesFlames text) ↔
      (SmokeOnly (received incidentId operations) →
        earliest (fun data => data.smokeToFireDelaySeconds) (received incidentId operations) = some ⊤ ∨
        Unspoken (received incidentId operations))) ∧
    ((SmokeOnly (received incidentId operations) → ∀ observations, contextObservations incident = some observations →
        ∀ text ∈ observations.texts, ¬ StatesFlames text ∧ ¬ Says "visible fire region" text) ↔
      (SmokeOnly (received incidentId operations) →
        earliest (fun data => data.smokeToFireDelaySeconds) (received incidentId operations) = some ⊤ ∨
        (Unspoken (received incidentId operations) ∧
          expanded (largest (fun data => data.fireRegionGrowthPercent) (received incidentId operations)) = false))) := by
  have folded : Folded (received incidentId operations) (evidence incident) := by
    obtain ⟨_,lost⟩ | ⟨stored,held,folded⟩ := evidence_folds operations incidentId
    · rw [storedEvidence,found] at lost
      cases lost
    · rw [storedEvidence,found] at held
      cases held
      exact folded
  obtain ⟨unspoken,delay,growth⟩ := row_unspoken folded
  rw [unspoken,delay,growth]
  cases formed : contextObservations incident with
  | none =>
    have infinite : incident.smokeToFireDelaySeconds = some ⊤ := of_decide_eq_true ((contextObservations_raises incident).mp formed)
    have vacuous {P : Observations → Prop} : ∀ observations, none = some observations → P observations := fun _ same => by cases same
    exact ⟨iff_of_true (fun _ => vacuous) fun _ => .inl infinite,iff_of_true (fun _ => vacuous) fun _ => .inl infinite⟩
  | some observations =>
    have finite : incident.smokeToFireDelaySeconds ≠ some ⊤ := by
      intro infinite
      have raised := (contextObservations_raises incident).mpr (decide_eq_true infinite)
      rw [raised] at formed
      cases formed
    obtain ⟨flames,silent⟩ := observations_states formed
    simp only [Option.some.injEq,forall_eq',finite,false_or]
    exact ⟨imp_congr_right fun _ => flames,imp_congr_right fun _ => silent⟩

theorem observations_grounded_unknown : ∃ observations,
    contextObservations (insertedIncident 1000000 (smokeIncident "Unknown" (by decide +kernel)) "ignis-qnxpi-01" "boot-test") =
      some observations ∧ ∀ text ∈ observations.texts, ¬ StatesFlames text := by
  have grounded := (observations_grounded [(1000000,.update (smokeUpdate "Unknown" (by decide +kernel)))] confirmedIncident.incidentId _
    (smoke_stored "Unknown" (by decide +kernel))).1
  refine ⟨_,rfl,grounded.mpr (fun _ => .inr ?_) (smoke_received "Unknown" (by decide +kernel)) _ rfl⟩
  rw [received_update,if_pos ⟨rfl,rfl⟩]
  exact ⟨_,rfl,by decide +kernel,fun seconds none => by cases none⟩

-- One smoke-only update whose first zone is the stove.
theorem smoke_states_flames : ∃ incident observations,
    (Runs.run Operation.store initialized [(1000000,.update (smokeUpdate "Stovetop" confirmedIncident.firstZoneLength))]).getIncident
      confirmedIncident.incidentId = some incident ∧
    SmokeOnly (received confirmedIncident.incidentId [(1000000,.update (smokeUpdate "Stovetop" confirmedIncident.firstZoneLength))]) ∧
    contextObservations incident = some observations ∧
    ∃ text ∈ observations.texts, text = codes "Visible flames first appeared in the configured stovetop zone." ∧ StatesFlames text := by
  refine ⟨_,_,smoke_stored "Stovetop" confirmedIncident.firstZoneLength,smoke_received "Stovetop" confirmedIncident.firstZoneLength,rfl,_,List.mem_cons_self,?_,?_⟩
  · decide +kernel
  · decide +kernel

end Ignis.ObservationFormatter
