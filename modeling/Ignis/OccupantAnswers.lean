import Ignis.Timelines

-- The occupant's answer is stored twice, in the row of its incident and on its timeline.
namespace Ignis.Backend
open Tables Database Communications Escalation Runs

variable {settings : Settings} {app : App} {tick : Tick} {db : Database} {now : Time} {incidentId target : String}
  {entry : Entry} {n : ℕ}

def occupant (db : Database) (incidentId : String) : Option String :=
  (db.getIncident incidentId).bind IncidentRow.occupantResponse

def Answers (event : IncidentEvent) (text : String) : Prop :=
  (event.eventType = "OCCUPANT_CONFIRMED" ∧ text = "confirmed") ∨
  (event.eventType = "ESCALATION_CANCELLED" ∧ ∃ reason : CancelReason, text = reason.text) ∨
  (event.eventType = "NO_OCCUPANT_RESPONSE" ∧ text = "no_response")

-- What the device reports of itself is no answer, whatever it calls it.
def answering (incidentId : String) (event : IncidentEvent) : Bool :=
  event.incidentId = incidentId && event.source ≠ "qnx" &&
    ["OCCUPANT_CONFIRMED","ESCALATION_CANCELLED","NO_OCCUPANT_RESPONSE"].contains event.eventType

def lastAnswer (db : Database) (incidentId : String) : Option IncidentEvent :=
  (events db).reverse.find? (answering incidentId)

def Agrees (db : Database) (incidentId : String) : Prop :=
  match lastAnswer db incidentId with
  | none => occupant db incidentId = none
  | some event => ∃ text, occupant db incidentId = some text ∧ Answers event text

theorem clipped {text : String} {n : ℕ} (short : text.length ≤ n) : String.ofList (text.toList.take n) = text := by
  rw [List.take_of_length_le (by rw [String.length_toList]; exact short),String.ofList_toList]

structure Consistent (incidentId : String) (s : App × Bool) : Prop where
  stored : CallsStored s.1
  agrees : s.2 = false → Agrees s.1.database incidentId

end Ignis.Backend
