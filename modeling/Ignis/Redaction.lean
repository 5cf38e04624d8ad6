import Ignis.JsonValues

-- Redaction of logged contexts: what is stored under a sensitive key makes no difference to a log
-- line, at whatever depth.
namespace Ignis.Redaction
open JsonValues

def sensitiveKeys : List Str :=
  [codes "authorization",codes "device_token",codes "elevenlabs_api_key",codes "xi-api-key",codes "twilio_auth_token",
    codes "signed_url"]

def redacted : Str := codes "[REDACTED]"

variable {R : Type} (casefold : Str → Str)

def Sensitive (key : Str) : Prop := casefold key ∈ sensitiveKeys

instance decidableSensitive (key : Str) : Decidable (Sensitive casefold key) :=
  inferInstanceAs (Decidable (casefold key ∈ sensitiveKeys))

mutual
def redact : Json R → Json R
  | .object fields => .object (redactFields fields)
  | .array items => .array (redactItems items)
  | value => value

def redactItems : List (Json R) → List (Json R)
  | [] => []
  | item :: items => redact item :: redactItems items

def redactFields : List (Str × Json R) → List (Str × Json R)
  | [] => []
  | (key,item) :: fields => (key,if Sensitive casefold key then .text redacted else redact item) :: redactFields fields
end

def truthy (zero : R → Bool) : Json R → Bool
  | .null => false
  | .boolean value => value
  | .integer value => value ≠ 0
  | .real value => !zero value
  | .text value => value ≠ []
  | .array items => !items.isEmpty
  | .object fields => !fields.isEmpty

-- `JsonFormatter.format`; a record without a context has null for one.
def format (zero : R → Bool) (dumps : Json R → Str) (timestamp levelname message : Str) (context : Json R) : Str :=
  let payload := [(codes "timestamp",Json.text timestamp),(codes "severity",.text levelname),
    (codes "service",.text (codes "backend")),(codes "message",.text message)]
  let payload := if truthy zero context then insert (codes "context") (redact casefold context) payload else payload
  dumps (.object payload)

theorem redactFields_map (fields : List (Str × Json R)) : redactFields casefold fields =
    fields.map fun field => (field.1,if Sensitive casefold field.1 then .text redacted else redact casefold field.2) := by
  induction fields with
  | nil => rfl
  | cons field fields ih => rw [redactFields,ih,List.map_cons]

variable {casefold} {rearranged : List (Str × Json R) → List (Str × Json R) → Prop}

-- Two runs side by side, along the derivation of the agreement of their inputs.
mutual
theorem redact_agree {v w : Json R}
    (keeps : ∀ fields fields', rearranged fields fields' → rearranged (redactFields casefold fields) (redactFields casefold fields'))
    (agree : Agree (Sensitive casefold) rearranged v w) :
    Agree (fun _ => False) rearranged (redact casefold v) (redact casefold w) := by
  cases agree with
  | scalar _ scalar =>
    cases v with
    | array _ => cases scalar
    | object _ => cases scalar
    | _ => exact .scalar _ rfl
  | array items items' each => exact .array _ _ (redactItems_agree keeps each)
  | object fields fields' turned each order =>
    exact .object _ _ _ (redactFields_agree keeps each) (keeps turned fields' order)

theorem redactItems_agree {items items' : List (Json R)}
    (keeps : ∀ fields fields', rearranged fields fields' → rearranged (redactFields casefold fields) (redactFields casefold fields'))
    (agree : AgreeItems (Sensitive casefold) rearranged items items') :
    AgreeItems (fun _ => False) rearranged (redactItems casefold items) (redactItems casefold items') := by
  cases agree with
  | nil => exact .nil
  | cons v w items items' head rest => exact .cons _ _ _ _ (redact_agree keeps head) (redactItems_agree keeps rest)

theorem redactFields_agree {fields fields' : List (Str × Json R)}
    (keeps : ∀ fields fields', rearranged fields fields' → rearranged (redactFields casefold fields) (redactFields casefold fields'))
    (agree : AgreeFields (Sensitive casefold) rearranged fields fields') :
    AgreeFields (fun _ => False) rearranged (redactFields casefold fields) (redactFields casefold fields') := by
  cases agree with
  | nil => exact .nil
  | under key v w fields fields' sensitive rest =>
    rw [redactFields,redactFields,if_pos sensitive,if_pos sensitive]
    exact .shown _ _ _ _ _ (.scalar _ rfl) (redactFields_agree keeps rest)
  | shown key v w fields fields' head rest =>
    rw [redactFields,redactFields]
    apply AgreeFields.shown
    · split
      · exact .scalar _ rfl
      · exact redact_agree keeps head
    · exact redactFields_agree keeps rest
end

mutual
theorem redact_outside (v : Json R) : Agree (Sensitive casefold) Eq v (redact casefold v) := by
  cases v with
  | array items => exact .array _ _ (redactItems_outside items)
  | object fields => exact .object _ _ _ (redactFields_outside fields) rfl
  | _ => exact .scalar _ rfl

theorem redactItems_outside (items : List (Json R)) : AgreeItems (Sensitive casefold) Eq items (redactItems casefold items) := by
  cases items with
  | nil => exact .nil
  | cons item items => exact .cons _ _ _ _ (redact_outside item) (redactItems_outside items)

theorem redactFields_outside (fields : List (Str × Json R)) :
    AgreeFields (Sensitive casefold) Eq fields (redactFields casefold fields) := by
  match fields with
  | [] => exact .nil
  | (key,item) :: fields =>
    rw [redactFields]
    split
    · rename_i sensitive
      exact .under _ _ _ _ _ sensitive (redactFields_outside fields)
    · exact .shown _ _ _ _ _ (redact_outside item) (redactFields_outside fields)
end

theorem redact_same {v w : Json R} (agree : Agree (Sensitive casefold) Eq v w) : redact casefold v = redact casefold w :=
  agree_eq (redact_agree (fun _ _ same => congrArg (redactFields casefold) same) agree)

theorem truthy_agree {v w : Json R} (zero : R → Bool) (agree : Agree (Sensitive casefold) Eq v w) : truthy zero v = truthy zero w := by
  cases agree with
  | scalar _ _ => rfl
  | array items items' each => cases each <;> rfl
  | object fields fields' turned each order =>
    rw [← order]
    cases each <;> rfl

theorem redact_hides (casefold : Str → Str) (v w : Json R) :
    (Agree (Sensitive casefold) Eq v w → redact casefold v = redact casefold w) ∧
    (Agree (Sensitive casefold) List.Perm v w → Agree (fun _ => False) List.Perm (redact casefold v) (redact casefold w)) ∧
    (Agree (Sensitive casefold) Eq v w → ∀ zero dumps timestamp levelname message,
      format casefold zero dumps timestamp levelname message v = format casefold zero dumps timestamp levelname message w) ∧
    Agree (Sensitive casefold) Eq v (redact casefold v) ∧
    redact casefold (redact casefold v) = redact casefold v := by
  refine ⟨redact_same,redact_agree ?_,?_,redact_outside v,(redact_same (redact_outside v)).symm⟩
  · intro fields fields' order
    rw [redactFields_map,redactFields_map]
    exact order.map _
  · intro agree zero dumps timestamp levelname message
    rw [format,format,truthy_agree zero agree,redact_same agree]

def asciiFold (text : Str) : Str := text.map fun code => if 65 ≤ code ∧ code ≤ 90 then code + 32 else code

def loggedContext (token : Json Unit) : Json Unit :=
  .object [(codes "device",.object [(codes "Device_Token",token),(codes "id",.integer 1)]),(codes "links",.array [.object [(codes "signed_url",token)]])]

-- A token and a record of one, two levels down.
theorem redact_hides_token : redact asciiFold (loggedContext (.text (codes "secret"))) =
    redact asciiFold (loggedContext (.object [(codes "device_token",.null)])) := by
  refine (redact_hides asciiFold _ _).1 (.object _ _ _ ?_ rfl)
  refine .shown _ _ _ _ _ (.object _ _ _ (.under _ _ _ _ _ (by decide) ?_) rfl) (.shown _ _ _ _ _ (.array _ _ (.cons _ _ _ _ ?_ .nil)) .nil)
  · exact .shown _ _ _ _ _ (.scalar _ rfl) .nil
  · exact .object _ _ _ (.under _ _ _ _ _ (by decide) .nil) rfl

end Ignis.Redaction
