import Mathlib.Data.List.Basic
import Mathlib.Data.List.DropRight
import Mathlib.Data.Int.Notation

-- Python's strings, as sequences of code points, lone surrogates included; and what `json.loads`
-- gives and `json.dumps` takes, where dicts keep the order in which their keys were inserted.
namespace Ignis.JsonValues

abbrev Str := List ℕ

def codes (text : String) : Str := text.toList.map Char.toNat

def isSpace (c : ℕ) : Bool :=
  (9 ≤ c && c ≤ 13) || (28 ≤ c && c ≤ 32) || c = 0x85 || c = 0xA0 || c = 0x1680 || (0x2000 ≤ c && c ≤ 0x200A) ||
    c = 0x2028 || c = 0x2029 || c = 0x202F || c = 0x205F || c = 0x3000

def strip (text : Str) : Str := (text.dropWhile isSpace).rdropWhile isSpace

def decimal (n : ℕ) : Str := (Nat.toDigits 10 n).map Char.toNat

theorem decimal_digits (n : ℕ) : ∀ c ∈ decimal n, 48 ≤ c ∧ c ≤ 57 := by
  intro c member
  obtain ⟨d,inside,rfl⟩ := List.mem_map.mp member
  have digit : d.isDigit = true := Nat.isDigit_of_mem_toDigits (by decide) (by decide) inside
  simp only [Char.isDigit,Bool.and_eq_true,decide_eq_true_eq,ge_iff_le,UInt32.le_iff_toNat_le] at digit
  exact digit

theorem decimal_ne_nil (n : ℕ) : decimal n ≠ [] := by
  intro empty
  exact Nat.toDigits_ne_nil (List.map_eq_nil_iff.mp empty)

-- The floats are left open.
inductive Json (R : Type) where
  | null
  | boolean (value : Bool)
  | integer (value : ℤ)
  | real (value : R)
  | text (value : Str)
  | array (items : List (Json R))
  | object (fields : List (Str × Json R))

variable {R : Type} {hidden : Str → Prop} {rearranged : List (Str × Json R) → List (Str × Json R) → Prop}
  {v w : Json R} {items items' : List (Json R)} {fields fields' : List (Str × Json R)}

-- A dict's keys keep their places when one of them is given a new value.
def insert (key : Str) (value : Json R) : List (Str × Json R) → List (Str × Json R)
  | [] => [(key,value)]
  | (old,held) :: rest => if old = key then (key,value) :: rest else (old,held) :: insert key value rest

def Json.scalar : Json R → Bool
  | .array _ | .object _ => false
  | _ => true

-- Two values that agree but for what is stored under hidden keys. Dicts have their keys in
-- orders that `rearranged` relates: `Eq` for one order, `List.Perm` for any two.
mutual
inductive Agree (hidden : Str → Prop) (rearranged : List (Str × Json R) → List (Str × Json R) → Prop) :
    Json R → Json R → Prop
  | scalar (v : Json R) : v.scalar = true → Agree hidden rearranged v v
  | array (items items' : List (Json R)) : AgreeItems hidden rearranged items items' →
      Agree hidden rearranged (.array items) (.array items')
  | object (fields fields' turned : List (Str × Json R)) : AgreeFields hidden rearranged fields turned → rearranged turned fields' →
      Agree hidden rearranged (.object fields) (.object fields')

inductive AgreeItems (hidden : Str → Prop) (rearranged : List (Str × Json R) → List (Str × Json R) → Prop) :
    List (Json R) → List (Json R) → Prop
  | nil : AgreeItems hidden rearranged [] []
  | cons (v w : Json R) (items items' : List (Json R)) : Agree hidden rearranged v w → AgreeItems hidden rearranged items items' →
      AgreeItems hidden rearranged (v :: items) (w :: items')

inductive AgreeFields (hidden : Str → Prop) (rearranged : List (Str × Json R) → List (Str × Json R) → Prop) :
    List (Str × Json R) → List (Str × Json R) → Prop
  | nil : AgreeFields hidden rearranged [] []
  | under (key : Str) (v w : Json R) (fields fields' : List (Str × Json R)) : hidden key → AgreeFields hidden rearranged fields fields' →
      AgreeFields hidden rearranged ((key,v) :: fields) ((key,w) :: fields')
  | shown (key : Str) (v w : Json R) (fields fields' : List (Str × Json R)) : Agree hidden rearranged v w →
      AgreeFields hidden rearranged fields fields' → AgreeFields hidden rearranged ((key,v) :: fields) ((key,w) :: fields')
end

-- With nothing hidden and one order, agreement is equality.
mutual
theorem agree_eq {v w : Json R} (agree : Agree (fun _ => False) Eq v w) : v = w := by
  cases agree with
  | scalar _ _ => rfl
  | array items items' each => rw [agreeItems_eq each]
  | object fields fields' turned each order => rw [agreeFields_eq each,order]

theorem agreeItems_eq {items items' : List (Json R)} (agree : AgreeItems (fun _ => False) Eq items items') : items = items' := by
  cases agree with
  | nil => rfl
  | cons v w items items' head rest => rw [agree_eq head,agreeItems_eq rest]

theorem agreeFields_eq {fields fields' : List (Str × Json R)} (agree : AgreeFields (fun _ => False) Eq fields fields') :
    fields = fields' := by
  cases agree with
  | nil => rfl
  | under _ _ _ _ _ none _ => exact none.elim
  | shown key v w fields fields' head rest => rw [agree_eq head,agreeFields_eq rest]
end

end Ignis.JsonValues
