import Mathlib.Data.List.Basic
import Mathlib.Data.List.Infix
import Mathlib.Data.Nat.ModEq
import Mathlib.Tactic.Ring

-- Items sent over a stream that arrives in pieces, and the numbers in their headers.
namespace Framing
variable {σ α β ε : Type*}

-- The big-endian bytes of the low `width` bytes of a number, and the number they spell.
def bigEndian : ℕ → ℕ → List UInt8
  | 0,_ => []
  | width + 1,n => UInt8.ofNat (n / 256 ^ width) :: bigEndian width n

def bigEndianValue : List UInt8 → ℕ
  | [] => 0
  | byte :: rest => byte.toNat * 256 ^ rest.length + bigEndianValue rest

@[simp] theorem length_bigEndian {width n : ℕ} : (bigEndian width n).length = width := by
  induction width with
  | zero => rfl
  | succ width ih => simp [bigEndian,ih]

theorem bigEndianValue_bigEndian {width n : ℕ} : bigEndianValue (bigEndian width n) = n % 256 ^ width := by
  induction width with
  | zero => simp [bigEndian,bigEndianValue,Nat.mod_one]
  | succ width ih =>
    have leading : (UInt8.ofNat (n / 256 ^ width)).toNat = n / 256 ^ width % 256 := by simp
    rw [bigEndian,bigEndianValue,ih,length_bigEndian,leading,Nat.mod_pow_succ,Nat.mul_comm,Nat.add_comm]

theorem bigEndianValue_lt {bytes : List UInt8} : bigEndianValue bytes < 256 ^ bytes.length := by
  induction bytes with
  | nil => decide
  | cons byte rest ih =>
    have small : byte.toNat ≤ 255 := Nat.le_of_lt_succ byte.toNat_lt
    have leading : byte.toNat * 256 ^ rest.length ≤ 255 * 256 ^ rest.length := Nat.mul_le_mul_right _ small
    rw [bigEndianValue,List.length_cons,pow_succ]
    omega

theorem bigEndian_bigEndianValue {bytes : List UInt8} : bigEndian bytes.length (bigEndianValue bytes) = bytes := by
  have low : ∀ width n extra, bigEndian width (extra * 256 ^ width + n) = bigEndian width n := by
    intro width
    induction width with
    | zero => exact fun _ _ => rfl
    | succ width ih =>
      intro n extra
      have shifted : extra * 256 ^ (width + 1) + n = extra * 256 * 256 ^ width + n := by rw [pow_succ]; ring
      have leading : (extra * 256 * 256 ^ width + n) / 256 ^ width = extra * 256 + n / 256 ^ width := by
        rw [Nat.add_comm,Nat.add_mul_div_right _ _ (Nat.pow_pos (by decide)),Nat.add_comm]
      have byte : UInt8.ofNat (extra * 256 + n / 256 ^ width) = UInt8.ofNat (n / 256 ^ width) := by
        apply UInt8.toNat_inj.mp
        simp
      rw [shifted,bigEndian,bigEndian,leading,byte,ih]
  induction bytes with
  | nil => rfl
  | cons byte rest ih =>
    have leading : (byte.toNat * 256 ^ rest.length + bigEndianValue rest) / 256 ^ rest.length = byte.toNat := by
      rw [Nat.add_comm,Nat.add_mul_div_right _ _ (Nat.pow_pos (by decide)),Nat.div_eq_of_lt bigEndianValue_lt,Nat.zero_add]
    rw [List.length_cons,bigEndian,bigEndianValue,leading,low,ih,UInt8.ofNat_toNat]

def field (offset width : ℕ) (bytes : List UInt8) : ℕ := bigEndianValue ((bytes.drop offset).take width)

def stream (encode : α → List β) (items : List α) : List β := items.flatMap encode

variable {encode : α → List β} {items earlier later : List α} {item : α}

@[simp] theorem stream_nil : stream encode [] = [] := rfl
@[simp] theorem stream_cons : stream encode (item :: items) = encode item ++ stream encode items := rfl
@[simp] theorem stream_append : stream encode (earlier ++ later) = stream encode earlier ++ stream encode later :=
  List.flatMap_append

def packed (fields : List (ℕ × ℕ)) : List UInt8 := stream (fun (width,n) => bigEndian width n) fields

def widths (fields : List (ℕ × ℕ)) : ℕ := (fields.map Prod.fst).sum

theorem length_packed {fields : List (ℕ × ℕ)} : (packed fields).length = widths fields := by
  induction fields with
  | nil => rfl
  | cons field fields ih => simp_all [packed,widths,stream]

theorem field_packed (front : List UInt8) (earlier later : List (ℕ × ℕ)) {offset width n : ℕ}
    (start : front.length + widths earlier = offset) (fits : n < 256 ^ width) :
    field offset width (front ++ packed (earlier ++ (width,n) :: later)) = n := by
  have before : (front ++ packed earlier).length = offset := by rw [List.length_append,length_packed,start]
  have parts : front ++ packed (earlier ++ (width,n) :: later) =
      (front ++ packed earlier) ++ (bigEndian width n ++ packed later) := by
    simp [packed]
  rw [parts,field,List.drop_left' before,List.take_left' length_bigEndian,bigEndianValue_bigEndian,Nat.mod_eq_of_lt fits]

def fieldsAt (bytes : List UInt8) : ℕ → List ℕ → List (ℕ × ℕ)
  | _,[] => []
  | offset,width :: rest => (width,field offset width bytes) :: fieldsAt bytes (offset + width) rest

theorem field_take {offset width length : ℕ} {bytes : List UInt8} (inside : offset + width ≤ length) :
    field offset width (bytes.take length) = field offset width bytes := by
  rw [field,field,List.drop_take,List.take_take,Nat.min_eq_left (by omega)]

theorem field_byte {offset : ℕ} {bytes : List UInt8} (inside : offset < bytes.length) :
    field offset 1 bytes = (bytes.getD offset 0).toNat := by
  have first : (bytes.drop offset).take 1 = [bytes[offset]] := by
    rw [List.drop_eq_getElem_cons inside]
    rfl
  simp [field,first,bigEndianValue,List.getElem?_eq_getElem inside]

theorem field_lt {offset width : ℕ} {bytes : List UInt8} : field offset width bytes < 256 ^ width := by
  refine bigEndianValue_lt.trans_le (Nat.pow_le_pow_right (by decide) ?_)
  exact List.length_take_le width _

theorem packed_fieldsAt {bytes : List UInt8} {offset : ℕ} {widths : List ℕ} (inside : offset + widths.sum ≤ bytes.length) :
    packed (fieldsAt bytes offset widths) = (bytes.drop offset).take widths.sum := by
  induction widths generalizing offset with
  | nil => simp [fieldsAt,packed]
  | cons width rest ih =>
    rw [List.sum_cons] at inside
    have size : ((bytes.drop offset).take width).length = width := by
      rw [List.length_take,List.length_drop]
      omega
    have first : bigEndian width (field offset width bytes) = (bytes.drop offset).take width := by
      have back := @bigEndian_bigEndianValue ((bytes.drop offset).take width)
      rwa [size] at back
    have behind : packed (fieldsAt bytes (offset + width) rest) = ((bytes.drop offset).drop width).take rest.sum := by
      rw [ih (by omega),List.drop_drop]
    have parts : packed (fieldsAt bytes offset (width :: rest)) =
        bigEndian width (field offset width bytes) ++ packed (fieldsAt bytes (offset + width) rest) := rfl
    rw [parts,first,behind,List.sum_cons,List.take_add]

-- A decoder takes items out of the bytes it holds, until bytes are missing.
def drain (next : σ → Except ε (Option α × σ)) : ℕ → σ → Except ε (List α × σ)
  | 0,s => .ok ([],s)
  | fuel + 1,s =>
    match next s with
    | .error e => .error e
    | .ok (none,s) => .ok ([],s)
    | .ok (some item,s) =>
      match drain next fuel s with
      | .error e => .error e
      | .ok (items,s) => .ok (item :: items,s)

def Incomplete (encode : α → List β) (bytes : List β) : List α → Prop
  | [] => bytes = []
  | item :: _ => bytes.length < (encode item).length

end Framing
