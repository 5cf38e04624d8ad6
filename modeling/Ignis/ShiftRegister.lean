import Mathlib.Data.List.Basic
import Mathlib.Logic.Function.Iterate

-- A reflected shift register with feedback, of any width and polynomial: the remainder of a cyclic
-- redundancy check, one bit of the message after another.
namespace ShiftRegister
variable {n : ℕ} {poly a b r : BitVec n} {bit : Bool} {p q w : List Bool}

def next (poly r : BitVec n) : BitVec n := if r.getLsbD 0 then (r >>> 1) ^^^ poly else r >>> 1

def single (bit : Bool) : BitVec n := BitVec.setWidth n (BitVec.ofBool bit)

def absorb (poly r : BitVec n) (bit : Bool) : BitVec n := next poly (r ^^^ single bit)

def feed (poly r : BitVec n) (bits : List Bool) : BitVec n := bits.foldl (absorb poly) r

-- The bits of a list in the places of a word, the first in the lowest.
def word : List Bool → BitVec n
  | [] => 0#n
  | bit :: rest => single bit ^^^ (word rest <<< 1)

theorem feed_append : feed poly r (p ++ q) = feed poly (feed poly r p) q := List.foldl_append

theorem next_xor : next poly (a ^^^ b) = next poly a ^^^ next poly b := by
  unfold next
  rw [BitVec.getLsbD_xor,BitVec.ushiftRight_xor_distrib]
  cases a.getLsbD 0 <;> cases b.getLsbD 0
  · rfl
  · exact BitVec.xor_assoc ..
  · show a >>> 1 ^^^ b >>> 1 ^^^ poly = a >>> 1 ^^^ poly ^^^ b >>> 1
    rw [BitVec.xor_assoc,BitVec.xor_comm (b >>> 1),← BitVec.xor_assoc]
  · show a >>> 1 ^^^ b >>> 1 = a >>> 1 ^^^ poly ^^^ (b >>> 1 ^^^ poly)
    rw [BitVec.xor_comm (b >>> 1) poly,BitVec.xor_assoc,← BitVec.xor_assoc poly,BitVec.xor_self,BitVec.zero_xor]

-- The feedback shows in the top bit, which a shift leaves clear, so no register is lost.
theorem next_zero_iff (top : poly.getLsbD (n - 1) = true) (zero : next poly r = 0#n) : r = 0#n := by
  have wide : 0 < n := by
    by_contra narrow
    have none : poly.getLsbD (n - 1) = false := BitVec.getLsbD_of_ge _ _ (by omega)
    rw [none] at top
    cases top
  have shifted : ∀ i, (r >>> 1).getLsbD i = r.getLsbD (1 + i) := fun i => BitVec.getLsbD_ushiftRight ..
  unfold next at zero
  cases low : r.getLsbD 0 with
  | true =>
    rw [low,if_pos rfl] at zero
    have high : ((r >>> 1) ^^^ poly).getLsbD (n - 1) = false := by
      rw [zero]
      exact BitVec.getLsbD_zero
    rw [BitVec.getLsbD_xor,shifted,top,BitVec.getLsbD_of_ge r (1 + (n - 1)) (by omega)] at high
    cases high
  | false =>
    rw [low,if_neg (by decide)] at zero
    apply BitVec.eq_of_getLsbD_eq
    intro i inside
    rw [BitVec.getLsbD_zero]
    cases i with
    | zero => exact low
    | succ i =>
      rw [Nat.add_comm,← shifted,zero]
      exact BitVec.getLsbD_zero

theorem next_injective (top : poly.getLsbD (n - 1) = true) : Function.Injective (next poly) := by
  intro a b same
  have zero : next poly (a ^^^ b) = 0#n := by rw [next_xor,same,BitVec.xor_self]
  have equal := next_zero_iff top zero
  calc a = a ^^^ b ^^^ b := by rw [BitVec.xor_assoc,BitVec.xor_self,BitVec.xor_zero]
    _ = b := by rw [equal,BitVec.zero_xor]

theorem absorb_injective (top : poly.getLsbD (n - 1) = true) (bit : Bool) : Function.Injective fun r => absorb poly r bit := by
  intro a b same
  have equal := next_injective top same
  exact (BitVec.xor_left_inj _).mp equal

theorem feed_injective (top : poly.getLsbD (n - 1) = true) (bits : List Bool) : Function.Injective fun r => feed poly r bits := by
  induction bits with
  | nil => exact fun _ _ same => same
  | cons bit rest ih => exact fun a b same => absorb_injective top bit (ih same)

theorem getLsbD_word {i : ℕ} (inside : i < n) : (word w : BitVec n).getLsbD i = w.getD i false := by
  induction w generalizing i with
  | nil => simp [word]
  | cons bit rest ih =>
    rw [word,BitVec.getLsbD_xor]
    cases i with
    | zero => simp [single,inside]
    | succ i =>
      have alone : (single bit : BitVec n).getLsbD (i + 1) = false := by simp [single]
      have above : ¬ i + 1 < 1 := by omega
      rw [alone,BitVec.getLsbD_shiftLeft,decide_eq_true inside,decide_eq_false above,Nat.add_sub_cancel,ih (by omega)]
      simp

theorem next_shifted (short : w.length < n) : next poly (word w <<< 1) = word w := by
  have low : (word w <<< 1 : BitVec n).getLsbD 0 = false := by simp
  rw [next,low,if_neg (by decide)]
  apply BitVec.eq_of_getLsbD_eq
  intro i inside
  rw [BitVec.getLsbD_ushiftRight,BitVec.getLsbD_shiftLeft,Nat.add_sub_cancel_left]
  by_cases last : 1 + i < n
  · simp [last]
  · have beyond : (word w : BitVec n).getLsbD i = false := by
      rw [getLsbD_word inside]
      rw [List.getD_eq_getElem?_getD,List.getElem?_eq_none (by omega)]
      rfl
    rw [beyond,Bool.and_false]

theorem feed_load (short : w.length ≤ n) : feed poly r w = (next poly)^[w.length] (r ^^^ word w) := by
  induction w generalizing r with
  | nil => simp [feed,word]
  | cons bit rest ih =>
    rw [List.length_cons] at short
    have moved : next poly (word rest <<< 1) = word rest := next_shifted (by omega)
    have first : next poly (r ^^^ word (bit :: rest)) = absorb poly r bit ^^^ word rest := by
      rw [word,← BitVec.xor_assoc,next_xor,moved]
      rfl
    rw [List.length_cons,Function.iterate_succ_apply,first]
    exact ih (by omega)

theorem word_injective (lengths : p.length = q.length) (short : p.length ≤ n) (same : (word p : BitVec n) = word q) : p = q := by
  apply List.ext_getElem lengths
  intro i one two
  have bit : p.getD i false = q.getD i false := by
    rw [← getLsbD_word (n := n) (by omega),same,getLsbD_word (by omega)]
  simpa [one,two] using bit

theorem load_injective (top : poly.getLsbD (n - 1) = true) (lengths : p.length = q.length) (short : p.length ≤ n)
    (same : feed poly r p = feed poly r q) : p = q := by
  rw [feed_load short,feed_load (lengths ▸ short),lengths] at same
  have words := (next_injective top).iterate q.length same
  exact word_injective lengths short ((BitVec.xor_right_inj _).mp words)

-- Messages that differ, but only within as many consecutive bits as the register has, leave it
-- different: what comes before them is the same, and nothing that comes after makes it the same again.
theorem feed_burst (top : poly.getLsbD (n - 1) = true) (lengths : p.length = q.length) (other : p ≠ q) (start : ℕ)
    (within : ∀ i, p[i]? ≠ q[i]? → start ≤ i ∧ i < start + n) : feed poly r p ≠ feed poly r q := by
  have outside : ∀ i, i < start ∨ start + n ≤ i → p[i]? = q[i]? := by
    intro i away
    by_contra differs
    have place := within i differs
    omega
  have before : p.take start = q.take start := by
    apply List.ext_getElem?
    intro i
    rw [List.getElem?_take,List.getElem?_take]
    split
    · rename_i low
      exact outside i (.inl low)
    · rfl
  have after : (p.drop start).drop n = (q.drop start).drop n := by
    apply List.ext_getElem?
    intro i
    rw [List.drop_drop,List.drop_drop,List.getElem?_drop,List.getElem?_drop]
    exact outside _ (.inr (by omega))
  have parts : ∀ l : List Bool, l = l.take start ++ ((l.drop start).take n ++ (l.drop start).drop n) := by
    intro l
    rw [List.take_append_drop,List.take_append_drop]
  intro same
  rw [parts p,parts q,feed_append,feed_append,feed_append,feed_append,before,after] at same
  have middle : (p.drop start).take n = (q.drop start).take n := by
    refine load_injective top ?_ ?_ (feed_injective top _ same)
    · rw [List.length_take,List.length_take,List.length_drop,List.length_drop,lengths]
    · exact List.length_take_le ..
  exact other (by rw [parts p,parts q,before,middle,after])

end ShiftRegister
