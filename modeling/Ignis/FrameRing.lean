import Ignis.Runs
import Ignis.Segments

-- The ring of camera frames (`frame_ring.hpp`): slots of one size in one storage. The sizes are
-- of vectors in memory and are natural numbers; the number of writes wraps.
namespace Ignis.FrameRing
open Runs Segments

inductive PixelFormat where
  | unknown | rgb888 | bgr888 | yuyv
deriving DecidableEq

structure FrameDescriptor where
  sequence : UInt64
  monotonicNs : UInt64
  width : UInt32
  height : UInt32
  stride : UInt32
  pixelFormat : PixelFormat
  slot : UInt32
  payloadBytes : UInt32
deriving DecidableEq

def blank : FrameDescriptor := ⟨0,0,0,0,0,.unknown,0,0⟩

structure Ring where
  slots : List FrameDescriptor
  storage : List UInt8
  bytesPerSlot : ℕ
  writeSequence : UInt64
  latestSlot : ℕ

def created (slots bytesPerSlot : ℕ) : Ring := ⟨List.replicate slots blank,List.replicate (slots * bytesPerSlot) 0,bytesPerSlot,0,0⟩

abbrev Frame := FrameDescriptor × List UInt8

def Ring.write (ring : Ring) (frame : Frame) : Bool × Ring :=
  if ring.slots = [] ∨ ring.bytesPerSlot < frame.2.length then (false,ring)
  else
    let index := ring.writeSequence.toNat % ring.slots.length
    (true,{ ring with
      slots := ring.slots.set index
        { frame.1 with slot := UInt32.ofNat index, payloadBytes := UInt32.ofNat frame.2.length }
      storage := overwrite ring.storage (index * ring.bytesPerSlot) frame.2
      writeSequence := ring.writeSequence + 1
      latestSlot := index })

def Ring.read (ring : Ring) (index : ℕ) : Option Frame :=
  match ring.slots[index]? with
  | none => none
  | some descriptor =>
    if descriptor.payloadBytes = 0 then none
    else some (descriptor,segment ring.storage (index * ring.bytesPerSlot) descriptor.payloadBytes.toNat)

def Ring.latest (ring : Ring) : Option Frame := ring.read ring.latestSlot

def step (ring : Ring) (frame : Frame) : Ring := (ring.write frame).2

def shown (index : ℕ) (frame : Frame) : Option Frame :=
  if frame.2 = [] then none
  else some ({ frame.1 with slot := UInt32.ofNat index, payloadBytes := UInt32.ofNat frame.2.length },frame.2)

def accepted (bytesPerSlot : ℕ) (frames : List Frame) : List Frame := frames.filter fun frame => frame.2.length ≤ bytesPerSlot

def place (slots count : ℕ) : ℕ := count % 2 ^ 64 % slots

structure Sound (slots bytesPerSlot : ℕ) (written : List Frame) (ring : Ring) : Prop where
  count : ring.slots.length = slots
  size : ring.storage.length = slots * bytesPerSlot
  bytes : ring.bytesPerSlot = bytesPerSlot
  fits : ∀ descriptor ∈ ring.slots, descriptor.payloadBytes.toNat ≤ bytesPerSlot
  sequence : ring.writeSequence.toNat = written.length % 2 ^ 64
  last : ring.latest = written.getLast?.bind (shown (place slots (written.length - 1)))
  -- a slot is only written again after all the others, as long as the counter has not wrapped
  held : written.length ≤ 2 ^ 64 → ∀ j frame, written[j]? = some frame → written.length ≤ j + slots →
    ring.read (place slots j) = shown (place slots j) frame

section
variable {slots bytesPerSlot index other : ℕ} {written : List Frame} {ring : Ring} {frame : Frame}

theorem sound_created (slots bytesPerSlot : ℕ) : Sound slots bytesPerSlot [] (created slots bytesPerSlot) := by
  refine ⟨List.length_replicate,List.length_replicate,rfl,?_,rfl,?_,nofun⟩
  · intro descriptor inside
    rw [(List.mem_replicate.mp inside).2]
    exact Nat.zero_le _
  · cases slots with
    | zero => rfl
    | succ slots => rfl

theorem payload_size (small : bytesPerSlot < 2 ^ 32) (fits : frame.2.length ≤ bytesPerSlot) :
    (UInt32.ofNat frame.2.length).toNat = frame.2.length := by
  rw [UInt32.toNat_ofNat']
  exact Nat.mod_eq_of_lt (by omega)

theorem payload_zero (small : bytesPerSlot < 2 ^ 32) (fits : frame.2.length ≤ bytesPerSlot) :
    UInt32.ofNat frame.2.length = 0 ↔ frame.2 = [] := by
  rw [← UInt32.toNat_inj,payload_size small fits]
  exact List.length_eq_zero_iff

theorem place_lt (positive : 0 < slots) (count : ℕ) : place slots count < slots := Nat.mod_lt _ positive

theorem slot_inside (bytesPerSlot : ℕ) (below : index < slots) : index * bytesPerSlot + bytesPerSlot ≤ slots * bytesPerSlot := by
  rw [← Nat.succ_mul]
  exact Nat.mul_le_mul_right bytesPerSlot below

theorem slots_apart (bytesPerSlot : ℕ) (different : index ≠ other) :
    other * bytesPerSlot + bytesPerSlot ≤ index * bytesPerSlot ∨ index * bytesPerSlot + bytesPerSlot ≤ other * bytesPerSlot := by
  rcases Nat.lt_or_gt_of_ne different with before | behind
  · exact Or.inr (slot_inside bytesPerSlot before)
  · exact Or.inl (slot_inside bytesPerSlot behind)

theorem place_ne {earlier later : ℕ} (order : earlier < later) (near : later < earlier + slots) (unwrapped : later < 2 ^ 64) :
    place slots later ≠ place slots earlier := by
  intro same
  rw [place,place,Nat.mod_eq_of_lt unwrapped,Nat.mod_eq_of_lt (by omega : earlier < 2 ^ 64)] at same
  have round : (later - earlier) % slots = 0 := Nat.sub_mod_eq_zero_of_mod_eq same
  rw [Nat.mod_eq_of_lt (by omega)] at round
  omega

def Ring.put (ring : Ring) (index : ℕ) (frame : Frame) : Ring :=
  { ring with
    slots := ring.slots.set index { frame.1 with slot := UInt32.ofNat index, payloadBytes := UInt32.ofNat frame.2.length }
    storage := overwrite ring.storage (index * ring.bytesPerSlot) frame.2
    writeSequence := ring.writeSequence + 1
    latestSlot := index }

theorem write_taken (sound : Sound slots bytesPerSlot written ring) (positive : 0 < slots) (fits : frame.2.length ≤ bytesPerSlot) :
    ring.write frame = (true,ring.put (place slots written.length) frame) := by
  have some : ring.slots ≠ [] := List.ne_nil_of_length_pos (by rw [sound.count]; exact positive)
  rw [Ring.write,if_neg (by rw [sound.bytes]; simp only [some,false_or]; omega)]
  simp only [sound.sequence,sound.count]
  rfl

theorem write_refused (sound : Sound slots bytesPerSlot written ring) (large : ¬ frame.2.length ≤ bytesPerSlot) :
    ring.write frame = (false,ring) := by
  rw [Ring.write,if_pos (Or.inr (by rw [sound.bytes]; omega))]

theorem read_put (sound : Sound slots bytesPerSlot written ring) (small : bytesPerSlot < 2 ^ 32) (below : index < slots)
    (fits : frame.2.length ≤ bytesPerSlot) : (ring.put index frame).read index = shown index frame := by
  have room := slot_inside bytesPerSlot below
  have inside : index * bytesPerSlot + frame.2.length ≤ ring.storage.length := by
    rw [sound.size]
    omega
  simp only [Ring.read,Ring.put,List.getElem?_set_self (by rw [sound.count]; exact below : index < ring.slots.length),sound.bytes,
    payload_zero small fits,payload_size small fits,segment_overwrite inside,shown]

theorem read_put_other (sound : Sound slots bytesPerSlot written ring) (below : index < slots) (different : index ≠ other)
    (fits : frame.2.length ≤ bytesPerSlot) : (ring.put index frame).read other = ring.read other := by
  have room := slot_inside bytesPerSlot below
  have apart := slots_apart bytesPerSlot different
  have inside : index * bytesPerSlot + frame.2.length ≤ ring.storage.length := by
    rw [sound.size]
    omega
  simp only [Ring.read,Ring.put,List.getElem?_set_ne different,sound.bytes]
  cases found : ring.slots[other]? with
  | none => rfl
  | some descriptor =>
    have held := sound.fits descriptor (List.mem_of_getElem? found)
    simp only
    rw [segment_apart inside (by omega)]

theorem sound_put (sound : Sound slots bytesPerSlot written ring) (positive : 0 < slots) (small : bytesPerSlot < 2 ^ 32)
    (fits : frame.2.length ≤ bytesPerSlot) :
    Sound slots bytesPerSlot (written ++ [frame]) (ring.put (place slots written.length) frame) := by
  have below := place_lt positive written.length
  have room := slot_inside bytesPerSlot below
  refine ⟨?_,?_,sound.bytes,?_,?_,?_,?_⟩
  · rw [Ring.put,List.length_set,sound.count]
  · rw [Ring.put,sound.bytes,length_overwrite (by rw [sound.size]; omega),sound.size]
  · intro descriptor inside
    rcases List.mem_or_eq_of_mem_set inside with old | new
    · exact sound.fits descriptor old
    · rw [new]
      simp only [payload_size small fits]
      exact fits
  · rw [Ring.put,UInt64.toNat_add,sound.sequence,List.length_append,List.length_singleton]
    simp only [UInt64.toNat_one]
    omega
  · rw [List.getLast?_append,List.length_append,List.length_singleton,Nat.add_sub_cancel]
    exact read_put sound small below fits
  · intro unwrapped j kept found recent
    rw [List.length_append,List.length_singleton] at unwrapped recent
    rcases Nat.lt_or_ge j written.length with earlier | last
    · rw [List.getElem?_append_left earlier] at found
      rw [read_put_other sound below (place_ne earlier (by omega) (by omega)) fits]
      exact sound.held (by omega) j kept found (by omega)
    · obtain ⟨inside,_⟩ := List.getElem?_eq_some_iff.mp found
      rw [List.length_append,List.length_singleton] at inside
      obtain rfl : j = written.length := by omega
      rw [List.getElem?_concat_length,Option.some_inj] at found
      rw [← found]
      exact read_put sound small below fits

theorem sound_run (frames : List Frame) (positive : 0 < slots) (small : bytesPerSlot < 2 ^ 32) (sound : Sound slots bytesPerSlot written ring) :
    Sound slots bytesPerSlot (written ++ accepted bytesPerSlot frames) (run step ring frames) := by
  induction frames generalizing written ring with
  | nil => rwa [accepted,List.filter_nil,List.append_nil]
  | cons frame frames ih =>
    rw [run_cons,step]
    by_cases fits : frame.2.length ≤ bytesPerSlot
    · rw [write_taken sound positive fits,accepted,List.filter_cons_of_pos (by simpa using fits),List.append_cons]
      exact ih (sound_put sound positive small fits)
    · rw [write_refused sound fits,accepted,List.filter_cons_of_neg (by simpa using fits)]
      exact ih sound

end

end Ignis.FrameRing
