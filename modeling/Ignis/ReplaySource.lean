import Mathlib.Algebra.Group.Nat.Defs
import Ignis.EngineConsistency

-- The replay of a recorded clip (qnx/camera_service/src/frame_sources.cpp), and what the incident
-- engine makes of the sequence numbers it gives its frames.
namespace Ignis.ReplaySource
open Runs IncidentEngine

-- Files by their path; a path that cannot be opened has none.
abbrev Files := String → Option (List UInt8)

inductive PixelFormat where
  | unknown | rgb888 | bgr888 | yuyv
  deriving DecidableEq

structure FrameDescriptor where
  sequence : UInt64
  monotonicNs : UInt64
  width : UInt32
  height : UInt32
  stride : UInt32
  pixelFormat : PixelFormat
  slot : UInt32
  payloadBytes : UInt32

structure CapturedFrame where
  descriptor : FrameDescriptor
  pixels : List UInt8

structure ReplayFrameSource where
  root : String
  width : UInt32
  height : UInt32
  sequence : UInt64 := 0
  initialized : Bool := false

def zeroPadded (digits : ℕ) (n : UInt64) : String :=
  String.ofList (List.replicate (digits - (toString n).length) '0') ++ toString n

namespace ReplayFrameSource
variable (source : ReplayFrameSource) (files : Files)

def framePath (sequence : UInt64) : String := source.root ++ "/frame-" ++ zeroPadded 6 sequence ++ ".rgb"
def firstPath : String := source.root ++ "/frame-000001.rgb"

def initializeReplay : Except String Unit × ReplayFrameSource :=
  match files source.firstPath with
  | none => (.error "replay root must contain frame-000001.rgb",source)
  | some _ => (.ok (),{ source with initialized := true })

def expected : ℕ := source.width.toNat * source.height.toNat * 3 % 2^64

-- The stream that is read, and the counter once it is open: past the last file both start again.
def opened : Option (List UInt8) × UInt64 :=
  match files (source.framePath (source.sequence + 1)) with
  | some bytes => (some bytes,source.sequence + 1)
  | none => (files source.firstPath,1)

def capture (now : UInt64) : Except String CapturedFrame × ReplayFrameSource :=
  if !source.initialized then (.error "source is not initialized",source)
  else
    let (input,sequence) := source.opened files
    let next := { source with sequence := sequence }
    let pixels := (input.getD []).take source.expected
    if pixels.length ≠ source.expected then (.error "replay RGB frame has an invalid byte length",next)
    else (.ok ⟨⟨sequence,now,source.width,source.height,source.width * 3,.rgb888,0,.ofNat source.expected⟩,pixels⟩,next)

def captures (files : Files) : ReplayFrameSource → List UInt64 → List (Except String CapturedFrame)
  | _,[] => []
  | source,now :: clock =>
    let (answer,next) := source.capture files now
    answer :: next.captures files clock

end ReplayFrameSource

def sequences (answers : List (Except String CapturedFrame)) : List UInt64 :=
  answers.filterMap fun answer => answer.toOption.map fun frame => frame.descriptor.sequence

structure Clip (files : Files) (source : ReplayFrameSource) (n : UInt64) : Prop where
  some : 1 ≤ n
  frames : ∀ k, 1 ≤ k → k ≤ n → ∃ bytes, files (source.framePath k) = .some bytes ∧ bytes.length = source.expected
  last : files (source.framePath (n + 1)) = none

variable {files : Files} {source : ReplayFrameSource} {n : UInt64} {now : UInt64} {clock : List UInt64}

def answered (source : ReplayFrameSource) (sequence now : UInt64) (bytes : List UInt8) : Except String CapturedFrame :=
  .ok ⟨⟨sequence,now,source.width,source.height,source.width * 3,.rgb888,0,.ofNat source.expected⟩,
    bytes.take source.expected⟩

theorem capture_opened {sequence : UInt64} {bytes : List UInt8} (ready : source.initialized = true)
    (opens : source.opened files = (some bytes,sequence)) (whole : bytes.length = source.expected) :
    source.capture files now = (answered source sequence now bytes,{ source with sequence := sequence }) := by
  have read : (bytes.take source.expected).length = source.expected := by
    rw [List.length_take,whole,Nat.min_self]
  rw [ReplayFrameSource.capture,ready,opens]
  simp only [Bool.not_true,Bool.false_eq_true,if_false,Option.getD_some,read,ne_eq,not_true_eq_false]
  rfl

theorem firstPath_eq : source.framePath 1 = source.firstPath := by
  have digits : zeroPadded 6 1 = "000001" := by decide +kernel
  rw [ReplayFrameSource.framePath,ReplayFrameSource.firstPath,digits]
  simp [String.append_assoc]

theorem succ_toNat {k : UInt64} (before : k < n) : (k + 1).toNat = k.toNat + 1 := by
  have bound := n.toNat_lt
  rw [UInt64.lt_iff_toNat_lt] at before
  rw [UInt64.toNat_add,UInt64.toNat_one]
  omega

theorem succ_le {k : UInt64} (before : k < n) : k + 1 ≤ n := by
  rw [UInt64.le_iff_toNat_le,succ_toNat before]
  exact UInt64.lt_iff_toNat_lt.mp before

theorem opened_next (clip : Clip files source n) (before : source.sequence < n) :
    ∃ bytes, source.opened files = (some bytes,source.sequence + 1) ∧ bytes.length = source.expected := by
  have first : 1 ≤ source.sequence + 1 := by
    rw [UInt64.le_iff_toNat_le,succ_toNat before]
    exact Nat.le_add_left 1 _
  obtain ⟨bytes,found,whole⟩ := clip.frames _ first (succ_le before)
  exact ⟨bytes,by rw [ReplayFrameSource.opened,found],whole⟩

theorem opened_again (clip : Clip files source n) (ended : source.sequence = n) :
    ∃ bytes, source.opened files = (some bytes,1) ∧ bytes.length = source.expected := by
  obtain ⟨bytes,found,whole⟩ := clip.frames 1 (by decide) clip.some
  refine ⟨bytes,?_,whole⟩
  rw [ReplayFrameSource.opened,ended,clip.last,← firstPath_eq,found]

theorem Clip.resumed (clip : Clip files source n) (sequence : UInt64) : Clip files { source with sequence := sequence } n :=
  ⟨clip.some,clip.frames,clip.last⟩

theorem capture_next (now : UInt64) (clip : Clip files source n) (ready : source.initialized = true) (before : source.sequence < n) :
    ∃ bytes, source.capture files now = (answered source (source.sequence + 1) now bytes,
      { source with sequence := source.sequence + 1 }) := by
  obtain ⟨bytes,opens,whole⟩ := opened_next clip before
  exact ⟨bytes,capture_opened ready opens whole⟩

theorem capture_again (now : UInt64) (clip : Clip files source n) (ready : source.initialized = true) (ended : source.sequence = n) :
    ∃ bytes, source.capture files now = (answered source 1 now bytes,{ source with sequence := 1 }) := by
  obtain ⟨bytes,opens,whole⟩ := opened_again clip ended
  exact ⟨bytes,capture_opened ready opens whole⟩

theorem sequences_cons {bytes : List UInt8} {sequence : UInt64} {next : ReplayFrameSource}
    (captured : source.capture files now = (answered source sequence now bytes,next)) :
    sequences (source.captures files (now :: clock)) = sequence :: sequences (next.captures files clock) := by
  rw [ReplayFrameSource.captures,captured]
  rfl

theorem captures_length (clip : Clip files source n) (ready : source.initialized = true) (within : source.sequence ≤ n) :
    (sequences (source.captures files clock)).length = clock.length := by
  induction clock generalizing source with
  | nil => rfl
  | cons now clock ih =>
    rcases UInt64.lt_or_eq_of_le within with before | ended
    · obtain ⟨bytes,captured⟩ := capture_next now clip ready before
      have rest := ih (clip.resumed (source.sequence + 1)) ready (succ_le before)
      rw [sequences_cons captured,List.length_cons,List.length_cons,rest]
    · obtain ⟨bytes,captured⟩ := capture_again now clip ready ended
      have rest := ih (clip.resumed 1) ready clip.some
      rw [sequences_cons captured,List.length_cons,List.length_cons,rest]

theorem captures_rise (clip : Clip files source n) (ready : source.initialized = true)
    (room : source.sequence.toNat + clock.length ≤ n.toNat) :
    (∀ k ∈ sequences (source.captures files clock), source.sequence < k) ∧
      (sequences (source.captures files clock)).Pairwise (· < ·) := by
  induction clock generalizing source with
  | nil =>
    refine ⟨?_,.nil⟩
    intro k member
    cases member
  | cons now clock ih =>
    rw [List.length_cons] at room
    have before : source.sequence < n := UInt64.lt_iff_toNat_lt.mpr (by omega)
    have next := succ_toNat before
    obtain ⟨bytes,captured⟩ := capture_next now clip ready before
    have remaining : (source.sequence + 1).toNat + clock.length ≤ n.toNat := by omega
    obtain ⟨above,rises⟩ := ih (clip.resumed (source.sequence + 1)) ready remaining
    have step : source.sequence < source.sequence + 1 := UInt64.lt_iff_toNat_lt.mpr (by omega)
    rw [sequences_cons captured]
    refine ⟨?_,List.pairwise_cons.mpr ⟨above,rises⟩⟩
    intro k member
    rcases List.mem_cons.mp member with rfl | later
    · exact step
    · exact UInt64.lt_trans step (above k later)

theorem captures_restart (clip : Clip files source n) (ready : source.initialized = true) (within : source.sequence ≤ n)
    (past : n.toNat < source.sequence.toNat + clock.length) : 1 ∈ sequences (source.captures files clock) := by
  induction clock generalizing source with
  | nil =>
    rw [UInt64.le_iff_toNat_le] at within
    rw [List.length_nil] at past
    omega
  | cons now clock ih =>
    rw [List.length_cons] at past
    rcases UInt64.lt_or_eq_of_le within with before | ended
    · have next := succ_toNat before
      obtain ⟨bytes,captured⟩ := capture_next now clip ready before
      rw [sequences_cons captured]
      have remaining : n.toNat < (source.sequence + 1).toNat + clock.length := by omega
      exact List.mem_cons_of_mem _ (ih (clip.resumed (source.sequence + 1)) ready (succ_le before) remaining)
    · obtain ⟨bytes,captured⟩ := capture_again now clip ready ended
      rw [sequences_cons captured]
      exact List.mem_cons_self

theorem captures_fall (clip : Clip files source n) (ready : source.initialized = true) (new : source.sequence = 0)
    (past : n.toNat < clock.length) : ¬ (sequences (source.captures files clock)).Pairwise (· < ·) := by
  intro rises
  have none : source.sequence.toNat = 0 := by rw [new]; rfl
  cases clock with
  | nil => exact absurd past (Nat.not_lt_zero _)
  | cons now clock =>
    have some := UInt64.le_iff_toNat_le.mp clip.some
    have before : source.sequence < n := by
      rw [UInt64.lt_iff_toNat_lt,none]
      exact some
    obtain ⟨bytes,captured⟩ := capture_next now clip ready before
    have wraps : 1 ∈ sequences (({ source with sequence := source.sequence + 1 } : ReplayFrameSource).captures files clock) := by
      refine captures_restart (clip.resumed (source.sequence + 1)) ready (succ_le before) ?_
      have one : (source.sequence + 1).toNat = 1 := by rw [succ_toNat before,none]
      rw [List.length_cons] at past
      show n.toNat < (source.sequence + 1).toNat + clock.length
      omega
    rw [sequences_cons captured,new] at rises
    rw [new] at wraps
    exact UInt64.lt_irrefl _ ((List.pairwise_cons.mp rises).1 1 wraps)

theorem initialize_clip (clip : Clip files source n) : (source.initializeReplay files).2 = { source with initialized := true } := by
  obtain ⟨bytes,found,_⟩ := clip.frames 1 (by decide) clip.some
  rw [firstPath_eq] at found
  rw [ReplayFrameSource.initializeReplay,found]

section Engine
variable {R : Type} [Double R] {e : Engine R} {f : FrameEvidence R} {evidence : List (FrameEvidence R)}

omit [Double R] in
theorem accepts_iff (timed : f.monotonicNs ≠ 0) : accepts e f = true ↔ e.lastSequence < f.sequence := by
  have zero : (f.monotonicNs == 0) = false := beq_eq_false_iff_ne.mpr timed
  rw [accepts,zero,Bool.or_false,Bool.not_eq_true',decide_eq_false_iff_not,UInt64.not_le]

theorem process_lastSequence (accepted : accepts e f = true) : (process e f).lastSequence = f.sequence := by
  cases degraded : e.degraded with
  | true => simp [process,accepted,degraded]
  | false =>
    have live : evaluated e f = true := by simp [evaluated,accepted,degraded]
    have absorbed : ∀ g : Engine R, (absorb g f).lastSequence = g.lastSequence := by
      intro g
      unfold absorb
      cases relevant g.thresholds f
      · rfl
      · simp only [if_true]; split <;> rfl
    rw [evaluated_snapshot live,gathered,elapsed_snapshot]
    exact absorbed (pushWindow { e with lastSequence := f.sequence } f)

theorem accepts_all_iff (timed : ∀ f ∈ evidence, f.monotonicNs ≠ 0) :
    Along process (fun e f => accepts e f = true) e evidence ↔
      (∀ k ∈ evidence.map FrameEvidence.sequence, e.lastSequence < k) ∧ (evidence.map FrameEvidence.sequence).Pairwise (· < ·) := by
  induction evidence generalizing e with
  | nil => simp
  | cons f evidence ih =>
    have rest : ∀ f ∈ evidence, f.monotonicNs ≠ 0 := fun g member => timed g (List.mem_cons_of_mem _ member)
    rw [along_cons,List.map_cons,List.pairwise_cons]
    constructor
    · rintro ⟨accepted,later⟩
      obtain ⟨above,rises⟩ := (ih rest).mp later
      rw [process_lastSequence accepted] at above
      have first := (accepts_iff (timed f List.mem_cons_self)).mp accepted
      refine ⟨?_,above,rises⟩
      intro k member
      rcases List.mem_cons.mp member with rfl | tail
      · exact first
      · exact UInt64.lt_trans first (above k tail)
    · rintro ⟨later,above,rises⟩
      have accepted := (accepts_iff (timed f List.mem_cons_self)).mpr (later f.sequence List.mem_cons_self)
      refine ⟨accepted,(ih rest).mpr ⟨?_,rises⟩⟩
      rw [process_lastSequence accepted]
      exact above

def Processed (R : Type) [Double R] (answers : List (Except String CapturedFrame)) : Prop :=
  (sequences answers).Pairwise (· < ·) ∧
    ∀ (deviceId bootId : String) (thresholds : IncidentThresholds R) (evidence : List (FrameEvidence R)),
      evidence.map FrameEvidence.sequence = sequences answers → (∀ f ∈ evidence, f.monotonicNs ≠ 0) →
        Along process (fun e f => accepts e f = true) (fresh deviceId bootId thresholds) evidence

-- Exactly as long as the clip has not come to its end.
theorem replay_processed_iff (files : Files) (source : ReplayFrameSource) (n : UInt64) (clip : Clip files source n)
    (new : source.sequence = 0) (clock : List UInt64) :
    let ready := (source.initializeReplay files).2
    (sequences (ready.captures files clock)).length = clock.length ∧
      (Processed R (ready.captures files clock) ↔ clock.length ≤ n.toNat) := by
  intro ready
  have opens : ready = { source with initialized := true } := initialize_clip clip
  have initialised : ready.initialized = true := by rw [opens]
  have start : ready.sequence = 0 := by rw [opens]; exact new
  have clips : Clip files ready n := by
    rw [opens]
    exact ⟨clip.some,clip.frames,clip.last⟩
  have none : ready.sequence.toNat = 0 := by rw [start]; rfl
  have within : ready.sequence ≤ n := by
    rw [UInt64.le_iff_toNat_le,none]
    exact Nat.zero_le _
  refine ⟨captures_length clips initialised within,?_⟩
  constructor
  · rintro ⟨rises,_⟩
    by_contra past
    exact captures_fall clips initialised start (not_le.mp past) rises
  · intro room
    have upTo : ready.sequence.toNat + clock.length ≤ n.toNat := by omega
    obtain ⟨above,rises⟩ := captures_rise clips initialised upTo
    refine ⟨rises,?_⟩
    intro deviceId bootId thresholds evidence same timed
    rw [accepts_all_iff timed,same]
    rw [start] at above
    exact ⟨above,rises⟩

end Engine

-- Frames of a single pixel: a clip of three of them, captured three times.
def pixelSource : ReplayFrameSource := { root := "clip",width := 1,height := 1 }
def shortClip : Files := fun path =>
  if path = "clip/frame-000001.rgb" then some [10,20,30] else if path = "clip/frame-000002.rgb" then some [40,50,60]
  else if path = "clip/frame-000003.rgb" then some [70,80,90] else none

theorem shortClip_clip : Clip shortClip pixelSource 3 := by
  refine ⟨by decide,?_,by decide +kernel⟩
  intro k first last
  have few : k = 1 ∨ k = 2 ∨ k = 3 := by
    rw [UInt64.le_iff_toNat_le] at first last
    simp only [← UInt64.toNat_inj]
    have one : (1 : UInt64).toNat = 1 := rfl
    have two : (2 : UInt64).toNat = 2 := rfl
    have three : (3 : UInt64).toNat = 3 := rfl
    omega
  rcases few with rfl | rfl | rfl
  · exact ⟨[10,20,30],by decide +kernel,by decide +kernel⟩
  · exact ⟨[40,50,60],by decide +kernel,by decide +kernel⟩
  · exact ⟨[70,80,90],by decide +kernel,by decide +kernel⟩

theorem replay_processed_once :
    Processed ℚ ((pixelSource.initializeReplay shortClip).2.captures shortClip [1000,34000000,67000000]) :=
  (replay_processed_iff (R := ℚ) shortClip pixelSource 3 shortClip_clip rfl [1000,34000000,67000000]).2.mpr (by decide)

def pixelClip : Files := fun path => if path = "clip/frame-000001.rgb" then some [10,20,30] else none

theorem pixelClip_clip : Clip pixelClip pixelSource 1 := by
  refine ⟨by decide,?_,by decide +kernel⟩
  intro k first last
  have same : k = 1 := UInt64.le_antisymm last first
  subst same
  exact ⟨[10,20,30],by decide +kernel,by decide +kernel⟩

-- The second capture of the single frame has the number of the first.
theorem replay_restarts : Clip pixelClip pixelSource 1 ∧
    sequences ((pixelSource.initializeReplay pixelClip).2.captures pixelClip [1000,84000000]) = [1,1] ∧
    ¬ Processed ℚ ((pixelSource.initializeReplay pixelClip).2.captures pixelClip [1000,84000000]) := by
  have twice : sequences ((pixelSource.initializeReplay pixelClip).2.captures pixelClip [1000,84000000]) = [1,1] := by
    decide +kernel
  refine ⟨pixelClip_clip,twice,?_⟩
  rintro ⟨rises,_⟩
  rw [twice] at rises
  revert rises
  decide

end Ignis.ReplaySource
