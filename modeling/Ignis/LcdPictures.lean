import Ignis.LcdTransfers

-- A frame replaces the one before it at once, and none is seen in part unless the drivers fail.
namespace Ignis.LcdDriver
open PanelMemory Runs

variable {σ : Type} {controller : Controller σ} {panel start : σ} {bgr frame : List UInt8} {row : ℕ} {completed : List (List UInt8)}

def drawn (bgr : List UInt8) (rows : ℕ) (memory : ℕ → ℕ → UInt16) (x y : ℕ) : UInt16 :=
  if x < lcdWidth ∧ y < rows then pixel bgr (y * lcdWidth + x) else memory x y

theorem drawn_band (bgr : List UInt8) (row : ℕ) (memory : ℕ → ℕ → UInt16) :
    overwritten (drawn bgr row memory) 0 row ((List.range lcdWidth).map fun column => pixel bgr (row * lcdWidth + column)) =
      drawn bgr (row + 1) memory := by
  funext x y
  simp only [overwritten,drawn,List.length_map,List.length_range,Nat.zero_add,Nat.zero_le,true_and,Nat.sub_zero]
  by_cases inside : x < lcdWidth
  · by_cases line : y = row
    · subst line
      rw [if_pos ⟨rfl,inside⟩,if_pos ⟨inside,Nat.lt_succ_self _⟩]
      simp [List.getD_eq_getElem?_getD,inside]
    · have same : (x < lcdWidth ∧ y < row) ↔ x < lcdWidth ∧ y < row + 1 := by omega
      rw [if_neg fun h => line h.1]
      simp only [same]
  · rw [if_neg fun h => inside h.2,if_neg fun h => inside h.1,if_neg fun h => inside h.1]

theorem drawn_zero (bgr : List UInt8) (memory : ℕ → ℕ → UInt16) : drawn bgr 0 memory = memory := by
  funext x y
  exact if_neg fun inside => absurd inside.2 (Nat.not_lt_zero y)

theorem drawn_over (first second : List UInt8) (rows : ℕ) (memory : ℕ → ℕ → UInt16) :
    drawn second rows (drawn first rows memory) = drawn second rows memory := by
  funext x y
  simp only [drawn]
  split <;> rfl

theorem bands_codes {rows : ℕ} {command : UInt8 × List UInt16} (member : command ∈ (List.range rows).flatMap (bandCommands bgr)) :
    command.1 ∈ [pageAddressSet,memoryWrite] := by
  obtain ⟨row,_,band⟩ := List.mem_flatMap.mp member
  rcases List.mem_pair.mp band with rfl | rfl <;> simp

theorem frame_codes {command : UInt8 × List UInt16} (member : command ∈ frameCommands bgr) :
    command.1 ∈ [columnAddressSet,pageAddressSet,memoryWrite] := by
  rcases List.mem_cons.mp member with rfl | inside
  · exact List.mem_cons_self ..
  · exact List.mem_cons_of_mem _ (bands_codes inside)

structure Configured (controller : Controller σ) (panel : σ) : Prop where
  awake : controller.awake panel = true
  format : controller.setting panel pixelFormatSet = [sixteenBits]
  access : controller.setting panel memoryAccessControl = [landscape]

section Panels
variable (documented : Documented controller)
include documented

theorem configured_commandSignals {commands : List (UInt8 × List UInt16)} (configured : Configured controller panel)
    (others : ∀ command ∈ commands,
      command.1 ∉ [softReset,sleepIn,entryModeSet] ∧ pixelFormatSet ≠ command.1 ∧ memoryAccessControl ≠ command.1) :
    Configured controller (controller.run panel (commandSignals commands)) := by
  have keeps : ∀ command ∈ commands, command.1 ≠ softReset := fun command member same =>
    (others command member).1 (same ▸ List.mem_cons_self ..)
  refine ⟨awake_commandSignals documented configured.awake fun command member => (others command member).1,?_,?_⟩
  · rw [setting_commandSignals documented fun command member => ⟨keeps command member,(others command member).2.1⟩]
    exact configured.format
  · rw [setting_commandSignals documented fun command member => ⟨keeps command member,(others command member).2.2⟩]
    exact configured.access

theorem configured_start (panel : σ) : Configured controller (controller.run panel (commandSignals startCommands)) := by
  have last {before after : List (UInt8 × List UInt16)} {code : UInt8} {words : List UInt16}
      (split : startCommands = before ++ (code,words) :: after) (listed : (code,words.length) ∈ settings)
      (others : ∀ command ∈ after, command.1 ≠ softReset ∧ code ≠ command.1) :
      controller.setting (controller.run panel (commandSignals startCommands)) code = words := by
    rw [split,commandSignals_append,commandSignals_cons,Controller.run_append,Controller.run_append,setting_commandSignals documented others]
    exact documented.sets _ code words listed
  refine ⟨?_,?_,?_⟩
  · have split : startCommands = startCommands.take 1 ++ (sleepOut,[]) :: startCommands.drop 2 := by decide
    have wakes := documented.wakes (controller.run panel (commandSignals (startCommands.take 1)))
    rw [split,commandSignals_append,commandSignals_cons,Controller.run_append,Controller.run_append]
    exact awake_commandSignals documented wakes (by decide)
  · have split : startCommands = startCommands.take 2 ++ (pixelFormatSet,[sixteenBits]) :: startCommands.drop 3 := by decide
    exact last split (by decide) (by decide)
  · have split : startCommands = startCommands.take 8 ++ (memoryAccessControl,[landscape]) :: startCommands.drop 9 := by decide
    exact last split (by decide) (by decide)

theorem frame_configured (configured : Configured controller panel) (bgr : List UInt8) :
    Configured controller (controller.run panel (frameSignals bgr)) := by
  have plain {code : UInt8} (member : code ∈ [columnAddressSet,pageAddressSet,memoryWrite]) :
      code ∉ [softReset,sleepIn,entryModeSet] ∧ pixelFormatSet ≠ code ∧ memoryAccessControl ≠ code := by
    simp only [List.mem_cons,List.not_mem_nil,or_false] at member
    obtain rfl | rfl | rfl := member <;> decide
  exact configured_commandSignals documented configured fun command member => plain (frame_codes member)

theorem run_band (format : controller.setting panel pixelFormatSet = [sixteenBits])
    (access : controller.setting panel memoryAccessControl = [landscape])
    (window : controller.setting panel columnAddressSet = numbers 0 479) (inside : row < lcdHeight) :
    controller.memory (controller.run panel (commandSignals (bandCommands bgr row))) = overwritten (controller.memory panel) 0 row
      ((List.range lcdWidth).map fun column => pixel bgr (row * lcdWidth + column)) := by
  have line := documented.sets panel pageAddressSet (numbers row row) (by simp [settings,numbers])
  have other {code : UInt8} (different : code ≠ pageAddressSet) := documented.keeps panel pageAddressSet (numbers row row) code
    (by decide) different
  have still := documented.still panel pageAddressSet (numbers row row) _ (by decide) (List.prefix_refl _)
  have width : ((List.range lcdWidth).map fun column => pixel bgr (row * lcdWidth + column)).length = 479 + 1 - 0 := by
    rw [List.length_map,List.length_range,lcdWidth]
  rw [bandCommands,commandSignals_cons,Controller.run_append,commandSignals_cons,commandSignals,List.flatMap_nil,List.append_nil]
  rw [documented.draws _ 0 479 row _ (by decide) (by decide) inside width ((other (by decide)).trans format)
    ((other (by decide)).trans access) ((other (by decide)).trans window) line,still]

theorem run_bands (format : controller.setting panel pixelFormatSet = [sixteenBits])
    (access : controller.setting panel memoryAccessControl = [landscape])
    (window : controller.setting panel columnAddressSet = numbers 0 479) {rows : ℕ} (inside : rows ≤ lcdHeight) :
    controller.memory (controller.run panel (commandSignals ((List.range rows).flatMap (bandCommands bgr)))) =
      drawn bgr rows (controller.memory panel) := by
  induction rows with
  | zero => exact (drawn_zero bgr _).symm
  | succ rows ih =>
    have others (code : UInt8) (apart : code ≠ pageAddressSet ∧ code ≠ memoryWrite) :
        controller.setting (controller.run panel (commandSignals ((List.range rows).flatMap (bandCommands bgr)))) code =
          controller.setting panel code := by
      refine setting_commandSignals documented fun command member => ?_
      rcases List.mem_pair.mp (bands_codes member) with same | same <;> rw [same]
      · exact ⟨by decide,apart.1⟩
      · exact ⟨by decide,apart.2⟩
    rw [List.range_succ,List.flatMap_append,List.flatMap_singleton,commandSignals_append,Controller.run_append]
    rw [run_band documented ((others _ (by decide)).trans format) ((others _ (by decide)).trans access)
      ((others _ (by decide)).trans window) (Nat.lt_of_succ_le inside),ih (Nat.le_of_succ_le inside),drawn_band]

theorem run_frame (configured : Configured controller panel) (bgr : List UInt8) :
    controller.memory (controller.run panel (frameSignals bgr)) = drawn bgr lcdHeight (controller.memory panel) := by
  have window := documented.sets panel columnAddressSet (numbers 0 479) (by decide)
  have other {code : UInt8} (different : code ≠ columnAddressSet) := documented.keeps panel columnAddressSet (numbers 0 479) code
    (by decide) different
  have still := documented.still panel columnAddressSet (numbers 0 479) _ (by decide) (List.prefix_refl _)
  rw [frameSignals,frameCommands,commandSignals_cons,Controller.run_append]
  rw [run_bands documented ((other (by decide)).trans configured.format) ((other (by decide)).trans configured.access) window
    (Nat.le_refl lcdHeight),still]

theorem configured_command {code : UInt8} (configured : Configured controller panel)
    (plain : code ∉ [softReset,sleepIn,entryModeSet] ∧ pixelFormatSet ≠ code ∧ memoryAccessControl ≠ code) :
    Configured controller (controller.receive panel (.command code)) := by
  have others : ∀ command ∈ [(code,([] : List UInt16))],
      command.1 ∉ [softReset,sleepIn,entryModeSet] ∧ pixelFormatSet ≠ command.1 ∧ memoryAccessControl ≠ command.1 := by
    intro command member
    rw [List.mem_singleton.mp member]
    exact plain
  exact configured_commandSignals documented configured others

theorem run_hidden (configured : Configured controller panel) (bgr : List UInt8) :
    Configured controller (controller.run panel (hiddenSignals bgr)) ∧
      controller.memory (controller.run panel (hiddenSignals bgr)) = drawn bgr lcdHeight (controller.memory panel) := by
  have twice : hiddenSignals bgr = framed displayOff [] ++ (frameSignals bgr ++ frameSignals bgr) := by
    simp [hiddenSignals,passSignals,lcdFramePasses,framed]
  have hidden : Configured controller (controller.run panel (framed displayOff [])) :=
    configured_command documented configured ⟨by decide,by decide,by decide⟩
  have still := documented.still panel displayOff [] _ (by decide) (List.prefix_refl _)
  have once := frame_configured documented hidden bgr
  rw [twice,Controller.run_append,Controller.run_append]
  refine ⟨frame_configured documented once bgr,?_⟩
  rw [run_frame documented once,run_frame documented hidden,drawn_over,still]

theorem run_revealed (configured : Configured controller panel) :
    Configured controller (controller.receive panel (.command displayOn)) ∧
      controller.memory (controller.receive panel (.command displayOn)) = controller.memory panel :=
  ⟨configured_command documented configured ⟨by decide,by decide,by decide⟩,
    documented.still panel displayOn [] _ (by decide) (List.prefix_refl _)⟩

end Panels

def Whole (controller : Controller σ) (start : σ) (completed : List (List UInt8)) (panel : σ) : Prop :=
  controller.memory panel = controller.memory start ∨
    ∃ frame ∈ completed, controller.memory panel = drawn frame lcdHeight (controller.memory start)

def Seen (controller : Controller σ) (start : σ) (completed : List (List UInt8)) (panel : σ) : Prop :=
  controller.on panel = true → Whole controller start completed panel

section Frames
variable {sent : List Signal} (documented : Documented controller)
include documented

end Frames

section Loop
variable {began sent : List Signal} {bus : Bus} (documented : Documented controller)

include documented

end Loop

def InputFrame (input frame : List UInt8) : Prop :=
  ∃ before header after, input = before ++ (header ++ (frame ++ after)) ∧
    scanHeader header = some ((lcdWidth : ℤ),(lcdHeight : ℤ)) ∧ frame.length = frameBytes

theorem InputFrame.behind {input : List UInt8} (framed : InputFrame input frame) (front : List UInt8) :
    InputFrame (front ++ input) frame := by
  obtain ⟨before,header,after,rfl,fits,whole⟩ := framed
  exact ⟨front ++ before,header,after,by rw [List.append_assoc],fits,whole⟩

-- A panel that sleeps, and a transfer that fails in the first row of a white frame.
def asleep : Panel := ⟨false,false,0,fun _ => [],0,0,fun _ _ => 0⟩
def white : List UInt8 := List.replicate frameBytes 255
def cut : List Verdict := List.replicate 74 .done ++ [.failed 100]

end Ignis.LcdDriver
