import Ignis.Runs

-- A display controller with a frame memory, as far as a driver that sends it resets, commands and
-- words of data relies on it.
namespace PanelMemory
open Runs

inductive Signal where
  | reset
  | command (code : UInt8)
  | data (word : UInt16)
deriving DecidableEq

def softReset : UInt8 := 0x01
def sleepIn : UInt8 := 0x10
def sleepOut : UInt8 := 0x11
def displayOff : UInt8 := 0x28
def displayOn : UInt8 := 0x29
def columnAddressSet : UInt8 := 0x2A
def pageAddressSet : UInt8 := 0x2B
def memoryWrite : UInt8 := 0x2C
def memoryAccessControl : UInt8 := 0x36
def pixelFormatSet : UInt8 := 0x3A
def entryModeSet : UInt8 := 0xB7

def framed (code : UInt8) (words : List UInt16) : List Signal := .command code :: words.map .data

-- `setting` has the words that last came with a command, and `memory` the colour at a column and a row.
structure Controller (σ : Type) where
  receive : σ → Signal → σ
  awake : σ → Bool
  on : σ → Bool
  setting : σ → UInt8 → List UInt16
  memory : σ → ℕ → ℕ → UInt16

def Controller.run {σ : Type} (controller : Controller σ) : σ → List Signal → σ := Runs.run controller.receive

-- The first and the last of a range, two bytes each.
def numbers (first last : ℕ) : List UInt16 :=
  [UInt16.ofNat (first / 256 % 256),UInt16.ofNat (first % 256),UInt16.ofNat (last / 256 % 256),UInt16.ofNat (last % 256)]

def overwritten (memory : ℕ → ℕ → UInt16) (column row : ℕ) (words : List UInt16) (x y : ℕ) : UInt16 :=
  if y = row ∧ column ≤ x ∧ x < column + words.length then words.getD (x - column) 0 else memory x y

-- The settings that are relied on, with the number of their parameters.
def settings : List (UInt8 × ℕ) := [(columnAddressSet,4),(pageAddressSet,4),(memoryAccessControl,1),(pixelFormatSet,1)]

def landscape : UInt16 := 0x28
def sixteenBits : UInt16 := 0x55

-- What the data sheet says of a controller of 480 columns and 320 rows.
structure Documented {σ : Type} (controller : Controller σ) : Prop where
  hides : ∀ panel, controller.on (controller.receive panel (.command displayOff)) = false
  reveals : ∀ panel, controller.on (controller.receive panel (.command displayOn)) = true
  dark : ∀ panel signal, controller.on panel = false → signal ≠ .command displayOn →
    controller.on (controller.receive panel signal) = false
  wakes : ∀ panel, controller.awake (controller.receive panel (.command sleepOut)) = true
  stays : ∀ panel code words, code ∉ [softReset,sleepIn,entryModeSet] → controller.awake panel = true →
    controller.awake (controller.run panel (framed code words)) = true
  sets : ∀ panel code words, (code,words.length) ∈ settings → controller.setting (controller.run panel (framed code words)) code = words
  keeps : ∀ panel code words other, code ≠ softReset → other ≠ code →
    controller.setting (controller.run panel (framed code words)) other = controller.setting panel other
  still : ∀ panel code words part, code ∈ [displayOff,displayOn,columnAddressSet,pageAddressSet] → part <+: framed code words →
    controller.memory (controller.run panel part) = controller.memory panel
  draws : ∀ panel first last row words, first ≤ last → last < 480 → row < 320 → words.length = last + 1 - first →
    controller.setting panel pixelFormatSet = [sixteenBits] → controller.setting panel memoryAccessControl = [landscape] →
    controller.setting panel columnAddressSet = numbers first last → controller.setting panel pageAddressSet = numbers row row →
    controller.memory (controller.run panel (framed memoryWrite words)) = overwritten (controller.memory panel) first row words

section Commands
variable {σ : Type} {controller : Controller σ} {panel : σ} {commands : List (UInt8 × List UInt16)} {signals more : List Signal}

theorem Controller.run_append : controller.run panel (signals ++ more) = controller.run (controller.run panel signals) more :=
  Runs.run_append

def commandSignals (commands : List (UInt8 × List UInt16)) : List Signal := commands.flatMap fun command => framed command.1 command.2

theorem commandSignals_append (commands later : List (UInt8 × List UInt16)) :
    commandSignals (commands ++ later) = commandSignals commands ++ commandSignals later := List.flatMap_append

theorem commandSignals_cons (command : UInt8 × List UInt16) :
    commandSignals (command :: commands) = framed command.1 command.2 ++ commandSignals commands := List.flatMap_cons

variable (documented : Documented controller)
include documented

theorem awake_commandSignals (awake : controller.awake panel = true)
    (others : ∀ command ∈ commands, command.1 ∉ [softReset,sleepIn,entryModeSet]) :
    controller.awake (controller.run panel (commandSignals commands)) = true := by
  induction commands generalizing panel with
  | nil => exact awake
  | cons command rest ih =>
    rw [commandSignals_cons,Controller.run_append]
    have next := documented.stays panel command.1 command.2 (others command (by simp)) awake
    exact ih next fun other member => others other (List.mem_cons_of_mem _ member)

theorem setting_commandSignals {code : UInt8} (others : ∀ command ∈ commands, command.1 ≠ softReset ∧ code ≠ command.1) :
    controller.setting (controller.run panel (commandSignals commands)) code = controller.setting panel code := by
  induction commands generalizing panel with
  | nil => rfl
  | cons command rest ih =>
    rw [commandSignals_cons,Controller.run_append,ih fun other member => others other (List.mem_cons_of_mem _ member)]
    obtain ⟨kept,other⟩ := others command (by simp)
    exact documented.keeps panel command.1 command.2 code kept other

end Commands

structure Panel where
  awake : Bool
  on : Bool
  command : UInt8
  setting : UInt8 → List UInt16
  column : ℕ
  row : ℕ
  memory : ℕ → ℕ → UInt16

namespace Panel

def range (panel : Panel) (code : UInt8) : ℕ × ℕ :=
  match panel.setting code with
  | [a,b,c,d] => (256 * a.toNat + b.toNat,256 * c.toNat + d.toNat)
  | _ => (0,0)

def reset (panel : Panel) : Panel := { panel with awake := false, on := false, command := 0, setting := fun _ => [] }

def obey (panel : Panel) (code : UInt8) : Panel :=
  let next := { panel with command := code }
  if code = softReset then next.reset
  else if code = sleepIn then { next with awake := false }
  else if code = sleepOut then { next with awake := true }
  else if code = displayOff then { next with on := false }
  else if code = displayOn then { next with on := true }
  else if code = memoryWrite then { next with column := (panel.range columnAddressSet).1, row := (panel.range pageAddressSet).1 }
  else { next with setting := fun other => if other = code then [] else panel.setting other }

def advance (panel : Panel) : Panel :=
  if panel.column = (panel.range columnAddressSet).2 then
    { panel with
      column := (panel.range columnAddressSet).1
      row := if panel.row = (panel.range pageAddressSet).2 then (panel.range pageAddressSet).1 else panel.row + 1 }
  else { panel with column := panel.column + 1 }

def store (panel : Panel) (word : UInt16) : Panel :=
  { panel with memory := fun x y => if x = panel.column ∧ y = panel.row then word else panel.memory x y }

def take (panel : Panel) (word : UInt16) : Panel :=
  if panel.command = memoryWrite then
    if panel.setting pixelFormatSet = [sixteenBits] ∧ panel.setting memoryAccessControl = [landscape] then (panel.store word).advance
    else panel
  else if panel.command ∈ [softReset,sleepIn,sleepOut,displayOff,displayOn] then panel
  else { panel with
    setting := fun other => if other = panel.command then panel.setting other ++ [word] else panel.setting other }

def receive (panel : Panel) : Signal → Panel
  | .reset => panel.reset
  | .command code => panel.obey code
  | .data word => panel.take word

end Panel

def ili9486 : Controller Panel := ⟨Panel.receive,Panel.awake,Panel.on,Panel.setting,Panel.memory⟩

theorem overwritten_nil (memory : ℕ → ℕ → UInt16) (column row : ℕ) : overwritten memory column row [] = memory := by
  funext x y
  simp only [overwritten,List.length_nil,Nat.add_zero]
  exact if_neg fun inside => absurd inside.2.1 (Nat.not_le_of_lt inside.2.2)

theorem overwritten_cons (memory : ℕ → ℕ → UInt16) (column row : ℕ) (word : UInt16) (words : List UInt16) :
    overwritten (fun x y => if x = column ∧ y = row then word else memory x y) (column + 1) row words =
      overwritten memory column row (word :: words) := by
  funext x y
  simp only [overwritten,List.length_cons]
  by_cases line : y = row
  · by_cases first : x = column
    · subst first
      have before : ¬ (x + 1 ≤ x) := by omega
      simp [line,before]
    · by_cases inside : column + 1 ≤ x ∧ x < column + 1 + words.length
      · have whole : column ≤ x ∧ x < column + (words.length + 1) := by omega
        have place : x - column = x - (column + 1) + 1 := by omega
        rw [if_pos ⟨line,inside⟩,if_pos ⟨line,whole⟩,place,List.getD_cons_succ]
      · have outside : ¬ (column ≤ x ∧ x < column + (words.length + 1)) := by omega
        rw [if_neg fun h => inside h.2,if_neg fun h => first h.1,if_neg fun h => outside h.2]
  · simp [line]

namespace Panel
variable {panel : Panel} {words : List UInt16} {code : UInt8}

theorem run_idle (idle : panel.command ∈ [softReset,sleepIn,sleepOut,displayOff,displayOn]) (words : List UInt16) :
    Runs.run receive panel (words.map .data) = panel := by
  have other : panel.command ≠ memoryWrite := by
    intro same
    rw [same] at idle
    exact absurd idle (by decide)
  induction words with
  | nil => rfl
  | cons word rest ih =>
    have same : panel.receive (.data word) = panel := by simp only [receive,take,if_neg other,if_pos idle]
    rw [List.map_cons,run_cons,same,ih]

theorem run_parameters (other : panel.command ≠ memoryWrite) (sets : panel.command ∉ [softReset,sleepIn,sleepOut,displayOff,displayOn])
    (words : List UInt16) : Runs.run receive panel (words.map .data) = { panel with
      setting := fun other => if other = panel.command then panel.setting other ++ words else panel.setting other } := by
  induction words generalizing panel with
  | nil => simp
  | cons word rest ih =>
    let next : Panel := { panel with
      setting := fun other => if other = panel.command then panel.setting other ++ [word] else panel.setting other }
    have taken : panel.receive (.data word) = next := by simp only [receive,take,if_neg other,if_neg sets,next]
    have later : Runs.run receive next (rest.map .data) = _ := ih other sets
    rw [List.map_cons,run_cons,taken,later]
    simp only [next]
    congr 1
    funext code
    by_cases own : code = panel.command <;> simp [own]

theorem obey_command (panel : Panel) (code : UInt8) (resets : code ≠ softReset) : (panel.obey code).command = code := by
  unfold obey
  rw [if_neg resets]
  repeat' split
  all_goals rfl

theorem obey_plain (panel : Panel) (other : code ≠ memoryWrite) (sets : code ∉ [softReset,sleepIn,sleepOut,displayOff,displayOn]) :
    panel.obey code = { panel with
      command := code, setting := fun other => if other = code then [] else panel.setting other } := by
  simp only [List.mem_cons,List.not_mem_nil,or_false,not_or] at sets
  obtain ⟨one,two,three,four,five⟩ := sets
  simp only [obey,if_neg one,if_neg two,if_neg three,if_neg four,if_neg five,if_neg other]

theorem run_setting (other : code ≠ memoryWrite) (sets : code ∉ [softReset,sleepIn,sleepOut,displayOff,displayOn]) :
    Runs.run receive panel (framed code words) = { panel with
      command := code, setting := fun other => if other = code then words else panel.setting other } := by
  rw [framed,run_cons]
  simp only [receive,obey_plain panel other sets]
  rw [run_parameters other sets]
  congr 1
  funext asked
  by_cases own : asked = code <;> simp [own]

theorem take_word (writes : panel.command = memoryWrite) (format : panel.setting pixelFormatSet = [sixteenBits])
    (access : panel.setting memoryAccessControl = [landscape]) (word : UInt16) : panel.take word = (panel.store word).advance := by
  simp only [take,writes,if_true,if_pos (And.intro format access)]

theorem run_line (writes : panel.command = memoryWrite) (format : panel.setting pixelFormatSet = [sixteenBits])
    (access : panel.setting memoryAccessControl = [landscape]) (filled : words ≠ [])
    (fits : panel.column + words.length = (panel.range columnAddressSet).2 + 1) :
    (Runs.run receive panel (words.map .data)).memory = overwritten panel.memory panel.column panel.row words := by
  induction words generalizing panel with
  | nil => exact absurd rfl filled
  | cons word rest ih =>
    have stored : panel.receive (.data word) = (panel.store word).advance := take_word writes format access word
    rw [List.map_cons,run_cons,stored]
    by_cases last : rest = []
    · subst last
      have ended : panel.column = (panel.range columnAddressSet).2 := by simpa using fits
      rw [← overwritten_cons,overwritten_nil]
      have turned : (panel.store word).advance = { panel.store word with
          column := (panel.range columnAddressSet).1
          row := if panel.row = (panel.range pageAddressSet).2 then (panel.range pageAddressSet).1 else panel.row + 1 } :=
        if_pos ended
      rw [turned]
      rfl
    · have more : panel.column ≠ (panel.range columnAddressSet).2 := by
        have positive := List.length_pos_of_ne_nil last
        rw [List.length_cons] at fits
        omega
      rw [List.length_cons] at fits
      let next : Panel := { panel.store word with column := panel.column + 1 }
      have moved : (panel.store word).advance = next := if_neg more
      have room : next.column + rest.length = (next.range columnAddressSet).2 + 1 := by
        show panel.column + 1 + rest.length = (panel.range columnAddressSet).2 + 1
        omega
      have line : (Runs.run receive next (rest.map .data)).memory = _ := ih writes format access last room
      rw [moved,line,← overwritten_cons]
      rfl

theorem range_numbers {first last : ℕ} (small : first < 65536 ∧ last < 65536) (window : panel.setting code = numbers first last) :
    panel.range code = (first,last) := by
  have number {n : ℕ} (small : n < 65536) : 256 * (UInt16.ofNat (n / 256 % 256)).toNat + (UInt16.ofNat (n % 256)).toNat = n := by
    simp only [UInt16.toNat_ofNat']
    omega
  rw [range,window]
  exact congrArg₂ Prod.mk (number small.1) (number small.2)

theorem take_writes (writes : panel.command = memoryWrite) (word : UInt16) : (panel.take word).command = memoryWrite ∧
    (panel.take word).awake = panel.awake ∧ (panel.take word).setting = panel.setting := by
  simp only [take,writes,if_true]
  split
  · unfold advance store
    dsimp only
    split <;> exact ⟨writes,rfl,rfl⟩
  · exact ⟨writes,rfl,rfl⟩

theorem run_writes (writes : panel.command = memoryWrite) (words : List UInt16) :
    (Runs.run receive panel (words.map .data)).awake = panel.awake ∧
      (Runs.run receive panel (words.map .data)).setting = panel.setting := by
  induction words generalizing panel with
  | nil => exact ⟨rfl,rfl⟩
  | cons word rest ih =>
    obtain ⟨still,awake,setting⟩ := take_writes writes word
    obtain ⟨later,kept⟩ := ih still
    exact ⟨later.trans awake,kept.trans setting⟩

theorem run_framed (panel : Panel) (words : List UInt16) (resets : code ≠ softReset) :
    (Runs.run receive panel (framed code words)).awake = (panel.obey code).awake ∧
    ∀ other, other ≠ code → (Runs.run receive panel (framed code words)).setting other = panel.setting other := by
  have command := obey_command panel code resets
  by_cases writes : code = memoryWrite
  · have kept : (panel.obey code).setting = panel.setting := by
      subst writes
      rfl
    obtain ⟨awake,setting⟩ := run_writes (command.trans writes) words
    exact ⟨awake,fun other _ => congrFun (setting.trans kept) other⟩
  · by_cases idle : code ∈ [softReset,sleepIn,sleepOut,displayOff,displayOn]
    · have same : Runs.run receive panel (framed code words) = panel.obey code := run_idle (command.symm ▸ idle) words
      have kept : (panel.obey code).setting = panel.setting := by
        simp only [List.mem_cons,List.not_mem_nil,or_false] at idle
        rcases idle with reset | rfl | rfl | rfl | rfl
        · exact absurd reset resets
        all_goals rfl
      exact ⟨congrArg awake same,fun other _ => by rw [same,kept]⟩
    · rw [run_setting writes idle,obey_plain panel writes idle]
      exact ⟨rfl,fun other different => if_neg different⟩

end Panel

theorem ili9486_documented : Documented ili9486 where
  hides _ := rfl
  reveals _ := rfl
  wakes _ := rfl
  dark panel signal off other := by
    cases signal with
    | reset => rfl
    | command code =>
      have different : code ≠ displayOn := fun same => other (congrArg Signal.command same)
      show (panel.obey code).on = false
      simp only [Panel.obey,Panel.reset,if_neg different]
      repeat' split
      all_goals first | rfl | exact off
    | data word =>
      show (panel.take word).on = false
      unfold Panel.take Panel.advance Panel.store
      dsimp only
      repeat' split
      all_goals exact off
  stays panel code words other awake := by
    simp only [List.mem_cons,List.not_mem_nil,or_false,not_or] at other
    refine (Panel.run_framed panel words other.1).1.trans ?_
    unfold Panel.obey
    rw [if_neg other.1,if_neg other.2.1]
    repeat' split
    all_goals first | rfl | exact awake
  sets panel code words listed := by
    have plain : code ≠ memoryWrite ∧ code ∉ [softReset,sleepIn,sleepOut,displayOff,displayOn] := by
      simp only [settings,List.mem_cons,Prod.mk.injEq,List.not_mem_nil,or_false] at listed
      rcases listed with ⟨rfl,_⟩ | ⟨rfl,_⟩ | ⟨rfl,_⟩ | ⟨rfl,_⟩ <;> decide
    show (Runs.run Panel.receive panel (framed code words)).setting code = words
    rw [Panel.run_setting plain.1 plain.2]
    exact if_pos rfl
  keeps panel code words other resets different := (Panel.run_framed panel words resets).2 other different
  still panel code words part listed begins := by
    cases part with
    | nil => rfl
    | cons signal rest =>
      obtain ⟨rfl,tail⟩ := List.cons_prefix_cons.mp begins
      obtain ⟨front,rfl⟩ : ∃ front : List UInt16, rest = front.map .data :=
        ⟨words.take rest.length,by rw [List.map_take]; exact List.prefix_iff_eq_take.mp tail⟩
      show (Runs.run Panel.receive panel (framed code front)).memory = panel.memory
      simp only [List.mem_cons,List.not_mem_nil,or_false] at listed
      have idle (code : UInt8) (among : code ∈ [softReset,sleepIn,sleepOut,displayOff,displayOn]) (resets : code ≠ softReset) :
          Runs.run Panel.receive panel (framed code front) = panel.obey code :=
        Panel.run_idle ((Panel.obey_command panel code resets).symm ▸ among) front
      rcases listed with rfl | rfl | rfl | rfl
      · rw [idle displayOff (by decide) (by decide)]
        rfl
      · rw [idle displayOn (by decide) (by decide)]
        rfl
      · rw [Panel.run_setting (by decide) (by decide)]
      · rw [Panel.run_setting (by decide) (by decide)]
  draws panel first last row words ordered columns rows filled format access window line := by
    have column := Panel.range_numbers ⟨by omega,by omega⟩ window
    have place := Panel.range_numbers ⟨by omega,by omega⟩ line
    let begun : Panel := { panel with command := memoryWrite, column := first, row := row }
    have begins : panel.receive (.command memoryWrite) = begun := by
      show { panel with
        command := memoryWrite
        column := (panel.range columnAddressSet).1
        row := (panel.range pageAddressSet).1 } = begun
      rw [column,place]
    have fits : begun.column + words.length = (begun.range columnAddressSet).2 + 1 := by
      show first + words.length = (panel.range columnAddressSet).2 + 1
      rw [column]
      omega
    have nonempty : words ≠ [] := List.ne_nil_of_length_pos (by omega)
    have filledLine : (Runs.run Panel.receive begun (words.map .data)).memory = _ :=
      Panel.run_line rfl format access nonempty fits
    show (Runs.run Panel.receive panel (framed memoryWrite words)).memory = _
    rw [framed,run_cons,begins,filledLine]
    rfl

end PanelMemory
