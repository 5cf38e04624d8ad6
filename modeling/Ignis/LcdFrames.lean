import Ignis.LcdPictures

namespace Ignis.LcdDriver
open PanelMemory Runs

variable {action first second : Action} {bus : Bus} {σ : Type} {controller : Controller σ}

def Willing (bus : Bus) : Prop := ∀ verdict ∈ bus.verdicts, verdict = .done
def Smooth (action : Action) : Prop := ∀ bus, Willing bus → (action bus).1 = true ∧ Willing (action bus).2

theorem smooth_request {carry : Bus → Verdict → Bus} (keeps : ∀ bus verdict, (carry bus verdict).verdicts = bus.verdicts) :
    Smooth (request carry) := by
  intro bus willing
  unfold Willing at willing ⊢
  unfold request
  cases queue : bus.verdicts with
  | nil =>
    refine ⟨rfl,?_⟩
    rw [keeps,Bus.answered_verdicts]
    exact nofun
  | cons verdict rest =>
    rw [queue] at willing
    obtain rfl := willing verdict (List.mem_cons_self ..)
    refine ⟨rfl,?_⟩
    rw [keeps,Bus.answered_verdicts]
    exact fun other member => willing other (List.mem_cons_of_mem _ member)

theorem smooth_andThen (before : Smooth first) (after : Smooth second) : Smooth (andThen first second) := by
  intro bus willing
  obtain ⟨ok,still⟩ := before bus willing
  unfold andThen
  generalize first bus = outcome at ok still ⊢
  obtain ⟨_,next⟩ := outcome
  cases ok
  exact after next still

theorem smooth_succeed : Smooth succeed := fun _ willing => ⟨rfl,willing⟩

theorem smooth_chain {actions : List Action} (each : ∀ action ∈ actions, Smooth action) : Smooth (chain actions) := by
  induction actions with
  | nil => exact smooth_succeed
  | cons action rest ih =>
    exact smooth_andThen (each action (List.mem_cons_self ..)) (ih fun other member => each other (List.mem_cons_of_mem _ member))

theorem smooth_gpioWriteDc (high : Bool) : Smooth (gpioWriteDc high) := smooth_request fun bus verdict => by split <;> rfl
theorem smooth_gpioWriteReset (high : Bool) : Smooth (gpioWriteReset high) := smooth_request fun bus verdict => by split <;> rfl
theorem smooth_spiTransfer (data : List UInt8) : Smooth (spiTransfer data) := smooth_request fun _ _ => rfl

theorem smooth_lcdCommand (code : UInt8) {data : List UInt8} (short : data.length ≤ 32) : Smooth (lcdCommand code data) := by
  refine smooth_andThen (smooth_andThen (smooth_gpioWriteDc false) (smooth_spiTransfer _)) ?_
  split
  · exact smooth_succeed
  · rw [if_neg (by omega)]
    exact smooth_andThen (smooth_gpioWriteDc true) (smooth_spiTransfer _)

theorem smooth_lcdInitialize : Smooth lcdInitialize := by
  have asks : Smooth gpioOpenOutput := smooth_request fun _ _ => rfl
  have ignored : ∀ high, Smooth (ignoring (gpioWriteReset high)) :=
    fun high bus willing => ⟨rfl,(smooth_gpioWriteReset high bus willing).2⟩
  have reset : Smooth lcdReset := by
    apply smooth_chain
    simp only [List.forall_mem_cons]
    exact ⟨asks,asks,smooth_gpioWriteReset true,ignored false,ignored true,nofun⟩
  have short : ∀ command ∈ initialCommands, command.2.length ≤ 32 := by decide
  refine smooth_andThen reset (smooth_chain fun action member => ?_)
  obtain ⟨command,among,rfl⟩ := List.mem_map.mp member
  exact smooth_lcdCommand command.1 (short command among)

theorem smooth_lcdWriteBgr (bgr : List UInt8) : Smooth (lcdWriteBgr bgr) := by
  refine smooth_andThen (smooth_lcdCommand _ (by simp)) (smooth_chain ?_)
  intro action member
  obtain ⟨row,_,rfl⟩ := List.mem_map.mp member
  refine smooth_andThen (smooth_andThen (smooth_lcdCommand _ (by simp)) ?_) (smooth_spiTransfer _)
  exact smooth_andThen (smooth_lcdCommand _ (by simp)) (smooth_gpioWriteDc true)

theorem smooth_writePasses (bgr : List UInt8) (passes : ℕ) : Smooth (writePasses bgr passes) := by
  induction passes with
  | zero => exact smooth_succeed
  | succ passes ih =>
    intro bus willing
    obtain ⟨ok,still⟩ := smooth_lcdWriteBgr bgr bus willing
    unfold writePasses
    generalize lcdWriteBgr bgr bus = outcome at ok still ⊢
    obtain ⟨_,next⟩ := outcome
    cases ok
    exact ih next still

theorem smooth_lcdReplaceBgr (bgr : List UInt8) : Smooth (lcdReplaceBgr bgr) :=
  smooth_andThen (smooth_lcdCommand _ (by simp))
    (smooth_andThen (smooth_writePasses bgr _) (smooth_lcdCommand _ (by simp)))

theorem readLine_line {line rest : List UInt8} {room : ℕ} (whole : (10 : UInt8) ∉ line) (fits : line.length < room) :
    readLine room (line ++ 10 :: rest) = (line ++ [10],rest) := by
  induction line generalizing room with
  | nil =>
    cases room with
    | zero => cases fits
    | succ room => rfl
  | cons byte line ih =>
    cases room with
    | zero => cases fits
    | succ room =>
      have other : byte ≠ 10 := fun same => whole (same ▸ List.mem_cons_self ..)
      have tail := ih (fun member => whole (List.mem_cons_of_mem _ member)) (Nat.lt_of_succ_lt_succ fits)
      simp only [List.cons_append,readLine,if_neg other,tail]

theorem readLine_frame (frame rest : List UInt8) :
    readLine 79 (writeFrame frame ++ rest) = (frameHeader,frame ++ rest) := by
  have split : frameHeader = "IGNISBGR 480 320".toUTF8.toList ++ [10] := by decide +kernel
  have line : (10 : UInt8) ∉ "IGNISBGR 480 320".toUTF8.toList := by decide +kernel
  have fits : "IGNISBGR 480 320".toUTF8.toList.length < 79 := by decide +kernel
  rw [writeFrame,split,List.append_assoc,List.append_assoc,List.singleton_append,readLine_line line fits]

theorem scanHeader_frame : scanHeader frameHeader = some ((lcdWidth : ℤ),(lcdHeight : ℤ)) := by decide +kernel

theorem serve_frames (documented : Documented controller) (start : σ) (frames : List (List UInt8))
    (sized : ∀ frame ∈ frames, frame.length = frameBytes) {turns : ℕ} (enough : frames.length < turns) (completed : List (List UInt8))
    (willing : Willing bus) (configured : Configured controller (controller.run start bus.sent)) :
    ∃ next, serve turns (frames.flatMap writeFrame) completed bus = ⟨0,completed ++ frames,next⟩ ∧
      Configured controller (controller.run start next.sent) ∧
      controller.memory (controller.run start next.sent) =
        frames.foldl (fun memory frame => drawn frame lcdHeight memory) (controller.memory (controller.run start bus.sent)) ∧
      (frames ≠ [] ∨ controller.on (controller.run start bus.sent) = true → controller.on (controller.run start next.sent) = true) := by
  induction frames generalizing turns completed bus with
  | nil =>
    obtain ⟨turns,rfl⟩ := Nat.exists_eq_succ_of_ne_zero (Nat.ne_of_gt enough)
    exact ⟨bus,by simp [serve],configured,rfl,fun on => on.resolve_left fun some => some rfl⟩
  | cons frame rest ih =>
    obtain ⟨turns,rfl⟩ := Nat.exists_eq_succ_of_ne_zero (Nat.ne_of_gt (Nat.zero_lt_of_lt enough))
    obtain ⟨ok,still⟩ := smooth_lcdReplaceBgr frame bus willing
    obtain ⟨finishes,_⟩ := sent_lcdReplaceBgr frame bus
    have size := sized frame (List.mem_cons_self ..)
    have taken : (frame ++ rest.flatMap writeFrame).take frameBytes = frame := by
      rw [← size,List.take_left]
    have left : (frame ++ rest.flatMap writeFrame).drop frameBytes = rest.flatMap writeFrame := by
      rw [← size,List.drop_left]
    have present : writeFrame frame ++ rest.flatMap writeFrame ≠ [] := by
      intro empty
      have nothing := (List.append_eq_nil_iff.mp (List.append_eq_nil_iff.mp empty).1).1
      exact absurd nothing (by decide +kernel)
    have room : ¬ (frame ++ rest.flatMap writeFrame).length < frameBytes := by
      rw [List.length_append,size]
      omega
    generalize replaced : lcdReplaceBgr frame bus = outcome at ok still finishes
    obtain ⟨_,next⟩ := outcome
    cases ok
    obtain ⟨hidden,memory⟩ := run_hidden documented configured frame
    obtain ⟨revealed,kept⟩ := run_revealed documented hidden
    have ends : controller.run start next.sent =
        controller.receive (controller.run (controller.run start bus.sent) (hiddenSignals frame)) (.command displayOn) := by
      rw [show next.sent = _ from finishes rfl,Controller.run_append,Controller.run_append]
      rfl
    have drawnNow : controller.memory (controller.run start next.sent) =
        drawn frame lcdHeight (controller.memory (controller.run start bus.sent)) := by
      rw [ends,kept,memory]
    obtain ⟨last,served,ready,picture,on⟩ := ih (fun other member => sized other (List.mem_cons_of_mem _ member))
      (Nat.lt_of_succ_lt_succ enough) (completed ++ [frame]) still (ends ▸ revealed)
    refine ⟨last,?_,ready,?_,fun _ => ?_⟩
    · rw [List.flatMap_cons,serve,if_neg present]
      simp only [readLine_frame,scanHeader_frame,ne_eq,not_true_eq_false,if_false,room,taken,left,replaced]
      rw [served,List.append_assoc]
      rfl
    · rw [picture,drawnNow]
      rfl
    · refine on (.inr ?_)
      rw [ends]
      exact documented.reveals _

theorem rgb565_colours (blue green red : UInt8) :
    (rgb565 blue green red).toNat = 2048 * (red.toNat / 8) + (32 * (green.toNat / 4) + blue.toNat / 8) := by
  have fives : ∀ n < 256, n &&& 248 = n / 8 * 8 := by decide +kernel
  have sixes : ∀ n < 256, n &&& 252 = n / 4 * 4 := by decide +kernel
  have r := red.toNat_lt
  have g := green.toNat_lt
  have b := blue.toNat_lt
  have high : ((red &&& 0xF8).toUInt16 <<< 8).toNat = (red.toNat / 8) <<< 11 := by
    have masked : (red &&& 0xF8).toNat = red.toNat / 8 * 8 := (UInt8.toNat_and _ _).trans (fives _ r)
    simp only [UInt16.toNat_shiftLeft,UInt8.toNat_toUInt16,masked,Nat.shiftLeft_eq]
    have shift : (8 : UInt16).toNat % 16 = 8 := rfl
    rw [shift]
    omega
  have middle : ((green &&& 0xFC).toUInt16 <<< 3).toNat = (green.toNat / 4) <<< 5 := by
    have masked : (green &&& 0xFC).toNat = green.toNat / 4 * 4 := (UInt8.toNat_and _ _).trans (sixes _ g)
    simp only [UInt16.toNat_shiftLeft,UInt8.toNat_toUInt16,masked,Nat.shiftLeft_eq]
    have shift : (3 : UInt16).toNat % 16 = 3 := rfl
    rw [shift]
    omega
  have low : ((blue >>> 3).toUInt16).toNat = blue.toNat / 8 := by
    simp only [UInt8.toNat_toUInt16,UInt8.toNat_shiftRight,Nat.shiftRight_eq_div_pow]
    rfl
  have below : blue.toNat / 8 < 2 ^ 5 := by omega
  rw [rgb565,UInt16.toNat_or,UInt16.toNat_or,high,middle,low,Nat.or_assoc,← Nat.shiftLeft_add_eq_or_of_lt below]
  have under : (green.toNat / 4) <<< 5 + blue.toNat / 8 < 2 ^ 11 := by
    rw [Nat.shiftLeft_eq]
    omega
  rw [← Nat.shiftLeft_add_eq_or_of_lt under,Nat.shiftLeft_eq,Nat.shiftLeft_eq]
  omega

theorem drawn_foldl (frames : List (List UInt8)) (frame : List UInt8) (memory : ℕ → ℕ → UInt16) :
    (frames ++ [frame]).foldl (fun memory frame => drawn frame lcdHeight memory) memory = drawn frame lcdHeight memory := by
  induction frames generalizing memory with
  | nil => rfl
  | cons first rest ih => exact (ih _).trans (drawn_over first frame lcdHeight memory)

theorem turns_enough (frames : List (List UInt8)) : frames.length < (frames.flatMap writeFrame).length + 1 := by
  have header : 1 ≤ frameHeader.length := by decide +kernel
  induction frames with
  | nil => exact Nat.zero_lt_one
  | cons frame rest ih =>
    simp only [List.length_cons,List.flatMap_cons,List.length_append,writeFrame]
    omega

theorem smooth_run {next : Bus} {ok : Bool} (smooth : Smooth action) (ends : action bus = (ok,next)) (willing : Willing bus) :
    ok = true ∧ Willing next := by
  have both := smooth bus willing
  rwa [ends] at both

theorem prepare_willing (bus : Bus) (willing : Willing bus) : ∃ ready, prepare bus = .ok ready ∧ Willing ready := by
  have asks : Smooth (request fun bus _ => bus) := smooth_request fun _ _ => rfl
  unfold prepare
  split
  · rename_i next ends
    cases (smooth_run asks ends willing).1
  · rename_i opened ends
    have willing := (smooth_run asks ends willing).2
    split
    · rename_i next ends
      cases (smooth_run asks ends willing).1
    · rename_i configured ends
      have willing := (smooth_run asks ends willing).2
      split
      · rename_i next ends
        cases (smooth_run smooth_lcdInitialize ends willing).1
      · rename_i initialized ends
        have willing := (smooth_run smooth_lcdInitialize ends willing).2
        split
        · rename_i next ends
          cases (smooth_run asks ends willing).1
        · rename_i ready ends
          have willing := (smooth_run asks ends willing).2
          split
          · rename_i next ends
            cases (smooth_run asks ends willing).1
          · rename_i allocated ends
            exact ⟨allocated,rfl,(smooth_run asks ends willing).2⟩

-- For every panel as documented, in whatever state, while the drivers do as they are asked.
theorem last_frame_shown (documented : Documented controller) (start : σ) (frames : List (List UInt8)) (frame : List UInt8) (dc : Bool)
    (sized : ∀ written ∈ frames ++ [frame], written.length = frameBytes) (verdicts : List Verdict)
    (obliging : ∀ verdict ∈ verdicts, verdict = .done) :
    let ended := main ((frames ++ [frame]).flatMap writeFrame) ⟨verdicts,[],dc,[]⟩
    let panel := controller.run start ended.bus.sent
    ended.code = 0 ∧ ended.completed = frames ++ [frame] ∧ controller.awake panel = true ∧ controller.on panel = true ∧
    ∀ x y, x < lcdWidth → y < lcdHeight → (controller.memory panel x y).toNat =
      2048 * ((frame.getD (3 * (y * lcdWidth + x) + 2) 0).toNat / 8) +
        (32 * ((frame.getD (3 * (y * lcdWidth + x) + 1) 0).toNat / 4) + (frame.getD (3 * (y * lcdWidth + x)) 0).toNat / 8) := by
  intro ended panel
  obtain ⟨ready,prepared,willing⟩ := prepare_willing ⟨verdicts,[],dc,[]⟩ obliging
  obtain ⟨_,before,commands⟩ := (prepare_sent ⟨verdicts,[],dc,[]⟩ nofun).2 ready prepared
  have configured : Configured controller (controller.run start ready.sent) := by
    rw [commands,Controller.run_append]
    exact configured_start documented _
  obtain ⟨last,served,still,memory,on⟩ :=
    serve_frames documented start (frames ++ [frame]) sized (turns_enough _) [] willing configured
  have ends : ended = ⟨0,frames ++ [frame],last⟩ := by
    simp only [ended,main,prepared]
    exact served
  have shows : panel = controller.run start last.sent := congrArg (fun ended => controller.run start ended.bus.sent) ends
  rw [ends,shows]
  refine ⟨rfl,rfl,still.awake,on (.inl (by simp)),?_⟩
  intro x y column row
  rw [memory,drawn_foldl,drawn,if_pos ⟨column,row⟩]
  exact rgb565_colours _ _ _

def counted : List UInt8 := (List.range frameBytes).map UInt8.ofNat

theorem counted_byte {i : ℕ} (inside : i < frameBytes) : counted.getD i 0 = UInt8.ofNat i := by
  rw [counted,List.getD_eq_getElem?_getD,List.getElem?_map,List.getElem?_range inside]
  rfl

theorem counted_shown :
    let panel := ili9486.run asleep (main (([white] ++ [counted]).flatMap writeFrame) ⟨[],[],false,[]⟩).bus.sent
    ili9486.awake panel = true ∧ ili9486.on panel = true ∧ (ili9486.memory panel 0 0).toNat = 0 ∧
      (ili9486.memory panel 1 0).toNat = 32 ∧ (ili9486.memory panel 479 319).toNat = 65535 := by
  have sized : ∀ written ∈ [white] ++ [counted], written.length = frameBytes := by
    intro written member
    rcases List.mem_append.mp member with first | second
    · rw [List.mem_singleton.mp first]
      exact List.length_replicate
    · rw [List.mem_singleton.mp second,counted,List.length_map,List.length_range]
  have shown := last_frame_shown ili9486_documented asleep [white] counted false sized [] nofun
  revert shown
  generalize main (([white] ++ [counted]).flatMap writeFrame) ⟨[],[],false,[]⟩ = ended
  dsimp only
  generalize ili9486.run asleep ended.bus.sent = panel
  rintro ⟨_,_,awake,on,pixels⟩
  have shows (x y : ℕ) (column : x < lcdWidth) (row : y < lcdHeight) : (ili9486.memory panel x y).toNat =
      2048 * ((UInt8.ofNat (3 * (y * 480 + x) + 2)).toNat / 8) +
        (32 * ((UInt8.ofNat (3 * (y * 480 + x) + 1)).toNat / 4) + (UInt8.ofNat (3 * (y * 480 + x))).toNat / 8) := by
    have inside : 3 * (y * lcdWidth + x) + 2 < frameBytes := by
      simp only [frameBytes,lcdWidth,lcdHeight] at column row ⊢
      omega
    rw [pixels x y column row,counted_byte inside,counted_byte (by omega),counted_byte (by omega),lcdWidth]
  refine ⟨awake,on,?_,?_,?_⟩
  · exact shows 0 0 (by decide) (by decide)
  · exact shows 1 0 (by decide) (by decide)
  · exact shows 479 319 (by decide) (by decide)
end Ignis.LcdDriver
