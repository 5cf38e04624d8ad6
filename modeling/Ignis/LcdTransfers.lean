import Ignis.LcdDriver

-- A function that returns 0 has sent the signals it stands for, one that fails a first part of them.
namespace Ignis.LcdDriver
open PanelMemory

variable {action first second : Action} {signals more : List Signal} {before between after : Option Bool}

-- `before` and `after` are what is known of the data line.
def Sends (before : Option Bool) (action : Action) (signals : List Signal) (after : Option Bool) : Prop :=
  ∀ bus : Bus, (∀ level ∈ before, bus.dc = level) → ∃ part, (action bus).2.sent = bus.sent ++ part ∧ part <+: signals ∧
    ((action bus).1 = true → part = signals ∧ ∀ level ∈ after, (action bus).2.dc = level)

theorem sends_succeed : Sends before succeed [] before :=
  fun _ line => ⟨[],(List.append_nil _).symm,List.prefix_refl _,fun _ => ⟨rfl,line⟩⟩

theorem Sends.weaken (sends : Sends before action signals after) : Sends before action signals none := by
  intro bus line
  obtain ⟨part,sent,begins,ends⟩ := sends bus line
  exact ⟨part,sent,begins,fun ok => ⟨(ends ok).1,fun _ known => nomatch known⟩⟩

theorem sends_andThen (firstSends : Sends before first signals between) (secondSends : Sends between second more after) :
    Sends before (andThen first second) (signals ++ more) after := by
  intro bus line
  obtain ⟨part,sent,begins,ends⟩ := firstSends bus line
  unfold andThen
  generalize first bus = outcome at sent ends
  obtain ⟨ok,next⟩ := outcome
  cases ok with
  | false => exact ⟨part,sent,begins.trans (List.prefix_append _ _),nofun⟩
  | true =>
    obtain ⟨rfl,known⟩ := ends rfl
    obtain ⟨part',sent',begins',ends'⟩ := secondSends next known
    refine ⟨part ++ part',?_,(List.prefix_append_right_inj _).mpr begins',?_⟩
    · rw [sent',sent,List.append_assoc]
    · intro ok
      obtain ⟨rfl,known'⟩ := ends' ok
      exact ⟨rfl,known'⟩

theorem sends_gpioWriteDc (high : Bool) : Sends before (gpioWriteDc high) [] (some high) := by
  intro bus _
  refine ⟨[],?_,List.prefix_refl _,?_⟩
  · unfold gpioWriteDc request
    cases bus.verdicts with
    | nil => simp
    | cons verdict rest =>
      cases verdict with
      | done => simp
      | failed count => by_cases nothing : Verdict.failed count = .failed 0 <;> simp [nothing]
  · unfold gpioWriteDc request
    cases bus.verdicts with
    | nil => simp
    | cons verdict rest =>
      cases verdict with
      | done => simp
      | failed count => nofun

theorem sends_spiTransfer (dc : Bool) (data : List UInt8) :
    Sends (some dc) (spiTransfer data) ((words data).map (signal dc)) (some dc) := by
  intro bus line
  obtain rfl : bus.dc = dc := line dc rfl
  unfold spiTransfer request
  cases bus.verdicts with
  | nil => exact ⟨_,rfl,List.prefix_refl _,fun _ => ⟨rfl,by simp⟩⟩
  | cons verdict rest =>
    cases verdict with
    | done => exact ⟨_,rfl,List.prefix_refl _,fun _ => ⟨rfl,by simp⟩⟩
    | failed count => exact ⟨_,rfl,List.take_prefix _ _,nofun⟩

theorem sends_chain {ι : Type} {f : ι → Action} {g : ι → List Signal} {items : List ι}
    (each : ∀ item ∈ items, Sends none (f item) (g item) none) :
    Sends none (chain (items.map f)) (items.flatMap g) none := by
  induction items with
  | nil => exact sends_succeed
  | cons item rest ih =>
    rw [List.flatMap_cons]
    exact sends_andThen (each item (List.mem_cons_self ..)) (ih fun other member => each other (List.mem_cons_of_mem _ member))

def word (byte : UInt8) : UInt16 := UInt16.ofNat byte.toNat

theorem word_toUInt8 (byte : UInt8) : (word byte).toUInt8 = byte := by
  apply UInt8.toNat_inj.mp
  simp [word]

theorem words_encoded (data : List UInt8) : words (encoded data) = data.map word := by
  induction data with
  | nil => rfl
  | cons byte rest ih =>
    have split : encoded (byte :: rest) = 0 :: byte :: encoded rest := rfl
    rw [split,words,ih,List.map_cons]
    have high : 256 * (0 : UInt8).toNat + byte.toNat = byte.toNat := by simp
    rw [high]
    rfl

theorem sends_lcdCommand (command : UInt8) (data : List UInt8) (short : data.length ≤ 32) :
    Sends none (lcdCommand command data) (framed command (data.map word)) none := by
  have code : (words [0,command]).map (signal false) = [.command command] := by
    have high : 256 * (0 : UInt8).toNat + command.toNat = command.toNat := by simp
    simp only [words,high,List.map_cons,List.map_nil,signal,Bool.false_eq_true,if_false]
    exact congrArg (fun code => [Signal.command code]) (word_toUInt8 command)
  have called : Sends none (andThen (gpioWriteDc false) (spiTransfer [0,command])) [.command command] (some false) := by
    have line : Sends none (gpioWriteDc false) [] (some false) := sends_gpioWriteDc false
    have sends := sends_andThen line (sends_spiTransfer false [0,command])
    rwa [code] at sends
  unfold lcdCommand
  split
  · rename_i empty
    rw [List.length_eq_zero_iff.mp empty]
    exact sends_andThen called sends_succeed.weaken
  · rw [if_neg (by omega)]
    have line : Sends (some false) (gpioWriteDc true) [] (some true) := sends_gpioWriteDc true
    have rest := sends_andThen line (sends_spiTransfer true (encoded data))
    rw [words_encoded] at rest
    exact (sends_andThen called rest).weaken

theorem words_pixel (colour : UInt16) (rest : List UInt8) :
    words ((colour >>> 8).toUInt8 :: colour.toUInt8 :: rest) = colour :: words rest := by
  rw [words]
  congr 1
  apply UInt16.toNat_inj.mp
  have small := colour.toNat_lt
  simp only [UInt16.toNat_ofNat',UInt16.toNat_toUInt8,UInt16.toNat_shiftRight,Nat.shiftRight_eq_div_pow]
  have shift : (8 : UInt16).toNat % 16 = 8 := rfl
  rw [shift]
  omega

theorem words_bandPixels (bgr : List UInt8) (firstPixel count : ℕ) :
    words (bandPixels bgr firstPixel count) = (List.range count).map fun index => pixel bgr (firstPixel + index) := by
  unfold bandPixels
  induction List.range count with
  | nil => rfl
  | cons index rest ih =>
    rw [List.flatMap_cons,List.map_cons,← ih]
    exact words_pixel _ _

def bandCommands (bgr : List UInt8) (row : ℕ) : List (UInt8 × List UInt16) :=
  [(pageAddressSet,numbers row row),(memoryWrite,(List.range lcdWidth).map fun column => pixel bgr (row * lcdWidth + column))]

def frameCommands (bgr : List UInt8) : List (UInt8 × List UInt16) :=
  (columnAddressSet,numbers 0 479) :: (List.range lcdHeight).flatMap (bandCommands bgr)

def frameSignals (bgr : List UInt8) : List Signal := commandSignals (frameCommands bgr)
def passSignals (bgr : List UInt8) (passes : ℕ) : List Signal := (List.replicate passes (frameSignals bgr)).flatten
def hiddenSignals (bgr : List UInt8) : List Signal := .command displayOff :: passSignals bgr lcdFramePasses

theorem words_row (row : ℕ) :
    [UInt8.ofNat (row >>> 8),UInt8.ofNat row,UInt8.ofNat (row >>> 8),UInt8.ofNat row].map word = numbers row row := by
  have high : (UInt8.ofNat (row >>> 8)).toNat = row / 256 % 256 := by
    rw [UInt8.toNat_ofNat',Nat.shiftRight_eq_div_pow]
  have low : (UInt8.ofNat row).toNat = row % 256 := UInt8.toNat_ofNat'
  simp only [List.map_cons,List.map_nil,word,numbers,high,low]

theorem sends_writeBand (bgr : List UInt8) {row : ℕ} (inside : row < lcdHeight) :
    Sends none (writeBand bgr row) (commandSignals (bandCommands bgr row)) none := by
  have one : bandRows (row * lcdBandHeight) = 1 := by
    simp only [bandRows,lcdBandHeight,lcdHeight] at inside ⊢
    exact if_neg (by omega)
  have rows : lcdWidth * 1 = lcdWidth := Nat.mul_one _
  have begins : Sends none (lcdBeginBand row 1) (framed pageAddressSet (numbers row row) ++ [.command memoryWrite]) (some true) := by
    have line : Sends none (gpioWriteDc true) [] (some true) := sends_gpioWriteDc true
    have write := sends_andThen (sends_lcdCommand memoryWrite [] (by simp)) line
    have page := sends_lcdCommand pageAddressSet [UInt8.ofNat (row >>> 8),UInt8.ofNat row,UInt8.ofNat (row >>> 8),
      UInt8.ofNat row] (by simp)
    rw [words_row] at page
    exact sends_andThen page write
  have pixels := sends_spiTransfer true (bandPixels bgr (row * lcdWidth) lcdWidth)
  rw [words_bandPixels] at pixels
  have whole := (sends_andThen begins pixels).weaken
  unfold writeBand
  simp only [one,rows]
  rw [lcdBandHeight,Nat.mul_one]
  rw [List.append_assoc] at whole
  have commands : commandSignals (bandCommands bgr row) = framed pageAddressSet (numbers row row) ++
      ([.command memoryWrite] ++ ((List.range lcdWidth).map fun column => pixel bgr (row * lcdWidth + column)).map (signal true)) := by
    rw [bandCommands]
    generalize (List.range lcdWidth).map (fun column => pixel bgr (row * lcdWidth + column)) = line
    rw [commandSignals_cons,commandSignals_cons,commandSignals,List.flatMap_nil,List.append_nil]
    rfl
  rw [commands]
  exact whole

theorem sends_lcdWriteBgr (bgr : List UInt8) : Sends none (lcdWriteBgr bgr) (frameSignals bgr) none := by
  have columns := sends_lcdCommand columnAddressSet [0x00,0x00,0x01,0xDF] (by simp)
  have all : bandCount = lcdHeight := by decide
  have rows : commandSignals ((List.range lcdHeight).flatMap (bandCommands bgr)) =
      (List.range lcdHeight).flatMap fun row => commandSignals (bandCommands bgr row) := List.flatMap_assoc
  rw [frameSignals,frameCommands,commandSignals_cons,rows]
  refine sends_andThen columns ?_
  rw [all]
  exact sends_chain fun row member => sends_writeBand bgr (List.mem_range.mp member)

def Blames (action : Action) : Prop := ∀ bus, (action bus).1 = false → ∃ earlier count, (action bus).2.answers = earlier ++ [.failed count]

theorem blames_request {carry : Bus → Verdict → Bus} (keeps : ∀ bus verdict, (carry bus verdict).answers = bus.answers) :
    Blames (request carry) := by
  intro bus
  unfold request
  cases bus.verdicts with
  | nil => nofun
  | cons verdict rest =>
    cases verdict with
    | done => nofun
    | failed count => exact fun _ => ⟨bus.answers,count,keeps _ _⟩

theorem blames_andThen (before : Blames first) (after : Blames second) : Blames (andThen first second) := by
  intro bus
  have blames := before bus
  unfold andThen
  generalize first bus = outcome at blames
  obtain ⟨ok,next⟩ := outcome
  cases ok with
  | false => exact blames
  | true => exact after next

theorem blames_succeed : Blames succeed := fun _ => nofun

theorem blames_chain {actions : List Action} (each : ∀ action ∈ actions, Blames action) : Blames (chain actions) := by
  induction actions with
  | nil => exact blames_succeed
  | cons action rest ih =>
    exact blames_andThen (each action (List.mem_cons_self ..)) (ih fun other member => each other (List.mem_cons_of_mem _ member))

theorem blames_gpioWriteDc (high : Bool) : Blames (gpioWriteDc high) := blames_request fun bus verdict => by split <;> rfl
theorem blames_spiTransfer (data : List UInt8) : Blames (spiTransfer data) := blames_request fun _ _ => rfl

theorem blames_lcdCommand (command : UInt8) {data : List UInt8} (short : data.length ≤ 32) : Blames (lcdCommand command data) := by
  refine blames_andThen (blames_andThen (blames_gpioWriteDc false) (blames_spiTransfer _)) ?_
  split
  · exact blames_succeed
  · rw [if_neg (by omega)]
    exact blames_andThen (blames_gpioWriteDc true) (blames_spiTransfer _)

theorem blames_lcdWriteBgr (bgr : List UInt8) : Blames (lcdWriteBgr bgr) := by
  refine blames_andThen (blames_lcdCommand _ (by simp)) (blames_chain ?_)
  intro action member
  obtain ⟨row,_,rfl⟩ := List.mem_map.mp member
  refine blames_andThen (blames_andThen (blames_lcdCommand _ (by simp)) ?_) (blames_spiTransfer _)
  exact blames_andThen (blames_lcdCommand _ (by simp)) (blames_gpioWriteDc true)

def Faulted (bus : Bus) : Prop := ∃ earlier count rest, bus.answers = earlier ++ .failed count :: rest ∧ rest.length ≤ 2

theorem Blames.faulted {bus : Bus} (blames : Blames action) (failed : (action bus).1 = false) : Faulted (action bus).2 := by
  obtain ⟨earlier,count,answers⟩ := blames bus failed
  exact ⟨earlier,count,[],answers,Nat.zero_le 2⟩

-- What a call that fails has sent: a first part of its signals, and perhaps the command that
-- turns the display on again.
structure Broke (before : List Signal) (signals : List Signal) (next : Bus) : Prop where
  sent : ∃ part reveal, next.sent = before ++ part ++ reveal ∧ part <+: signals ∧ (reveal = [] ∨ reveal = [.command displayOn])
  faulted : Faulted next

theorem sent_displayOn (bus : Bus) : ∃ reveal, (lcdCommand displayOn [] bus).2.sent = bus.sent ++ reveal ∧
    (reveal = [] ∨ reveal = [.command displayOn]) ∧ ((lcdCommand displayOn [] bus).1 = true → reveal = [.command displayOn]) := by
  obtain ⟨part,sent,begins,ends⟩ := sends_lcdCommand displayOn [] (by simp) bus nofun
  refine ⟨part,sent,?_,fun ok => (ends ok).1⟩
  cases part with
  | nil => exact .inl rfl
  | cons signal rest =>
    obtain ⟨rfl,tail⟩ := List.cons_prefix_cons.mp begins
    rw [List.prefix_nil.mp tail]
    exact .inr rfl

theorem request_answers {carry : Bus → Verdict → Bus} (keeps : ∀ bus verdict, (carry bus verdict).answers = bus.answers) (bus : Bus) :
    ∃ verdict, (request carry bus).2.answers = bus.answers ++ [verdict] := by
  unfold request
  cases bus.verdicts with
  | nil => exact ⟨.done,keeps _ _⟩
  | cons verdict rest =>
    cases verdict with
    | done => exact ⟨.done,keeps _ _⟩
    | failed count => exact ⟨.failed count,keeps _ _⟩

theorem answers_displayOn (bus : Bus) :
    ∃ more, (lcdCommand displayOn [] bus).2.answers = bus.answers ++ more ∧ more.length ≤ 2 := by
  obtain ⟨level,first⟩ : ∃ verdict, (gpioWriteDc false bus).2.answers = bus.answers ++ [verdict] :=
    request_answers (fun bus verdict => by split <;> rfl) bus
  unfold lcdCommand andThen
  generalize gpioWriteDc false bus = outcome at first
  obtain ⟨ok,next⟩ := outcome
  cases ok with
  | false => exact ⟨[level],first,Nat.le_succ 1⟩
  | true =>
    obtain ⟨word,second⟩ : ∃ verdict, (spiTransfer [0,displayOn] next).2.answers = next.answers ++ [verdict] := by
      refine request_answers ?_ next
      exact fun _ _ => rfl
    dsimp only at first ⊢
    generalize spiTransfer [0,displayOn] next = outcome at second
    obtain ⟨ok,last⟩ := outcome
    have both : last.answers = bus.answers ++ [level,word] := by
      rw [show last.answers = _ from second,first,List.append_assoc]
      rfl
    cases ok <;> exact ⟨[level,word],both,le_rfl⟩

theorem sent_writePasses (bgr : List UInt8) (passes : ℕ) (bus : Bus) :
    ((writePasses bgr passes bus).1 = true → (writePasses bgr passes bus).2.sent = bus.sent ++ passSignals bgr passes) ∧
    ((writePasses bgr passes bus).1 = false → Broke bus.sent (passSignals bgr passes) (writePasses bgr passes bus).2) := by
  induction passes generalizing bus with
  | zero => exact ⟨fun _ => (List.append_nil _).symm,nofun⟩
  | succ passes ih =>
    have split : passSignals bgr (passes + 1) = frameSignals bgr ++ passSignals bgr passes := by
      rw [passSignals,List.replicate_succ,List.flatten_cons,passSignals]
    obtain ⟨part,sent,begins,ends⟩ := sends_lcdWriteBgr bgr bus nofun
    have blames := blames_lcdWriteBgr bgr bus
    unfold writePasses
    generalize lcdWriteBgr bgr bus = outcome at sent ends blames
    obtain ⟨ok,next⟩ := outcome
    cases ok with
    | false =>
      obtain ⟨reveal,revealed,which,_⟩ := sent_displayOn next
      obtain ⟨earlier,count,answers⟩ := blames rfl
      obtain ⟨more,asked,few⟩ := answers_displayOn next
      refine ⟨nofun,fun _ => ⟨⟨part,reveal,?_,begins.trans (split ▸ List.prefix_append _ _),which⟩,earlier,count,more,?_,few⟩⟩
      · exact revealed.trans (by rw [sent])
      · refine asked.trans ?_
        rw [show next.answers = _ from answers,List.append_assoc]
        rfl
    | true =>
      obtain ⟨rfl,_⟩ := ends rfl
      obtain ⟨finishes,breaks⟩ := ih next
      dsimp only at sent ⊢
      refine ⟨fun ok => ?_,fun failed => ?_⟩
      · rw [finishes ok,sent,split,List.append_assoc]
      · obtain ⟨⟨part,reveal,broken,begins,which⟩,faulted⟩ := breaks failed
        refine ⟨⟨frameSignals bgr ++ part,reveal,?_,?_,which⟩,faulted⟩
        · rw [broken,sent,List.append_assoc bus.sent]
        · rw [split]
          exact (List.prefix_append_right_inj _).mpr begins

theorem sent_lcdReplaceBgr (bgr : List UInt8) (bus : Bus) :
    ((lcdReplaceBgr bgr bus).1 = true →
      (lcdReplaceBgr bgr bus).2.sent = bus.sent ++ (hiddenSignals bgr ++ [.command displayOn])) ∧
    ((lcdReplaceBgr bgr bus).1 = false → Broke bus.sent (hiddenSignals bgr) (lcdReplaceBgr bgr bus).2) := by
  have split : lcdReplaceBgr bgr = andThen (lcdCommand displayOff []) (andThen (writePasses bgr lcdFramePasses)
    (lcdCommand displayOn [])) := rfl
  obtain ⟨part,sent,begins,ends⟩ := sends_lcdCommand displayOff [] (by simp) bus nofun
  have blames : Blames (lcdCommand displayOff []) := blames_lcdCommand displayOff (by simp)
  have blames := blames bus
  simp only [split,andThen]
  generalize lcdCommand displayOff [] bus = first at sent ends blames ⊢
  obtain ⟨ok,hidden⟩ := first
  cases ok with
  | false =>
    obtain ⟨earlier,count,answers⟩ := blames rfl
    refine ⟨nofun,fun _ => ⟨⟨part,[],by rw [List.append_nil]; exact sent,begins.trans ?_,.inl rfl⟩,earlier,count,[],answers,Nat.zero_le 2⟩⟩
    exact List.cons_prefix_cons.mpr ⟨rfl,List.nil_prefix⟩
  | true =>
    obtain ⟨rfl,_⟩ := ends rfl
    obtain ⟨finishes,breaks⟩ := sent_writePasses bgr lcdFramePasses hidden
    dsimp only at sent ⊢
    generalize writePasses bgr lcdFramePasses hidden = second at finishes breaks ⊢
    obtain ⟨ok,written⟩ := second
    cases ok with
    | false =>
      refine ⟨nofun,fun _ => ?_⟩
      obtain ⟨⟨part,reveal,broken,begins,which⟩,faulted⟩ := breaks rfl
      refine ⟨⟨.command displayOff :: part,reveal,?_,List.cons_prefix_cons.mpr ⟨rfl,begins⟩,which⟩,faulted⟩
      rw [broken,sent,List.append_assoc bus.sent]
      rfl
    | true =>
      obtain ⟨reveal,revealed,which,whole⟩ := sent_displayOn written
      have faulted : (lcdCommand displayOn [] written).1 = false → Faulted (lcdCommand displayOn [] written).2 :=
        (blames_lcdCommand displayOn (by simp)).faulted
      have before : written.sent = bus.sent ++ hiddenSignals bgr := by
        rw [finishes rfl,sent,List.append_assoc]
        rfl
      dsimp only
      rw [revealed,before]
      refine ⟨fun ok => ?_,fun failed => ⟨⟨hiddenSignals bgr,reveal,?_,List.prefix_refl _,which⟩,faulted failed⟩⟩
      · rw [whole ok,List.append_assoc]
      · rw [revealed,before]

def startCommands : List (UInt8 × List UInt16) := initialCommands.map fun command => (command.1,command.2.map word)

theorem sends_commands : Sends none (chain (initialCommands.map fun command => lcdCommand command.1 command.2)) (commandSignals startCommands) none := by
  have short : ∀ command ∈ initialCommands, command.2.length ≤ 32 := by decide
  have sends := sends_chain fun command member => sends_lcdCommand command.1 command.2 (short command member)
  rwa [startCommands,commandSignals,List.flatMap_map]

def Unpainted (action : Action) : Prop := ∀ bus, ∃ part, (action bus).2.sent = bus.sent ++ part ∧ .command memoryWrite ∉ part

theorem unpainted_andThen (before : Unpainted first) (after : Unpainted second) : Unpainted (andThen first second) := by
  intro bus
  obtain ⟨part,sent,silent⟩ := before bus
  unfold andThen
  generalize first bus = outcome at sent ⊢
  obtain ⟨ok,next⟩ := outcome
  cases ok with
  | false => exact ⟨part,sent,silent⟩
  | true =>
    obtain ⟨part',sent',silent'⟩ := after next
    refine ⟨part ++ part',by rw [sent',sent,List.append_assoc],fun member => ?_⟩
    exact (List.mem_append.mp member).elim silent silent'

theorem unpainted_chain {actions : List Action} (each : ∀ action ∈ actions, Unpainted action) : Unpainted (chain actions) := by
  induction actions with
  | nil => exact fun bus => ⟨[],(List.append_nil _).symm,nofun⟩
  | cons action rest ih =>
    exact unpainted_andThen (each action (List.mem_cons_self ..)) (ih fun other member => each other (List.mem_cons_of_mem _ member))

theorem unpainted_lcdCommand {code : UInt8} {data : List UInt8} (other : code ≠ memoryWrite) (short : data.length ≤ 32) :
    Unpainted (lcdCommand code data) := by
  intro bus
  obtain ⟨part,sent,begins,_⟩ := sends_lcdCommand code data short bus nofun
  refine ⟨part,sent,fun member => ?_⟩
  rcases List.mem_cons.mp (begins.subset member) with same | among
  · cases same
    exact other rfl
  · obtain ⟨_,_,same⟩ := List.mem_map.mp among
    cases same

theorem unpainted_request {carry : Bus → Verdict → Bus}
    (keeps : ∀ bus verdict, (carry bus verdict).sent = bus.sent ∨ (carry bus verdict).sent = bus.sent ++ [.reset]) :
    Unpainted (request carry) := by
  have carried (bus : Bus) (verdict : Verdict) : ∃ part, (carry bus verdict).sent = bus.sent ++ part ∧ .command memoryWrite ∉ part := by
    rcases keeps bus verdict with same | reset
    · exact ⟨[],by rw [same,List.append_nil],nofun⟩
    · exact ⟨[.reset],reset,by simp⟩
  intro bus
  unfold request
  cases bus.verdicts with
  | nil => exact carried (bus.answered .done []) .done
  | cons verdict rest =>
    cases verdict with
    | done => exact carried (bus.answered .done rest) .done
    | failed count => exact carried (bus.answered (.failed count) rest) (.failed count)

theorem unpainted_lcdReset : Unpainted lcdReset := by
  have output : Unpainted gpioOpenOutput := unpainted_request fun _ _ => .inl rfl
  have writes (high : Bool) : Unpainted (gpioWriteReset high) := by
    refine unpainted_request fun bus verdict => ?_
    split
    · exact .inl rfl
    · exact .inr rfl
  have ignored (high : Bool) : Unpainted (ignoring (gpioWriteReset high)) := fun bus => writes high bus
  apply unpainted_chain
  simp only [List.forall_mem_cons]
  exact ⟨output,output,writes true,ignored false,ignored true,nofun⟩

theorem unpainted_lcdInitialize : Unpainted lcdInitialize := by
  refine unpainted_andThen unpainted_lcdReset (unpainted_chain fun action member => ?_)
  obtain ⟨command,among,rfl⟩ := List.mem_map.mp member
  have plain : ∀ command ∈ initialCommands, command.1 ≠ memoryWrite ∧ command.2.length ≤ 32 := by decide
  obtain ⟨other,short⟩ := plain command among
  exact unpainted_lcdCommand other short

theorem unpainted_asks : Unpainted (request fun bus _ => bus) := unpainted_request fun _ _ => .inl rfl

theorem unpainted_after {bus next : Bus} {ok : Bool} (unpainted : Unpainted action) (ends : action bus = (ok,next))
    (silent : .command memoryWrite ∉ bus.sent) : .command memoryWrite ∉ next.sent := by
  obtain ⟨part,sent,none⟩ := unpainted bus
  rw [ends] at sent
  rw [show next.sent = bus.sent ++ part from sent]
  exact fun member => (List.mem_append.mp member).elim silent none

theorem sent_asks {bus next : Bus} {ok : Bool} (ends : request (fun bus _ => bus) bus = (ok,next)) : next.sent = bus.sent := by
  have sent : (request (fun bus _ => bus) bus).2.sent = bus.sent := by
    unfold request
    cases bus.verdicts with
    | nil => rfl
    | cons verdict rest => cases verdict <;> rfl
  rwa [ends] at sent

theorem sent_lcdInitialize {bus next : Bus} (ends : lcdInitialize bus = (true,next)) :
    ∃ before, next.sent = before ++ commandSignals startCommands := by
  unfold lcdInitialize andThen at ends
  generalize lcdReset bus = outcome at ends
  obtain ⟨ok,reset⟩ := outcome
  cases ok with
  | false => cases ends
  | true =>
    obtain ⟨part,sent,_,whole⟩ := sends_commands reset nofun
    dsimp only at ends
    rw [ends] at sent whole
    exact ⟨reset.sent,by rw [show next.sent = reset.sent ++ part from sent,(whole rfl).1]⟩

theorem prepare_sent (bus : Bus) (silent : .command memoryWrite ∉ bus.sent) :
    (∀ code next, prepare bus = .error (code,next) → .command memoryWrite ∉ next.sent) ∧
    ∀ ready, prepare bus = .ok ready → .command memoryWrite ∉ ready.sent ∧ ∃ before, ready.sent = before ++ commandSignals startCommands := by
  unfold prepare
  split
  · rename_i next ends
    exact ⟨fun _ _ same => by cases same; exact unpainted_after unpainted_asks ends silent,nofun⟩
  · rename_i opened ends
    have silent := unpainted_after unpainted_asks ends silent
    split
    · rename_i next ends
      exact ⟨fun _ _ same => by cases same; exact unpainted_after unpainted_asks ends silent,nofun⟩
    · rename_i configured ends
      have silent := unpainted_after unpainted_asks ends silent
      split
      · rename_i next ends
        exact ⟨fun _ _ same => by cases same; exact unpainted_after unpainted_lcdInitialize ends silent,nofun⟩
      · rename_i initialized ends
        have silent := unpainted_after unpainted_lcdInitialize ends silent
        have commands := sent_lcdInitialize ends
        split
        · rename_i next ends
          exact ⟨fun _ _ same => by cases same; exact unpainted_after unpainted_asks ends silent,nofun⟩
        · rename_i ready ends
          have silent := unpainted_after unpainted_asks ends silent
          rw [← show ready.sent = initialized.sent from sent_asks ends] at commands
          split
          · rename_i next ends
            exact ⟨fun _ _ same => by cases same; exact unpainted_after unpainted_asks ends silent,nofun⟩
          · rename_i allocated ends
            rw [← show allocated.sent = ready.sent from sent_asks ends] at commands
            refine ⟨nofun,fun _ same => ?_⟩
            cases same
            exact ⟨unpainted_after unpainted_asks ends silent,commands⟩

end Ignis.LcdDriver
