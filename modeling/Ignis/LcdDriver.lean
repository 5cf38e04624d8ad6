import Ignis.PanelMemory

-- The LCD helper `qnx_lcd_display.c`: its requests to the GPIO and SPI drivers, what of them reaches
-- the panel, and the frames that it reads from its input.
namespace Ignis.LcdDriver
open PanelMemory

def lcdWidth : ℕ := 480
def lcdHeight : ℕ := 320
def lcdBandHeight : ℕ := 1
def lcdFramePasses : ℕ := 2

-- How a request ends. One that fails may have done a part of its work: a level that was set, or
-- the first words of a transfer.
inductive Verdict where
  | done
  | failed (delivered : ℕ)
deriving DecidableEq

-- `verdicts` are the answers of the drivers to the next requests; where none is left, a request is
-- done. `answers` are those that they have given.
structure Bus where
  verdicts : List Verdict
  answers : List Verdict
  dc : Bool
  sent : List Signal

-- A function that returns 0, or -1 when a request of it fails.
abbrev Action := Bus → Bool × Bus

def succeed : Action := fun bus => (true,bus)

-- `if (first != 0) return -1; return second`, and `first == 0 && second == 0`.
def andThen (first second : Action) : Action := fun bus =>
  match first bus with
  | (true,next) => second next
  | (false,next) => (false,next)

def Bus.answered (bus : Bus) (verdict : Verdict) (rest : List Verdict) : Bus :=
  { bus with verdicts := rest, answers := bus.answers ++ [verdict] }

@[simp] theorem Bus.answered_verdicts (bus : Bus) (verdict : Verdict) (rest : List Verdict) : (bus.answered verdict rest).verdicts = rest := rfl
@[simp] theorem Bus.answered_sent (bus : Bus) (verdict : Verdict) (rest : List Verdict) : (bus.answered verdict rest).sent = bus.sent := rfl
@[simp] theorem Bus.answered_dc (bus : Bus) (verdict : Verdict) (rest : List Verdict) : (bus.answered verdict rest).dc = bus.dc := rfl

def request (carry : Bus → Verdict → Bus) : Action := fun bus =>
  match bus.verdicts with
  | [] => (true,carry (bus.answered .done []) .done)
  | .done :: rest => (true,carry (bus.answered .done rest) .done)
  | .failed delivered :: rest => (false,carry (bus.answered (.failed delivered) rest) (.failed delivered))

def gpioWriteDc (high : Bool) : Action := request fun bus verdict =>
  if verdict = .failed 0 then bus else { bus with dc := high }

-- The panel is reset while the line is low.
def gpioWriteReset (high : Bool) : Action := request fun bus verdict =>
  if high || verdict = .failed 0 then bus else { bus with sent := bus.sent ++ [.reset] }

def gpioOpenOutput : Action := request fun bus _ => bus
def spiConfigure : Action := request fun bus _ => bus

-- The panel takes words of two bytes, the high one first.
def words : List UInt8 → List UInt16
  | high :: low :: rest => UInt16.ofNat (256 * high.toNat + low.toNat) :: words rest
  | _ => []

def signal (dc : Bool) (word : UInt16) : Signal := if dc then .data word else .command word.toUInt8

def delivered (verdict : Verdict) (signals : List Signal) : List Signal :=
  match verdict with
  | .done => signals
  | .failed count => signals.take count

def spiTransfer (data : List UInt8) : Action := request fun bus verdict =>
  { bus with sent := bus.sent ++ delivered verdict ((words data).map (signal bus.dc)) }

def encoded (data : List UInt8) : List UInt8 := data.flatMap fun byte => [0,byte]

def lcdCommand (command : UInt8) (data : List UInt8) : Action :=
  andThen (andThen (gpioWriteDc false) (spiTransfer [0,command])) <|
    if data.length = 0 then succeed
    else if 64 < data.length * 2 then fun bus => (false,bus)
    else andThen (gpioWriteDc true) (spiTransfer (encoded data))

def chain : List Action → Action
  | [] => succeed
  | first :: rest => andThen first (chain rest)

-- What `gpio_write` of the reset line returns is not looked at in the middle.
def ignoring (action : Action) : Action := fun bus => (true,(action bus).2)

def initialCommands : List (UInt8 × List UInt8) :=
  [(0xB0,[0x00]),(0x11,[]),
   (0x3A,[0x55]),(0x20,[]),(0xC0,[0x09,0x09]),(0xC1,[0x41,0x00]),(0xC2,[0x33]),(0xC5,[0x00,0x36]),(0x36,[0x28]),
   (0xE0,[0x00,0x2C,0x2C,0x0B,0x0C,0x04,0x4C,0x64,0x36,0x03,0x0E,0x01,0x10,0x01,0x00]),
   (0xE1,[0x0F,0x37,0x37,0x0C,0x0F,0x05,0x50,0x32,0x36,0x04,0x0B,0x00,0x19,0x14,0x0F]),
   (0xB6,[0x00,0x02,0x3B]),(0x11,[]),
   (0x29,[]),(0x38,[]),(0x13,[])]

def lcdReset : Action := chain
  [gpioOpenOutput,gpioOpenOutput,gpioWriteReset true,ignoring (gpioWriteReset false),ignoring (gpioWriteReset true)]

def lcdInitialize : Action :=
  andThen lcdReset (chain (initialCommands.map fun command => lcdCommand command.1 command.2))

def lcdSetColumns : Action := lcdCommand 0x2A [0x00,0x00,0x01,0xDF]

def lcdBeginBand (firstRow rowCount : ℕ) : Action :=
  let lastRow := firstRow + rowCount - 1
  andThen (lcdCommand 0x2B [UInt8.ofNat (firstRow >>> 8),UInt8.ofNat firstRow,UInt8.ofNat (lastRow >>> 8),UInt8.ofNat lastRow])
    (andThen (lcdCommand 0x2C []) (gpioWriteDc true))

def rgb565 (blue green red : UInt8) : UInt16 :=
  (red &&& 0xF8).toUInt16 <<< 8 ||| (green &&& 0xFC).toUInt16 <<< 3 ||| (blue >>> 3).toUInt16

def pixel (bgr : List UInt8) (index : ℕ) : UInt16 :=
  rgb565 (bgr.getD (3 * index) 0) (bgr.getD (3 * index + 1) 0) (bgr.getD (3 * index + 2) 0)

def bandPixels (bgr : List UInt8) (firstPixel count : ℕ) : List UInt8 :=
  (List.range count).flatMap fun index =>
    [(pixel bgr (firstPixel + index) >>> 8).toUInt8,(pixel bgr (firstPixel + index)).toUInt8]

def bandRows (firstRow : ℕ) : ℕ :=
  if lcdHeight < firstRow + lcdBandHeight then lcdHeight - firstRow else lcdBandHeight

def writeBand (bgr : List UInt8) (band : ℕ) : Action :=
  let firstRow := band * lcdBandHeight
  let rowCount := bandRows firstRow
  andThen (lcdBeginBand firstRow rowCount) (spiTransfer (bandPixels bgr (firstRow * lcdWidth) (lcdWidth * rowCount)))

def bandCount : ℕ := (lcdHeight + lcdBandHeight - 1) / lcdBandHeight

def lcdWriteBgr (bgr : List UInt8) : Action :=
  andThen lcdSetColumns (chain ((List.range bandCount).map (writeBand bgr)))

-- The display is turned on again also when a pass fails.
def writePasses (bgr : List UInt8) : ℕ → Action
  | 0 => succeed
  | passes + 1 => fun bus =>
    match lcdWriteBgr bgr bus with
    | (true,next) => writePasses bgr passes next
    | (false,next) => (false,(lcdCommand 0x29 [] next).2)

def lcdReplaceBgr (bgr : List UInt8) : Action :=
  andThen (lcdCommand 0x28 []) (andThen (writePasses bgr lcdFramePasses) (lcdCommand 0x29 []))

-- `fgets` with room for one byte less than the buffer has, and `sscanf` of the header.
def readLine : ℕ → List UInt8 → List UInt8 × List UInt8
  | 0,input => ([],input)
  | _ + 1,[] => ([],[])
  | room + 1,byte :: rest =>
    if byte = 10 then ([byte],rest) else (byte :: (readLine room rest).1,(readLine room rest).2)

def space (byte : UInt8) : Bool := byte = 32 || (9 ≤ byte && byte ≤ 13)
def digit (byte : UInt8) : Bool := 48 ≤ byte && byte ≤ 57

def natural (digits : List UInt8) : ℕ := digits.foldl (fun value byte => 10 * value + (byte.toNat - 48)) 0

def scanInteger (text : List UInt8) : Option (ℤ × List UInt8) :=
  let text := text.dropWhile space
  let negative := text.head? = some 45
  let rest := if negative || text.head? = some 43 then text.drop 1 else text
  let digits := rest.takeWhile digit
  if digits = [] then none
  else some (if negative then -(natural digits : ℤ) else natural digits,rest.dropWhile digit)

def frameMark : List UInt8 := "IGNISBGR".toUTF8.toList

def scanHeader (header : List UInt8) : Option (ℤ × ℤ) :=
  let text := header.takeWhile (· ≠ 0)
  if frameMark.isPrefixOf text then do
    let (width,rest) ← scanInteger (text.drop frameMark.length)
    let (height,_) ← scanInteger rest
    some (width,height)
  else none

def frameBytes : ℕ := lcdWidth * lcdHeight * 3

-- How the helper ends: its exit code, the frames that it has reported as complete, and the bus.
structure Ended where
  code : ℕ
  completed : List (List UInt8)
  bus : Bus

def serve : ℕ → List UInt8 → List (List UInt8) → Bus → Ended
  | 0,_,completed,bus => ⟨0,completed,bus⟩
  | turns + 1,input,completed,bus =>
    if input = [] then ⟨0,completed,bus⟩
    else
      let (header,rest) := readLine 79 input
      if scanHeader header ≠ some ((lcdWidth : ℤ),(lcdHeight : ℤ)) then ⟨8,completed,bus⟩
      else if rest.length < frameBytes then ⟨9,completed,bus⟩
      else match lcdReplaceBgr (rest.take frameBytes) bus with
        | (false,next) => ⟨9,completed,next⟩
        | (true,next) => serve turns (rest.drop frameBytes) (completed ++ [rest.take frameBytes]) next

def spiOpen : Action := request fun bus _ => bus
def allocateFrame : Action := request fun bus _ => bus

-- `main` once it is the only writer, up to its loop: the exit code, or the bus that is ready.
def prepare (bus : Bus) : Except (ℕ × Bus) Bus :=
  match spiOpen bus with
  | (false,next) => .error (3,next)
  | (true,opened) =>
    match spiConfigure opened with
    | (false,next) => .error (4,next)
    | (true,configured) =>
      match lcdInitialize configured with
      | (false,next) => .error (5,next)
      | (true,initialized) =>
        match spiConfigure initialized with
        | (false,next) => .error (6,next)
        | (true,ready) =>
          match allocateFrame ready with
          | (false,next) => .error (7,next)
          | (true,allocated) => .ok allocated

def main (input : List UInt8) (bus : Bus) : Ended :=
  match prepare bus with
  | .error (code,next) => ⟨code,[],next⟩
  | .ok ready => serve (input.length + 1) input [] ready

-- What `_write_frame` of `lcd.py` puts into the helper's input.
def frameHeader : List UInt8 := s!"IGNISBGR {lcdWidth} {lcdHeight}\n".toUTF8.toList
def writeFrame (frame : List UInt8) : List UInt8 := frameHeader ++ frame

end Ignis.LcdDriver
