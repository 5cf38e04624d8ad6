import Mathlib.Algebra.Group.Nat.Defs
import Mathlib.Tactic.Ring
import Ignis.JsonText

-- The pipe from the native camera helper to `Camera.read`: each side works out by itself how many
-- bytes a frame has.
namespace Ignis.CameraPipe
open JsonValues JsonText

structure Frame where
  width : ℕ
  height : ℕ
  stride : ℕ
  uvOffset : ℕ
  uvStride : ℕ
  framebuf : ℕ → UInt8
  wide : 0 < width
  narrow : width < 2 ^ 32
  high : 0 < height
  low : height < 2 ^ 32

def Frame.rows (frame : Frame) (offset stride count : ℕ) : List UInt8 :=
  (List.range count).flatMap fun row => (List.range frame.width).map fun i => frame.framebuf (offset + row * stride + i)

def Frame.luma (frame : Frame) : List UInt8 := frame.rows 0 frame.stride frame.height
def Frame.chroma (frame : Frame) : List UInt8 := frame.rows frame.uvOffset frame.uvStride (frame.height / 2)

def newline : ℕ := 10
def space : ℕ := 32
def frameName : Str := codes "IGNISNV12"

def Frame.header (frame : Frame) : Str :=
  frameName ++ space :: (decimal frame.width ++ space :: (decimal frame.height ++ [newline]))

-- What `frame_callback` writes when no write fails.
def frameCallback (frame : Frame) : List UInt8 := frame.header.map UInt8.ofNat ++ frame.luma ++ frame.chroma

def stream (frames : List Frame) : List UInt8 := frames.flatMap frameCallback

-- What is still to come through the pipe before its end, and how often it has been read from.
structure Pipe where
  bytes : List UInt8
  reads : ℕ

-- How many bytes a read finds is up to the writer's timing, but it waits for one.
def Pipe.read (sizes : ℕ → ℕ) (pipe : Pipe) (want : ℕ) : List UInt8 × Pipe :=
  let count := min want (max 1 (sizes pipe.reads))
  (pipe.bytes.take count,⟨pipe.bytes.drop count,pipe.reads + 1⟩)

def Pipe.readline (pipe : Pipe) : List UInt8 × Pipe :=
  match pipe.bytes.dropWhile (· ≠ 10) with
  | [] => (pipe.bytes,⟨[],pipe.reads⟩)
  | last :: rest => (pipe.bytes.takeWhile (· ≠ 10) ++ [last],⟨rest,pipe.reads⟩)

-- The helper's end, a header that is none, the end within a frame, and what Python or NumPy raises.
inductive Failure where
  | stopped
  | header (line : List UInt8)
  | ended
  | raised

structure Planes where
  rows : ℕ
  width : ℕ
  bytes : List UInt8

-- `header.decode("ascii", errors="replace")`.
def decode (line : List UInt8) : Str := line.map fun b => if b < 128 then b.toNat else 0xFFFD

def words (text : Str) : List Str := (text.splitOnP isSpace).filter (· ≠ [])

-- `int` of a text of ASCII characters: underscores stand between digits.
def parseInt (text : Str) : Option ℤ :=
  let body := strip text
  let sign := if body.head? = some minus ∨ body.head? = some 43 then body.take 1 else []
  let groups := (body.drop sign.length).splitOn 95
  if groups.any (fun group => group.isEmpty || !group.all digit) ∨ 4300 < groups.flatten.length then none
  else some (if sign = [minus] then - natural groups.flatten else natural groups.flatten)

def fill (sizes : ℕ → ℕ) (expected : ℕ) (raw : List UInt8) (pipe : Pipe) : Except Failure (List UInt8 × Pipe) :=
  if _ : raw.length < expected then
    let read := pipe.read sizes (expected - raw.length)
    if read.1 = [] then .error .ended else fill sizes expected (raw ++ read.1) read.2
  else .ok (raw,pipe)
termination_by expected - raw.length
decreasing_by
  have filled : 0 < read.1.length := List.length_pos_of_ne_nil ‹_›
  show expected - (raw ++ read.1).length < expected - raw.length
  rw [List.length_append]
  omega

-- An array without bytes is refused by `reshape` or by `cvtColor`.
def reshape (raw : List UInt8) (rows width : ℤ) : Option Planes :=
  if 0 < rows ∧ 0 < width ∧ rows * width = raw.length then some ⟨rows.toNat,width.toNat,raw⟩ else none

-- `Camera.read`, up to the conversion of what it has read.
def read (sizes : ℕ → ℕ) (pipe : Pipe) : Except Failure (Planes × Pipe) :=
  let (header,pipe) := pipe.readline
  if header = [] then .error .stopped
  else match words (strip (decode header)) with
    | [name,first,second] =>
      if name ≠ frameName then .error (.header header)
      else match parseInt first,parseInt second with
        | some width,some height =>
          match fill sizes (width * height * 3 / 2).toNat [] pipe with
          | .error failure => .error failure
          | .ok (raw,pipe) =>
            match reshape raw (height * 3 / 2) width with
            | none => .error .raised
            | some planes => .ok (planes,pipe)
        | _,_ => .error .raised
    | _ => .error (.header header)

variable {sizes : ℕ → ℕ} {frame : Frame} {frames : List Frame} {pipe : Pipe} {raw more : List UInt8} {expected : ℕ}

theorem rows_length (frame : Frame) (offset stride count : ℕ) : (frame.rows offset stride count).length = count * frame.width := by
  rw [Frame.rows,List.length_flatMap]
  simp only [List.length_map,List.length_range,List.map_const',List.sum_replicate_nat]

theorem fill_enough (sizes : ℕ → ℕ) (expected : ℕ) (raw : List UInt8) (pipe : Pipe)
    (enough : expected ≤ raw.length + pipe.bytes.length) :
    ∃ reads, fill sizes expected raw pipe =
      .ok (raw ++ pipe.bytes.take (expected - raw.length),⟨pipe.bytes.drop (expected - raw.length),reads⟩) := by
  induction raw,pipe using fill.induct sizes expected with
  | case1 raw pipe short read empty =>
    exfalso
    have count : (pipe.read sizes (expected - raw.length)).1.length = 0 := by rw [empty]; rfl
    simp only [Pipe.read,List.length_take] at count
    omega
  | case2 raw pipe short read filled ih =>
    obtain ⟨count,positive,most,taken,dropped⟩ : ∃ count, 0 < count ∧ count ≤ expected - raw.length ∧
        read.1 = pipe.bytes.take count ∧ read.2.bytes = pipe.bytes.drop count :=
      ⟨min (expected - raw.length) (max 1 (sizes pipe.reads)),by omega,Nat.min_le_left _ _,rfl,rfl⟩
    have length : (raw ++ read.1).length = raw.length + count := by
      rw [List.length_append,taken,List.length_take,Nat.min_eq_left (by omega)]
    obtain ⟨reads,rest⟩ := ih (by rw [length,dropped,List.length_drop]; omega)
    refine ⟨reads,?_⟩
    rw [fill,dif_pos short]
    simp only
    rw [if_neg filled]
    have left : expected - raw.length = count + (expected - (raw ++ read.1).length) := by omega
    rw [show pipe.read sizes (expected - raw.length) = read from rfl,rest,taken,dropped,left,List.take_add,List.drop_drop,
      List.append_assoc,← taken]
  | case3 raw pipe full =>
    refine ⟨pipe.reads,?_⟩
    have full' : expected - raw.length = 0 := by omega
    rw [fill,dif_neg full,full',List.take_zero,List.append_nil,List.drop_zero]

theorem fill_length {raw' : List UInt8} {pipe' : Pipe} (sizes : ℕ → ℕ) (expected : ℕ) (raw : List UInt8) (pipe : Pipe)
    (room : raw.length ≤ expected) (done : fill sizes expected raw pipe = .ok (raw',pipe')) : raw'.length = expected := by
  induction raw,pipe using fill.induct sizes expected with
  | case1 raw pipe short read empty =>
    rw [fill,dif_pos short] at done
    simp only [read] at empty
    rw [if_pos empty] at done
    cases done
  | case2 raw pipe short read filled ih =>
    have most : read.1.length ≤ expected - raw.length := by
      have taken : read.1.length ≤ min (expected - raw.length) (max 1 (sizes pipe.reads)) := List.length_take_le _ _
      omega
    rw [fill,dif_pos short] at done
    simp only at done
    rw [if_neg filled] at done
    exact ih (by rw [List.length_append]; omega) done
  | case3 raw pipe full =>
    rw [fill,dif_neg full] at done
    cases done
    omega

theorem readline_line {line rest : List UInt8} (inner : ∀ b ∈ line, b ≠ 10) (reads : ℕ) :
    (Pipe.mk (line ++ 10 :: rest) reads).readline = (line ++ [10],⟨rest,reads⟩) := by
  have all : ∀ b ∈ line, decide (b ≠ 10) = true := fun b member => decide_eq_true (inner b member)
  have dropped : (line ++ 10 :: rest).dropWhile (· ≠ 10) = 10 :: rest := by
    rw [List.dropWhile_append_of_pos all]
    rfl
  have taken : (line ++ 10 :: rest).takeWhile (· ≠ 10) = line := by
    rw [List.takeWhile_append_of_pos all]
    exact List.append_nil line
  simp only [Pipe.readline,dropped,taken]

theorem natural_decimal (n : ℕ) : natural (decimal n) = n := by
  have read : natural (decimal n) = Nat.ofDigitChars 10 (Nat.toDigits 10 n) 0 := by
    rw [natural,decimal,List.foldl_map,Nat.ofDigitChars_eq_foldl]
    rfl
  rw [read,Nat.ofDigitChars_ten_toDigits]

theorem rdropWhile_solid {text : Str} (solid : ∀ c ∈ text.getLast?, isSpace c = false) : text.rdropWhile isSpace = text := by
  rw [List.rdropWhile_eq_self_iff]
  intro filled blank
  rw [solid _ (List.getLast?_eq_some_getLast filled)] at blank
  cases blank

theorem strip_line (c : ℕ) (text : Str) (first : isSpace c = false) (solid : ∀ d ∈ (c :: text).getLast?, isSpace d = false) :
    strip (c :: text) = c :: text ∧ strip (c :: text ++ [newline]) = c :: text := by
  have front (rest : Str) : (c :: rest).dropWhile isSpace = c :: rest := by
    rw [List.dropWhile_cons,first]
    rfl
  refine ⟨?_,?_⟩
  · rw [strip,front,rdropWhile_solid solid]
  · rw [strip,List.cons_append,front,← List.cons_append,List.rdropWhile_concat_pos _ _ _ rfl,rdropWhile_solid solid]

theorem digit_solid {c : ℕ} (digit : 48 ≤ c ∧ c ≤ 57) : isSpace c = false ∧ JsonText.digit c = true ∧ c ≠ 95 ∧ c ≠ minus ∧ c ≠ 43 := by
  have low := digit.1
  have high := digit.2
  refine ⟨?_,?_,by omega,by unfold minus; omega,by omega⟩
  · simp only [isSpace,Bool.or_eq_false_iff,Bool.and_eq_false_iff,decide_eq_false_iff_not]
    omega
  · simp only [JsonText.digit,Bool.and_eq_true,decide_eq_true_eq]
    exact digit

theorem parseInt_decimal {n : ℕ} (small : n < 2 ^ 32) : parseInt (decimal n) = some (n : ℤ) := by
  have digits := decimal_digits n
  have ten : (decimal n).length ≤ 10 := by
    rw [decimal,List.length_map,Nat.length_toDigits_le_iff (by decide) (by decide)]
    exact Nat.lt_trans small (by decide)
  have size : (decimal n).length ≤ 4300 := Nat.le_trans ten (by decide)
  have read := natural_decimal n
  cases shape : decimal n with
  | nil => exact (decimal_ne_nil n shape).elim
  | cons c rest =>
    rw [shape] at digits size read
    have first := digit_solid (digits c List.mem_cons_self)
    have stripped : strip (c :: rest) = c :: rest :=
      (strip_line c rest first.1 fun d last => (digit_solid (digits d (List.mem_of_getLast? last))).1).1
    have single : (c :: rest).splitOn 95 = [c :: rest] := by
      rw [List.splitOn,List.splitOnP_eq_singleton]
      intro d member
      exact beq_false_of_ne (digit_solid (digits d member)).2.2.1
    have unsigned : ¬ ((c :: rest).head? = some minus ∨ (c :: rest).head? = some 43) := by
      rw [List.head?_cons,Option.some.injEq,Option.some.injEq]
      exact not_or.mpr ⟨first.2.2.2.1,first.2.2.2.2⟩
    have all : (c :: rest).all digit = true := List.all_eq_true.mpr fun d member => (digit_solid (digits d member)).2.1
    simp only [parseInt,stripped,if_neg unsigned,List.length_nil,List.drop_zero,single,List.any_cons,List.any_nil,all,
      List.flatten_cons,List.flatten_nil,List.append_nil,List.isEmpty_cons,Bool.not_true,Bool.or_false,Bool.false_eq_true,
      false_or,if_neg (Nat.not_lt.mpr size),read]
    rfl

theorem words_header (frame : Frame) :
    words (frameName ++ space :: (decimal frame.width ++ space :: decimal frame.height)) =
      [frameName,decimal frame.width,decimal frame.height] := by
  have solid (n : ℕ) : ∀ c ∈ decimal n, isSpace c = false := fun c member => (digit_solid (decimal_digits n c member)).1
  have name : ∀ c ∈ frameName, isSpace c = false := by decide
  rw [words,List.splitOnP_append_cons_of_forall_mem name space rfl,
    List.splitOnP_append_cons_of_forall_mem (solid frame.width) space rfl,List.splitOnP_eq_singleton (solid frame.height)]
  simp only [List.filter_cons,List.filter_nil,ne_eq,decimal_ne_nil,not_false_eq_true,decide_true,if_true]
  rfl

theorem decode_ascii {text : Str} (ascii : ∀ c ∈ text, c < 128) : decode (text.map UInt8.ofNat) = text := by
  rw [decode,List.map_map]
  conv_rhs => rw [← List.map_id text]
  apply List.map_congr_left
  intro c member
  have same : (UInt8.ofNat c).toNat = c := by
    rw [UInt8.toNat_ofNat',Nat.mod_eq_of_lt]
    exact Nat.lt_trans (ascii c member) (by decide)
  have small : UInt8.ofNat c < 128 := by
    rw [UInt8.lt_iff_toNat_lt,same]
    exact ascii c member
  rw [Function.comp_apply,if_pos small,same]
  rfl

def Frame.title (frame : Frame) : Str := frameName ++ space :: (decimal frame.width ++ space :: decimal frame.height)

theorem header_title (frame : Frame) : frame.header = frame.title ++ [newline] := by
  simp only [Frame.header,Frame.title,List.append_assoc,List.cons_append]

theorem title_characters (frame : Frame) : ∀ c ∈ frame.title, c < 128 ∧ c ≠ newline := by
  have number (n : ℕ) : ∀ c ∈ decimal n, c < 128 ∧ c ≠ newline := by
    intro c member
    have digit := decimal_digits n c member
    unfold newline
    omega
  have name : ∀ c ∈ frameName, c < 128 ∧ c ≠ newline := by decide
  intro c member
  rw [Frame.title] at member
  rcases List.mem_append.mp member with inside | behind
  · exact name c inside
  · rcases List.mem_cons.mp behind with rfl | behind
    · decide
    · rcases List.mem_append.mp behind with inside | behind
      · exact number frame.width c inside
      · rcases List.mem_cons.mp behind with rfl | inside
        · decide
        · exact number frame.height c inside

theorem strip_header (frame : Frame) : strip frame.header = frame.title := by
  rw [header_title]
  refine (strip_line 73 (codes "GNISNV12" ++ space :: (decimal frame.width ++ space :: decimal frame.height)) rfl ?_).2
  intro d last
  have number : d ∈ decimal frame.height := by
    have tail : (73 :: (codes "GNISNV12" ++ space :: (decimal frame.width ++ space :: decimal frame.height))) =
        (73 :: (codes "GNISNV12" ++ space :: (decimal frame.width ++ [space]))) ++ decimal frame.height := by
      simp only [List.append_assoc,List.cons_append,List.nil_append]
    rw [tail,List.getLast?_append_of_ne_nil _ (decimal_ne_nil frame.height)] at last
    exact List.mem_of_getLast? last
  exact (digit_solid (decimal_digits frame.height d number)).1

def readPlanes (sizes : ℕ → ℕ) (width height : ℕ) (pipe : Pipe) : Except Failure (Planes × Pipe) :=
  match fill sizes (width * height * 3 / 2) [] pipe with
  | .error failure => .error failure
  | .ok (raw,pipe) =>
    if height * 3 / 2 * width = raw.length ∧ 0 < height * 3 / 2 ∧ 0 < width then .ok (⟨height * 3 / 2,width,raw⟩,pipe) else .error .raised

theorem reshape_cast (raw : List UInt8) (width height : ℕ) : reshape raw ((height : ℤ) * 3 / 2) (width : ℤ) =
    if height * 3 / 2 * width = raw.length ∧ 0 < height * 3 / 2 ∧ 0 < width then some ⟨height * 3 / 2,width,raw⟩ else none := by
  have rows : (height : ℤ) * 3 / 2 = ((height * 3 / 2 : ℕ) : ℤ) := by omega
  have product : ((height * 3 / 2 : ℕ) : ℤ) * (width : ℤ) = ((height * 3 / 2 * width : ℕ) : ℤ) := (Int.natCast_mul _ _).symm
  rw [reshape,rows,product,Int.toNat_natCast,Int.toNat_natCast]
  have same : (0 < ((height * 3 / 2 : ℕ) : ℤ) ∧ 0 < (width : ℤ) ∧ ((height * 3 / 2 * width : ℕ) : ℤ) = (raw.length : ℤ)) ↔
      (height * 3 / 2 * width = raw.length ∧ 0 < height * 3 / 2 ∧ 0 < width) := by omega
  simp only [same]

theorem read_header (frame : Frame) (rest : List UInt8) (reads : ℕ) : read sizes ⟨frameCallback frame ++ rest,reads⟩ =
    readPlanes sizes frame.width frame.height ⟨frame.luma ++ frame.chroma ++ rest,reads⟩ := by
  have characters := title_characters frame
  have inner : ∀ b ∈ frame.title.map UInt8.ofNat, b ≠ 10 := by
    intro b member
    obtain ⟨c,inside,rfl⟩ := List.mem_map.mp member
    intro same
    have number : (UInt8.ofNat c).toNat = 10 := by rw [same]; rfl
    rw [UInt8.toNat_ofNat',Nat.mod_eq_of_lt (Nat.lt_trans (characters c inside).1 (by decide))] at number
    exact (characters c inside).2 number
  have layout : frameCallback frame ++ rest = frame.title.map UInt8.ofNat ++ 10 :: (frame.luma ++ frame.chroma ++ rest) := by
    rw [frameCallback,header_title,List.map_append]
    simp only [List.append_assoc,List.map_cons,List.map_nil,List.cons_append,List.nil_append]
    rfl
  have line : frame.title.map UInt8.ofNat ++ [10] = frame.header.map UInt8.ofNat := by
    rw [header_title,List.map_append]
    rfl
  have ascii : ∀ c ∈ frame.header, c < 128 := by
    intro c member
    rw [header_title] at member
    rcases List.mem_append.mp member with inside | last
    · exact (characters c inside).1
    · rw [List.mem_singleton.mp last]
      decide
  have filled : frame.header.map UInt8.ofNat ≠ [] := by
    rw [← line]
    exact List.append_ne_nil_of_right_ne_nil _ (List.cons_ne_nil _ _)
  have parsed : words (strip (decode (frame.header.map UInt8.ofNat))) = [frameName,decimal frame.width,decimal frame.height] := by
    rw [decode_ascii ascii,strip_header]
    exact words_header frame
  have expected : ((frame.width : ℤ) * (frame.height : ℤ) * 3 / 2).toNat = frame.width * frame.height * 3 / 2 := by
    rw [← Int.natCast_mul]
    omega
  rw [read,layout,readline_line inner,line]
  simp only [filled,if_false,parsed,ne_eq,not_true_eq_false,parseInt_decimal frame.narrow,parseInt_decimal frame.low,expected,
    reshape_cast]
  rw [readPlanes]
  cases fill sizes (frame.width * frame.height * 3 / 2) [] ⟨frame.luma ++ frame.chroma ++ rest,reads⟩ with
  | error failure => rfl
  | ok done =>
    by_cases shape : frame.height * 3 / 2 * frame.width = done.1.length ∧ 0 < frame.height * 3 / 2 ∧ 0 < frame.width
    · simp only [if_pos shape]
    · simp only [if_neg shape]

theorem frame_length (frame : Frame) : (frame.luma ++ frame.chroma).length = frame.height * frame.width + frame.height / 2 * frame.width := by
  rw [List.length_append,Frame.luma,Frame.chroma,rows_length,rows_length]

theorem counts_agree (frame : Frame) :
    frame.height * 3 / 2 * frame.width = frame.height * frame.width + frame.height / 2 * frame.width ∧
    (frame.width * frame.height * 3 / 2 = frame.height * frame.width + frame.height / 2 * frame.width ↔
      frame.height % 2 = 0 ∨ frame.width = 1) := by
  have wide := frame.wide
  obtain ⟨half,even | odd⟩ : ∃ half, frame.height = 2 * half ∨ frame.height = 2 * half + 1 := ⟨frame.height / 2,by omega⟩
  · have rows : frame.height * 3 / 2 = 3 * half := by omega
    have whole : frame.width * frame.height * 3 = 6 * (half * frame.width) := by rw [even]; ring
    have luma : frame.height * frame.width = 2 * (half * frame.width) := by rw [even]; ring
    have chroma : frame.height / 2 * frame.width = half * frame.width := by rw [even,Nat.mul_div_cancel_left _ (by decide)]
    rw [rows,whole,luma,chroma,Nat.mul_assoc]
    omega
  · have rows : frame.height * 3 / 2 = 3 * half + 1 := by omega
    have halved : frame.height / 2 = half := by omega
    have whole : frame.width * frame.height * 3 = 6 * (half * frame.width) + 3 * frame.width := by rw [odd]; ring
    have luma : frame.height * frame.width = 2 * (half * frame.width) + frame.width := by rw [odd]; ring
    have product : (3 * half + 1) * frame.width = 3 * (half * frame.width) + frame.width := by ring
    rw [rows,whole,luma,halved,product]
    omega

theorem read_frame (sizes : ℕ → ℕ) (frame : Frame) (rest : List UInt8) (reads : ℕ) :
    (∃ planes next, read sizes ⟨frameCallback frame ++ rest,reads⟩ = .ok (planes,next) ∧
      planes.bytes = frame.luma ++ frame.chroma ∧ next.bytes = rest) ↔ frame.height % 2 = 0 ∨ frame.width = 1 := by
  obtain ⟨rows,agree⟩ := counts_agree frame
  rw [← agree,read_header,readPlanes]
  constructor
  · rintro ⟨planes,next,done,_,_⟩
    split at done
    · cases done
    · rename_i raw pipe taken
      have length := fill_length sizes _ [] _ (Nat.zero_le _) taken
      split at done
      · rename_i shape
        rw [← length,← shape.1,rows]
      · cases done
  · intro same
    have enough : frame.width * frame.height * 3 / 2 ≤
        ([] : List UInt8).length + (Pipe.mk (frame.luma ++ frame.chroma ++ rest) reads).bytes.length := by
      rw [same,← frame_length]
      show (frame.luma ++ frame.chroma).length ≤ 0 + (frame.luma ++ frame.chroma ++ rest).length
      rw [Nat.zero_add]
      exact (List.sublist_append_left _ rest).length_le
    obtain ⟨count,filled⟩ := fill_enough sizes _ [] ⟨frame.luma ++ frame.chroma ++ rest,reads⟩ enough
    have size : frame.width * frame.height * 3 / 2 - ([] : List UInt8).length = (frame.luma ++ frame.chroma).length := by
      rw [frame_length,same]
      rfl
    rw [size,List.take_left,List.drop_left,List.nil_append] at filled
    have shape : frame.height * 3 / 2 * frame.width = (frame.luma ++ frame.chroma).length ∧ 0 < frame.height * 3 / 2 ∧ 0 < frame.width := by
      have high := frame.high
      exact ⟨rows.trans (frame_length frame).symm,by omega,frame.wide⟩
    rw [filled]
    simp only [if_pos shape]
    exact ⟨_,_,rfl,rfl,rfl⟩

def InStep (sizes : ℕ → ℕ) (more : List UInt8) : List Frame → Pipe → Prop
  | [],pipe => pipe.bytes = more
  | frame :: frames,pipe => ∃ planes next, read sizes pipe = .ok (planes,next) ∧
      planes.bytes = frame.luma ++ frame.chroma ∧ next.bytes = stream frames ++ more ∧ InStep sizes more frames next

theorem in_step_cons (frame : Frame) (frames : List Frame) (reads : ℕ)
    (ih : ∀ reads, InStep sizes more frames ⟨stream frames ++ more,reads⟩ ↔ ∀ frame ∈ frames, frame.height % 2 = 0 ∨ frame.width = 1) :
    InStep sizes more (frame :: frames) ⟨stream (frame :: frames) ++ more,reads⟩ ↔
      ∀ other ∈ frame :: frames, other.height % 2 = 0 ∨ other.width = 1 := by
  have layout : stream (frame :: frames) ++ more = frameCallback frame ++ (stream frames ++ more) := by
    rw [stream,List.flatMap_cons,List.append_assoc]
    rfl
  have one := read_frame sizes frame (stream frames ++ more) reads
  rw [List.forall_mem_cons,← one,InStep,layout]
  constructor
  · rintro ⟨planes,⟨bytes,count⟩,done,whole,rfl,rest⟩
    exact ⟨⟨planes,_,done,whole,rfl⟩,(ih count).mp rest⟩
  · rintro ⟨⟨planes,⟨bytes,count⟩,done,whole,rfl⟩,rest⟩
    exact ⟨planes,_,done,whole,rfl,(ih count).mpr rest⟩

theorem in_step (sizes : ℕ → ℕ) (more : List UInt8) (frames : List Frame) (reads : ℕ) :
    InStep sizes more frames ⟨stream frames ++ more,reads⟩ ↔ ∀ frame ∈ frames, frame.height % 2 = 0 ∨ frame.width = 1 := by
  induction frames generalizing reads with
  | nil =>
    refine ⟨fun _ frame none => (List.not_mem_nil none).elim,?_⟩
    intro _
    rw [stream,List.flatMap_nil,InStep]
    rfl
  | cons frame frames ih => exact in_step_cons frame frames reads ih

-- Two pixels in one row: the reader wants three bytes for them.
def flat : Frame := ⟨2,1,2,2,2,fun i => UInt8.ofNat i,by decide,by decide,by decide,by decide⟩

theorem in_step_flat : ¬ InStep (fun _ => 1) [] [flat,flat] ⟨stream [flat,flat],0⟩ := by
  rintro ⟨planes,next,done,same,rest,_⟩
  have layout : stream [flat,flat] = frameCallback flat ++ stream [flat] := rfl
  rw [List.append_nil] at rest
  rw [layout] at done
  have counted := (read_frame (fun _ => 1) flat (stream [flat]) 0).mp ⟨planes,next,done,same,rest⟩
  exact absurd counted (by decide)

end Ignis.CameraPipe
