import Ignis.JsonValues

-- Reading a JSON text as `json.loads` does, and what of texts without blanks is read.
namespace Ignis.JsonText
open JsonValues

def quote : ℕ := 34
def backslash : ℕ := 92
def openBrace : ℕ := 123
def closeBrace : ℕ := 125
def openBracket : ℕ := 91
def closeBracket : ℕ := 93
def colon : ℕ := 58
def comma : ℕ := 44
def minus : ℕ := 45
def letterU : ℕ := 117

def whitespace (c : ℕ) : Bool := c = 32 || c = 9 || c = 10 || c = 13
def digit (c : ℕ) : Bool := 48 ≤ c && c ≤ 57

def skip (text : Str) : Str := text.dropWhile whitespace

def expect (c : ℕ) : Str → Option Str
  | [] => none
  | d :: rest => if d = c then some rest else none

def hexDigit (c : ℕ) : Option ℕ :=
  if digit c then some (c - 48)
  else if 97 ≤ c ∧ c ≤ 102 then some (c - 87)
  else if 65 ≤ c ∧ c ≤ 70 then some (c - 55)
  else none

def hexNumber (text : Str) : Option ℕ :=
  if text.length < 4 then none
  else (text.take 4).foldlM (fun number c => (hexDigit c).map (16 * number + ·)) 0

-- Behind a `\u`: a high surrogate takes the low one that may follow.
def scanUnicode (text : Str) : Option (ℕ × Str) :=
  (hexNumber text).bind fun high =>
    let rest := text.drop 4
    if 0xD800 ≤ high ∧ high ≤ 0xDBFF ∧ rest.take 2 = [backslash,letterU] then
      (hexNumber (rest.drop 2)).map fun low =>
        if 0xDC00 ≤ low ∧ low ≤ 0xDFFF then (0x10000 + (high - 0xD800) * 0x400 + (low - 0xDC00),rest.drop 6)
        else (high,rest)
    else some (high,rest)

def escapes : List (ℕ × ℕ) := [(quote,quote),(backslash,backslash),(47,47),(98,8),(102,12),(110,10),(114,13),(116,9)]

-- One character of a string; control characters are not allowed in one.
def scanCharacter (c : ℕ) (rest : Str) : Option (ℕ × Str) :=
  if c < 32 then none
  else if c ≠ backslash then some (c,rest)
  else match rest with
    | [] => none
    | escape :: rest =>
      if escape = letterU then scanUnicode rest
      else (escapes.lookup escape).map fun code => (code,rest)

def scanString : ℕ → Str → Option (Str × Str)
  | 0,_ => none
  | _ + 1,[] => none
  | fuel + 1,c :: rest =>
    if c = quote then some ([],rest)
    else (scanCharacter c rest).bind fun (code,rest) => (scanString fuel rest).map fun (text,rest) => (code :: text,rest)

def natural (digits : Str) : ℕ := digits.foldl (fun number c => 10 * number + (c - 48)) 0

def scanWhole : Str → Option (Str × Str)
  | [] => none
  | c :: rest =>
    if c = 48 then some ([c],rest)
    else if digit c then some (c :: rest.takeWhile digit,rest.dropWhile digit)
    else none

def scanDigits (read text : Str) (rest : Str) : Str × Str :=
  if (rest.takeWhile digit).isEmpty then ([],text) else (read ++ rest.takeWhile digit,rest.dropWhile digit)

def scanFraction : Str → Str × Str
  | [] => ([],[])
  | c :: rest => if c = 46 then scanDigits [c] (c :: rest) rest else ([],c :: rest)

def scanExponent : Str → Str × Str
  | [] => ([],[])
  | c :: rest =>
    if c = 69 ∨ c = 101 then
      match rest with
      | [] => ([],[c])
      | sign :: rest =>
        if sign = 43 ∨ sign = minus then scanDigits [c,sign] (c :: sign :: rest) rest else scanDigits [c] (c :: sign :: rest) (sign :: rest)
    else ([],c :: rest)

section Values
variable {R : Type} (real : Str → R)

-- An integer of more digits than `int` takes is an error.
def scanNumber (text : Str) : Option (Json R × Str) :=
  let sign := if text.head? = some minus then [minus] else []
  (scanWhole (text.drop sign.length)).bind fun (whole,rest) =>
    let (fraction,rest) := scanFraction rest
    let (exponent,rest) := scanExponent rest
    if fraction = [] ∧ exponent = [] then
      if 4300 < whole.length then none else some (.integer (if sign = [] then natural whole else - natural whole),rest)
    else some (.real (real (sign ++ whole ++ fraction ++ exponent)),rest)

def constants : List (Str × Json R) :=
  [(codes "null",.null),(codes "true",.boolean true),(codes "false",.boolean false),(codes "NaN",.real (real (codes "NaN"))),
    (codes "Infinity",.real (real (codes "Infinity"))),(codes "-Infinity",.real (real (codes "-Infinity")))]

def scanConstant (text : Str) : Option (Json R × Str) :=
  (constants real).findSome? fun (name,value) => if name.isPrefixOf text then some (value,text.drop name.length) else none

-- The fuel counts the values and fields begun; Python's limit on the depth is not modelled.
mutual
def scanValue : ℕ → Str → Option (Json R × Str)
  | 0,_ => none
  | _ + 1,[] => none
  | fuel + 1,c :: rest =>
    if c = quote then (scanString (rest.length + 1) rest).map fun (text,rest) => (.text text,rest)
    else if c = openBrace then
      match skip rest with
      | [] => none
      | d :: rest =>
        if d = closeBrace then some (.object [],rest)
        else if d = quote then scanFields fuel [] rest
        else none
    else if c = openBracket then
      match skip rest with
      | [] => none
      | d :: rest => if d = closeBracket then some (.array [],rest) else scanItems fuel [] (d :: rest)
    else match scanConstant real (c :: rest) with
      | some constant => some constant
      | none => scanNumber real (c :: rest)

def scanFields : ℕ → List (Str × Json R) → Str → Option (Json R × Str)
  | 0,_,_ => none
  | fuel + 1,fields,text =>
    (scanString (text.length + 1) text).bind fun (key,rest) =>
      (expect colon (skip rest)).bind fun rest =>
        (scanValue fuel (skip rest)).bind fun (value,rest) =>
          match skip rest with
          | [] => none
          | c :: rest =>
            if c = closeBrace then some (.object (insert key value fields),rest)
            else if c = comma then (expect quote (skip rest)).bind fun rest => scanFields fuel (insert key value fields) rest
            else none

def scanItems : ℕ → List (Json R) → Str → Option (Json R × Str)
  | 0,_,_ => none
  | fuel + 1,items,text =>
    (scanValue fuel text).bind fun (value,rest) =>
      match skip rest with
      | [] => none
      | c :: rest =>
        if c = closeBracket then some (.array (items ++ [value]),rest)
        else if c = comma then scanItems fuel (items ++ [value]) (skip rest)
        else none
end

def loads (text : Str) : Option (Json R) :=
  if text.head? = some 0xFEFF then none
  else (scanValue real (text.length + 1) (skip text)).bind fun (value,rest) => if skip rest = [] then some value else none

end Values

def Ends (rest : Str) : Prop := ∀ c ∈ rest.head?, c = comma ∨ c = closeBrace ∨ c = closeBracket

def Quoted (body value : Str) : Prop :=
  ∀ fuel rest, body.length < fuel → scanString fuel (body ++ quote :: rest) = some (value,rest)

section Reading
variable {R : Type} {real : Str → R} {text body key rest : Str} {value : Json R} {c : ℕ}

-- A text without blanks at its start that is read as `value` wherever a value may end.
structure Reads (real : Str → R) (text : Str) (value : Json R) : Prop where
  starts : ∃ c rest, text = c :: rest ∧ whitespace c = false
  scan : ∀ fuel rest, text.length < fuel → Ends rest → scanValue real fuel (text ++ rest) = some (value,rest)

structure Member (R : Type) where
  body : Str
  key : Str
  text : Str
  value : Json R

def Member.Reads (real : Str → R) (member : Member R) : Prop :=
  Quoted member.body member.key ∧ JsonText.Reads real member.text member.value

def fieldsText : Member R → List (Member R) → Str
  | member,[] => member.body ++ quote :: colon :: (member.text ++ [closeBrace])
  | member,next :: rest => member.body ++ quote :: colon :: (member.text ++ comma :: quote :: fieldsText next rest)

def itemsText : Str → List Str → Str
  | text,[] => text ++ [closeBracket]
  | text,next :: rest => text ++ comma :: itemsText next rest

def objectText (member : Member R) (members : List (Member R)) : Str := openBrace :: quote :: fieldsText member members
def arrayText (text : Str) (texts : List Str) : Str := openBracket :: itemsText text texts

def fieldsRead (fields : List (Str × Json R)) (members : List (Member R)) : List (Str × Json R) :=
  members.foldl (fun fields member => insert member.key member.value fields) fields

theorem fuel_left {spent fuel : ℕ} (short : spent < fuel) : ∃ less, fuel = less + 1 :=
  Nat.exists_eq_succ_of_ne_zero (Nat.ne_of_gt (Nat.zero_lt_of_lt short))

theorem quoted_nil : Quoted [] [] := by
  intro fuel rest short
  obtain ⟨fuel,rfl⟩ := fuel_left short
  rw [List.nil_append,scanString,if_pos rfl]

theorem scanString_step {fuel code : ℕ} {text more tail : Str} (inner : c ≠ quote) (one : scanCharacter c rest = some (code,more))
    (scanned : scanString fuel more = some (text,tail)) : scanString (fuel + 1) (c :: rest) = some (code :: text,tail) := by
  simp only [scanString,if_neg inner,one,scanned,Option.bind_some,Option.map_some]

theorem quoted_plain {value : Str} (shown : 32 ≤ c) (inner : c ≠ quote) (plain : c ≠ backslash) (quoted : Quoted body value) :
    Quoted (c :: body) (c :: value) := by
  intro fuel rest short
  obtain ⟨fuel,rfl⟩ := fuel_left short
  have one : scanCharacter c (body ++ quote :: rest) = some (c,body ++ quote :: rest) := by
    rw [scanCharacter.eq_def,if_neg (Nat.not_lt.mpr shown),if_pos plain]
  exact scanString_step inner one (quoted fuel rest (Nat.lt_of_succ_lt_succ short))

theorem quoted_escape {value : Str} {escape : ℕ} (known : escapes.lookup escape = some c) (quoted : Quoted body value) :
    Quoted (backslash :: escape :: body) (c :: value) := by
  intro fuel rest short
  obtain ⟨fuel,rfl⟩ := fuel_left short
  have letter : escape ≠ letterU := by
    rintro rfl
    cases known
  have enough : body.length < fuel := by
    simp only [List.length_cons] at short
    omega
  have one : scanCharacter backslash (escape :: (body ++ quote :: rest)) = some (c,body ++ quote :: rest) := by
    rw [scanCharacter.eq_def,if_neg (by decide),if_neg (by decide)]
    simp only [if_neg letter,known,Option.map_some]
  exact scanString_step (by decide) one (quoted fuel rest enough)

theorem skip_cons (blank : whitespace c = false) : skip (c :: rest) = c :: rest := by
  rw [skip,List.dropWhile_cons,blank]
  rfl

theorem Reads.skip_append (reads : Reads real text value) (rest : Str) : skip (text ++ rest) = text ++ rest := by
  obtain ⟨c,more,rfl,blank⟩ := reads.starts
  exact skip_cons blank

theorem reads_text {value : Str} (quoted : Quoted body value) : Reads real (quote :: (body ++ [quote])) (.text value) := by
  refine ⟨⟨quote,body ++ [quote],rfl,rfl⟩,?_⟩
  intro fuel rest short _
  obtain ⟨fuel,rfl⟩ := fuel_left short
  have scanned := quoted ((body ++ quote :: rest).length + 1) rest (by simp only [List.length_append,List.length_cons]; omega)
  rw [List.cons_append,List.append_assoc,List.singleton_append,scanValue,if_pos rfl,scanned]
  rfl

theorem scanConstant_none (other : c ≠ 110 ∧ c ≠ 116 ∧ c ≠ 102 ∧ c ≠ 78 ∧ c ≠ 73 ∧ c ≠ 45) (rest : Str) :
    scanConstant real (c :: rest) = none := by
  obtain ⟨n,t,f,nan,infinity,negative⟩ := other
  have front {name : Str} {d : ℕ} (different : c ≠ d) : (d :: name).isPrefixOf (c :: rest) = false := by
    simp [List.isPrefixOf,different.symm]
  rw [scanConstant,constants,List.findSome?_eq_none_iff]
  intro entry member
  simp only [List.mem_cons,List.not_mem_nil,or_false] at member
  rcases member with rfl | rfl | rfl | rfl | rfl | rfl
  · exact if_neg (Bool.not_eq_true _ ▸ front n)
  · exact if_neg (Bool.not_eq_true _ ▸ front t)
  · exact if_neg (Bool.not_eq_true _ ▸ front f)
  · exact if_neg (Bool.not_eq_true _ ▸ front nan)
  · exact if_neg (Bool.not_eq_true _ ▸ front infinity)
  · exact if_neg (Bool.not_eq_true _ ▸ front negative)

theorem ends_digits (ends : Ends rest) : rest.takeWhile digit = [] ∧ rest.dropWhile digit = rest ∧
    scanFraction rest = ([],rest) ∧ scanExponent rest = ([],rest) := by
  cases rest with
  | nil => exact ⟨rfl,rfl,rfl,rfl⟩
  | cons c rest =>
    rcases ends c rfl with rfl | rfl | rfl
    · exact ⟨rfl,rfl,rfl,rfl⟩
    · exact ⟨rfl,rfl,rfl,rfl⟩
    · exact ⟨rfl,rfl,rfl,rfl⟩

theorem digits_before (all : ∀ d ∈ text, digit d = true) (ends : Ends rest) :
    (text ++ rest).takeWhile digit = text ∧ (text ++ rest).dropWhile digit = rest := by
  obtain ⟨taken,dropped,_,_⟩ := ends_digits ends
  rw [List.takeWhile_append_of_pos all,List.dropWhile_append_of_pos all,taken,dropped,List.append_nil]
  exact ⟨rfl,rfl⟩

theorem reads_integer (first : digit c = true) (positive : c ≠ 48) (all : ∀ d ∈ text, digit d = true)
    (size : (c :: text).length ≤ 4300) : Reads real (c :: text) (.integer (natural (c :: text))) := by
  have bounds : 48 ≤ c ∧ c ≤ 57 := by simpa only [digit,Bool.and_eq_true,decide_eq_true_eq] using first
  have blank : whitespace c = false := by
    simp only [whitespace,Bool.or_eq_false_iff,decide_eq_false_iff_not]
    omega
  refine ⟨⟨c,text,rfl,blank⟩,?_⟩
  intro fuel rest short ends
  obtain ⟨fuel,rfl⟩ := fuel_left short
  obtain ⟨taken,dropped⟩ := digits_before all ends
  obtain ⟨_,_,fraction,exponent⟩ := ends_digits ends
  have whole : scanWhole (c :: (text ++ rest)) = some (c :: text,rest) := by
    rw [scanWhole,if_neg positive,if_pos first,taken,dropped]
  have unsigned : (c :: (text ++ rest)).head? ≠ some minus := by
    rintro sign
    have same : c = 45 := Option.some.inj sign
    omega
  have number : scanNumber real (c :: (text ++ rest)) = some (.integer (natural (c :: text)),rest) := by
    simp only [scanNumber,if_neg unsigned,List.length_nil,List.drop_zero,whole,Option.bind_some,fraction,exponent,
      and_self,if_true,if_neg (Nat.not_lt.mpr size)]
  rw [List.cons_append,scanValue,if_neg (by unfold quote; omega),if_neg (by unfold openBrace; omega),
    if_neg (by unfold openBracket; omega),scanConstant_none (by omega),number]

theorem scanFields_step {fuel : ℕ} {fields : List (Str × Json R)} {member : Member R} (reads : member.Reads real)
    (short : member.text.length < fuel) (ends : Ends (c :: rest)) (close : c = closeBrace ∨ c = comma) :
    scanFields real (fuel + 1) fields (member.body ++ quote :: colon :: (member.text ++ c :: rest)) =
      if c = closeBrace then some (.object (insert member.key member.value fields),rest)
      else (expect quote (skip rest)).bind fun rest => scanFields real fuel (insert member.key member.value fields) rest := by
  obtain ⟨quoted,reads⟩ := reads
  have key := quoted ((member.body ++ quote :: colon :: (member.text ++ c :: rest)).length + 1)
    (colon :: (member.text ++ c :: rest)) (by simp only [List.length_append]; omega)
  have behind : skip (c :: rest) = c :: rest := skip_cons (by rcases close with rfl | rfl <;> rfl)
  have colonNext : expect colon (skip (colon :: (member.text ++ c :: rest))) = some (member.text ++ c :: rest) := rfl
  rw [scanFields,key]
  simp only [Option.bind_some,colonNext,reads.skip_append,reads.scan fuel (c :: rest) short ends,behind]
  rcases close with rfl | rfl
  · rfl
  · rfl

theorem ends_cons (close : c = comma ∨ c = closeBrace ∨ c = closeBracket) (rest : Str) : Ends (c :: rest) := by
  intro d first
  cases first
  exact close

theorem scanFields_members (members : List (Member R)) : ∀ (member : Member R) (fuel : ℕ) (fields : List (Str × Json R)),
    (∀ m ∈ member :: members, m.Reads real) → (fieldsText member members).length < fuel →
    scanFields real fuel fields (fieldsText member members ++ rest) = some (.object (fieldsRead fields (member :: members)),rest) := by
  induction members with
  | nil =>
    intro member fuel fields reads short
    obtain ⟨fuel,rfl⟩ := fuel_left short
    have layout : fieldsText member [] ++ rest = member.body ++ quote :: colon :: (member.text ++ closeBrace :: rest) := by
      simp only [fieldsText,List.append_assoc,List.cons_append,List.nil_append]
    have enough : member.text.length < fuel := by
      simp only [fieldsText,List.length_append,List.length_cons] at short
      omega
    rw [layout,scanFields_step (reads member (List.mem_singleton.mpr rfl)) enough (ends_cons (.inr (.inl rfl)) rest) (.inl rfl)]
    rfl
  | cons next members ih =>
    intro member fuel fields reads short
    obtain ⟨fuel,rfl⟩ := fuel_left short
    have layout : fieldsText member (next :: members) ++ rest =
        member.body ++ quote :: colon :: (member.text ++ comma :: quote :: (fieldsText next members ++ rest)) := by
      simp only [fieldsText,List.append_assoc,List.cons_append]
    have enough : member.text.length < fuel ∧ (fieldsText next members).length < fuel := by
      simp only [fieldsText,List.length_append,List.length_cons] at short
      omega
    rw [layout,scanFields_step (reads member List.mem_cons_self) enough.1 (ends_cons (.inl rfl) _) (.inr rfl)]
    exact ih next fuel (insert member.key member.value fields) (fun m more => reads m (List.mem_cons_of_mem _ more)) enough.2

theorem reads_object {member : Member R} {members : List (Member R)} (reads : ∀ m ∈ member :: members, m.Reads real) :
    Reads real (objectText member members) (.object (fieldsRead [] (member :: members))) := by
  refine ⟨⟨openBrace,_,rfl,rfl⟩,?_⟩
  intro fuel rest short _
  obtain ⟨fuel,rfl⟩ := fuel_left short
  have enough : (fieldsText member members).length < fuel := by
    simp only [objectText,List.length_cons] at short
    omega
  have opened : skip (quote :: (fieldsText member members ++ rest)) = quote :: (fieldsText member members ++ rest) := skip_cons rfl
  rw [objectText,List.cons_append,List.cons_append,scanValue,if_neg (by decide),if_pos rfl,opened]
  simp only [if_neg (show quote ≠ closeBrace by decide),if_true]
  exact scanFields_members members member fuel [] reads enough

theorem scanItems_step {fuel : ℕ} {items : List (Json R)} (reads : Reads real text value)
    (short : text.length < fuel) (ends : Ends (c :: rest)) (close : c = closeBracket ∨ c = comma) :
    scanItems real (fuel + 1) items (text ++ c :: rest) =
      if c = closeBracket then some (.array (items ++ [value]),rest) else scanItems real fuel (items ++ [value]) (skip rest) := by
  have behind : skip (c :: rest) = c :: rest := skip_cons (by rcases close with rfl | rfl <;> rfl)
  rw [scanItems,reads.scan fuel (c :: rest) short ends]
  simp only [Option.bind_some,behind]
  rcases close with rfl | rfl
  · rfl
  · rfl

theorem itemsText_skip (reads : Reads real text value) (texts : List Str) (rest : Str) :
    skip (itemsText text texts ++ rest) = itemsText text texts ++ rest := by
  cases texts with
  | nil => rw [itemsText,List.append_assoc,reads.skip_append]
  | cons next texts => rw [itemsText,List.append_assoc,reads.skip_append]

theorem scanItems_items (items : List (Str × Json R)) (rest : Str) : ∀ (item : Str × Json R) (fuel : ℕ) (before : List (Json R)),
    (∀ i ∈ item :: items, Reads real i.1 i.2) → (itemsText item.1 (items.map Prod.fst)).length < fuel →
    scanItems real fuel before (itemsText item.1 (items.map Prod.fst) ++ rest) = some (.array (before ++ (item :: items).map Prod.snd),rest) := by
  induction items with
  | nil =>
    intro item fuel before reads short
    obtain ⟨fuel,rfl⟩ := fuel_left short
    have enough : item.1.length < fuel := by
      simp only [List.map_nil,itemsText,List.length_append,List.length_cons] at short
      omega
    rw [List.map_nil,itemsText,List.append_assoc,List.singleton_append,
      scanItems_step (reads item (List.mem_singleton.mpr rfl)) enough (ends_cons (.inr (.inr rfl)) rest) (.inl rfl)]
    rfl
  | cons next items ih =>
    intro item fuel before reads short
    obtain ⟨fuel,rfl⟩ := fuel_left short
    have enough : item.1.length < fuel ∧ (itemsText next.1 (items.map Prod.fst)).length < fuel := by
      simp only [List.map_cons,itemsText,List.length_append,List.length_cons] at short
      omega
    have others : ∀ i ∈ next :: items, Reads real i.1 i.2 := fun i more => reads i (List.mem_cons_of_mem _ more)
    rw [List.map_cons,itemsText,List.append_assoc,List.cons_append,
      scanItems_step (reads item List.mem_cons_self) enough.1 (ends_cons (.inl rfl) _) (.inr rfl),if_neg (by decide),
      itemsText_skip (others next List.mem_cons_self),ih next fuel (before ++ [item.2]) others enough.2]
    simp only [List.map_cons,List.append_assoc,List.singleton_append]

theorem Reads.inner (reads : Reads real (c :: text) value) : c ≠ closeBracket := by
  rintro rfl
  have scanned := reads.scan (text.length + 2) [] (Nat.lt_succ_self _) (fun c empty => by cases empty)
  rw [List.append_nil,scanValue,if_neg (by decide),if_neg (by decide),if_neg (by decide),
    scanConstant_none ⟨by decide,by decide,by decide,by decide,by decide,by decide⟩] at scanned
  cases scanned

theorem reads_array {item : Str × Json R} {items : List (Str × Json R)} (reads : ∀ i ∈ item :: items, Reads real i.1 i.2) :
    Reads real (arrayText item.1 (items.map Prod.fst)) (.array ((item :: items).map Prod.snd)) := by
  refine ⟨⟨openBracket,_,rfl,rfl⟩,?_⟩
  intro fuel rest short _
  obtain ⟨fuel,rfl⟩ := fuel_left short
  have enough : (itemsText item.1 (items.map Prod.fst)).length < fuel := by
    simp only [arrayText,List.length_cons] at short
    omega
  have first := reads item List.mem_cons_self
  obtain ⟨c,more,starts,blank⟩ := first.starts
  obtain ⟨behind,layout⟩ : ∃ behind, itemsText item.1 (items.map Prod.fst) ++ rest = c :: behind := by
    cases items with
    | nil => exact ⟨_,by rw [List.map_nil,itemsText,starts]; rfl⟩
    | cons next items => exact ⟨_,by rw [List.map_cons,itemsText,starts]; rfl⟩
  have scanned := scanItems_items items rest item fuel [] reads enough
  rw [layout] at scanned
  have inner : c ≠ closeBracket := Reads.inner (starts ▸ first)
  rw [arrayText,List.cons_append,layout,scanValue,if_neg (by decide),if_neg (by decide),if_pos rfl,skip_cons blank]
  simp only [if_neg inner]
  exact scanned

theorem loads_reads (reads : Reads real text value) (marked : text.head? ≠ some 0xFEFF) : loads real text = some value := by
  have scanned := reads.scan (text.length + 1) [] (Nat.lt_succ_self _) (fun c empty => by cases empty)
  have start := reads.skip_append []
  rw [List.append_nil] at scanned start
  rw [loads,if_neg marked,start,scanned]
  rfl

end Reading

end Ignis.JsonText
