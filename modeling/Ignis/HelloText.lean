import Ignis.FramePayload
import Ignis.JsonText

-- The HELLO that `stream_service` writes, and what the backend reads of it: neither the device's name
-- nor its token can end a value early.
namespace Ignis.HelloText
open JsonValues JsonText FramePayload

def jsonEscape (value : List UInt8) : List UInt8 :=
  value.foldl (fun result character =>
    let result := if character = 0x5C ∨ character = 0x22 then result ++ [0x5C] else result
    if 0x20 ≤ character then result ++ [character] else result) []

def hello (deviceId bootId token : List UInt8) : List UInt8 :=
  utf8 "\x7b\"device_id\":\"" ++ jsonEscape deviceId ++ utf8 "\",\"boot_id\":\"" ++ jsonEscape bootId ++
    utf8 "\",\"protocol_version\":1,\"software_version\":\"0.1.0\",\"device_token\":\"" ++ jsonEscape token ++
    utf8 "\",\"capabilities\":[\"camera\",\"fire_smoke_inference\",\"incident_engine\",\"evidence_buffer\"]\x7d"

-- `Packet.json`: none is a ProtocolError.
def packetJson {R : Type} (real : Str → R) (payload : List UInt8) : Option (List (Str × Json R)) :=
  (decodeUtf8 payload).bind fun text =>
    match loads real (codes text) with
    | some (.object fields) => some fields
    | _ => none

def printable (value : List UInt8) : List UInt8 := value.filter (0x20 ≤ ·)

def escaped (text : Str) : Str :=
  text.flatMap fun c => if c = backslash ∨ c = quote then [backslash,c] else if 0x20 ≤ c then [c] else []

theorem quoted_escaped (text : Str) : Quoted (escaped text) (text.filter (0x20 ≤ ·)) := by
  induction text with
  | nil => exact quoted_nil
  | cons c text ih =>
    have split : escaped (c :: text) =
        (if c = backslash ∨ c = quote then [backslash,c] else if 0x20 ≤ c then [c] else []) ++ escaped text := by
      rw [escaped,List.flatMap_cons]
      rfl
    rw [split,List.filter_cons]
    by_cases special : c = backslash ∨ c = quote
    · have shown : 0x20 ≤ c := by
        rcases special with rfl | rfl
        · decide
        · decide
      rw [if_pos special,if_pos (decide_eq_true shown)]
      apply quoted_escape _ ih
      rcases special with rfl | rfl
      · rfl
      · rfl
    · rw [if_neg special]
      by_cases shown : 0x20 ≤ c
      · rw [if_pos shown,if_pos (decide_eq_true shown)]
        exact quoted_plain shown (fun same => special (.inr same)) (fun same => special (.inl same)) ih
      · rw [if_neg shown,if_neg (by simpa using shown)]
        exact ih

theorem jsonEscape_flatMap (value : List UInt8) : jsonEscape value =
    value.flatMap fun c => (if c = 0x5C ∨ c = 0x22 then [0x5C] else []) ++ if 0x20 ≤ c then [c] else [] := by
  have grows (before : List UInt8) : value.foldl (fun result character =>
      let result := if character = 0x5C ∨ character = 0x22 then result ++ [0x5C] else result
      if 0x20 ≤ character then result ++ [character] else result) before =
      before ++ value.flatMap fun c => (if c = 0x5C ∨ c = 0x22 then [0x5C] else []) ++ if 0x20 ≤ c then [c] else [] := by
    induction value generalizing before with
    | nil => exact (List.append_nil before).symm
    | cons c value ih =>
      rw [List.foldl_cons,ih,List.flatMap_cons]
      split <;> split <;> simp
  exact grows []

theorem utf8_ofList (chars : List Char) : utf8 (String.ofList chars) = chars.flatMap String.utf8EncodeChar := by
  rw [utf8,String.toUTF8_eq_toByteArray,String.toByteArray_ofList,List.utf8Encode,List.data_toByteArray]

theorem utf8_chars (text : String) : utf8 text = text.toList.flatMap String.utf8EncodeChar := by
  rw [← utf8_ofList,String.ofList_toList]

theorem utf8_append (before after : String) : utf8 (before ++ after) = utf8 before ++ utf8 after := by
  rw [utf8_chars,utf8_chars,utf8_chars,String.toList_append,List.flatMap_append]

theorem codes_append (before after : String) : codes (before ++ after) = codes before ++ codes after := by
  rw [codes,String.toList_append,List.map_append]
  rfl

theorem encode_low {c : Char} (low : c.toNat < 128) : String.utf8EncodeChar c = [UInt8.ofNat c.toNat] := by
  have small : c.val.toNat ≤ 0x7f := Nat.le_of_lt_succ low
  simp only [String.utf8EncodeChar,if_pos small]
  rfl

theorem encode_high {c : Char} (high : 128 ≤ c.toNat) : ∀ b ∈ String.utf8EncodeChar c, 128 ≤ b.toNat := by
  have large : ¬ c.val.toNat ≤ 0x7f := Nat.not_le.mpr high
  intro b member
  simp only [String.utf8EncodeChar,if_neg large] at member
  split at member
  · simp only [List.mem_cons,List.not_mem_nil,or_false] at member
    rcases member with rfl | rfl <;> rw [UInt8.toNat_ofNat'] <;> omega
  · split at member
    · simp only [List.mem_cons,List.not_mem_nil,or_false] at member
      rcases member with rfl | rfl | rfl <;> rw [UInt8.toNat_ofNat'] <;> omega
    · simp only [List.mem_cons,List.not_mem_nil,or_false] at member
      rcases member with rfl | rfl | rfl | rfl <;> rw [UInt8.toNat_ofNat'] <;> omega

def escapedChar (c : Char) : List Char :=
  if c.toNat = backslash ∨ c.toNat = quote then [Char.ofNat backslash,c] else if 0x20 ≤ c.toNat then [c] else []

def escapedText (text : String) : String := .ofList (text.toList.flatMap escapedChar)
def printableText (text : String) : String := .ofList (text.toList.filter fun c => 0x20 ≤ c.toNat)

def escapedByte (c : UInt8) : List UInt8 := (if c = 0x5C ∨ c = 0x22 then [0x5C] else []) ++ if 0x20 ≤ c then [c] else []

theorem byte_toNat {c : Char} (low : c.toNat < 128) : (UInt8.ofNat c.toNat).toNat = c.toNat := by
  rw [UInt8.toNat_ofNat',Nat.mod_eq_of_lt (by omega)]

theorem escapedByte_encode (c : Char) :
    (String.utf8EncodeChar c).flatMap escapedByte = (escapedChar c).flatMap String.utf8EncodeChar := by
  rcases Nat.lt_or_ge c.toNat 128 with low | high
  · have same := byte_toNat low
    rw [encode_low low,List.flatMap_singleton,escapedByte,escapedChar]
    simp only [← UInt8.toNat_inj,UInt8.le_iff_toNat_le,same]
    have numbers : (0x5C : UInt8).toNat = backslash ∧ (0x22 : UInt8).toNat = quote ∧ (0x20 : UInt8).toNat = 0x20 := ⟨rfl,rfl,rfl⟩
    rw [numbers.1,numbers.2.1,numbers.2.2]
    have mark : String.utf8EncodeChar (Char.ofNat backslash) = [0x5C] := by decide
    by_cases special : c.toNat = backslash ∨ c.toNat = quote
    · have shown : 0x20 ≤ c.toNat := by
        rcases special with same | same <;> rw [same] <;> decide
      rw [if_pos special,if_pos special,if_pos shown,List.flatMap_cons,mark,List.flatMap_singleton,encode_low low]
    · rw [if_neg special,if_neg special]
      split
      · rw [List.flatMap_singleton,encode_low low]
        rfl
      · rfl
  · have each : ∀ b ∈ String.utf8EncodeChar c, escapedByte b = [b] := by
      intro b member
      have large := encode_high high b member
      have plain : ¬ (b = 0x5C ∨ b = 0x22) := by
        rintro (rfl | rfl)
        · exact absurd large (by decide)
        · exact absurd large (by decide)
      have shown : 0x20 ≤ b := UInt8.le_iff_toNat_le.mpr (le_trans (by decide) large)
      rw [escapedByte,if_neg plain,if_pos shown]
      rfl
    have plain : ¬ (c.toNat = backslash ∨ c.toNat = quote) := by
      unfold backslash quote
      omega
    rw [escapedChar,if_neg plain,if_pos (by omega),List.flatMap_singleton,List.flatMap_congr each]
    exact List.flatMap_singleton' _

theorem printable_encode (c : Char) : printable (String.utf8EncodeChar c) = if 0x20 ≤ c.toNat then String.utf8EncodeChar c else [] := by
  rcases Nat.lt_or_ge c.toNat 128 with low | high
  · rw [encode_low low,printable,List.filter_singleton]
    have same : (0x20 ≤ UInt8.ofNat c.toNat) ↔ 0x20 ≤ c.toNat := by
      rw [UInt8.le_iff_toNat_le,byte_toNat low]
      rfl
    simp only [same,Bool.cond_decide]
  · rw [if_pos (by omega),printable,List.filter_eq_self]
    intro b member
    have large := encode_high high b member
    exact decide_eq_true (UInt8.le_iff_toNat_le.mpr (le_trans (by decide) large))

theorem jsonEscape_utf8 (text : String) : jsonEscape (utf8 text) = utf8 (escapedText text) := by
  rw [jsonEscape_flatMap,utf8_chars,escapedText,utf8_ofList,List.flatMap_assoc,List.flatMap_assoc]
  exact List.flatMap_congr fun c _ => escapedByte_encode c

theorem printable_utf8 (text : String) : printable (utf8 text) = utf8 (printableText text) := by
  rw [utf8_chars,printableText,utf8_ofList]
  induction text.toList with
  | nil => rfl
  | cons c chars ih =>
    rw [List.flatMap_cons,printable,List.filter_append,← printable,← printable,ih,printable_encode,List.filter_cons]
    by_cases shown : 0x20 ≤ c.toNat
    · rw [if_pos shown,if_pos (decide_eq_true shown),List.flatMap_cons]
    · rw [if_neg shown,if_neg (by simpa using shown),List.nil_append]

theorem codes_escaped (text : String) : codes (escapedText text) = escaped (codes text) := by
  rw [codes,escapedText,String.toList_ofList,escaped,codes,List.map_flatMap,List.flatMap_map]
  apply List.flatMap_congr
  intro c _
  rw [escapedChar]
  split
  · rfl
  · split <;> rfl

theorem codes_printable (text : String) : codes (printableText text) = (codes text).filter (0x20 ≤ ·) := by
  rw [codes,printableText,String.toList_ofList,codes,List.filter_map]
  rfl

section Reading
variable {R : Type} {real : Str → R} {plain : Str}

theorem quoted_same (same : escaped plain = plain) (all : plain.filter (0x20 ≤ ·) = plain) : Quoted plain plain := by
  have quoted := quoted_escaped plain
  rw [same,all] at quoted
  exact quoted

def textMember (key body value : Str) : Member R := ⟨key,key,quote :: (body ++ [quote]),.text value⟩

theorem textMember_reads {key body value : Str} (name : Quoted key key) (quoted : Quoted body value) :
    (textMember key body value).Reads real := ⟨name,reads_text quoted⟩

def capabilities : List Str := [codes "camera",codes "fire_smoke_inference",codes "incident_engine",codes "evidence_buffer"]

def quoted (body : Str) : Str := quote :: (body ++ [quote])

theorem quoted_reads {body : Str} (member : body ∈ capabilities) : Reads real (quoted body) (.text body) := by
  simp only [capabilities,List.mem_cons,List.not_mem_nil,or_false] at member
  rcases member with rfl | rfl | rfl | rfl <;> exact reads_text (quoted_same (by decide) (by decide))

def helloFields (deviceId bootId token : Str) : List (Str × Json R) :=
  [(codes "device_id",.text deviceId),(codes "boot_id",.text bootId),(codes "protocol_version",.integer 1),
    (codes "software_version",.text (codes "0.1.0")),(codes "device_token",.text token),
    (codes "capabilities",.array (capabilities.map .text))]

def listed (R : Type) : Member R :=
  ⟨codes "capabilities",codes "capabilities",arrayText (quoted (codes "camera")) (capabilities.tail.map quoted),
    .array (capabilities.map .text)⟩

theorem listed_reads : (listed R).Reads real := by
  have name : Quoted (codes "capabilities") (codes "capabilities") := quoted_same (by decide) (by decide)
  refine ⟨name,?_⟩
  have each : ∀ item ∈ capabilities.map fun body => (quoted body,Json.text body), Reads real item.1 item.2 := by
    intro item member
    obtain ⟨body,known,rfl⟩ := List.mem_map.mp member
    exact quoted_reads known
  exact reads_array each

def version (R : Type) : Member R := ⟨codes "protocol_version",codes "protocol_version",codes "1",.integer 1⟩

theorem version_reads : (version R).Reads real := by
  have name : Quoted (codes "protocol_version") (codes "protocol_version") := quoted_same (by decide) (by decide)
  exact ⟨name,reads_integer (by decide) (by decide) (by decide) (by decide)⟩

def helloMember (key : Str) (text : String) : Member R := textMember key (escaped (codes text)) ((codes text).filter (0x20 ≤ ·))

theorem helloMember_reads {key : Str} (name : Quoted key key) (text : String) : (helloMember key text).Reads real :=
  textMember_reads name (quoted_escaped (codes text))

def helloMembers (bootId token : String) : List (Member R) :=
  [helloMember (codes "boot_id") bootId,version R,textMember (codes "software_version") (codes "0.1.0") (codes "0.1.0"),
    helloMember (codes "device_token") token,listed R]

theorem helloMembers_read (deviceId bootId token : String) :
    ∀ m ∈ helloMember (codes "device_id") deviceId :: helloMembers bootId token, m.Reads real := by
  intro m member
  simp only [helloMembers,List.mem_cons,List.not_mem_nil,or_false] at member
  rcases member with rfl | rfl | rfl | rfl | rfl | rfl
  · exact helloMember_reads (quoted_same (by decide) (by decide)) deviceId
  · exact helloMember_reads (quoted_same (by decide) (by decide)) bootId
  · exact version_reads
  · exact textMember_reads (quoted_same (by decide) (by decide)) (quoted_same (by decide) (by decide))
  · exact helloMember_reads (quoted_same (by decide) (by decide)) token
  · exact listed_reads

def helloText (deviceId bootId token : String) : String :=
  "\x7b\"device_id\":\"" ++ escapedText deviceId ++ "\",\"boot_id\":\"" ++ escapedText bootId ++
    "\",\"protocol_version\":1,\"software_version\":\"0.1.0\",\"device_token\":\"" ++ escapedText token ++
    "\",\"capabilities\":[\"camera\",\"fire_smoke_inference\",\"incident_engine\",\"evidence_buffer\"]\x7d"

-- Stated with variables for the literals, which are not to be unfolded.
theorem utf8_pieces (a b c d e f g : String) :
    utf8 (a ++ b ++ c ++ d ++ e ++ f ++ g) = utf8 a ++ utf8 b ++ utf8 c ++ utf8 d ++ utf8 e ++ utf8 f ++ utf8 g := by
  simp only [utf8_append]

theorem codes_pieces (a b c d e f g : String) :
    codes (a ++ b ++ c ++ d ++ e ++ f ++ g) = codes a ++ (codes b ++ (codes c ++ (codes d ++ (codes e ++ (codes f ++ codes g))))) := by
  simp only [codes_append,List.append_assoc]

theorem hello_utf8 (deviceId bootId token : String) :
    hello (utf8 deviceId) (utf8 bootId) (utf8 token) = utf8 (helloText deviceId bootId token) := by
  delta hello helloText
  rw [utf8_pieces,jsonEscape_utf8,jsonEscape_utf8,jsonEscape_utf8]

theorem codes_hello (deviceId bootId token : String) : codes (helloText deviceId bootId token) =
    objectText (helloMember (R := R) (codes "device_id") deviceId) (helloMembers bootId token) := by
  have opening : codes "\x7b\"device_id\":\"" = openBrace :: quote :: (codes "device_id" ++ [quote,colon,quote]) := by decide
  have boot : codes "\",\"boot_id\":\"" = quote :: comma :: quote :: (codes "boot_id" ++ [quote,colon,quote]) := by decide
  have middle : codes "\",\"protocol_version\":1,\"software_version\":\"0.1.0\",\"device_token\":\"" =
      quote :: comma :: quote :: (codes "protocol_version" ++ quote :: colon :: (codes "1" ++ comma :: quote ::
        (codes "software_version" ++ quote :: colon :: quote :: (codes "0.1.0" ++ quote :: comma :: quote ::
          (codes "device_token" ++ [quote,colon,quote]))))) := by decide +kernel
  have closing : codes "\",\"capabilities\":[\"camera\",\"fire_smoke_inference\",\"incident_engine\",\"evidence_buffer\"]\x7d" =
      quote :: comma :: quote :: (codes "capabilities" ++ quote :: colon ::
        (arrayText (quoted (codes "camera")) (capabilities.tail.map quoted) ++ [closeBrace])) := by decide +kernel
  delta helloText
  rw [codes_pieces,opening,boot,middle,closing,codes_escaped,codes_escaped,codes_escaped]
  simp only [objectText,fieldsText,helloMembers,helloMember,textMember,version,listed,List.append_assoc,List.cons_append,
    List.nil_append]

theorem fieldsRead_hello (deviceId bootId token : String) :
    fieldsRead [] (helloMember (R := R) (codes "device_id") deviceId :: helloMembers bootId token) =
      helloFields ((codes deviceId).filter (0x20 ≤ ·)) ((codes bootId).filter (0x20 ≤ ·)) ((codes token).filter (0x20 ≤ ·)) := by
  simp only [fieldsRead,helloMembers,List.foldl_cons,List.foldl_nil,helloMember,textMember,version,listed]
  rfl

theorem hello_parses (real : Str → R) (deviceId bootId token : List UInt8) (device boot secret : String)
    (one : decodeUtf8 deviceId = some device) (two : decodeUtf8 bootId = some boot) (three : decodeUtf8 token = some secret) :
    ∃ device' boot' secret', decodeUtf8 (printable deviceId) = some device' ∧ decodeUtf8 (printable bootId) = some boot' ∧
      decodeUtf8 (printable token) = some secret' ∧
      packetJson real (hello deviceId bootId token) = some (helloFields (codes device') (codes boot') (codes secret')) := by
  refine ⟨printableText device,printableText boot,printableText secret,?_,?_,?_,?_⟩
  · rw [← utf8_decodeUtf8 one,printable_utf8,decodeUtf8_utf8]
  · rw [← utf8_decodeUtf8 two,printable_utf8,decodeUtf8_utf8]
  · rw [← utf8_decodeUtf8 three,printable_utf8,decodeUtf8_utf8]
  have unmarked : (objectText (helloMember (R := R) (codes "device_id") device) (helloMembers boot secret)).head? ≠ some 0xFEFF := by
    intro marked
    cases marked
  have read : loads real (codes (helloText device boot secret)) =
      some (.object (helloFields (codes (printableText device)) (codes (printableText boot)) (codes (printableText secret)))) := by
    rw [codes_hello (R := R),loads_reads (reads_object (helloMembers_read device boot secret)) unmarked,fieldsRead_hello,
      codes_printable,codes_printable,codes_printable]
  rw [← utf8_decodeUtf8 one,← utf8_decodeUtf8 two,← utf8_decodeUtf8 three,hello_utf8,packetJson,decodeUtf8_utf8,
    Option.bind_some,read]

-- A name that tries to close its value and to name another field, and a token that is a line end.
theorem hello_parses_injection :
    packetJson id (hello (utf8 "a\",\"b\":\"\\") (utf8 "7") (utf8 "\n")) = some (helloFields (codes "a\",\"b\":\"\\") (codes "7") []) := by
  obtain ⟨device,boot,secret,one,two,three,parsed⟩ := hello_parses id (utf8 "a\",\"b\":\"\\") (utf8 "7") (utf8 "\n")
    _ _ _ decodeUtf8_utf8 decodeUtf8_utf8 decodeUtf8_utf8
  rw [printable_utf8,decodeUtf8_utf8,Option.some.injEq] at one two three
  have texts : codes (printableText "a\",\"b\":\"\\") = codes "a\",\"b\":\"\\" ∧ codes (printableText "7") = codes "7" ∧
      codes (printableText "\n") = [] := by decide +kernel
  rw [parsed,← one,← two,← three,texts.1,texts.2.1,texts.2.2]

end Reading

end Ignis.HelloText
