import Ignis.QnxProtocol

-- The payload of a FRAME packet: a length, JSON metadata and a JPEG, written by the backend's
-- simulator side, by the Pi and by the camera computer, and read by `decode_frame_payload`.
namespace Ignis.FramePayload
open Framing

-- What `json.loads` gives for a text; `raises` is any exception but JSONDecodeError.
inductive Loaded (Value : Type) where
  | value (value : Value)
  | decodeError
  | raises

-- Python's `json`: `dumps` is called with compact separators and ASCII escapes by both programs,
-- and `dict` is what `isinstance(value, dict)` finds.
structure Json (Metadata Value : Type) where
  dumps : Metadata → String
  loads : String → Loaded Value
  dict : Value → Option Metadata

inductive Failure where
  | protocolError (text : String)
  | other
  deriving DecidableEq

def utf8 (text : String) : List UInt8 := text.toUTF8.data.toList
def decodeUtf8 (bytes : List UInt8) : Option String := String.fromUTF8? ⟨bytes.toArray⟩

-- `struct.pack("!I", n)`, which raises beyond 32 bits.
def packLength (n : ℕ) : Option (List UInt8) := if n < 2 ^ 32 then some (bigEndian 4 n) else none

section Codec
variable {Metadata Value : Type} (json : Json Metadata Value)

def encodeFramePayload (metadata : Metadata) (jpeg : List UInt8) : Option (List UInt8) :=
  let encoded := utf8 (json.dumps metadata)
  (packLength encoded.length).map fun length => length ++ encoded ++ jpeg

def framePayload (metadata : Metadata) (jpeg : List UInt8) : Option (List UInt8) :=
  let encoded := utf8 (json.dumps metadata)
  (packLength encoded.length).map fun length => length ++ encoded ++ jpeg

def makeFramePayload (metadataJson jpeg : List UInt8) : List UInt8 :=
  QnxProtocol.writeU32 (.ofNat metadataJson.length) ++ metadataJson ++ jpeg

def isJpeg (jpeg : List UInt8) : Bool :=
  !(decide (jpeg.length < 4) || !([0xFF,0xD8].isPrefixOf jpeg) || !([0xFF,0xD9].isSuffixOf jpeg))

def decodeFramePayload (payload : List UInt8) : Except Failure (Metadata × List UInt8) :=
  if payload.length < 4 then .error (.protocolError "truncated frame metadata length")
  else
    let length := field 0 4 payload
    if length = 0 ∨ 4 + length ≥ payload.length then .error (.protocolError "invalid frame metadata length")
    else match decodeUtf8 ((payload.drop 4).take length) with
      | none => .error (.protocolError "invalid frame metadata JSON")
      | some text => match json.loads text with
        | .raises => .error .other
        | .decodeError => .error (.protocolError "invalid frame metadata JSON")
        | .value value =>
          let jpeg := payload.drop (4 + length)
          match json.dict value with
          | none => .error (.protocolError "frame metadata must be an object")
          | some metadata =>
            if !isJpeg jpeg then .error (.protocolError "truncated or invalid JPEG") else .ok (metadata,jpeg)

def Reads (text : String) (metadata : Metadata) : Prop :=
  ∃ value, json.loads text = .value value ∧ json.dict value = some metadata

variable {json} {text : String} {bytes payload jpeg : List UInt8} {metadata : Metadata}

theorem decodeUtf8_utf8 : decodeUtf8 (utf8 text) = some text := by
  have same : (⟨(utf8 text).toArray⟩ : ByteArray) = text.toByteArray := by simp [utf8]
  have valid : ByteArray.IsValidUTF8 ⟨(utf8 text).toArray⟩ := same ▸ text.isValidUTF8
  rw [decodeUtf8,String.fromUTF8?,dif_pos valid,Option.some.injEq,← String.toByteArray_inj]
  exact same

theorem utf8_decodeUtf8 (decoded : decodeUtf8 bytes = some text) : utf8 text = bytes := by
  unfold decodeUtf8 String.fromUTF8? at decoded
  split at decoded
  · cases decoded
    simp [utf8,String.fromUTF8]
  · cases decoded

theorem utf8_empty : (utf8 text).length = 0 ↔ text = "" := by
  rw [← String.utf8ByteSize_eq_zero_iff,← String.size_toByteArray]
  simp [utf8]

structure Jpeg (bytes : List UInt8) : Prop where
  long : 4 ≤ bytes.length
  starts : [0xFF,0xD8] <+: bytes
  ends : [0xFF,0xD9] <:+ bytes

theorem isJpeg_iff : isJpeg bytes = true ↔ Jpeg bytes := by
  simp only [isJpeg,Bool.not_eq_true',Bool.or_eq_false_iff,decide_eq_false_iff_not,Nat.not_lt,Bool.not_eq_false',
    List.isPrefixOf_iff_prefix,List.isSuffixOf_iff_suffix]
  constructor
  · rintro ⟨⟨long,starts⟩,ends⟩
    exact ⟨long,starts,ends⟩
  · rintro ⟨long,starts,ends⟩
    exact ⟨⟨long,starts⟩,ends⟩

-- The format: the length of a text in four bytes, the text, and a JPEG.
structure Framed (json : Json Metadata Value) (payload : List UInt8) (text : String) (metadata : Metadata)
    (jpeg : List UInt8) : Prop where
  bytes : payload = bigEndian 4 (utf8 text).length ++ utf8 text ++ jpeg
  small : (utf8 text).length < 2 ^ 32
  some : text ≠ ""
  reads : Reads json text metadata
  image : Jpeg jpeg

theorem field_framed {length : ℕ} (small : length < 2 ^ 32) (rest : List UInt8) :
    field 0 4 (bigEndian 4 length ++ rest) = length := by
  have front : ((bigEndian 4 length ++ rest).drop 0).take 4 = bigEndian 4 length :=
    List.take_left' length_bigEndian
  have range : 256 ^ 4 = 2 ^ 32 := by norm_num
  rw [field,front,bigEndianValue_bigEndian,range,Nat.mod_eq_of_lt small]

theorem decode_framed (framed : Framed json payload text metadata jpeg) : decodeFramePayload json payload = .ok (metadata,jpeg) := by
  obtain ⟨bytes,small,some,⟨value,loads,dict⟩,image⟩ := framed
  have long := image.long
  have filled : (utf8 text).length ≠ 0 := fun none => some (utf8_empty.mp none)
  have announced : field 0 4 payload = (utf8 text).length := by
    rw [bytes,List.append_assoc]
    exact field_framed small _
  have total : payload.length = 4 + (utf8 text).length + jpeg.length := by
    rw [bytes,List.length_append,List.length_append,length_bigEndian]
  have behind : payload.drop 4 = utf8 text ++ jpeg := by
    rw [bytes,List.append_assoc]
    exact List.drop_left' length_bigEndian
  have tail : payload.drop (4 + (utf8 text).length) = jpeg := by
    rw [bytes]
    exact List.drop_left' (by rw [List.length_append,length_bigEndian])
  have inner : (utf8 text ++ jpeg).take (utf8 text).length = utf8 text := List.take_left' rfl
  have inside : ¬ ((utf8 text).length = 0 ∨ 4 + (utf8 text).length ≥ payload.length) := by omega
  unfold decodeFramePayload
  rw [if_neg (by omega)]
  dsimp only
  rw [announced,if_neg inside,behind,inner,decodeUtf8_utf8]
  simp only [loads,dict,tail,isJpeg_iff.mpr image,Bool.not_true,Bool.false_eq_true,if_false]

theorem decode_parts (accepted : decodeFramePayload json payload = .ok (metadata,jpeg)) :
    ∃ text, 4 ≤ payload.length ∧ (field 0 4 payload ≠ 0 ∧ 4 + field 0 4 payload < payload.length) ∧
      decodeUtf8 ((payload.drop 4).take (field 0 4 payload)) = some text ∧ Reads json text metadata ∧
      jpeg = payload.drop (4 + field 0 4 payload) ∧ isJpeg jpeg = true := by
  unfold decodeFramePayload at accepted
  split at accepted
  · cases accepted
  rename_i long
  dsimp only at accepted
  split at accepted
  · cases accepted
  rename_i inside
  rw [not_or,not_le] at inside
  cases decoded : decodeUtf8 ((payload.drop 4).take (field 0 4 payload)) with
  | none =>
    rw [decoded] at accepted
    cases accepted
  | some text =>
    rw [decoded] at accepted
    dsimp only at accepted
    cases loads : json.loads text with
    | decodeError => rw [loads] at accepted; cases accepted
    | raises => rw [loads] at accepted; cases accepted
    | value value =>
      rw [loads] at accepted
      dsimp only at accepted
      cases dict : json.dict value with
      | none => rw [dict] at accepted; cases accepted
      | some found =>
        rw [dict] at accepted
        dsimp only at accepted
        split at accepted
        · cases accepted
        rename_i image
        cases accepted
        exact ⟨text,not_lt.mp long,inside,rfl,⟨value,loads,dict⟩,rfl,by simpa using image⟩

theorem front_field (long : 4 ≤ payload.length) : payload.take 4 = bigEndian 4 (field 0 4 payload) := by
  have four : (payload.take 4).length = 4 := by
    rw [List.length_take]
    omega
  have spelled : bigEndian (payload.take 4).length (bigEndianValue (payload.take 4)) = payload.take 4 := bigEndian_bigEndianValue
  rw [four] at spelled
  exact spelled.symm

theorem framed_of_decode (accepted : decodeFramePayload json payload = .ok (metadata,jpeg)) :
    ∃ text, Framed json payload text metadata jpeg := by
  obtain ⟨text,long,⟨filled,within⟩,decoded,reads,rfl,image⟩ := decode_parts accepted
  have same := utf8_decodeUtf8 decoded
  have size : (utf8 text).length = field 0 4 payload := by
    rw [same,List.length_take,List.length_drop]
    omega
  refine ⟨text,?_,by rw [size]; exact field_lt,?_,reads,isJpeg_iff.mp image⟩
  · rw [size,same,← front_field long,← List.drop_drop,List.append_assoc,List.take_append_drop,List.take_append_drop]
  · intro empty
    have none := utf8_empty.mpr empty
    rw [size] at none
    exact filled none

theorem text_some (none : json.loads "" = .decodeError) (reads : Reads json text metadata) : text ≠ "" := by
  rintro rfl
  obtain ⟨value,loads,_⟩ := reads
  rw [none] at loads
  cases loads

theorem encode_framed (none : json.loads "" = .decodeError) (reads : Reads json (json.dumps metadata) metadata)
    (image : Jpeg jpeg) (small : (utf8 (json.dumps metadata)).length < 2 ^ 32) :
    ∃ payload, encodeFramePayload json metadata jpeg = some payload ∧ Framed json payload (json.dumps metadata) metadata jpeg := by
  refine ⟨_,?_,⟨rfl,small,text_some none reads,reads,image⟩⟩
  rw [encodeFramePayload,packLength,if_pos small]
  rfl

theorem make_framed (none : json.loads "" = .decodeError) (reads : Reads json text metadata) (image : Jpeg jpeg)
    (small : (utf8 text).length < 2 ^ 32) : Framed json (makeFramePayload (utf8 text) jpeg) text metadata jpeg := by
  refine ⟨?_,small,text_some none reads,reads,image⟩
  have size : (UInt32.ofNat (utf8 text).length).toNat = (utf8 text).length := UInt32.toNat_ofNat_of_lt' small
  rw [makeFramePayload,QnxProtocol.writeU32_bytes,size]

theorem frame_payload_roundtrip (json : Json Metadata Value) (none : json.loads "" = .decodeError) :
    (∀ metadata jpeg, Reads json (json.dumps metadata) metadata → Jpeg jpeg →
      4 + (utf8 (json.dumps metadata)).length + jpeg.length < 2 ^ 32 →
        (encodeFramePayload json metadata jpeg).map (decodeFramePayload json) = some (.ok (metadata,jpeg)) ∧
        (framePayload json metadata jpeg).map (decodeFramePayload json) = some (.ok (metadata,jpeg))) ∧
    (∀ text metadata jpeg, Reads json text metadata → Jpeg jpeg → 4 + (utf8 text).length + jpeg.length < 2 ^ 32 →
      decodeFramePayload json (makeFramePayload (utf8 text) jpeg) = .ok (metadata,jpeg)) ∧
    ∀ payload metadata jpeg, decodeFramePayload json payload = .ok (metadata,jpeg) →
      ∃ text, Framed json payload text metadata jpeg := by
  refine ⟨?_,?_,fun _ _ _ => framed_of_decode⟩
  · intro metadata jpeg reads image total
    obtain ⟨payload,encoded,framed⟩ := encode_framed none reads image (by omega)
    have pi : framePayload json metadata jpeg = some payload := encoded
    rw [encoded,pi,Option.map_some,decode_framed framed]
    exact ⟨rfl,rfl⟩
  · intro text metadata jpeg reads image total
    exact decode_framed (make_framed none reads image (by omega))

end Codec

-- The object and the image of the repository's tests: a width, which the camera computer's text gives
-- with the same bytes.
def widthText : String := "\x7b\"width\":640\x7d"

def widthJson : Json (String × ℕ) (String × ℕ) where
  dumps metadata := "\x7b\"" ++ metadata.1 ++ "\":" ++ toString metadata.2 ++ "\x7d"
  loads text := if text = widthText then .value ("width",640) else .decodeError
  dict := some

def testJpeg : List UInt8 := [0xFF,0xD8,0x01,0xFF,0xD9]

theorem frame_payload_roundtrip_width :
    (encodeFramePayload widthJson ("width",640) testJpeg).map (decodeFramePayload widthJson) =
      some (.ok (("width",640),testJpeg)) ∧
    decodeFramePayload widthJson (makeFramePayload (utf8 widthText) testJpeg) = .ok (("width",640),testJpeg) := by
  have same : widthJson.dumps ("width",640) = widthText := by decide +kernel
  have reads : Reads widthJson widthText ("width",640) := ⟨("width",640),by simp [widthJson],rfl⟩
  have none : widthJson.loads "" = .decodeError := by
    have other : "" ≠ widthText := by decide
    simp [widthJson,other]
  have image : Jpeg testJpeg := ⟨by decide,by decide,by decide⟩
  obtain ⟨python,cpp,_⟩ := frame_payload_roundtrip widthJson none
  exact ⟨(python ("width",640) testJpeg (same ▸ reads) image (by decide +kernel)).1,
    cpp widthText ("width",640) testJpeg reads image (by decide +kernel)⟩

end Ignis.FramePayload
