import GossipNames.Text.Reading

/-! Byte strings and the texts they are read as: UTF-8 and hexadecimal digits. -/

namespace GossipNames

abbrev Bytes := List UInt8

namespace Bytes

/-- The UTF-8 encoding of a text. -/
def ofString (text : String) : Bytes :=
  text.toByteArray.data.toList

/-- The text that the bytes encode, when they are UTF-8. -/
def toString? (bytes : Bytes) : Option String :=
  String.fromUTF8? ⟨bytes.toArray⟩

theorem toString?_ofString (text : String) : toString? (ofString text) = some text := by
  unfold toString? ofString String.fromUTF8?
  rw [Array.toArray_toList]
  exact dif_pos text.isValidUTF8

theorem ofString_of_toString? {bytes : Bytes} {text : String}
    (decoded : toString? bytes = some text) : ofString text = bytes := by
  unfold toString? String.fromUTF8? at decoded
  split at decoded
  · cases decoded
    rfl
  · cases decoded

theorem ofString_append (first second : String) :
    ofString (first ++ second) = ofString first ++ ofString second := by
  simp [ofString, String.toByteArray_append]

theorem ofString_inj {first second : String} :
    ofString first = ofString second ↔ first = second := by
  refine ⟨fun same => ?_, fun same => same ▸ rfl⟩
  have decoded := toString?_ofString second
  rw [← same, toString?_ofString] at decoded
  exact Option.some.inj decoded

/-- A character takes four bytes at most. -/
theorem length_ofString_le (text : String) : (ofString text).length ≤ 4 * text.toList.length := by
  have encoded : ofString text = text.toList.flatMap String.utf8EncodeChar := by
    rw [ofString, ← String.utf8Encode_toList]
    simp [List.utf8Encode]
  rw [encoded]
  induction text.toList with
  | nil => exact Nat.le_refl _
  | cons char rest ih =>
    have one := char.utf8Size_le_four
    simp only [List.flatMap_cons, List.length_append, String.length_utf8EncodeChar,
      List.length_cons]
    omega

/-- Bytes in front of a text's are those of characters in front of its own. -/
theorem ofString_prefix_iff {first second : String} :
    ofString first <+: ofString second ↔ first.toList <+: second.toList := by
  constructor
  · rintro ⟨rest, same⟩
    apply List.isPrefix_of_utf8Encode_append_eq_utf8Encode ⟨rest.toArray⟩
    rw [String.utf8Encode_toList, String.utf8Encode_toList]
    apply ByteArray.ext
    apply Array.toList_inj.mp
    simpa [ofString] using same
  · rintro ⟨rest, same⟩
    have text : second = first ++ String.ofList rest := by
      apply String.toList_inj.mp
      rw [String.toList_append, String.toList_ofList, same]
    exact ⟨ofString (String.ofList rest), by rw [text, ofString_append]⟩

private def hexDigit (value : Nat) : Char :=
  if value < 10 then Char.ofNat (48 + value) else Char.ofNat (87 + value)

/-- Two lower-case hexadecimal digits per byte. -/
def toHex (bytes : Bytes) : String :=
  String.ofList <| bytes.flatMap fun byte =>
    [hexDigit (byte.toNat / 16), hexDigit (byte.toNat % 16)]

private def ofHexDigits? : List Char → Option Bytes
  | [] => some []
  | [_] => none
  | high :: low :: rest => do
    let high ← Text.digitValue? 16 high
    let low ← Text.digitValue? 16 low
    let rest ← ofHexDigits? rest
    return UInt8.ofNat (16 * high + low) :: rest

/-- Reads pairs of hexadecimal digits of either case. -/
def ofHex? (text : String) : Option Bytes :=
  ofHexDigits? text.toList

/-- The number that the bytes write in base 256, most significant byte first. -/
def toNatBigEndian (bytes : Bytes) : Nat :=
  bytes.foldl (fun value byte => 256 * value + byte.toNat) 0

/-- The number that the bytes write in base 256, least significant byte first. -/
def toNatLittleEndian (bytes : Bytes) : Nat :=
  bytes.foldr (fun byte value => byte.toNat + 256 * value) 0

/-- The low `width` bytes of a number, least significant first. -/
def ofNatLittleEndian : (width : Nat) → Nat → Bytes
  | 0, _ => []
  | width + 1, value => UInt8.ofNat value :: ofNatLittleEndian width (value / 256)

/-- The low `width` bytes of a number, most significant first. -/
def ofNatBigEndian (width value : Nat) : Bytes :=
  (ofNatLittleEndian width value).reverse

@[simp] theorem length_ofNatLittleEndian (width value : Nat) :
    (ofNatLittleEndian width value).length = width := by
  induction width generalizing value with
  | zero => rfl
  | succ width ih => simp [ofNatLittleEndian, ih]

@[simp] theorem length_ofNatBigEndian (width value : Nat) :
    (ofNatBigEndian width value).length = width := by
  simp [ofNatBigEndian]

/-- A number below the range of the width is read back from its bytes. -/
theorem toNatLittleEndian_ofNatLittleEndian {width value : Nat}
    (small : value < Nat.pow 256 width) :
    toNatLittleEndian (ofNatLittleEndian width value) = value := by
  induction width generalizing value with
  | zero => obtain rfl : value = 0 := Nat.lt_one_iff.mp small; rfl
  | succ width ih =>
    have rest : toNatLittleEndian (ofNatLittleEndian width (value / 256)) = value / 256 :=
      ih (Nat.div_lt_of_lt_mul (by rwa [Nat.mul_comm]))
    unfold toNatLittleEndian at rest
    simp only [ofNatLittleEndian, toNatLittleEndian, List.foldr_cons, rest]
    simp only [UInt8.toNat_ofNat']
    omega

theorem ofNatLittleEndian_injective (width : Nat) {first second : Nat}
    (firstSmall : first < Nat.pow 256 width) (secondSmall : second < Nat.pow 256 width)
    (same : ofNatLittleEndian width first = ofNatLittleEndian width second) : first = second := by
  rw [← toNatLittleEndian_ofNatLittleEndian firstSmall, same,
    toNatLittleEndian_ofNatLittleEndian secondSmall]

end Bytes

end GossipNames
