import GossipNames.Key.PeerId
import GossipNames.Proofs.RoundTrip

/-! Public keys as they are passed on, and the identities that they stand behind. -/

namespace GossipNames

namespace KeyMessage

open Wire

theorem merge_takes (name : String) : Takes (merge name) := by
  intro key message bytes next rest merged
  unfold merge at merged
  split at merged
  · obtain ⟨code, read, -⟩ :=
      inField_ok (fun value => { message with code := toInt32 value }) merged
    exact length_of_readNumber read
  · obtain ⟨data, read, -⟩ := inField_ok (fun data => { message with data }) merged
    exact length_of_readBytes read
  · exact length_of_skipValue (skipUnknown_ok merged).1

private theorem decode_data (name : String) (message : KeyMessage) {data : Bytes}
    (short : data.length < UInt64.size) :
    Wire.decode (merge name) message (writeBytes 2 data) = .ok { message with data } := by
  have read := decode_writeBytes (merge_takes name) 2 message (fun data => { message with data })
    (fun _ => rfl) (by decide) (by decide) data []
  rw [List.append_nil, if_pos short, decode_nil] at read
  exact read

/-- The type is read first. -/
theorem decode_code (name : String) (kind : KeyKind) (rest : Bytes) :
    decode name (writeNumber 1 kind.code ++ rest)
      = Wire.decode (merge name) { code := kind.code, data := [] } rest := by
  have code : toInt32 kind.code = kind.code := by cases kind <;> rfl
  have bounded : kind.code < UInt64.size := by cases kind <;> decide
  rw [decode, decode_writeNumber (merge_takes name) 1 empty
    (fun value => { empty with code := toInt32 value }) (fun _ => rfl) (by decide) (by decide)
    bounded, code]
  rfl

theorem decode_encode (name : String) (kind : KeyKind) {data : Bytes}
    (short : data.length < UInt64.size) :
    decode name (encode kind data) = .ok { code := kind.code, data } := by
  rw [encode, decode_code, decode_data name _ short]

end KeyMessage

theorem KeyKind.ofCode_code (kind : KeyKind) : ofCode kind.code = .ok kind := by
  cases kind <;> rfl

namespace PublicKey

theorem length_encode {key : PublicKey} (short : key.bytes.length < 128) :
    key.encode.length = key.bytes.length + 4 := by
  have code : key.kind.code < 128 := by cases key.kind <;> decide
  have tags : ∀ tag < 16, ∀ kind : Wire.WireType, (Wire.writeKey tag kind).length = 1 := by
    intro tag small kind
    have bound := kind.code_lt
    rw [Wire.writeKey, Varint.encode_small (by omega), List.length_singleton]
  simp only [encode, KeyMessage.encode, Wire.writeNumber, Wire.writeBytes,
    Varint.encode_small short, Varint.encode_small code, List.length_append, List.length_singleton,
    tags 1 (by decide), tags 2 (by decide)]
  omega

variable [SignatureScheme]

/-- The key is kept in the form that keys of its kind are kept in, and can be written. -/
structure IsNormal (key : PublicKey) : Prop where
  kept : SignatureScheme.normalize? key.kind key.bytes = some key.bytes
  held : key.bytes.Addressable

theorem decode_encode {key : PublicKey} (normal : key.IsNormal) : decode key.encode = .ok key := by
  have short : key.bytes.length < UInt64.size := Nat.lt_trans normal.held (by decide)
  rw [decode, encode, KeyMessage.decode_encode _ _ short]
  simp only [KeyKind.ofCode_code, ok_bind, ofBytes, normal.kept]

end PublicKey

end GossipNames
