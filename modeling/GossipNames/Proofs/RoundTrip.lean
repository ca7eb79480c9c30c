import GossipNames.Proofs.NameRecord
import GossipNames.Proofs.TimeText

/-! The bytes of a record give the record back, whether it was decoded from other bytes or newly
made. -/

namespace GossipNames

/-- A machine with addresses of 64 bits can hold the bytes: half of its addresses are enough. -/
def Bytes.Addressable (bytes : Bytes) : Prop :=
  bytes.length < 9223372036854775808

instance (bytes : Bytes) : Decidable bytes.Addressable :=
  inferInstanceAs (Decidable (bytes.length < 9223372036854775808))

theorem Ed25519.length_sign (seed message : Bytes) : (sign seed message).length = 64 := by
  simp [sign, Point.compress]

namespace NameRecord

/-- A decoded record can be written, a bare root that has become a path in full included. -/
theorem fits_of_ofBytes {bytes : Bytes} {record : NameRecord} (held : bytes.Addressable)
    (read : ofBytes bytes = .ok record) : record.toEntry.Fits := by
  obtain ⟨entry, decoded, fields⟩ := ofBytes_ok.mp read
  obtain ⟨value, signature, validity⟩ := RecordEntry.within_of_decode decoded
  obtain ⟨-, ⟨text, encoded, path⟩, -, sameSignature, -, raw⟩ := ofEntry_ok.mp fields
  unfold Bytes.Addressable at held
  have lead : (Bytes.ofString "/ipfs/").length = 6 := rfl
  have longer : (Bytes.ofString record.value.text).length ≤ entry.value.length + 6 := by
    rw [Path.text_of_parse path, ← encoded]
    split
    · exact Nat.le_add_right _ _
    · rw [Bytes.ofString_append, List.length_append, lead]
      exact Nat.le_of_eq (Nat.add_comm _ _)
  refine ⟨?_, ?_, ?_⟩
  · change (Bytes.ofString record.value.text).length < _
    simp only [UInt64.size]
    omega
  · change record.signature.length < _
    rw [sameSignature]
    simp only [UInt64.size]
    omega
  · change record.rawValidity.length < _
    rw [raw]
    simp only [UInt64.size]
    omega

theorem ofBytes_toBytes_of_ofBytes {bytes : Bytes} {record : NameRecord} (held : bytes.Addressable)
    (read : ofBytes bytes = .ok record) : ofBytes record.toBytes = .ok record := by
  obtain ⟨entry, -, fields⟩ := ofBytes_ok.mp read
  obtain ⟨-, -, validity, -, -, raw⟩ := ofEntry_ok.mp fields
  rw [← raw] at validity
  rw [ofBytes_toBytes (fits_of_ofBytes held read), validity]
  rfl

section Created

variable [SignatureScheme] {key : Keypair} {value : Path} {sequence : UInt64}
  {endOfLife : Timestamp} {record : NameRecord}

theorem parseValidity_of_create (created : create key value sequence endOfLife = .ok record) :
    parseValidity record.rawValidity
      = if 0 ≤ endOfLife.year then .ok endOfLife
        else .error (.validity (Rfc3339.format endOfLife)) := by
  obtain ⟨timely, signature, -, rfl⟩ := create_ok.mp created
  have late := Timestamp.year_le_of_not_late timely
  simp only [parseValidity, Bytes.toString?_ofString, Rfc3339.parse?_format]
  by_cases early : 0 ≤ endOfLife.year <;> simp [early, late]

/-- A new record is read back from its bytes when its end of life is not before year 0. -/
theorem ofBytes_toBytes_of_create (held : (Bytes.ofString value.text).Addressable)
    (created : create key value sequence endOfLife = .ok record)
    (signed : record.signature.Addressable) (early : 0 ≤ endOfLife.year) :
    ofBytes record.toBytes = .ok record := by
  have validity := parseValidity_of_create created
  obtain ⟨timely, signature, -, rfl⟩ := create_ok.mp created
  have late := Timestamp.year_le_of_not_late timely
  unfold Bytes.Addressable at held signed
  have short := Bytes.length_ofString_le (Rfc3339.format endOfLife)
  rw [Rfc3339.length_format early late] at short
  rw [ofBytes_toBytes, validity, if_pos early]
  · rfl
  · refine ⟨Nat.lt_trans held (by decide), Nat.lt_trans signed (by decide), ?_⟩
    exact Nat.lt_of_le_of_lt short (by decide)

/-- A new record with an end of life before year 0 is never read. -/
theorem ofBytes_toBytes_of_create_early
    (created : create key value sequence endOfLife = .ok record) (early : ¬ 0 ≤ endOfLife.year)
    (decoded : NameRecord) : ofBytes record.toBytes ≠ .ok decoded := by
  intro read
  have raw := (eq_of_ofBytes_toBytes read).2.2.2
  obtain ⟨entry, -, fields⟩ := ofBytes_ok.mp read
  obtain ⟨-, -, validity, -, -, same⟩ := ofEntry_ok.mp fields
  rw [← same, raw, parseValidity_of_create created, if_neg early] at validity
  cases validity

end Created

/-- Whatever order, repetitions, unknown fields or needless bytes a record was decoded from, its own
bytes decode to the same record; and those of a new record do exactly when its end of life is not
before year 0, leap seconds included. -/
theorem wire_roundTrip :
    (∀ (bytes : Bytes) (record : NameRecord), bytes.Addressable → ofBytes bytes = .ok record →
        ofBytes record.toBytes = .ok record)
      ∧ ∀ [SignatureScheme] (key : Keypair) (value : Path) (sequence : UInt64)
          (endOfLife : Timestamp) (record : NameRecord),
        (Bytes.ofString value.text).Addressable → record.signature.Addressable →
        create key value sequence endOfLife = .ok record →
        (ofBytes record.toBytes = .ok record ↔ 0 ≤ endOfLife.year) := by
  constructor
  · intro bytes record held read
    exact ofBytes_toBytes_of_ofBytes held read
  · intro scheme key value sequence endOfLife record held signed created
    by_cases early : 0 ≤ endOfLife.year
    · exact iff_of_true (ofBytes_toBytes_of_create held created signed early) early
    · exact iff_of_false (ofBytes_toBytes_of_create_early created early record) early

namespace Sample

/-- A sequence number, a group that nobody knows, and the value twice, at first with its length in
more bytes than it takes. -/
def stray : Bytes :=
  [40, 5, 51, 52, 10, 129, 0, 120, 10, 2, 81, 114, 34, 20] ++ Bytes.ofString "2099-01-01T00:00:00Z"

def plain : NameRecord where
  value := ⟨.ipfs, "Qr", "", by decide, by decide, Path.absolute_empty⟩
  signature := []
  sequence := 5
  validity := .ofSeconds 4070908800
  rawValidity := Bytes.ofString "2099-01-01T00:00:00Z"

def key : Keypair where
  kind := .ed25519
  secret := List.replicate 32 1

theorem key_signs (message : Bytes) :
    ∃ signature, key.sign message = .ok signature ∧ signature.Addressable := by
  refine ⟨_, rfl, ?_⟩
  rw [Bytes.Addressable, Ed25519.length_sign]
  decide

def target : Path :=
  ⟨.ipns, "k51", "/docs", by decide, by decide, by rintro char ⟨⟩; rfl⟩

def leapSecond : Timestamp where
  seconds := 1483228799
  nanos := 1250000000
  nanosBound := by decide
  leapAtMinuteEnd := by decide

end Sample

open Sample in
/-- A record whose own bytes are others than those it was decoded from, and a new one that ends in a
leap second. -/
theorem wire_roundTrip_stray :
    (ofBytes stray = .ok plain ∧ plain.toBytes ≠ stray ∧ ofBytes plain.toBytes = .ok plain)
      ∧ ∃ record, create key target 0 leapSecond = .ok record
        ∧ ofBytes record.toBytes = .ok record := by
  constructor
  · have read : ofBytes stray = .ok plain := rfl
    exact ⟨read, by decide +kernel, wire_roundTrip.1 _ _ (by decide) read⟩
  · obtain ⟨signature, signed, held⟩ := key_signs
      (signingPayload target (Bytes.ofString (Rfc3339.format leapSecond)) 0)
    have created := create_ok.mpr ⟨by decide, signature, signed, rfl⟩
    have early : 0 ≤ leapSecond.year := by
      rw [Timestamp.year_nonneg_iff]
      decide
    exact ⟨_, created, (wire_roundTrip.2 _ _ _ _ _ (by decide) held created).mpr early⟩

end NameRecord

end GossipNames
