import GossipNames.Record.Basic
import GossipNames.Proofs.Path
import GossipNames.Proofs.RecordEntry

/-! Which entries decode to which records, and what the bytes of a record decode to. -/

namespace GossipNames

theorem parseValidity_ok {bytes : Bytes} {time : Timestamp} :
    parseValidity bytes = .ok time ↔
      ∃ text, Bytes.ofString text = bytes ∧ Rfc3339.parse? text = some time := by
  constructor
  · intro parsed
    unfold parseValidity at parsed
    split at parsed
    · cases parsed
    · rename_i text decoded
      split at parsed
      · cases parsed
      · rename_i found
        cases parsed
        exact ⟨text, Bytes.ofString_of_toString? decoded, found⟩
  · rintro ⟨text, rfl, found⟩
    simp only [parseValidity, Bytes.toString?_ofString, found]

namespace NameRecord

/-- How an end-of-life entry with a text for its value is decoded. -/
private theorem ofEntry_text {entry : RecordEntry} {text : String} (kind : entry.validityType = 0)
    (encoded : entry.value.toString? = some text) :
    ofEntry entry = (Path.parse text).mapError .path >>= fun value =>
      parseValidity entry.validity >>= fun validity => .ok {
        value, signature := entry.signature, sequence := entry.sequence, validity,
        rawValidity := entry.validity } := by
  simp only [ofEntry, kind, ne_eq, not_true_eq_false, if_false, encoded]
  rfl

/-- An entry decodes to the record with its fields, its value read as a path and its validity as a
time; the bytes of the validity and the signature stay as they are. -/
theorem ofEntry_ok {entry : RecordEntry} {record : NameRecord} :
    ofEntry entry = .ok record ↔
      entry.validityType = 0
        ∧ (∃ text, Bytes.ofString text = entry.value ∧ Path.parse text = .ok record.value)
        ∧ parseValidity entry.validity = .ok record.validity
        ∧ record.signature = entry.signature ∧ record.sequence = entry.sequence
        ∧ record.rawValidity = entry.validity := by
  constructor
  · intro decoded
    by_cases kind : entry.validityType = 0
    · cases encoded : entry.value.toString? with
      | none => simp only [ofEntry, kind, encoded] at decoded; cases decoded
      | some text =>
        rw [ofEntry_text kind encoded] at decoded
        obtain ⟨value, path, decoded⟩ := bind_eq_ok_iff.mp decoded
        obtain ⟨validity, time, decoded⟩ := bind_eq_ok_iff.mp decoded
        cases decoded
        exact ⟨kind, ⟨text, Bytes.ofString_of_toString? encoded, mapError_eq_ok_iff.mp path⟩,
          time, rfl, rfl, rfl⟩
    · simp only [ofEntry, ne_eq, kind, not_false_eq_true, if_true] at decoded
      cases decoded
  · obtain ⟨value, signature, sequence, validity, rawValidity⟩ := record
    rintro ⟨kind, ⟨text, encoded, path⟩, time, rfl, rfl, rfl⟩
    have read : entry.value.toString? = some text := by rw [← encoded, Bytes.toString?_ofString]
    rw [ofEntry_text kind read, path, time]
    rfl

/-- A record is decoded from its own entry when its validity is read from what was signed. -/
theorem ofEntry_toEntry (record : NameRecord) :
    ofEntry record.toEntry
      = (parseValidity record.rawValidity).map fun validity => { record with validity } := by
  have written : record.toEntry.value.toString? = some record.value.text :=
    Bytes.toString?_ofString _
  rw [ofEntry_text rfl written, Path.parse_text]
  change (parseValidity record.rawValidity >>= _) = _
  cases parseValidity record.rawValidity <;> rfl

theorem ofBytes_ok {bytes : Bytes} {record : NameRecord} :
    ofBytes bytes = .ok record ↔
      ∃ entry, RecordEntry.decode bytes = .ok entry ∧ ofEntry entry = .ok record := by
  cases decoded : RecordEntry.decode bytes with
  | error error => simp [ofBytes, decoded]
  | ok entry => simp [ofBytes, decoded]

/-- Whatever the bytes of a record decode to is the record as it was written: only its validity is
read anew from the bytes it was signed in. -/
theorem eq_of_ofBytes_toBytes {record decoded : NameRecord}
    (read : ofBytes record.toBytes = .ok decoded) :
    decoded.value = record.value ∧ decoded.signature = record.signature
      ∧ decoded.sequence = record.sequence ∧ decoded.rawValidity = record.rawValidity := by
  obtain ⟨entry, wire, fields⟩ := ofBytes_ok.mp read
  have kind : record.toEntry.validityType = 0 := rfl
  obtain ⟨-, rfl⟩ := (RecordEntry.decode_encode (by omega) (by omega)).mp wire
  obtain ⟨-, ⟨text, encoded, path⟩, -, signature, sequence, raw⟩ := ofEntry_ok.mp fields
  have same : text = record.value.text := Bytes.ofString_inj.mp encoded
  rw [same, Path.parse_text] at path
  exact ⟨(Except.ok.inj path).symm, signature, sequence, raw⟩

/-- Unless a part of it is too long, a record is read back from its bytes but for its validity, which
is read from what was signed. -/
theorem ofBytes_toBytes {record : NameRecord} (fits : record.toEntry.Fits) :
    ofBytes record.toBytes
      = (parseValidity record.rawValidity).map fun validity => { record with validity } := by
  have kind : record.toEntry.validityType = 0 := rfl
  have decoded : RecordEntry.decode record.toBytes = .ok record.toEntry :=
    (RecordEntry.decode_encode (by omega) (by omega)).mpr ⟨fits, rfl⟩
  rw [← ofEntry_toEntry, ofBytes, decoded]
  rfl

variable [SignatureScheme]

theorem create_ok {key : Keypair} {value : Path} {sequence : UInt64} {endOfLife : Timestamp}
    {record : NameRecord} :
    create key value sequence endOfLife = .ok record ↔
      Timestamp.latest.isBefore endOfLife = false
        ∧ ∃ signature,
          key.sign (signingPayload value (Bytes.ofString (Rfc3339.format endOfLife)) sequence)
            = .ok signature
          ∧ record = {
              value, signature, sequence, validity := endOfLife,
              rawValidity := Bytes.ofString (Rfc3339.format endOfLife) } := by
  unfold create
  cases late : Timestamp.latest.isBefore endOfLife with
  | true => simp
  | false =>
    cases signed : key.sign
        (signingPayload value (Bytes.ofString (Rfc3339.format endOfLife)) sequence) with
    | error error => simp [signed]
    | ok signature => simp [signed, eq_comm]

end NameRecord

end GossipNames
