import GossipNames.Proofs.NameRecord

/-! What the signature of a decoded record is checked over. The end of life counts as it stands in
the entry; the path counts as it is written in full, so a signature over a bare root says nothing
about the record. -/

namespace GossipNames

namespace RecordEntry

/-- What is signed by someone who takes the fields as they stand in the entry. -/
def signedBytes (entry : RecordEntry) : Bytes :=
  entry.value ++ entry.validity ++ Bytes.ofString "EOL"
    ++ Bytes.ofNatBigEndian 8 entry.sequence.toNat

/-- The path is written in full and not as a bare root. -/
def IsAbsolute (entry : RecordEntry) : Prop :=
  Bytes.ofString "/" <+: entry.value

instance (entry : RecordEntry) : Decidable entry.IsAbsolute :=
  inferInstanceAs (Decidable (Bytes.ofString "/" <+: entry.value))

/-- What is put in front of the value of an entry before its signature is checked. -/
def impliedLead (entry : RecordEntry) : Bytes :=
  if entry.IsAbsolute then [] else Bytes.ofString "/ipfs/"

theorem impliedLead_eq_nil_iff {entry : RecordEntry} :
    entry.impliedLead = [] ↔ entry.IsAbsolute := by
  unfold impliedLead
  by_cases absolute : entry.IsAbsolute
  · simp [absolute]
  · have shown : Bytes.ofString "/ipfs/" ≠ [] := by decide
    simp [absolute, shown]

end RecordEntry

/-- A scheme of one message, which every key verifies under any signature. -/
abbrev SignatureScheme.only (message : Bytes) : SignatureScheme where
  acceptsSecret _ _ := true
  publicBytes _ secret := secret
  normalize? _ bytes := some bytes
  sign _ _ _ := .ok []
  verify _ _ shown _ := shown = message

namespace NameRecord

/-- A decoded record is signed over the bytes of its entry, with the namespace in front of a bare
root. -/
theorem signingPayload_of_ofEntry {entry : RecordEntry} {record : NameRecord}
    (read : ofEntry entry = .ok record) :
    signingPayload record.value record.rawValidity record.sequence
      = entry.impliedLead ++ entry.signedBytes := by
  obtain ⟨-, ⟨text, encoded, path⟩, -, -, sequence, raw⟩ := ofEntry_ok.mp read
  have absolute : entry.IsAbsolute ↔ ['/'] <+: text.toList := by
    rw [RecordEntry.IsAbsolute, ← encoded, Bytes.ofString_prefix_iff]
    rfl
  have value : Bytes.ofString record.value.text = entry.impliedLead ++ entry.value := by
    rw [Path.text_of_parse path, RecordEntry.impliedLead, ← encoded]
    by_cases full : ['/'] <+: text.toList
    · rw [if_pos full, if_pos (absolute.mpr full), List.nil_append]
    · rw [if_neg full, if_neg (mt absolute.mp full), Bytes.ofString_append]
  simp only [signingPayload, RecordEntry.signedBytes, value, raw, sequence, List.append_assoc]

/-- Verifying a decoded record checks the entry's signature over the entry's own bytes, whatever
form the end of life has, exactly when the path is written in full. In front of a bare root the
namespace is signed as well. -/
theorem verify_iff_signedBytes {entry : RecordEntry} {record : NameRecord}
    (read : ofEntry entry = .ok record) :
    (∀ [SignatureScheme] (key : PublicKey),
        record.verify key
          = key.verify (entry.impliedLead ++ entry.signedBytes) entry.signature)
      ∧ ((∀ [SignatureScheme] (key : PublicKey),
          record.verify key = true ↔ key.verify entry.signedBytes entry.signature = true)
        ↔ entry.IsAbsolute) := by
  obtain ⟨-, -, -, signature, -, -⟩ := ofEntry_ok.mp read
  have checked : ∀ [SignatureScheme] (key : PublicKey), record.verify key
      = key.verify (entry.impliedLead ++ entry.signedBytes) entry.signature := by
    intro scheme key
    rw [verify, signingPayload_of_ofEntry read, signature]
  refine ⟨checked, ?_, ?_⟩
  · intro overEntry
    let scheme := SignatureScheme.only entry.signedBytes
    let key : PublicKey := { kind := .ed25519, bytes := [] }
    have accepted : key.verify entry.signedBytes entry.signature = true := by
      simp [PublicKey.verify, SignatureScheme.verify, scheme]
    have verified := (overEntry key).mpr accepted
    rw [checked] at verified
    have same : entry.impliedLead ++ entry.signedBytes = entry.signedBytes := by
      simpa [PublicKey.verify, SignatureScheme.verify, scheme] using verified
    exact RecordEntry.impliedLead_eq_nil_iff.mp (List.append_left_eq_self.mp same)
  · intro absolute scheme key
    rw [checked, RecordEntry.impliedLead_eq_nil_iff.mpr absolute, List.nil_append]

/-- A path in full, with an end of life in a form that is read but never written. -/
private def foreignEntry : RecordEntry where
  value := Bytes.ofString "/ipns/k51/docs"
  signature := [1, 2, 3]
  validityType := 0
  validity := Bytes.ofString "2099-01-01 01:00:60.5+01:00"
  sequence := 7

/-- The form of the end of life does not matter. -/
theorem verify_iff_signedBytes_foreign :
    ∃ record, ofEntry foreignEntry = .ok record
      ∧ ∀ [SignatureScheme] (key : PublicKey),
        record.verify key = true
          ↔ key.verify foreignEntry.signedBytes foreignEntry.signature = true := by
  have read : ∃ record, ofEntry foreignEntry = .ok record := ⟨_, rfl⟩
  obtain ⟨record, read⟩ := read
  have absolute : foreignEntry.IsAbsolute := by decide
  exact ⟨record, read, (verify_iff_signedBytes read).2.mpr absolute⟩

private def signer : PublicKey where
  kind := .ed25519
  bytes := (Bytes.ofHex? "8a88e3dd7409f195fd52db2d3cba5d72ca6709bf1d94121bf3748801b40f6f5c").getD []

/-- A bare root, signed as it stands with the key above. -/
private def bareEntry : RecordEntry where
  value := Bytes.ofString "Qm111"
  signature := (Bytes.ofHex? ("c68bfa2d33b8be5eca565abd669d1b0f296c5d20a3717e21862b5902d1ca03d3"
    ++ "9e16e18b8a99863bc0ab85dbdcc71365667e70c729d8dae80680f2cd673c850d")).getD []
  validityType := 0
  validity := Bytes.ofString "2099-01-01T00:00:00Z"
  sequence := 7

/-- The signature over the entry's own bytes is right, and the record does not verify. -/
theorem bareRoot_unverified :
    signer.verify bareEntry.signedBytes bareEntry.signature = true
      ∧ (ofEntry bareEntry).map (·.verify signer) = .ok false := by
  decide +kernel

end NameRecord

end GossipNames
