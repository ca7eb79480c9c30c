import GossipNames.Proofs.NameRecord
import GossipNames.Proofs.Rfc3339

/-! What a signature says. The path and the end of life stand side by side in the signed bytes with
nothing between them, and still the bytes tell where the one ends and the other begins. -/

namespace GossipNames

theorem Bytes.ofNatBigEndian_injective (width : Nat) {first second : Nat}
    (firstSmall : first < Nat.pow 256 width) (secondSmall : second < Nat.pow 256 width)
    (same : ofNatBigEndian width first = ofNatBigEndian width second) : first = second :=
  ofNatLittleEndian_injective width firstSmall secondSmall (List.reverse_inj.mp same)

/-- Behind any text at all, a text that states a time can be told from another one. -/
theorem Rfc3339.append_inj {firstFront secondFront firstText secondText : String}
    {firstTime secondTime : Timestamp} (firstRead : parse? firstText = some firstTime)
    (secondRead : parse? secondText = some secondTime)
    (same : firstFront ++ firstText = secondFront ++ secondText) :
    firstFront = secondFront ∧ firstText = secondText := by
  obtain ⟨first, firstChars⟩ := exists_shape firstRead
  obtain ⟨second, secondChars⟩ := exists_shape secondRead
  have chars : firstFront.toList ++ firstText.toList = secondFront.toList ++ secondText.toList := by
    rw [← String.toList_append, same, String.toList_append]
  have texts : firstText.toList = secondText.toList := by
    rcases List.append_eq_append_iff.mp chars with ⟨between, -, longer⟩ | ⟨between, -, longer⟩
    · have suffix : second.chars <:+ first.chars := by
        rw [firstChars, secondChars]
        exact ⟨between, longer.symm⟩
      rw [← firstChars, ← secondChars, Shape.eq_of_suffix suffix]
    · have suffix : first.chars <:+ second.chars := by
        rw [firstChars, secondChars]
        exact ⟨between, longer.symm⟩
      rw [← firstChars, ← secondChars, Shape.eq_of_suffix suffix]
  rw [texts] at chars
  exact ⟨String.toList_inj.mp (List.append_cancel_right chars), String.toList_inj.mp texts⟩

namespace NameRecord

/-- Two decoded records with the same signed bytes state the same path, the same end of life and
the same sequence number. -/
theorem signingPayload_binds {firstEntry secondEntry : RecordEntry} {first second : NameRecord}
    (firstRead : ofEntry firstEntry = .ok first) (secondRead : ofEntry secondEntry = .ok second)
    (same : signingPayload first.value first.rawValidity first.sequence
      = signingPayload second.value second.rawValidity second.sequence) :
    first.value = second.value ∧ first.rawValidity = second.rawValidity
      ∧ first.validity = second.validity ∧ first.sequence = second.sequence := by
  obtain ⟨-, -, firstValidity, -, -, firstRaw⟩ := ofEntry_ok.mp firstRead
  obtain ⟨-, -, secondValidity, -, -, secondRaw⟩ := ofEntry_ok.mp secondRead
  rw [← firstRaw] at firstValidity
  rw [← secondRaw] at secondValidity
  obtain ⟨firstText, firstEncoded, firstTime⟩ := parseValidity_ok.mp firstValidity
  obtain ⟨secondText, secondEncoded, secondTime⟩ := parseValidity_ok.mp secondValidity
  -- The sequence number and the kind of the validity have a fixed length.
  obtain ⟨front, numbers⟩ := List.append_inj' same (by simp)
  obtain ⟨content, -⟩ := List.append_inj' front rfl
  have sequence : first.sequence = second.sequence :=
    UInt64.toNat_inj.mp (Bytes.ofNatBigEndian_injective 8 first.sequence.toNat_lt
      second.sequence.toNat_lt numbers)
  have texts : first.value.text ++ firstText = second.value.text ++ secondText := by
    apply Bytes.ofString_inj.mp
    rw [Bytes.ofString_append, Bytes.ofString_append, firstEncoded, secondEncoded]
    exact content
  obtain ⟨paths, validities⟩ := Rfc3339.append_inj firstTime secondTime texts
  have raw : first.rawValidity = second.rawValidity := by
    rw [← firstEncoded, ← secondEncoded, validities]
  rw [raw, secondValidity] at firstValidity
  exact ⟨Path.text_injective paths, raw, (Except.ok.inj firstValidity).symm, sequence⟩

/-- An entry that ends in a leap second somewhere west. -/
private def leapEntry (value : String) (signature : Bytes) : RecordEntry where
  value := Bytes.ofString value
  signature
  validityType := 0
  validity := Bytes.ofString "2099-01-01t00:00:60.5-05:00"
  sequence := 7

private def leapRecord (signature : Bytes) : NameRecord where
  value := ⟨.ipfs, "Qm", "", by decide, by decide, by simp⟩
  signature
  sequence := 7
  validity := ⟨4070926859, 1500000000, by decide, by decide⟩
  rawValidity := Bytes.ofString "2099-01-01t00:00:60.5-05:00"

/-- A bare root and the path it stands for are signed alike. -/
theorem signingPayload_binds_bareRoot :
    ∃ first second : NameRecord,
      ofEntry (leapEntry "Qm" [1]) = .ok first ∧ ofEntry (leapEntry "/ipfs/Qm" [2]) = .ok second
      ∧ signingPayload first.value first.rawValidity first.sequence
        = signingPayload second.value second.rawValidity second.sequence
      ∧ first.value = second.value ∧ first.rawValidity = second.rawValidity
      ∧ first.validity = second.validity ∧ first.sequence = second.sequence := by
  have bare : ofEntry (leapEntry "Qm" [1]) = .ok (leapRecord [1]) := rfl
  have absolute : ofEntry (leapEntry "/ipfs/Qm" [2]) = .ok (leapRecord [2]) := rfl
  exact ⟨_, _, bare, absolute, rfl, signingPayload_binds bare absolute rfl⟩

end NameRecord

end GossipNames
