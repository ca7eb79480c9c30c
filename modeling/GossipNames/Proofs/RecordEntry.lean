import GossipNames.Record.Entry
import GossipNames.Proofs.Wire

/-! The wire form of a record gives the fields back that were written, the ones left out
included. -/

namespace GossipNames.RecordEntry

open Wire

/-- The lengths that a length prefix can announce. -/
def Fits (entry : RecordEntry) : Prop :=
  entry.value.length < UInt64.size ∧ entry.signature.length < UInt64.size
    ∧ entry.validity.length < UInt64.size

/-- A field replaces one part of the entry by what it holds, or is skipped. -/
theorem merge_ok {key : Key} {entry next : RecordEntry} {bytes rest : Bytes}
    (merged : merge key entry bytes = .ok (next, rest)) :
    (∃ taken, readBytes key.wireType bytes = .ok (taken, rest)
        ∧ (next = { entry with value := taken } ∨ next = { entry with signature := taken }
          ∨ next = { entry with validity := taken }))
      ∨ (∃ number, readNumber key.wireType bytes = .ok (number, rest)
        ∧ (next = { entry with validityType := toInt32 number }
          ∨ next = { entry with sequence := UInt64.ofNat number }))
      ∨ skipValue key bytes = .ok rest ∧ next = entry := by
  unfold merge at merged
  split at merged
  · obtain ⟨taken, read, same⟩ := inField_ok (fun value => { entry with value }) merged
    exact .inl ⟨taken, read, .inl same⟩
  · obtain ⟨taken, read, same⟩ := inField_ok (fun signature => { entry with signature }) merged
    exact .inl ⟨taken, read, .inr (.inl same)⟩
  · obtain ⟨number, read, same⟩ :=
      inField_ok (fun code => { entry with validityType := toInt32 code }) merged
    exact .inr (.inl ⟨number, read, .inl same⟩)
  · obtain ⟨taken, read, same⟩ := inField_ok (fun validity => { entry with validity }) merged
    exact .inl ⟨taken, read, .inr (.inr same)⟩
  · obtain ⟨number, read, same⟩ :=
      inField_ok (fun sequence => { entry with sequence := UInt64.ofNat sequence }) merged
    exact .inr (.inl ⟨number, read, .inr same⟩)
  · exact .inr (.inr (skipUnknown_ok merged))

theorem merge_takes : Takes merge := by
  intro key entry bytes next rest merged
  rcases merge_ok merged with ⟨taken, read, -⟩ | ⟨number, read, -⟩ | ⟨skipped, -⟩
  · exact length_of_readBytes read
  · exact length_of_readNumber read
  · exact length_of_skipValue skipped

/-- No part of an entry is longer than a limit. -/
def Within (limit : Nat) (entry : RecordEntry) : Prop :=
  entry.value.length ≤ limit ∧ entry.signature.length ≤ limit ∧ entry.validity.length ≤ limit

/-- No part of what bytes decode to is longer than they are. -/
theorem within_of_decode {bytes : Bytes} {entry : RecordEntry} (decoded : decode bytes = .ok entry) :
    entry.Within bytes.length := by
  refine decode_invariant merge_takes ?_ (Nat.le_refl _) ?_ decoded
  · intro key message left next rest within ⟨value, signature, validity⟩ merged
    rcases merge_ok merged with ⟨taken, read, same⟩ | ⟨number, -, same⟩ | ⟨-, rfl⟩
    · have short := Nat.le_trans (length_taken_of_readBytes read) within
      rcases same with rfl | rfl | rfl
      · exact ⟨short, signature, validity⟩
      · exact ⟨value, short, validity⟩
      · exact ⟨value, signature, short⟩
    · rcases same with rfl | rfl <;> exact ⟨value, signature, validity⟩
    · exact ⟨value, signature, validity⟩
  · exact ⟨Nat.zero_le _, Nat.zero_le _, Nat.zero_le _⟩

/-- A field of bytes that is written back is read as it was, unless its length cannot be
announced. -/
private theorem decode_bytesField (tag : Nat) (entry : RecordEntry) (set : Bytes → RecordEntry)
    {field : String}
    (merges : ∀ bytes, merge { tag, wireType := .lengthDelimited } entry bytes
      = inField field (readBytes .lengthDelimited bytes) >>= fun (value, rest) =>
        .ok (set value, rest))
    (blank : set [] = entry) (positive : 0 < tag) (small : tag < 16) (value rest : Bytes) :
    Wire.decode merge entry (writeUnlessEmpty tag value ++ rest)
      = if value.length < UInt64.size then Wire.decode merge (set value) rest
        else .error { field? := some field, fault := .varint } := by
  cases value with
  | nil => simp [writeUnlessEmpty, blank, UInt64.size]
  | cons byte tail =>
    rw [writeUnlessEmpty, if_neg (by simp)]
    exact decode_writeBytes merge_takes tag entry set merges positive small (byte :: tail) rest

private theorem decode_numberField (tag : Nat) (entry : RecordEntry) (set : Nat → RecordEntry)
    {field : String}
    (merges : ∀ bytes, merge { tag, wireType := .varint } entry bytes
      = inField field (readNumber .varint bytes) >>= fun (value, rest) => .ok (set value, rest))
    (blank : set 0 = entry) (positive : 0 < tag) (small : tag < 16) {value : Nat}
    (bounded : value < UInt64.size) (rest : Bytes) :
    Wire.decode merge entry (writeUnlessZero tag value ++ rest)
      = Wire.decode merge (set value) rest := by
  by_cases zero : value = 0
  · subst zero
    simp [writeUnlessZero, blank]
  · rw [writeUnlessZero, if_neg zero]
    exact decode_writeNumber merge_takes tag entry set merges positive small bounded rest

private theorem toInt32_ofInt32 {value : Int} (low : -2147483648 ≤ value)
    (high : value < 2147483648) : toInt32 (ofInt32 value) = value := by
  have wrapped : ((value % 18446744073709551616).toNat : Int) = value % 18446744073709551616 :=
    Int.toNat_of_nonneg (Int.emod_nonneg _ (by decide))
  change Int.bmod ((value % 18446744073709551616).toNat : Int) 4294967296 = value
  rw [wrapped, Int.bmod_def]
  omega

private theorem ofInt32_lt (value : Int) : ofInt32 value < UInt64.size := by
  simp only [ofInt32, UInt64.size]
  omega

/-- What was written is read back as it was, and read back at all unless a field is too long for
its length to be announced. -/
theorem decode_encode {entry decoded : RecordEntry} (low : -2147483648 ≤ entry.validityType)
    (high : entry.validityType < 2147483648) :
    decode entry.encode = .ok decoded ↔ entry.Fits ∧ decoded = entry := by
  obtain ⟨value, signature, validityType, validity, sequence⟩ := entry
  have sequenceBound : sequence.toNat < UInt64.size := sequence.toNat_lt
  simp only [decode, encode, List.append_assoc]
  rw [decode_bytesField 1 empty (fun value => { empty with value }) (fun _ => rfl) rfl
    (by decide) (by decide)]
  by_cases valueLong : ¬ value.length < UInt64.size
  · simp [valueLong, Fits]
  have valueFits := Decidable.not_not.mp valueLong
  rw [if_pos valueFits, decode_bytesField 2 { empty with value }
    (fun signature => { empty with value, signature }) (fun _ => rfl) rfl (by decide) (by decide)]
  by_cases signatureLong : ¬ signature.length < UInt64.size
  · simp [signatureLong, Fits]
  have signatureFits := Decidable.not_not.mp signatureLong
  rw [if_pos signatureFits, decode_numberField 3 { empty with value, signature }
    (fun code => { empty with value, signature, validityType := toInt32 code })
    (fun _ => rfl) rfl (by decide) (by decide) (ofInt32_lt _),
    toInt32_ofInt32 low high,
    decode_bytesField 4 { empty with value, signature, validityType }
      (fun validity => { empty with value, signature, validityType, validity })
      (fun _ => rfl) rfl (by decide) (by decide)]
  by_cases validityLong : ¬ validity.length < UInt64.size
  · simp [validityLong, Fits]
  have validityFits := Decidable.not_not.mp validityLong
  have last := decode_numberField 5 { empty with value, signature, validityType, validity }
    (fun number => { value, signature, validityType, validity, sequence := UInt64.ofNat number })
    (fun _ => rfl) rfl (by decide) (by decide) sequenceBound []
  rw [List.append_nil, UInt64.ofNat_toNat, decode_nil] at last
  rw [if_pos validityFits, last]
  constructor
  · intro same
    exact ⟨⟨valueFits, signatureFits, validityFits⟩, (Except.ok.inj same).symm⟩
  · rintro ⟨-, rfl⟩
    rfl

end GossipNames.RecordEntry
