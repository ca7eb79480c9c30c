import GossipNames.Encoding.Wire
import GossipNames.Proofs.Varint
import Mathlib.Control.Monad.Basic

/-! Reading back tagged fields, after what holds of any outcome that may be a failure. The bound on the
rounds of `decode` never shows: decoding goes on field by field until the bytes are used up. -/

namespace GossipNames

section Outcomes

variable {ε δ α β : Type}

@[simp] theorem pure_eq_ok (value : α) : (pure value : Except ε α) = .ok value := rfl

@[simp] theorem throw_eq_error (error : ε) : (throw error : Except ε α) = .error error := rfl

@[simp] theorem ok_bind (value : α) (next : α → Except ε β) :
    (Except.ok value >>= next) = next value := rfl

@[simp] theorem error_bind (error : ε) (next : α → Except ε β) :
    (Except.error error >>= next) = .error error := rfl

/-- What goes well has gone well step by step. -/
theorem bind_eq_ok_iff {outcome : Except ε α} {next : α → Except ε β} {result : β} :
    (outcome >>= next) = .ok result ↔ ∃ value, outcome = .ok value ∧ next value = .ok result := by
  cases outcome with
  | error error => simp
  | ok value => simp

@[simp] theorem map_ok (form : α → β) (value : α) :
    (Except.ok value : Except ε α).map form = .ok (form value) := rfl

@[simp] theorem map_error (form : α → β) (error : ε) :
    (Except.error error : Except ε α).map form = .error error := rfl

@[simp] theorem mapError_ok (form : ε → δ) (value : α) :
    (Except.ok value).mapError form = .ok value := rfl

@[simp] theorem mapError_error (form : ε → δ) (error : ε) :
    (Except.error error : Except ε α).mapError form = .error (form error) := rfl

theorem mapError_eq_ok_iff {form : ε → δ} {outcome : Except ε α} {value : α} :
    outcome.mapError form = .ok value ↔ outcome = .ok value := by
  cases outcome <;> simp

theorem toOption_eq_some_iff {outcome : Except ε α} {value : α} :
    outcome.toOption = some value ↔ outcome = .ok value := by
  cases outcome <;> simp [Except.toOption]

end Outcomes

end GossipNames

namespace GossipNames.Wire

theorem readVarint_encode (value : Nat) (rest : Bytes) :
    readVarint (Varint.encode value ++ rest)
      = if value < UInt64.size then .ok (value, rest) else .error .varint := by
  unfold readVarint
  rw [Varint.read64?_encode]
  by_cases fits : value < UInt64.size
  · simp only [fits, if_true]
  · simp only [fits, if_false]

theorem length_of_readVarint {bytes rest : Bytes} {value : Nat}
    (read : readVarint bytes = .ok (value, rest)) : rest.length < bytes.length := by
  unfold readVarint at read
  split at read
  · rename_i found
    cases read
    exact Varint.length_of_read64? found
  · cases read

theorem WireType.ofCode?_code (wireType : WireType) : ofCode? wireType.code = some wireType := by
  cases wireType <;> rfl

theorem WireType.code_lt (wireType : WireType) : wireType.code < 8 := by
  cases wireType <;> decide

theorem readKey_writeKey {tag : Nat} {wireType : WireType} (rest : Bytes) (positive : 0 < tag)
    (bound : 8 * tag + wireType.code < UInt32.size) :
    readKey (writeKey tag wireType ++ rest) = .ok ({ tag, wireType }, rest) := by
  have small := wireType.code_lt
  have fits : 8 * tag + wireType.code < UInt64.size := Nat.lt_trans bound (by decide)
  have code : (8 * tag + wireType.code) % 8 = wireType.code := by omega
  have number : (8 * tag + wireType.code) / 8 = tag := by omega
  have read : readVarint (writeKey tag wireType ++ rest) = .ok (8 * tag + wireType.code, rest) := by
    rw [writeKey, readVarint_encode, if_pos fits]
  simp only [readKey, read, ok_bind, Nat.not_le.mpr bound, if_false, code, number,
    WireType.ofCode?_code, Nat.ne_of_gt positive, pure_eq_ok]

theorem length_of_readKey {bytes rest : Bytes} {key : Key} (read : readKey bytes = .ok (key, rest)) :
    rest.length < bytes.length := by
  obtain ⟨⟨value, left⟩, number, read⟩ := bind_eq_ok_iff.mp read
  have shorter := length_of_readVarint number
  simp only [throw_eq_error, error_bind] at read
  split at read
  · cases read
  · split at read
    · split at read
      · cases read
      · cases read
        exact shorter
    · cases read

theorem readNumber_encode (value : Nat) (rest : Bytes) :
    readNumber .varint (Varint.encode value ++ rest)
      = if value < UInt64.size then .ok (value, rest) else .error .varint := by
  simp only [readNumber, expect, if_true, ok_bind]
  exact readVarint_encode value rest

theorem length_of_readNumber {found : WireType} {bytes rest : Bytes} {value : Nat}
    (read : readNumber found bytes = .ok (value, rest)) : rest.length ≤ bytes.length := by
  obtain ⟨_, -, read⟩ := bind_eq_ok_iff.mp read
  exact Nat.le_of_lt (length_of_readVarint read)

theorem length_of_readExactly {count : Nat} {bytes taken rest : Bytes}
    (read : readExactly count bytes = .ok (taken, rest)) : rest.length ≤ bytes.length := by
  unfold readExactly at read
  split at read
  · cases read
  · cases read
    simp

theorem readBytes_encode (value rest : Bytes) :
    readBytes .lengthDelimited (Varint.encode value.length ++ value ++ rest)
      = if value.length < UInt64.size then .ok (value, rest) else .error .varint := by
  simp only [readBytes, expect, if_true, List.append_assoc, ok_bind, readVarint_encode]
  by_cases fits : value.length < UInt64.size
  · simp [fits, readExactly]
  · simp only [fits, if_false, error_bind]

/-- Fewer bytes than were announced are not read. -/
theorem readBytes_unfinished {length : Nat} {part : Bytes} (fits : length < UInt64.size)
    (less : part.length < length) :
    readBytes .lengthDelimited (Varint.encode length ++ part) = .error .underflow := by
  simp only [readBytes, expect, if_true, readVarint_encode, fits, ok_bind]
  exact if_pos less

theorem length_of_readBytes {found : WireType} {bytes taken rest : Bytes}
    (read : readBytes found bytes = .ok (taken, rest)) : rest.length ≤ bytes.length := by
  obtain ⟨_, -, read⟩ := bind_eq_ok_iff.mp read
  obtain ⟨⟨count, left⟩, announced, read⟩ := bind_eq_ok_iff.mp read
  exact Nat.le_trans (length_of_readExactly read) (Nat.le_of_lt (length_of_readVarint announced))

/-- What is taken was among the bytes. -/
theorem length_taken_of_readBytes {found : WireType} {bytes taken rest : Bytes}
    (read : readBytes found bytes = .ok (taken, rest)) : taken.length ≤ bytes.length := by
  obtain ⟨_, -, read⟩ := bind_eq_ok_iff.mp read
  obtain ⟨⟨count, left⟩, announced, read⟩ := bind_eq_ok_iff.mp read
  have shorter := length_of_readVarint announced
  simp only [readExactly] at read
  split at read
  · cases read
  · cases read
    rw [List.length_take]
    omega

theorem length_of_skipPlain {wireType : WireType} {bytes rest : Bytes}
    (skipped : skipPlain wireType bytes = .ok rest) : rest.length ≤ bytes.length := by
  cases wireType with
  | varint =>
    obtain ⟨_, read, skipped⟩ := bind_eq_ok_iff.mp skipped
    cases skipped
    exact Nat.le_of_lt (length_of_readVarint read)
  | thirtyTwoBit | sixtyFourBit =>
    obtain ⟨_, read, skipped⟩ := bind_eq_ok_iff.mp skipped
    cases skipped
    exact length_of_readExactly read
  | lengthDelimited =>
    obtain ⟨_, read, skipped⟩ := bind_eq_ok_iff.mp skipped
    cases skipped
    exact length_of_readBytes read
  | startGroup | endGroup => cases skipped

theorem length_of_skipGroups {rounds : Nat} {opened : List Nat} {bytes rest : Bytes}
    (skipped : skipGroups rounds opened bytes = .ok rest) : rest.length ≤ bytes.length := by
  induction rounds generalizing opened bytes with
  | zero =>
    cases opened with
    | nil => cases skipped; exact Nat.le_refl _
    | cons tag outer => cases skipped
  | succ rounds ih =>
    cases opened with
    | nil => cases skipped; exact Nat.le_refl _
    | cons tag outer =>
      obtain ⟨⟨key, left⟩, read, skipped⟩ := bind_eq_ok_iff.mp skipped
      have shorter := Nat.le_of_lt (length_of_readKey read)
      simp only at skipped
      split at skipped
      · split at skipped
        · exact Nat.le_trans (ih skipped) shorter
        · cases skipped
      · split at skipped
        · cases skipped
        · split at skipped
          · exact Nat.le_trans (ih skipped) shorter
          · obtain ⟨after, plain, skipped⟩ := bind_eq_ok_iff.mp skipped
            exact Nat.le_trans (ih skipped) (Nat.le_trans (length_of_skipPlain plain) shorter)

theorem length_of_skipValue {key : Key} {bytes rest : Bytes}
    (skipped : skipValue key bytes = .ok rest) : rest.length ≤ bytes.length := by
  unfold skipValue at skipped
  split at skipped
  · exact length_of_skipGroups skipped
  · exact length_of_skipPlain skipped

/-- What a known field that is merged held. -/
theorem inField_ok {α σ : Type} (set : α → σ) {field : String} {read : Except Fault (α × Bytes)}
    {rest : Bytes} {next : σ}
    (merged : (inField field read >>= fun (value, rest) => .ok (set value, rest))
      = .ok (next, rest)) : ∃ value, read = .ok (value, rest) ∧ next = set value := by
  obtain ⟨⟨value, left⟩, result, merged⟩ := bind_eq_ok_iff.mp merged
  cases merged
  exact ⟨value, mapError_eq_ok_iff.mp result, rfl⟩

theorem skipUnknown_ok {σ : Type} {key : Key} {message next : σ} {bytes rest : Bytes}
    (merged : skipUnknown key message bytes = .ok (next, rest)) :
    skipValue key bytes = .ok rest ∧ next = message := by
  obtain ⟨left, skipped, merged⟩ := bind_eq_ok_iff.mp (mapError_eq_ok_iff.mp merged)
  cases merged
  exact ⟨skipped, rfl⟩

/-- A message that takes a field's value from the bytes, or nothing at all. -/
def Takes {σ : Type} (merge : Merge σ) : Prop :=
  ∀ key message bytes next rest, merge key message bytes = .ok (next, rest) →
    rest.length ≤ bytes.length

section

variable {σ : Type} {merge : Merge σ}

/-- Any two bounds on the rounds that leave a round for each byte agree. -/
private theorem mergeFields_rounds (takes : Takes merge) {first second : Nat} {message : σ}
    {bytes : Bytes} (enough : bytes.length ≤ first) (also : bytes.length ≤ second) :
    mergeFields merge first message bytes = mergeFields merge second message bytes := by
  induction first generalizing second message bytes with
  | zero =>
    obtain rfl : bytes = [] := List.length_eq_zero_iff.mp (Nat.le_zero.mp enough)
    cases second <;> rfl
  | succ first ih =>
    cases bytes with
    | nil => cases second <;> rfl
    | cons byte tail =>
      cases second with
      | zero => simp at also
      | succ second =>
        cases read : readKey (byte :: tail) with
        | error fault => simp only [mergeFields, outsideFields, read, mapError_error, error_bind]
        | ok pair =>
          obtain ⟨key, left⟩ := pair
          have shorter := length_of_readKey read
          cases merged : merge key message left with
          | error error =>
            simp only [mergeFields, outsideFields, read, mapError_ok, ok_bind, merged, error_bind]
          | ok pair =>
            obtain ⟨next, rest⟩ := pair
            have taken := takes _ _ _ _ _ merged
            simp only [mergeFields, outsideFields, read, mapError_ok, ok_bind, merged]
            apply ih
            · omega
            · omega

theorem decode_nil (message : σ) : decode merge message [] = .ok message := rfl

/-- One field is merged, then decoding goes on with the bytes after it. -/
theorem decode_field (takes : Takes merge) {message : σ} {bytes left : Bytes} {key : Key}
    (read : readKey bytes = .ok (key, left)) :
    decode merge message bytes
      = merge key message left >>= fun (next, rest) => decode merge next rest := by
  cases bytes with
  | nil => cases read
  | cons byte tail =>
    have shorter := length_of_readKey read
    cases merged : merge key message left with
    | error error =>
      simp only [decode, List.length_cons, mergeFields, outsideFields, read, mapError_ok, ok_bind,
        merged, error_bind]
    | ok pair =>
      obtain ⟨next, rest⟩ := pair
      have taken := takes _ _ _ _ _ merged
      simp only [decode, List.length_cons, mergeFields, outsideFields, read, mapError_ok, ok_bind,
        merged]
      apply mergeFields_rounds takes
      · simp only [List.length_cons] at shorter
        omega
      · exact Nat.le_refl _

/-- A field of bytes that was written is read as it was, unless its length cannot be announced. -/
theorem decode_writeBytes (takes : Takes merge) (tag : Nat) (message : σ) (set : Bytes → σ)
    {field : String}
    (merges : ∀ bytes, merge { tag, wireType := .lengthDelimited } message bytes
      = inField field (readBytes .lengthDelimited bytes) >>= fun (value, rest) =>
        .ok (set value, rest))
    (positive : 0 < tag) (small : tag < 16) (value rest : Bytes) :
    decode merge message (writeBytes tag value ++ rest)
      = if value.length < UInt64.size then decode merge (set value) rest
        else .error { field? := some field, fault := .varint } := by
  have bound : 8 * tag + WireType.lengthDelimited.code < UInt32.size := by
    simp only [WireType.code, UInt32.size]
    omega
  have key := readKey_writeKey (Varint.encode value.length ++ value ++ rest) positive bound
  rw [writeBytes, List.append_assoc, List.append_assoc, ← List.append_assoc (Varint.encode _),
    decode_field takes key, merges, readBytes_encode]
  by_cases fits : value.length < UInt64.size
  · simp only [fits, if_true, inField, mapError_ok, ok_bind]
  · simp only [fits, if_false, inField, mapError_error, error_bind]

theorem decode_writeNumber (takes : Takes merge) (tag : Nat) (message : σ) (set : Nat → σ)
    {field : String}
    (merges : ∀ bytes, merge { tag, wireType := .varint } message bytes
      = inField field (readNumber .varint bytes) >>= fun (value, rest) => .ok (set value, rest))
    (positive : 0 < tag) (small : tag < 16) {value : Nat} (bounded : value < UInt64.size)
    (rest : Bytes) :
    decode merge message (writeNumber tag value ++ rest) = decode merge (set value) rest := by
  have bound : 8 * tag + WireType.varint.code < UInt32.size := by
    simp only [WireType.code, UInt32.size]
    omega
  have key := readKey_writeKey (Varint.encode value ++ rest) positive bound
  rw [writeNumber, List.append_assoc, decode_field takes key, merges, readNumber_encode,
    if_pos bounded]
  rfl

/-- What holds of the empty message and is kept by every field that is merged from no more than the
bytes there are holds of what they decode to. -/
theorem decode_invariant (takes : Takes merge) {limit : Nat} {holds : σ → Prop}
    (keeps : ∀ key message bytes next rest, bytes.length ≤ limit → holds message →
      merge key message bytes = .ok (next, rest) → holds next)
    {message result : σ} {bytes : Bytes} (within : bytes.length ≤ limit) (begun : holds message)
    (decoded : decode merge message bytes = .ok result) : holds result := by
  -- The field that is merged first takes at least a byte, so that fewer are left.
  induction count : bytes.length using Nat.strongRecOn generalizing message bytes with
  | ind count ih =>
    cases bytes with
    | nil =>
      cases decoded
      exact begun
    | cons byte tail =>
      obtain ⟨⟨key, left⟩, read, -⟩ := bind_eq_ok_iff.mp decoded
      replace read := mapError_eq_ok_iff.mp read
      have shorter := length_of_readKey read
      rw [decode_field takes read] at decoded
      obtain ⟨⟨next, rest⟩, merged, decoded⟩ := bind_eq_ok_iff.mp decoded
      have taken := takes _ _ _ _ _ merged
      have kept := keeps _ _ _ _ _ (by omega) begun merged
      exact ih rest.length (by omega) (by omega) kept decoded rfl

end

end GossipNames.Wire
