import GossipNames.ValueStore.Publication
import GossipNames.Proofs.KeySource
import GossipNames.Proofs.Name
import GossipNames.Proofs.Selection

/-! What a node holds of the values that others send it for storing. The record that it holds for a
name is the one that would be selected among all that was sent. -/

namespace GossipNames

/-- A value that comes in for storing. -/
structure InboundPut where
  now : Timestamp
  key : Bytes
  value : Bytes

/-- The values that come in under one key, in order. -/
def valuesUnder (key : Bytes) (puts : List InboundPut) : List Bytes :=
  (puts.filter (·.key = key)).map (·.value)

theorem valuesUnder_concat_own {key : Bytes} {puts : List InboundPut} {put : InboundPut}
    (own : put.key = key) :
    valuesUnder key (puts ++ [put]) = valuesUnder key puts ++ [put.value] := by
  simp [valuesUnder, List.filter_append, own]

theorem valuesUnder_concat_other {key : Bytes} {puts : List InboundPut} {put : InboundPut}
    (different : put.key ≠ key) : valuesUnder key (puts ++ [put]) = valuesUnder key puts := by
  simp [valuesUnder, List.filter_append, different]

/-- The record of the value that is held, when it is one. -/
def heldRecord? (held : Option Bytes) : Option NameRecord :=
  held.bind fun bytes => (NameRecord.ofBytes bytes).toOption

theorem heldRecord?_some {held : Bytes} {record : NameRecord} :
    heldRecord? (some held) = some record ↔ NameRecord.ofBytes held = .ok record :=
  toOption_eq_some_iff

section Storing

variable [SignatureScheme]

section Accepting

variable {value : Bytes} {existing : Option Bytes} {known : PeerId → Option PublicKey}
  {now : Timestamp}

/-- What may be stored for a name whose key is known from its peer id. -/
theorem validatePut_record {peer : PeerId} {publicKey : PublicKey}
    (inlined : peer.inlineKey? = some publicKey) :
    validatePut (RoutingKey.record peer).toBytes value existing known now = .ok () ↔
      ∃ record, validateRecord publicKey now value = .ok record
        ∧ ∀ current, heldRecord? existing = some current → current.rank < record.rank := by
  have found : (peer.inlineKey? <|> known peer) = some publicKey := by
    rw [inlined]
    rfl
  simp only [validatePut, RoutingKey.ofBytes?_toBytes, found]
  cases valid : validateRecord publicKey now value with
  | error rejection => simp
  | ok record =>
    simp only [ok_bind, Except.ok.injEq, exists_eq_left', heldRecord?]
    cases decoded : existing.bind fun bytes => (NameRecord.ofBytes bytes).toOption with
    | none => simp
    | some current =>
      by_cases newer : current.rank < record.rank
      · simp [NameRecord.supersedes_iff, newer]
      · simp [NameRecord.supersedes_iff, newer]

/-- Nothing is stored outside of the two namespaces, and for a public key nothing but the key. -/
theorem validatePut_ok {key : Bytes} (accepted : validatePut key value existing known now = .ok ()) :
    ∃ routing, RoutingKey.ofBytes? key = some routing
      ∧ ∀ peer, routing = .publicKey peer →
        ∃ publicKey, PublicKey.decode value = .ok publicKey
          ∧ PeerId.ofPublicKey publicKey = peer := by
  unfold validatePut at accepted
  split at accepted
  · cases accepted
  · rename_i peer parsed
    refine ⟨_, parsed, ?_⟩
    rintro other ⟨⟩
    cases valid : validatePublicKey peer value with
    | error rejection =>
      rw [valid] at accepted
      cases accepted
    | ok publicKey => exact ⟨publicKey, validatePublicKey_ok.mp valid⟩
  · rename_i peer parsed
    refine ⟨_, parsed, ?_⟩
    rintro other ⟨⟩

end Accepting

namespace ValueSlots

/-- Stores the values that come in, one after the other. -/
def storeAll (slots : ValueSlots) (puts : List InboundPut) : ValueSlots :=
  puts.foldl (fun slots put => (slots.storeInbound put.now put.key put.value).1) slots

variable {slots : ValueSlots} {now : Timestamp} {key value : Bytes}

theorem storeAll_append (first second : List InboundPut) :
    slots.storeAll (first ++ second) = (slots.storeAll first).storeAll second :=
  List.foldl_append

theorem storeAll_concat (puts : List InboundPut) (put : InboundPut) :
    slots.storeAll (puts ++ [put])
      = ((slots.storeAll puts).storeInbound put.now put.key put.value).1 :=
  List.foldl_concat ..

theorem storeInbound_result :
    (slots.storeInbound now key value).2
      = validatePut key value (slots.get? key) slots.knownKey? now := by
  unfold storeInbound
  split <;> simp only [*]

theorem storeInbound_accepted
    (accepted : validatePut key value (slots.get? key) slots.knownKey? now = .ok ()) :
    (slots.storeInbound now key value).1 = slots.put key value := by
  rw [storeInbound, accepted]

theorem storeInbound_refused
    (refused : validatePut key value (slots.get? key) slots.knownKey? now ≠ .ok ()) :
    (slots.storeInbound now key value).1 = slots := by
  unfold storeInbound
  split
  · rfl
  · contradiction

theorem storeInbound_other {other : Bytes} (different : other ≠ key) :
    (slots.storeInbound now key value).1.get? other = slots.get? other := by
  by_cases accepted : validatePut key value (slots.get? key) slots.knownKey? now = .ok ()
  · rw [storeInbound_accepted accepted, Table.get?_put, if_neg different]
  · rw [storeInbound_refused accepted]

section Records

variable {peer : PeerId} {publicKey : PublicKey}

/-- As long as the clock stands still, what is held for a name is what is selected among all that
came in for it. -/
theorem storeAll_selected (inlined : peer.inlineKey? = some publicKey)
    (vacant : slots.get? (RoutingKey.record peer).toBytes = none) {puts : List InboundPut}
    (steady : ∀ put ∈ puts, put.key = (RoutingKey.record peer).toBytes → put.now = now) :
    (slots.storeAll puts).get? (RoutingKey.record peer).toBytes
      = selectedCandidate? publicKey now (valuesUnder (RoutingKey.record peer).toBytes puts) := by
  induction puts using List.reverseRecOn with
  | nil => exact vacant
  | append_singleton front put ih =>
    have held := ih fun other member => steady other (List.mem_append_left _ member)
    rw [storeAll_concat]
    by_cases own : put.key = (RoutingKey.record peer).toBytes
    · have time : put.now = now := steady put (by simp) own
      have current : heldRecord? ((slots.storeAll front).get? (RoutingKey.record peer).toBytes)
          = (selectRecord publicKey now
            (valuesUnder (RoutingKey.record peer).toBytes front)).best := by
        rw [held, heldRecord?, ofBytes_selectedCandidate?]
      rw [valuesUnder_concat_own own, own, time]
      cases valid : validateRecord publicKey now put.value with
      | error rejection =>
        rw [storeInbound_refused, selectedCandidate?_concat_error valid, held]
        rw [ne_eq, validatePut_record inlined]
        rintro ⟨record, same, -⟩
        cases valid.symm.trans same
      | ok record =>
        rw [selectedCandidate?_concat_ok valid, ← current]
        split
        · rename_i higher
          rw [storeInbound_accepted ((validatePut_record inlined).mpr ⟨record, valid, higher⟩),
            Table.get?_put, if_pos rfl]
        · rename_i lower
          rw [storeInbound_refused, held]
          rw [ne_eq, validatePut_record inlined]
          rintro ⟨other, same, higher⟩
          cases valid.symm.trans same
          exact lower higher
    · rw [valuesUnder_concat_other own, storeInbound_other (Ne.symm own), held]

/-- All that a put can do to what is held for a name: nothing, or to replace it by a record that is
signed and ranks higher. -/
theorem storeInbound_record (inlined : peer.inlineKey? = some publicKey) (put : InboundPut) :
    let after := (slots.storeInbound put.now put.key put.value).1
    after.get? (RoutingKey.record peer).toBytes = slots.get? (RoutingKey.record peer).toBytes
      ∨ ∃ record, after.get? (RoutingKey.record peer).toBytes = some put.value
        ∧ Encodes publicKey put.value record
        ∧ ∀ current, heldRecord? (slots.get? (RoutingKey.record peer).toBytes) = some current →
          current.rank < record.rank := by
  intro after
  by_cases own : put.key = (RoutingKey.record peer).toBytes
  · by_cases accepted : validatePut put.key put.value (slots.get? put.key) slots.knownKey? put.now
        = .ok ()
    · right
      have same : after = slots.put put.key put.value := storeInbound_accepted accepted
      rw [own] at accepted
      obtain ⟨record, valid, higher⟩ := (validatePut_record inlined).mp accepted
      refine ⟨record, ?_, (validateRecord_iff_encodes.mp valid).1, higher⟩
      rw [same, Table.get?_put, if_pos own.symm]
    · left
      have same : after = slots := storeInbound_refused accepted
      rw [same]
  · exact .inl (storeInbound_other (Ne.symm own))

theorem storeAll_encodes (inlined : peer.inlineKey? = some publicKey)
    (vacant : slots.get? (RoutingKey.record peer).toBytes = none) {puts : List InboundPut}
    {stored : Bytes}
    (held : (slots.storeAll puts).get? (RoutingKey.record peer).toBytes = some stored) :
    ∃ record, Encodes publicKey stored record := by
  induction puts using List.reverseRecOn with
  | nil =>
    rw [storeAll, List.foldl_nil, vacant] at held
    cases held
  | append_singleton front put ih =>
    rw [storeAll_concat] at held
    rcases storeInbound_record inlined put with same | ⟨record, replaced, encodes, -⟩
    · exact ih (same ▸ held)
    · cases replaced.symm.trans held
      exact ⟨record, encodes⟩

/-- What is held for a name stays, or gives way to a record that ranks higher, whatever comes in and
whatever the clock does. -/
theorem storeAll_rises (inlined : peer.inlineKey? = some publicKey) {stored : Bytes}
    {record : NameRecord} (held : slots.get? (RoutingKey.record peer).toBytes = some stored)
    (encodes : Encodes publicKey stored record) (puts : List InboundPut) :
    ∃ next newer, (slots.storeAll puts).get? (RoutingKey.record peer).toBytes = some next
      ∧ Encodes publicKey next newer ∧ (next = stored ∨ record.rank < newer.rank) := by
  induction puts using List.reverseRecOn with
  | nil => exact ⟨stored, record, held, encodes, .inl rfl⟩
  | append_singleton front put ih =>
    obtain ⟨next, newer, current, shown, rises⟩ := ih
    rw [storeAll_concat]
    rcases storeInbound_record inlined put with same | ⟨last, replaced, signed, higher⟩
    · exact ⟨next, newer, same.trans current, shown, rises⟩
    · refine ⟨put.value, last, replaced, signed, .inr ?_⟩
      have above : newer.rank < last.rank :=
        higher newer (current ▸ heldRecord?_some.mpr shown.decoded)
      rcases rises with rfl | rising
      · cases encodes.unique shown
        exact above
      · exact rising.trans above

end Records

/-- Nothing is ever held outside of the two namespaces, and for a public key nothing but the key. -/
theorem storeAll_namespaces (vacant : slots.get? key = none) {puts : List InboundPut}
    (held : (slots.storeAll puts).get? key = some value) :
    ∃ routing, RoutingKey.ofBytes? key = some routing
      ∧ ∀ peer, routing = .publicKey peer →
        ∃ publicKey, PublicKey.decode value = .ok publicKey
          ∧ PeerId.ofPublicKey publicKey = peer := by
  induction puts using List.reverseRecOn with
  | nil =>
    rw [storeAll, List.foldl_nil, vacant] at held
    cases held
  | append_singleton front put ih =>
    rw [storeAll_concat] at held
    by_cases accepted : validatePut put.key put.value ((slots.storeAll front).get? put.key)
        (slots.storeAll front).knownKey? put.now = .ok ()
    · rw [storeInbound_accepted accepted, Table.get?_put] at held
      split at held
      · rename_i own
        cases held
        exact own ▸ validatePut_ok accepted
      · exact ih held
    · rw [storeInbound_refused accepted] at held
      exact ih held

/-- What is held for a name whose key stands in its peer id, whatever else comes in. As long as the
clock stands still, it is the candidate whose record is selected among all that came in for the name.
Whatever the clock does, it is a record signed with the key, only a valid one that ranks higher is
stored in its place, and so what is held later is the same or ranks higher. Nothing is held outside
of the two namespaces, and for a public key nothing but the key of the identity. -/
theorem storeAll_holds_selected {peer : PeerId} {publicKey : PublicKey}
    (inlined : peer.inlineKey? = some publicKey)
    (vacant : slots.get? (RoutingKey.record peer).toBytes = none) (puts : List InboundPut) :
    let key := (RoutingKey.record peer).toBytes
    let values := valuesUnder key puts
    let held := (slots.storeAll puts).get? key
    (∀ now, (∀ put ∈ puts, put.key = key → put.now = now) →
        held = selectedCandidate? publicKey now values
          ∧ heldRecord? held = (selectRecord publicKey now values).best
          ∧ (held = none ↔ (selectRecord publicKey now values).best = none))
      ∧ (∀ now value, ((slots.storeAll puts).storeInbound now key value).2 = .ok () ↔
        ∃ record, validateRecord publicKey now value = .ok record
          ∧ ∀ current, heldRecord? held = some current → current.rank < record.rank)
      ∧ (∀ stored, held = some stored → ∃ record, Encodes publicKey stored record
        ∧ ∀ later, ∃ next newer, (slots.storeAll (puts ++ later)).get? key = some next
          ∧ Encodes publicKey next newer ∧ (next = stored ∨ record.rank < newer.rank))
      ∧ ∀ other value, slots.get? other = none → (slots.storeAll puts).get? other = some value →
        ∃ routing, RoutingKey.ofBytes? other = some routing
          ∧ ∀ owner, routing = .publicKey owner → ∃ owned, PublicKey.decode value = .ok owned
            ∧ PeerId.ofPublicKey owned = owner := by
  intro key values held
  refine ⟨?_, ?_, ?_, ?_⟩
  · intro now steady
    have selected : held = selectedCandidate? publicKey now values :=
      storeAll_selected inlined vacant steady
    rw [selected]
    exact ⟨rfl, ofBytes_selectedCandidate? values, selectedCandidate?_eq_none⟩
  · intro now value
    rw [storeInbound_result]
    exact validatePut_record inlined
  · intro stored current
    obtain ⟨record, encodes⟩ := storeAll_encodes inlined vacant current
    refine ⟨record, encodes, ?_⟩
    intro later
    rw [storeAll_append]
    exact storeAll_rises inlined current encodes later
  · intro other value absent found
    exact storeAll_namespaces absent found

end ValueSlots

end Storing

namespace ValueSlots

namespace Sample

open Resolving.Sample PeerId.Sample

/-- The older record, the newer one, something that is no record, and the older one again. -/
def puts : List InboundPut :=
  [older, newer, [0], older].map fun value =>
    { now := early, key := (RoutingKey.record written).toBytes, value }

theorem steady : ∀ put ∈ puts, put.key = (RoutingKey.record written).toBytes → put.now = early := by
  simp [puts]

theorem selected :
    selectedCandidate? publicKey early (valuesUnder (RoutingKey.record written).toBytes puts)
      = some newer := by
  decide +kernel

end Sample

open Resolving.Sample PeerId.Sample Sample in
/-- The older record does not come back. -/
theorem storeAll_holds_selected_newer :
    let slots : ValueSlots := .empty
    (slots.storeAll puts).get? (RoutingKey.record written).toBytes = some newer
      ∧ ∃ record, Encodes publicKey newer record
        ∧ ∀ later, ∃ next newest,
          (slots.storeAll (puts ++ later)).get? (RoutingKey.record written).toBytes = some next
            ∧ Encodes publicKey next newest ∧ (next = newer ∨ record.rank < newest.rank) := by
  intro slots
  have vacant : slots.get? (RoutingKey.record written).toBytes = none := rfl
  obtain ⟨agrees, -, rises, -⟩ := storeAll_holds_selected inlined.1 vacant puts
  have held := (agrees early steady).1.trans selected
  exact ⟨held, rises newer held⟩

end ValueSlots

end GossipNames
