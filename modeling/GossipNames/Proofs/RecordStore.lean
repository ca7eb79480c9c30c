import GossipNames.Proofs.NameRecord
import GossipNames.Proofs.PeerId
import GossipNames.Record.Store

/-! What the record store says of an identity, and what it issues next. -/

namespace GossipNames

namespace RecordStore

theorem lastSequence_of_get? {store other : Datastore} {peer : PeerId}
    (same : store.get? (.ofPeer peer) = other.get? (.ofPeer peer)) (faults : StoreFaults) :
    lastSequence faults store peer = lastSequence faults other peer := by
  simp only [lastSequence, last?, same]

theorem lastSequence_of_absent {store : Datastore} {peer : PeerId}
    (absent : store.get? (.ofPeer peer) = none) : lastSequence .none store peer = .ok 0 := by
  simp only [lastSequence, last?, StoreFaults.none, absent]
  rfl

/-- A datastore that can be read at all gives what a sound one gives. -/
theorem lastSequence_sound {faults : StoreFaults} {store : Datastore} {peer : PeerId}
    {sequence : UInt64} (read : lastSequence faults store peer = .ok sequence) :
    lastSequence .none store peer = .ok sequence := by
  cases reading : faults.reading with
  | none => simpa [lastSequence, last?, reading, StoreFaults.none] using read
  | some reason => simp [lastSequence, last?, reading] at read

/-- The sequence number of a record that is kept is read back, if anything is. -/
theorem lastSequence_of_kept {store : Datastore} {peer : PeerId} {record : NameRecord}
    {sequence : UInt64} (kept : store.get? (.ofPeer peer) = some record.toBytes)
    (read : lastSequence .none store peer = .ok sequence) : sequence = record.sequence := by
  cases decoded : NameRecord.ofBytes record.toBytes with
  | error error =>
    simp [lastSequence, last?, StoreFaults.none, kept, decoded] at read
  | ok again =>
    simp only [lastSequence, last?, StoreFaults.none, kept, decoded, map_ok, mapError_ok,
      Option.map_some, Option.getD_some, Except.ok.injEq] at read
    rw [← read, (NameRecord.eq_of_ofBytes_toBytes decoded).2.2.1]

/-- A record that is kept can be read when its sequence number is read back. -/
theorem readable_of_kept {store : Datastore} {peer : PeerId} {record : NameRecord}
    {sequence : UInt64} (kept : store.get? (.ofPeer peer) = some record.toBytes)
    (read : lastSequence .none store peer = .ok sequence) :
    ∃ shown, NameRecord.ofBytes record.toBytes = .ok shown := by
  cases decoded : NameRecord.ofBytes record.toBytes with
  | ok shown => exact ⟨shown, rfl⟩
  | error error =>
    simp [lastSequence, last?, StoreFaults.none, kept, decoded] at read

/-- The record takes the sequence number after the last one of the identity. -/
def Follows (store : Datastore) (peer : PeerId) (record : NameRecord) : Prop :=
  ∃ previous, lastSequence .none store peer = .ok previous
    ∧ record.sequence.toNat = previous.toNat + 1

theorem Follows.lt {store : Datastore} {peer : PeerId} {record : NameRecord}
    (follows : Follows store peer record) :
    ∃ previous, lastSequence .none store peer = .ok previous ∧ previous < record.sequence := by
  obtain ⟨previous, read, successor⟩ := follows
  refine ⟨previous, read, ?_⟩
  rw [UInt64.lt_iff_toNat_lt, successor]
  exact Nat.lt_succ_self _

variable [SignatureScheme]

theorem next_ok {faults : StoreFaults} {store : Datastore} {key : Keypair} {value : Path}
    {endOfLife : Timestamp} {record : NameRecord} :
    next faults store key value endOfLife = .ok record ↔
      ∃ previous, lastSequence faults store key.peerId = .ok previous
        ∧ previous.toNat + 1 ≠ UInt64.size
        ∧ NameRecord.create key value (previous + 1) endOfLife = .ok record := by
  cases read : lastSequence faults store key.peerId with
  | error error => simp [next, read]
  | ok previous =>
    by_cases full : previous.toNat + 1 = UInt64.size
    · simp [next, read, full]
    · cases created : NameRecord.create key value (previous + 1) endOfLife <;>
        simp [next, read, full, created]

theorem follows_of_next {faults : StoreFaults} {store : Datastore} {key : Keypair} {value : Path}
    {endOfLife : Timestamp} {record : NameRecord}
    (issued : next faults store key value endOfLife = .ok record) :
    Follows store key.peerId record := by
  obtain ⟨previous, read, room, created⟩ := next_ok.mp issued
  obtain ⟨-, signature, -, rfl⟩ := NameRecord.create_ok.mp created
  have bound := previous.toNat_lt
  have successor : (previous + 1).toNat = previous.toNat + 1 := by
    rw [UInt64.toNat_add, UInt64.toNat_one]
    simp only [UInt64.size] at room
    omega
  exact ⟨previous, lastSequence_sound read, successor⟩

theorem issue_cases (faults : StoreFaults) (store : Datastore) (key : Keypair) (value : Path)
    (endOfLife : Timestamp) :
    (∃ error, issue faults store key value endOfLife = (store, .error error))
      ∨ ∃ record, next faults store key value endOfLife = .ok record
        ∧ issue faults store key value endOfLife
          = (store.put (.ofPeer key.peerId) record.toBytes, .ok record) := by
  unfold issue put
  cases next faults store key value endOfLife with
  | error error => exact .inl ⟨error, rfl⟩
  | ok record =>
    cases faults.writing with
    | some reason => exact .inl ⟨.store reason, rfl⟩
    | none => exact .inr ⟨record, rfl, rfl⟩

/-- What is issued is the next record, and is kept. -/
theorem kept_of_issued {faults : StoreFaults} {store : Datastore} {key : Keypair} {value : Path}
    {endOfLife : Timestamp} {record : NameRecord}
    (issued : (issue faults store key value endOfLife).2 = .ok record) :
    next faults store key value endOfLife = .ok record
      ∧ (issue faults store key value endOfLife).1
        = store.put (.ofPeer key.peerId) record.toBytes := by
  rcases issue_cases faults store key value endOfLife with ⟨error, failed⟩ | ⟨other, next, same⟩
  · rw [failed] at issued
    cases issued
  · rw [same] at issued ⊢
    cases issued
    exact ⟨next, rfl⟩

/-- A sound datastore refuses nothing. -/
theorem issue_result {store : Datastore} {key : Keypair} {value : Path} {endOfLife : Timestamp} :
    (issue .none store key value endOfLife).2 = next .none store key value endOfLife := by
  unfold issue
  cases next .none store key value endOfLife <;> rfl

end RecordStore

end GossipNames
