import GossipNames.Proofs.RecordStore
import GossipNames.Proofs.RoundTrip

/-! Whether a record that was issued is read back and followed by another one. That is so unless its
end of life is before year 0: such a record is issued and kept, and its identity issues nothing
from then on. -/

namespace GossipNames

/-- The key signs whatever it is given. -/
def Keypair.Signs [SignatureScheme] (key : Keypair) : Prop :=
  ∀ message, ∃ signature, key.sign message = .ok signature ∧ signature.Addressable

structure IssueRequest where
  key : Keypair
  value : Path
  endOfLife : Timestamp

namespace RecordStore

theorem last?_of_kept {store : Datastore} {peer : PeerId} {record : NameRecord}
    (kept : store.get? (.ofPeer peer) = some record.toBytes) :
    last? .none store peer = ((NameRecord.ofBytes record.toBytes).mapError .record).map some := by
  simp only [last?, StoreFaults.none, kept]

section Issuing

variable [SignatureScheme]

/-- Requests that are served one after the other by a store without faults. -/
def issueAll (store : Datastore) (requests : List IssueRequest) : Datastore :=
  requests.foldl
    (fun store request => (issue .none store request.key request.value request.endOfLife).1) store

section

variable {store later : Datastore} {key : Keypair} {value : Path} {endOfLife : Timestamp}
  {record : NameRecord}

/-- What is issued is kept under the key of its identity. -/
theorem issue_ok :
    issue .none store key value endOfLife = (later, .ok record) ↔
      next .none store key value endOfLife = .ok record
        ∧ later = store.put (.ofPeer key.peerId) record.toBytes := by
  unfold issue
  cases issued : next .none store key value endOfLife with
  | error error => simp
  | ok first =>
    simp only [put, StoreFaults.none, Prod.mk.injEq, Except.ok.injEq]
    constructor
    · rintro ⟨rfl, rfl⟩
      exact ⟨rfl, rfl⟩
    · rintro ⟨rfl, rfl⟩
      exact ⟨rfl, rfl⟩

theorem issue_get?_other {peer : PeerId} (different : key.peerId ≠ peer) :
    (issue .none store key value endOfLife).1.get? (.ofPeer peer) = store.get? (.ofPeer peer) := by
  unfold issue
  cases next .none store key value endOfLife with
  | error error => rfl
  | ok first =>
    simp only [put, StoreFaults.none, Table.get?_put]
    rw [if_neg fun same => different (DatastoreKey.ofPeer_inj.mp same).symm]

/-- A record past the latest end of life is refused and nothing is kept. -/
theorem issue_late (late : Timestamp.latest.isBefore endOfLife = true) :
    (issue .none store key value endOfLife).1 = store := by
  have refused : ∀ record, next .none store key value endOfLife ≠ .ok record := by
    intro record issued
    obtain ⟨previous, -, -, created⟩ := next_ok.mp issued
    rw [(NameRecord.create_ok.mp created).1] at late
    cases late
  unfold issue
  cases issued : next .none store key value endOfLife with
  | error error => rfl
  | ok record => exact absurd issued (refused record)

end

theorem issueAll_get?_other {store : Datastore} {requests : List IssueRequest} {peer : PeerId}
    (others : ∀ request ∈ requests, request.key.peerId ≠ peer) :
    (issueAll store requests).get? (.ofPeer peer) = store.get? (.ofPeer peer) := by
  induction requests generalizing store with
  | nil => rfl
  | cons request rest ih =>
    have first := others request (by simp)
    rw [issueAll, List.foldl_cons]
    change (issueAll _ rest).get? _ = _
    rw [ih fun other member => others other (by simp [member]), issue_get?_other first]

/-- Once the last record of an identity is read back, the next one is issued exactly when its end of
life is not past the latest one. -/
theorem exists_next_iff {store : Datastore} {key : Keypair} {record : NameRecord}
    (signs : key.Signs) (last : last? .none store key.peerId = .ok (some record))
    (room : record.sequence.toNat + 1 < UInt64.size) (value : Path) (endOfLife : Timestamp) :
    (∃ following, next .none store key value endOfLife = .ok following)
      ↔ Timestamp.latest.isBefore endOfLife = false := by
  have read : lastSequence .none store key.peerId = .ok record.sequence := by
    rw [lastSequence, last]
    rfl
  constructor
  · rintro ⟨following, issued⟩
    obtain ⟨previous, -, -, created⟩ := next_ok.mp issued
    exact (NameRecord.create_ok.mp created).1
  · intro timely
    obtain ⟨signature, signed, -⟩ := signs (NameRecord.signingPayload value
      (Bytes.ofString (Rfc3339.format endOfLife)) (record.sequence + 1))
    exact ⟨_, next_ok.mpr ⟨record.sequence, read, by omega,
      NameRecord.create_ok.mpr ⟨timely, signature, signed, rfl⟩⟩⟩

/-- Nothing is issued for an identity whose last record is not read back. -/
theorem next_of_unreadable {store : Datastore} {key : Keypair}
    (unreadable : ∀ last, last? .none store key.peerId ≠ .ok last) (value : Path)
    (endOfLife : Timestamp) (following : NameRecord) :
    next .none store key value endOfLife ≠ .ok following := by
  intro issued
  obtain ⟨previous, read, -, -⟩ := next_ok.mp issued
  cases last : last? .none store key.peerId with
  | error error => simp [lastSequence, last] at read
  | ok found => exact unreadable found last

/-- Whatever was issued before, and whatever is issued for other identities afterwards: a record that
was issued is the last one of its identity as far as anyone can read, and is followed by another one
unless that one's end of life is refused, exactly when its own end of life is not before year 0. An
end of life past the latest one is refused before anything is kept. -/
theorem issued_readable_iff (initial : Datastore) (before : List IssueRequest)
    (request : IssueRequest) {later : Datastore} {record : NameRecord}
    (signs : request.key.Signs) (held : (Bytes.ofString request.value.text).Addressable)
    (issued : issue .none (issueAll initial before) request.key request.value request.endOfLife
      = (later, .ok record))
    {between : List IssueRequest}
    (others : ∀ other ∈ between, other.key.peerId ≠ request.key.peerId) :
    let store := issueAll later between
    (last? .none store request.key.peerId = .ok (some record) ↔ 0 ≤ request.endOfLife.year)
      ∧ (record.sequence.toNat + 1 < UInt64.size → ∀ value endOfLife,
        (∃ following, (issue .none store request.key value endOfLife).2 = .ok following)
          ↔ 0 ≤ request.endOfLife.year ∧ Timestamp.latest.isBefore endOfLife = false)
      ∧ ∀ value endOfLife, Timestamp.latest.isBefore endOfLife = true →
        (issue .none store request.key value endOfLife).1 = store := by
  intro store
  obtain ⟨next, rfl⟩ := issue_ok.mp issued
  obtain ⟨previous, -, -, created⟩ := next_ok.mp next
  have kept : store.get? (.ofPeer request.key.peerId) = some record.toBytes := by
    rw [issueAll_get?_other others, Table.get?_put, if_pos rfl]
  have signed : record.signature.Addressable := by
    obtain ⟨-, signature, sign, rfl⟩ := NameRecord.create_ok.mp created
    obtain ⟨same, found, small⟩ := signs _
    rw [found] at sign
    exact Except.ok.inj sign ▸ small
  have read := last?_of_kept kept
  by_cases early : 0 ≤ request.endOfLife.year
  · rw [NameRecord.ofBytes_toBytes_of_create held created signed early] at read
    refine ⟨iff_of_true read early, ?_, fun _ _ => issue_late⟩
    intro room value endOfLife
    rw [issue_result, exists_next_iff signs read room]
    simp [early]
  · have unreadable : ∀ last, last? .none store request.key.peerId ≠ .ok last := by
      intro last found
      rw [read] at found
      cases decoded : NameRecord.ofBytes record.toBytes with
      | error error => rw [decoded] at found; cases found
      | ok other => exact NameRecord.ofBytes_toBytes_of_create_early created early other decoded
    refine ⟨iff_of_false (unreadable _) early, ?_, fun _ _ => issue_late⟩
    intro room value endOfLife
    rw [issue_result]
    exact iff_of_false (fun ⟨following, issued⟩ => next_of_unreadable unreadable _ _ _ issued)
      fun both => early both.1

end Issuing

namespace Sample

/-- Another identity. -/
def other : IssueRequest where
  key := { kind := .ed25519, secret := List.replicate 32 2 }
  value := NameRecord.Sample.target
  endOfLife := NameRecord.Sample.leapSecond

/-- The first of January in the year before year 0. -/
def early : Timestamp :=
  .ofSeconds (-62198755200)

/-- Half a second after the latest end of life, and still in year 9999. -/
def late : Timestamp where
  seconds := 253402300799
  nanos := 500000000
  nanosBound := by decide
  leapAtMinuteEnd := by decide

/-- The request of the identity that the other one comes between. -/
def own : IssueRequest where
  key := NameRecord.Sample.key
  value := NameRecord.Sample.target
  endOfLife := NameRecord.Sample.leapSecond

theorem others : ∀ request ∈ [other], request.key.peerId ≠ own.key.peerId := by
  decide +kernel

end Sample

open NameRecord.Sample Sample in
/-- The other identity's record comes first, and another one of it comes in between. -/
theorem issued_readable_iff_between :
    ∃ later record,
      issue .none (issueAll .empty [other]) own.key own.value own.endOfLife = (later, .ok record)
        ∧ last? .none (issueAll later [other]) own.key.peerId = .ok (some record)
        ∧ ∃ following, (issue .none (issueAll later [other]) own.key target leapSecond).2
          = .ok following := by
  have unissued : (issueAll .empty [other]).get? (.ofPeer own.key.peerId) = none :=
    issueAll_get?_other others
  have first := lastSequence_of_absent unissued
  obtain ⟨signature, signed, -⟩ := key_signs
    (NameRecord.signingPayload target (Bytes.ofString (Rfc3339.format leapSecond)) (0 + 1))
  have created := NameRecord.create_ok.mpr ⟨by decide, signature, signed, rfl⟩
  have issued := issue_ok.mpr ⟨next_ok.mpr ⟨0, first, by decide, created⟩, rfl⟩
  have early : 0 ≤ leapSecond.year := by
    rw [Timestamp.year_nonneg_iff]
    decide
  obtain ⟨readable, followed, -⟩ :=
    issued_readable_iff .empty [other] own key_signs (by decide) issued others
  have room : ((0 : UInt64) + 1).toNat + 1 < UInt64.size := by decide
  exact ⟨_, _, issued, readable.mpr early,
    (followed room target leapSecond).mpr ⟨early, by decide⟩⟩

open NameRecord.Sample Sample in
/-- A record that ends before year 0 is issued and kept. Neither can it be read from then on nor is
anything issued after it. A record that ends within the last second of year 9999 is refused, although
its end of life could be read. -/
theorem issued_before_year_zero :
    (issue .none .empty key target early).2.map (·.sequence) = .ok 1
      ∧ last? .none (issue .none .empty key target early).1 key.peerId
        = .error (.record (.validity "-0001-01-01T00:00:00.000000000Z"))
      ∧ (issue .none (issue .none .empty key target early).1 key target leapSecond).2
        = .error (.record (.validity "-0001-01-01T00:00:00.000000000Z"))
      ∧ (issue .none .empty key target late).2
        = .error (.record (.validity "9999-12-31T23:59:59.500000000Z"))
      ∧ Rfc3339.parse? "9999-12-31T23:59:59.500000000Z" = some late := by
  decide +kernel

end RecordStore

end GossipNames
