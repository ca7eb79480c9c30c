import GossipNames.Proofs.DatastoreKey
import GossipNames.Proofs.RecordStore
import GossipNames.Proofs.RoundTrip

/-! What a store is like after a record was to be issued. Where none was issued nothing has changed,
whatever the reason; where one was, it stands under the text of its identity's key, and everything
under other texts is as before. -/

namespace GossipNames

section Refusals

variable [SignatureScheme] {faults : StoreFaults} {store : Datastore} {key : Keypair}
  {value : Path} {endOfLife : Timestamp}

theorem NameRecord.create_error {sequence : UInt64} {error : RecordError} :
    create key value sequence endOfLife = .error error ↔
      (Timestamp.latest.isBefore endOfLife = true
          ∧ error = .validity (Rfc3339.format endOfLife))
        ∨ Timestamp.latest.isBefore endOfLife = false ∧ ∃ reason,
          key.sign (signingPayload value (Bytes.ofString (Rfc3339.format endOfLife)) sequence)
            = .error reason
          ∧ error = .signing reason := by
  unfold create
  cases late : Timestamp.latest.isBefore endOfLife with
  | true => simp [eq_comm]
  | false =>
    cases signed : key.sign
        (signingPayload value (Bytes.ofString (Rfc3339.format endOfLife)) sequence) with
    | error reason => simp [signed, eq_comm]
    | ok signature => simp [signed]

namespace RecordStore

omit [SignatureScheme] in
theorem lastSequence_error {peer : PeerId} {error : NameError} :
    lastSequence faults store peer = .error error ↔
      (∃ reason, faults.reading = some reason ∧ error = .store reason)
        ∨ faults.reading = .none ∧ ∃ bytes fault, store.get? (.ofPeer peer) = some bytes
          ∧ NameRecord.ofBytes bytes = .error fault ∧ error = .record fault := by
  cases reading : faults.reading with
  | some reason => simp [lastSequence, last?, reading, eq_comm]
  | none =>
    cases kept : store.get? (.ofPeer peer) with
    | none => simp [lastSequence, last?, reading, kept]
    | some bytes =>
      cases decoded : NameRecord.ofBytes bytes with
      | error fault => simp [lastSequence, last?, reading, kept, decoded, eq_comm]
      | ok record => simp [lastSequence, last?, reading, kept, decoded]

theorem next_error {error : NameError} :
    next faults store key value endOfLife = .error error ↔
      lastSequence faults store key.peerId = .error error
        ∨ ∃ previous, lastSequence faults store key.peerId = .ok previous
          ∧ (previous.toNat + 1 = UInt64.size ∧ error = .sequenceExhausted
            ∨ previous.toNat + 1 ≠ UInt64.size ∧ ∃ fault,
              NameRecord.create key value (previous + 1) endOfLife = .error fault
                ∧ error = .record fault) := by
  cases read : lastSequence faults store key.peerId with
  | error fault => simp [next, read]
  | ok previous =>
    by_cases full : previous.toNat + 1 = UInt64.size
    · simp [next, read, full, eq_comm (a := error)]
    · cases created : NameRecord.create key value (previous + 1) endOfLife with
      | error fault => simp [next, read, full, created, eq_comm (a := error)]
      | ok record => simp [next, read, full, created]

theorem issue_error {error : NameError} :
    (issue faults store key value endOfLife).2 = .error error ↔
      next faults store key value endOfLife = .error error
        ∨ ∃ record reason, next faults store key value endOfLife = .ok record
          ∧ faults.writing = some reason ∧ error = .store reason := by
  unfold issue put
  cases next faults store key value endOfLife with
  | error fault => simp
  | ok record => cases faults.writing <;> simp [eq_comm]

/-- Why no record is issued, with the error that says so. Of several reasons it is the first one. -/
inductive Unissued (faults : StoreFaults) (store : Datastore) (key : Keypair) (value : Path)
    (endOfLife : Timestamp) : NameError → Prop where
  | unread {reason : String} (broken : faults.reading = some reason) :
      Unissued faults store key value endOfLife (.store reason)
  | undecodable {bytes : Bytes} {fault : RecordError} (readable : faults.reading = .none)
      (kept : store.get? (.ofPeer key.peerId) = some bytes)
      (corrupt : NameRecord.ofBytes bytes = .error fault) :
      Unissued faults store key value endOfLife (.record fault)
  | exhausted {previous : UInt64} (last : lastSequence faults store key.peerId = .ok previous)
      (full : previous.toNat + 1 = UInt64.size) :
      Unissued faults store key value endOfLife .sequenceExhausted
  | late {previous : UInt64} (last : lastSequence faults store key.peerId = .ok previous)
      (room : previous.toNat + 1 ≠ UInt64.size)
      (late : Timestamp.latest.isBefore endOfLife = true) :
      Unissued faults store key value endOfLife (.record (.validity (Rfc3339.format endOfLife)))
  | unsigned {previous : UInt64} {fault : SigningError}
      (last : lastSequence faults store key.peerId = .ok previous)
      (room : previous.toNat + 1 ≠ UInt64.size)
      (timely : Timestamp.latest.isBefore endOfLife = false)
      (refused : key.sign (NameRecord.signingPayload value
        (Bytes.ofString (Rfc3339.format endOfLife)) (previous + 1)) = .error fault) :
      Unissued faults store key value endOfLife (.record (.signing fault))
  | unwritten {record : NameRecord} {reason : String}
      (signed : next faults store key value endOfLife = .ok record)
      (broken : faults.writing = some reason) :
      Unissued faults store key value endOfLife (.store reason)

theorem issue_error_iff_unissued {error : NameError} :
    (issue faults store key value endOfLife).2 = .error error ↔
      Unissued faults store key value endOfLife error := by
  rw [issue_error, next_error, lastSequence_error]
  constructor
  · rintro (((⟨reason, broken, rfl⟩ | ⟨readable, bytes, fault, kept, corrupt, rfl⟩)
      | ⟨previous, last, ⟨full, rfl⟩ | ⟨room, fault, uncreated, rfl⟩⟩)
      | ⟨record, reason, signed, broken, rfl⟩)
    · exact .unread broken
    · exact .undecodable readable kept corrupt
    · exact .exhausted last full
    · rcases NameRecord.create_error.mp uncreated with ⟨late, rfl⟩ | ⟨timely, fault, refused, rfl⟩
      · exact .late last room late
      · exact .unsigned last room timely refused
    · exact .unwritten signed broken
  · intro unissued
    cases unissued with
    | unread broken => exact .inl (.inl (.inl ⟨_, broken, rfl⟩))
    | undecodable readable kept corrupt =>
      exact .inl (.inl (.inr ⟨readable, _, _, kept, corrupt, rfl⟩))
    | exhausted last full => exact .inl (.inr ⟨_, last, .inl ⟨full, rfl⟩⟩)
    | late last room late =>
      refine .inl (.inr ⟨_, last, .inr ⟨room, _, ?_, rfl⟩⟩)
      exact NameRecord.create_error.mpr (.inl ⟨late, rfl⟩)
    | unsigned last room timely refused =>
      refine .inl (.inr ⟨_, last, .inr ⟨room, _, ?_, rfl⟩⟩)
      exact NameRecord.create_error.mpr (.inr ⟨timely, _, refused, rfl⟩)
    | unwritten signed broken => exact .inr ⟨_, _, signed, broken, rfl⟩

/-- Whatever is in the store, and whatever is to be issued: no record is issued exactly for one of
the reasons there are, and the store is then what it was. A record that is issued has the sequence
number after the last one of its identity; its bytes stand under the text of the identity's key, and
under every other text stands what stood there before. No two identities have a text in common. -/
theorem issue_atomic (faults : StoreFaults) (store : Datastore) (key : Keypair) (value : Path)
    (endOfLife : Timestamp) :
    let outcome := issue faults store key value endOfLife
    let own := (DatastoreKey.ofPeer key.peerId).text
    (∀ error, outcome.2 = .error error ↔ Unissued faults store key value endOfLife error)
      ∧ (∀ error, outcome.2 = .error error → outcome.1 = store)
      ∧ (∀ record, outcome.2 = .ok record →
        (∃ previous, lastSequence .none store key.peerId = .ok previous
            ∧ record.sequence.toNat = previous.toNat + 1)
          ∧ Datastore.row? outcome.1 own = some record.toBytes
          ∧ ∀ text, text ≠ own → Datastore.row? outcome.1 text = store.row? text)
      ∧ ∀ peer, peer ≠ key.peerId → (DatastoreKey.ofPeer peer).text ≠ own := by
  intro outcome own
  refine ⟨fun error => issue_error_iff_unissued, ?_, ?_, ?_⟩
  · intro error failed
    rcases issue_cases faults store key value endOfLife with ⟨fault, same⟩ | ⟨record, -, same⟩
    · exact congrArg Prod.fst same
    · have issued : outcome.2 = .ok record := congrArg Prod.snd same
      rw [issued] at failed
      cases failed
  · intro record issued
    obtain ⟨next, changed⟩ := kept_of_issued issued
    have row (text : String) : Datastore.row? outcome.1 text
        = if text = own then some record.toBytes else store.row? text := by
      rw [show outcome.1 = _ from changed, Datastore.row?_put]
    refine ⟨follows_of_next next, ?_, ?_⟩
    · rw [row, if_pos rfl]
    · intro text different
      rw [row, if_neg different]
  · intro peer different same
    exact different (DatastoreKey.ofPeer_inj.mp (DatastoreKey.text_injective same))

end RecordStore

end Refusals

namespace RecordStore

open NameRecord.Sample

namespace Sample

/-- What stands for the identity is no record. -/
def corrupt : Datastore :=
  Datastore.empty.put (.ofPeer key.peerId) [255]

/-- Nobody's key has an empty hash. -/
def stranger : PeerId where
  kind := .sha256
  digest := []
  fits := by decide

theorem stranger_ne : stranger ≠ key.peerId := by
  intro same
  change stranger = PeerId.ofPublicKey key.publicKey at same
  unfold PeerId.ofPublicKey at same
  split at same
  · have kind := congrArg PeerId.kind same
    cases kind
  · have length := congrArg (fun peer => peer.digest.length) same
    simp [stranger, Sha256.hash, Sha256.State.words] at length

end Sample

open Sample in
/-- What is no record stays, and nothing is issued in its place. In an empty store the first record is
issued, and nothing but it stands there. -/
theorem issue_atomic_corrupt :
    (∃ fault, (issue .none corrupt key target leapSecond).2 = .error (.record fault)
        ∧ (issue .none corrupt key target leapSecond).1 = corrupt)
      ∧ ∃ record, (issue .none .empty key target leapSecond).2 = .ok record
        ∧ record.sequence.toNat = 1
        ∧ Datastore.row? (issue .none .empty key target leapSecond).1
          (DatastoreKey.ofPeer key.peerId).text = some record.toBytes
        ∧ Datastore.row? (issue .none .empty key target leapSecond).1
          (DatastoreKey.ofPeer stranger).text = none := by
  constructor
  · obtain ⟨reasons, unchanged, -, -⟩ := issue_atomic .none corrupt key target leapSecond
    have kept : corrupt.get? (.ofPeer key.peerId) = some [255] := by
      rw [corrupt, Table.get?_put, if_pos rfl]
    have failed := (reasons _).mpr (.undecodable rfl kept rfl)
    exact ⟨_, failed, unchanged _ failed⟩
  · obtain ⟨signature, signed, -⟩ := key_signs
      (NameRecord.signingPayload target (Bytes.ofString (Rfc3339.format leapSecond)) (0 + 1))
    have created := NameRecord.create_ok.mpr ⟨by decide, signature, signed, rfl⟩
    have first : lastSequence .none .empty key.peerId = .ok 0 := rfl
    have next := next_ok.mpr ⟨0, first, by decide, created⟩
    have issued := issue_result.trans next
    obtain ⟨-, -, succeeds, apart⟩ := issue_atomic .none .empty key target leapSecond
    obtain ⟨-, own, others⟩ := succeeds _ issued
    refine ⟨_, issued, rfl, own, ?_⟩
    rw [others _ (apart stranger stranger_ne), Datastore.row?_text]
    rfl

end RecordStore

end GossipNames
