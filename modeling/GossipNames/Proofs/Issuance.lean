import GossipNames.Proofs.Publishing
import GossipNames.Proofs.RecordStore

/-! Sequence numbers are issued one after the other for each identity, whatever publications get in
between, fail or are cut short. -/

namespace GossipNames

/-- The sequence numbers of the records that an identity is issued next. -/
def RecordStore.sequencesAfter (store : Datastore) (peer : PeerId) (count : Nat) : List Nat :=
  match lastSequence .none store peer with
  | .ok previous => List.range' (previous.toNat + 1) count
  | .error _ => []

namespace Publishing

/-- The records kept for an identity, in order. -/
def keptFor (node : Publishing) (peer : PeerId) : List NameRecord :=
  node.kept.filterMap fun (owner, record) => if owner = peer then some record else none

variable [SignatureScheme]

omit [SignatureScheme] in
theorem keptFor_append {node later : Publishing} {owner : PeerId} {record : NameRecord}
    (kept : later.kept = node.kept ++ [(owner, record)]) (peer : PeerId) :
    later.keptFor peer = node.keptFor peer ++ if owner = peer then [record] else [] := by
  rw [keptFor, kept, List.filterMap_append]
  by_cases own : owner = peer <;> simp [own, keptFor]

/-- One publication at most has the turn, and a signed record is still the next one of its
identity. -/
structure Orderly (node : Publishing) : Prop where
  turn : ∀ {id call}, node.calls.get? id = some call → call.stage.hasTurn = true →
    node.turn = some id
  next : ∀ {id request record}, node.calls.get? id = some { request, stage := .signed record } →
    RecordStore.Follows node.store request.key.peerId record

theorem hasTurn_afterIssue (request : PublishRequest) (record : NameRecord) :
    (request.afterIssue record).hasTurn = false := by
  unfold PublishRequest.afterIssue
  split <;> rfl

namespace Orderly

variable {node later : Publishing} {id : Nat} {moved : PublishCall}

theorem start (store : Datastore) : Orderly (start store) where
  turn found := by cases found
  next found := by cases found

/-- A publication without the turn changes nothing for the others. -/
theorem stay (orderly : Orderly node) (free : moved.stage.hasTurn = false)
    (store : later.store = node.store) (turn : later.turn = node.turn)
    (calls : later.calls = node.calls.put id moved) : Orderly later where
  turn {other found} look holds := by
    rw [calls, Table.get?_put] at look
    split at look
    · cases look
      simp [free] at holds
    · rw [turn]
      exact orderly.turn look holds
  next {other request record} look := by
    rw [calls, Table.get?_put] at look
    split at look
    · cases look
      cases free
    · rw [store]
      exact orderly.next look

/-- When the publication that had the turn has passed it on, none has it, whatever has become of
the store. -/
theorem leave (orderly : Orderly node) (held : node.turn = some id)
    (rest : ∀ other found, later.calls.get? other = some found →
      found.stage.hasTurn = false ∨ other ≠ id ∧ node.calls.get? other = some found) :
    Orderly later := by
  have nobody : ∀ {other found}, later.calls.get? other = some found →
      found.stage.hasTurn = false := by
    intro other found look
    rcases rest other found look with free | ⟨different, before⟩
    · exact free
    · cases holds : found.stage.hasTurn with
      | false => rfl
      | true =>
        have same := orderly.turn before holds
        rw [held] at same
        exact absurd (Option.some.inj same).symm different
  constructor
  · intro other found look holds
    rw [nobody look] at holds
    cases holds
  · intro other request record look
    cases nobody look

theorem leave_put (orderly : Orderly node) (held : node.turn = some id)
    (free : moved.stage.hasTurn = false) (calls : later.calls = node.calls.put id moved) :
    Orderly later := by
  apply orderly.leave held
  intro other found look
  rw [calls, Table.get?_put] at look
  split at look
  · cases look
    exact .inl free
  · rename_i different
    exact .inr ⟨different, look⟩

theorem call (orderly : Orderly node) (id : Nat) (request : PublishRequest) :
    Orderly (node.call id request) := by
  unfold Publishing.call
  split
  · exact orderly
  · split
    · split
      · exact orderly.stay rfl rfl rfl rfl
      · exact orderly.stay rfl rfl rfl rfl
    · exact orderly.stay rfl rfl rfl rfl

theorem takeTurn (orderly : Orderly node) (id : Nat) : Orderly (node.takeTurn id) := by
  unfold Publishing.takeTurn
  split
  · rename_i request waits free
    constructor
    · intro other found look holds
      simp only [advance, Table.get?_put] at look
      split at look
      · rename_i same
        rw [same]
      · have held := orderly.turn look holds
        rw [free] at held
        cases held
    · intro other found record look
      simp only [advance, Table.get?_put] at look
      split at look
      · cases look
      · exact orderly.next look
  · exact orderly

theorem meet (orderly : Orderly node) (id : Nat) : Orderly (node.meet id) := by
  unfold Publishing.meet
  split
  · dsimp only
    split
    · exact orderly.stay rfl rfl rfl rfl
    · split
      · exact orderly.stay rfl rfl rfl rfl
      · exact orderly.stay rfl rfl rfl rfl
  · exact orderly

theorem announce (orderly : Orderly node) (id : Nat) (reply : Except String Unit) :
    Orderly (node.announce id reply) := by
  unfold Publishing.announce
  split
  · exact orderly.stay rfl rfl rfl rfl
  · exact orderly

theorem put (orderly : Orderly node) (id : Nat) (reply : Except String Unit) :
    Orderly (node.put id reply) := by
  unfold Publishing.put
  split
  · exact orderly.stay rfl rfl rfl rfl
  · split
    · split
      · exact orderly.stay rfl rfl rfl rfl
      · exact orderly.stay rfl rfl rfl rfl
  · exact orderly

theorem abandon (orderly : Orderly node) (id : Nat) : Orderly (node.abandon id) := by
  by_cases held : node.turn = some id
  · apply orderly.leave held
    intro other found look
    simp only [Publishing.abandon, Table.get?_erase] at look
    split at look
    · cases look
    · rename_i different
      exact .inr ⟨different, look⟩
  · constructor
    · intro other found look holds
      simp only [Publishing.abandon, Table.get?_erase] at look
      split at look
      · cases look
      · simp only [Publishing.abandon, held, if_false]
        exact orderly.turn look holds
    · intro other request record look
      simp only [Publishing.abandon, Table.get?_erase] at look
      split at look
      · cases look
      · exact orderly.next look

theorem sign (orderly : Orderly node) (id : Nat) (faults : StoreFaults) :
    Orderly (node.sign id faults) := by
  unfold Publishing.sign
  split
  · rename_i request holds
    have held : node.turn = some id := orderly.turn holds rfl
    split
    · rename_i record issued
      constructor
      · intro other found look holds
        simp only [advance, Table.get?_put] at look
        split at look
        · rename_i same
          rw [same]
          exact held
        · exact orderly.turn look holds
      · intro other found signed look
        simp only [advance, Table.get?_put] at look
        split at look
        · cases look
          exact RecordStore.follows_of_next issued
        · exact orderly.next look
    · exact orderly.leave_put held rfl rfl
  · exact orderly

theorem keep (orderly : Orderly node) (id : Nat) (faults : StoreFaults) :
    Orderly (node.keep id faults) := by
  unfold Publishing.keep
  split
  · rename_i request record signed
    have held : node.turn = some id := orderly.turn signed rfl
    split
    · exact orderly.leave_put held (hasTurn_afterIssue request record) rfl
    · exact orderly.leave_put held rfl rfl
  · exact orderly

theorem step (orderly : Orderly node) (event : Event) : Orderly (node.step event) := by
  cases event with
  | call id request => exact orderly.call id request
  | takeTurn id => exact orderly.takeTurn id
  | sign id faults => exact orderly.sign id faults
  | keep id faults => exact orderly.keep id faults
  | meet id => exact orderly.meet id
  | announce id reply => exact orderly.announce id reply
  | put id reply => exact orderly.put id reply
  | abandon id => exact orderly.abandon id
  | shutdown publisher => exact ⟨orderly.turn, orderly.next⟩
  | restart => exact ⟨(start node.store).turn, (start node.store).next⟩

end Orderly

/-- A turn that nothing comes in between issues the next record. -/
theorem run_issue {node : Publishing} {id : Nat} {request : PublishRequest}
    (waits : node.calls.get? id = some { request, stage := .waiting }) (free : node.turn = none)
    (faults : StoreFaults) :
    let issued := RecordStore.issue faults node.store request.key request.value request.endOfLife
    let later := node.run [.takeTurn id, .sign id faults, .keep id faults]
    later.store = issued.1 ∧ later.turn = none
      ∧ later.kept = node.kept ++ match issued.2 with
        | .ok record => [(request.key.peerId, record)]
        | .error _ => [] := by
  have held : (node.takeTurn id).calls.get? id = some { request, stage := .holding } := by
    simp [takeTurn, waits, free, advance, Table.get?_put]
  have store : (node.takeTurn id).store = node.store := by
    simp [takeTurn, waits, free, advance]
  have kept : (node.takeTurn id).kept = node.kept := by
    simp [takeTurn, waits, free, advance]
  simp only [run, List.foldl_cons, List.foldl_nil, step]
  generalize node.takeTurn id = holder at held store kept ⊢
  unfold RecordStore.issue
  cases issued : RecordStore.next faults holder.store request.key request.value
      request.endOfLife with
  | error error =>
    simp [sign, keep, held, issued, advance, Table.get?_put, kept, ← store]
  | ok record =>
    cases put : RecordStore.put faults holder.store request.key.peerId record with
    | error error =>
      simp [sign, keep, held, issued, put, advance, Table.get?_put, kept, ← store]
    | ok stored =>
      simp [sign, keep, held, issued, put, advance, Table.get?_put, kept, ← store]

/-- A step leaves the store alone, or keeps the record that a publication has signed. -/
theorem step_store (node : Publishing) (event : Event) :
    (node.step event).store = node.store ∧ (node.step event).kept = node.kept
      ∨ ∃ id request record,
        node.calls.get? id = some { request, stage := .signed record }
        ∧ (node.step event).store = node.store.put (.ofPeer request.key.peerId) record.toBytes
        ∧ (node.step event).kept = node.kept ++ [(request.key.peerId, record)] := by
  cases event with
  | keep id faults =>
    simp only [step, keep]
    split
    · rename_i request record signed
      cases kept : RecordStore.put faults node.store request.key.peerId record with
      | error error => exact .inl ⟨rfl, rfl⟩
      | ok store =>
        right
        refine ⟨id, request, record, signed, ?_, rfl⟩
        unfold RecordStore.put at kept
        split at kept
        · cases kept
        · cases kept
          rfl
    · exact .inl ⟨rfl, rfl⟩
  | call id request =>
    left
    simp only [step, call]
    repeat' split
    all_goals exact ⟨rfl, rfl⟩
  | takeTurn id =>
    left
    simp only [step, takeTurn]
    split <;> exact ⟨rfl, rfl⟩
  | sign id faults =>
    left
    simp only [step, sign]
    repeat' split
    all_goals exact ⟨rfl, rfl⟩
  | meet id =>
    left
    simp only [step, meet]
    repeat' split
    all_goals exact ⟨rfl, rfl⟩
  | announce id reply =>
    left
    simp only [step, announce]
    split <;> exact ⟨rfl, rfl⟩
  | put id reply =>
    left
    simp only [step, put]
    repeat' split
    all_goals exact ⟨rfl, rfl⟩
  | abandon id | shutdown publisher | restart => exact .inl ⟨rfl, rfl⟩

/-- What has been kept for an identity since its node was started on a store: records with the next
sequence numbers, of which the store holds the last. -/
structure History (initial : Datastore) (peer : PeerId) (store : Datastore)
    (records : List NameRecord) : Prop where
  entry : store.get? (.ofPeer peer)
    = (records.getLast?.map NameRecord.toBytes).or (initial.get? (.ofPeer peer))
  sequences : records.map (fun record => record.sequence.toNat)
    = RecordStore.sequencesAfter initial peer records.length

namespace History

variable {initial store : Datastore} {peer : PeerId} {records : List NameRecord}

omit [SignatureScheme] in
theorem start (initial : Datastore) (peer : PeerId) : History initial peer initial [] where
  entry := rfl
  sequences := by
    unfold RecordStore.sequencesAfter
    split <;> rfl

omit [SignatureScheme] in
theorem put_other (history : History initial peer store records) {other : PeerId}
    (different : other ≠ peer) (bytes : Bytes) :
    History initial peer (store.put (.ofPeer other) bytes) records where
  entry := by
    rw [Table.get?_put, if_neg, history.entry]
    intro same
    exact different (DatastoreKey.ofPeer_inj.mp same).symm
  sequences := history.sequences

omit [SignatureScheme] in
/-- The next record of the identity continues its history. -/
theorem put_next (history : History initial peer store records) {record : NameRecord}
    (follows : RecordStore.Follows store peer record) :
    History initial peer (store.put (.ofPeer peer) record.toBytes) (records ++ [record]) where
  entry := by simp [Table.get?_put]
  sequences := by
    obtain ⟨previous, read, successor⟩ := follows
    have entry := history.entry
    have sequences := history.sequences
    rcases List.eq_nil_or_concat records with rfl | ⟨before, last, same⟩
    · have begun : RecordStore.lastSequence .none initial peer = .ok previous := by
        rw [← read, RecordStore.lastSequence_of_get? entry]
      simp [RecordStore.sequencesAfter, begun, successor]
    · rw [List.concat_eq_append] at same
      subst same
      have held : store.get? (.ofPeer peer) = some last.toBytes := by simpa using entry
      have latest := RecordStore.lastSequence_of_kept held read
      unfold RecordStore.sequencesAfter at sequences ⊢
      split at sequences
      · rename_i first begun
        have reached : last.sequence.toNat = first.toNat + 1 + before.length := by
          simpa [List.range'_concat] using congrArg List.getLast? sequences
        have number : record.sequence.toNat = first.toNat + 1 + (before ++ [last]).length := by
          rw [successor, latest, reached, List.length_append, List.length_singleton, Nat.add_assoc]
        have total : (before ++ [last] ++ [record]).length = (before ++ [last]).length + 1 :=
          List.length_append
        rw [List.map_append, sequences, total, List.range'_concat, Nat.one_mul, ← number]
        rfl
      · simp at sequences

end History

/-- What holds of a node at all times after it was started on a store. -/
structure Sound (initial : Datastore) (node : Publishing) : Prop where
  orderly : Orderly node
  history : ∀ peer, History initial peer node.store (node.keptFor peer)

namespace Sound

variable {initial : Datastore} {node : Publishing}

theorem start (initial : Datastore) : Sound initial (start initial) where
  orderly := .start initial
  history peer := .start initial peer

theorem step (sound : Sound initial node) (event : Event) : Sound initial (node.step event) where
  orderly := sound.orderly.step event
  history peer := by
    have history := sound.history peer
    rcases node.step_store event with ⟨store, kept⟩ | ⟨id, request, record, signed, store, kept⟩
    · rw [store, keptFor, kept]
      exact history
    · rw [store, keptFor_append kept]
      by_cases own : request.key.peerId = peer
      · subst own
        rw [if_pos rfl]
        exact history.put_next (sound.orderly.next signed)
      · rw [if_neg own, List.append_nil]
        exact history.put_other own record.toBytes

theorem run (sound : Sound initial node) (events : List Event) :
    Sound initial (node.run events) := by
  induction events generalizing node with
  | nil => exact sound
  | cons event rest ih => exact ih (sound.step event)

end Sound

/-- Whatever publications do at the same time, fail at or leave undone, and however often the node
is started again: each record that is kept for an identity has the sequence number after the one
kept before it, the first the number after the one that the store began with, which is 1 for an
empty store. The store holds the last of them. -/
theorem kept_consecutive (initial : Datastore) (events : List Event) (peer : PeerId) :
    let node := (start initial).run events
    let fresh := (start .empty).run events
    (node.keptFor peer).map (fun record => record.sequence.toNat)
        = RecordStore.sequencesAfter initial peer (node.keptFor peer).length
      ∧ node.store.get? (.ofPeer peer)
        = ((node.keptFor peer).getLast?.map NameRecord.toBytes).or (initial.get? (.ofPeer peer))
      ∧ (fresh.keptFor peer).map (fun record => record.sequence.toNat)
        = List.range' 1 (fresh.keptFor peer).length := by
  have sound := (Sound.start initial).run events
  have blank := (Sound.start .empty).run events
  exact ⟨(sound.history peer).sequences, (sound.history peer).entry, (blank.history peer).sequences⟩

end Publishing

end GossipNames
