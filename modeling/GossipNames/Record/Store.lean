import GossipNames.Datastore
import GossipNames.Name.Error
import GossipNames.Record.Basic

/-! The last record issued for each identity, and the issuing of the next one. -/

namespace GossipNames

/-- Why operations on the datastore fail at present. -/
structure StoreFaults where
  reading : Option String
  writing : Option String
  deriving DecidableEq, Repr

def StoreFaults.none : StoreFaults where
  reading := .none
  writing := .none

namespace RecordStore

/-- The last record issued for an identity. -/
def last? (faults : StoreFaults) (store : Datastore) (peer : PeerId) :
    Except NameError (Option NameRecord) :=
  match faults.reading with
  | some reason => .error (.store reason)
  | .none =>
    match store.get? (.ofPeer peer) with
    | .none => .ok .none
    | some bytes => (NameRecord.ofBytes bytes).mapError .record |>.map some

def put (faults : StoreFaults) (store : Datastore) (peer : PeerId) (record : NameRecord) :
    Except NameError Datastore :=
  match faults.writing with
  | some reason => .error (.store reason)
  | .none => .ok (store.put (.ofPeer peer) record.toBytes)

/-- Zero when no record was issued. -/
def lastSequence (faults : StoreFaults) (store : Datastore) (peer : PeerId) :
    Except NameError UInt64 :=
  (last? faults store peer).map fun record? => (record?.map (·.sequence)).getD 0

variable [SignatureScheme]

/-- The record that follows the last one of the key's identity. -/
def next (faults : StoreFaults) (store : Datastore) (key : Keypair) (value : Path)
    (endOfLife : Timestamp) : Except NameError NameRecord := do
  let previous ← lastSequence faults store key.peerId
  if previous.toNat + 1 = UInt64.size then throw .sequenceExhausted
  (NameRecord.create key value (previous + 1) endOfLife).mapError .record

/-- Signs the next record and keeps it before anyone gets to see it, so that no sequence number is
used twice. -/
def issue (faults : StoreFaults) (store : Datastore) (key : Keypair) (value : Path)
    (endOfLife : Timestamp) : Datastore × Except NameError NameRecord :=
  match next faults store key value endOfLife with
  | .error error => (store, .error error)
  | .ok record =>
    match put faults store key.peerId record with
    | .error error => (store, .error error)
    | .ok stored => (stored, .ok record)

end RecordStore

end GossipNames
