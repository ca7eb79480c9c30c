import GossipNames.Record.Store
import GossipNames.Record.Validation

/-! Keeping records and the keys they are signed with in the shared value store, and the part of it
that one node holds. -/

namespace GossipNames

/-- The values that a node holds, under their routing keys. -/
abbrev ValueSlots := Table Bytes Bytes

variable [SignatureScheme]

namespace ValueSlots

/-- The public key of a peer, when the node holds it. -/
def knownKey? (slots : ValueSlots) (peer : PeerId) : Option PublicKey :=
  (slots.get? (RoutingKey.publicKey peer).toBytes).bind fun value =>
    (validatePublicKey peer value).toOption

/-- Takes a value that another node sent. It has to be valid and newer than the one held. -/
def storeInbound (slots : ValueSlots) (now : Timestamp) (key value : Bytes) :
    ValueSlots × Except Rejection Unit :=
  match validatePut key value (slots.get? key) slots.knownKey? now with
  | .error rejection => (slots, .error rejection)
  | .ok () => (slots.put key value, .ok ())

end ValueSlots

/-- What is put into the value store for a record, in order: the record, then the public key. -/
def valuePuts (key : Keypair) (record : NameRecord) : List (Bytes × Bytes) := [
  ((RoutingKey.record key.peerId).toBytes, record.toBytes),
  ((RoutingKey.publicKey key.peerId).toBytes, key.publicKey.encode)]

variable {m : Type → Type} [Monad m]

/-- Puts one value after the other, up to the first that fails. -/
def putValues (put : Bytes → Bytes → m (Except String Unit)) :
    List (Bytes × Bytes) → m (Except NameError Unit)
  | [] => return .ok ()
  | (key, value) :: rest => do
    match ← put key value with
    | .error reason => return .error (.routing reason)
    | .ok () => putValues put rest

def putRecord (put : Bytes → Bytes → m (Except String Unit)) (key : Keypair)
    (record : NameRecord) : m (Except NameError Unit) :=
  putValues put (valuePuts key record)

end GossipNames
