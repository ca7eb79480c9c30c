import GossipNames.Name.RoutingKey
import GossipNames.Record.Basic

/-! Which values are accepted under the keys of the shared value store. -/

namespace GossipNames

variable [SignatureScheme]

/-- The public key that a value encodes, when it is the one behind the peer id. -/
def validatePublicKey (peer : PeerId) (value : Bytes) : Except Rejection PublicKey :=
  match PublicKey.decode value with
  | .error _ => .error .keyMismatch
  | .ok key => if PeerId.ofPublicKey key = peer then .ok key else .error .keyMismatch

/-- The record that a value encodes, when it is signed with the key and has not expired. -/
def validateRecord (key : PublicKey) (now : Timestamp) (value : Bytes) :
    Except Rejection NameRecord :=
  if value.isEmpty then .error .empty
  else
    match NameRecord.ofBytes value with
    | .error error => .error (.malformed error)
    | .ok record =>
      if !record.verify key then .error .badSignature
      else if record.isExpired now then .error .expired
      else .ok record

/-- The best valid candidate, and why the invalid ones are not valid. -/
structure Selection where
  best : Option NameRecord
  rejected : List Rejection

namespace Selection

def empty : Selection where
  best := none
  rejected := []

/-- A valid candidate replaces the best one when it supersedes it. -/
def consider (key : PublicKey) (now : Timestamp) (selection : Selection) (candidate : Bytes) :
    Selection :=
  match validateRecord key now candidate with
  | .error rejection => { selection with rejected := selection.rejected ++ [rejection] }
  | .ok record =>
    if selection.best.all fun best => record.supersedes best then
      { selection with best := some record }
    else selection

end Selection

/-- Goes through the candidates in order. -/
def selectRecord (key : PublicKey) (now : Timestamp) (candidates : List Bytes) : Selection :=
  candidates.foldl (Selection.consider key now) .empty

/-- The peer whose public key has to be known from elsewhere before a value can be accepted. -/
def RoutingKey.askedPeer? : RoutingKey → Option PeerId
  | .record peer => if peer.inlineKey?.isNone then some peer else none
  | .publicKey _ => none

/-- Whether a value that was sent for storing may replace the one held under the same key. -/
def validatePut (key value : Bytes) (existing : Option Bytes) (known : PeerId → Option PublicKey)
    (now : Timestamp) : Except Rejection Unit :=
  match RoutingKey.ofBytes? key with
  | none => .error .unsupportedKey
  | some (.publicKey peer) => do
    let _ ← validatePublicKey peer value
  | some (.record peer) => do
    let some publicKey := peer.inlineKey? <|> known peer | throw .unknownKey
    let record ← validateRecord publicKey now value
    match existing.bind fun bytes => (NameRecord.ofBytes bytes).toOption with
    | none => return ()
    | some current =>
      if record.supersedes current then return ()
      else throw (.staleSequence record.sequence current.sequence)

end GossipNames
