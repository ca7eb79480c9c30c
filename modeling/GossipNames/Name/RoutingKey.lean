import GossipNames.Key.PeerId

/-! Keys of the shared value store: a name's record, or the public key behind the name. -/

namespace GossipNames

inductive RoutingKey where
  | record (peer : PeerId)
  | publicKey (peer : PeerId)
  deriving DecidableEq

namespace RoutingKey

def recordLead : Bytes := Bytes.ofString "/ipns/"

def publicKeyLead : Bytes := Bytes.ofString "/pk/"

def peer : RoutingKey → PeerId
  | .record peer => peer
  | .publicKey peer => peer

def toBytes : RoutingKey → Bytes
  | .record peer => recordLead ++ peer.toBytes
  | .publicKey peer => publicKeyLead ++ peer.toBytes

/-- Keys of other namespaces, and malformed peer ids, are none of ours. -/
def ofBytes? (bytes : Bytes) : Option RoutingKey :=
  match recordLead.isPrefixOf? bytes with
  | some id => (PeerId.ofBytes id).toOption.map .record
  | none =>
    match publicKeyLead.isPrefixOf? bytes with
    | some id => (PeerId.ofBytes id).toOption.map .publicKey
    | none => none

end RoutingKey

end GossipNames
