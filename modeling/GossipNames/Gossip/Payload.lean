import GossipNames.Encoding.Snappy
import GossipNames.Hash.Sha256
import GossipNames.Key.PeerId

/-! Messages as they are gossiped: compressed, and known by their topic and content. How a node takes
part is set by parameters. -/

namespace GossipNames

structure GossipMessage where
  topic : String
  data : Bytes
  deriving DecidableEq, Repr

inductive PayloadError where
  | tooLarge (length limit : Nat)
  | malformed
  deriving DecidableEq, Repr

def PayloadError.message : PayloadError → String
  | .tooLarge length limit => s!"payload of {length} bytes exceeds {limit}"
  | .malformed => "malformed block"

namespace GossipMessage

/-- The largest content that is accepted. -/
def standardLimit : Nat := 10240

/-- The message with its content compressed. -/
def compress? (message : GossipMessage) : Option GossipMessage := do
  return { message with data := ← Snappy.compress? message.data }

/-- Restores a compressed message. A length above the limit is refused before anything is
decompressed. -/
def restore (limit : Nat) (wire : GossipMessage) : Except PayloadError GossipMessage := do
  let some (length, _) := Snappy.readLength? wire.data | throw .malformed
  if limit < length then throw (.tooLarge length limit)
  let some data := Snappy.decompress? wire.data | throw .malformed
  return { wire with data }

/-- What a message is known by: the length of its topic, the topic and the content. -/
def identifyingBytes (message : GossipMessage) : Bytes :=
  let topic := Bytes.ofString message.topic
  Bytes.ofNatLittleEndian 8 topic.length ++ topic ++ message.data

/-- Twenty bytes of the SHA-256 digest. Neither the sender nor its count of messages matters. -/
def id (message : GossipMessage) : Bytes :=
  (Sha256.hash message.identifyingBytes).take 20

end GossipMessage

/-- A message as it goes from node to node, with what is told of who sent it and under which number.
No topic is so long that its length takes more than eight bytes. -/
structure GossipPacket extends GossipMessage where
  source : Option PeerId
  sequence : Option UInt64
  announced : (Bytes.ofString topic).length < UInt64.size
  deriving DecidableEq

/-- How a node takes part in gossip. Spans are in milliseconds. -/
structure GossipParameters where
  heartbeat : Nat
  fanoutLife : Nat
  /-- Messages that are seen again within this span are dropped. -/
  duplicateLife : Nat
  historyLength : Nat
  historyGossip : Nat
  meshSize : Nat
  meshLow : Nat
  meshHigh : Nat
  lazyPeers : Nat
  /-- The most bytes of a message on the wire. -/
  transmitLimit : Nat
  deriving DecidableEq, Repr

def GossipParameters.standard : GossipParameters where
  heartbeat := 1000
  fanoutLife := 60000
  duplicateLife := 120000
  historyLength := 5
  historyGossip := 3
  meshSize := 6
  meshLow := 4
  meshHigh := 12
  lazyPeers := 6
  transmitLimit := GossipMessage.standardLimit

end GossipNames
