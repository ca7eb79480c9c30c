import GossipNames.Encoding.Base32
import GossipNames.Hash.Sha256
import GossipNames.Record.Error
import GossipNames.Text.Reading

/-! Names of identities, the gossip topics that carry their records, and the keys under which the
participants of a topic find each other. -/

namespace GossipNames

namespace Name

def lead : String := "/ipns/"

/-- The topic on which an identity's records are announced; it is also the full form of its name. -/
def topic (peer : PeerId) : String :=
  lead ++ peer.toString

/-- A name is a peer id, with or without the leading part of a topic. -/
def parse (name : String) : Except RecordError PeerId :=
  let id := (Text.after? lead name).getD name
  (PeerId.parse id).mapError (.peerId id)

end Name

inductive TopicError where
  | notOfName (topic : String)
  | identity (error : RecordError)
  deriving DecidableEq

def TopicError.message : TopicError → String
  | .notOfName topic => "topic " ++ Text.quote topic ++ " is not a name topic"
  | .identity error => error.message

/-- The identity whose records are announced on a topic. -/
def Name.ofTopic (topic : String) : Except TopicError PeerId :=
  if (Text.after? Name.lead topic).isNone then .error (.notOfName topic)
  else (Name.parse topic).mapError .identity

structure RendezvousKey where
  bytes : Bytes
  deriving DecidableEq, Repr

namespace RendezvousKey

/-- What marks the topic of a rendezvous. -/
def lead : String := "floodsub:"

/-- A version 1 content identifier of raw bytes, with the SHA-256 digest of the marked topic. -/
def ofTopic (topic : String) : RendezvousKey where
  bytes := [0x01, 0x55, 0x12, 0x20] ++ Sha256.hash (Bytes.ofString (lead ++ topic))

/-- Lower-case base 32 behind the letter that announces it. -/
def text (key : RendezvousKey) : String :=
  "b" ++ String.ofList ((Base32.encode key.bytes).toList.map Char.toLower)

end RendezvousKey

end GossipNames
