import GossipNames.Keystore.Name
import GossipNames.Record.Error

/-! What can go wrong when names are published, resolved and followed. -/

namespace GossipNames

/-- Why the public key of a peer is not known. -/
inductive KeyFault where
  | noValueStore
  | notPublished
  | mismatch
  | notListed
  | refused (reason : String)
  deriving DecidableEq, Repr

def KeyFault.message : KeyFault → String
  | .noValueStore => "key is not inlined and no value store is configured"
  | .notPublished => "no public key published"
  | .mismatch => "published public key does not match peer id"
  | .notListed => "key not listed"
  | .refused reason => reason

inductive NameError where
  | notFound (name : String)
  | invalidName (name : String) (reason : RecordError)
  | invalidPath (reason : PathError)
  | record (reason : RecordError)
  | badSignature (name : String)
  | publicKey (peer : PeerId) (fault : KeyFault)
  | store (reason : String)
  | keystore (reason : KeystoreError)
  | gossip (reason : String)
  | routing (reason : String)
  | depthExceeded (name : String)
  | alreadyFollowing (name : String)
  | notFollowing (name : String)
  | closed
  /-- The last record carries the highest sequence number there is. This is not an error that a call
  returns: it stands for the panic of the addition that overflows, in a build that checks additions. -/
  | sequenceExhausted
  deriving DecidableEq

def NameError.message : NameError → String
  | .notFound name => "name not found: " ++ name
  | .invalidName name reason => "invalid name " ++ Text.quote name ++ ": " ++ reason.message
  | .invalidPath reason => reason.message
  | .record reason => "invalid record: " ++ reason.message
  | .badSignature name => "record for " ++ name ++ " failed signature verification"
  | .publicKey peer fault =>
    "public key of " ++ peer.toString ++ " unavailable: " ++ fault.message
  | .store reason => "record store: " ++ reason
  | .keystore reason => "keystore: " ++ reason.fullMessage
  | .gossip reason => "pubsub: " ++ reason
  | .routing reason => "routing: " ++ reason
  | .depthExceeded name => "resolution of " ++ name ++ " exceeded the depth limit"
  | .alreadyFollowing name => "already following " ++ name
  | .notFollowing name => "unknown name " ++ name
  | .closed => "name system is shut down"
  | .sequenceExhausted => "attempt to add with overflow"

/-- Only then may another resolver know the name. -/
def NameError.isNotFound : NameError → Bool
  | .notFound _ => true
  | _ => false

end GossipNames
