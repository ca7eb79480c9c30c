import GossipNames.Path
import GossipNames.Key.PeerId

/-! What can be wrong with a name record or with the keys that belong to it, and why a value that is
received is not accepted. -/

namespace GossipNames

inductive RecordError where
  | wire (error : Wire.Error)
  | path (error : PathError)
  | validity (text : String)
  | validityType (code : Int)
  | signing (error : SigningError)
  | peerId (text : String) (error : PeerIdError)
  | datastoreKey (text : String)
  deriving DecidableEq

def RecordError.message : RecordError → String
  | .wire error => "failed to decode record: " ++ error.message
  | .path error => error.message
  | .validity text => "invalid validity timestamp " ++ Text.quote text
  | .validityType code => s!"unknown validity type {code}"
  | .signing error => "failed to sign record: " ++ error.message
  | .peerId text error => "invalid peer id: " ++ text ++ ": " ++ error.message
  | .datastoreKey text => "invalid datastore key " ++ Text.quote text

inductive Rejection where
  | malformed (error : RecordError)
  | empty
  | badSignature
  | expired
  | staleSequence (received cached : UInt64)
  | unsubscribed
  | keyMismatch
  | unknownKey
  | unsupportedKey
  deriving DecidableEq

def Rejection.message : Rejection → String
  | .malformed error => "malformed record: " ++ error.message
  | .empty => "empty message"
  | .badSignature => "bad signature"
  | .expired => "record already expired"
  | .staleSequence received cached => s!"sequence {received} is not newer than cached {cached}"
  | .unsubscribed => "no active subscription"
  | .keyMismatch => "public key does not belong to the peer id"
  | .unknownKey => "public key of the name is unknown"
  | .unsupportedKey => "routing key outside the name namespaces"

/-- The name under which a rejection is counted. -/
def Rejection.label : Rejection → String
  | .malformed _ | .empty => "malformed"
  | .badSignature => "bad_signature"
  | .expired => "expired"
  | .staleSequence .. => "stale_sequence"
  | .unsubscribed => "unsubscribed"
  | .keyMismatch => "key_mismatch"
  | .unknownKey => "unknown_key"
  | .unsupportedKey => "unsupported_key"

end GossipNames
