import GossipNames.Name.Error
import GossipNames.Record.Validation
import GossipNames.Table
import GossipNames.Gossip.Topic

/-! Resolving names from the records announced on their topics. The first look-up of a name
subscribes to its topic; from then on the newest valid record that is announced there answers. -/

namespace GossipNames

/-- A topic that is listened to: the key its records are signed with, and the best one so far. -/
structure Subscription where
  publicKey : PublicKey
  record : Option NameRecord
  deriving DecidableEq

structure GossipResolver where
  subscriptions : Table String Subscription
  closed : Bool
  deriving DecidableEq

namespace GossipResolver

def empty : GossipResolver where
  subscriptions := .empty
  closed := false

/-- The identity that is asked for. -/
def locate (resolver : GossipResolver) (name : String) : Except NameError PeerId :=
  if resolver.closed then .error .closed
  else (Name.parse name).mapError (.invalidName name)

def subscribed (resolver : GossipResolver) (topic : String) (publicKey : PublicKey) :
    GossipResolver :=
  { resolver with
    subscriptions := resolver.subscriptions.put topic { publicKey, record := none } }

/-- Answers from what was announced so far. A record found to be expired is given up. -/
def answer (resolver : GossipResolver) (now : Timestamp) (topic : String) :
    GossipResolver × Except NameError Path :=
  match resolver.subscriptions.get? topic with
  | none | some { record := none, .. } => (resolver, .error (.notFound topic))
  | some { publicKey, record := some record } =>
    if record.isExpired now then (resolver.subscribed topic publicKey, .error (.notFound topic))
    else (resolver, .ok record.value)

section

variable {m : Type → Type} [Monad m] (fetchKey : PeerId → m (Except KeyFault PublicKey))
  (subscribe : String → m (Except String Unit)) (now : Timestamp) (resolver : GossipResolver)

/-- Looks an identity up. Only one that is not subscribed to needs its public key and its topic. -/
def lookupPeer (peer : PeerId) : m (GossipResolver × Except NameError Path) := do
  let topic := Name.topic peer
  if resolver.subscriptions.contains topic then return resolver.answer now topic
  match ← fetchKey peer with
  | .error fault => return (resolver, .error (.publicKey peer fault))
  | .ok publicKey =>
    match ← subscribe topic with
    | .error reason => return (resolver, .error (.gossip reason))
    | .ok () => return (resolver.subscribed topic publicKey).answer now topic

def lookup (name : String) : m (GossipResolver × Except NameError Path) :=
  match resolver.locate name with
  | .error error => return (resolver, .error error)
  | .ok peer => lookupPeer fetchKey subscribe now resolver peer

variable (report : Nat → m Unit)

/-- Subscribes to a topic that is not listened to yet, and reports how many are from then on. -/
def join (topic : String) : m (Except String Unit) := do
  match ← subscribe topic with
  | .error reason => return .error reason
  | .ok () =>
    report (resolver.subscriptions.size + 1)
    return .ok ()

/-- Looks a name up, and reports the number of subscriptions if there is another one then. -/
def resolveOnce (name : String) : m (GossipResolver × Except NameError Path) :=
  lookup fetchKey (join subscribe resolver report) now resolver name

end

/-- The topics listened to, in order. -/
def topics (resolver : GossipResolver) : List String :=
  resolver.subscriptions.keys.mergeSort fun first second => decide (first ≤ second)

/-- Ends the subscription of a name and tells whether there was one. -/
def cancel (resolver : GossipResolver) (name : String) : GossipResolver × Bool :=
  match Name.parse name with
  | .error _ => (resolver, false)
  | .ok peer =>
    let topic := Name.topic peer
    if resolver.subscriptions.contains topic then
      ({ resolver with subscriptions := resolver.subscriptions.erase topic }, true)
    else (resolver, false)

/-- Ends the subscription of a name, and reports how many are left. -/
def unsubscribe {m : Type → Type} [Monad m] (resolver : GossipResolver) (report : Nat → m Unit)
    (name : String) : m (GossipResolver × Bool) := do
  let (resolver, found) := resolver.cancel name
  if found then report resolver.subscriptions.size
  return (resolver, found)

/-- Nothing is looked up or received any more. -/
def shutdown (resolver : GossipResolver) : GossipResolver :=
  { resolver with closed := true }

variable [SignatureScheme]

/-- Takes a message that came in on a topic. A record has to be valid and newer than the one it
replaces. -/
def receive (resolver : GossipResolver) (now : Timestamp) (topic : String) (message : Bytes) :
    GossipResolver × Except Rejection UInt64 :=
  match resolver.subscriptions.get? topic with
  | none => (resolver, .error .unsubscribed)
  | some subscription =>
    match validateRecord subscription.publicKey now message with
    | .error rejection => (resolver, .error rejection)
    | .ok record =>
      match subscription.record.filter fun cached => record.sequence ≤ cached.sequence with
      | some cached => (resolver, .error (.staleSequence record.sequence cached.sequence))
      | none =>
        let subscription := { subscription with record := some record }
        ({ resolver with subscriptions := resolver.subscriptions.put topic subscription },
          .ok record.sequence)

end GossipResolver

end GossipNames
