import GossipNames.Record.Store
import GossipNames.Gossip.Topic

/-! Publishing records by announcing them on the topics of their identities. -/

namespace GossipNames

/-- A record that is kept and still to be broadcast. -/
structure Announcement where
  topic : String
  record : NameRecord
  deriving DecidableEq

structure GossipPublisher where
  /-- The topics whose other participants have been looked for. -/
  bootstrapped : List String
  closed : Bool
  deriving DecidableEq, Repr

namespace GossipPublisher

def empty : GossipPublisher where
  bootstrapped := []
  closed := false

def shutdown (publisher : GossipPublisher) : GossipPublisher :=
  { publisher with closed := true }

/-- Issues the record to announce, unless the publisher is shut down. -/
def prepare [SignatureScheme] (publisher : GossipPublisher) (faults : StoreFaults)
    (store : Datastore) (key : Keypair) (value : Path) (endOfLife : Timestamp) :
    Datastore × Except NameError Announcement :=
  if publisher.closed then (store, .error .closed)
  else
    let (store, issued) := RecordStore.issue faults store key value endOfLife
    (store, issued.map fun record => { topic := Name.topic key.peerId, record })

/-- The first announcement on a topic waits until its other participants have been looked for; the
topic counts as bootstrapped from then on. -/
def claim? (publisher : GossipPublisher) (topic : String) : Option GossipPublisher :=
  if topic ∈ publisher.bootstrapped then none
  else some { publisher with bootstrapped := topic :: publisher.bootstrapped }

end GossipPublisher

/-- Broadcasts a record. -/
def Announcement.broadcast {m : Type → Type} [Monad m]
    (publish : String → Bytes → m (Except String Unit)) (announcement : Announcement) :
    m (Except NameError Unit) := do
  return (← publish announcement.topic announcement.record.toBytes).mapError .gossip

end GossipNames
