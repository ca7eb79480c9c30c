import GossipNames.Gossip.Publisher
import GossipNames.Gossip.Resolver
import GossipNames.Metrics
import GossipNames.Name.Follows
import GossipNames.Simulation.Script
import GossipNames.Time.Schedule

/-! A node together with the simulated network and stores it lives on. -/

namespace GossipNames.Simulation

/-- What waits for a bootstrap to be over. -/
inductive Purpose where
  | subscription (topic : String)
  | announcement (call : Nat) (announcement : Announcement)
  | report

/-- A bootstrap under way. Its dials that are over are joined once the search has ended; the
hanging ones are over at `dialsEnd`. -/
structure Meeting where
  purpose : Purpose
  bootstrap : Bootstrap
  outcomes : List Bool
  hanging : Nat
  dialsEnd : Nat

/-- Something to do at a later time. -/
inductive Job where
  | meet (topic : String) (purpose : Purpose)
  | endSearch (meeting : Meeting)
  | endDials (meeting : Meeting)
  | follow (name : String) (id : Nat) (ticker : Ticker)
  | stopWaiting (name : String) (id : Nat) (ticker : Ticker)
  | republish (ticker : Ticker)

structure Appointment where
  due : Nat
  job : Job

structure World where
  setup : Setup
  elapsed : Nat
  /-- What was asked since the last reply, last first. -/
  events : List Event
  failing : List Capability
  /-- The topics of the open streams of messages. -/
  streams : List String
  providers : List (RendezvousKey × PeerId)
  provided : List RendezvousKey
  modes : Table PeerId PeerMode
  localValues : Table Bytes Bytes
  remoteValues : List (Bytes × Bytes)
  answers : Table String TableAnswer
  store : Datastore
  keystore : Option Keystore
  metrics : Metrics
  publisher : GossipPublisher
  resolver : GossipResolver
  follows : Follows
  /-- Appointments in the order in which they are kept. -/
  agenda : List Appointment
  /-- The results of the publications of the present step. -/
  calls : List (Option (Except NameError Unit))
  report : Option BootstrapReport

namespace World

def ofSetup (setup : Setup) : World where
  setup
  elapsed := 0
  events := []
  failing := []
  streams := []
  providers := []
  provided := []
  modes := .empty
  localValues := .empty
  remoteValues := []
  answers := .empty
  store := Datastore.empty
  keystore := setup.keystore
  metrics := .zero
  publisher := .empty
  resolver := .empty
  follows := .empty
  agenda := []
  calls := []
  report := none

/-- The calendar time. -/
def wallClock (world : World) : Timestamp :=
  world.setup.start.after (world.elapsed / 1000) (world.elapsed % 1000 * 1000000)

/-- The reading of the steady clock. -/
def instant (world : World) : Instant :=
  (Instant.zero.after? (world.elapsed * 1000000)).getD .zero

def localPeer (world : World) : PeerId :=
  world.setup.identity.peerId

def log (event : Event) (world : World) : World :=
  { world with events := event :: world.events }

def count (tally : Tally) (world : World) : World :=
  if world.setup.counted then { world with metrics := world.metrics.increment tally } else world

def noteSubscriptions (count : Nat) (world : World) : World :=
  if world.setup.counted then
    { world with metrics := { world.metrics with subscriptions := count } }
  else world

private def enter (appointment : Appointment) : List Appointment → List Appointment
  | [] => [appointment]
  | first :: rest =>
    if first.due ≤ appointment.due then first :: enter appointment rest
    else appointment :: first :: rest

/-- Puts a job on the agenda, behind those of the same time. Nothing is due in the past. -/
def schedule (due : Nat) (job : Job) (world : World) : World :=
  { world with agenda := enter { due := max due world.elapsed, job } world.agenda }

def unschedule (drops : Job → Bool) (world : World) : World :=
  { world with agenda := world.agenda.filter fun appointment => !drops appointment.job }

/-- The milliseconds at which a tick is due. -/
def tickTime (ticker : Ticker) : Nat :=
  (ticker.due.nanos / 1000000).toNat

def storeFaults (world : World) : StoreFaults where
  reading := if .storeGet ∈ world.failing then some "store_get refused" else none
  writing := if .storePut ∈ world.failing then some "store_put refused" else none

/-- Hands a message to the open streams of its topic and says how many there are. -/
def deliver (topic : String) (message : Bytes) (world : World) : World × Nat :=
  let listeners := world.streams.count topic
  let receive (world : World) : World :=
    let (resolver, result) := world.resolver.receive world.wallClock topic message
    let outcome := match result with
      | .ok _ => "accepted"
      | .error rejection => rejection.label
    { world with resolver }.count (.gossipUpdate outcome)
  (listeners.repeat receive world, listeners)

end World

/-! What the surroundings do when they are asked. -/

abbrev Act := StateM World

def refusal (capability : Capability) (reason : String) : Act (Except String Unit) := do
  return if capability ∈ (← get).failing then .error (reason ++ " refused") else .ok ()

def subscribe (topic : String) : Act (Except String Unit) := do
  modify (·.log (.subscribe topic))
  match ← refusal .subscribe "subscribe" with
  | .error reason => return .error reason
  | .ok () =>
    modify fun world => { world with streams := topic :: world.streams }
    return .ok ()

def reportSubscriptions (count : Nat) : Act Unit :=
  modify (·.noteSubscriptions count)

def publish (topic : String) (message : Bytes) : Act (Except String Unit) := do
  modify (·.log (.publish topic message))
  match ← refusal .publish "publish" with
  | .error reason => return .error reason
  | .ok () =>
    modify fun world => (world.deliver topic message).1
    return .ok ()

def provide (key : RendezvousKey) : Act (Except String Unit) := do
  modify (·.log (.provide key))
  match ← refusal .provide "provide" with
  | .error reason => return .error reason
  | .ok () =>
    modify fun world => { world with provided := key :: world.provided }
    return .ok ()

/-- The registered providers in order, then the local peer if it announced itself. -/
def find (key : RendezvousKey) : Act (Except String (List PeerId)) := do
  modify fun world => world.log (.find key world.setup.providerLimit)
  match ← refusal .find "find" with
  | .error reason => return .error reason
  | .ok () =>
    let world ← get
    let registered := world.providers.filterMap fun (other, peer) =>
      if other = key then some peer else none
    return .ok (registered ++ (if key ∈ world.provided then [world.localPeer] else []))

/-- The remote values in order, then the local one. -/
def getValues (key : Bytes) : Act (Except String (List Bytes)) := do
  modify (·.log (.get key))
  match ← refusal .get "get" with
  | .error reason => return .error reason
  | .ok () =>
    let world ← get
    let remote := world.remoteValues.filterMap fun (other, value) =>
      if other = key then some value else none
    return .ok (remote ++ (world.localValues.get? key).toList)

def putValue (key value : Bytes) : Act (Except String Unit) := do
  modify (·.log (.put key value))
  match ← refusal .put "put" with
  | .error reason => return .error reason
  | .ok () =>
    let ofPublicKey := RoutingKey.publicKeyLead.isPrefixOf key
    match ← if ofPublicKey then refusal .putPublicKey "put_pk" else pure (.ok ()) with
    | .error reason => return .error reason
    | .ok () =>
      modify fun world => { world with localValues := world.localValues.put key value }
      return .ok ()

end GossipNames.Simulation
