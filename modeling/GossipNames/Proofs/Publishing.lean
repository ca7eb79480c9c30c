import GossipNames.Gossip.Publisher
import GossipNames.ValueStore.Publication

/-! Publications under way at the same time. They share one store and take turns at issuing: from
reading the last sequence number until the next record is kept nobody else issues. Everything after
that happens in any order, and everything but the store is lost when the node starts again. -/

namespace GossipNames

/-- By one of the gossip publishers, or into the shared value store. -/
inductive Route where
  | gossip (publisher : Nat)
  | values
  deriving DecidableEq, Repr

structure PublishRequest where
  route : Route
  key : Keypair
  value : Path
  endOfLife : Timestamp

inductive PublishStage where
  | waiting
  /-- It is this publication's turn to issue. -/
  | holding
  /-- It still is, and the next record is signed but not kept. -/
  | signed (record : NameRecord)
  | meeting (announcement : Announcement)
  | announcing (announcement : Announcement)
  | putting (puts : List (Bytes × Bytes))
  | over (result : Except NameError Unit)

def PublishStage.hasTurn : PublishStage → Bool
  | .holding | .signed _ => true
  | _ => false

/-- What is left to do for a record that is kept. -/
def PublishRequest.afterIssue [SignatureScheme] (request : PublishRequest) (record : NameRecord) :
    PublishStage :=
  match request.route with
  | .gossip _ => .meeting { topic := Name.topic request.key.peerId, record }
  | .values => .putting (valuePuts request.key record)

structure PublishCall where
  request : PublishRequest
  stage : PublishStage

/-- The publications of a node by number, and what has come of them since its store was empty or
was taken over. -/
structure Publishing where
  store : Datastore
  publishers : Nat → GossipPublisher
  turn : Option Nat
  calls : Table Nat PublishCall
  /-- The records that were kept, in order. -/
  kept : List (PeerId × NameRecord)
  /-- The searches for other participants that were begun: by whom and on which topic. -/
  bootstraps : List (Nat × String)
  broadcasts : List (String × Bytes)
  puts : List (Bytes × Bytes)

namespace Publishing

inductive Event where
  | call (id : Nat) (request : PublishRequest)
  | takeTurn (id : Nat)
  | sign (id : Nat) (faults : StoreFaults)
  | keep (id : Nat) (faults : StoreFaults)
  | meet (id : Nat)
  | announce (id : Nat) (reply : Except String Unit)
  | put (id : Nat) (reply : Except String Unit)
  /-- Nobody waits for the publication any more. -/
  | abandon (id : Nat)
  | shutdown (publisher : Nat)
  | restart

def start (store : Datastore) : Publishing where
  store
  publishers := fun _ => .empty
  turn := none
  calls := .empty
  kept := []
  bootstraps := []
  broadcasts := []
  puts := []

/-- A publication goes on to another stage. -/
def advance (node : Publishing) (id : Nat) (request : PublishRequest) (stage : PublishStage) :
    Publishing :=
  { node with calls := node.calls.put id { request, stage } }

def call (node : Publishing) (id : Nat) (request : PublishRequest) : Publishing :=
  if node.calls.contains id then node
  else
    match request.route with
    | .gossip publisher =>
      if (node.publishers publisher).closed then node.advance id request (.over (.error .closed))
      else node.advance id request .waiting
    | .values => node.advance id request .waiting

/-- Only one publication at a time has the turn. -/
def takeTurn (node : Publishing) (id : Nat) : Publishing :=
  match node.calls.get? id, node.turn with
  | some { request, stage := .waiting }, none =>
    { node.advance id request .holding with turn := some id }
  | _, _ => node

def meet (node : Publishing) (id : Nat) : Publishing :=
  match node.calls.get? id with
  | some { request, stage := .meeting announcement } =>
    let node := node.advance id request (.announcing announcement)
    match request.route with
    | .values => node
    | .gossip number =>
      match (node.publishers number).claim? announcement.topic with
      | none => node
      | some publisher =>
        { node with
          publishers := fun other => if other = number then publisher else node.publishers other
          bootstraps := node.bootstraps ++ [(number, announcement.topic)] }
  | _ => node

/-- An attempt that is written down whatever comes of it. -/
private def attempt {α : Type} (reply : Except String Unit) (item : α) :
    StateM (List α) (Except String Unit) := do
  modify (· ++ [item])
  return reply

def announce (node : Publishing) (id : Nat) (reply : Except String Unit) : Publishing :=
  match node.calls.get? id with
  | some { request, stage := .announcing announcement } =>
    let (result, broadcasts) :=
      (announcement.broadcast fun topic message => attempt reply (topic, message)).run
        node.broadcasts
    { node.advance id request (.over result) with broadcasts }
  | _ => node

def put (node : Publishing) (id : Nat) (reply : Except String Unit) : Publishing :=
  match node.calls.get? id with
  | some { request, stage := .putting [] } => node.advance id request (.over (.ok ()))
  | some { request, stage := .putting (first :: rest) } =>
    let (result, puts) :=
      (putValues (fun key value => attempt reply (key, value)) [first]).run node.puts
    match result with
    | .ok () => { node.advance id request (.putting rest) with puts }
    | .error error => { node.advance id request (.over (.error error)) with puts }
  | _ => node

/-- The turn of an abandoned publication is over. -/
def abandon (node : Publishing) (id : Nat) : Publishing :=
  { node with
    calls := node.calls.erase id
    turn := if node.turn = some id then none else node.turn }

def shutdown (node : Publishing) (number : Nat) : Publishing :=
  { node with
    publishers := fun other =>
      if other = number then (node.publishers number).shutdown else node.publishers other }

/-- The store is opened again, and nothing else is left of the node. -/
def restart (node : Publishing) : Publishing :=
  { start node.store with
    kept := node.kept, bootstraps := node.bootstraps, broadcasts := node.broadcasts,
    puts := node.puts }

variable [SignatureScheme]

def sign (node : Publishing) (id : Nat) (faults : StoreFaults) : Publishing :=
  match node.calls.get? id with
  | some { request, stage := .holding } =>
    match RecordStore.next faults node.store request.key request.value request.endOfLife with
    | .ok record => node.advance id request (.signed record)
    | .error error => { node.advance id request (.over (.error error)) with turn := none }
  | _ => node

def keep (node : Publishing) (id : Nat) (faults : StoreFaults) : Publishing :=
  match node.calls.get? id with
  | some { request, stage := .signed record } =>
    match RecordStore.put faults node.store request.key.peerId record with
    | .ok store =>
      { node.advance id request (request.afterIssue record) with
        store, turn := none, kept := node.kept ++ [(request.key.peerId, record)] }
    | .error error => { node.advance id request (.over (.error error)) with turn := none }
  | _ => node

def step (node : Publishing) : Event → Publishing
  | .call id request => node.call id request
  | .takeTurn id => node.takeTurn id
  | .sign id faults => node.sign id faults
  | .keep id faults => node.keep id faults
  | .meet id => node.meet id
  | .announce id reply => node.announce id reply
  | .put id reply => node.put id reply
  | .abandon id => node.abandon id
  | .shutdown publisher => node.shutdown publisher
  | .restart => node.restart

def run (node : Publishing) (events : List Event) : Publishing :=
  events.foldl step node

end Publishing

end GossipNames
