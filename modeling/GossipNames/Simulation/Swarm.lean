import GossipNames.Gossip.Fanout
import GossipNames.Gossip.Payload
import GossipNames.Metrics
import GossipNames.Gossip.Topic
import GossipNames.Network.Peers
import GossipNames.ValueStore.Publication

/-! One node of the network on its own, or two that are linked to each other. -/

namespace GossipNames.Simulation

structure SwarmNode where
  peer : PeerId
  peers : Peers
  fanout : Fanout
  values : ValueSlots
  provided : List RendezvousKey

/-- The other node, when there is one, is linked to this one. -/
structure Swarm where
  now : Timestamp
  node : SwarmNode
  other : Option SwarmNode
  /-- The messages that went over the link. -/
  passed : List Bytes

inductive SwarmFault where
  | notMet
  | noNode
  deriving DecidableEq, Repr

def SwarmFault.message : SwarmFault → String
  | .notMet => "nodes did not meet"
  | .noNode => "no such node"

inductive SwarmStep where
  | peers
  | connect (peer : PeerId)
  | subscribe (topic : String)
  | publish (topic : String) (data : Bytes)
  | provide (topic : String)
  | find (topic : String) (limit : Nat)
  | put (key value : Bytes)
  | get (key : Bytes)
  /-- The second node listens to what the first one says. -/
  | exchange (topic : String) (messages : List Bytes)

inductive SwarmReply where
  | result (result : Except String Unit)
  | peers (states : List (PeerId × ConnectionState)) (gauge : String)
  | providers (peers : List PeerId)
  | values (values : List Bytes)
  | exchanged (published : List (Except String Unit)) (received : List Bytes)

namespace Swarm

private def nodeOf (key : Keypair) : SwarmNode where
  peer := key.peerId
  peers := .empty 0 (some 0)
  fanout := .empty
  values := .empty
  provided := []

private def SwarmNode.meet (node : SwarmNode) (peer : PeerId) : SwarmNode :=
  { node with peers := (node.peers.established peer).1 }

/-- Sets up the nodes of one or two keys. Two have to meet first; the second may also have tried to
dial the first under a wrong name. -/
def start (now : Timestamp) (keys : List Keypair) (imposter : Option PeerId) (linked : Bool) :
    Except SwarmFault Swarm :=
  match keys with
  | [key] => .ok { now, node := nodeOf key, other := none, passed := [] }
  | [key, otherKey] =>
    if !linked then .error .notMet
    else
      let node := SwarmNode.meet (nodeOf key) otherKey.peerId
      let other := SwarmNode.meet (nodeOf otherKey) key.peerId
      let other := match imposter with
        | some peer => { other with peers := (other.peers.dialFailed (some peer) false "").1 }
        | none => other
      .ok { now, node, other := some other, passed := [] }
  | _ => .error .noNode

/-- The same nodes in the other order. -/
private def swap (swarm : Swarm) : Option Swarm := do
  return { swarm with node := ← swarm.other, other := some swarm.node }

private def subscribe (topic : String) (swarm : Swarm) : Swarm :=
  let (fanout, _) := swarm.node.fanout.subscribe topic 0 (.ok ())
  { swarm with node := { swarm.node with fanout } }

/-- Sends a message to the other node if that listens, and gives what arrives there. What was sent
before is not sent again. -/
private def publish (topic : String) (data : Bytes) (swarm : Swarm) :
    Swarm × Except String Unit × Option Bytes :=
  let message : GossipMessage := { topic, data }
  match message.compress? with
  | none => (swarm, .error "publish failed: TransformFailed", none)
  | some wire =>
    let listens := swarm.other.any fun other => topic ∈ other.fanout.joined
    if GossipParameters.standard.transmitLimit < wire.data.length then
      (swarm, .error "publish failed: MessageTooLarge", none)
    else if !listens || swarm.passed.contains message.id then (swarm, .ok (), none)
    else
      let arrived := (wire.restore GossipMessage.standardLimit).toOption.map (·.data)
      ({ swarm with passed := message.id :: swarm.passed }, .ok (), arrived)

/-- The most bytes of a value that a node keeps. -/
private def valueLimit : Nat := 65536

/-- The most bytes of a value and its key that fit a message, whose other fields are small. -/
private def sendLimit : Nat := 16384 - 64

private def put (key value : Bytes) (swarm : Swarm) : Swarm × Except String Unit :=
  if valueLimit < value.length then (swarm, .error "put value failed: ValueTooLarge")
  else
    let node := { swarm.node with values := swarm.node.values.put key value }
    match swarm.other with
    | none => ({ swarm with node }, .error "put value failed: QuorumFailed")
    | some other =>
      if sendLimit < 2 * key.length + value.length then
        ({ swarm with node }, .error "put value failed: QuorumFailed")
      else
        let (values, _) := other.values.storeInbound swarm.now key value
        ({ swarm with node, other := some { other with values } }, .ok ())

private def exchange (topic : String) (swarm : Swarm) :
    List Bytes → Swarm × List (Except String Unit) × List Bytes
  | [] => (swarm, [], [])
  | message :: rest =>
    let (swarm, result, arrived) := swarm.publish topic message
    let (swarm, results, others) := exchange topic swarm rest
    (swarm, result :: results, arrived.toList ++ others)

private def describePeers (swarm : Swarm) : SwarmReply :=
  let peers := swarm.node.peers
  let states := peers.states.entries.mergeSort fun first second =>
    decide (first.1.toString ≤ second.1.toString)
  .peers states ((Metrics.zero.withPeers (peers.gauge.getD 0)).sampleLines.getLast?.getD "")

private def knownProviders (key : RendezvousKey) (swarm : Swarm) : List PeerId :=
  (swarm.node :: swarm.other.toList).filterMap fun node =>
    if key ∈ node.provided then some node.peer else none

/-- Acts on the first node. -/
private def act (step : SwarmStep) (swarm : Swarm) : Swarm × SwarmReply :=
  match step with
  | .peers => (swarm, swarm.describePeers)
  | .connect peer =>
    let isConnected := swarm.node.peers.states.get? peer = some .connected
    (swarm, .result (if isConnected then .ok () else .error "dial failed"))
  | .subscribe topic => (swarm.subscribe topic, .result (.ok ()))
  | .publish topic data =>
    let (swarm, result, _) := swarm.publish topic data
    (swarm, .result result)
  | .provide topic =>
    let provided := RendezvousKey.ofTopic topic :: swarm.node.provided
    ({ swarm with node := { swarm.node with provided } }, .result (.ok ()))
  | .find topic limit =>
    let found := (swarm.knownProviders (.ofTopic topic)).take limit
    (swarm, .providers (found.mergeSort fun first second =>
      decide (first.toString ≤ second.toString)))
  | .put key value =>
    let (swarm, result) := swarm.put key value
    (swarm, .result result)
  | .get key =>
    let nodes := swarm.node :: swarm.other.toList
    (swarm, .values (nodes.filterMap fun node => node.values.get? key).eraseDups)
  | .exchange topic messages =>
    let swarm := ((swarm.swap.map (·.subscribe topic)).bind (·.swap)).getD swarm
    let (swarm, published, received) := swarm.exchange topic messages
    (swarm, .exchanged published received)

/-- Does one step on the first or the second node. -/
def step (onSecond : Bool) (step : SwarmStep) (swarm : Swarm) : Swarm × SwarmReply :=
  if !onSecond then swarm.act step
  else
    match swarm.swap with
    | none => (swarm, .result (.error SwarmFault.noNode.message))
    | some swapped =>
      let (swapped, reply) := swapped.act step
      (swapped.swap.getD swapped, reply)

end Swarm

end GossipNames.Simulation
