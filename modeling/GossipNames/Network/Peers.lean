import GossipNames.Network.Address
import GossipNames.Table

/-! Which peers a node is connected to, and the requests that wait for a connection. -/

namespace GossipNames

inductive ConnectionState where
  | disconnected
  | connecting
  | connected
  deriving DecidableEq, Repr

def ConnectionState.label : ConnectionState → String
  | .disconnected => "disconnected"
  | .connecting => "connecting"
  | .connected => "connected"

/-- The answer to a request for a connection; requests are known by their numbers. -/
structure ConnectReply where
  request : Nat
  result : Except String Unit

structure Peers where
  states : Table PeerId ConnectionState
  waiting : Table PeerId (List Nat)
  /-- How many peers are connected, as last reported. -/
  count : Nat
  /-- The same number as the metrics show it, when there are metrics. -/
  gauge : Option Nat
  deriving DecidableEq

namespace Peers

/-- The count and the gauge may stand at anything until a peer changes its state. -/
def empty (count : Nat) (gauge : Option Nat) : Peers where
  states := .empty
  waiting := .empty
  count
  gauge

def connectedCount (states : Table PeerId ConnectionState) : Nat :=
  (states.entries.filter fun entry => entry.2 = .connected).length

def setState (peers : Peers) (peer : PeerId) (state : ConnectionState) : Peers :=
  let states := peers.states.put peer state
  let count := connectedCount states
  { peers with states, count, gauge := peers.gauge.map fun _ => count }

/-- The requests that wait for a connection to the peer. -/
def pending (peers : Peers) (peer : PeerId) : List Nat :=
  (peers.waiting.get? peer).getD []

def answerWaiting (peers : Peers) (peer : PeerId) (result : Except String Unit) :
    Peers × List ConnectReply :=
  ({ peers with waiting := peers.waiting.erase peer },
    (peers.pending peer).map fun request => { request, result })

/-- A connection is asked for. A peer that is being dialed already is not dialed again; `dial` is
what dialing it comes to at once. -/
def connect (peers : Peers) (peer : PeerId) (request : Nat) (isConnected : Bool)
    (dial : Except String Unit) : Peers × List ConnectReply :=
  if isConnected then (peers, [{ request, result := .ok () }])
  else
    match peers.waiting.get? peer with
    | some requests =>
      ({ peers with waiting := peers.waiting.put peer (requests ++ [request]) }, [])
    | none =>
      match dial with
      | .error reason => (peers, [{ request, result := .error ("dial failed: " ++ reason) }])
      | .ok () =>
        let peers := peers.setState peer .connecting
        ({ peers with waiting := peers.waiting.put peer [request] }, [])

/-- Whether the peer is neither connected nor being dialed. -/
def isIdle (peers : Peers) (peer : PeerId) : Bool :=
  (peers.states.get? peer).all (· = .disconnected)

/-- A bootnode is dialed when it is idle; `dials` tells whether that gets under way. -/
def dialBootnode (localPeer : PeerId) (peers : Peers) (address : Address) (dials : Bool) : Peers :=
  match address.peer? with
  | none => peers
  | some peer =>
    if peer ≠ localPeer ∧ peers.isIdle peer ∧ dials then peers.setState peer .connecting else peers

/-- From time to time the bootnodes are dialed again, one after the other. -/
def dialBootnodes (localPeer : PeerId) (bootnodes : List (Address × Bool)) (peers : Peers) : Peers :=
  bootnodes.foldl (fun peers (address, dials) => peers.dialBootnode localPeer address dials) peers

def established (peers : Peers) (peer : PeerId) : Peers × List ConnectReply :=
  (peers.setState peer .connected).answerWaiting peer (.ok ())

/-- One connection to the peer is closed; others may remain. -/
def closed (peers : Peers) (peer : PeerId) (remaining : Nat) : Peers :=
  if remaining = 0 then peers.setState peer .disconnected else peers

/-- A dial failed, perhaps before it was known to whom. -/
def dialFailed (peers : Peers) (peer? : Option PeerId) (isConnected : Bool) (reason : String) :
    Peers × List ConnectReply :=
  match peer? with
  | none => (peers, [])
  | some peer =>
    let peers := if isConnected then peers else peers.setState peer .disconnected
    peers.answerWaiting peer (.error ("dial failed: " ++ reason))

end Peers

end GossipNames
