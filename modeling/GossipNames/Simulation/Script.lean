import GossipNames.Gossip.Bootstrap
import GossipNames.Keystore.Directory
import GossipNames.Keystore.Memory
import GossipNames.Name.Error
import GossipNames.Gossip.Topic
import GossipNames.Record.Basic

/-! Scripts for a node among simulated peers: how it is set up, the steps that happen to it, and
what comes of them. -/

namespace GossipNames.Simulation

/-- What the network and the stores of a node do for it, and what can be made to fail. `findEnd` is
the end of a search for providers, `putPublicKey` the putting of public keys alone. -/
inductive Capability where
  | subscribe | publish | provide | find | findEnd | get | put | putPublicKey
  | storeGet | storePut | keystoreList | keystoreGet
  deriving DecidableEq, Repr

inductive PeerMode where
  | reachable
  | unreachable
  | hanging
  deriving DecidableEq, Repr

/-- What a fixed table of names answers. -/
inductive TableAnswer where
  | path (text : String)
  | closed
  | hang
  deriving DecidableEq, Repr

/-- Where public keys that are not part of a peer id come from. -/
inductive KeyOrigin where
  | values
  | nowhere
  | listed (keys : List (PeerId × PublicKey))

inductive ResolverKind where
  | table
  | gossip
  | values
  deriving DecidableEq, Repr

inductive Keystore where
  | memory (keys : MemoryKeystore)
  | directory (keys : KeyDirectory)

/-- A node and its surroundings. Spans are in milliseconds where they are not in seconds. -/
structure Setup where
  start : Timestamp
  identity : Keypair
  keystore : Option Keystore
  counted : Bool
  recordTtlSeconds : Nat
  lifetimeSeconds : Nat
  republishPeriod : Nat
  findTimeout : Nat
  connectTimeout : Nat
  providerLimit : Nat
  depthLimit : Nat
  followPeriod : Nat
  followTimeout : Nat
  resolvers : List ResolverKind
  keyOrigin : KeyOrigin

inductive PublishRoute where
  | gossip
  | values
  deriving DecidableEq, Repr

inductive ResolveRoute where
  | system
  | gossip
  | values
  deriving DecidableEq, Repr

inductive Part where
  | publisher
  | resolver
  | follows
  deriving DecidableEq, Repr

/-- The end of life of a new record, or the seconds until then. -/
inductive Life where
  | until (time : Timestamp)
  | seconds (span : Nat)

inductive Step where
  | publish (key : Keypair) (value : String) (route : PublishRoute)
      (endOfLife : Option Timestamp) (copies : Nat)
  | resolve (name : String) (route : ResolveRoute) (depth : Option Nat) (once : Bool)
  | deliver (topic : String) (messages : List Bytes)
  | closeTopic (topic : String)
  | subscriptions
  | cancel (name : String)
  | shutdown (part : Part)
  | provider (topic : String) (peer : PeerId)
  | peer (peer : PeerId) (mode : PeerMode)
  | bootstrap (topic : String)
  | valueGet (key : Bytes)
  | valueSet (key : Bytes) (value : Option Bytes)
  | valueRemote (key value : Bytes)
  | putRecord (key : Keypair) (record : Bytes)
  | storeGet (peer : PeerId)
  | storeSequence (peer : PeerId)
  | storePut (peer : PeerId) (record : Bytes)
  | storeIssue (key : Keypair) (value : String) (life : Life)
  | storeRaw (peer : PeerId) (content : Option Bytes)
  | keystorePut (name : String) (key : Keypair)
  | keystoreFile (name : String) (content : Bytes)
  | republish
  | startRepublisher
  | stopRepublisher
  | table (name : String) (answer : Option TableAnswer)
  | follow (name : String)
  | unfollow (name : String)
  | follows
  | current (name : String)
  | advance (span : Nat)
  | fail (capability : Capability) (on : Bool)
  | restart
  | metrics

/-- Something that was asked of the surroundings. -/
inductive Event where
  | subscribe (topic : String)
  | publish (topic : String) (message : Bytes)
  | provide (key : RendezvousKey)
  | find (key : RendezvousKey) (limit : Nat)
  | connect (peer : PeerId)
  | get (key : Bytes)
  | put (key value : Bytes)
  | key (peer : PeerId)
  | table (name : String)

inductive Failure where
  | name (error : NameError)
  | path (error : PathError)
  | record (error : RecordError)
  | keystore (error : KeystoreError)
  /-- An answer that never comes. -/
  | silence

inductive Reply where
  | done (word : String)
  | flag (value : Bool)
  | count (value : Nat)
  | counts (values : List Nat)
  | sequence (number : UInt64)
  | path (value : Option Path)
  | bytes (value : Option Bytes)
  | record (value : Option NameRecord)
  | names (values : List String)
  | report (value : BootstrapReport)
  | failed (failure : Failure)

/-- The reply to a step, the milliseconds since the start, and what was asked meanwhile. -/
structure Outcome where
  reply : Reply
  elapsed : Nat
  events : List Event

end GossipNames.Simulation
