import GossipNames.Key.PeerId

/-! Meeting the other participants of a topic: announce, search for providers, dial them. -/

namespace GossipNames

structure BootstrapReport where
  provided : Bool
  providers : Nat
  connected : Nat
  failed : Nat
  deriving DecidableEq, Repr

/-- How the dial of a provider ends. -/
inductive DialEnd where
  | connected
  | failed
  | timedOut
  | panicked
  deriving DecidableEq

def DialEnd.succeeded : DialEnd → Bool
  | .connected => true
  | .failed | .timedOut | .panicked => false

/-- How far a bootstrap has come. -/
structure Bootstrap where
  provided : Bool
  searching : Bool
  /-- The peers dialed so far, in order. -/
  dialed : List PeerId
  connected : Nat
  failed : Nat
  deriving DecidableEq

namespace Bootstrap

/-- The search begins whether or not the announcement was taken. -/
def start (provided : Bool) : Bootstrap where
  provided
  searching := true
  dialed := []
  connected := 0
  failed := 0

/-- A provider that the search yields is dialed, unless it is the local peer. One more than the
limit ends the search. -/
def discover (localPeer : PeerId) (limit : Nat) (bootstrap : Bootstrap) (peer : PeerId) :
    Bootstrap :=
  if !bootstrap.searching ∨ peer = localPeer then bootstrap
  else if limit ≤ bootstrap.dialed.length then { bootstrap with searching := false }
  else { bootstrap with dialed := bootstrap.dialed ++ [peer] }

/-- The search has come to an end, failed or run out of time. -/
def endSearch (bootstrap : Bootstrap) : Bootstrap :=
  { bootstrap with searching := false }

/-- One of the dials is over. -/
def join (bootstrap : Bootstrap) (succeeded : Bool) : Bootstrap :=
  if succeeded then { bootstrap with connected := bootstrap.connected + 1 }
  else { bootstrap with failed := bootstrap.failed + 1 }

/-- The search and all dials are over. -/
def isFinished (bootstrap : Bootstrap) : Bool :=
  !bootstrap.searching ∧ bootstrap.connected + bootstrap.failed = bootstrap.dialed.length

def report (bootstrap : Bootstrap) : BootstrapReport where
  provided := bootstrap.provided
  providers := bootstrap.dialed.length
  connected := bootstrap.connected
  failed := bootstrap.failed

end Bootstrap

end GossipNames
