import GossipNames.ValueStore.Resolver
import GossipNames.Simulation.World

/-! How a simulated node resolves names. -/

namespace GossipNames.Simulation

def fetchKey (peer : PeerId) : Act (Except KeyFault PublicKey) := do
  modify (·.log (.key peer))
  match (← get).setup.keyOrigin with
  | .values => fetchPublicKey (some getValues) peer
  | .nowhere => fetchPublicKey none peer
  | .listed keys =>
    match keys.lookup peer with
    | some key => return .ok key
    | none => return .error .notListed

/-- The name under which a look-up is counted. -/
private def lookupLabel : Except NameError Path → String
  | .ok _ => "hit"
  | .error error => if error.isNotFound then "not_found" else "error"

/-- A new subscription sets off the bootstrap of its topic in the background. -/
def gossipHop : Hop Act := fun name => do
  let world ← get
  let (resolver, result) ←
    world.resolver.resolveOnce fetchKey subscribe world.wallClock reportSubscriptions name
  let topics := resolver.topics.filter (· ∉ world.resolver.topics)
  modify ({ · with resolver })
  for topic in topics do
    modify fun world => world.schedule world.elapsed (.meet topic (.subscription topic))
  modify (·.count (.resolve (lookupLabel result)))
  return result

def valuesHop : Hop Act := fun name => do
  resolveFromValues getValues fetchKey (← get).wallClock name

/-- Some names of the table are never answered. -/
def tableHop : Hop (OptionT Act) := fun name => do
  modify (·.log (.table name))
  match (← get).answers.get? name with
  | none => return .error (.notFound name)
  | some (.path text) => return (Path.parse text).mapError .invalidPath
  | some .closed => return .error .closed
  | some .hang => failure

private def always (hop : Hop Act) : Hop (OptionT Act) := fun name => OptionT.lift (hop name)

def hopOf : ResolverKind → Hop (OptionT Act)
  | .table => tableHop
  | .gossip => always gossipHop
  | .values => always valuesHop

def systemHop : Hop (OptionT Act) := fun name => do
  Hop.firstOf ((← get).setup.resolvers.map hopOf) name

def hopOfRoute : ResolveRoute → Hop (OptionT Act)
  | .system => systemHop
  | .gossip => always gossipHop
  | .values => always valuesHop

/-- No chain of names in a script is longer. -/
private def patience : Nat := 10000

/-- Resolves a name over several hops; `none` when no answer comes. -/
def resolve (hop : Hop (OptionT Act)) (depth : Nat) (name : String) :
    Act (Option (Except NameError Path)) := do
  return (← (hop.resolve patience depth name).run).join

end GossipNames.Simulation
