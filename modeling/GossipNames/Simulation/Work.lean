import GossipNames.Simulation.Resolving
import GossipNames.ValueStore.Republisher

/-! The work of a simulated node that takes time: bootstraps, follows and republishing. -/

namespace GossipNames.Simulation

namespace World

/-- Ends a publication of the present step. -/
def answerCall (call : Nat) (transport : String) (result : Except NameError Unit)
    (world : World) : World :=
  let world := { world with calls := world.calls.set call (some result) }
  match result with
  | .ok () => world.count (.publish transport "ok")
  | .error .sequenceExhausted => world
  | .error _ => world.count (.publish transport "error")

end World

def announce (call : Nat) (announcement : Announcement) : Act Unit := do
  let result ← announcement.broadcast publish
  modify (·.answerCall call "pubsub" result)

/-- What was waiting for the bootstrap goes on. -/
private def afterMeeting (purpose : Purpose) (bootstrap : Bootstrap) : Act Unit := do
  match purpose with
  | .subscription _ => return
  | .announcement call announcement => announce call announcement
  | .report => modify ({ · with report := some bootstrap.report })

private def join (succeeded : Bool) (bootstrap : Bootstrap) : Act Bootstrap := do
  modify (·.count (.bootstrapConnection (if succeeded then "ok" else "error")))
  return bootstrap.join succeeded

/-- The dials that hang have run out of time. -/
def endDials (meeting : Meeting) : Act Unit := do
  let bootstrap ← (List.replicate meeting.hanging false).foldlM (fun bootstrap succeeded =>
    join succeeded bootstrap) meeting.bootstrap
  afterMeeting meeting.purpose bootstrap

/-- Joins the dials that are over. -/
def endSearch (meeting : Meeting) : Act Unit := do
  let bootstrap ← meeting.outcomes.foldlM (fun bootstrap succeeded => join succeeded bootstrap)
    meeting.bootstrap.endSearch
  let meeting := { meeting with bootstrap }
  if meeting.hanging = 0 ∨ meeting.dialsEnd ≤ (← get).elapsed then endDials meeting
  else modify (·.schedule meeting.dialsEnd (.endDials meeting))

/-- Announces the node on a topic, searches for others and dials them. -/
def meet (topic : String) (purpose : Purpose) : Act Unit := do
  let key := RendezvousKey.ofTopic topic
  let provided ← provide key
  let found ← find key
  let world ← get
  let setup := world.setup
  let start := Bootstrap.start provided.isOk
  let bootstrap := match found with
    | .error _ => start.endSearch
    | .ok peers => peers.foldl (Bootstrap.discover world.localPeer setup.providerLimit) start
  for peer in bootstrap.dialed do modify (·.log (.connect peer))
  let modes := bootstrap.dialed.map fun peer => (world.modes.get? peer).getD .reachable
  let meeting : Meeting := {
    purpose, bootstrap
    outcomes := (modes.filter (· ≠ .hanging)).map (· = .reachable)
    hanging := modes.count .hanging
    dialsEnd := world.elapsed + setup.connectTimeout }
  if bootstrap.searching ∧ .findEnd ∈ world.failing then
    modify (·.schedule (world.elapsed + setup.findTimeout) (.endSearch meeting))
  else if bootstrap.dialed.isEmpty then endSearch meeting
  else modify (·.schedule world.elapsed (.endSearch meeting))

private def followAt (name : String) (id : Nat) (ticker : Ticker) : Act Unit :=
  modify (·.schedule (World.tickTime ticker) (.follow name id ticker))

/-- Resolves a followed name at its tick. When no answer comes, the follow waits for its time to
run out. -/
def followTick (name : String) (id : Nat) (ticker : Ticker) : Act Unit := do
  let world ← get
  if !world.follows.isActive name id then return
  let some ticker := ticker.next? world.instant | return
  match ← resolve systemHop world.setup.depthLimit name with
  | some result =>
    modify fun world => { world with follows := world.follows.resolved id (some result) }
    followAt name id ticker
  | none =>
    modify (·.schedule (world.elapsed + world.setup.followTimeout) (.stopWaiting name id ticker))

def stopWaiting (name : String) (id : Nat) (ticker : Ticker) : Act Unit := do
  if (← get).follows.isActive name id then
    modify fun world => { world with follows := world.follows.resolved id none }
    followAt name id ticker

/-- Makes the keys of a keystore unreadable when that is to fail. -/
private def Keystore.keyring (failing : List Capability) (keystore : Keystore) : Keyring :=
  let keyring := match keystore with
    | .memory keys => keys.keyring
    | .directory keys => keys.keyring
  { names :=
      if .keystoreList ∈ failing then .error (.refused "keystore_list refused")
      else keyring.names
    key := fun name =>
      if .keystoreGet ∈ failing then .error (.refused "keystore_get refused")
      else keyring.key name
    ascending := by
      intro names listed
      split at listed
      · cases listed
      · exact keyring.ascending names listed }

/-- The end of life of a record that is put back now. -/
private def renewedEndOfLife : Act Timestamp := do
  let world ← get
  return endOfLifeAfter world.wallClock world.setup.lifetimeSeconds 0

/-- One cycle of republishing. -/
def republishAll : Act (Except NameError Nat) := do
  let world ← get
  let last? := RecordStore.last? world.storeFaults world.store
  let keyring := world.keystore.map (·.keyring world.failing)
  let result ← (republish putValue last? renewedEndOfLife world.setup.identity keyring).run
  modify (·.count (.republish (if result.isOk then "ok" else "error")))
  return result

def republishTick (ticker : Ticker) : Act Unit := do
  let some next := ticker.next? (← get).instant | return
  let _ ← republishAll
  modify (·.schedule (World.tickTime next) (.republish next))

def perform : Job → Act Unit
  | .meet topic purpose => meet topic purpose
  | .endSearch meeting => endSearch meeting
  | .endDials meeting => endDials meeting
  | .follow name id ticker => followTick name id ticker
  | .stopWaiting name id ticker => stopWaiting name id ticker
  | .republish ticker => republishTick ticker

namespace World

/-- Keeps appointments until `stop` holds or none is due by `limit`; the clock moves on to each.
`fuel` bounds their number. -/
def work (stop : World → Bool) (limit : Option Nat) : (fuel : Nat) → World → World
  | 0, world => world
  | fuel + 1, world =>
    if stop world then world
    else
      match world.agenda with
      | [] => world
      | appointment :: rest =>
        if limit.all (appointment.due ≤ ·) then
          let world := {
            world with agenda := rest, elapsed := max world.elapsed appointment.due }
          work stop limit fuel ((perform appointment.job).run world).2
        else world

/-- No script keeps a node busy for longer. -/
private def stamina : Nat := Nat.pow 2 40

/-- Lets everything happen that takes no time. -/
def settle (world : World) : World :=
  world.work (fun _ => false) (some world.elapsed) stamina

/-- Lets time pass. -/
def advance (span : Nat) (world : World) : World :=
  let limit := world.elapsed + span
  { world.work (fun _ => false) (some limit) stamina with elapsed := limit }

/-- Lets time pass as long as something is waited for. -/
def await (isOver : World → Bool) (world : World) : World :=
  world.work isOver none stamina

end World

end GossipNames.Simulation
