import GossipNames.Simulation.Work

/-! Running scripts. -/

namespace GossipNames.Simulation

private def orFailed {α : Type} (reply : α → Reply) : Except NameError α → Reply
  | .ok value => reply value
  | .error error => .failed (.name error)

/-- Begins a publication. Through the value store it is over at once; the announcement of a record
may have to wait for the bootstrap of its topic. -/
private def beginCall (key : Keypair) (value : Path) (route : PublishRoute)
    (endOfLife : Timestamp) (call : Nat) : Act Unit := do
  let world ← get
  match route with
  | .gossip =>
    let (store, prepared) :=
      world.publisher.prepare world.storeFaults world.store key value endOfLife
    modify ({ · with store })
    match prepared with
    | .error error => modify (·.answerCall call "pubsub" (.error error))
    | .ok announcement =>
      match world.publisher.claim? announcement.topic with
      | none => announce call announcement
      | some publisher =>
        modify ({ · with publisher })
        meet announcement.topic (.announcement call announcement)
  | .values =>
    let (store, issued) := RecordStore.issue world.storeFaults world.store key value endOfLife
    modify ({ · with store })
    let result ← match issued with
      | .error error => pure (.error error)
      | .ok record => putRecord putValue key record
    modify (·.answerCall call "routing" result)

private def publishStep (key : Keypair) (value : Path) (route : PublishRoute)
    (endOfLife : Option Timestamp) (copies : Nat) : Act Reply := do
  let world ← get
  let endOfLife :=
    endOfLife.getD (endOfLifeAfter world.wallClock world.setup.recordTtlSeconds 0)
  modify ({ · with calls := List.replicate copies none })
  for call in List.range copies do beginCall key value route endOfLife call
  modify (·.await (·.calls.all (·.isSome)))
  let errors := (← get).calls.filterMap fun
    | some (.error error) => some error
    | _ => none
  return match errors with
    | error :: _ => .failed (.name error)
    | [] => .done "published"

private def resolveStep (name : String) (route : ResolveRoute) (depth : Option Nat)
    (once : Bool) : Act Reply := do
  let setup := (← get).setup
  let standardDepth := match route with
    | .system => setup.depthLimit
    | _ => Config.standard.depthLimit.toNat
  let single := once ∨ route = .values ∧ depth = none
  let answer ←
    if single then (hopOfRoute route name).run
    else resolve (hopOfRoute route) (depth.getD standardDepth) name
  return match answer with
    | none => .failed .silence
    | some result => orFailed (.path ∘ some) result

private def cancelStep (name : String) : Act Reply := do
  let (resolver, found) ← (← get).resolver.unsubscribe reportSubscriptions name
  if found then
    modify fun world =>
      let isOpen (topic : String) : Bool := resolver.subscriptions.contains topic
      let world := { world with resolver, streams := world.streams.filter isOpen }
      world.unschedule fun
        | .meet _ (.subscription topic) | .endSearch { purpose := .subscription topic, .. }
        | .endDials { purpose := .subscription topic, .. } => !isOpen topic
        | _ => false
  return .flag found

private def World.stopSubscriptions (world : World) : World :=
  { world with streams := [] }.unschedule fun
    | .meet _ (.subscription _) | .endSearch { purpose := .subscription _, .. }
    | .endDials { purpose := .subscription _, .. } => true
    | _ => false

private def World.shutdown (part : Part) (world : World) : World :=
  match part with
  | .publisher => { world with publisher := world.publisher.shutdown }
  | .resolver => { world with resolver := world.resolver.shutdown }.stopSubscriptions
  | .follows => { world with follows := world.follows.shutdown }

/-- All parts are built anew over the same stores; only a started republisher goes on. -/
private def World.restart (world : World) : World :=
  let world := { world with
    publisher := .empty, resolver := .empty, follows := .empty, streams := [] }
  world.unschedule fun
    | .republish _ => false
    | _ => true

private def bootstrapStep (topic : String) : Act Reply := do
  modify ({ · with report := none })
  meet topic .report
  modify (·.await (·.report.isSome))
  return match (← get).report with
    | some report => .report report
    | none => .failed .silence

private def putRecordStep (key : Keypair) (bytes : Bytes) : Act Reply := do
  match NameRecord.ofBytes bytes with
  | .error error => return .failed (.record error)
  | .ok record => return orFailed (fun () => .done "put") (← putRecord putValue key record)

private def storePutStep (peer : PeerId) (bytes : Bytes) : Act Reply := do
  match NameRecord.ofBytes bytes with
  | .error error => return .failed (.record error)
  | .ok record =>
    let world ← get
    match RecordStore.put world.storeFaults world.store peer record with
    | .error error => return .failed (.name error)
    | .ok store =>
      set { world with store }
      return .done "stored"

private def storeIssueStep (key : Keypair) (value : Path) (life : Life) : Act Reply := do
  let world ← get
  let endOfLife := match life with
    | .until time => time
    | .seconds span => endOfLifeAfter world.wallClock span 0
  let (store, issued) := RecordStore.issue world.storeFaults world.store key value endOfLife
  set { world with store }
  return orFailed (.record ∘ some) issued

private def storeRawStep (peer : PeerId) (content : Option Bytes) : Act Reply := do
  let world ← get
  match content with
  | some bytes =>
    set { world with store := world.store.put (.ofPeer peer) bytes }
    return .done "stored"
  | none =>
    let (store, found) := Datastore.delete world.store (.ofPeer peer)
    set { world with store }
    return .flag found

private def keystorePutStep (name : String) (key : Keypair) : Act Reply := do
  let world ← get
  let keepWith (keystore : Keystore) : Except KeystoreError Unit → Act Reply
    | .error error => return .failed (.keystore error)
    | .ok () => do
      set { world with keystore := some keystore }
      return .done "stored"
  match world.keystore with
  | none => return .failed .silence
  | some (.memory keys) =>
    match keys.put name key with
    | .error error => keepWith (.memory keys) (.error error)
    | .ok keys => keepWith (.memory keys) (.ok ())
  | some (.directory keys) =>
    let (keys, result) := keys.put name key
    keepWith (.directory keys) result

private def keystoreFileStep (name : String) (content : Bytes) : Act Reply := do
  let world ← get
  if let some (.directory keys) := world.keystore then
    set { world with keystore := some (.directory (keys.place name (.file content))) }
  return .done "written"

private def followStep (name : String) : Act Reply := do
  let world ← get
  match world.follows.follow name with
  | .error error => return .failed (.name error)
  | .ok follows =>
    let standard := Config.standard.followInterval.toNat * 1000
    let period := usablePeriod world.setup.followPeriod standard
    let ticker := Ticker.now world.instant (period * 1000000)
    let job := Job.follow name world.follows.nextId ticker
    set ({ world with follows }.schedule world.elapsed job)
    return .done "following"

private def startRepublisher (world : World) : World :=
  let standard := Config.standard.republishInterval.toNat * 1000
  let period := usablePeriod world.setup.republishPeriod standard
  match Ticker.later? world.instant (period * 1000000) with
  | none => world
  | some ticker => world.schedule (World.tickTime ticker) (.republish ticker)

private def withPath (value : String) (next : Path → Act Reply) : Act Reply :=
  match Path.parse value with
  | .error error => return .failed (.path error)
  | .ok path => next path

private def doneAfter (word : String) (change : World → World) : Act Reply := do
  modify change
  return .done word

private def begin : Step → Act Reply
  | .publish key value route endOfLife copies =>
    withPath value fun path => publishStep key path route endOfLife copies
  | .resolve name route depth once => resolveStep name route depth once
  | .deliver topic messages => do
    let counts ← messages.mapM fun message => modifyGet fun world =>
      let (world, listeners) := world.deliver topic message
      (listeners, world)
    return .counts counts
  | .closeTopic topic =>
    doneAfter "closed" fun world => { world with streams := world.streams.filter (· ≠ topic) }
  | .subscriptions => return .names (← get).resolver.topics
  | .cancel name => cancelStep name
  | .shutdown part => doneAfter "shut down" (·.shutdown part)
  | .provider topic peer =>
    doneAfter "added" fun world =>
      { world with providers := world.providers ++ [(.ofTopic topic, peer)] }
  | .peer peer mode =>
    doneAfter "set" fun world => { world with modes := world.modes.put peer mode }
  | .bootstrap topic => bootstrapStep topic
  | .valueGet key => return .bytes ((← get).localValues.get? key)
  | .valueSet key value =>
    doneAfter "set" fun world =>
      { world with
        localValues := match value with
          | some value => world.localValues.put key value
          | none => world.localValues.erase key }
  | .valueRemote key value =>
    doneAfter "added" fun world =>
      { world with remoteValues := world.remoteValues ++ [(key, value)] }
  | .putRecord key record => putRecordStep key record
  | .storeGet peer => do
    let world ← get
    return orFailed .record (RecordStore.last? world.storeFaults world.store peer)
  | .storeSequence peer => do
    let world ← get
    return orFailed .sequence (RecordStore.lastSequence world.storeFaults world.store peer)
  | .storePut peer record => storePutStep peer record
  | .storeIssue key value life => withPath value fun path => storeIssueStep key path life
  | .storeRaw peer content => storeRawStep peer content
  | .keystorePut name key => keystorePutStep name key
  | .keystoreFile name content => keystoreFileStep name content
  | .republish => return orFailed .count (← republishAll)
  | .startRepublisher => doneAfter "started" startRepublisher
  | .stopRepublisher => do
    modify (·.unschedule fun | .republish _ => true | _ => false)
    return .flag true
  | .table name answer =>
    doneAfter "set" fun world =>
      { world with
        answers := match answer with
          | some answer => world.answers.put name answer
          | none => world.answers.erase name }
  | .follow name => followStep name
  | .unfollow name => do
    let world ← get
    match world.follows.unfollow name with
    | .error error => return .failed (.name error)
    | .ok follows => doneAfter "unfollowed" ({ · with follows })
  | .follows => return .names (← get).follows.names
  | .current name => return .path ((← get).follows.current? name)
  | .advance span => doneAfter "advanced" (·.advance span)
  | .fail capability on =>
    doneAfter "set" fun world =>
      { world with
        failing := world.failing.filter (· ≠ capability) ++ (if on then [capability] else []) }
  | .restart => doneAfter "restarted" (·.restart)
  | .metrics => do
    let world ← get
    return .names (if world.setup.counted then world.metrics.sampleLines else [])

/-- Does one step, and everything that follows from it without time passing. -/
def World.step (step : Step) (world : World) : World × Outcome :=
  let (reply, world) := (begin step).run { world with events := [] }
  let world := world.settle
  (world, { reply, elapsed := world.elapsed, events := world.events.reverse })

private def runFrom (world : World) : List Step → List Outcome
  | [] => []
  | step :: rest =>
    let (world, outcome) := world.step step
    outcome :: runFrom world rest

/-- Runs a script on a node that is set up anew. -/
def run (setup : Setup) (steps : List Step) : List Outcome :=
  runFrom (.ofSetup setup) steps

end GossipNames.Simulation
