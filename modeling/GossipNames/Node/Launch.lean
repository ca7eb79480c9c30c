import GossipNames.Config
import GossipNames.Gossip.Publisher
import GossipNames.Name.Follows
import GossipNames.Network.Address
import GossipNames.Node.Options

/-! Starting a node: its settings, identity and stores are read from files, and a first path may be
published. -/

namespace GossipNames

inductive FileContent where
  | bytes (content : Bytes)
  /-- A file that holds the records a node has issued. -/
  | records (store : Datastore)
  | directory
  deriving DecidableEq

abbrev Files := Table String FileContent

namespace Files

def bytes? (files : Files) (path : String) : Option Bytes :=
  match files.get? path with
  | some (.bytes content) => some content
  | _ => none

/-- The records in a file that holds some; an empty file holds none. -/
def records? (files : Files) (path : String) : Option Datastore :=
  match files.get? path with
  | some (.records store) => some store
  | some (.bytes []) => some Datastore.empty
  | _ => none

/-- What stands before the last slash of a path. -/
def parent? (path : String) : Option String :=
  match path.toList.reverse.dropWhile (· ≠ '/') with
  | [] => none
  | _ :: lead => some (String.ofList lead.reverse)

/-- A file can be created where there is a directory. -/
def canCreate (files : Files) (path : String) : Bool :=
  (parent? path).all fun parent => parent = "" || files.get? parent = some .directory

end Files

inductive LaunchError where
  | config (error : ConfigError)
  | readingIdentity (path : String)
  | decodingIdentity (path : String)
  | writingIdentity (path : String)
  | network (address : IpAddress)
  | openingRecords (path : String)
  | notRecords
  | creatingKeystore (path : String)
  | publish (error : PathError)
  deriving DecidableEq

def LaunchError.message : LaunchError → String
  | .config error => error.message
  | .readingIdentity path => "reading identity " ++ Text.quote path
  | .decodingIdentity path => "decoding identity " ++ Text.quote path
  | .writingIdentity path => "writing identity " ++ Text.quote path
  | .network _ => "Failed to create network service"
  | .openingRecords path => "unable to open database file: " ++ path
  | .notRecords => "file is not a database"
  | .creatingKeystore path => "failed to create keystore " ++ path
  | .publish error => error.message

/-- What a node finds where it is started. -/
structure Machine where
  now : Timestamp
  /-- The identity of a node that has none yet. -/
  fresh : Keypair
  listens : IpAddress → Bool

/-- A node that is up, and the names it follows. -/
structure LaunchedNode where
  identity : Keypair
  config : Config
  bootnodes : List Address
  follows : Follows

namespace NodeOptions

/-- The paths at which a start looks for files, and those of the directories around new ones. -/
def paths (options : NodeOptions) : List String :=
  let created := options.identity.toList ++ options.datastore.toList
  options.config.toList ++ created ++ options.keystore.toList ++ options.bootnodes
    ++ created.filterMap Files.parent?

private def readConfig (files : Files) (options : NodeOptions) : Except LaunchError Config :=
  match options.config with
  | none => .ok .standard
  | some path =>
    let content := (files.bytes? path).bind (·.toString?)
    (Config.ofFile path content).mapError .config

variable [SignatureScheme]

/-- Reads the identity from its file, which is created when it is missing. -/
private def loadIdentity (files : Files) (fresh : Keypair) (options : NodeOptions) :
    Files × Except LaunchError Keypair :=
  match options.identity with
  | none => (files, .ok fresh)
  | some path =>
    match files.get? path with
    | none =>
      if files.canCreate path then (files.put path (.bytes fresh.encode), .ok fresh)
      else (files, .error (.writingIdentity path))
    | some .directory => (files, .error (.readingIdentity path))
    | some (.records _) => (files, .error (.decodingIdentity path))
    | some (.bytes content) =>
      (files, (Keypair.decode content).mapError fun _ => .decodingIdentity path)

/-- Opens the file of records; a missing or empty one holds none. -/
private def openRecords (files : Files) (options : NodeOptions) : Except LaunchError Datastore :=
  match options.datastore with
  | none => .ok Datastore.empty
  | some path =>
    match files.get? path with
    | none => if files.canCreate path then .ok Datastore.empty else .error (.openingRecords path)
    | some .directory => .error (.openingRecords path)
    | some _ => (files.records? path).elim (.error .notRecords) .ok

private def saveRecords (files : Files) (options : NodeOptions) (store : Datastore) : Files :=
  match options.datastore with
  | none => files
  | some path => files.put path (.records store)

private def openKeystore (files : Files) (options : NodeOptions) : Except LaunchError Files :=
  match options.keystore with
  | none => .ok files
  | some path =>
    match files.get? path with
    | none => .ok (files.put path .directory)
    | some .directory => .ok files
    | some _ => .error (.creatingKeystore path)

/-- Issues a record for the path that is to be published. A record that cannot be issued does not
keep the node from starting. -/
private def publishFirst (now : Timestamp) (identity : Keypair) (config : Config)
    (store : Datastore) (options : NodeOptions) : Except LaunchError Datastore := do
  let some text := options.publish | return store
  let value ← (Path.parse text).mapError .publish
  let endOfLife := endOfLifeAfter now config.recordTtl.toNat 0
  return (GossipPublisher.empty.prepare .none store identity value endOfLife).1

private def followAll (names : List String) : Follows :=
  names.foldl (fun follows name => (follows.follow name).toOption.getD follows) .empty

private def openNetwork (machine : Machine) (files : Files) (options : NodeOptions) :
    Except LaunchError (List Address) :=
  if machine.listens options.address then
    let readFile? (path : String) : Option String := (files.bytes? path).bind (·.toString?)
    .ok (Bootnodes.ofArguments readFile? options.bootnodes)
  else .error (.network options.address)

private def launchSteps (machine : Machine) (options : NodeOptions) :
    ExceptT LaunchError (StateM Files) LaunchedNode := do
  let config ← readConfig (← get) options
  let (files, identity) := loadIdentity (← get) machine.fresh options
  set files
  let identity ← identity
  let bootnodes ← openNetwork machine (← get) options
  let store ← openRecords (← get) options
  set (saveRecords (← get) options store)
  set (← openKeystore (← get) options)
  let store ← publishFirst machine.now identity config store options
  set (saveRecords (← get) options store)
  return { identity, config, bootnodes, follows := followAll options.watch }

/-- Starts a node. The files are as the start leaves them, also when it fails. -/
def launch (machine : Machine) (files : Files) (options : NodeOptions) :
    Except LaunchError LaunchedNode × Files :=
  StateT.run (ExceptT.run (launchSteps machine options)) files

/-- The node follows the last name it is to watch, which it has not been told to watch before. -/
def followsLast (options : NodeOptions) : Bool :=
  match options.watch.reverse with
  | [] => false
  | last :: earlier => last ∉ earlier

end NodeOptions

end GossipNames
