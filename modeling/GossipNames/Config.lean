import GossipNames.Time.Schedule
import GossipNames.Time.Timestamp
import GossipNames.Yaml.Parser

/-! Settings of a name system. Times are in seconds. -/

namespace GossipNames

structure Config where
  recordTtl : UInt64
  republishInterval : UInt64
  recordLifetime : UInt64
  bootstrapFindTimeout : UInt64
  bootstrapConnectTimeout : UInt64
  bootstrapProviderLimit : UInt64
  depthLimit : UInt64
  followInterval : UInt64
  followResolveTimeout : UInt64
  deriving DecidableEq, Repr

inductive ConfigError where
  | malformed
  | zeroRepublishInterval
  | zeroFollowInterval
  | unreadable (file : String)
  deriving DecidableEq, Repr

def ConfigError.message : ConfigError → String
  | .malformed => "invalid name system config"
  | .zeroRepublishInterval => "republish_interval_secs must be greater than zero"
  | .zeroFollowInterval => "follow_interval_secs must be greater than zero"
  | .unreadable file => "failed to read config " ++ file

namespace Config

def standard : Config where
  recordTtl := 86400
  republishInterval := 14400
  recordLifetime := 86400
  bootstrapFindTimeout := 10
  bootstrapConnectTimeout := 10
  bootstrapProviderLimit := 10
  depthLimit := 32
  followInterval := 3600
  followResolveTimeout := 60

structure Field where
  name : String
  get : Config → UInt64
  set : Config → UInt64 → Config

/-- The fields in the order in which they are written. -/
def fields : List Field := [
  ⟨"record_ttl_secs", (·.recordTtl), fun config value => { config with recordTtl := value }⟩,
  ⟨"republish_interval_secs", (·.republishInterval),
    fun config value => { config with republishInterval := value }⟩,
  ⟨"record_lifetime_secs", (·.recordLifetime),
    fun config value => { config with recordLifetime := value }⟩,
  ⟨"bootstrap_find_timeout_secs", (·.bootstrapFindTimeout),
    fun config value => { config with bootstrapFindTimeout := value }⟩,
  ⟨"bootstrap_connect_timeout_secs", (·.bootstrapConnectTimeout),
    fun config value => { config with bootstrapConnectTimeout := value }⟩,
  ⟨"bootstrap_provider_limit", (·.bootstrapProviderLimit),
    fun config value => { config with bootstrapProviderLimit := value }⟩,
  ⟨"depth_limit", (·.depthLimit), fun config value => { config with depthLimit := value }⟩,
  ⟨"follow_interval_secs", (·.followInterval),
    fun config value => { config with followInterval := value }⟩,
  ⟨"follow_resolve_timeout_secs", (·.followResolveTimeout),
    fun config value => { config with followResolveTimeout := value }⟩]

/-- Both intervals drive timers and must not be zero. -/
def validate (config : Config) : Except ConfigError Unit :=
  if config.republishInterval = 0 then .error .zeroRepublishInterval
  else if config.followInterval = 0 then .error .zeroFollowInterval
  else .ok ()

/-- Unknown names are passed over; a known one may come once. -/
private def readEntries? (config : Config) (seen : List String) :
    List (Yaml.Node × Yaml.Node) → Option Config
  | [] => some config
  | (key, value) :: rest => do
    let name ← key.text?
    match fields.find? (·.name = name) with
    | none => readEntries? config seen rest
    | some field =>
      if name ∈ seen then none
      else readEntries? (field.set config (← value.number?)) (name :: seen) rest

private def ofNode? (node : Yaml.Node) : Option Config :=
  match node with
  | .mapping entries => readEntries? standard [] entries
  | _ => if node.isNull then some standard else none

/-- Fields that are not given have their standard values. -/
def ofYaml (text : String) : Except ConfigError Config := do
  let some config := (Yaml.parse? text).bind ofNode? | throw .malformed
  config.validate
  return config

/-- Reads the content of a file, when there is one and it is text. -/
def ofFile (file : String) (content : Option String) : Except ConfigError Config :=
  match content with
  | none => .error (.unreadable file)
  | some text => ofYaml text

def toYaml (config : Config) : String :=
  String.join (fields.map fun field => s!"{field.name}: {field.get config}\n")

/-- The distance between ticks, in nanoseconds. -/
def period (get : Config → UInt64) (config : Config) : Nat :=
  usablePeriod ((get config).toNat * 1000000000) ((get standard).toNat * 1000000000)

/-- The ticks of republishing, of which the first is one interval after the start. -/
def republishTicker? (config : Config) (start : Instant) : Option Ticker :=
  Ticker.later? start (config.period (·.republishInterval))

/-- The ticks of a follow, which begin with the start. -/
def followTicker (config : Config) (start : Instant) : Ticker :=
  Ticker.now start (config.period (·.followInterval))

end Config

/-- The end of life of a record that is to live this long, at most the latest there is. -/
def endOfLifeAfter (now : Timestamp) (seconds nanos : Nat) : Timestamp :=
  let endOfLife := now.after seconds nanos
  if Timestamp.latest.isBefore endOfLife then .latest else endOfLife

end GossipNames
