import GossipNames.Decimal.Shortest
import GossipNames.Table

/-! What a node counts, and the text in which it reports the counts. -/

namespace GossipNames

/-- Something that is counted, with the labels that tell one count from another. -/
inductive Tally where
  | publish (transport result : String)
  | resolve (result : String)
  | gossipUpdate (outcome : String)
  | republish (result : String)
  | bootstrapConnection (result : String)
  deriving DecidableEq, Repr

structure Metrics where
  peers : Int
  subscriptions : Int
  counts : Table Tally Nat

namespace Metrics

def zero : Metrics where
  peers := 0
  subscriptions := 0
  counts := .empty

def withPeers (metrics : Metrics) (peers : Nat) : Metrics :=
  { metrics with peers }

def add (metrics : Metrics) (tally : Tally) (times : Nat) : Metrics :=
  if times = 0 then metrics
  else
    { metrics with
      counts := metrics.counts.put tally ((metrics.counts.get? tally).getD 0 + times) }

def increment (metrics : Metrics) (tally : Tally) : Metrics :=
  metrics.add tally 1

private structure Sample where
  labels : List (String × String)
  value : Int

/-- Samples under one name. A family without samples is left out. -/
private structure Family where
  name : String
  help : String
  kind : String
  samples : List Sample

private def escapeLabel (value : String) : String :=
  String.join <| value.toList.map fun char =>
    if char = '\\' then "\\\\"
    else if char = '"' then "\\\""
    else if char = '\n' then "\\n"
    else String.singleton char

private def Sample.values (sample : Sample) : List String :=
  sample.labels.map (·.2)

private def Sample.text (name : String) (sample : Sample) : String :=
  let labels := sample.labels.map fun (label, value) => label ++ "=\"" ++ escapeLabel value ++ "\""
  let shownLabels :=
    if labels.isEmpty then "" else "\x7b" ++ ",".intercalate labels ++ "\x7d"
  name ++ shownLabels ++ " " ++ Decimal.formatFloat (Float.ofInt sample.value) ++ "\n"

private def Family.text (family : Family) : String :=
  if family.samples.isEmpty then ""
  else
    "# HELP " ++ family.name ++ " " ++ family.help ++ "\n"
      ++ "# TYPE " ++ family.name ++ " " ++ family.kind ++ "\n"
      ++ String.join (family.samples.map (·.text family.name))

/-- Labels go by name, and samples by the values of their labels. -/
private def counter (metrics : Metrics) (name help : String)
    (labels? : Tally → Option (List (String × String))) : Family where
  name
  help
  kind := "counter"
  samples :=
    let samples := metrics.counts.entries.filterMap fun (tally, count) =>
      (labels? tally).map fun labels => { labels, value := count : Sample }
    samples.mergeSort fun first second =>
      !second.values.lex first.values fun value other => decide (value < other)

private def gauge (name help : String) (value : Int) : Family where
  name
  help
  kind := "gauge"
  samples := [{ labels := [], value }]

/-- Families go by name. -/
private def families (metrics : Metrics) : List Family := [
  metrics.counter "ipns_bootstrap_connections_total"
    "Total number of rendezvous connection attempts"
    fun | .bootstrapConnection result => some [("result", result)] | _ => none,
  metrics.counter "ipns_gossip_updates_total"
    "Total number of name records received over gossip"
    fun | .gossipUpdate outcome => some [("outcome", outcome)] | _ => none,
  metrics.counter "ipns_publish_total" "Total number of name publications"
    fun
      | .publish transport result => some [("result", result), ("transport", transport)]
      | _ => none,
  metrics.counter "ipns_republish_total" "Total number of republish cycles"
    fun | .republish result => some [("result", result)] | _ => none,
  metrics.counter "ipns_resolve_total" "Total number of single-hop name resolutions"
    fun | .resolve result => some [("result", result)] | _ => none,
  gauge "ipns_subscriptions_active" "Number of names with an active gossip subscription"
    metrics.subscriptions,
  gauge "network_peers_connected" "Number of connected peers" metrics.peers]

def text (metrics : Metrics) : String :=
  String.join (metrics.families.map (·.text))

/-- The lines that are not comments. -/
def sampleLines (metrics : Metrics) : List String :=
  metrics.families.flatMap fun family =>
    family.samples.map fun sample => (sample.text family.name).dropEnd 1 |>.toString

end Metrics

end GossipNames
