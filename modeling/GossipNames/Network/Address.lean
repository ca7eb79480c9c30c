import GossipNames.Key.PeerId
import GossipNames.Network.Ip
import GossipNames.Yaml.Parser

/-! Addresses of peers: a row of protocols with what each of them needs to know. A node is told of
those that it dials to get into the network. -/

namespace GossipNames

inductive DnsKind where
  | any
  | v4
  | v6
  | address
  deriving DecidableEq, Repr

def DnsKind.label : DnsKind → String
  | .any => "dns"
  | .v4 => "dns4"
  | .v6 => "dns6"
  | .address => "dnsaddr"

inductive Protocol where
  | ip4 (bytes : Bytes)
  | ip6 (groups : List UInt16)
  | dns (kind : DnsKind) (host : String)
  | tcp (port : UInt16)
  | udp (port : UInt16)
  | quic
  | quicV1
  | peer (id : PeerId)
  | circuit
  deriving DecidableEq

def Protocol.text : Protocol → String
  | .ip4 bytes => "/ip4/" ++ (IpAddress.v4 bytes).text
  | .ip6 groups => "/ip6/" ++ (IpAddress.v6 groups).text
  | .dns kind host => "/" ++ kind.label ++ "/" ++ host
  | .tcp port => s!"/tcp/{port}"
  | .udp port => s!"/udp/{port}"
  | .quic => "/quic"
  | .quicV1 => "/quic-v1"
  | .peer id => "/p2p/" ++ id.toString
  | .circuit => "/p2p-circuit"

abbrev Address := List Protocol

namespace Address

def text (address : Address) : String :=
  String.join (address.map (·.text))

/-- The first peer on the way. -/
def peer? (address : Address) : Option PeerId :=
  address.findSome? fun
    | .peer id => some id
    | _ => none

/-- The protocol of a name that is followed by an argument. -/
private def ofArgument? (name argument : String) : Option Protocol :=
  match name with
  | "ip4" => (IpAddress.parseV4? argument).map .ip4
  | "ip6" => (IpAddress.parseV6? argument).map .ip6
  | "dns" => some (.dns .any argument)
  | "dns4" => some (.dns .v4 argument)
  | "dns6" => some (.dns .v6 argument)
  | "dnsaddr" => some (.dns .address argument)
  | "tcp" => (Text.readUInt16? argument).map .tcp
  | "udp" => (Text.readUInt16? argument).map .udp
  | "p2p" | "ipfs" => (PeerId.parse argument).toOption.map .peer
  | _ => none

private def ofParts? : List String → Option Address
  | [] => some []
  | "quic" :: rest => (Protocol.quic :: ·) <$> ofParts? rest
  | "quic-v1" :: rest => (Protocol.quicV1 :: ·) <$> ofParts? rest
  | "p2p-circuit" :: rest => (Protocol.circuit :: ·) <$> ofParts? rest
  | name :: argument :: rest => do
    let protocol ← ofArgument? name argument
    return protocol :: (← ofParts? rest)
  | [_] => none

/-- Every part follows a slash. The empty text is the address without parts. -/
def parse? (text : String) : Option Address :=
  match text.splitOn "/" with
  | "" :: parts => ofParts? parts
  | _ => none

end Address

namespace Bootnodes

/-- The addresses in a list of scalars; whatever is no address is passed over. -/
private def ofNode : Yaml.Node → List Address
  | .sequence items =>
    match items.mapM (·.text?) with
    | some texts => texts.filterMap Address.parse?
    | none => []
  | _ => []

/-- The content of a file that holds one list. Any other content gives nothing. -/
def ofYaml (text : String) : List Address :=
  match Yaml.parse? text with
  | some node => ofNode node
  | none => []

/-- An argument is an address or names a file. -/
def ofArgument (readFile? : String → Option String) (argument : String) : List Address :=
  match Address.parse? argument with
  | some address => [address]
  | none => ((readFile? argument).map ofYaml).getD []

def ofArguments (readFile? : String → Option String) (arguments : List String) : List Address :=
  arguments.flatMap (ofArgument readFile?)

end Bootnodes

end GossipNames
