import GossipNames.Bytes
import GossipNames.Config
import GossipNames.Curve.Ed25519
import GossipNames.Curve.Secp256k1
import GossipNames.Datastore
import GossipNames.Decimal.Shortest
import GossipNames.Encoding.Base32
import GossipNames.Encoding.Base58
import GossipNames.Encoding.Snappy
import GossipNames.Encoding.Varint
import GossipNames.Encoding.Wire
import GossipNames.Gossip.Bootstrap
import GossipNames.Gossip.Fanout
import GossipNames.Gossip.Payload
import GossipNames.Gossip.Publisher
import GossipNames.Gossip.Resolver
import GossipNames.Gossip.Topic
import GossipNames.Hash.Sha256
import GossipNames.Hash.Sha512
import GossipNames.Key.Basic
import GossipNames.Key.PeerId
import GossipNames.Keystore.Directory
import GossipNames.Keystore.Memory
import GossipNames.Keystore.Name
import GossipNames.Main
import GossipNames.Metrics
import GossipNames.Metrics.Page
import GossipNames.Name.Error
import GossipNames.Name.Follows
import GossipNames.ValueStore.Resolver
import GossipNames.Name.Resolution
import GossipNames.Name.RoutingKey
import GossipNames.Network.Address
import GossipNames.Network.Command
import GossipNames.Network.Ip
import GossipNames.Network.Peers
import GossipNames.Network.Queries
import GossipNames.ValueStore.Publication
import GossipNames.Node.Launch
import GossipNames.Node.Options
import GossipNames.Path
import GossipNames.Path.Document
import GossipNames.Record.Basic
import GossipNames.Record.Entry
import GossipNames.Record.Error
import GossipNames.Record.Store
import GossipNames.Record.Validation
import GossipNames.Simulation.Resolving
import GossipNames.Simulation.Run
import GossipNames.Simulation.Script
import GossipNames.Simulation.Swarm
import GossipNames.Simulation.Work
import GossipNames.Simulation.World
import GossipNames.Table
import GossipNames.Text.Quoted
import GossipNames.Text.Lossy
import GossipNames.Text.Order
import GossipNames.Text.Reading
import GossipNames.Time.Calendar
import GossipNames.Time.Rfc3339
import GossipNames.Time.Schedule
import GossipNames.Time.Timestamp
import GossipNames.ValueStore.Republisher
import GossipNames.Yaml.Cursor
import GossipNames.Yaml.Node
import GossipNames.Yaml.Parser
import GossipNames.Yaml.Scalar
import GossipNames.Proofs.Varint
import GossipNames.Proofs.Wire
import GossipNames.Proofs.RecordEntry
import GossipNames.Proofs.Path
import GossipNames.Proofs.Calendar
import GossipNames.Proofs.Digits
import GossipNames.Proofs.StatedTime
import GossipNames.Proofs.Rfc3339
import GossipNames.Proofs.TimeText
import GossipNames.Proofs.NameRecord
import GossipNames.Proofs.SigningPayload
import GossipNames.Proofs.Verification
import GossipNames.Proofs.RoundTrip
import GossipNames.Proofs.Validity
import GossipNames.Proofs.Publishing
import GossipNames.Proofs.PeerId
import GossipNames.Proofs.RecordStore
import GossipNames.Proofs.IssuedRecords
import GossipNames.Proofs.Resolution
import GossipNames.Proofs.Issuance
import GossipNames.Proofs.Resolving
import GossipNames.Proofs.Authenticity
import GossipNames.Proofs.Rollback
import GossipNames.Proofs.Base58
import GossipNames.Proofs.Name
import GossipNames.Proofs.PublicKey
import GossipNames.Proofs.KeySource
import GossipNames.Proofs.Selection
import GossipNames.Proofs.InboundValues
import GossipNames.Proofs.Convergence
import GossipNames.Proofs.Resolvable
import GossipNames.Proofs.Republishing
import GossipNames.Proofs.RepublishCycle
import GossipNames.Proofs.TrailingSegments
import GossipNames.Proofs.Upkeep
import GossipNames.Proofs.Announcing
import GossipNames.Proofs.Table
import GossipNames.Proofs.Fanout
import GossipNames.Proofs.Follows
import GossipNames.Proofs.Peers
import GossipNames.Proofs.Subscriptions
import GossipNames.Proofs.Base32
import GossipNames.Proofs.DatastoreKey
import GossipNames.Proofs.Unissued
import GossipNames.Proofs.Candidates
import GossipNames.Proofs.Spelling
import GossipNames.Proofs.EndOfLife
import GossipNames.Proofs.PathText
import GossipNames.Proofs.Snappy
import GossipNames.Proofs.Compression
import GossipNames.Proofs.Keypair
import GossipNames.Proofs.KeyDirectory
import GossipNames.Proofs.Keystores
import GossipNames.Proofs.UnfinishedKeys
import GossipNames.Proofs.Queries
import GossipNames.Proofs.Querying
import GossipNames.Proofs.Bootstrap
import GossipNames.Proofs.OwnAnnouncement
import GossipNames.Proofs.Schedule
import GossipNames.Proofs.Deduplication
