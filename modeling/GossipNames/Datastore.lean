import GossipNames.Encoding.Base32
import GossipNames.Name.RoutingKey
import GossipNames.Record.Error
import GossipNames.Table
import GossipNames.Text.Reading

/-! The local store of bytes, under keys that are written as text whatever their bytes, and the file
that keeps it from one run to the next: a heading, and a line with key and value for each entry. -/

namespace GossipNames

structure DatastoreKey where
  raw : Bytes
  deriving DecidableEq, Repr

namespace DatastoreKey

def text (key : DatastoreKey) : String :=
  "/" ++ Base32.encode key.raw

/-- The bytes that a key's text stands for. -/
def binary (text : String) : Except RecordError Bytes :=
  match (Text.after? "/" text).bind Base32.decode? with
  | none => .error (.datastoreKey text)
  | some raw => .ok raw

def parse (text : String) : Except RecordError DatastoreKey :=
  (binary text).map mk

/-- Where the last issued record of an identity is kept. -/
def ofPeer (peer : PeerId) : DatastoreKey where
  raw := (RoutingKey.record peer).toBytes

end DatastoreKey

abbrev Datastore := Table DatastoreKey Bytes

namespace Datastore

def empty : Datastore :=
  Table.empty

/-- Erases a key and tells whether it was there. -/
def delete (store : Datastore) (key : DatastoreKey) : Datastore × Bool :=
  (store.erase key, store.contains key)

end Datastore

namespace RecordsFile

private def heading : String := "name records"

private def line (entry : DatastoreKey × Bytes) : String :=
  entry.1.text ++ " " ++ entry.2.toHex

def encode (store : Datastore) : Bytes :=
  Bytes.ofString ("\n".intercalate (heading :: store.entries.map line))

private def entry? (line : String) : Option (DatastoreKey × Bytes) :=
  match line.splitOn " " with
  | [key, value] => do
    let key ← (DatastoreKey.parse key).toOption
    return (key, ← Bytes.ofHex? value)
  | _ => none

/-- The records in a file; `none` when it is some other file. -/
def decode? (content : Bytes) : Option Datastore := do
  let text ← content.toString?
  match text.splitOn "\n" with
  | first :: lines =>
    if first ≠ heading then none
    else
      let entries ← lines.mapM entry?
      return entries.foldl (fun store (key, value) => store.put key value) Datastore.empty
  | [] => none

end RecordsFile

end GossipNames
