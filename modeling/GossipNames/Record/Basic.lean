import GossipNames.Record.Entry
import GossipNames.Record.Error
import GossipNames.Text.Lossy
import GossipNames.Time.Rfc3339

/-! Name records: a signed statement of where a name points, until when, and the how-manieth
statement about the name it is. -/

namespace GossipNames

/-- The end of life that the bytes of a record's validity field state. -/
def parseValidity (bytes : Bytes) : Except RecordError Timestamp :=
  match bytes.toString? with
  | none => .error (.validity bytes.toStringLossy)
  | some text =>
    match Rfc3339.parse? text with
    | none => .error (.validity text)
    | some time => .ok time

/-- A decoded record. Its structure is sound; whether the signature is, `NameRecord.verify` says. -/
structure NameRecord where
  value : Path
  signature : Bytes
  sequence : UInt64
  validity : Timestamp
  /-- The end of life as it was signed. -/
  rawValidity : Bytes
  deriving DecidableEq

namespace NameRecord

variable [SignatureScheme]

/-- The bytes that are signed: path, end of life, the kind of validity and the sequence number. -/
def signingPayload (value : Path) (rawValidity : Bytes) (sequence : UInt64) : Bytes :=
  Bytes.ofString value.text ++ rawValidity ++ Bytes.ofString "EOL"
    ++ Bytes.ofNatBigEndian 8 sequence.toNat

/-- Signs a new record. An end of life past the latest one could not be read back and is refused. -/
def create (key : Keypair) (value : Path) (sequence : UInt64) (endOfLife : Timestamp) :
    Except RecordError NameRecord :=
  let text := Rfc3339.format endOfLife
  if Timestamp.latest.isBefore endOfLife then .error (.validity text)
  else
    let rawValidity := Bytes.ofString text
    match key.sign (signingPayload value rawValidity sequence) with
    | .error error => .error (.signing error)
    | .ok signature => .ok { value, signature, sequence, validity := endOfLife, rawValidity }

def ofEntry (entry : RecordEntry) : Except RecordError NameRecord := do
  if entry.validityType ≠ 0 then throw (.validityType entry.validityType)
  let some text := entry.value.toString?
    | throw (.path { path := entry.value.toStringLossy, fault := .notUtf8 })
  let value ← (Path.parse text).mapError .path
  let validity ← parseValidity entry.validity
  return {
    value, signature := entry.signature, sequence := entry.sequence, validity,
    rawValidity := entry.validity }

def toEntry (record : NameRecord) : RecordEntry where
  value := Bytes.ofString record.value.text
  signature := record.signature
  validityType := 0
  validity := record.rawValidity
  sequence := record.sequence

def ofBytes (bytes : Bytes) : Except RecordError NameRecord := do
  ofEntry (← (RecordEntry.decode bytes).mapError .wire)

def toBytes (record : NameRecord) : Bytes :=
  record.toEntry.encode

def verify (record : NameRecord) (key : PublicKey) : Bool :=
  key.verify (signingPayload record.value record.rawValidity record.sequence) record.signature

/-- The record with another end of life, signed anew under the same sequence number. -/
def refreshed (record : NameRecord) (key : Keypair) (endOfLife : Timestamp) :
    Except RecordError NameRecord :=
  create key record.value record.sequence endOfLife

/-- A higher sequence number wins, then a later end of life. -/
def supersedes (record other : NameRecord) : Bool :=
  other.sequence < record.sequence
    ∨ other.sequence = record.sequence ∧ other.validity.isBefore record.validity

def isExpired (record : NameRecord) (now : Timestamp) : Bool :=
  record.validity.isBefore now

end NameRecord

end GossipNames
