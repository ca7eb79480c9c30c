import GossipNames.Encoding.Wire

/-! The wire form of a name record. Fields that are empty or zero are not written. -/

namespace GossipNames

structure RecordEntry where
  value : Bytes
  signature : Bytes
  validityType : Int
  validity : Bytes
  sequence : UInt64
  deriving DecidableEq, Repr

namespace RecordEntry

def empty : RecordEntry where
  value := []
  signature := []
  validityType := 0
  validity := []
  sequence := 0

def merge : Wire.Merge RecordEntry := fun key entry bytes =>
  match key.tag with
  | 1 => do
    let (value, rest) ← Wire.inField "IpnsEntry.value" (Wire.readBytes key.wireType bytes)
    return ({ entry with value }, rest)
  | 2 => do
    let (signature, rest) ← Wire.inField "IpnsEntry.signature" (Wire.readBytes key.wireType bytes)
    return ({ entry with signature }, rest)
  | 3 => do
    let (code, rest) ←
      Wire.inField "IpnsEntry.validity_type" (Wire.readNumber key.wireType bytes)
    return ({ entry with validityType := Wire.toInt32 code }, rest)
  | 4 => do
    let (validity, rest) ← Wire.inField "IpnsEntry.validity" (Wire.readBytes key.wireType bytes)
    return ({ entry with validity }, rest)
  | 5 => do
    let (sequence, rest) ← Wire.inField "IpnsEntry.sequence" (Wire.readNumber key.wireType bytes)
    return ({ entry with sequence := UInt64.ofNat sequence }, rest)
  | _ => Wire.skipUnknown key entry bytes

def decode (bytes : Bytes) : Except Wire.Error RecordEntry :=
  Wire.decode merge empty bytes

def writeUnlessEmpty (tag : Nat) (value : Bytes) : Bytes :=
  if value.isEmpty then [] else Wire.writeBytes tag value

def writeUnlessZero (tag value : Nat) : Bytes :=
  if value = 0 then [] else Wire.writeNumber tag value

def encode (entry : RecordEntry) : Bytes :=
  writeUnlessEmpty 1 entry.value ++ writeUnlessEmpty 2 entry.signature
    ++ writeUnlessZero 3 (Wire.ofInt32 entry.validityType)
    ++ writeUnlessEmpty 4 entry.validity ++ writeUnlessZero 5 entry.sequence.toNat

end RecordEntry

end GossipNames
