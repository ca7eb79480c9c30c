import GossipNames.Encoding.Varint

/-! Tagged fields on the wire: a key with a field number and a wire type, then the value. Fields
come in any order, the last of repeated fields counts, and unknown fields are skipped. -/

namespace GossipNames.Wire

inductive WireType where
  | varint
  | sixtyFourBit
  | lengthDelimited
  | startGroup
  | endGroup
  | thirtyTwoBit
  deriving DecidableEq, Repr

def WireType.code : WireType → Nat
  | .varint => 0
  | .sixtyFourBit => 1
  | .lengthDelimited => 2
  | .startGroup => 3
  | .endGroup => 4
  | .thirtyTwoBit => 5

def WireType.ofCode? : Nat → Option WireType
  | 0 => some .varint
  | 1 => some .sixtyFourBit
  | 2 => some .lengthDelimited
  | 3 => some .startGroup
  | 4 => some .endGroup
  | 5 => some .thirtyTwoBit
  | _ => none

def WireType.name : WireType → String
  | .varint => "Varint"
  | .sixtyFourBit => "SixtyFourBit"
  | .lengthDelimited => "LengthDelimited"
  | .startGroup => "StartGroup"
  | .endGroup => "EndGroup"
  | .thirtyTwoBit => "ThirtyTwoBit"

inductive Fault where
  | varint
  | key (value : Nat)
  | wireType (code : Nat)
  | zeroTag
  | otherType (found expected : WireType)
  | underflow
  | endGroup
  | nesting
  deriving DecidableEq, Repr

def Fault.message : Fault → String
  | .varint => "invalid varint"
  | .key value => s!"invalid key value: {value}"
  | .wireType code => s!"invalid wire type value: {code}"
  | .zeroTag => "invalid tag value: 0"
  | .otherType found expected =>
    "invalid wire type: " ++ found.name ++ " (expected " ++ expected.name ++ ")"
  | .underflow => "buffer underflow"
  | .endGroup => "unexpected end group tag"
  | .nesting => "recursion limit reached"

/-- A fault, with the name of the known field it was found in. -/
structure Error where
  field? : Option String
  fault : Fault
  deriving DecidableEq, Repr

def Error.message (error : Error) : String :=
  let place := match error.field? with
    | some field => field ++ ": "
    | none => ""
  "failed to decode Protobuf message: " ++ place ++ error.fault.message

structure Key where
  tag : Nat
  wireType : WireType
  deriving DecidableEq, Repr

def readVarint (bytes : Bytes) : Except Fault (Nat × Bytes) :=
  match Varint.read64? bytes with
  | some read => .ok read
  | none => .error .varint

/-- A key is below 2^32, has a known wire type and a field number above zero. -/
def readKey (bytes : Bytes) : Except Fault (Key × Bytes) := do
  let (value, rest) ← readVarint bytes
  if UInt32.size ≤ value then throw (.key value)
  let some wireType := WireType.ofCode? (value % 8) | throw (.wireType (value % 8))
  if value / 8 = 0 then throw .zeroTag
  return ({ tag := value / 8, wireType }, rest)

def expect (expected found : WireType) : Except Fault Unit :=
  if found = expected then .ok () else .error (.otherType found expected)

def readNumber (found : WireType) (bytes : Bytes) : Except Fault (Nat × Bytes) := do
  expect .varint found
  readVarint bytes

/-- Cuts off the first `count` bytes. -/
def readExactly (count : Nat) (bytes : Bytes) : Except Fault (Bytes × Bytes) :=
  if bytes.length < count then .error .underflow
  else .ok (bytes.take count, bytes.drop count)

def readBytes (found : WireType) (bytes : Bytes) : Except Fault (Bytes × Bytes) := do
  expect .lengthDelimited found
  let (count, rest) ← readVarint bytes
  readExactly count rest

/-- Groups may be open inside one another this deep. -/
def nestingLimit : Nat := 100

def skipPlain (wireType : WireType) (bytes : Bytes) : Except Fault Bytes := do
  match wireType with
  | .varint => return (← readVarint bytes).2
  | .thirtyTwoBit => return (← readExactly 4 bytes).2
  | .sixtyFourBit => return (← readExactly 8 bytes).2
  | .lengthDelimited => return (← readBytes .lengthDelimited bytes).2
  | .startGroup | .endGroup => throw .endGroup

/-- Skips to the end of the outermost of the open groups, innermost first. Every round reads a
key, so a round for each byte and one more is enough. -/
def skipGroups : (rounds : Nat) → (opened : List Nat) → Bytes → Except Fault Bytes
  | _, [], bytes => .ok bytes
  | 0, _, _ => .error .varint
  | rounds + 1, tag :: outer, bytes => do
    let (key, rest) ← readKey bytes
    if key.wireType = .endGroup then
      if key.tag = tag then skipGroups rounds outer rest else throw .endGroup
    else if nestingLimit ≤ outer.length + 1 then throw .nesting
    else if key.wireType = .startGroup then skipGroups rounds (key.tag :: tag :: outer) rest
    else skipGroups rounds (tag :: outer) (← skipPlain key.wireType rest)

/-- The bytes after the value of an unknown field. -/
def skipValue (key : Key) (bytes : Bytes) : Except Fault Bytes :=
  if key.wireType = .startGroup then skipGroups (bytes.length + 1) [key.tag] bytes
  else skipPlain key.wireType bytes

/-- What a message does with one field: its new state and the bytes after the value. -/
abbrev Merge (σ : Type) := Key → σ → Bytes → Except Error (σ × Bytes)

def inField {α : Type} (field : String) (read : Except Fault α) : Except Error α :=
  read.mapError fun fault => { field? := some field, fault }

def outsideFields {α : Type} (read : Except Fault α) : Except Error α :=
  read.mapError fun fault => { field? := none, fault }

/-- An unknown field leaves the message as it is. -/
def skipUnknown {σ : Type} (key : Key) (message : σ) (bytes : Bytes) : Except Error (σ × Bytes) :=
  outsideFields do return (message, ← skipValue key bytes)

def mergeFields {σ : Type} (merge : Merge σ) : (rounds : Nat) → σ → Bytes → Except Error σ
  | _, message, [] => .ok message
  | 0, message, _ => .ok message
  | rounds + 1, message, bytes => do
    let (key, rest) ← outsideFields (readKey bytes)
    let (message, rest) ← merge key message rest
    mergeFields merge rounds message rest

/-- Merges all fields into a message. Every round reads a key, so a round for each byte is
enough. -/
def decode {σ : Type} (merge : Merge σ) (empty : σ) (bytes : Bytes) : Except Error σ :=
  mergeFields merge bytes.length empty bytes

def writeKey (tag : Nat) (wireType : WireType) : Bytes :=
  Varint.encode (8 * tag + wireType.code)

def writeNumber (tag value : Nat) : Bytes :=
  writeKey tag .varint ++ Varint.encode value

def writeBytes (tag : Nat) (value : Bytes) : Bytes :=
  writeKey tag .lengthDelimited ++ Varint.encode value.length ++ value

/-- The 32-bit number in two's complement that the low bits of a varint hold. -/
def toInt32 (value : Nat) : Int :=
  Int.bmod (value : Int) UInt32.size

/-- The varint of a 32-bit number, negative ones widened to 64 bits. -/
def ofInt32 (value : Int) : Nat :=
  (value % UInt64.size).toNat

end GossipNames.Wire
