import GossipNames.Encoding.Wire
import GossipNames.Curve.Ed25519
import GossipNames.Curve.Secp256k1

/-! Signing keys, and the wire messages in which they are kept and passed on. -/

namespace GossipNames

inductive KeyKind where
  | ed25519
  | secp256k1
  deriving DecidableEq, Repr

structure SigningError where
  reason : String
  deriving DecidableEq, Repr

def SigningError.message (error : SigningError) : String :=
  "Key signing error: " ++ error.reason

/-- What the rest of the library needs to know about signatures. Keys are byte strings in the
encoding of their kind. -/
class SignatureScheme where
  acceptsSecret : KeyKind → Bytes → Bool
  publicBytes : KeyKind → Bytes → Bytes
  /-- The form a public key is kept in, when the bytes are one. -/
  normalize? : KeyKind → Bytes → Option Bytes
  sign : KeyKind → Bytes → Bytes → Except SigningError Bytes
  verify : KeyKind → Bytes → Bytes → Bytes → Bool

/-- Ed25519 and ECDSA over secp256k1. -/
instance SignatureScheme.standard : SignatureScheme where
  acceptsSecret
    | .ed25519, secret => secret.length = 32
    | .secp256k1, secret => (Secp256k1.secretNumber? secret).isSome
  publicBytes
    | .ed25519, secret => Ed25519.publicKey secret
    | .secp256k1, secret => Secp256k1.publicKey secret
  normalize?
    | .ed25519, bytes => (Ed25519.Point.decompress? bytes).map fun _ => bytes
    | .secp256k1, bytes => (Secp256k1.Point.decode? bytes).map (·.compress)
  sign
    | .ed25519, secret, message => .ok (Ed25519.sign secret message)
    | .secp256k1, secret, message => .ok (Secp256k1.sign secret message)
  verify
    | .ed25519, key, message, signature => Ed25519.verify key message signature
    | .secp256k1, key, message, signature => Secp256k1.verify key message signature

structure PublicKey where
  kind : KeyKind
  bytes : Bytes
  deriving DecidableEq, Repr

structure Keypair where
  kind : KeyKind
  secret : Bytes
  deriving DecidableEq, Repr

/-- What is wrong with the 64 bytes of an Ed25519 key pair. -/
inductive KeypairFault where
  | length
  | point
  | mismatch
  deriving DecidableEq, Repr

/-- The errors behind it, outermost first. -/
def KeypairFault.causes : KeypairFault → List String
  | .length => ["could not convert slice to array"]
  | .point =>
    ["signature error: Cannot decompress Edwards point", "Cannot decompress Edwards point"]
  | .mismatch => ["signature error: Mismatched Keypair detected", "Mismatched Keypair detected"]

inductive KeyError where
  | publicMessage (error : Wire.Error)
  | privateMessage (error : Wire.Error)
  | unknownType (code : Int)
  | rsaDisabled
  | ecdsaDisabled
  | ed25519Keypair (fault : KeypairFault)
  | ed25519PublicKey
  | ed25519SecretKey
  | secp256k1PublicKey
  | secp256k1SecretKey
  deriving DecidableEq, Repr

def KeyError.reason : KeyError → String
  | .publicMessage _ => "failed to decode public key bytes from protobuf"
  | .privateMessage _ => "failed to decode private key bytes from protobuf"
  | .unknownType code => s!"unknown key type {code}"
  | .rsaDisabled => "cargo feature `rsa` is not enabled"
  | .ecdsaDisabled => "cargo feature `ecdsa` is not enabled"
  | .ed25519Keypair _ => "failed to parse Ed25519 keypair"
  | .ed25519PublicKey => "failed to parse Ed25519 public key"
  | .ed25519SecretKey => "failed to parse Ed25519 secret key"
  | .secp256k1PublicKey => "failed to parse secp256k1 public key"
  | .secp256k1SecretKey => "failed to parse parse secp256k1 secret key"

def KeyError.message (error : KeyError) : String :=
  "Key decoding error: " ++ error.reason

/-- The errors behind it, outermost first. -/
def KeyError.causes : KeyError → List String
  | .publicMessage error | .privateMessage error => [error.message]
  | .ed25519Keypair fault => fault.causes
  | .ed25519PublicKey | .ed25519SecretKey => ["could not convert slice to array"]
  | .secp256k1PublicKey | .secp256k1SecretKey => ["signature error"]
  | .unknownType _ | .rsaDisabled | .ecdsaDisabled => []

def KeyKind.code : KeyKind → Nat
  | .ed25519 => 1
  | .secp256k1 => 2

/-- Two more types are known by their numbers, but keys of them are not supported. -/
def KeyKind.ofCode (code : Int) : Except KeyError KeyKind :=
  if code = 0 then .error .rsaDisabled
  else if code = 1 then .ok .ed25519
  else if code = 2 then .ok .secp256k1
  else if code = 3 then .error .ecdsaDisabled
  else .error (.unknownType code)

/-- The wire form of a public or private key: its type and its bytes. -/
structure KeyMessage where
  code : Int
  data : Bytes

namespace KeyMessage

def empty : KeyMessage where
  code := 0
  data := []

def merge (name : String) : Wire.Merge KeyMessage := fun key message bytes =>
  match key.tag with
  | 1 => do
    let (value, rest) ← Wire.inField (name ++ ".r#type") (Wire.readNumber key.wireType bytes)
    return ({ message with code := Wire.toInt32 value }, rest)
  | 2 => do
    let (data, rest) ← Wire.inField (name ++ ".data") (Wire.readBytes key.wireType bytes)
    return ({ message with data }, rest)
  | _ => Wire.skipUnknown key message bytes

/-- Reads a message; `name` is the one that faults in its fields are reported under. -/
def decode (name : String) (bytes : Bytes) : Except Wire.Error KeyMessage :=
  Wire.decode (merge name) empty bytes

/-- Both fields are always written. -/
def encode (kind : KeyKind) (data : Bytes) : Bytes :=
  Wire.writeNumber 1 kind.code ++ Wire.writeBytes 2 data

end KeyMessage

namespace PublicKey

variable [SignatureScheme]

def encode (key : PublicKey) : Bytes :=
  KeyMessage.encode key.kind key.bytes

def ofBytes (kind : KeyKind) (bytes : Bytes) : Except KeyError PublicKey :=
  match SignatureScheme.normalize? kind bytes, kind with
  | some bytes, _ => .ok { kind, bytes }
  | none, .ed25519 => .error .ed25519PublicKey
  | none, .secp256k1 => .error .secp256k1PublicKey

def decode (bytes : Bytes) : Except KeyError PublicKey :=
  match KeyMessage.decode "PublicKey" bytes with
  | .error error => .error (.publicMessage error)
  | .ok message => do ofBytes (← KeyKind.ofCode message.code) message.data

def verify (key : PublicKey) (message signature : Bytes) : Bool :=
  SignatureScheme.verify key.kind key.bytes message signature

end PublicKey

namespace Keypair

variable [SignatureScheme]

def ofEd25519Seed (seed : Bytes) : Except KeyError Keypair :=
  if SignatureScheme.acceptsSecret .ed25519 seed then .ok { kind := .ed25519, secret := seed }
  else .error .ed25519SecretKey

/-- A secret of 24 bytes or more is filled up with leading zeros. -/
def ofSecp256k1Secret (secret : Bytes) : Except KeyError Keypair :=
  let filled :=
    if 24 ≤ secret.length then List.replicate (32 - secret.length) 0 ++ secret else secret
  if SignatureScheme.acceptsSecret .secp256k1 filled then
    .ok { kind := .secp256k1, secret := filled }
  else .error .secp256k1SecretKey

def publicKey (key : Keypair) : PublicKey where
  kind := key.kind
  bytes := SignatureScheme.publicBytes key.kind key.secret

def sign (key : Keypair) (message : Bytes) : Except SigningError Bytes :=
  SignatureScheme.sign key.kind key.secret message

/-- An Ed25519 key is kept with its public half behind the seed. -/
def encode (key : Keypair) : Bytes :=
  match key.kind with
  | .ed25519 => KeyMessage.encode .ed25519 (key.secret ++ key.publicKey.bytes)
  | .secp256k1 => KeyMessage.encode .secp256k1 key.secret

def decode (bytes : Bytes) : Except KeyError Keypair :=
  match KeyMessage.decode "PrivateKey" bytes with
  | .error error => .error (.privateMessage error)
  | .ok message => do
    match ← KeyKind.ofCode message.code with
    | .secp256k1 => ofSecp256k1Secret message.data
    | .ed25519 =>
      let key : Keypair := { kind := .ed25519, secret := message.data.take 32 }
      let publicHalf := message.data.drop 32
      if message.data.length ≠ 64 then .error (.ed25519Keypair .length)
      else if (SignatureScheme.normalize? .ed25519 publicHalf).isNone then
        .error (.ed25519Keypair .point)
      else if key.publicKey.bytes ≠ publicHalf then .error (.ed25519Keypair .mismatch)
      else .ok key

end Keypair

end GossipNames
