import GossipNames.Encoding.Base58
import GossipNames.Key.Basic

/-! Peer ids: a public key, or its hash when it is too long to stand for itself. -/

namespace GossipNames

/-- How the digest of a peer id was made. -/
inductive DigestKind where
  | identity
  | sha256
  deriving DecidableEq, Repr

def DigestKind.code : DigestKind → Nat
  | .identity => 0
  | .sha256 => 0x12

def DigestKind.limit : DigestKind → Nat
  | .identity => 42
  | .sha256 => 64

structure PeerId where
  kind : DigestKind
  digest : Bytes
  fits : digest.length ≤ kind.limit
  deriving DecidableEq

inductive PeerIdError where
  | base58 (fault : Base58.Fault)
  | unsupportedDigest (code : Nat)
  | malformed
  deriving DecidableEq

def PeerIdError.message : PeerIdError → String
  | .base58 fault => "base-58 decode error: " ++ fault.message
  | .unsupportedDigest code => s!"unsupported multihash code '{code}'"
  | .malformed => "invalid multihash"

namespace PeerId

def toBytes (peer : PeerId) : Bytes :=
  Varint.encode peer.kind.code ++ Varint.encode peer.digest.length ++ peer.digest

/-- The code, the length and the digest, with nothing behind it. -/
private def splitDigest? (bytes : Bytes) : Option (Nat × Bytes) := do
  let (code, rest) ← Varint.readMinimal64? bytes
  let (length, digest) ← Varint.readMinimal64? rest
  if length ≤ 64 ∧ digest.length = length then some (code, digest) else none

private def ofDigest (kind : DigestKind) (digest : Bytes) : Except PeerIdError PeerId :=
  if fits : digest.length ≤ kind.limit then .ok { kind, digest, fits }
  else .error (.unsupportedDigest kind.code)

def ofBytes (bytes : Bytes) : Except PeerIdError PeerId :=
  match splitDigest? bytes with
  | none => .error .malformed
  | some (code, digest) =>
    if code = DigestKind.sha256.code then ofDigest .sha256 digest
    else if code = DigestKind.identity.code then ofDigest .identity digest
    else .error (.unsupportedDigest code)

private theorem splitDigest?_eq_some_iff {bytes digest : Bytes} {code : Nat} :
    splitDigest? bytes = some (code, digest) ↔
      ∃ rest, Varint.readMinimal64? bytes = some (code, rest)
        ∧ Varint.readMinimal64? rest = some (digest.length, digest) ∧ digest.length ≤ 64 := by
  constructor
  · intro split
    obtain ⟨⟨first, rest⟩, read, split⟩ := Option.bind_eq_some_iff.mp split
    obtain ⟨⟨length, left⟩, again, split⟩ := Option.bind_eq_some_iff.mp split
    dsimp only at again split
    by_cases whole : length ≤ 64 ∧ left.length = length
    · rw [if_pos whole] at split
      cases split
      obtain ⟨short, rfl⟩ := whole
      exact ⟨rest, read, again, short⟩
    · rw [if_neg whole] at split
      cases split
  · rintro ⟨rest, read, again, short⟩
    simp only [splitDigest?, read, again, short, and_self, if_true, bind, Option.bind]

private theorem ofDigest_eq_ok_iff {kind : DigestKind} {digest : Bytes} {peer : PeerId} :
    ofDigest kind digest = .ok peer ↔ peer.kind = kind ∧ peer.digest = digest := by
  unfold ofDigest
  constructor
  · intro made
    split at made
    · cases made
      exact ⟨rfl, rfl⟩
    · cases made
  · rintro ⟨rfl, rfl⟩
    exact dif_pos peer.fits

/-- An identity is read from two numbers, its code and the length of its digest, and the digest. -/
theorem ofBytes_eq_ok_iff_read {bytes : Bytes} {peer : PeerId} :
    ofBytes bytes = .ok peer ↔
      ∃ rest, Varint.readMinimal64? bytes = some (peer.kind.code, rest)
        ∧ Varint.readMinimal64? rest = some (peer.digest.length, peer.digest) := by
  constructor
  · intro made
    unfold ofBytes at made
    split at made
    · cases made
    · rename_i code digest split
      obtain ⟨rest, read, again, -⟩ := splitDigest?_eq_some_iff.mp split
      split at made
      · rename_i sha256
        obtain ⟨kind, rfl⟩ := ofDigest_eq_ok_iff.mp made
        exact ⟨rest, by rw [read, kind, sha256], again⟩
      · split at made
        · rename_i identity
          obtain ⟨kind, rfl⟩ := ofDigest_eq_ok_iff.mp made
          exact ⟨rest, by rw [read, kind, identity], again⟩
        · cases made
  · rintro ⟨rest, read, again⟩
    have limit : peer.kind.limit ≤ 64 := by cases peer.kind <;> decide
    have short : peer.digest.length ≤ 64 := Nat.le_trans peer.fits limit
    unfold ofBytes
    rw [splitDigest?_eq_some_iff.mpr ⟨rest, read, again, short⟩]
    obtain ⟨kind, digest, fits⟩ := peer
    cases kind <;> exact dif_pos fits

/-- The code and the length take a byte each. -/
theorem ofBytes_cons (peer : PeerId) :
    ofBytes (UInt8.ofNat peer.kind.code :: UInt8.ofNat peer.digest.length :: peer.digest)
      = .ok peer := by
  have limit : peer.kind.limit ≤ 64 := by cases peer.kind <;> decide
  have short : peer.digest.length ≤ 64 := Nat.le_trans peer.fits limit
  have length : (UInt8.ofNat peer.digest.length).toNat = peer.digest.length := by
    rw [UInt8.toNat_ofNat']
    omega
  have code : (UInt8.ofNat peer.kind.code).toNat = peer.kind.code := by cases peer.kind <;> rfl
  have codeSmall : (UInt8.ofNat peer.kind.code).toNat < 128 := by cases peer.kind <;> decide
  have lengthSmall : (UInt8.ofNat peer.digest.length).toNat < 128 := by omega
  rw [ofBytes_eq_ok_iff_read]
  refine ⟨UInt8.ofNat peer.digest.length :: peer.digest, ?_, ?_⟩
  · rw [Varint.readMinimal64?_small codeSmall, code]
  · rw [Varint.readMinimal64?_small lengthSmall, length]

def toString (peer : PeerId) : String :=
  Base58.encode peer.toBytes

def parse (text : String) : Except PeerIdError PeerId :=
  match Base58.decode text with
  | .error fault => .error (.base58 fault)
  | .ok bytes => ofBytes bytes

/-- A key whose message is short enough is its own digest. -/
def ofPublicKey (key : PublicKey) : PeerId :=
  if fits : key.encode.length ≤ DigestKind.identity.limit then
    { kind := .identity, digest := key.encode, fits }
  else
    { kind := .sha256, digest := Sha256.hash key.encode,
      fits := by simp [Sha256.hash, Sha256.State.words, DigestKind.limit] }

/-- The public key that a peer id stands for itself. -/
def inlineKey? [SignatureScheme] (peer : PeerId) : Option PublicKey :=
  match peer.kind with
  | .identity => (PublicKey.decode peer.digest).toOption
  | .sha256 => none

end PeerId

def Keypair.peerId [SignatureScheme] (key : Keypair) : PeerId :=
  PeerId.ofPublicKey key.publicKey

end GossipNames
