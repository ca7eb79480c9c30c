import GossipNames.Proofs.PublicKey

/-! Key pairs as they are kept: what is written for one is read back as it, and nothing is read from
less than all of it. -/

namespace GossipNames

section Unfinished

open Wire

/-- A field of bytes that breaks off before its end cannot be read. -/
theorem KeyMessage.decode_unfinished (name : String) (message : KeyMessage) {data cut left : Bytes}
    (short : data.length < 128) (split : cut ++ left = writeBytes 2 data) (started : cut ≠ [])
    (unfinished : left ≠ []) : ∃ error, Wire.decode (merge name) message cut = .error error := by
  have whole : writeBytes 2 data = 18 :: UInt8.ofNat data.length :: data := by
    rw [writeBytes, writeKey, Varint.encode_small short, Varint.encode_small (by decide)]
    rfl
  rw [whole] at split
  obtain _ | ⟨tag, _ | ⟨size, part⟩⟩ := cut
  · exact absurd rfl started
  · obtain rfl : tag = 18 := (List.cons.inj split).1
    exact ⟨_, rfl⟩
  · obtain ⟨rfl, rest⟩ := List.cons.inj split
    obtain ⟨rfl, parts⟩ := List.cons.inj rest
    have less : part.length < data.length := by
      rw [← parts]
      exact List.length_append ▸ Nat.lt_add_of_pos_right (List.length_pos_iff.mpr unfinished)
    have read : readBytes .lengthDelimited (UInt8.ofNat data.length :: part)
        = .error .underflow := by
      have few := readBytes_unfinished (Nat.lt_trans short (by decide)) less
      rwa [Varint.encode_small short] at few
    refine ⟨{ field? := some (name ++ ".data"), fault := .underflow }, ?_⟩
    have key : readKey (18 :: UInt8.ofNat data.length :: part)
        = .ok (⟨2, .lengthDelimited⟩, UInt8.ofNat data.length :: part) := rfl
    simp [Wire.decode, mergeFields, key, merge, read, inField, outsideFields]

end Unfinished

variable [SignatureScheme]

/-- The secrets of both kinds are 32 bytes long. -/
def SignatureScheme.Sized : Prop :=
  ∀ kind secret, acceptsSecret kind secret = true → secret.length = 32

omit [SignatureScheme] in
theorem SignatureScheme.standard_sized : @Sized standard := by
  intro kind secret accepted
  cases kind with
  | ed25519 => exact of_decide_eq_true accepted
  | secp256k1 =>
    obtain ⟨number, found⟩ := Option.isSome_iff_exists.mp accepted
    exact ((Option.ite_some_none_eq_some).mp found).1.1

namespace Keypair

variable {key : Keypair}

/-- The secret is one, and the public half that an Ed25519 key is kept with is a point. -/
structure IsWhole (key : Keypair) : Prop where
  accepted : SignatureScheme.acceptsSecret key.kind key.secret = true
  paired : key.kind = .ed25519 → key.publicKey.bytes.length = 32
    ∧ (SignatureScheme.normalize? .ed25519 key.publicKey.bytes).isSome

/-- What is kept of a key besides its kind. -/
def data (key : Keypair) : Bytes :=
  match key.kind with
  | .ed25519 => key.secret ++ key.publicKey.bytes
  | .secp256k1 => key.secret

theorem encode_eq (key : Keypair) : key.encode = KeyMessage.encode key.kind key.data := by
  unfold encode data
  cases key.kind <;> rfl

theorem IsWhole.length_data (whole : key.IsWhole) (sized : SignatureScheme.Sized) :
    key.data.length = match key.kind with | .ed25519 => 64 | .secp256k1 => 32 := by
  have secret := sized _ _ whole.accepted
  unfold data
  split
  · rename_i kind
    rw [List.length_append, secret, (whole.paired kind).1]
  · exact secret

theorem IsWhole.short (whole : key.IsWhole) (sized : SignatureScheme.Sized) :
    key.data.length < 128 := by
  rw [whole.length_data sized]
  split <;> decide

theorem decode_encode (whole : key.IsWhole) (sized : SignatureScheme.Sized) :
    decode key.encode = .ok key := by
  have secret := sized _ _ whole.accepted
  have length := whole.length_data sized
  have fits : key.data.length < UInt64.size := Nat.lt_trans (whole.short sized) (by decide)
  rw [decode, encode_eq, KeyMessage.decode_encode _ _ fits]
  obtain ⟨kind, bytes⟩ := key
  cases kind with
  | ed25519 =>
    obtain ⟨half, point⟩ := whole.paired rfl
    have front : List.take 32 (data ⟨.ed25519, bytes⟩) = bytes := List.take_left' secret
    have back : List.drop 32 (data ⟨.ed25519, bytes⟩) = (publicKey ⟨.ed25519, bytes⟩).bytes :=
      List.drop_left' secret
    simp [KeyKind.ofCode_code, front, back, length, Option.isSome_iff_ne_none.mp point]
  | secp256k1 =>
    have accepted := whole.accepted
    simp only [] at secret accepted
    simp [KeyKind.ofCode_code, ofSecp256k1Secret, data, secret, accepted]

/-- A key without any bytes is none. -/
theorem decode_bare (sized : SignatureScheme.Sized) {bytes : Bytes} {kind : KeyKind}
    (read : KeyMessage.decode "PrivateKey" bytes = .ok { code := kind.code, data := [] }) :
    ∃ error, decode bytes = .error error := by
  have refused : SignatureScheme.acceptsSecret .secp256k1 [] = false := by
    refine Bool.eq_false_iff.mpr fun accepted => ?_
    cases sized _ _ accepted
  rw [decode, read]
  cases kind with
  | ed25519 =>
    refine ⟨.ed25519Keypair .length, ?_⟩
    simp [KeyKind.ofCode_code]
  | secp256k1 =>
    refine ⟨.secp256k1SecretKey, ?_⟩
    simp [KeyKind.ofCode_code, ofSecp256k1Secret, refused]

/-- Nothing is read from a part of what is written for a key. -/
theorem decode_unfinished (whole : key.IsWhole) (sized : SignatureScheme.Sized) {cut left : Bytes}
    (split : cut ++ left = key.encode) (unfinished : left ≠ []) :
    ∃ error, decode cut = .error error := by
  have code : Wire.writeNumber 1 key.kind.code = [8, UInt8.ofNat key.kind.code] := by
    have small : key.kind.code < 128 := by cases key.kind <;> decide
    rw [Wire.writeNumber, Wire.writeKey, Varint.encode_small small,
      Varint.encode_small (by decide)]
    rfl
  rw [encode_eq, KeyMessage.encode, code] at split
  obtain _ | ⟨tag, _ | ⟨number, part⟩⟩ := cut
  · exact ⟨.rsaDisabled, rfl⟩
  · obtain rfl : tag = 8 := (List.cons.inj split).1
    exact ⟨_, rfl⟩
  · obtain ⟨rfl, rest⟩ := List.cons.inj split
    obtain ⟨rfl, parts⟩ := List.cons.inj rest
    have read := KeyMessage.decode_code "PrivateKey" key.kind part
    rw [code] at read
    by_cases started : part = []
    · subst started
      exact decode_bare sized read
    · obtain ⟨error, failed⟩ := KeyMessage.decode_unfinished "PrivateKey"
        { code := key.kind.code, data := [] } (whole.short sized) parts started unfinished
      refine ⟨.privateMessage error, ?_⟩
      have absent : KeyMessage.decode "PrivateKey" (8 :: UInt8.ofNat key.kind.code :: part)
          = .error error := read.trans failed
      rw [decode, absent]

end Keypair

end GossipNames
