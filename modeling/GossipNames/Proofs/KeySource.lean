import GossipNames.ValueStore.Resolver
import GossipNames.Proofs.Wire
import GossipNames.Proofs.PublicKey
import GossipNames.Proofs.Resolving

/-! Whose key is handed out for an identity. A key from the value store is always the identity's own.
A key that stands in the peer id is read in any of the forms that the wire allows, so that it is the
key of another identity when it is not written as keys are. -/

namespace GossipNames

namespace PeerId

theorem ofPublicKey_short {key : PublicKey}
    (short : key.encode.length ≤ DigestKind.identity.limit) :
    ofPublicKey key = { kind := .identity, digest := key.encode, fits := short } :=
  dif_pos short

/-- The identity of a key states the key itself, or a digest of another kind. -/
theorem ofPublicKey_eq_iff {peer : PeerId} {key : PublicKey} (inlined : peer.kind = .identity) :
    ofPublicKey key = peer ↔ peer.digest = key.encode := by
  obtain ⟨kind, digest, fits⟩ := peer
  cases inlined
  constructor
  · intro own
    by_cases short : key.encode.length ≤ DigestKind.identity.limit
    · rw [ofPublicKey_short short] at own
      exact (PeerId.mk.inj own).2.symm
    · rw [ofPublicKey, dif_neg short] at own
      cases own
  · rintro rfl
    exact ofPublicKey_short fits

theorem inlineKey?_eq_some_iff [SignatureScheme] {peer : PeerId} {key : PublicKey} :
    peer.inlineKey? = some key ↔ peer.kind = .identity ∧ PublicKey.decode peer.digest = .ok key := by
  obtain ⟨kind, digest, fits⟩ := peer
  cases kind with
  | identity => simp [inlineKey?, toOption_eq_some_iff]
  | sha256 => simp [inlineKey?]

end PeerId

section

variable [SignatureScheme]

theorem validatePublicKey_ok {peer : PeerId} {value : Bytes} {key : PublicKey} :
    validatePublicKey peer value = .ok key ↔
      PublicKey.decode value = .ok key ∧ PeerId.ofPublicKey key = peer := by
  cases decoded : PublicKey.decode value with
  | error error => simp [validatePublicKey, decoded]
  | ok found =>
    by_cases own : PeerId.ofPublicKey found = peer
    · simp only [validatePublicKey, decoded, own, if_true, Except.ok.injEq]
      exact ⟨fun same => ⟨same, same ▸ own⟩, fun both => both.1⟩
    · simp only [validatePublicKey, decoded, own, if_false, reduceCtorEq, Except.ok.injEq, false_iff]
      rintro ⟨rfl, same⟩
      exact own same

/-- Of all that is published for an identity, only its own key is chosen. -/
theorem choosePublicKey_ok {peer : PeerId} {candidates : List Bytes} {key : PublicKey}
    (chosen : choosePublicKey peer candidates = .ok key) :
    ∃ candidate ∈ candidates, validatePublicKey peer candidate = .ok key := by
  unfold choosePublicKey at chosen
  split at chosen
  · cases chosen
  · split at chosen
    · rename_i found
      cases chosen
      obtain ⟨candidate, member, valid⟩ := List.exists_of_findSome?_eq_some found
      exact ⟨candidate, member, toOption_eq_some_iff.mp valid⟩
    · cases chosen

/-- A key that stands in the peer id is handed out without a question to anyone. -/
theorem fetchPublicKey_inlined {m : Type → Type} [Monad m]
    {getValues? : Option (Bytes → m (Except String (List Bytes)))} {peer : PeerId}
    {key : PublicKey} (inlined : peer.inlineKey? = some key) :
    fetchPublicKey getValues? peer = return .ok key := by
  unfold fetchPublicKey
  rw [inlined]

section Asking

variable {m : Type → Type} [Monad m] [LawfulMonad m]
  {getValues : Bytes → m (Except String (List Bytes))} {peer : PeerId}

theorem fetchPublicKey_refused {reason : String} (absent : peer.inlineKey? = none)
    (refused : getValues (RoutingKey.publicKey peer).toBytes = pure (.error reason)) :
    fetchPublicKey (some getValues) peer = pure (.error (.refused reason)) := by
  unfold fetchPublicKey
  rw [absent]
  dsimp only
  rw [refused, pure_bind]

theorem fetchPublicKey_given {candidates : List Bytes} (absent : peer.inlineKey? = none)
    (given : getValues (RoutingKey.publicKey peer).toBytes = pure (.ok candidates)) :
    fetchPublicKey (some getValues) peer = pure (choosePublicKey peer candidates) := by
  unfold fetchPublicKey
  rw [absent]
  dsimp only
  rw [given, pure_bind]

end Asking

/-- A key comes from the peer id, or else from a value that was published for the identity. -/
theorem fetchPublicKey_ok {getValues? : Option (Bytes → Except String (List Bytes))}
    {peer : PeerId} {key : PublicKey} (found : fetchPublicKey (m := Id) getValues? peer = .ok key) :
    peer.inlineKey? = some key
      ∨ peer.inlineKey? = none ∧ ∃ value, validatePublicKey peer value = .ok key := by
  cases inlined : peer.inlineKey? with
  | some own =>
    rw [fetchPublicKey_inlined inlined] at found
    exact .inl (congrArg some (Except.ok.inj found))
  | none =>
    right
    cases getValues? with
    | none =>
      unfold fetchPublicKey at found
      rw [inlined] at found
      cases found
    | some getValues =>
      cases reply : getValues (RoutingKey.publicKey peer).toBytes with
      | error reason =>
        have outcome := (fetchPublicKey_refused (m := Id) inlined reply).symm.trans found
        cases outcome
      | ok candidates =>
        have chosen := (fetchPublicKey_given (m := Id) inlined reply).symm.trans found
        obtain ⟨value, -, valid⟩ := choosePublicKey_ok chosen
        exact ⟨rfl, value, valid⟩

/-- The key that is handed out for an identity is the identity's own unless it stands in the peer id
in another form than the one keys are written in. This is the check that a published value has to
pass. Identities that state the same key as it is written are the same. -/
theorem ofPublicKey_eq_iff_written {getValues? : Option (Bytes → Except String (List Bytes))}
    {peer : PeerId} {key : PublicKey} (found : fetchPublicKey (m := Id) getValues? peer = .ok key) :
    (PeerId.ofPublicKey key = peer ↔ peer.inlineKey? = some key → peer.digest = key.encode)
      ∧ (key.IsNormal →
        (validatePublicKey peer key.encode = .ok key ↔ PeerId.ofPublicKey key = peer))
      ∧ ∀ other, other.inlineKey? = some key → other.digest = key.encode →
        (peer.inlineKey? = some key → peer.digest = key.encode) → other = peer := by
  have own : PeerId.ofPublicKey key = peer ↔
      peer.inlineKey? = some key → peer.digest = key.encode := by
    rcases fetchPublicKey_ok found with inlined | ⟨absent, value, valid⟩
    · obtain ⟨kind, -⟩ := PeerId.inlineKey?_eq_some_iff.mp inlined
      rw [PeerId.ofPublicKey_eq_iff kind]
      exact ⟨fun written _ => written, fun written => written inlined⟩
    · refine iff_of_true (validatePublicKey_ok.mp valid).2 ?_
      intro inlined
      rw [absent] at inlined
      cases inlined
  refine ⟨own, ?_, ?_⟩
  · intro normal
    rw [validatePublicKey_ok]
    exact ⟨fun both => both.2, fun same => ⟨PublicKey.decode_encode normal, same⟩⟩
  · intro other inlined written also
    obtain ⟨kind, -⟩ := PeerId.inlineKey?_eq_some_iff.mp inlined
    rw [← own.mpr also]
    exact ((PeerId.ofPublicKey_eq_iff kind).mpr written).symm

end

namespace PeerId.Sample

open Resolving.Sample

/-- The identity of a key. -/
def written : PeerId :=
  ofPublicKey publicKey

/-- The same key with its fields the other way round. -/
def swapped : PeerId where
  kind := .identity
  digest := 18 :: 32 :: (publicKey.bytes ++ [8, 1])
  fits := by decide

theorem inlined : written.inlineKey? = some publicKey ∧ swapped.inlineKey? = some publicKey := by
  decide +kernel

theorem normal : publicKey.IsNormal where
  kept := by decide +kernel
  held := by decide

end PeerId.Sample

open Resolving.Sample PeerId.Sample in
/-- The key of an identity that states it as it is written. -/
theorem ofPublicKey_eq_iff_written_own :
    fetchPublicKey (m := Id) none written = .ok publicKey
      ∧ PeerId.ofPublicKey publicKey = written
      ∧ validatePublicKey written publicKey.encode = .ok publicKey := by
  have found : fetchPublicKey (m := Id) none written = .ok publicKey :=
    fetchPublicKey_inlined inlined.1
  obtain ⟨own, valid, -⟩ := ofPublicKey_eq_iff_written found
  have digest : written.digest = publicKey.encode := by decide +kernel
  have same := own.mpr fun _ => digest
  exact ⟨found, same, (valid normal).mpr same⟩

open Resolving.Sample PeerId.Sample in
/-- One key is handed out for two identities. It is refused as a published key of the one it does not
belong to, and yet a record that is signed with it is taken for both. -/
theorem swapped_shares_key :
    (fetchPublicKey (m := Id) none swapped = .ok publicKey
        ∧ PeerId.ofPublicKey publicKey ≠ swapped)
      ∧ validatePublicKey swapped publicKey.encode = .error .keyMismatch
      ∧ validatePut (RoutingKey.record written).toBytes older none (fun _ => none) early = .ok ()
      ∧ validatePut (RoutingKey.record swapped).toBytes older none (fun _ => none) early
        = .ok () := by
  refine ⟨⟨fetchPublicKey_inlined inlined.2, ?_⟩, ?_⟩ <;> decide +kernel

end GossipNames
