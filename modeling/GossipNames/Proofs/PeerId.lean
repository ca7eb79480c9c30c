import GossipNames.Datastore
import GossipNames.Proofs.Base58
import GossipNames.Proofs.Varint
import Mathlib.Data.List.Basic

/-! Different identities have different bytes, and so different keys wherever something is kept for
them; and the bytes give the identity back. -/

namespace GossipNames

theorem Text.after?_eq_some_iff {lead text rest : String} :
    after? lead text = some rest ↔ lead ++ rest = text := by
  rw [after?, Option.map_eq_some_iff]
  constructor
  · rintro ⟨left, found, rfl⟩
    rw [← String.toList_inj, String.toList_append, String.toList_ofList]
    exact List.isPrefixOf?_eq_some_iff_append_eq.mp found
  · rintro rfl
    refine ⟨rest.toList, ?_, String.ofList_toList⟩
    exact List.isPrefixOf?_eq_some_iff_append_eq.mpr (String.toList_append ..).symm

namespace PeerId

/-- The code and the length take a byte each. -/
theorem toBytes_eq (peer : PeerId) :
    peer.toBytes
      = UInt8.ofNat peer.kind.code :: UInt8.ofNat peer.digest.length :: peer.digest := by
  have fits := peer.fits
  have limit : peer.kind.limit ≤ 64 ∧ peer.kind.code < 128 := by
    cases peer.kind <;> decide
  have short : peer.digest.length < 128 := by omega
  rw [toBytes, Varint.encode_small limit.2, Varint.encode_small short]
  rfl

theorem toBytes_injective {first second : PeerId} (same : first.toBytes = second.toBytes) :
    first = second := by
  obtain ⟨firstKind, firstDigest, firstFits⟩ := first
  obtain ⟨secondKind, secondDigest, secondFits⟩ := second
  rw [toBytes_eq, toBytes_eq] at same
  obtain ⟨codes, rest⟩ := List.cons.inj same
  obtain ⟨-, digests⟩ := List.cons.inj rest
  have kinds : firstKind = secondKind := by
    cases firstKind <;> cases secondKind <;> simp [DigestKind.code] at codes ⊢
  cases kinds
  cases digests
  rfl

theorem ofBytes_toBytes (peer : PeerId) : ofBytes peer.toBytes = .ok peer := by
  rw [toBytes_eq, ofBytes_cons]

theorem parse_toString (peer : PeerId) : parse peer.toString = .ok peer := by
  rw [toString, parse, Base58.decode_encode]
  exact ofBytes_toBytes peer

theorem toString_injective {first second : PeerId} (same : first.toString = second.toString) :
    first = second := by
  have parsed := parse_toString first
  rw [same, parse_toString] at parsed
  exact (Except.ok.inj parsed).symm

end PeerId

theorem DatastoreKey.ofPeer_inj {first second : PeerId} :
    ofPeer first = ofPeer second ↔ first = second := by
  constructor
  · intro same
    have keys : (RoutingKey.record first).toBytes = (RoutingKey.record second).toBytes :=
      DatastoreKey.mk.inj same
    exact PeerId.toBytes_injective (List.append_cancel_left keys)
  · rintro rfl
    rfl

end GossipNames
