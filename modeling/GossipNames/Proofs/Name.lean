import GossipNames.Gossip.Topic
import GossipNames.Proofs.PeerId

/-! Names, topics and the keys of the value store say which identity they belong to. -/

namespace GossipNames

namespace Name

/-- The topic of an identity is a name of it. -/
theorem parse_topic (peer : PeerId) : parse (topic peer) = .ok peer := by
  have stripped : Text.after? lead (topic peer) = some peer.toString :=
    Text.after?_eq_some_iff.mpr rfl
  rw [parse, stripped, Option.getD_some, PeerId.parse_toString]
  rfl

theorem after?_toString (peer : PeerId) : Text.after? lead peer.toString = none := by
  have plain : '/' ∉ peer.toString.toList := Base58.slash_not_mem_encode peer.toBytes
  rw [Text.after?, Option.map_eq_none_iff]
  cases chars : peer.toString.toList with
  | nil => rfl
  | cons char rest =>
    have other : char ≠ '/' := by
      rintro rfl
      exact plain (chars ▸ List.mem_cons_self)
    simp [lead, List.isPrefixOf?, other.symm]

/-- So is the peer id alone. -/
theorem parse_toString (peer : PeerId) : parse peer.toString = .ok peer := by
  rw [parse, after?_toString, Option.getD_none, PeerId.parse_toString]
  rfl

/-- Nothing may stand behind the name of an identity: a slash does not belong to a peer id. -/
theorem parse_topic_slash (peer : PeerId) (rest : String) :
    ∃ fault, parse (topic peer ++ "/" ++ rest)
      = .error (.peerId (peer.toString ++ "/" ++ rest) (.base58 fault)) := by
  have stripped : Text.after? lead (topic peer ++ "/" ++ rest)
      = some (peer.toString ++ "/" ++ rest) := by
    apply Text.after?_eq_some_iff.mpr
    simp only [topic, String.append_assoc]
  have member : '/' ∈ (peer.toString ++ "/" ++ rest).toList := by
    simp
  obtain ⟨fault, failed⟩ := Base58.decode_of_mem_slash member
  refine ⟨fault, ?_⟩
  rw [parse, stripped, Option.getD_some, PeerId.parse, failed]
  rfl

theorem topic_injective {first second : PeerId} (same : topic first = topic second) :
    first = second := by
  apply PeerId.toString_injective
  exact (String.append_right_inj lead).mp same

end Name

theorem RoutingKey.ofBytes?_toBytes (key : RoutingKey) : ofBytes? key.toBytes = some key := by
  cases key with
  | record peer =>
    rw [ofBytes?, toBytes, List.isPrefixOf?_eq_some_iff_append_eq.mpr rfl]
    simp only [PeerId.ofBytes_toBytes]
    rfl
  | publicKey peer =>
    have other : recordLead.isPrefixOf? (publicKeyLead ++ peer.toBytes) = none := rfl
    rw [ofBytes?, toBytes, other, List.isPrefixOf?_eq_some_iff_append_eq.mpr rfl]
    simp only [PeerId.ofBytes_toBytes]
    rfl

theorem RoutingKey.toBytes_injective {first second : RoutingKey}
    (same : first.toBytes = second.toBytes) : first = second := by
  have read := ofBytes?_toBytes first
  rw [same, ofBytes?_toBytes] at read
  exact (Option.some.inj read).symm

end GossipNames
