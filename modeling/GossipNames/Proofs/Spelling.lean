import GossipNames.Gossip.Topic
import GossipNames.Proofs.KeySource
import GossipNames.Proofs.Name

/-! In which bytes and texts an identity is read. The two numbers in front of its digest may take ten
bytes each, which have room for more bits than are looked at, so there are others than the ones it is
written in. Keys and names are canonical where these numbers stand in a byte each. -/

namespace GossipNames

namespace PeerId

/-- An identity's bytes with so much in front of the 64 bits of its code, and of its length. -/
def spelling (code length : Fin 64) (peer : PeerId) : Bytes :=
  Varint.spelling code peer.kind.code ++ Varint.spelling length peer.digest.length ++ peer.digest

/-- The code and the length stand in a byte each. -/
def IsPlain (id : Bytes) : Prop :=
  ∀ byte ∈ id.take 2, byte < 128

instance (id : Bytes) : Decidable (IsPlain id) :=
  inferInstanceAs (Decidable (∀ byte ∈ id.take 2, byte < 128))

variable {peer : PeerId} {id : Bytes}

theorem spelling_zero (peer : PeerId) : peer.spelling 0 0 = peer.toBytes := by
  rw [spelling, Varint.spelling_zero, Varint.spelling_zero, toBytes]

private theorem numbers_small (peer : PeerId) :
    peer.kind.code < 128 ∧ peer.digest.length < 128 := by
  have fits := peer.fits
  have limit : peer.kind.limit ≤ 64 ∧ peer.kind.code < 128 := by cases peer.kind <;> decide
  omega

theorem ofBytes_eq_ok_iff : ofBytes id = .ok peer ↔ ∃ code length, id = peer.spelling code length := by
  obtain ⟨small, short⟩ := numbers_small peer
  have bound : 128 < UInt64.size := by decide
  rw [ofBytes_eq_ok_iff_read]
  constructor
  · rintro ⟨rest, read, again⟩
    obtain ⟨-, code, rfl⟩ := Varint.readMinimal64?_eq_some_iff.mp read
    obtain ⟨-, length, rfl⟩ := Varint.readMinimal64?_eq_some_iff.mp again
    exact ⟨code, length, by rw [spelling, List.append_assoc]⟩
  · rintro ⟨code, length, rfl⟩
    refine ⟨Varint.spelling length peer.digest.length ++ peer.digest, ?_, ?_⟩
    · rw [Varint.readMinimal64?_eq_some_iff, spelling, List.append_assoc]
      exact ⟨small.trans bound, code, rfl⟩
    · rw [Varint.readMinimal64?_eq_some_iff]
      exact ⟨short.trans bound, length, rfl⟩

theorem isPlain_spelling_iff {code length : Fin 64} :
    IsPlain (peer.spelling code length) ↔ code = 0 ∧ length = 0 := by
  obtain ⟨small, short⟩ := numbers_small peer
  obtain ⟨first, more, shown, single⟩ := Varint.exists_spelling_cons code small
  obtain ⟨second, others, shown', single'⟩ := Varint.exists_spelling_cons length short
  have alone : code = 0 → more = [] := by
    rintro rfl
    rw [Varint.spelling_zero, Varint.encode_small small] at shown
    exact (List.cons.inj shown).2.symm
  constructor
  · intro plain
    have zero : code = 0 := single.mp (plain first (by simp [spelling, shown]))
    exact ⟨zero, single'.mp (plain second (by simp [spelling, shown, shown', alone zero]))⟩
  · rintro ⟨rfl, rfl⟩ byte member
    rw [spelling, shown, shown', alone rfl] at member
    have either : byte = first ∨ byte = second := by simpa using member
    rcases either with rfl | rfl
    · exact single.mpr rfl
    · exact single'.mpr rfl

/-- Bytes that are read as an identity are the ones it is written in exactly when they are plain. -/
theorem eq_toBytes_iff_isPlain (read : ofBytes id = .ok peer) : id = peer.toBytes ↔ IsPlain id := by
  obtain ⟨code, length, rfl⟩ := ofBytes_eq_ok_iff.mp read
  rw [isPlain_spelling_iff]
  constructor
  · intro same
    apply isPlain_spelling_iff.mp
    rw [same, ← spelling_zero]
    exact isPlain_spelling_iff.mpr ⟨rfl, rfl⟩
  · rintro ⟨rfl, rfl⟩
    exact spelling_zero peer

end PeerId

namespace RoutingKey

def lead : RoutingKey → Bytes
  | .record _ => recordLead
  | .publicKey _ => publicKeyLead

def spelling (code length : Fin 64) (key : RoutingKey) : Bytes :=
  key.lead ++ key.peer.spelling code length

/-- What stands behind the lead. -/
def id? (bytes : Bytes) : Option Bytes :=
  recordLead.isPrefixOf? bytes <|> publicKeyLead.isPrefixOf? bytes

/-- If it is in one of the namespaces, the code and the length stand in a byte each. -/
def IsPlain (bytes : Bytes) : Prop :=
  ∀ id ∈ id? bytes, PeerId.IsPlain id

variable {key : RoutingKey} {bytes : Bytes}

theorem toBytes_eq (key : RoutingKey) : key.toBytes = key.lead ++ key.peer.toBytes := by
  cases key <;> rfl

theorem id?_lead (key : RoutingKey) (id : Bytes) : id? (key.lead ++ id) = some id := by
  have apart : recordLead.isPrefixOf? (publicKeyLead ++ id) = none := rfl
  cases key with
  | record peer => rw [id?, lead, List.isPrefixOf?_eq_some_iff_append_eq.mpr rfl]; rfl
  | publicKey peer => rw [id?, lead, apart, List.isPrefixOf?_eq_some_iff_append_eq.mpr rfl]; rfl

/-- What is read as a key is a lead with an identity behind it. -/
theorem ofBytes?_eq_some_iff :
    ofBytes? bytes = some key ↔ ∃ id, bytes = key.lead ++ id ∧ PeerId.ofBytes id = .ok key.peer := by
  have apart : ∀ id, recordLead.isPrefixOf? (publicKeyLead ++ id) = none := fun id => rfl
  constructor
  · intro read
    unfold ofBytes? at read
    split at read
    · rename_i id stripped
      obtain ⟨peer, found, rfl⟩ := Option.map_eq_some_iff.mp read
      obtain rfl := List.isPrefixOf?_eq_some_iff_append_eq.mp stripped
      exact ⟨id, rfl, toOption_eq_some_iff.mp found⟩
    · split at read
      · rename_i id stripped
        obtain ⟨peer, found, rfl⟩ := Option.map_eq_some_iff.mp read
        obtain rfl := List.isPrefixOf?_eq_some_iff_append_eq.mp stripped
        exact ⟨id, rfl, toOption_eq_some_iff.mp found⟩
      · cases read
  · rintro ⟨id, rfl, found⟩
    cases key with
    | record peer =>
      rw [ofBytes?, lead, List.isPrefixOf?_eq_some_iff_append_eq.mpr rfl]
      simp only [found]
      rfl
    | publicKey peer =>
      rw [ofBytes?, lead, apart, List.isPrefixOf?_eq_some_iff_append_eq.mpr rfl]
      simp only [found]
      rfl

theorem ofBytes?_eq_some_iff_spelling :
    ofBytes? bytes = some key ↔ ∃ code length, bytes = key.spelling code length := by
  rw [ofBytes?_eq_some_iff]
  constructor
  · rintro ⟨id, rfl, read⟩
    obtain ⟨code, length, rfl⟩ := PeerId.ofBytes_eq_ok_iff.mp read
    exact ⟨code, length, rfl⟩
  · rintro ⟨code, length, rfl⟩
    exact ⟨_, rfl, PeerId.ofBytes_eq_ok_iff.mpr ⟨code, length, rfl⟩⟩

theorem eq_toBytes_iff_isPlain (read : ofBytes? bytes = some key) :
    bytes = key.toBytes ↔ IsPlain bytes := by
  obtain ⟨id, rfl, found⟩ := ofBytes?_eq_some_iff.mp read
  rw [toBytes_eq, List.append_cancel_left_eq, PeerId.eq_toBytes_iff_isPlain found, IsPlain,
    id?_lead]
  simp

theorem isPlain_toBytes (key : RoutingKey) : IsPlain key.toBytes :=
  (eq_toBytes_iff_isPlain (ofBytes?_toBytes key)).mp rfl

theorem validatePut_congr [SignatureScheme] {other : Bytes} (same : ofBytes? bytes = ofBytes? other) :
    validatePut bytes = validatePut other := by
  funext value existing known now
  unfold validatePut
  rw [same]

/-- A key is read from all spellings of what it stands for and from nothing else. Keys and identities
belong together one to one as long as the keys that are read are plain. Whatever is accepted under
some key is accepted under the key that the identity is written in, which is another one unless the
former is plain. -/
theorem written_iff_plain [SignatureScheme] (bytes : Bytes) :
    (∀ key, ofBytes? bytes = some key ↔ ∃ code length, bytes = spelling code length key)
      ∧ ((∀ key, ofBytes? bytes = some key ↔ bytes = toBytes key)
        ↔ ((ofBytes? bytes).isSome → IsPlain bytes))
      ∧ ∀ value existing known now, validatePut bytes value existing known now = .ok () →
        ∃ key, ofBytes? bytes = some key
          ∧ validatePut (toBytes key) value existing known now = .ok ()
          ∧ (bytes = toBytes key ↔ IsPlain bytes) := by
  refine ⟨fun key => ofBytes?_eq_some_iff_spelling, ⟨?_, ?_⟩, ?_⟩
  · intro canonical found
    obtain ⟨key, read⟩ := Option.isSome_iff_exists.mp found
    exact (eq_toBytes_iff_isPlain read).mp ((canonical key).mp read)
  · intro plain key
    constructor
    · intro read
      exact (eq_toBytes_iff_isPlain read).mpr (plain (by rw [read]; rfl))
    · rintro rfl
      exact ofBytes?_toBytes key
  · intro value existing known now accepted
    cases read : ofBytes? bytes with
    | none =>
      unfold validatePut at accepted
      rw [read] at accepted
      cases accepted
    | some key =>
      refine ⟨key, rfl, ?_, eq_toBytes_iff_isPlain read⟩
      rwa [← validatePut_congr (read.trans (ofBytes?_toBytes key).symm)]

end RoutingKey

namespace PeerId.Sample

open Resolving.Sample

/-- The bytes of the identity, with a bit in front of the 64 of its code. -/
def overfull : Bytes :=
  [128, 128, 128, 128, 128, 128, 128, 128, 128, 2, 36] ++ 8 :: 1 :: 18 :: 32 :: publicKey.bytes

theorem read_overfull : ofBytes overfull = .ok written ∧ overfull ≠ written.toBytes := by
  decide +kernel

/-- The key under which the records of the identity are kept. -/
def ownKey : Bytes :=
  RoutingKey.recordLead ++ 0 :: 36 :: 8 :: 1 :: 18 :: 32 :: publicKey.bytes

theorem ownKey_eq : ownKey = (RoutingKey.record written).toBytes := by
  decide +kernel

theorem older_accepted :
    validatePut ownKey older none (fun _ => none) early = .ok () := by
  decide +kernel

end PeerId.Sample

open PeerId.Sample Resolving.Sample in
/-- A record is accepted under the key that its name has, which is read from these bytes only. -/
theorem RoutingKey.written_iff_plain_own :
    (∀ key, ofBytes? ownKey = some key ↔ ownKey = toBytes key)
      ∧ validatePut ownKey older none (fun _ => none) early = .ok ()
      ∧ ∃ key, ofBytes? ownKey = some key ∧ ownKey = toBytes key := by
  obtain ⟨-, canonical, accepted⟩ := written_iff_plain ownKey
  have plain : IsPlain ownKey := ownKey_eq ▸ isPlain_toBytes (.record written)
  obtain ⟨key, read, -, own⟩ := accepted older none (fun _ => none) early older_accepted
  exact ⟨canonical.mpr fun _ => plain, older_accepted, key, read, own.mpr plain⟩

open PeerId.Sample Resolving.Sample in
/-- There is another key for the name, under which the record is accepted too. -/
theorem RoutingKey.overfull_accepted :
    ofBytes? (recordLead ++ overfull) = some (.record written)
      ∧ recordLead ++ overfull ≠ toBytes (.record written)
      ∧ validatePut (recordLead ++ overfull) older none (fun _ => none) early = .ok ()
      ∧ validatePut (toBytes (.record written)) older none (fun _ => none) early = .ok () := by
  have named : ofBytes? (recordLead ++ overfull) = some (.record written) :=
    ofBytes?_eq_some_iff.mpr ⟨overfull, rfl, read_overfull.1⟩
  have accepted := ownKey_eq ▸ older_accepted
  refine ⟨named, ?_, ?_, accepted⟩
  · intro same
    exact read_overfull.2 (List.append_cancel_left same)
  · rwa [validatePut_congr (named.trans (ofBytes?_toBytes _).symm)]

namespace Name

/-- A name without the leading part of a topic. -/
def bare (name : String) : String :=
  (Text.after? lead name).getD name

/-- The code and the length of the identity stand in a byte each. -/
def IsPlain (name : String) : Prop :=
  ∃ id, Base58.decode (bare name) = .ok id ∧ PeerId.IsPlain id

variable {name text : String} {peer : PeerId}

@[simp] theorem bare_lead (id : String) : bare (lead ++ id) = id := by
  rw [bare, Text.after?_eq_some_iff.mpr rfl, Option.getD_some]

@[simp] theorem bare_topic (peer : PeerId) : bare (topic peer) = peer.toString :=
  bare_lead _

@[simp] theorem bare_toString (peer : PeerId) : bare peer.toString = peer.toString := by
  rw [bare, after?_toString, Option.getD_none]

theorem parse_eq_ok_iff :
    parse name = .ok peer ↔
      ∃ id, Base58.decode (bare name) = .ok id ∧ PeerId.ofBytes id = .ok peer := by
  have opened : parse name = (PeerId.parse (bare name)).mapError (.peerId (bare name)) := rfl
  rw [opened, PeerId.parse]
  cases Base58.decode (bare name) with
  | error fault => simp
  | ok id =>
    cases found : PeerId.ofBytes id <;> simp [found]

/-- A name is a text of bytes in which the identity is spelled, with or without the lead. -/
theorem parse_eq_ok_iff_spelling :
    parse name = .ok peer ↔ ∃ code length, bare name = Base58.encode (peer.spelling code length) := by
  rw [parse_eq_ok_iff]
  constructor
  · rintro ⟨id, decoded, read⟩
    obtain ⟨code, length, rfl⟩ := PeerId.ofBytes_eq_ok_iff.mp read
    exact ⟨code, length, (Base58.encode_of_decode decoded).symm⟩
  · rintro ⟨code, length, shown⟩
    exact ⟨_, Base58.decode_eq_ok_iff.mpr shown.symm, PeerId.ofBytes_eq_ok_iff.mpr ⟨_, _, rfl⟩⟩

/-- The text behind the lead is the identity's own exactly when it is plain. -/
theorem bare_eq_toString_iff (read : parse name = .ok peer) :
    bare name = peer.toString ↔ IsPlain name := by
  obtain ⟨id, decoded, found⟩ := parse_eq_ok_iff.mp read
  have shown := Base58.encode_of_decode decoded
  rw [← shown, PeerId.toString, Base58.encode_inj, PeerId.eq_toBytes_iff_isPlain found, IsPlain,
    decoded]
  simp

theorem isPlain_topic (peer : PeerId) : IsPlain (topic peer) :=
  (bare_eq_toString_iff (parse_topic peer)).mp (bare_topic peer)

theorem isPlain_toString (peer : PeerId) : IsPlain peer.toString :=
  (bare_eq_toString_iff (parse_toString peer)).mp (bare_toString peer)

/-- The identity of a topic is that of its name, which has to have the lead. -/
theorem ofTopic_eq_ok_iff :
    ofTopic text = .ok peer ↔ lead.toList <+: text.toList ∧ parse text = .ok peer := by
  have led : (Text.after? lead text).isNone = false ↔ lead.toList <+: text.toList := by
    rw [Option.isNone_eq_false_iff, Option.isSome_iff_exists]
    constructor
    · rintro ⟨rest, stripped⟩
      rw [← Text.after?_eq_some_iff.mp stripped, String.toList_append]
      exact List.prefix_append _ _
    · rintro ⟨rest, same⟩
      refine ⟨String.ofList rest, Text.after?_eq_some_iff.mpr (String.toList_inj.mp ?_)⟩
      rw [String.toList_append, String.toList_ofList, same]
  rw [← led, ofTopic]
  cases (Text.after? lead text).isNone with
  | true => simp
  | false => cases parse text <;> simp

/-- Whether two names stand for the same is told from their texts: whether they are names of one
identity, have one topic, and share the subscription that the first one began. -/
structure ToldByText (first second : String) (peer other : PeerId) : Prop where
  identity : peer = other ↔ bare first = bare second
  topic : topic peer = topic other ↔ bare first = bare second
  subscription : ∀ (resolver : GossipResolver) (publicKey : PublicKey),
    resolver.subscriptions.contains (Name.topic other) = false →
      (((resolver.subscribed (Name.topic peer) publicKey).cancel second).2 = true
        ↔ bare first = bare second)

theorem toldByText {first second : String} {peer other : PeerId}
    (told : peer = other ↔ bare first = bare second) (read : parse second = .ok other) :
    ToldByText first second peer other where
  identity := told
  topic := by
    rw [← told]
    exact ⟨topic_injective, fun same => same ▸ rfl⟩
  subscription := by
    intro resolver publicKey absent
    have ends : ((resolver.subscribed (topic peer) publicKey).cancel second).2
        = (resolver.subscribed (topic peer) publicKey).subscriptions.contains (topic other) := by
      unfold GossipResolver.cancel
      rw [read]
      dsimp only
      split
      · rename_i found
        exact found.symm
      · rename_i missing
        exact (Bool.eq_false_iff.mpr missing).symm
    rw [ends, ← told, GossipResolver.subscribed, Table.contains, Table.get?_put]
    by_cases same : topic other = topic peer
    · simp [topic_injective same]
    · have apart : peer ≠ other := fun own => same (own ▸ rfl)
      rw [if_neg same, ← Table.contains, absent]
      simp [apart]

/-- The topic and the text of an identity are names of it. A name is read from every spelling of its
identity and from nothing else, and it is the identity's own behind the lead exactly when it is plain.
Whether it stands for the same as a plain name can be told from their texts exactly when it is plain
as well. Topics are the names with the lead, and the plain ones of them are written as they were
read. -/
theorem canonical_iff_plain (name : String) :
    (∀ peer, parse (topic peer) = .ok peer ∧ parse peer.toString = .ok peer)
      ∧ (∀ peer, parse name = .ok peer ↔
        ∃ code length, bare name = Base58.encode (peer.spelling code length))
      ∧ (∀ peer, parse name = .ok peer → (topic peer = lead ++ bare name ↔ IsPlain name))
      ∧ (∀ peer, parse name = .ok peer →
        ((∀ plain other, parse plain = .ok other → IsPlain plain →
            ToldByText plain name other peer) ↔ IsPlain name))
      ∧ (∀ peer, ofTopic name = .ok peer ↔ lead.toList <+: name.toList ∧ parse name = .ok peer)
      ∧ ∀ peer, ofTopic name = .ok peer → (topic peer = name ↔ IsPlain name) := by
  refine ⟨fun peer => ⟨parse_topic peer, parse_toString peer⟩, ?_, ?_, ?_, ?_, ?_⟩
  · intro peer
    exact parse_eq_ok_iff_spelling
  · intro peer read
    rw [← bare_eq_toString_iff read, topic, String.append_right_inj, eq_comm]
  · intro peer read
    constructor
    · intro told
      have own := (told (topic peer) peer (parse_topic peer) (isPlain_topic peer)).identity.mp rfl
      rw [← bare_eq_toString_iff read, ← own, bare_topic]
    · intro own plain other read' own'
      refine toldByText ?_ read
      rw [(bare_eq_toString_iff read').mpr own', (bare_eq_toString_iff read).mpr own]
      exact ⟨fun same => same ▸ rfl, PeerId.toString_injective⟩
  · intro peer
    exact ofTopic_eq_ok_iff
  · intro peer read
    obtain ⟨⟨rest, led⟩, named⟩ := ofTopic_eq_ok_iff.mp read
    have whole : name = lead ++ String.ofList rest := by
      rw [← String.toList_inj, String.toList_append, String.toList_ofList, led]
    rw [← bare_eq_toString_iff named, whole, bare_lead, topic, String.append_right_inj, eq_comm]

end Name

namespace PeerId.Sample

open Resolving.Sample

/-- The text of the bytes with a bit too many. -/
def longName : String :=
  "24wda9qvbX8hkdxHgTkKgCnF599wgwzJEzrbwFfr95AUchPF2mBuR7BhLhGo97btP"

theorem decode_longName : Base58.decode longName = .ok overfull := by
  decide +kernel

theorem bare_longName : Name.bare longName = longName := by
  decide +kernel

end PeerId.Sample

open PeerId.Sample in
/-- An identity's text and its topic are told to be names of the same. -/
theorem Name.canonical_iff_plain_topic :
    parse written.toString = .ok written
      ∧ ToldByText written.toString (topic written) written written
      ∧ ofTopic (topic written) = .ok written ∧ topic written = lead ++ bare written.toString := by
  obtain ⟨names, -, own, -⟩ := canonical_iff_plain written.toString
  obtain ⟨-, -, -, pairs, topics, -⟩ := canonical_iff_plain (topic written)
  obtain ⟨named, named'⟩ := names written
  have plain := isPlain_toString written
  refine ⟨named', ?_, ?_, (own _ named').mpr plain⟩
  · exact (pairs _ named).mpr (isPlain_topic written) _ _ named' plain
  · exact (topics _).mpr ⟨⟨written.toString.toList, by rw [topic, String.toList_append]⟩, named⟩

open PeerId.Sample in
/-- An identity is known by a name that is not the one of its topic. -/
theorem Name.longName_read :
    parse longName = .ok written ∧ topic written ≠ lead ++ bare longName
      ∧ ofTopic (lead ++ longName) = .ok written ∧ topic written ≠ lead ++ longName := by
  have read : parse longName = .ok written :=
    parse_eq_ok_iff.mpr ⟨overfull, by rw [bare_longName, decode_longName], read_overfull.1⟩
  have led : parse (lead ++ longName) = .ok written :=
    parse_eq_ok_iff.mpr ⟨overfull, by rw [bare_lead, decode_longName], read_overfull.1⟩
  have apart : topic written ≠ lead ++ longName := by
    intro same
    have own := (String.append_right_inj lead).mp same
    have decoded := decode_longName
    rw [← own, PeerId.toString, Base58.decode_encode, Except.ok.injEq] at decoded
    exact read_overfull.2 decoded.symm
  have prefixed : lead.toList <+: (lead ++ longName).toList := by
    rw [String.toList_append]
    exact List.prefix_append _ _
  exact ⟨read, bare_longName.symm ▸ apart, ofTopic_eq_ok_iff.mpr ⟨prefixed, led⟩, apart⟩

end GossipNames
