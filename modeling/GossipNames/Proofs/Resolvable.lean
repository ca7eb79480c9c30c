import GossipNames.Proofs.Authenticity
import GossipNames.Proofs.IssuedRecords
import GossipNames.Proofs.KeySource
import GossipNames.Proofs.Name
import GossipNames.Proofs.Selection

/-! What is published can be resolved. The key of a name is known from the name alone, and with it an
issued record is accepted wherever it arrives: by a resolver that has subscribed to the name, and by
one that asks the value store, whatever else there is. -/

namespace GossipNames

section Publishing

variable [SignatureScheme]

namespace Keypair

variable {key : Keypair}

/-- The public half is as short as the keys of both kinds are, and in the form that they are kept
in. -/
structure IsSound (key : Keypair) : Prop where
  short : key.publicKey.bytes.length ≤ 33
  kept : SignatureScheme.normalize? key.kind key.publicKey.bytes = some key.publicKey.bytes

/-- The public half verifies what is signed. -/
def Attests (key : Keypair) (message : Bytes) : Prop :=
  ∀ signature, key.sign message = .ok signature →
    signature.Addressable ∧ key.publicKey.verify message signature = true

theorem IsSound.normal (sound : key.IsSound) : key.publicKey.IsNormal where
  kept := sound.kept
  held := Nat.lt_of_le_of_lt sound.short (by decide)

/-- The identity states the key. -/
theorem IsSound.inlined (sound : key.IsSound) : key.peerId.inlineKey? = some key.publicKey := by
  have length := PublicKey.length_encode (Nat.lt_of_le_of_lt sound.short (by decide))
  have short : key.publicKey.encode.length ≤ DigestKind.identity.limit := by
    have := sound.short
    rw [length, DigestKind.limit]
    omega
  rw [peerId, PeerId.ofPublicKey_short short, PeerId.inlineKey?_eq_some_iff]
  exact ⟨rfl, PublicKey.decode_encode sound.normal⟩

end Keypair

section Issued

variable {key : Keypair} {value : Path} {endOfLife : Timestamp} {record : NameRecord}

theorem NameRecord.encodes_of_create {sequence : UInt64}
    (attests : key.Attests (signingPayload record.value record.rawValidity record.sequence))
    (held : (Bytes.ofString value.text).Addressable)
    (created : create key value sequence endOfLife = .ok record) (early : 0 ≤ endOfLife.year) :
    Encodes key.publicKey record.toBytes record := by
  obtain ⟨-, signature, signed, same⟩ := create_ok.mp created
  have both : record.signature.Addressable ∧ record.verify key.publicKey = true := by
    rw [same] at attests ⊢
    exact attests signature signed
  exact ⟨ofBytes_toBytes_of_create held created both.1 early, both.2⟩

theorem RecordStore.next_of_issue {faults : StoreFaults} {store later : Datastore}
    (issued : issue faults store key value endOfLife = (later, .ok record)) :
    next faults store key value endOfLife = .ok record := by
  have given : (issue faults store key value endOfLife).2 = .ok record := by
    rw [issued]
  exact (kept_of_issued given).1

end Issued

/-- A record that is accepted is what is answered next, as long as it lives. -/
theorem GossipResolver.answers_of_receive {resolver : GossipResolver} {now later : Timestamp}
    {peer : PeerId} {message : Bytes} {subscription : Subscription} {record : NameRecord}
    (opened : resolver.closed = false)
    (found : resolver.subscriptions.get? (Name.topic peer) = some subscription)
    (valid : validateRecord subscription.publicKey now message = .ok record)
    (newer : ∀ kept, subscription.record = some kept → kept.sequence < record.sequence)
    (live : record.isExpired later = false) :
    (resolver.receive now (Name.topic peer) message).1.Answers later peer (.ok record.value) := by
  rw [receive_newer found valid newer]
  have kept : (resolver.subscriptions.put (Name.topic peer)
      { subscription with record := some record }).get? (Name.topic peer)
        = some { subscription with record := some record } := by
    rw [Table.get?_put, if_pos rfl]
  apply answers_of_answer
  · exact opened
  · rw [Table.contains, kept]
    rfl
  · exact answer_live kept live

/-- Whenever a key was asked for, it was had from where keys are found. -/
def Resolving.KeysSourced (node : Resolving) (peer : PeerId) : Prop :=
  ∀ reply, .fetched peer reply ∈ node.log →
    ∃ getValues?, reply = fetchPublicKey (m := Id) getValues? peer

/-- The key of a subscription is the one that the identity states. -/
theorem Resolving.subscribed_key {node : Resolving} (authentic : Authentic node) {peer : PeerId}
    {publicKey : PublicKey} {subscription : Subscription}
    (inlined : peer.inlineKey? = some publicKey) (sourced : node.KeysSourced peer)
    (found : node.resolver.subscriptions.get? (Name.topic peer) = some subscription) :
    subscription.publicKey = publicKey := by
  obtain ⟨other, own, member⟩ := authentic.keys found
  cases Name.topic_injective own
  obtain ⟨getValues?, reply⟩ := sourced _ member
  rw [fetchPublicKey_inlined inlined] at reply
  exact Except.ok.inj reply

section Values

variable {m : Type → Type} [Monad m] [LawfulMonad m] {now : Timestamp} {name : String}
  {publicKey : PublicKey} {candidates : List Bytes}

/-- A name whose identity states its key is resolved with one question. -/
theorem resolveFromValues_inlined {getValues : Bytes → m (Except String (List Bytes))}
    {keyValues? : Option (Bytes → m (Except String (List Bytes)))} {peer : PeerId}
    (inlined : peer.inlineKey? = some publicKey) (parsed : Name.parse name = .ok peer)
    (given : getValues (RoutingKey.record peer).toBytes = pure (.ok candidates))
    (present : candidates ≠ []) :
    resolveFromValues getValues (fetchPublicKey keyValues?) now name
      = pure (chooseValue name publicKey now candidates) := by
  cases candidates with
  | nil => exact absurd rfl present
  | cons first rest =>
    unfold resolveFromValues
    rw [parsed]
    dsimp only
    rw [given, pure_bind]
    dsimp only
    rw [fetchPublicKey_inlined inlined, pure_bind]

/-- A valid candidate is answered, or one that ranks as high. -/
theorem chooseValue_of_valid {candidate : Bytes} {record : NameRecord}
    (member : candidate ∈ candidates) (valid : validateRecord publicKey now candidate = .ok record) :
    ∃ best, chooseValue name publicKey now candidates = .ok best.value
      ∧ (∃ other ∈ candidates, validateRecord publicKey now other = .ok best)
      ∧ record.rank ≤ best.rank := by
  obtain ⟨best, selected, bound⟩ := rank_le_best member valid
  refine ⟨best, ?_, exists_of_best selected, bound⟩
  rw [chooseValue]
  simp only [selected]

end Values

/-- What is issued can be resolved under the name of its identity, from which alone its key is known.
A resolver that is subscribed to the name and keeps nothing as new accepts the record and answers with
its value from then on, as long as it lives. A resolver that asks the value store answers with the
value of a valid candidate that ranks as high as the record, whatever else is among the candidates,
and so with the value of the record unless another one ranks as high. -/
theorem issued_resolvable {faults : StoreFaults} {store later : Datastore} {key : Keypair}
    {value : Path} {endOfLife : Timestamp} {record : NameRecord} (sound : key.IsSound)
    (attests : key.Attests
      (NameRecord.signingPayload record.value record.rawValidity record.sequence))
    (held : (Bytes.ofString value.text).Addressable)
    (issued : RecordStore.issue faults store key value endOfLife = (later, .ok record))
    (early : 0 ≤ endOfLife.year) :
    (Name.parse (Name.topic key.peerId) = .ok key.peerId
        ∧ Name.parse key.peerId.toString = .ok key.peerId)
      ∧ (∀ (m : Type → Type) [Monad m]
          (getValues? : Option (Bytes → m (Except String (List Bytes)))),
        fetchPublicKey getValues? key.peerId = pure (.ok key.publicKey))
      ∧ (∀ (time : Timestamp) (events : List Resolving.Event) (subscription : Subscription),
        let node := (Resolving.start time).run events
        node.KeysSourced key.peerId → node.resolver.closed = false →
          node.resolver.subscriptions.get? (Name.topic key.peerId) = some subscription →
          (∀ kept, subscription.record = some kept → kept.sequence < record.sequence) →
          endOfLife.isBefore node.now = false →
          let received := node.resolver.receive node.now (Name.topic key.peerId) record.toBytes
          received.2 = .ok record.sequence
            ∧ ∀ now, endOfLife.isBefore now = false →
              received.1.Answers now key.peerId (.ok value))
      ∧ ∀ (m : Type → Type) [Monad m] [LawfulMonad m]
          (getValues : Bytes → m (Except String (List Bytes)))
          (keyValues? : Option (Bytes → m (Except String (List Bytes)))) (now : Timestamp)
          (name : String) (candidates : List Bytes),
        endOfLife.isBefore now = false → Name.parse name = .ok key.peerId →
          getValues (RoutingKey.record key.peerId).toBytes = pure (.ok candidates) →
          record.toBytes ∈ candidates →
          ∃ best, resolveFromValues getValues (fetchPublicKey keyValues?) now name
              = pure (.ok best.value)
            ∧ (∃ candidate ∈ candidates, validateRecord key.publicKey now candidate = .ok best)
            ∧ record.rank ≤ best.rank
            ∧ ((∀ candidate ∈ candidates, ∀ rival,
                validateRecord key.publicKey now candidate = .ok rival →
                  rival = record ∨ rival.rank < record.rank) → best.value = value) := by
  have inlined := sound.inlined
  obtain ⟨previous, -, -, created⟩ := RecordStore.next_ok.mp (RecordStore.next_of_issue issued)
  have encodes := NameRecord.encodes_of_create attests held created early
  obtain ⟨content, validity⟩ : record.value = value ∧ record.validity = endOfLife := by
    obtain ⟨-, signature, -, rfl⟩ := NameRecord.create_ok.mp created
    exact ⟨rfl, rfl⟩
  have live : ∀ now, endOfLife.isBefore now = false → record.isExpired now = false := by
    intro now timely
    rw [NameRecord.isExpired, validity, timely]
  refine ⟨⟨Name.parse_topic _, Name.parse_toString _⟩, ?_, ?_, ?_⟩
  · intro m monad getValues?
    exact fetchPublicKey_inlined inlined
  · intro time events subscription node sourced opened found newer timely
    have authentic := (Resolving.Authentic.start time).run events
    have publicKey := Resolving.subscribed_key authentic inlined sourced found
    have valid : validateRecord subscription.publicKey node.now record.toBytes = .ok record := by
      rw [publicKey]
      exact validateRecord_iff_encodes.mpr ⟨encodes, live _ timely⟩
    constructor
    · exact GossipResolver.receive_ok.mpr ⟨subscription, record, found, valid, newer, rfl⟩
    · intro now alive
      rw [← content]
      exact GossipResolver.answers_of_receive opened found valid newer (live now alive)
  · intro m monad lawful getValues keyValues? now name candidates timely parsed given member
    have valid := validateRecord_iff_encodes.mpr ⟨encodes, live now timely⟩
    obtain ⟨best, chosen, ⟨candidate, listed, shows⟩, bound⟩ := chooseValue_of_valid member valid
    refine ⟨best, ?_, ⟨candidate, listed, shows⟩, bound, ?_⟩
    · rw [resolveFromValues_inlined inlined parsed given (List.ne_nil_of_mem member), chosen]
    · intro alone
      rcases alone candidate listed best shows with same | lower
      · rw [same, content]
      · exact absurd bound (not_le_of_gt lower)

end Publishing

/-- The keys of both kinds are that short. -/
theorem Keypair.length_publicKey_le (key : Keypair) : key.publicKey.bytes.length ≤ 33 := by
  obtain ⟨kind, secret⟩ := key
  cases kind with
  | ed25519 =>
    change (Bytes.ofNatLittleEndian 32 _).length ≤ 33
    rw [Bytes.length_ofNatLittleEndian]
    decide
  | secp256k1 =>
    change (Secp256k1.Point.compress _).length ≤ 33
    unfold Secp256k1.Point.compress
    split
    · decide
    · rw [List.length_cons, Bytes.length_ofNatBigEndian]

namespace Resolvable.Sample

open NameRecord.Sample Resolving.Sample

/-- The first of January 2099. -/
def endOfLife : Timestamp :=
  .ofSeconds 4070908800

def payload : Bytes :=
  NameRecord.signingPayload target (Bytes.ofString (Rfc3339.format endOfLife)) 1

/-- The first record of the key. -/
def record (signature : Bytes) : NameRecord where
  value := target
  signature := signature
  sequence := 1
  validity := endOfLife
  rawValidity := Bytes.ofString (Rfc3339.format endOfLife)

theorem publicHalf : key.publicKey = publicKey := by
  decide +kernel

theorem sound : key.IsSound where
  short := key.length_publicKey_le
  kept := by
    rw [publicHalf]
    exact PeerId.Sample.normal.kept

theorem attests (signature : Bytes) : key.Attests (NameRecord.signingPayload
    (record signature).value (record signature).rawValidity (record signature).sequence) := by
  change key.Attests payload
  rintro signature ⟨⟩
  constructor
  · rw [Bytes.Addressable, Ed25519.length_sign]
    decide
  · rw [publicHalf]
    decide +kernel

theorem created {signature : Bytes} (signed : key.sign payload = .ok signature) :
    NameRecord.create key target 1 endOfLife = .ok (record signature) :=
  NameRecord.create_ok.mpr ⟨by decide, signature, signed, rfl⟩

theorem issued {signature : Bytes} (signed : key.sign payload = .ok signature) :
    ∃ later, RecordStore.issue .none .empty key target endOfLife = (later, .ok (record signature)) :=
  ⟨_, RecordStore.issue_ok.mpr
    ⟨RecordStore.next_ok.mpr ⟨0, rfl, by decide, created signed⟩, rfl⟩⟩

theorem year_nonneg : 0 ≤ endOfLife.year := by
  rw [Timestamp.year_nonneg_iff]
  decide

theorem encodes {signature : Bytes} (signed : key.sign payload = .ok signature) :
    Encodes key.publicKey (record signature).toBytes (record signature) :=
  NameRecord.encodes_of_create (attests signature) (by decide) (created signed) year_nonneg

theorem invalid (publicKey : PublicKey) (now : Timestamp) (rival : NameRecord) :
    validateRecord publicKey now [0] ≠ .ok rival := by
  intro valid
  cases (validateRecord_iff_encodes.mp valid).1.decoded

end Resolvable.Sample

open NameRecord.Sample Resolving.Sample Resolvable.Sample in
/-- The first record of a key is resolved on both ways. -/
theorem issued_resolvable_first :
    ∃ later issued, RecordStore.issue .none .empty key target endOfLife = (later, .ok issued)
      ∧ (let node := (Resolving.start early).run (Resolving.firstLook key.peerId key.publicKey)
        (node.resolver.receive node.now (Name.topic key.peerId) issued.toBytes).1.Answers early
          key.peerId (.ok target))
      ∧ resolveFromValues (m := Id) (fun _ => .ok [[0], issued.toBytes]) (fetchPublicKey none) early
          key.peerId.toString = .ok target := by
  obtain ⟨signature, signed, -⟩ := key_signs payload
  obtain ⟨later, issued⟩ := issued signed
  have held : (Bytes.ofString target.text).Addressable := by decide
  obtain ⟨⟨-, parsed⟩, fetched, gossip, values⟩ :=
    issued_resolvable sound (attests signature) held issued year_nonneg
  refine ⟨later, record signature, issued, ?_, ?_⟩
  · have sourced : ((Resolving.start early).run
        (Resolving.firstLook key.peerId key.publicKey)).KeysSourced key.peerId := by
      intro reply member
      refine ⟨none, ?_⟩
      simp only [Resolving.run_firstLook, List.mem_cons, Notice.fetched.injEq, true_and,
        reduceCtorEq, List.not_mem_nil, or_false] at member
      rw [member, fetched Id none]
      rfl
    refine (gossip early _ { publicKey := key.publicKey, record := none } sourced ?_ ?_ ?_ ?_).2
      early (by decide)
    · rw [Resolving.run_firstLook]
      rfl
    · rw [Resolving.run_firstLook, GossipResolver.subscribed, Table.get?_put, if_pos rfl]
    · simp
    · rw [Resolving.run_firstLook]
      decide
  · obtain ⟨best, resolved, -, -, alone⟩ :=
      values Id (fun _ => .ok [[0], (record signature).toBytes]) none early key.peerId.toString
        [[0], (record signature).toBytes] (by decide) parsed rfl (by simp)
    rw [resolved, alone]
    · rfl
    · intro candidate member rival valid
      left
      rcases List.mem_pair.mp member with rfl | rfl
      · exact absurd valid (invalid _ _ rival)
      · exact (validateRecord_iff_encodes.mp valid).1.unique (encodes signed)

end GossipNames
