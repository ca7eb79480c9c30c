import GossipNames.Gossip.Resolver
import GossipNames.Proofs.Table

/-! What a resolver keeps of the messages it receives, and what it answers. -/

namespace GossipNames

theorem validateRecord_ok [SignatureScheme] {key : PublicKey} {now : Timestamp} {value : Bytes}
    {record : NameRecord} :
    validateRecord key now value = .ok record ↔
      value ≠ [] ∧ NameRecord.ofBytes value = .ok record ∧ record.verify key = true
        ∧ record.isExpired now = false := by
  cases value with
  | nil => simp [validateRecord]
  | cons byte rest =>
    cases decoded : NameRecord.ofBytes (byte :: rest) with
    | error error => simp [validateRecord, decoded]
    | ok found =>
      simp only [validateRecord, decoded, List.isEmpty_cons, Bool.false_eq_true, if_false,
        Bool.not_eq_true', ne_eq, reduceCtorEq, not_false_eq_true, true_and, Except.ok.injEq]
      constructor
      · intro accepted
        split at accepted
        · cases accepted
        · split at accepted
          · cases accepted
          · cases accepted
            simp_all
      · rintro ⟨rfl, signed, live⟩
        simp [signed, live]

/-- The value encodes the record, which is signed with the key. -/
structure Encodes [SignatureScheme] (key : PublicKey) (value : Bytes) (record : NameRecord) :
    Prop where
  decoded : NameRecord.ofBytes value = .ok record
  signed : record.verify key = true

theorem Encodes.unique [SignatureScheme] {key : PublicKey} {value : Bytes}
    {first second : NameRecord} (encodes : Encodes key value first)
    (also : Encodes key value second) : first = second :=
  Except.ok.inj (encodes.decoded.symm.trans also.decoded)

/-- A value is valid as long as the record that it encodes lives. -/
theorem validateRecord_iff_encodes [SignatureScheme] {key : PublicKey} {now : Timestamp}
    {value : Bytes} {record : NameRecord} :
    validateRecord key now value = .ok record ↔
      Encodes key value record ∧ record.isExpired now = false := by
  rw [validateRecord_ok]
  constructor
  · rintro ⟨-, decoded, signed, live⟩
    exact ⟨⟨decoded, signed⟩, live⟩
  · rintro ⟨⟨decoded, signed⟩, live⟩
    refine ⟨?_, decoded, signed, live⟩
    rintro rfl
    cases decoded

namespace GossipResolver

variable {resolver : GossipResolver} {now : Timestamp} {topic : String}

theorem mem_topics : topic ∈ resolver.topics ↔ topic ∈ resolver.subscriptions.keys :=
  List.mem_mergeSort

section Answers

variable {publicKey : PublicKey} {record : NameRecord}

theorem answer_live
    (kept : resolver.subscriptions.get? topic = some { publicKey, record := some record })
    (live : record.isExpired now = false) :
    resolver.answer now topic = (resolver, .ok record.value) := by
  simp [answer, kept, live]

theorem answer_expired
    (kept : resolver.subscriptions.get? topic = some { publicKey, record := some record })
    (expired : record.isExpired now = true) :
    resolver.answer now topic
      = (resolver.subscribed topic publicKey, .error (.notFound topic)) := by
  simp [answer, kept, expired]

theorem answer_blank
    (blank : (resolver.subscriptions.get? topic).bind (·.record) = none) :
    resolver.answer now topic = (resolver, .error (.notFound topic)) := by
  unfold answer
  split
  · rfl
  · rfl
  · rename_i kept
    rw [kept] at blank
    cases blank

/-- An answer is the value of the record that is kept, which has not expired. -/
theorem answer_ok {path : Path} :
    (resolver.answer now topic).2 = .ok path ↔
      ∃ publicKey record,
        resolver.subscriptions.get? topic = some { publicKey, record := some record }
        ∧ record.isExpired now = false ∧ record.value = path := by
  constructor
  · intro answered
    unfold answer at answered
    split at answered
    · cases answered
    · cases answered
    · rename_i publicKey record kept
      split at answered
      · cases answered
      · rename_i live
        exact ⟨publicKey, record, kept, Bool.eq_false_iff.mpr live, Except.ok.inj answered⟩
  · rintro ⟨publicKey, record, kept, live, rfl⟩
    rw [answer_live kept live]

/-- Where there is no answer, no record is known. -/
theorem answer_error {error : NameError} (failed : (resolver.answer now topic).2 = .error error) :
    error = .notFound topic := by
  unfold answer at failed
  split at failed
  · exact (Except.error.inj failed).symm
  · exact (Except.error.inj failed).symm
  · split at failed
    · exact (Except.error.inj failed).symm
    · cases failed

/-- A record that is given up leaves its subscription behind. -/
theorem keys_answer (resolver : GossipResolver) (now : Timestamp) (topic : String) :
    (resolver.answer now topic).1.subscriptions.keys = resolver.subscriptions.keys := by
  unfold answer
  split
  · rfl
  · rfl
  · rename_i publicKey record kept
    have known : topic ∈ resolver.subscriptions.keys := by
      rw [← Table.isSome_get?_iff, kept]
      rfl
    split
    · exact (Table.keys_put ..).trans (if_pos known)
    · rfl

/-- A first look-up has nothing to answer, whether or not it could subscribe. -/
theorem lookupPeer_unsubscribed {m : Type → Type} [Monad m]
    {fetchKey : PeerId → m (Except KeyFault PublicKey)} {subscribe : String → m (Except String Unit)}
    {peer : PeerId} (absent : resolver.subscriptions.contains (Name.topic peer) = false) :
    lookupPeer fetchKey subscribe now resolver peer = do
      match ← fetchKey peer with
      | .error fault => return (resolver, .error (.publicKey peer fault))
      | .ok publicKey =>
        match ← subscribe (Name.topic peer) with
        | .error reason => return (resolver, .error (.gossip reason))
        | .ok () =>
          return (resolver.subscribed (Name.topic peer) publicKey,
            .error (.notFound (Name.topic peer))) := by
  unfold lookupPeer
  rw [if_neg (ne_true_of_eq_false absent)]
  refine congrArg (fetchKey peer >>= ·) (funext fun reply => ?_)
  cases reply with
  | error fault => rfl
  | ok publicKey =>
    refine congrArg (subscribe (Name.topic peer) >>= ·) (funext fun joined => ?_)
    cases joined with
    | error reason => rfl
    | ok _ =>
      have blank : ((resolver.subscribed (Name.topic peer) publicKey).subscriptions.get?
          (Name.topic peer)).bind (·.record) = none := by
        simp [subscribed, Table.get?_put]
      exact congrArg pure (answer_blank blank)

/-- Whoever looks the identity up, under any of its names, is given the result. Nobody is asked for
anything and the resolver stays as it is. -/
def Answers (resolver : GossipResolver) (now : Timestamp) (peer : PeerId)
    (result : Except NameError Path) : Prop :=
  ∀ (m : Type → Type) [Monad m] (fetchKey : PeerId → m (Except KeyFault PublicKey))
    (subscribe : String → m (Except String Unit)) (name : String), Name.parse name = .ok peer →
    lookup fetchKey subscribe now resolver name = pure (resolver, result)

theorem answers_of_answer {peer : PeerId} {result : Except NameError Path}
    (opened : resolver.closed = false)
    (subscribed : resolver.subscriptions.contains (Name.topic peer) = true)
    (answered : resolver.answer now (Name.topic peer) = (resolver, result)) :
    resolver.Answers now peer result := by
  intro m monad fetchKey subscribe name parsed
  have located : resolver.locate name = .ok peer := by
    rw [locate, opened, parsed]
    rfl
  simp only [lookup, located, lookupPeer, subscribed, if_true, answered]

end Answers

variable [SignatureScheme] {message : Bytes} {subscription : Subscription} {record : NameRecord}

/-- A valid record is accepted when it is newer than the one kept, if one is kept. -/
theorem receive_newer (found : resolver.subscriptions.get? topic = some subscription)
    (valid : validateRecord subscription.publicKey now message = .ok record)
    (newer : ∀ kept, subscription.record = some kept → kept.sequence < record.sequence) :
    resolver.receive now topic message
      = ({ resolver with
          subscriptions :=
            resolver.subscriptions.put topic { subscription with record := some record } },
        .ok record.sequence) := by
  have current : (subscription.record.filter fun kept => record.sequence ≤ kept.sequence)
      = none := by
    rw [Option.filter_eq_none_iff]
    intro kept held
    simpa using newer kept held
  simp only [receive, found, valid, current]

theorem receive_ok {sequence : UInt64} :
    (resolver.receive now topic message).2 = .ok sequence ↔
      ∃ subscription record, resolver.subscriptions.get? topic = some subscription
        ∧ validateRecord subscription.publicKey now message = .ok record
        ∧ (∀ kept, subscription.record = some kept → kept.sequence < record.sequence)
        ∧ record.sequence = sequence := by
  constructor
  · intro accepted
    unfold receive at accepted
    split at accepted
    · cases accepted
    · rename_i subscription found
      split at accepted
      · cases accepted
      · rename_i record valid
        split at accepted
        · cases accepted
        · rename_i current
          refine ⟨subscription, record, found, valid, ?_, Except.ok.inj accepted⟩
          intro kept held
          rw [Option.filter_eq_none_iff] at current
          simpa using current kept held
  · rintro ⟨subscription, record, found, valid, newer, rfl⟩
    rw [receive_newer found valid newer]

/-- A message that is not accepted changes nothing. -/
theorem receive_error {rejection : Rejection}
    (rejected : (resolver.receive now topic message).2 = .error rejection) :
    (resolver.receive now topic message).1 = resolver := by
  unfold receive at rejected ⊢
  split
  · rfl
  · split
    · rfl
    · split
      · rfl
      · simp_all

theorem receive_refused (found : resolver.subscriptions.get? topic = some subscription)
    (refused : ∀ record, validateRecord subscription.publicKey now message = .ok record →
      ∃ kept, subscription.record = some kept ∧ record.sequence ≤ kept.sequence) :
    (resolver.receive now topic message).1 = resolver := by
  cases outcome : (resolver.receive now topic message).2 with
  | error rejection => exact receive_error outcome
  | ok sequence =>
    obtain ⟨other, record, same, valid, newer, -⟩ := receive_ok.mp outcome
    cases found.symm.trans same
    obtain ⟨kept, held, bound⟩ := refused record valid
    exact absurd (newer kept held) (UInt64.not_lt.mpr bound)

/-- A message concerns the topic that it comes in on, and no other. -/
theorem receive_other {other : String} (different : other ≠ topic) :
    (resolver.receive now topic message).1.subscriptions.get? other
      = resolver.subscriptions.get? other := by
  cases outcome : (resolver.receive now topic message).2 with
  | error rejection => rw [receive_error outcome]
  | ok sequence =>
    obtain ⟨subscription, record, found, valid, newer, -⟩ := receive_ok.mp outcome
    rw [receive_newer found valid newer]
    simp [Table.get?_put, different]

/-- A message may bring a record, but no subscription. -/
theorem keys_receive (resolver : GossipResolver) (now : Timestamp) (topic : String)
    (message : Bytes) :
    (resolver.receive now topic message).1.subscriptions.keys = resolver.subscriptions.keys := by
  cases outcome : (resolver.receive now topic message).2 with
  | error rejection => rw [receive_error outcome]
  | ok sequence =>
    obtain ⟨subscription, record, found, valid, newer, -⟩ := receive_ok.mp outcome
    rw [receive_newer found valid newer]
    refine (Table.keys_put ..).trans (if_pos ?_)
    rw [← Table.isSome_get?_iff, found]
    rfl

end GossipResolver

end GossipNames
