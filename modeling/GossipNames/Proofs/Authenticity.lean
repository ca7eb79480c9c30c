import GossipNames.Proofs.Resolving

/-! Whatever is done with a resolver and whatever comes in, it keeps and answers only what the
owners of its names have signed and what has not expired. -/

namespace GossipNames.Resolving

section Runs

variable [SignatureScheme]

/-- The key was had for the identity that the topic belongs to. -/
def Fetched (log : List Notice) (topic : String) (publicKey : PublicKey) : Prop :=
  ∃ peer, Name.topic peer = topic ∧ .fetched peer (.ok publicKey) ∈ log

/-- The record came in on the topic, signed with the key, and was live when it was accepted. -/
def Received (log : List Notice) (topic : String) (publicKey : PublicKey) (record : NameRecord) :
    Prop :=
  ∃ time message, .received topic time message (.ok record.sequence) ∈ log
    ∧ NameRecord.ofBytes message = .ok record ∧ record.verify publicKey = true
    ∧ record.isExpired time = false

omit [SignatureScheme] in
theorem Fetched.later {log news : List Notice} {topic : String} {publicKey : PublicKey}
    (fetched : Fetched log topic publicKey) : Fetched (log ++ news) topic publicKey := by
  obtain ⟨peer, own, member⟩ := fetched
  exact ⟨peer, own, List.mem_append_left news member⟩

theorem Received.later {log news : List Notice} {topic : String} {publicKey : PublicKey}
    {record : NameRecord} (received : Received log topic publicKey record) :
    Received (log ++ news) topic publicKey record := by
  obtain ⟨time, message, member, facts⟩ := received
  exact ⟨time, message, List.mem_append_left news member, facts⟩

/-- Each key that is kept was had for its name, each record that is kept came in under its key, and
each path that was answered is the value of such a record which had not expired. -/
structure Authentic (node : Resolving) : Prop where
  keys : ∀ {topic subscription}, node.resolver.subscriptions.get? topic = some subscription →
    Fetched node.log topic subscription.publicKey
  records : ∀ {topic publicKey record},
    node.resolver.subscriptions.get? topic = some { publicKey, record := some record } →
      Received node.log topic publicKey record
  answers : ∀ {before topic time path},
    before ++ [.answered topic time (.ok path)] <+: node.log →
      ∃ publicKey record, Fetched before topic publicKey ∧ Received before topic publicKey record
        ∧ record.isExpired time = false ∧ record.value = path

namespace Authentic

variable {node : Resolving}

theorem start (now : Timestamp) : Authentic (start now) where
  keys found := by cases found
  records found := by cases found
  answers earlier := by simp [Resolving.start] at earlier

private theorem fetched_of_begin {id : Nat} {peer : PeerId} {publicKey : PublicKey}
    (asked : node.asking.get? id = some peer)
    (absent : node.resolver.subscriptions.get? (Name.topic peer) = none) :
    Fetched (node.step (.look id (.ok publicKey) (.ok ()))).log (Name.topic peer) publicKey := by
  have unknown : node.resolver.subscriptions.contains (Name.topic peer) = false := by
    simp [Table.contains, absent]
  rw [step, look_unsubscribed asked unknown]
  exact ⟨peer, rfl, by simp⟩

private theorem received_of_accept {topic : String} {message : Bytes} {subscription : Subscription}
    {record : NameRecord} (found : node.resolver.subscriptions.get? topic = some subscription)
    (valid : validateRecord subscription.publicKey node.now message = .ok record)
    (newer : ∀ kept, subscription.record = some kept → kept.sequence < record.sequence) :
    Received (node.step (.deliver topic message)).log topic subscription.publicKey record := by
  have outcome := GossipResolver.receive_newer found valid newer
  obtain ⟨-, decoded, signed, live⟩ := validateRecord_ok.mp valid
  refine ⟨node.now, message, ?_, decoded, signed, live⟩
  simp [step, deliver, outcome]

omit [SignatureScheme] in
private theorem prefix_append {before log news : List Notice} {notice : Notice}
    (earlier : before ++ [notice] <+: log ++ news) :
    before ++ [notice] <+: log ∨ ∃ front, before = log ++ front ∧ notice ∈ news := by
  rcases List.prefix_or_prefix_of_prefix earlier (List.prefix_append log news) with old | new
  · exact .inl old
  · rcases List.prefix_concat_iff.mp new with same | ⟨front, rfl⟩
    · exact .inl (same ▸ List.prefix_refl _)
    · obtain ⟨rest, parts⟩ := earlier
      rw [List.append_assoc, List.append_assoc, List.append_cancel_left_eq] at parts
      exact .inr ⟨front, rfl, by rw [← parts]; simp⟩

theorem step (authentic : Authentic node) (event : Event) : Authentic (node.step event) := by
  obtain ⟨news, log, answered⟩ := node.step_log event
  constructor
  · intro topic subscription found
    have change := node.step_change event topic
    rw [found] at change
    generalize before_eq : node.resolver.subscriptions.get? topic = before at change
    cases change with
    | same => rw [log]; exact (authentic.keys before_eq).later
    | begin asked own => subst own; exact fetched_of_begin asked before_eq
    | giveUp asked own expired => rw [log]; exact (authentic.keys before_eq).later
    | accept valid newer => rw [log]; exact (authentic.keys before_eq).later
  · intro topic publicKey record found
    have change := node.step_change event topic
    rw [found] at change
    generalize before_eq : node.resolver.subscriptions.get? topic = before at change
    cases change with
    | same => rw [log]; exact (authentic.records before_eq).later
    | accept valid newer => exact received_of_accept before_eq valid newer
  · intro before topic time path earlier
    rw [log] at earlier
    rcases prefix_append earlier with old | ⟨front, rfl, member⟩
    · exact authentic.answers old
    · obtain ⟨rfl, publicKey, record, found, live, value⟩ := answered topic time path member
      exact ⟨publicKey, record, (authentic.keys found).later, (authentic.records found).later, live,
        value⟩

theorem run (authentic : Authentic node) (events : List Event) : Authentic (node.run events) := by
  induction events generalizing node with
  | nil => exact authentic
  | cons event rest ih => exact ih (authentic.step event)

end Authentic

/-- A resolver serves nothing that is forged or out of date: of all that may come in, whatever is
asked, cancelled, had or not had, and whatever the clock does, each record it keeps came in on the
topic under which it is kept, is signed with the key of the subscription, and was live when it was
accepted; each path it has answered is the value of such a record which was still live. Messages on
other topics never show, and neither do messages that are not accepted. -/
theorem served_authentic (now : Timestamp) (events : List Event) :
    let node := (start now).run events
    (∀ topic publicKey record,
      node.resolver.subscriptions.get? topic = some { publicKey, record := some record } →
        Fetched node.log topic publicKey ∧ Received node.log topic publicKey record)
      ∧ (∀ before topic time path after,
        node.log = before ++ .answered topic time (.ok path) :: after →
          ∃ publicKey record, Fetched before topic publicKey ∧ Received before topic publicKey record
            ∧ record.isExpired time = false ∧ record.value = path)
      ∧ (∀ topic message other, other ≠ topic →
        (node.deliver topic message).resolver.subscriptions.get? other
          = node.resolver.subscriptions.get? other)
      ∧ ∀ topic message rejection,
        (node.resolver.receive node.now topic message).2 = .error rejection →
          (node.deliver topic message).resolver = node.resolver := by
  have authentic := (Authentic.start now).run events
  refine ⟨?_, ?_, ?_, ?_⟩
  · intro topic publicKey record found
    exact ⟨authentic.keys found, authentic.records found⟩
  · intro before topic time path after log
    have earlier : before ++ [.answered topic time (.ok path)] <+: ((start now).run events).log :=
      ⟨after, by rw [log, List.append_assoc, List.singleton_append]⟩
    exact authentic.answers earlier
  · intro topic message other different
    exact GossipResolver.receive_other different
  · intro topic message rejection rejected
    exact GossipResolver.receive_error rejected

end Runs

namespace Sample

/-- A record comes in between two look-ups of its name. -/
def serving : List Event := [
  .ask 0 name, .look 0 (.ok publicKey) (.ok ()), .deliver topic older,
  .ask 1 name, .look 1 (.ok publicKey) (.ok ())]

theorem served :
    ((start early).run serving).log.drop 4
        = [.answered topic early oldValue]
      ∧ ((start early).run serving).resolver.subscriptions.get? topic
        = some { publicKey, record := (NameRecord.ofBytes older).toOption }
      ∧ (NameRecord.ofBytes older).toOption.isSome = true
      ∧ (((start early).run serving).resolver.receive ((start early).run serving).now topic older).2
        = .error (.staleSequence 1 1) := by
  decide +kernel

end Sample

open Sample in
/-- The record that came in is kept and answered; when it comes in again it changes nothing. -/
theorem served_authentic_twice :
    let node := (start early).run serving
    (∃ record,
      node.resolver.subscriptions.get? topic = some { publicKey, record := some record }
        ∧ Received node.log topic publicKey record)
      ∧ (∃ before path, node.log = before ++ [.answered topic early (.ok path)]
        ∧ ∃ publicKey record, Received before topic publicKey record
          ∧ record.isExpired early = false ∧ record.value = path)
      ∧ (node.deliver topic older).resolver.subscriptions.get? name
        = node.resolver.subscriptions.get? name
      ∧ (node.deliver topic older).resolver = node.resolver := by
  obtain ⟨answered, kept, readable, rejected⟩ := served
  obtain ⟨record, read⟩ := Option.isSome_iff_exists.mp readable
  rw [read] at kept
  obtain ⟨records, answers, others, rejections⟩ := served_authentic early serving
  have log := (List.take_append_drop 4 ((start early).run serving).log).symm
  rw [answered] at log
  obtain ⟨key, found, -, facts⟩ := answers _ _ _ _ [] log
  exact ⟨⟨record, kept, (records _ _ _ kept).2⟩, ⟨_, _, log, key, found, facts⟩,
    others topic older name (by decide), rejections topic older _ rejected⟩

end GossipNames.Resolving
