import Mathlib.Data.List.Induction
import GossipNames.Proofs.KeySource
import GossipNames.Proofs.Rollback

/-! Resolvers that hear the same messages give the same answer, in whatever order and however often
the messages come in. A resolver keeps a record of the highest sequence number that it has heard, as
long as none of those that it has heard expires. -/

namespace GossipNames

section Hearing

variable [SignatureScheme]

/-- Of all the records that the messages encode, the record has the highest sequence number. There is
none when they encode none. -/
structure Highest (key : PublicKey) (messages : List Bytes) (highest : Option NameRecord) :
    Prop where
  found : ∀ record, highest = some record → ∃ message ∈ messages, Encodes key message record
  bound : ∀ message ∈ messages, ∀ record, Encodes key message record →
    ∃ other, highest = some other ∧ record.sequence ≤ other.sequence

namespace Highest

variable {key : PublicKey} {messages : List Bytes} {highest : Option NameRecord} {message : Bytes}

theorem nil : Highest key [] none where
  found := by simp
  bound := by simp

theorem keep (before : Highest key messages highest)
    (lower : ∀ record, Encodes key message record →
      ∃ other, highest = some other ∧ record.sequence ≤ other.sequence) :
    Highest key (messages ++ [message]) highest where
  found record same := by
    obtain ⟨own, member, encodes⟩ := before.found record same
    exact ⟨own, List.mem_append_left _ member, encodes⟩
  bound other member record encodes := by
    rcases List.mem_append.mp member with old | last
    · exact before.bound other old record encodes
    · cases List.mem_singleton.mp last
      exact lower record encodes

theorem replace {record : NameRecord} (before : Highest key messages highest)
    (encodes : Encodes key message record)
    (higher : ∀ other, highest = some other → other.sequence < record.sequence) :
    Highest key (messages ++ [message]) (some record) where
  found last same := by
    cases same
    exact ⟨message, by simp, encodes⟩
  bound other member last also := by
    refine ⟨record, rfl, ?_⟩
    rcases List.mem_append.mp member with old | own
    · obtain ⟨kept, same, bound⟩ := before.bound other old last also
      exact UInt64.le_trans bound (UInt64.le_of_lt (higher kept same))
    · cases List.mem_singleton.mp own
      cases encodes.unique also
      exact UInt64.le_refl _

theorem congr {others : List Bytes} (all : Highest key messages highest)
    (same : ∀ message, message ∈ messages ↔ message ∈ others) : Highest key others highest where
  found record held := by
    obtain ⟨message, member, encodes⟩ := all.found record held
    exact ⟨message, (same message).mp member, encodes⟩
  bound message member := all.bound message ((same message).mpr member)

theorem none_iff (all : Highest key messages highest) :
    highest = none ↔ ∀ message ∈ messages, ∀ record, ¬ Encodes key message record := by
  constructor
  · rintro rfl message member record encodes
    obtain ⟨other, absent, -⟩ := all.bound message member record encodes
    cases absent
  · intro invalid
    cases held : highest with
    | none => rfl
    | some record =>
      obtain ⟨message, member, encodes⟩ := all.found record held
      exact absurd encodes (invalid message member record)

/-- Two of the highest records are alike when records with the same sequence number are. -/
theorem values_eq {first second : Option NameRecord} (highest : Highest key messages first)
    (also : Highest key messages second)
    (agree : ∀ message ∈ messages, ∀ other ∈ messages, ∀ record twin, Encodes key message record →
      Encodes key other twin → record.sequence = twin.sequence → record.value = twin.value) :
    first.map (·.value) = second.map (·.value) := by
  cases held : first with
  | none => rw [also.none_iff.mpr (highest.none_iff.mp held)]
  | some record =>
    obtain ⟨message, member, encodes⟩ := highest.found record held
    obtain ⟨twin, found, upper⟩ := also.bound message member record encodes
    obtain ⟨other, listed, shows⟩ := also.found twin found
    obtain ⟨again, same, lower⟩ := highest.bound other listed twin shows
    cases held.symm.trans same
    rw [found, Option.map_some, Option.map_some]
    exact congrArg some
      (agree message member other listed record twin encodes shows (UInt64.le_antisymm upper lower))

end Highest

namespace Resolving

omit [SignatureScheme] in
/-- The messages that come in on the topic, in order. -/
def heard (topic : String) (events : List Event) : List Bytes :=
  events.filterMap fun
    | .deliver other message => if other = topic then some message else none
    | _ => none

section Steps

variable {node : Resolving} {topic : String} {publicKey : PublicKey}

omit [SignatureScheme] in
theorem heard_concat_own (events : List Event) (message : Bytes) :
    heard topic (events ++ [.deliver topic message]) = heard topic events ++ [message] := by
  simp [heard, List.filterMap_append]

omit [SignatureScheme] in
theorem heard_concat_other {event : Event} (other : ∀ message, event ≠ .deliver topic message)
    (events : List Event) : heard topic (events ++ [event]) = heard topic events := by
  cases event with
  | deliver away message =>
    have different : away ≠ topic := by
      rintro rfl
      exact other message rfl
    simp [heard, List.filterMap_append, different]
  | ask | look | abandon | cancel | shutdown | setClock => simp [heard, List.filterMap_append]

theorem run_concat (events : List Event) (event : Event) :
    node.run (events ++ [event]) = (node.run events).step event :=
  run_append node events [event]

/-- A message that comes in while the record it encodes lives. -/
theorem step_heard {messages : List Bytes} {kept : Option NameRecord} {message : Bytes}
    (found : node.resolver.subscriptions.get? topic = some { publicKey, record := kept })
    (highest : Highest publicKey messages kept)
    (live : ∀ record, Encodes publicKey message record → record.isExpired node.now = false) :
    ∃ next, (node.step (.deliver topic message)).resolver.subscriptions.get? topic
        = some { publicKey, record := next }
      ∧ Highest publicKey (messages ++ [message]) next := by
  have same : (node.step (.deliver topic message)).resolver
    = (node.resolver.receive node.now topic message).1 := rfl
  rw [same]
  by_cases accepted : ∃ record, Encodes publicKey message record
      ∧ ∀ other, kept = some other → other.sequence < record.sequence
  · obtain ⟨record, encodes, newer⟩ := accepted
    have valid := validateRecord_iff_encodes.mpr ⟨encodes, live record encodes⟩
    refine ⟨some record, ?_, highest.replace encodes newer⟩
    rw [GossipResolver.receive_newer found valid newer, Table.get?_put, if_pos rfl]
  · have lower : ∀ record, Encodes publicKey message record →
        ∃ other, kept = some other ∧ record.sequence ≤ other.sequence := by
      intro record encodes
      refine Classical.byContradiction fun absent => accepted ⟨record, encodes, ?_⟩
      intro other held
      exact UInt64.not_le.mp fun bound => absent ⟨other, held, bound⟩
    refine ⟨kept, ?_, highest.keep lower⟩
    rw [GossipResolver.receive_refused found, found]
    intro record valid
    exact lower record (validateRecord_iff_encodes.mp valid).1

/-- Nothing else changes what is kept for a name while it lives, unless the subscription ends. -/
theorem step_unheard {kept : Option NameRecord} {event : Event}
    (found : node.resolver.subscriptions.get? topic = some { publicKey, record := kept })
    (uncancelled : ¬ Cancels topic event) (other : ∀ message, event ≠ .deliver topic message)
    (live : ∀ record, kept = some record → record.isExpired node.now = false) :
    (node.step event).resolver.subscriptions.get? topic
      = some { publicKey, record := kept } := by
  have change := node.step_change event topic
  rw [found] at change
  generalize (node.step event).resolver.subscriptions.get? topic = after at change
  cases change with
  | same => rfl
  | giveUp asked own expired =>
    rw [live _ rfl] at expired
    cases expired
  | accept valid newer => exact absurd rfl (other _)
  | cancel parsed own => exact absurd ⟨_, _, rfl, parsed, own⟩ uncancelled

end Steps

/-- The node has subscribed to the topic, has heard nothing there yet, and goes on listening. From the
first message on, no record that it hears there expires. -/
structure Listening (node : Resolving) (topic : String) (publicKey : PublicKey)
    (events : List Event) : Prop where
  fresh : node.resolver.subscriptions.get? topic = some { publicKey, record := none }
  uncancelled : ∀ event ∈ events, ¬ Cancels topic event
  opened : (node.run events).resolver.closed = false
  live : ∀ message ∈ heard topic events, ∀ record, Encodes publicKey message record →
    ∀ before, before <+: events → heard topic before ≠ [] →
      record.isExpired (node.run before).now = false

omit [SignatureScheme] in
/-- What is answered for a value that is there or not. -/
def answerOf (topic : String) : Option Path → Except NameError Path
  | none => .error (.notFound topic)
  | some path => .ok path

namespace Listening

variable {node : Resolving} {topic : String} {publicKey : PublicKey} {events : List Event}

omit [SignatureScheme] in
theorem heard_subset {before : List Event} (earlier : before <+: events) {message : Bytes}
    (member : message ∈ heard topic before) : message ∈ heard topic events :=
  (earlier.filterMap _).subset member

/-- At any time, what is kept is the highest of what was heard. -/
theorem kept (listening : Listening node topic publicKey events) {before : List Event}
    (earlier : before <+: events) :
    ∃ record, (node.run before).resolver.subscriptions.get? topic = some { publicKey, record }
      ∧ Highest publicKey (heard topic before) record := by
  induction before using List.reverseRecOn with
  | nil => exact ⟨none, listening.fresh, .nil⟩
  | append_singleton front event ih =>
    have front_earlier := (List.prefix_append front [event]).trans earlier
    obtain ⟨record, found, highest⟩ := ih front_earlier
    rw [run_concat]
    by_cases delivered : ∃ message, event = .deliver topic message
    · obtain ⟨message, rfl⟩ := delivered
      rw [heard_concat_own]
      apply step_heard found highest
      intro record encodes
      have time : (node.run (front ++ [.deliver topic message])).now = (node.run front).now := by
        rw [run_concat, step_now (by simp)]
      rw [← time]
      apply listening.live message ?_ record encodes _ earlier
      · rw [heard_concat_own]
        simp
      · apply heard_subset earlier
        rw [heard_concat_own]
        simp
    · have other : ∀ message, event ≠ .deliver topic message := by
        intro message same
        exact delivered ⟨message, same⟩
      rw [heard_concat_other other]
      refine ⟨record, step_unheard found (listening.uncancelled event ?_) other ?_, highest⟩
      · exact earlier.subset (by simp)
      · rintro current rfl
        obtain ⟨message, member, encodes⟩ := highest.found current rfl
        exact listening.live message (heard_subset front_earlier member) current encodes front
          front_earlier (List.ne_nil_of_mem member)

/-- In the end, the value of the highest record answers. -/
theorem answers {peer : PeerId} (listening : Listening node (Name.topic peer) publicKey events) :
    ∃ highest, Highest publicKey (heard (Name.topic peer) events) highest
      ∧ (node.run events).resolver.Answers (node.run events).now peer
        (answerOf (Name.topic peer) (highest.map (·.value))) := by
  obtain ⟨highest, found, all⟩ := listening.kept (List.prefix_refl events)
  have subscribed : (node.run events).resolver.subscriptions.contains (Name.topic peer) = true := by
    rw [Table.contains, found]
    rfl
  refine ⟨highest, all, GossipResolver.answers_of_answer listening.opened subscribed ?_⟩
  cases highest with
  | none =>
    apply GossipResolver.answer_blank
    rw [found]
    rfl
  | some record =>
    obtain ⟨message, member, encodes⟩ := all.found record rfl
    exact GossipResolver.answer_live found (listening.live message member record encodes events
      (List.prefix_refl events) (List.ne_nil_of_mem member))

end Listening

/-- Two resolvers that hear the same messages, in whatever order and however often, with look-ups and
whatever else in between, answer the same in the end, provided that records with the same sequence
number say the same. The answer is the value of a record of the highest sequence number that they
heard, or that the name is not found when they heard none. -/
theorem answers_converge {peer : PeerId} {publicKey : PublicKey} {first second : Resolving}
    {firstEvents secondEvents : List Event}
    (firstListens : Listening first (Name.topic peer) publicKey firstEvents)
    (secondListens : Listening second (Name.topic peer) publicKey secondEvents)
    (same : ∀ message, message ∈ heard (Name.topic peer) firstEvents
      ↔ message ∈ heard (Name.topic peer) secondEvents)
    (agree : ∀ message ∈ heard (Name.topic peer) firstEvents,
      ∀ other ∈ heard (Name.topic peer) firstEvents, ∀ record twin,
        Encodes publicKey message record → Encodes publicKey other twin →
          record.sequence = twin.sequence → record.value = twin.value) :
    ∃ result,
      (first.run firstEvents).resolver.Answers (first.run firstEvents).now peer result
        ∧ (second.run secondEvents).resolver.Answers (second.run secondEvents).now peer result
        ∧ (result = .error (.notFound (Name.topic peer)) ↔
          ∀ message ∈ heard (Name.topic peer) firstEvents, ∀ record,
            ¬ Encodes publicKey message record)
        ∧ (result ≠ .error (.notFound (Name.topic peer)) →
          ∃ message ∈ heard (Name.topic peer) firstEvents, ∃ record,
            Encodes publicKey message record ∧ result = .ok record.value
              ∧ ∀ other ∈ heard (Name.topic peer) firstEvents, ∀ lower,
                Encodes publicKey other lower → lower.sequence ≤ record.sequence) := by
  obtain ⟨highest, all, firstAnswers⟩ := firstListens.answers
  obtain ⟨also, others, secondAnswers⟩ := secondListens.answers
  have values := all.values_eq (others.congr fun message => (same message).symm) agree
  rw [← values] at secondAnswers
  refine ⟨_, firstAnswers, secondAnswers, ?_, ?_⟩
  · rw [← all.none_iff]
    cases highest <;> simp [answerOf]
  · intro found
    cases held : highest with
    | none =>
      rw [held] at found
      exact absurd rfl found
    | some record =>
      obtain ⟨message, member, encodes⟩ := all.found record held
      refine ⟨message, member, record, encodes, rfl, ?_⟩
      intro other listed lower shows
      obtain ⟨kept, same, bound⟩ := all.bound other listed lower shows
      cases held.symm.trans same
      exact bound

end Resolving

end Hearing

namespace Resolving

namespace Sample

open PeerId.Sample

/-- The newer record comes in last, after another look-up. -/
def inOrder : List Event := [
  .deliver (Name.topic written) older, .deliver (Name.topic written) [0],
  .ask 1 (Name.topic written), .look 1 (.ok publicKey) (.ok ()),
  .deliver (Name.topic written) newer]

/-- The newer record comes in first, and again after the older one. -/
def backwards : List Event := [
  .deliver (Name.topic written) newer, .deliver (Name.topic written) older,
  .deliver (Name.topic written) newer, .deliver (Name.topic written) [0]]

/-- A resolver that has just subscribed to the topic of the identity. -/
def listener : Resolving :=
  (start early).run (firstLook written publicKey)

theorem fresh : listener.resolver.subscriptions.get? (Name.topic written)
    = some { publicKey, record := none } := by
  rw [listener, run_firstLook, GossipResolver.subscribed, Table.get?_put, if_pos rfl]

/-- What the messages encode, computed in one go because signatures take their time. -/
theorem numbers :
    (validateRecord publicKey early older).toOption.map (·.sequence) = some 1
      ∧ (validateRecord publicKey early newer).toOption.map (·.sequence) = some 2
      ∧ (NameRecord.ofBytes [0]).toOption = none := by
  decide +kernel

theorem older_encodes : ∃ record, Encodes publicKey older record := by
  obtain ⟨record, valid, -⟩ := Option.map_eq_some_iff.mp numbers.1
  exact ⟨record, (validateRecord_iff_encodes.mp (toOption_eq_some_iff.mp valid)).1⟩

theorem encoded {message : Bytes} (member : message ∈ [older, [0], newer]) {record : NameRecord}
    (encodes : Encodes publicKey message record) :
    record.isExpired early = false
      ∧ (message = older ∧ record.sequence = 1 ∨ message = newer ∧ record.sequence = 2) := by
  obtain ⟨first, second, invalid⟩ := numbers
  obtain ⟨one, firstValid, firstNumber⟩ := Option.map_eq_some_iff.mp first
  obtain ⟨two, secondValid, secondNumber⟩ := Option.map_eq_some_iff.mp second
  obtain ⟨oneEncodes, oneLive⟩ :=
    validateRecord_iff_encodes.mp (toOption_eq_some_iff.mp firstValid)
  obtain ⟨twoEncodes, twoLive⟩ :=
    validateRecord_iff_encodes.mp (toOption_eq_some_iff.mp secondValid)
  simp only [List.mem_cons, List.not_mem_nil, or_false] at member
  rcases member with rfl | rfl | rfl
  · cases encodes.unique oneEncodes
    exact ⟨oneLive, .inl ⟨rfl, firstNumber⟩⟩
  · rw [encodes.decoded] at invalid
    cases invalid
  · cases encodes.unique twoEncodes
    exact ⟨twoLive, .inr ⟨rfl, secondNumber⟩⟩

theorem agree : ∀ message ∈ [older, [0], newer], ∀ other ∈ [older, [0], newer], ∀ record twin,
    Encodes publicKey message record → Encodes publicKey other twin →
      record.sequence = twin.sequence → record.value = twin.value := by
  intro message member other listed record twin encodes shows number
  have same : message = other := by
    rcases (encoded member encodes).2 with ⟨own, one⟩ | ⟨own, two⟩
    · rcases (encoded listed shows).2 with ⟨also, -⟩ | ⟨-, two⟩
      · rw [own, also]
      · rw [one, two] at number
        exact absurd number (by decide)
    · rcases (encoded listed shows).2 with ⟨-, one⟩ | ⟨also, -⟩
      · rw [two, one] at number
        exact absurd number (by decide)
      · rw [own, also]
  subst same
  rw [encodes.unique shows]

theorem heard_inOrder : heard (Name.topic written) inOrder = [older, [0], newer] := by
  simp [heard, inOrder]

theorem heard_backwards : heard (Name.topic written) backwards = [newer, older, newer, [0]] := by
  simp [heard, backwards]

theorem time {events : List Event} (unset : ∀ event ∈ events, ∀ now, event ≠ .setClock now) :
    (listener.run events).now = early := by
  rw [run_now unset, listener, run_firstLook]

theorem listening {events : List Event}
    (unset : ∀ event ∈ events, ∀ now, event ≠ .setClock now) (opened : .shutdown ∉ events)
    (uncancelled : ∀ event ∈ events, ¬ Cancels (Name.topic written) event)
    (few : ∀ message ∈ heard (Name.topic written) events, message ∈ [older, [0], newer]) :
    Listening listener (Name.topic written) publicKey events where
  fresh := fresh
  uncancelled := uncancelled
  opened := by
    rw [run_closed opened, listener, run_firstLook]
    rfl
  live message member record encodes before earlier _ := by
    rw [time fun event listed => unset event (earlier.subset listed)]
    exact (encoded (few message member) encodes).1

end Sample

open Sample PeerId.Sample in
/-- The newer record comes in last or first. -/
theorem answers_converge_backwards :
    ∃ path, (listener.run inOrder).resolver.Answers early written (.ok path)
      ∧ (listener.run backwards).resolver.Answers early written (.ok path) := by
  have first : Listening listener (Name.topic written) publicKey inOrder := by
    apply listening
    · simp [inOrder]
    · simp [inOrder]
    · simp [inOrder, Cancels]
    · rw [heard_inOrder]
      exact fun message member => member
  have second : Listening listener (Name.topic written) publicKey backwards := by
    apply listening
    · simp [backwards]
    · simp [backwards]
    · simp [backwards, Cancels]
    · rw [heard_backwards]
      simp
  have same : ∀ message, message ∈ heard (Name.topic written) inOrder
      ↔ message ∈ heard (Name.topic written) backwards := by
    intro message
    rw [heard_inOrder, heard_backwards]
    simp only [List.mem_cons, List.not_mem_nil, or_false]
    tauto
  obtain ⟨result, firstAnswers, secondAnswers, absent, found⟩ :=
    answers_converge first second same (heard_inOrder ▸ agree)
  obtain ⟨record, encodes⟩ := older_encodes
  have present : result ≠ .error (.notFound (Name.topic written)) := by
    intro missing
    exact absent.mp missing older (by simp [heard_inOrder]) record encodes
  obtain ⟨-, -, highest, -, rfl, -⟩ := found present
  rw [time (by simp [inOrder])] at firstAnswers
  rw [time (by simp [backwards])] at secondAnswers
  exact ⟨highest.value, firstAnswers, secondAnswers⟩

end Resolving

end GossipNames
