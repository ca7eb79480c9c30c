import GossipNames.Proofs.Resolving

/-! When a name can be set back to an older record. A resolver knows how far a name has come only
from the record that it keeps, and a look-up that finds this record expired gives it up. -/

namespace GossipNames.Resolving

section Runs

variable [SignatureScheme]

omit [SignatureScheme] in
/-- The subscription of the topic ends. -/
def Cancels (topic : String) (event : Event) : Prop :=
  ∃ name peer, event = .cancel name ∧ Name.parse name = .ok peer ∧ Name.topic peer = topic

omit [SignatureScheme] in
/-- A look-up finds the record of the topic expired and gives it up. -/
def GivesUp (node : Resolving) (topic : String) (event : Event) : Prop :=
  ∃ id fetched joined peer publicKey record,
    event = .look id fetched joined ∧ node.asking.get? id = some peer ∧ Name.topic peer = topic
      ∧ node.resolver.subscriptions.get? topic = some { publicKey, record := some record }
      ∧ record.isExpired node.now = true

/-- No look-up gives a record of the topic up. -/
def Calm (node : Resolving) (topic : String) : List Event → Prop
  | [] => True
  | event :: rest => ¬ GivesUp node topic event ∧ Calm (node.step event) topic rest

variable {node : Resolving} {topic : String} {publicKey : PublicKey} {held : NameRecord}

theorem run_append (node : Resolving) (first second : List Event) :
    node.run (first ++ second) = (node.run first).run second :=
  List.foldl_append

theorem calm_append {first second : List Event} (calm : Calm node topic (first ++ second)) :
    Calm node topic first ∧ Calm (node.run first) topic second := by
  induction first generalizing node with
  | nil => exact ⟨trivial, calm⟩
  | cons event rest ih =>
    obtain ⟨keeps, calm⟩ := calm
    obtain ⟨front, back⟩ := ih calm
    exact ⟨⟨keeps, front⟩, back⟩

/-- Either nothing is given up, or there is a last time. -/
theorem calm_or_givesUp (node : Resolving) (topic : String) (events : List Event) :
    Calm node topic events
      ∨ ∃ before event after, events = before ++ event :: after
        ∧ GivesUp (node.run before) topic event
        ∧ Calm ((node.run before).step event) topic after := by
  induction events generalizing node with
  | nil => exact .inl trivial
  | cons event rest ih =>
    rcases ih (node.step event) with calm | ⟨before, last, after, rfl, givesUp, calm⟩
    · by_cases givesUp : GivesUp node topic event
      · exact .inr ⟨[], event, rest, rfl, givesUp, calm⟩
      · exact .inl ⟨givesUp, calm⟩
    · exact .inr ⟨event :: before, last, after, rfl, givesUp, calm⟩

theorem step_subscribed {record : Option NameRecord} {event : Event}
    (found : node.resolver.subscriptions.get? topic = some { publicKey, record })
    (uncancelled : ¬ Cancels topic event) :
    ∃ next, (node.step event).resolver.subscriptions.get? topic
      = some { publicKey, record := next } := by
  have change := node.step_change event topic
  rw [found] at change
  generalize (node.step event).resolver.subscriptions.get? topic = after at change
  cases change with
  | same => exact ⟨record, rfl⟩
  | giveUp asked own expired => exact ⟨none, rfl⟩
  | accept valid newer => exact ⟨_, rfl⟩
  | cancel parsed own => exact absurd ⟨_, _, rfl, parsed, own⟩ uncancelled

/-- The key of a subscription stays the same as long as the subscription lasts. -/
theorem run_subscribed {record : Option NameRecord} {events : List Event}
    (found : node.resolver.subscriptions.get? topic = some { publicKey, record })
    (uncancelled : ∀ event ∈ events, ¬ Cancels topic event) :
    ∃ next, (node.run events).resolver.subscriptions.get? topic
      = some { publicKey, record := next } := by
  induction events generalizing node record with
  | nil => exact ⟨record, found⟩
  | cons event rest ih =>
    obtain ⟨next, found⟩ := step_subscribed found (uncancelled event List.mem_cons_self)
    exact ih found fun other member => uncancelled other (List.mem_cons_of_mem event member)

theorem step_kept {event : Event}
    (kept : node.resolver.subscriptions.get? topic = some { publicKey, record := some held })
    (uncancelled : ¬ Cancels topic event) (keeps : ¬ GivesUp node topic event) :
    ∃ next, (node.step event).resolver.subscriptions.get? topic
        = some { publicKey, record := some next }
      ∧ held.sequence ≤ next.sequence := by
  have change := node.step_change event topic
  rw [kept] at change
  generalize (node.step event).resolver.subscriptions.get? topic = after at change
  cases change with
  | same => exact ⟨held, rfl, UInt64.le_refl _⟩
  | giveUp asked own expired =>
    exact absurd ⟨_, _, _, _, _, _, rfl, asked, own, kept, expired⟩ keeps
  | accept valid newer => exact ⟨_, rfl, UInt64.le_of_lt (newer held rfl)⟩
  | cancel parsed own => exact absurd ⟨_, _, rfl, parsed, own⟩ uncancelled

/-- As long as nothing is given up, the sequence number of the record kept does not go down. -/
theorem run_kept {events : List Event}
    (kept : node.resolver.subscriptions.get? topic = some { publicKey, record := some held })
    (uncancelled : ∀ event ∈ events, ¬ Cancels topic event) (calm : Calm node topic events) :
    ∃ next, (node.run events).resolver.subscriptions.get? topic
        = some { publicKey, record := some next }
      ∧ held.sequence ≤ next.sequence := by
  induction events generalizing node held with
  | nil => exact ⟨held, kept, UInt64.le_refl _⟩
  | cons event rest ih =>
    obtain ⟨keeps, calm⟩ := calm
    obtain ⟨next, kept, higher⟩ := step_kept kept (uncancelled event List.mem_cons_self) keeps
    obtain ⟨last, kept, further⟩ :=
      ih kept (fun other member => uncancelled other (List.mem_cons_of_mem event member)) calm
    exact ⟨last, kept, UInt64.le_trans higher further⟩

/-- A look-up has given a record up, and no record with the given sequence number or a higher one
has been kept since. -/
def Forgotten (node : Resolving) (topic : String) (publicKey : PublicKey) (events : List Event)
    (sequence : UInt64) : Prop :=
  ∃ before event after, events = before ++ event :: after
    ∧ GivesUp (node.run before) topic event
    ∧ ∀ middle, middle <+: after → ∀ current,
      (node.run (before ++ event :: middle)).resolver.subscriptions.get? topic
        = some { publicKey, record := some current } →
      current.sequence < sequence

/-- What is kept in the end falls behind what was kept before only when that was forgotten. -/
theorem forgotten_of_lower {events : List Event} {sequence : UInt64}
    (kept : node.resolver.subscriptions.get? topic = some { publicKey, record := some held })
    (uncancelled : ∀ event ∈ events, ¬ Cancels topic event) (bound : sequence ≤ held.sequence)
    (lower : ∀ current, (node.run events).resolver.subscriptions.get? topic
      = some { publicKey, record := some current } → current.sequence < sequence) :
    Forgotten node topic publicKey events sequence := by
  rcases calm_or_givesUp node topic events with
    calm | ⟨before, event, after, rfl, givesUp, calm⟩
  · obtain ⟨next, stays, higher⟩ := run_kept kept uncancelled calm
    have below := UInt64.lt_of_lt_of_le (lower next stays) bound
    exact absurd higher (UInt64.not_le.mpr below)
  · refine ⟨before, event, after, rfl, givesUp, ?_⟩
    rintro middle ⟨rest, rfl⟩ current stays
    have parts : before ++ event :: (middle ++ rest) = (before ++ event :: middle) ++ rest := by
      simp
    have calmRest : Calm (node.run (before ++ event :: middle)) topic rest := by
      rw [run_append]
      exact (calm_append calm).2
    have uncancelledRest : ∀ other ∈ rest, ¬ Cancels topic other := by
      intro other member
      exact uncancelled other (by simp [member])
    obtain ⟨next, last, higher⟩ := run_kept stays uncancelledRest calmRest
    rw [parts, run_append] at lower
    exact UInt64.lt_of_le_of_lt higher (lower next last)

/-- Since a record was kept under a topic, an older one is accepted there exactly when it is valid
and, before it came in, a look-up gave an expired record up and nothing as new was accepted again.
Without that, everything that is answered is as new as the record was. -/
theorem accepts_older_iff {events : List Event}
    (kept : node.resolver.subscriptions.get? topic = some { publicKey, record := some held })
    (uncancelled : ∀ event ∈ events, ¬ Cancels topic event) (message : Bytes) :
    let later := node.run events
    ((∃ sequence, (later.resolver.receive later.now topic message).2 = .ok sequence
        ∧ sequence < held.sequence) ↔
      ∃ record, validateRecord publicKey later.now message = .ok record
        ∧ record.sequence < held.sequence
        ∧ Forgotten node topic publicKey events record.sequence)
      ∧ ∀ path, (later.resolver.answer later.now topic).2 = .ok path →
        ∃ record, later.resolver.subscriptions.get? topic
            = some { publicKey, record := some record }
          ∧ record.value = path
          ∧ (held.sequence ≤ record.sequence
            ∨ Forgotten node topic publicKey events held.sequence) := by
  intro later
  obtain ⟨last, found⟩ := run_subscribed kept uncancelled
  refine ⟨⟨?_, ?_⟩, ?_⟩
  · rintro ⟨sequence, accepted, older⟩
    obtain ⟨subscription, record, same, valid, newer, rfl⟩ := GossipResolver.receive_ok.mp accepted
    obtain rfl := Option.some.inj (found.symm.trans same)
    refine ⟨record, valid, older, ?_⟩
    apply forgotten_of_lower kept uncancelled (UInt64.le_of_lt older)
    intro current stays
    have own := Option.some.inj (found.symm.trans stays)
    exact newer current (congrArg Subscription.record own)
  · rintro ⟨record, valid, older, before, event, after, rfl, -, lower⟩
    refine ⟨record.sequence, ?_, older⟩
    refine GossipResolver.receive_ok.mpr ⟨_, record, found, valid, ?_, rfl⟩
    rintro current rfl
    exact lower after (List.prefix_refl after) current found
  · intro path answered
    obtain ⟨key, record, same, -, value⟩ := GossipResolver.answer_ok.mp answered
    cases found.symm.trans same
    refine ⟨record, found, value, ?_⟩
    by_cases high : held.sequence ≤ record.sequence
    · exact .inl high
    · right
      apply forgotten_of_lower kept uncancelled (UInt64.le_refl _)
      intro current stays
      cases found.symm.trans stays
      exact UInt64.not_le.mp high

end Runs

namespace Sample

/-- The newer record is accepted. -/
def accepting : List Event := [
  .ask 0 name, .look 0 (.ok publicKey) (.ok ()), .deliver topic newer]

/-- It expires, and the name is looked up. -/
def expiring : List Event := [
  .setClock late, .ask 1 name, .look 1 (.ok publicKey) (.ok ())]

/-- The older record comes in, and the name is looked up again. -/
def replaying : List Event := [
  .deliver topic older, .ask 2 name, .look 2 (.ok publicKey) (.ok ())]

theorem uncancelled : ∀ event ∈ accepting ++ expiring ++ replaying, ¬ Cancels topic event := by
  simp [accepting, expiring, replaying, Cancels]

/-- What happens, computed in one go because signatures take their time. -/
theorem outcome :
    ((start early).run (accepting ++ expiring ++ replaying)).log.drop 3 = [
        .received topic early newer (.ok 2),
        .answered topic late (.error (.notFound topic)),
        .received topic late older (.ok 1),
        .answered topic late oldValue]
      ∧ ((start early).run accepting).resolver.subscriptions.get? topic
        = some { publicKey, record := (NameRecord.ofBytes newer).toOption }
      ∧ (NameRecord.ofBytes newer).toOption.map (·.sequence) = some 2
      ∧ ((((start early).run accepting).run expiring).resolver.receive
        (((start early).run accepting).run expiring).now topic older).2 = .ok 1 := by
  decide +kernel

end Sample

open Sample in
/-- The number of the first record is lost with it. -/
theorem older_accepted_after_expiry :
    (∀ event ∈ accepting ++ expiring ++ replaying, ¬ Cancels topic event)
      ∧ ((start early).run (accepting ++ expiring ++ replaying)).log.drop 3 = [
        .received topic early newer (.ok 2),
        .answered topic late (.error (.notFound topic)),
        .received topic late older (.ok 1),
        .answered topic late oldValue] :=
  ⟨Sample.uncancelled, outcome.1⟩

open Sample in
/-- The look-up in between gives the newer record up. -/
theorem accepts_older_iff_replay :
    let node := (start early).run accepting
    let later := node.run expiring
    ∃ held record,
      node.resolver.subscriptions.get? topic = some { publicKey, record := some held }
        ∧ validateRecord publicKey later.now older = .ok record
        ∧ record.sequence < held.sequence
        ∧ Forgotten node topic publicKey expiring record.sequence := by
  obtain ⟨-, kept, number, accepted⟩ := outcome
  obtain ⟨held, read, two⟩ := Option.map_eq_some_iff.mp number
  rw [read] at kept
  have uncancelled : ∀ event ∈ expiring, ¬ Cancels topic event := by
    intro event member
    exact Sample.uncancelled event (by simp [member])
  have lower : 1 < held.sequence := by
    rw [two]
    decide
  obtain ⟨record, valid, below, forgotten⟩ :=
    (accepts_older_iff kept uncancelled older).1.mp ⟨1, accepted, lower⟩
  exact ⟨held, record, kept, valid, below, forgotten⟩

end GossipNames.Resolving
