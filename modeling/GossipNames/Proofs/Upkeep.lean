import GossipNames.Proofs.InboundValues
import GossipNames.Proofs.Republishing

/-! Records on their way into a value store that keeps whatever was put last. Publications and renewals
take a record from the record store and put it some time later. The record store never goes back to a
lower number, but the value store does when a record that was taken before is put after a newer one. -/

namespace GossipNames

/-- Publications into the shared value store, and renewals of what is there, under way at the same
time. -/
structure Upkeep where
  store : Datastore
  values : ValueSlots
  /-- What the calls have left to put, by number. -/
  calls : Table Nat (List (Bytes × Bytes))

namespace Upkeep

inductive Event where
  | publish (id : Nat) (faults : StoreFaults) (key : Keypair) (value : Path)
    (endOfLife : Timestamp)
  | renew (id : Nat) (faults : StoreFaults) (key : Keypair) (endOfLife : Timestamp)
  | put (id : Nat) (reply : Except String Unit)
  /-- Nobody waits for the call any more. -/
  | abandon (id : Nat)

/-- What is done for a call once it has its record. -/
def Event.Concerns (id : Nat) : Event → Prop
  | .put other _ | .abandon other => other = id
  | .publish .. | .renew .. => False

def start (store : Datastore) : Upkeep where
  store
  values := .empty
  calls := .empty

/-- A value that is not taken ends the call. -/
def put (node : Upkeep) (id : Nat) (reply : Except String Unit) : Upkeep :=
  match node.calls.get? id with
  | some ((key, value) :: rest) =>
    match reply with
    | .ok () => { node with values := node.values.put key value, calls := node.calls.put id rest }
    | .error _ => { node with calls := node.calls.put id [] }
  | _ => node

def abandon (node : Upkeep) (id : Nat) : Upkeep :=
  { node with calls := node.calls.erase id }

/-- The record that is held for a name, when it can be read. -/
def held? (node : Upkeep) (peer : PeerId) : Option NameRecord :=
  heldRecord? (node.values.get? (RoutingKey.record peer).toBytes)

variable [SignatureScheme]

/-- A call without a record has nothing to put. -/
def putsOf (key : Keypair) (record? : Option NameRecord) : List (Bytes × Bytes) :=
  (record?.map (valuePuts key)).getD []

def publish (node : Upkeep) (id : Nat) (faults : StoreFaults) (key : Keypair) (value : Path)
    (endOfLife : Timestamp) : Upkeep :=
  if node.calls.contains id then node
  else
    let (store, issued) := RecordStore.issue faults node.store key value endOfLife
    { node with store, calls := node.calls.put id (putsOf key issued.toOption) }

def renew (node : Upkeep) (id : Nat) (faults : StoreFaults) (key : Keypair)
    (endOfLife : Timestamp) : Upkeep :=
  if node.calls.contains id then node
  else
    let renewed := refresh (RecordStore.last? faults node.store) endOfLife key
    { node with calls := node.calls.put id (putsOf key renewed.toOption.join) }

def step (node : Upkeep) : Event → Upkeep
  | .publish id faults key value endOfLife => node.publish id faults key value endOfLife
  | .renew id faults key endOfLife => node.renew id faults key endOfLife
  | .put id reply => node.put id reply
  | .abandon id => node.abandon id

def run (node : Upkeep) (events : List Event) : Upkeep :=
  events.foldl step node

theorem run_append (node : Upkeep) (first second : List Event) :
    node.run (first ++ second) = (node.run first).run second :=
  List.foldl_append

theorem run_concat (node : Upkeep) (events : List Event) (event : Event) :
    node.run (events ++ [event]) = (node.run events).step event :=
  List.foldl_concat ..

/-- A call begins with the event and has the record to put. -/
inductive Takes (node : Upkeep) (id : Nat) (key : Keypair) (record : NameRecord) : Event → Prop where
  | published {faults : StoreFaults} {value : Path} {endOfLife : Timestamp}
    (free : node.calls.get? id = none)
    (issued : (RecordStore.issue faults node.store key value endOfLife).2 = .ok record) :
    Takes node id key record (.publish id faults key value endOfLife)
  | renewed {faults : StoreFaults} {endOfLife : Timestamp} (free : node.calls.get? id = none)
    (found : refresh (RecordStore.last? faults node.store) endOfLife key = .ok (some record)) :
    Takes node id key record (.renew id faults key endOfLife)

section Undisturbed

/-- A value store that takes whatever is put. -/
def storing (key value : Bytes) : StateM ValueSlots (Except String Unit) := do
  modify (·.put key value)
  return .ok ()

variable {node : Upkeep} {id : Nat}

/-- A publication that nothing comes in between puts what it has issued. -/
theorem run_publish (free : node.calls.get? id = none) (faults : StoreFaults) (key : Keypair)
    (value : Path) (endOfLife : Timestamp) :
    let issued := RecordStore.issue faults node.store key value endOfLife
    let later := node.run [.publish id faults key value endOfLife, .put id (.ok ()), .put id (.ok ())]
    later.store = issued.1 ∧ later.values = match issued.2 with
      | .ok record => ((putRecord storing key record).run node.values).2
      | .error _ => node.values := by
  have absent : node.calls.contains id = false := by
    rw [Table.contains, free]
    rfl
  simp only [run, List.foldl_cons, List.foldl_nil, step, publish, absent]
  cases issued : RecordStore.issue faults node.store key value endOfLife with
  | mk store outcome =>
    cases outcome with
    | error error => simp [put, putsOf, Except.toOption, Table.get?_put]
    | ok record =>
      simp [put, putsOf, Except.toOption, Table.get?_put, valuePuts, putRecord, putValues, storing]
      rfl

/-- Neither does a renewal put anything but what is put back for a single key. -/
theorem run_renew (free : node.calls.get? id = none) (faults : StoreFaults) (key : Keypair)
    (endOfLife : Timestamp) :
    let later := node.run [.renew id faults key endOfLife, .put id (.ok ()), .put id (.ok ())]
    later.store = node.store ∧ later.values
      = ((republishKey storing (RecordStore.last? faults node.store) endOfLife key).run.run
        node.values).2 := by
  have absent : node.calls.contains id = false := by
    rw [Table.contains, free]
    rfl
  simp only [run, List.foldl_cons, List.foldl_nil, step, renew, absent, republishKey]
  cases renewed : refresh (RecordStore.last? faults node.store) endOfLife key with
  | error error =>
    simp [put, putsOf, Except.toOption, Table.get?_put]
    rfl
  | ok found =>
    cases found with
    | none =>
      simp [put, putsOf, Except.toOption, Table.get?_put]
      rfl
    | some record =>
      simp [put, putsOf, Except.toOption, Table.get?_put, valuePuts, putRecord, putValues, storing]
      rfl

end Undisturbed

section Steps

variable {node : Upkeep} {id : Nat} {event : Event}

/-- A call that begins has nothing to put, or takes the record that it has to put. -/
theorem calls_putsOf {later : Upkeep} {key : Keypair} {record? : Option NameRecord}
    (calls : later.calls = node.calls.put id (putsOf key record?))
    (takes : ∀ record, record? = some record → node.Takes id key record event) :
    later.calls.get? id = some [] ∨ ∃ key record, node.Takes id key record event
      ∧ later.calls.get? id = some (valuePuts key record) := by
  rw [calls, Table.get?_put, if_pos rfl]
  cases record? with
  | none => exact .inl rfl
  | some record => exact .inr ⟨key, record, takes record rfl, rfl⟩

/-- A call that has something to put has taken a record, if it has only just begun. -/
theorem calls_begun (quiet : ¬ event.Concerns id) :
    (node.step event).calls.get? id = node.calls.get? id
      ∨ node.calls.get? id = none ∧ ((node.step event).calls.get? id = some []
        ∨ ∃ key record, node.Takes id key record event
          ∧ (node.step event).calls.get? id = some (valuePuts key record)) := by
  cases event with
  | publish other faults key value endOfLife =>
    simp only [step, publish]
    split
    · exact .inl rfl
    · rename_i free
      by_cases same : id = other
      · subst same
        have absent : node.calls.get? id = none := by simpa [Table.contains] using free
        refine .inr ⟨absent, calls_putsOf rfl fun record issued => ?_⟩
        exact .published absent (toOption_eq_some_iff.mp issued)
      · exact .inl ((Table.get?_put ..).trans (if_neg same))
  | renew other faults key endOfLife =>
    simp only [step, renew]
    split
    · exact .inl rfl
    · rename_i free
      by_cases same : id = other
      · subst same
        have absent : node.calls.get? id = none := by simpa [Table.contains] using free
        refine .inr ⟨absent, calls_putsOf rfl fun record renewed => ?_⟩
        exact .renewed absent (toOption_eq_some_iff.mp (Option.join_eq_some_iff.mp renewed))
      · exact .inl ((Table.get?_put ..).trans (if_neg same))
  | put other reply =>
    left
    have different : id ≠ other := fun same => quiet same.symm
    simp only [step, put]
    split
    · cases reply <;> exact (Table.get?_put ..).trans (if_neg different)
    · rfl
  | abandon other =>
    left
    have different : id ≠ other := fun same => quiet same.symm
    simp only [step, abandon, Table.get?_erase, if_neg different]

/-- What is done for a call leaves it less to put. -/
theorem calls_concerned (concerns : event.Concerns id) {first : Bytes × Bytes}
    {rest : List (Bytes × Bytes)} (left : (node.step event).calls.get? id = some (first :: rest)) :
    ∃ before, node.calls.get? id = some (before :: first :: rest) := by
  cases event with
  | publish | renew => cases concerns
  | abandon other =>
    obtain rfl : other = id := concerns
    simp [step, abandon, Table.get?_erase] at left
  | put other reply =>
    obtain rfl : other = id := concerns
    simp only [step, put] at left
    split at left
    · rename_i key value others puts
      cases reply with
      | ok =>
        simp only [Table.get?_put, if_true, Option.some.injEq] at left
        exact ⟨(key, value), left ▸ puts⟩
      | error => simp [Table.get?_put] at left
    · rename_i done
      exact absurd left (done _ _ _)

/-- Only a put changes what is held, and only where it puts. -/
theorem step_values (node : Upkeep) (event : Event) :
    (node.step event).values = node.values
      ∨ ∃ id key value rest, event = .put id (.ok ())
        ∧ node.calls.get? id = some ((key, value) :: rest)
        ∧ (node.step event).values = node.values.put key value := by
  cases event with
  | publish id faults key value endOfLife =>
    left
    simp only [step, publish]
    split <;> rfl
  | renew id faults key endOfLife =>
    left
    simp only [step, renew]
    split <;> rfl
  | abandon id => exact .inl rfl
  | put id reply =>
    simp only [step, put]
    split
    · rename_i key value rest puts
      cases reply with
      | ok => exact .inr ⟨id, key, value, rest, rfl, puts, rfl⟩
      | error error => exact .inl rfl
    · exact .inl rfl

/-- What is kept for an identity stays, or the next record of the identity comes in its place. -/
theorem step_store (node : Upkeep) (event : Event) (peer : PeerId) :
    (node.step event).store.get? (.ofPeer peer) = node.store.get? (.ofPeer peer)
      ∨ ∃ record, RecordStore.Follows node.store peer record
        ∧ (node.step event).store.get? (.ofPeer peer) = some record.toBytes := by
  cases event with
  | publish id faults key value endOfLife =>
    simp only [step, publish]
    split
    · exact .inl rfl
    · rcases RecordStore.issue_cases faults node.store key value endOfLife with
        ⟨error, failed⟩ | ⟨record, next, issued⟩
      · rw [failed]
        exact .inl rfl
      · simp only [issued, Table.get?_put]
        by_cases own : key.peerId = peer
        · subst own
          exact .inr ⟨record, RecordStore.follows_of_next next, if_pos rfl⟩
        · exact .inl (if_neg fun same => own (DatastoreKey.ofPeer_inj.mp same).symm)
  | renew id faults key endOfLife =>
    left
    simp only [step, renew]
    split <;> rfl
  | put id reply =>
    left
    simp only [step, put]
    split
    · cases reply <;> rfl
    · rfl
  | abandon id => exact .inl rfl

end Steps

section Numbers

variable {node : Upkeep} {id : Nat} {key : Keypair} {record : NameRecord} {event : Event}
  {peer : PeerId} {last : UInt64}

/-- The record store never goes back to a lower number. -/
theorem lastSequence_step
    (read : RecordStore.lastSequence .none (node.step event).store peer = .ok last) :
    ∃ previous, RecordStore.lastSequence .none node.store peer = .ok previous ∧ previous ≤ last := by
  rcases node.step_store event peer with same | ⟨record, follows, kept⟩
  · rw [RecordStore.lastSequence_of_get? same] at read
    exact ⟨last, read, UInt64.le_refl last⟩
  · obtain ⟨previous, before, lower⟩ := follows.lt
    rw [RecordStore.lastSequence_of_kept kept read]
    exact ⟨previous, before, UInt64.le_of_lt lower⟩

theorem lastSequence_run (events : List Event)
    (read : RecordStore.lastSequence .none (node.run events).store peer = .ok last) :
    ∃ previous, RecordStore.lastSequence .none node.store peer = .ok previous ∧ previous ≤ last := by
  induction events using List.reverseRecOn generalizing last with
  | nil => exact ⟨last, read, UInt64.le_refl last⟩
  | append_singleton front event ih =>
    rw [run_concat] at read
    obtain ⟨between, before, lower⟩ := lastSequence_step read
    obtain ⟨previous, first, below⟩ := ih before
    exact ⟨previous, first, UInt64.le_trans below lower⟩

theorem lastSequence_of_refresh {faults : StoreFaults} {store : Datastore} {endOfLife : Timestamp}
    (found : refresh (RecordStore.last? faults store) endOfLife key = .ok (some record)) :
    RecordStore.lastSequence .none store key.peerId = .ok record.sequence := by
  obtain ⟨current, last, again⟩ := refresh_ok.mp found
  obtain ⟨-, number, -⟩ := NameRecord.fields_of_create again
  have read : RecordStore.lastSequence faults store key.peerId = .ok record.sequence := by
    rw [RecordStore.lastSequence, last, number]
    rfl
  exact RecordStore.lastSequence_sound read

namespace Takes

/-- What is taken is not before the last record. -/
theorem last_le (takes : node.Takes id key record event) :
    ∃ last, RecordStore.lastSequence .none node.store key.peerId = .ok last
      ∧ last ≤ record.sequence := by
  cases takes with
  | published free issued =>
    have follows := RecordStore.follows_of_next (RecordStore.kept_of_issued issued).1
    obtain ⟨previous, read, lower⟩ := follows.lt
    exact ⟨previous, read, UInt64.le_of_lt lower⟩
  | renewed free found => exact ⟨_, lastSequence_of_refresh found, UInt64.le_refl _⟩

/-- As soon as it is taken it is the last one. -/
theorem eq_last (takes : node.Takes id key record event)
    (read : RecordStore.lastSequence .none (node.step event).store key.peerId = .ok last) :
    record.sequence = last := by
  cases takes with
  | @published faults value endOfLife free issued =>
    have kept : (node.step (.publish id faults key value endOfLife)).store
        = node.store.put (.ofPeer key.peerId) record.toBytes := by
      simp [step, publish, Table.contains, free, (RecordStore.kept_of_issued issued).2]
    rw [kept] at read
    refine (RecordStore.lastSequence_of_kept ?_ read).symm
    rw [Table.get?_put, if_pos rfl]
  | @renewed faults endOfLife free found =>
    have same : (node.step (.renew id faults key endOfLife)).store = node.store := by
      simp only [step, renew]
      split <;> rfl
    rw [same, lastSequence_of_refresh found] at read
    exact Except.ok.inj read

end Takes

/-- Nothing that is held or waits to be put is after the last record of its identity. -/
structure Bounded (node : Upkeep) : Prop where
  /-- A record is always put first. -/
  ordered : ∀ {id first rest}, node.calls.get? id = some (first :: rest) →
    ∀ put ∈ rest, ∃ peer, put.1 = (RoutingKey.publicKey peer).toBytes
  waiting : ∀ {id peer value rest record last},
    node.calls.get? id = some (((RoutingKey.record peer).toBytes, value) :: rest) →
    NameRecord.ofBytes value = .ok record →
    RecordStore.lastSequence .none node.store peer = .ok last → record.sequence ≤ last
  held : ∀ {peer record last}, node.held? peer = some record →
    RecordStore.lastSequence .none node.store peer = .ok last → record.sequence ≤ last

namespace Bounded

omit [SignatureScheme] in
theorem start (store : Datastore) : Bounded (start store) where
  ordered found := by cases found
  waiting found := by cases found
  held found := by cases found

omit [SignatureScheme] in
/-- A record does not come after something else that a call has put. -/
theorem not_behind (bounded : Bounded node) {before : Bytes × Bytes} {value : Bytes}
    {rest : List (Bytes × Bytes)} :
    node.calls.get? id ≠ some (before :: ((RoutingKey.record peer).toBytes, value) :: rest) := by
  intro found
  obtain ⟨other, same⟩ := bounded.ordered found _ List.mem_cons_self
  have keys : (RoutingKey.record peer).toBytes = (RoutingKey.publicKey other).toBytes := same
  cases RoutingKey.toBytes_injective keys

theorem step (bounded : Bounded node) (event : Event) : Bounded (node.step event) where
  ordered {id first rest} left := by
    by_cases concerns : event.Concerns id
    · obtain ⟨before, found⟩ := calls_concerned concerns left
      intro put member
      exact bounded.ordered found put (List.mem_cons_of_mem first member)
    · rcases calls_begun concerns with same | ⟨-, nothing | ⟨key, record, -, begun⟩⟩
      · exact bounded.ordered (same ▸ left)
      · rw [nothing] at left
        cases left
      · rw [begun] at left
        cases left
        intro put member
        obtain rfl := List.mem_singleton.mp member
        exact ⟨key.peerId, rfl⟩
  waiting {id peer value rest record last} left decoded read := by
    by_cases concerns : event.Concerns id
    · obtain ⟨before, found⟩ := calls_concerned concerns left
      exact absurd found bounded.not_behind
    · rcases calls_begun concerns with same | ⟨-, nothing | ⟨key, taken, takes, begun⟩⟩
      · obtain ⟨previous, before, lower⟩ := lastSequence_step read
        exact UInt64.le_trans (bounded.waiting (same ▸ left) decoded before) lower
      · rw [nothing] at left
        cases left
      · rw [begun] at left
        obtain ⟨first, -⟩ := List.cons.inj (Option.some.inj left)
        obtain ⟨keys, rfl⟩ := Prod.mk.inj first
        cases RoutingKey.toBytes_injective keys
        rw [(NameRecord.eq_of_ofBytes_toBytes decoded).2.2.1, takes.eq_last read]
        exact UInt64.le_refl last
  held {peer record last} found read := by
    obtain ⟨previous, before, lower⟩ := lastSequence_step read
    refine UInt64.le_trans ?_ lower
    rcases node.step_values event with same | ⟨id, key, value, rest, rfl, waits, put⟩
    · rw [held?, same] at found
      exact bounded.held found before
    · rw [held?, put, Table.get?_put] at found
      split at found
      · rename_i own
        subst own
        exact bounded.waiting waits (heldRecord?_some.mp found) before
      · exact bounded.held found before

theorem run (bounded : Bounded node) (events : List Event) : Bounded (node.run events) := by
  induction events using List.reverseRecOn with
  | nil => exact bounded
  | append_singleton front event ih =>
    rw [run_concat]
    exact ih.step event

end Bounded

end Numbers

section Overtaking

variable {store : Datastore} {id : Nat} {key : Keypair} {record : NameRecord} {peer : PeerId}

/-- A call that waits to put a record has taken it, and nothing was done for the call since. -/
theorem exists_taken {events : List Event} {value : Bytes} {rest : List (Bytes × Bytes)}
    (waits : ((start store).run events).calls.get? id
      = some (((RoutingKey.record peer).toBytes, value) :: rest)) :
    ∃ before take after key record, events = before ++ take :: after
      ∧ ((start store).run before).Takes id key record take
      ∧ key.peerId = peer ∧ value = record.toBytes
      ∧ ∀ event ∈ after, ¬ event.Concerns id := by
  induction events using List.reverseRecOn with
  | nil => cases waits
  | append_singleton front event ih =>
    rw [run_concat] at waits
    by_cases concerns : event.Concerns id
    · obtain ⟨before, found⟩ := calls_concerned concerns waits
      exact absurd found ((Bounded.start store).run front).not_behind
    · rcases calls_begun concerns with same | ⟨-, nothing | ⟨key, record, takes, begun⟩⟩
      · obtain ⟨before, take, after, key, record, rfl, takes, own, same, quiet⟩ := ih (same ▸ waits)
        refine ⟨before, take, after ++ [event], key, record, by simp, takes, own, same, ?_⟩
        intro other member
        rcases List.mem_append.mp member with earlier | last
        · exact quiet other earlier
        · exact List.mem_singleton.mp last ▸ concerns
      · rw [nothing] at waits
        cases waits
      · rw [begun] at waits
        obtain ⟨first, -⟩ := List.cons.inj (Option.some.inj waits)
        obtain ⟨keys, same⟩ := Prod.mk.inj first
        cases RoutingKey.toBytes_injective keys
        exact ⟨front, event, [], key, record, rfl, takes, rfl, same.symm, by simp⟩

/-- What a call has to put stays the same until something is done for it. -/
theorem calls_quiet {node : Upkeep} {left : List (Bytes × Bytes)} {events : List Event}
    (waits : node.calls.get? id = some left) (quiet : ∀ event ∈ events, ¬ event.Concerns id) :
    (node.run events).calls.get? id = some left := by
  induction events using List.reverseRecOn with
  | nil => exact waits
  | append_singleton front event ih =>
    have before := ih fun other member => quiet other (List.mem_append_left _ member)
    rw [run_concat]
    rcases calls_begun (quiet event (by simp)) with same | ⟨unknown, -⟩
    · rw [same, before]
    · rw [unknown] at before
      cases before

theorem Takes.calls {node : Upkeep} {take : Event} (takes : node.Takes id key record take) :
    (node.step take).calls.get? id = some (valuePuts key record) := by
  cases takes with
  | published free issued =>
    simp [step, publish, Table.contains, free, issued, putsOf, Except.toOption, Table.get?_put]
  | renewed free found =>
    simp [step, renew, Table.contains, free, found, putsOf, Except.toOption, Table.get?_put]

theorem put_held {node : Upkeep} {value : Bytes} {rest : List (Bytes × Bytes)}
    (waits : node.calls.get? id = some (((RoutingKey.record peer).toBytes, value) :: rest)) :
    (node.step (.put id (.ok ()))).held? peer = heldRecord? (some value) := by
  simp [step, put, waits, held?, Table.get?_put]

/-- What is held for a name was held before, or has been put since. -/
theorem held_same_or_put (node : Upkeep) (events : List Event) (peer : PeerId) :
    (node.run events).held? peer = node.held? peer
      ∨ ∃ before id value rest after, events = before ++ .put id (.ok ()) :: after
        ∧ (node.run before).calls.get? id
          = some (((RoutingKey.record peer).toBytes, value) :: rest)
        ∧ (node.run events).held? peer = heldRecord? (some value) := by
  induction events using List.reverseRecOn with
  | nil => exact .inl rfl
  | append_singleton front event ih =>
    rw [run_concat]
    have stays : ((node.run front).step event).held? peer = (node.run front).held? peer →
        ((node.run front).step event).held? peer = node.held? peer
          ∨ ∃ before id value rest after, front ++ [event] = before ++ .put id (.ok ()) :: after
            ∧ (node.run before).calls.get? id
              = some (((RoutingKey.record peer).toBytes, value) :: rest)
            ∧ ((node.run front).step event).held? peer = heldRecord? (some value) := by
      intro same
      rw [same]
      rcases ih with before | ⟨before, id, value, rest, after, rfl, waits, put⟩
      · exact .inl before
      · exact .inr ⟨before, id, value, rest, after ++ [event], by simp, waits, put⟩
    rcases (node.run front).step_values event with same | ⟨id, key, value, rest, rfl, waits, put⟩
    · exact stays (by rw [held?, held?, same])
    · by_cases own : key = (RoutingKey.record peer).toBytes
      · subst own
        exact .inr ⟨front, id, value, rest, [], rfl, waits, put_held waits⟩
      · refine stays ?_
        rw [held?, held?, put, Table.get?_put, if_neg (Ne.symm own)]

/-- At some time a lower number is held for a name than before. -/
def Falls (store : Datastore) (peer : PeerId) (events : List Event) : Prop :=
  ∃ earlier later newer older, earlier ++ later <+: events
    ∧ ((start store).run earlier).held? peer = some newer
    ∧ ((start store).run (earlier ++ later)).held? peer = some older
    ∧ older.sequence < newer.sequence

/-- A call takes a record, and by the time that it puts the record a newer one has been held. -/
inductive Overtaken (store : Datastore) (peer : PeerId) (events : List Event) : Prop where
  | intro {before first second : List Event} {take : Event} {id : Nat} {key : Keypair}
    {record newer : NameRecord}
    (schedule : before ++ take :: first ++ (second ++ [.put id (.ok ())]) <+: events)
    (takes : ((start store).run before).Takes id key record take) (own : key.peerId = peer)
    (quiet : ∀ event ∈ first ++ second, ¬ event.Concerns id)
    (held : ((start store).run (before ++ take :: first)).held? peer = some newer)
    (lower : record.sequence < newer.sequence)
    (readable : ∃ shown, NameRecord.ofBytes record.toBytes = .ok shown)

theorem Overtaken.falls {events : List Event} (overtaken : Overtaken store peer events) :
    Falls store peer events := by
  obtain @⟨before, first, second, take, id, key, record, newer, schedule, takes, own, quiet, held,
    lower, shown, read⟩ := overtaken
  subst own
  have waits : ((start store).run (before ++ take :: first ++ second)).calls.get? id
      = some (valuePuts key record) := by
    rw [List.append_assoc, List.cons_append, run_append]
    change ((((start store).run before).step take).run (first ++ second)).calls.get? id = _
    exact calls_quiet takes.calls quiet
  refine ⟨before ++ take :: first, second ++ [.put id (.ok ())], newer, shown, schedule, held, ?_, ?_⟩
  · rw [← List.append_assoc, run_concat, put_held waits]
    exact heldRecord?_some.mpr read
  · rwa [(NameRecord.eq_of_ofBytes_toBytes read).2.2.1]

theorem Falls.overtaken {events : List Event} (falls : Falls store peer events) :
    Overtaken store peer events := by
  obtain ⟨earlier, later, newer, older, early, held, low, lower⟩ := falls
  rw [run_append] at low
  rcases ((start store).run earlier).held_same_or_put later peer with
    same | ⟨second, id, value, rest, after, rfl, waits, put⟩
  · -- The same record cannot be below itself.
    rw [same, held] at low
    cases low
    exact absurd lower (UInt64.lt_irrefl _)
  · rw [put] at low
    have read := heldRecord?_some.mp low
    rw [← run_append] at waits
    obtain ⟨before, take, between, key, record, schedule, takes, own, rfl, quiet⟩ :=
      exists_taken waits
    have number := (NameRecord.eq_of_ofBytes_toBytes read).2.2.1
    rw [number] at lower
    have split : (∃ middle, before = earlier ++ middle)
        ∨ ∃ first, earlier = before ++ take :: first ∧ between = first ++ second := by
      rcases List.append_eq_append_iff.mp schedule with ⟨middle, same, -⟩ | ⟨within, same, cut⟩
      · exact .inl ⟨middle, same⟩
      · rcases List.cons_eq_append_iff.mp cut with ⟨rfl, -⟩ | ⟨first, rfl, rest⟩
        · exact .inl ⟨[], by simp [same]⟩
        · exact .inr ⟨first, same, rest⟩
    rcases split with ⟨middle, rfl⟩ | ⟨first, rfl, rfl⟩
    · -- Taken after the newer one was held, the record would not be below it.
      obtain ⟨last, latest, reached⟩ := takes.last_le
      rw [own, run_append] at latest
      obtain ⟨previous, sequence, below⟩ := lastSequence_run middle latest
      have bound := ((Bounded.start store).run earlier).held held sequence
      exact absurd (UInt64.le_trans bound (UInt64.le_trans below reached)) (UInt64.not_le.mpr lower)
    · have served : before ++ take :: first ++ (second ++ [.put id (.ok ())]) <+: events := by
        refine List.IsPrefix.trans ?_ early
        exact ⟨after, by simp⟩
      exact .intro served takes own quiet held lower ⟨older, read⟩

/-- The number that is held for a name goes back exactly when a call is overtaken by another: it has
taken its record, by issuing it or to put it back, before a newer one is put, and puts it after that.
As long as no newer record is put between a call's taking of its record and its put, the number never
goes back. -/
theorem falls_iff_overtaken (store : Datastore) (peer : PeerId) (events : List Event) :
    Falls store peer events ↔ Overtaken store peer events :=
  ⟨Falls.overtaken, Overtaken.falls⟩

end Overtaking

end Upkeep

namespace Upkeep

namespace Sample

open NameRecord.Sample Resolvable.Sample

/-- Two records are issued for a key. The second is put first. -/
def publications : List Event := [
  .publish 0 .none key target endOfLife, .publish 1 .none key target endOfLife,
  .put 1 (.ok ()), .put 0 (.ok ())]

/-- The first record is to be put back when the second one is published. -/
def renewal : List Event := [
  .publish 0 .none key target endOfLife, .put 0 (.ok ()),
  .renew 1 .none key Republishing.Sample.longer,
  .publish 2 .none key target endOfLife, .put 2 (.ok ()), .put 1 (.ok ())]

/-- The numbers that are held for the key after each of the events. -/
def numbers (events : List Event) : List (Option UInt64) :=
  (events.scanl step (start .empty)).map fun node => (node.held? key.peerId).map (·.sequence)

end Sample

open Sample in
/-- The second number is held, and after it the first one. -/
theorem number_goes_back :
    numbers publications = [none, none, none, some 2, some 1]
      ∧ numbers renewal = [none, none, some 1, some 1, some 1, some 2, some 1] := by
  decide +kernel

end Upkeep

end GossipNames
