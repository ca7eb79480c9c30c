import GossipNames.Proofs.Republishing

/-! What one cycle of republishing puts into the value store, whatever fails on the way. The cycle
goes through the node's own identity and the keys of its keystore in order; it ends at the first
failure, and nothing is put for what would have come later. -/

namespace GossipNames.Republishing

/-- What a cycle goes through, in order: a key, or the reason for which there is none. -/
def agenda (identity : Keypair) : Option Keyring → List (Except NameError Keypair)
  | none => [.ok identity]
  | some keyring =>
    .ok identity :: match keyring.names with
      | .error error => [.error (.keystore error)]
      | .ok names => names.map fun name => (keyring.key name).mapError .keystore

/-- Where there is no key, it is because of the keystore. -/
theorem agenda_error {identity : Keypair} {keyring? : Option Keyring}
    {error : NameError} (listed : .error error ∈ agenda identity keyring?) :
    ∃ fault, error = .keystore fault := by
  cases keyring? with
  | none => simp [agenda] at listed
  | some keyring =>
    cases names : keyring.names with
    | error fault =>
      refine ⟨fault, ?_⟩
      simpa [agenda, names] using listed
    | ok names' =>
      simp only [agenda, names, List.mem_cons, reduceCtorEq, List.mem_map, false_or] at listed
      obtain ⟨name, -, failed⟩ := listed
      cases key : keyring.key name with
      | error fault =>
        rw [key] at failed
        exact ⟨fault, (Except.error.inj failed).symm⟩
      | ok found =>
        rw [key] at failed
        cases failed

section Walk

variable [SignatureScheme] {m : Type → Type} [Monad m]
  (put : Bytes → Bytes → m (Except String Unit))
  (last? : PeerId → Except NameError (Option NameRecord)) (endOfLife : m Timestamp)

/-- A cycle over the items of an agenda, after some records were put back. -/
def walk : List (Except NameError Keypair) → (count : Nat) → ExceptT NameError m Nat
  | [], count => return count
  | item :: rest, count => do
    let key ← ExceptT.mk (pure item)
    let put? ← republishKey put last? (← endOfLife) key
    walk rest (if put? then count + 1 else count)

theorem republishNames_eq_walk (keyring : Keyring) (names : List String) (count : Nat) :
    republishNames put last? endOfLife keyring names count
      = walk put last? endOfLife
        (names.map fun name => (keyring.key name).mapError .keystore) count := by
  induction names generalizing count with
  | nil => rfl
  | cons name rest ih => simp only [republishNames, walk, List.map_cons, ih]

theorem republish_eq_walk [LawfulMonad m] (identity : Keypair) (keyring? : Option Keyring) :
    republish put last? endOfLife identity keyring?
      = walk put last? endOfLife (agenda identity keyring?) 0 := by
  have given {α : Type} (value : α) :
      ExceptT.mk (pure (.ok value)) = (pure value : ExceptT NameError m α) := rfl
  have missing {α β : Type} (error : NameError) (next : α → ExceptT NameError m β) :
      ExceptT.mk (pure (.error error)) >>= next = ExceptT.mk (pure (.error error)) := by
    apply ExceptT.ext
    simp
  cases keyring? with
  | none => simp [republish, agenda, walk, given]
  | some keyring =>
    cases listed : keyring.names with
    | error error =>
      simp [republish, agenda, listed, walk, given, missing]
    | ok names =>
      simp [republish, agenda, listed, walk, given, republishNames_eq_walk]

end Walk

/-- What a cycle cannot choose: what the clock shows and what the value store answers, both after
everything that was put until then, and how long records are to live. -/
structure Conditions where
  clock : List (Bytes × Bytes) → Timestamp
  answer : List (Bytes × Bytes) → Except String Unit
  seconds : Nat
  nanos : Nat

/-- A node with all that it has put into the value store, whether that was accepted or not. -/
structure Node where
  store : Datastore
  faults : StoreFaults
  keyring? : Option Keyring
  puts : List (Bytes × Bytes)

namespace Node

def last? (node : Node) : PeerId → Except NameError (Option NameRecord) :=
  RecordStore.last? node.faults node.store

def afterPuts (node : Node) (puts : List (Bytes × Bytes)) : Node :=
  { node with puts := node.puts ++ puts }

@[simp] theorem afterPuts_nil (node : Node) : node.afterPuts [] = node := by
  simp [afterPuts]

@[simp] theorem afterPuts_afterPuts (node : Node) (first second : List (Bytes × Bytes)) :
    (node.afterPuts first).afterPuts second = node.afterPuts (first ++ second) := by
  simp [afterPuts]

@[simp] theorem puts_afterPuts (node : Node) (puts : List (Bytes × Bytes)) :
    (node.afterPuts puts).puts = node.puts ++ puts := rfl

end Node

namespace Conditions

variable (conditions : Conditions)

def endOfLife (puts : List (Bytes × Bytes)) : Timestamp :=
  endOfLifeAfter (conditions.clock puts) conditions.seconds conditions.nanos

def put (key value : Bytes) : StateM Node (Except String Unit) := do
  modify (·.afterPuts [(key, value)])
  return conditions.answer (← get).puts

def endOfLifeNow : StateM Node Timestamp := do
  return conditions.endOfLife (← get).puts

section

variable [SignatureScheme]

def cycle (identity : Keypair) (node : Node) : Except NameError Nat × Node :=
  (republish conditions.put node.last? conditions.endOfLifeNow identity node.keyring?).run.run node

variable (last? : PeerId → Except NameError (Option NameRecord))

/-- What becomes of one key. -/
def turn (key : Keypair) (node : Node) : Except NameError Bool × Node :=
  (republishKey conditions.put last? (conditions.endOfLife node.puts) key).run.run node

/-- What becomes of items of an agenda after some records were put back. -/
def run (items : List (Except NameError Keypair)) (count : Nat) (node : Node) :
    Except NameError Nat × Node :=
  (walk conditions.put last? conditions.endOfLifeNow items count).run.run node

end

end Conditions

section Cycle

variable [SignatureScheme]

def recordPut (key : Keypair) (record : NameRecord) : Bytes × Bytes :=
  ((RoutingKey.record key.peerId).toBytes, record.toBytes)

def keyPut (key : Keypair) : Bytes × Bytes :=
  ((RoutingKey.publicKey key.peerId).toBytes, key.publicKey.encode)

/-- What is stored for a key, signed again with another end of life and nothing else. -/
structure IsRenewal (last? : PeerId → Except NameError (Option NameRecord)) (endOfLife : Timestamp)
    (key : Keypair) (record renewed : NameRecord) : Prop where
  stored : last? key.peerId = .ok (some record)
  signed : NameRecord.create key record.value record.sequence endOfLife = .ok renewed
  value : renewed.value = record.value
  sequence : renewed.sequence = record.sequence
  validity : renewed.validity = endOfLife

section Outcomes

variable (conditions : Conditions) (last? : PeerId → Except NameError (Option NameRecord))

/-- The keys go by without a failure after some values were put: `puts` are those put for them and
`count` is how many of them have a record. -/
inductive Renews : (before : List (Bytes × Bytes)) → (keys : List Keypair) →
    (puts : List (Bytes × Bytes)) → (count : Nat) → Prop where
  | finished {before : List (Bytes × Bytes)} : Renews before [] [] 0
  | unpublished {before puts : List (Bytes × Bytes)} {key : Keypair} {keys : List Keypair}
      {count : Nat} (absent : last? key.peerId = .ok none) (rest : Renews before keys puts count) :
      Renews before (key :: keys) puts count
  | published {before puts : List (Bytes × Bytes)} {key : Keypair} {keys : List Keypair}
      {count : Nat} {record renewed : NameRecord}
      (renewal : IsRenewal last? (conditions.endOfLife before) key record renewed)
      (recordTaken : conditions.answer (before ++ [recordPut key renewed]) = .ok ())
      (keyTaken : conditions.answer (before ++ [recordPut key renewed, keyPut key]) = .ok ())
      (rest : Renews (before ++ [recordPut key renewed, keyPut key]) keys puts count) :
      Renews before (key :: keys) (recordPut key renewed :: keyPut key :: puts) (count + 1)

/-- An item fails after some values were put, when those of `tried` have been put for it. -/
inductive Fails (before : List (Bytes × Bytes)) :
    Except NameError Keypair → (tried : List (Bytes × Bytes)) → NameError → Prop where
  | missing {error : NameError} : Fails before (.error error) [] error
  | unread {key : Keypair} {error : NameError} (failed : last? key.peerId = .error error) :
      Fails before (.ok key) [] error
  | unsigned {key : Keypair} {record : NameRecord} {fault : RecordError}
      (stored : last? key.peerId = .ok (some record))
      (failed : NameRecord.create key record.value record.sequence (conditions.endOfLife before)
        = .error fault) :
      Fails before (.ok key) [] (.record fault)
  | recordRefused {key : Keypair} {record renewed : NameRecord} {reason : String}
      (renewal : IsRenewal last? (conditions.endOfLife before) key record renewed)
      (refused : conditions.answer (before ++ [recordPut key renewed]) = .error reason) :
      Fails before (.ok key) [recordPut key renewed] (.routing reason)
  | keyRefused {key : Keypair} {record renewed : NameRecord} {reason : String}
      (renewal : IsRenewal last? (conditions.endOfLife before) key record renewed)
      (recordTaken : conditions.answer (before ++ [recordPut key renewed]) = .ok ())
      (refused : conditions.answer (before ++ [recordPut key renewed, keyPut key])
        = .error reason) :
      Fails before (.ok key) [recordPut key renewed, keyPut key] (.routing reason)

end Outcomes

section Steps

variable {conditions : Conditions} {last? : PeerId → Except NameError (Option NameRecord)}
  {node : Node} {key : Keypair} {record renewed : NameRecord}

theorem isRenewal_of_create {endOfLife : Timestamp}
    (stored : last? key.peerId = .ok (some record))
    (signed : NameRecord.create key record.value record.sequence endOfLife = .ok renewed) :
    IsRenewal last? endOfLife key record renewed := by
  obtain ⟨value, sequence, validity, -⟩ := NameRecord.fields_of_create signed
  exact { stored, signed, value, sequence, validity }

theorem turn_unpublished
    (absent : refresh last? (conditions.endOfLife node.puts) key = .ok none) :
    conditions.turn last? key node = (.ok false, node) := by
  unfold Conditions.turn republishKey
  rw [absent]
  rfl

/-- Nothing is put for a key whose record cannot be signed again. -/
theorem turn_unsigned {error : NameError}
    (failed : refresh last? (conditions.endOfLife node.puts) key = .error error) :
    conditions.turn last? key node = (.error error, node.afterPuts []) := by
  rw [Node.afterPuts_nil]
  unfold Conditions.turn republishKey
  rw [failed]
  rfl

omit [SignatureScheme] in
theorem putValues_cons (first : Bytes × Bytes) (rest : List (Bytes × Bytes)) (node : Node) :
    (putValues conditions.put (first :: rest)).run node =
      match conditions.answer (node.puts ++ [first]) with
      | .error reason => (.error (.routing reason), node.afterPuts [first])
      | .ok () => (putValues conditions.put rest).run (node.afterPuts [first]) := by
  have put : (conditions.put first.1 first.2).run node
      = (conditions.answer (node.puts ++ [first]), node.afterPuts [first]) := rfl
  rw [putValues, StateT.run_bind, put]
  cases conditions.answer (node.puts ++ [first]) <;> rfl

theorem putRecord_run :
    (putRecord conditions.put key record).run node =
      match conditions.answer (node.puts ++ [recordPut key record]) with
      | .error reason => (.error (.routing reason), node.afterPuts [recordPut key record])
      | .ok () =>
        ((conditions.answer (node.puts ++ [recordPut key record, keyPut key])).mapError .routing,
          node.afterPuts [recordPut key record, keyPut key]) := by
  change (putValues conditions.put [recordPut key record, keyPut key]).run node = _
  rw [putValues_cons, putValues_cons, Node.puts_afterPuts, Node.afterPuts_afterPuts,
    List.append_assoc, List.singleton_append]
  cases conditions.answer (node.puts ++ [recordPut key record, keyPut key]) <;> rfl

theorem turn_signed
    (renewal : IsRenewal last? (conditions.endOfLife node.puts) key record renewed) :
    conditions.turn last? key node =
      match conditions.answer (node.puts ++ [recordPut key renewed]) with
      | .error reason => (.error (.routing reason), node.afterPuts [recordPut key renewed])
      | .ok () =>
        match conditions.answer (node.puts ++ [recordPut key renewed, keyPut key]) with
        | .error reason =>
          (.error (.routing reason), node.afterPuts [recordPut key renewed, keyPut key])
        | .ok () => (.ok true, node.afterPuts [recordPut key renewed, keyPut key]) := by
  have found := refresh_ok.mpr ⟨record, renewal.stored, renewal.signed⟩
  have puts : conditions.turn last? key node
      = ((putRecord conditions.put key renewed).run node).map (Except.map fun _ => true) id := by
    unfold Conditions.turn
    rw [republishKey_run conditions.put found]
    rfl
  rw [puts, putRecord_run]
  cases conditions.answer (node.puts ++ [recordPut key renewed]) with
  | error reason => rfl
  | ok _ =>
    cases conditions.answer (node.puts ++ [recordPut key renewed, keyPut key]) <;> rfl

/-- One key either has no record, or its record is put back, or it fails. -/
theorem turn_cases (conditions : Conditions)
    (last? : PeerId → Except NameError (Option NameRecord)) (key : Keypair) (node : Node) :
    (last? key.peerId = .ok none ∧ conditions.turn last? key node = (.ok false, node))
      ∨ (∃ record renewed, IsRenewal last? (conditions.endOfLife node.puts) key record renewed
        ∧ conditions.answer (node.puts ++ [recordPut key renewed]) = .ok ()
        ∧ conditions.answer (node.puts ++ [recordPut key renewed, keyPut key]) = .ok ()
        ∧ conditions.turn last? key node
          = (.ok true, node.afterPuts [recordPut key renewed, keyPut key]))
      ∨ ∃ tried error, Fails conditions last? node.puts (.ok key) tried error
        ∧ conditions.turn last? key node = (.error error, node.afterPuts tried) := by
  cases last : last? key.peerId with
  | error error =>
    have failed : refresh last? (conditions.endOfLife node.puts) key = .error error := by
      simp [refresh, last]
    exact .inr (.inr ⟨[], error, .unread last, turn_unsigned failed⟩)
  | ok stored? =>
    cases stored? with
    | none =>
      have absent : refresh last? (conditions.endOfLife node.puts) key = .ok none := by
        simp [refresh, last]
      exact .inl ⟨rfl, turn_unpublished absent⟩
    | some record =>
      right
      cases signed : NameRecord.create key record.value record.sequence
          (conditions.endOfLife node.puts) with
      | error fault =>
        have failed : refresh last? (conditions.endOfLife node.puts) key
            = .error (.record fault) := by
          simp [refresh, last, NameRecord.refreshed, signed]
        exact .inr ⟨[], _, .unsigned last signed, turn_unsigned failed⟩
      | ok renewed =>
        have renewal := isRenewal_of_create last signed
        have outcome := turn_signed renewal
        cases first : conditions.answer (node.puts ++ [recordPut key renewed]) with
        | error reason =>
          rw [first] at outcome
          exact .inr ⟨_, _, .recordRefused renewal first, outcome⟩
        | ok _ =>
          cases second : conditions.answer (node.puts ++ [recordPut key renewed, keyPut key]) with
          | error reason =>
            rw [first, second] at outcome
            exact .inr ⟨_, _, .keyRefused renewal first second, outcome⟩
          | ok _ =>
            rw [first, second] at outcome
            exact .inl ⟨record, renewed, renewal, first, second, outcome⟩

theorem run_key {later : List (Except NameError Keypair)} {count : Nat} :
    conditions.run last? (.ok key :: later) count node =
      match conditions.turn last? key node with
      | (.error error, after) => (.error error, after)
      | (.ok put?, after) =>
        conditions.run last? later (if put? then count + 1 else count) after := by
  have steps : conditions.run last? (.ok key :: later) count node =
      (do
        let put? ← republishKey conditions.put last? (conditions.endOfLife node.puts) key
        walk conditions.put last? conditions.endOfLifeNow later
          (if put? then count + 1 else count) : ExceptT NameError (StateM Node) Nat).run.run node :=
    rfl
  rw [steps, ExceptT.run_bind, StateT.run_bind]
  change (conditions.turn last? key node >>= _ : Id _) = _
  rcases conditions.turn last? key node with ⟨_ | _, after⟩ <;> rfl

/-- An item is renewed, and the run goes on from there, or it fails, and the run is over. -/
theorem run_step (conditions : Conditions)
    (last? : PeerId → Except NameError (Option NameRecord)) (item : Except NameError Keypair)
    (later : List (Except NameError Keypair)) (count : Nat) (node : Node) :
    let run := conditions.run last? (item :: later) count node
    (∃ key puts one, item = .ok key
        ∧ (∀ {keys others more}, Renews conditions last? (node.puts ++ puts) keys others more →
          Renews conditions last? node.puts (key :: keys) (puts ++ others) (one + more))
        ∧ run = conditions.run last? later (count + one) (node.afterPuts puts))
      ∨ ∃ tried error, Fails conditions last? node.puts item tried error
        ∧ run = (.error error, node.afterPuts tried) := by
  intro run
  cases item with
  | error error => exact .inr ⟨[], error, .missing, by rw [Node.afterPuts_nil]; rfl⟩
  | ok key =>
    have step : run = _ := run_key
    rcases turn_cases conditions last? key node with ⟨unpublished, skipped⟩
      | ⟨record, renewed, renewal, first, second, done⟩ | ⟨tried, error, fails, failed⟩
    · rw [skipped] at step
      refine .inl ⟨key, [], 0, rfl, ?_, by rwa [Node.afterPuts_nil]⟩
      intro keys others more rest
      rw [List.append_nil] at rest
      rw [Nat.zero_add]
      exact .unpublished unpublished rest
    · rw [done] at step
      refine .inl ⟨key, _, 1, rfl, ?_, step⟩
      intro keys others more rest
      rw [Nat.add_comm]
      exact .published renewal first second rest
    · rw [failed] at step
      exact .inr ⟨tried, error, fails, step⟩

/-- A run does all of what is to be done, or what is before the first failure. -/
theorem run_prefix (conditions : Conditions)
    (last? : PeerId → Except NameError (Option NameRecord))
    (items : List (Except NameError Keypair)) (count : Nat) (node : Node) :
    ∃ keys rest puts more, items = keys.map .ok ++ rest
      ∧ Renews conditions last? node.puts keys puts more
      ∧ ((rest = [] ∧ conditions.run last? items count node
          = (.ok (count + more), node.afterPuts puts))
        ∨ ∃ item later tried error, rest = item :: later
          ∧ Fails conditions last? (node.puts ++ puts) item tried error
          ∧ conditions.run last? items count node
            = (.error error, node.afterPuts (puts ++ tried))) := by
  induction items generalizing count node with
  | nil =>
    refine ⟨[], [], [], 0, rfl, .finished, .inl ⟨rfl, ?_⟩⟩
    rw [Node.afterPuts_nil]
    rfl
  | cons item items ih =>
    rcases run_step conditions last? item items count node
      with ⟨key, first, one, rfl, extend, step⟩ | ⟨tried, error, fails, step⟩
    · obtain ⟨keys, rest, puts, more, rfl, renews, ending⟩ :=
        ih (count + one) (node.afterPuts first)
      rw [step]
      simp only [Node.puts_afterPuts, Node.afterPuts_afterPuts, List.append_assoc, Nat.add_assoc]
        at renews ending ⊢
      refine ⟨key :: keys, rest, first ++ puts, one + more, rfl, extend renews, ?_⟩
      simpa only [List.append_assoc] using ending
    · refine ⟨[], _, [], 0, rfl, .finished, .inr ⟨item, items, tried, error, rfl, ?_, step⟩⟩
      rwa [List.append_nil]

/-- What an item that fails makes of the run before it. -/
def cutBy (error : NameError) : Except NameError Nat × Node → Except NameError Nat × Node
  | (.ok _, last) => (.error error, last)
  | (.error earlier, last) => (.error earlier, last)

omit [SignatureScheme] in
theorem cutBy_ne_ok (error : NameError) (outcome : Except NameError Nat × Node) (count : Nat) :
    (cutBy error outcome).1 ≠ .ok count := by
  rcases outcome with ⟨_ | _, last⟩ <;> nofun

/-- What comes behind an item that fails is never reached. -/
theorem run_cut (conditions : Conditions) (last? : PeerId → Except NameError (Option NameRecord))
    (front back : List (Except NameError Keypair)) (error : NameError) (count : Nat) (node : Node) :
    conditions.run last? (front ++ .error error :: back) count node
      = cutBy error (conditions.run last? front count node) := by
  induction front generalizing count node with
  | nil => rfl
  | cons item front ih =>
    cases item with
    | error _ => rfl
    | ok key =>
      rw [List.cons_append, run_key, run_key]
      rcases conditions.turn last? key node with ⟨_ | put?, after⟩
      · rfl
      · exact ih _ after

/-- A cycle ends at a name that the keystore lists and gives no key for, unless it has failed
before. -/
theorem cycle_cut (conditions : Conditions) (identity : Keypair) {keyring : Keyring}
    {front back : List String} {name : String} {fault : KeystoreError}
    (given : node.keyring? = some keyring) (listed : keyring.names = .ok (front ++ name :: back))
    (failed : keyring.key name = .error fault) :
    conditions.cycle identity node
      = cutBy (.keystore fault) (conditions.run node.last?
        (.ok identity :: front.map fun other => (keyring.key other).mapError .keystore) 0 node) := by
  have items : agenda identity node.keyring?
      = (.ok identity :: front.map fun other => (keyring.key other).mapError .keystore)
        ++ .error (.keystore fault)
          :: back.map fun other => (keyring.key other).mapError .keystore := by
    simp [agenda, given, listed, failed]
  rw [← run_cut, ← items, Conditions.run, ← republish_eq_walk]
  rfl

end Steps

/-- Whatever is stored, whatever the keystore gives and whatever fails: of its identity and the keys
of its keystore, in order, a cycle goes through those before the first failure. For each that has a
record, the record is put under the routing key of the key's peer id, with its value, its sequence
number and the end of life of that moment, and then the public key; for the others nothing is put.
Where something fails, only what comes before the failure is put for that item, nothing is put for
the later ones, and the failure is the answer. Where nothing fails the answer is the number of keys
that have a record. The store and the keystore stay as they are. -/
theorem cycle_prefix (conditions : Conditions) (identity : Keypair) (node : Node) :
    (∃ keys rest puts count, agenda identity node.keyring? = keys.map .ok ++ rest
        ∧ Renews conditions node.last? node.puts keys puts count
        ∧ ((rest = [] ∧ conditions.cycle identity node
            = (.ok count, { node with puts := node.puts ++ puts }))
          ∨ ∃ item later tried error, rest = item :: later
            ∧ Fails conditions node.last? (node.puts ++ puts) item tried error
            ∧ conditions.cycle identity node
              = (.error error, { node with puts := node.puts ++ (puts ++ tried) })))
      ∧ ∀ keyring names, node.keyring? = some keyring → keyring.names = .ok names →
        names.Pairwise (· ≤ ·) := by
  constructor
  · obtain ⟨keys, rest, puts, count, all, renews, ending⟩ :=
      run_prefix conditions node.last? (agenda identity node.keyring?) 0 node
    unfold Conditions.run at ending
    rw [Nat.zero_add, ← republish_eq_walk] at ending
    exact ⟨keys, rest, puts, count, all, renews, ending⟩
  · intro keyring names _ listed
    exact keyring.ascending names listed

end Cycle

open NameRecord.Sample Resolvable.Sample

namespace Sample

/-- A directory with a file that holds no key. -/
def stray : KeyDirectory :=
  (KeyDirectory.ofLocation "keys").place "stray" (.file [])

def unusable : NameError :=
  .keystore (.corrupt "keys/stray" .rsaDisabled)

theorem stray_names : stray.keyring.names = .ok ["stray"] := by
  have list : stray.list = ["stray"] := by decide +kernel
  exact congrArg Except.ok list

theorem stray_agenda : agenda key (some stray.keyring) = [.ok key, .error unusable] := by
  have failed : stray.keyring.key "stray" = .error (.corrupt "keys/stray" .rsaDisabled) := rfl
  simp [agenda, stray_names, failed, unusable]

def node (store : Datastore) : Node where
  store
  faults := .none
  keyring? := some stray.keyring
  puts := []

/-- Records live for a day, and whatever is put is accepted. -/
def calm : Conditions where
  clock _ := clock
  answer _ := .ok ()
  seconds := 86400
  nanos := 0

end Sample

open Sample in
/-- The record of the identity is put back with its public key. Then comes a file that holds no key,
and the cycle is over. -/
theorem cycle_prefix_stray : ∃ store record renewed,
    RecordStore.issue .none .empty key target longer = (store, .ok record)
      ∧ IsRenewal (RecordStore.last? .none store) endOfLife key record renewed
      ∧ calm.cycle key (node store)
        = (.error unusable, { node store with puts := [recordPut key renewed, keyPut key] })
      ∧ ["stray"].Pairwise (· ≤ ·) := by
  obtain ⟨store, record, created, issued, kept⟩ := published
  have held : (Bytes.ofString target.text).Addressable := by decide
  have signs : key.Signs := key_signs
  have read := NameRecord.ofBytes_toBytes_of_create held created (signs.addressable created)
    longer_year_nonneg
  have stored : RecordStore.last? .none store key.peerId = .ok (some record) := by
    rw [RecordStore.last?_of_kept kept, read]
    rfl
  obtain ⟨content, number, -, -⟩ := NameRecord.fields_of_create created
  obtain ⟨signature, signed, -⟩ := key_signs payload
  have again : NameRecord.create key record.value record.sequence endOfLife
      = .ok (Resolvable.Sample.record signature) := by
    rw [content, number]
    exact Resolvable.Sample.created signed
  obtain ⟨⟨keys, rest, puts, count, all, renews, ending⟩, sorted⟩ :=
    cycle_prefix calm key (node store)
  refine ⟨store, record, _, issued, isRenewal_of_create stored again, ?_,
    sorted _ _ rfl stray_names⟩
  change agenda key (some stray.keyring) = _ at all
  rw [stray_agenda] at all
  have day : calm.endOfLife (node store).puts = endOfLife := afterDay
  cases keys with
  | nil =>
    obtain ⟨rfl, -⟩ | ⟨item, later, tried, error, rfl, fails, -⟩ := ending
    · cases all
    · obtain ⟨rfl, rfl⟩ := List.cons.inj all.symm
      cases renews
      cases fails with
      | unread failed => cases stored.symm.trans failed
      | unsigned other failed =>
        cases stored.symm.trans other
        rw [List.append_nil, day] at failed
        cases again.symm.trans failed
      | recordRefused _ refused => cases refused
      | keyRefused _ _ refused => cases refused
  | cons first others =>
    obtain ⟨same, left⟩ := List.cons.inj all
    cases same
    cases others with
    | cons second others => cases (List.cons.inj left).1
    | nil =>
      cases left
      cases renews with
      | unpublished none => cases stored.symm.trans none
      | published renewal _ _ rest =>
        cases rest
        cases stored.symm.trans renewal.stored
        have signed := renewal.signed
        rw [day] at signed
        cases again.symm.trans signed
        obtain ⟨isOk, -⟩ | ⟨item, later, tried, error, same, fails, run⟩ := ending
        · cases isOk
        · cases same
          cases fails
          exact run

end GossipNames.Republishing
