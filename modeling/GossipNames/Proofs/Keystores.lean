import GossipNames.Proofs.KeyDirectory
import GossipNames.Proofs.Keypair
import GossipNames.Proofs.Resolvable
import GossipNames.Keystore.Memory

/-! Keys are kept in memory as they are in a directory: whatever is asked of both in the same order,
they answer the same. -/

namespace GossipNames

/-- What a keystore can be asked; one of files can also be opened again. -/
inductive KeystoreCall where
  | list
  | get (name : String)
  | put (name : String) (key : Keypair)
  | reopen

inductive KeystoreAnswer where
  | names (names : List String)
  | key (found : Except KeystoreError Keypair)
  | done (outcome : Except KeystoreError Unit)

/-- The answers are the same, but the absence of a key is told in the words of each keystore. -/
inductive KeystoreAnswer.Agrees : KeystoreAnswer → KeystoreAnswer → Prop
  | same {answer : KeystoreAnswer} : Agrees answer answer
  | absent {name file : String} :
      Agrees (.key (.error (.missing name))) (.key (.error (.unreadable file .missing)))

/-- Where no key is missing the answers are the same. -/
theorem KeystoreAnswer.eq_of_agrees {first second : List KeystoreAnswer}
    (agree : List.Forall₂ Agrees first second)
    (present : ∀ name, .key (.error (.missing name)) ∉ first) : second = first := by
  induction agree with
  | nil => rfl
  | @cons answer _ answers _ agrees _ ih =>
    have later := ih fun name missing => present name (List.mem_cons_of_mem answer missing)
    cases agrees with
    | same => rw [later]
    | absent => exact absurd List.mem_cons_self (present _)

/-- What is left, and all answers in order. -/
def runCalls {σ : Type} (act : σ → KeystoreCall → σ × KeystoreAnswer) (store : σ) :
    List KeystoreCall → σ × List KeystoreAnswer
  | [] => (store, [])
  | call :: calls =>
    let (store, answer) := act store call
    let (store, answers) := runCalls act store calls
    (store, answer :: answers)

def MemoryKeystore.call (store : MemoryKeystore) : KeystoreCall → MemoryKeystore × KeystoreAnswer
  | .list => (store, .names store.list)
  | .get name => (store, .key (store.get name))
  | .put name key =>
    match store.put name key with
    | .ok later => (later, .done (.ok ()))
    | .error error => (store, .done (.error error))
  | .reopen => (store, .done (.ok ()))

section

variable [SignatureScheme]

/-- Nothing is kept but the files: what is opened again holds what it held. -/
def KeyDirectory.call (store : KeyDirectory) : KeystoreCall → KeyDirectory × KeystoreAnswer
  | .list => (store, .names store.list)
  | .get name => (store, .key (store.get name))
  | .put name key =>
    let (later, outcome) := store.put name key
    (later, .done outcome)
  | .reopen => (store, .done (.ok ()))

/-- A file can have the name, and what is put is a key. -/
def KeystoreCall.IsProper : KeystoreCall → Prop
  | .list | .reopen => True
  | .get name => KeyDirectory.nameFault? name = none
  | .put name key => KeyDirectory.nameFault? name = none ∧ key.IsWhole

end

namespace MemoryKeystore

variable {store : MemoryKeystore} {name other : String} {key : Keypair}

theorem lookup_insert {keys : List (String × Keypair)} (free : ∀ entry ∈ keys, entry.1 ≠ name) :
    (insert name key keys).lookup other = if other = name then some key else keys.lookup other := by
  induction keys with
  | nil => exact lookup_cons (name, key) [] other
  | cons first rest ih =>
    obtain ⟨unlike, others⟩ := List.forall_mem_cons.mp free
    unfold insert
    split
    · rw [lookup_cons]
    · rw [lookup_cons, lookup_cons, ih others]
      by_cases same : other = name
      · rw [if_neg (same ▸ Ne.symm unlike), if_pos same, if_pos same]
      · rw [if_neg same, if_neg same]

theorem mem_list_iff : name ∈ store.list ↔ ∃ key, store.keys.lookup name = some key := by
  constructor
  · intro member
    obtain ⟨entry, present, rfl⟩ := List.mem_map.mp member
    refine Option.ne_none_iff_exists'.mp fun absent => ?_
    simpa using List.lookup_eq_none_iff.mp absent entry present
  · rintro ⟨key, found⟩
    obtain ⟨before, after, split, -⟩ := List.lookup_eq_some_iff.mp found
    exact List.mem_map.mpr ⟨(name, key), by simp [split], rfl⟩

theorem get_ok_iff :
    store.get name = .ok key
      ↔ validateKeyName name = .ok () ∧ store.keys.lookup name = some key := by
  unfold get
  cases validateKeyName name <;> cases store.keys.lookup name <;>
    simp

theorem get_refused {error : KeystoreError} (invalid : validateKeyName name = .error error) :
    store.get name = .error error := by
  simp [get, invalid]

theorem get_missing (valid : validateKeyName name = .ok ())
    (absent : store.keys.lookup name = none) : store.get name = .error (.missing name) := by
  simp [get, valid, absent]

theorem put_refused {error : KeystoreError} (invalid : validateKeyName name = .error error) :
    store.put name key = .error error := by
  simp [put, invalid]

theorem put_taken (valid : validateKeyName name = .ok ())
    (taken : (store.keys.lookup name).isSome) : store.put name key = .error (.taken name) := by
  simp [put, valid, taken]

theorem put_free (valid : validateKeyName name = .ok ()) (free : store.keys.lookup name = none)
    (key : Keypair) : ∃ later, store.put name key = .ok later ∧ ∀ other, later.keys.lookup other
      = if other = name then some key else store.keys.lookup other := by
  have untaken : ¬ (store.keys.lookup name).isSome = true := by simp [free]
  refine ⟨{ keys := insert name key store.keys, ascending := ?_ }, ?_,
    fun other => lookup_insert (free_of_lookup untaken)⟩
  · exact ascending_insert store.ascending (free_of_lookup untaken)
  · simp [put, valid, free]

end MemoryKeystore

section Mirrors

variable [SignatureScheme]

/-- The files are those of the keys in memory. -/
structure Mirrors (memory : MemoryKeystore) (directory : KeyDirectory) : Prop where
  files : ∀ name, directory.entries.lookup name
    = (memory.keys.lookup name).map fun key => .file key.encode
  distinct : directory.IsDistinct
  kept : ∀ name key, memory.keys.lookup name = some key →
    validateKeyName name = .ok () ∧ KeyDirectory.nameFault? name = none ∧ key.IsWhole

variable {memory : MemoryKeystore} {directory : KeyDirectory}

theorem Mirrors.empty (location : String) : Mirrors .empty (.ofLocation location) where
  files _ := rfl
  distinct := List.nodup_nil
  kept := nofun

theorem Mirrors.list_eq (mirrors : Mirrors memory directory) : memory.list = directory.list := by
  refine eq_of_ascending memory.ascending mirrors.distinct.pairwise_list fun name => ?_
  simp only [MemoryKeystore.mem_list_iff, KeyDirectory.mem_list_iff, mirrors.distinct.mem_iff,
    mirrors.files]
  constructor
  · rintro ⟨key, found⟩
    exact ⟨(mirrors.kept name key found).1, key.encode, by rw [found]; rfl⟩
  · rintro ⟨-, content, found⟩
    obtain ⟨key, kept, -⟩ := Option.map_eq_some_iff.mp found
    exact ⟨key, kept⟩

theorem Mirrors.get (mirrors : Mirrors memory directory) (sized : SignatureScheme.Sized)
    {name : String} (fits : KeyDirectory.nameFault? name = none) :
    KeystoreAnswer.Agrees (.key (memory.get name)) (.key (directory.get name)) := by
  cases valid : validateKeyName name with
  | error error =>
    rw [MemoryKeystore.get_refused valid, KeyDirectory.get_refused valid]
    exact .same
  | ok _ =>
    have file := mirrors.files name
    cases found : memory.keys.lookup name with
    | none =>
      rw [found] at file
      rw [MemoryKeystore.get_missing valid found, KeyDirectory.get_missing valid fits file]
      exact .absent
    | some key =>
      rw [found] at file
      rw [MemoryKeystore.get_ok_iff.mpr ⟨valid, found⟩, KeyDirectory.get_file valid fits file,
        Keypair.decode_encode (mirrors.kept name key found).2.2 sized]
      exact .same

/-- A key that is put into both is in both, or both refuse it and stay as they are. -/
theorem Mirrors.put (mirrors : Mirrors memory directory) {name : String} {key : Keypair}
    (fits : KeyDirectory.nameFault? name = none) (whole : key.IsWhole) :
    (∃ error, memory.put name key = .error error
        ∧ directory.put name key = (directory, .error error))
      ∨ ∃ later, memory.put name key = .ok later
        ∧ (directory.put name key).2 = .ok () ∧ Mirrors later (directory.put name key).1 := by
  have file := mirrors.files name
  cases valid : validateKeyName name with
  | error error =>
    exact .inl ⟨error, MemoryKeystore.put_refused valid, KeyDirectory.putWith_invalid valid none key⟩
  | ok _ =>
    cases found : memory.keys.lookup name with
    | some _ =>
      rw [found] at file
      exact .inl ⟨.taken name, MemoryKeystore.put_taken valid (by simp [found]),
        KeyDirectory.put_taken valid fits file key⟩
    | none =>
      rw [found] at file
      obtain ⟨later, done, keys⟩ := MemoryKeystore.put_free valid found key
      rw [KeyDirectory.put_free ⟨valid, fits, file⟩]
      refine .inr ⟨later, done, rfl, ?_, mirrors.distinct.place _ _, ?_⟩
      · intro other
        rw [KeyDirectory.lookup_place, keys, mirrors.files]
        split <;> rfl
      · intro other kept present
        rw [keys] at present
        split at present
        · rename_i same
          cases present
          exact same ▸ ⟨valid, fits, whole⟩
        · exact mirrors.kept other kept present

theorem Mirrors.call (mirrors : Mirrors memory directory) (sized : SignatureScheme.Sized)
    {call : KeystoreCall} (proper : call.IsProper) :
    Mirrors (memory.call call).1 (directory.call call).1
      ∧ KeystoreAnswer.Agrees (memory.call call).2 (directory.call call).2 := by
  cases call with
  | list =>
    refine ⟨mirrors, ?_⟩
    rw [MemoryKeystore.call, KeyDirectory.call, mirrors.list_eq]
    exact .same
  | get name => exact ⟨mirrors, mirrors.get sized proper⟩
  | reopen => exact ⟨mirrors, .same⟩
  | put name key =>
    simp only [MemoryKeystore.call, KeyDirectory.call]
    rcases mirrors.put proper.1 proper.2 with ⟨error, refused, unchanged⟩ | ⟨later, done, put, next⟩
    · rw [refused, unchanged]
      exact ⟨mirrors, .same⟩
    · rw [done, put]
      exact ⟨next, .same⟩

/-- Whatever is asked in whatever order, the directory mirrors the memory and the answers agree. -/
theorem Mirrors.run (mirrors : Mirrors memory directory) (sized : SignatureScheme.Sized)
    {calls : List KeystoreCall} (proper : ∀ call ∈ calls, call.IsProper) :
    Mirrors (runCalls MemoryKeystore.call memory calls).1
        (runCalls KeyDirectory.call directory calls).1
      ∧ List.Forall₂ KeystoreAnswer.Agrees (runCalls MemoryKeystore.call memory calls).2
        (runCalls KeyDirectory.call directory calls).2 := by
  -- What carries over from one call to the next is that the files are those of the keys.
  induction calls generalizing memory directory with
  | nil => exact ⟨mirrors, .nil⟩
  | cons call calls ih =>
    obtain ⟨first, others⟩ := List.forall_mem_cons.mp proper
    obtain ⟨next, agrees⟩ := mirrors.call sized first
    obtain ⟨last, rest⟩ := ih next others
    exact ⟨last, .cons agrees rest⟩

theorem Mirrors.get_ok_iff (mirrors : Mirrors memory directory) (sized : SignatureScheme.Sized)
    {name : String} {key : Keypair} :
    memory.get name = .ok key ↔ directory.get name = .ok key := by
  constructor
  · intro given
    have found := (MemoryKeystore.get_ok_iff.mp given).2
    have agrees := mirrors.get sized (mirrors.kept name key found).2.1
    rw [given] at agrees
    cases second : directory.get name <;> rw [second] at agrees <;> cases agrees
    rfl
  · intro given
    have agrees := mirrors.get sized (KeyDirectory.get_ok given).1
    rw [given] at agrees
    cases first : memory.get name <;> rw [first] at agrees <;> cases agrees
    rfl

end Mirrors

namespace MemoryKeystore

variable {store later : MemoryKeystore} {name other : String} {key kept : Keypair}

theorem lookup_put (done : store.put name key = .ok later)
    (found : store.keys.lookup other = some kept) : later.keys.lookup other = some kept := by
  cases valid : validateKeyName name with
  | error error => cases (put_refused valid).symm.trans done
  | ok _ =>
    cases taken : store.keys.lookup name with
    | some _ => cases (put_taken valid (by simp [taken])).symm.trans done
    | none =>
      obtain ⟨_, put, keys⟩ := put_free valid taken key
      cases put.symm.trans done
      have unlike : other ≠ name := by
        rintro rfl
        cases taken.symm.trans found
      rw [keys, if_neg unlike, found]

theorem lookup_call (found : store.keys.lookup other = some kept) (call : KeystoreCall) :
    (store.call call).1.keys.lookup other = some kept := by
  cases call with
  | list | get | reopen => exact found
  | put name key =>
    cases put : store.put name key with
    | error error => simp only [MemoryKeystore.call, put, found]
    | ok later => simp only [MemoryKeystore.call, put, lookup_put put found]

/-- A key stays under its name, whatever is asked later. -/
theorem get_run (given : store.get name = .ok key) (calls : List KeystoreCall) :
    (runCalls call store calls).1.get name = .ok key := by
  obtain ⟨valid, found⟩ := get_ok_iff.mp given
  refine get_ok_iff.mpr ⟨valid, ?_⟩
  clear given
  induction calls generalizing store with
  | nil => exact found
  | cons call calls ih => exact ih (lookup_call found call)

end MemoryKeystore

namespace KeyDirectory

variable [SignatureScheme] {store : KeyDirectory} {name : String} {entry : DirectoryEntry}

theorem location_run (store : KeyDirectory) (calls : List KeystoreCall) :
    (runCalls call store calls).1.location = store.location := by
  induction calls generalizing store with
  | nil => rfl
  | cons call calls ih =>
    refine (ih _).trans ?_
    cases call with
    | list | get | reopen => rfl
    | put other key => exact location_putWith none key

/-- A file stays as it is, whatever is asked later. -/
theorem lookup_run (found : store.entries.lookup name = some entry) (calls : List KeystoreCall) :
    (runCalls call store calls).1.entries.lookup name = some entry := by
  induction calls generalizing store with
  | nil => exact found
  | cons call calls ih =>
    refine ih ?_
    cases call with
    | list | get | reopen => exact found
    | put other key => exact lookup_putWith none key found

theorem get_run (found : store.entries.lookup name = some entry) (calls : List KeystoreCall) :
    (runCalls call store calls).1.get name = store.get name :=
  get_congr (location_run store calls) ((lookup_run found calls).trans found.symm)

/-- For a name no file is touched: it is refused whatever the directory holds. -/
def Refuses (location name : String) : Prop :=
  ∃ error, ∀ entries, (KeyDirectory.mk location entries).get name = .error error
    ∧ ∀ fault? key, (KeyDirectory.mk location entries).putWith fault? name key
      = (.mk location entries, .error error)

/-- For a name no other file is touched: what is read depends on none of the others, and a put
leaves them as they are. -/
structure Touches (location name file : String) : Prop where
  child : IsDirectChild location file name
  reads : ∀ first second : List (String × DirectoryEntry), first.lookup name = second.lookup name →
    (KeyDirectory.mk location first).get name = (KeyDirectory.mk location second).get name
  writes : ∀ entries fault? key other, other ≠ name →
    ((KeyDirectory.mk location entries).putWith fault? name key).1.entries.lookup other
      = entries.lookup other

theorem refuses_or_touches (store : KeyDirectory) (name : String) :
    Refuses store.location name ∨ Touches store.location name (store.path name) := by
  cases valid : validateKeyName name with
  | error error =>
    exact .inl ⟨error, fun entries => ⟨get_refused valid, putWith_invalid valid⟩⟩
  | ok _ =>
    refine .inr ⟨store.isDirectChild_path valid, ?_, ?_⟩
    · intro first second file
      exact get_congr rfl file
    · intro entries fault? key other unlike
      exact lookup_putWith_of_ne fault? key unlike

end KeyDirectory

section Interchangeable

variable [SignatureScheme]

/-- Of two keystores that are empty at first, one in memory and one of files, each step succeeds with
the one as it does with the other, whatever is asked in whatever order, and both list the same names,
each once and in order. What is left gives the same keys under the same names. A put that fails
changes neither of them. A key that is there stays there, whatever is asked later. And whatever a
name is, the one of files touches no file for it, or only one that stands directly in its
directory. -/
theorem keystores_interchangeable (sized : SignatureScheme.Sized) (location : String)
    (calls : List KeystoreCall) (proper : ∀ call ∈ calls, call.IsProper) :
    let memory := runCalls MemoryKeystore.call .empty calls
    let directory := runCalls KeyDirectory.call (.ofLocation location) calls
    List.Forall₂ KeystoreAnswer.Agrees memory.2 directory.2
      ∧ (memory.1.list = directory.1.list ∧ memory.1.list.Pairwise (· < ·))
      ∧ (∀ name key, memory.1.get name = .ok key ↔ directory.1.get name = .ok key)
      ∧ (∀ name key error,
        ((memory.1.call (.put name key)).2 = .done (.error error) →
            (memory.1.call (.put name key)).1 = memory.1)
          ∧ ((directory.1.call (.put name key)).2 = .done (.error error) →
            (directory.1.call (.put name key)).1 = directory.1))
      ∧ (∀ name key, memory.1.get name = .ok key → ∀ later,
        (runCalls MemoryKeystore.call memory.1 later).1.get name = .ok key
          ∧ (runCalls KeyDirectory.call directory.1 later).1.get name = .ok key)
      ∧ ∀ name, KeyDirectory.Refuses location name
        ∨ KeyDirectory.Touches location name (directory.1.path name) := by
  intro memory directory
  obtain ⟨mirrors, agree⟩ := (Mirrors.empty location).run sized proper
  have same : directory.1.location = location := KeyDirectory.location_run _ calls
  refine ⟨agree, ⟨mirrors.list_eq, memory.1.ascending⟩, fun name key => mirrors.get_ok_iff sized,
    fun name key error => ⟨?_, ?_⟩, ?_, ?_⟩
  · intro failed
    cases put : memory.1.put name key with
    | error reason => simp only [MemoryKeystore.call, put]
    | ok later => simp [MemoryKeystore.call, put] at failed
  · intro failed
    exact KeyDirectory.put_error (KeystoreAnswer.done.inj failed)
  · intro name key given later
    have kept := (mirrors.get_ok_iff sized).mp given
    obtain ⟨-, content, found⟩ := KeyDirectory.get_ok kept
    refine ⟨MemoryKeystore.get_run given later, ?_⟩
    rw [KeyDirectory.get_run found, kept]
  · intro name
    rw [← same]
    exact directory.1.refuses_or_touches name

end Interchangeable

namespace Keystores.Sample

open NameRecord.Sample

def other : Keypair where
  kind := .secp256k1
  secret := List.replicate 32 1

def calls : List KeystoreCall :=
  [.put "site" key, .put "blog" other, .put "site" other, .put "../blog" other, .reopen, .list,
    .get "site"]

def answers : List KeystoreAnswer :=
  [.done (.ok ()), .done (.ok ()), .done (.error (.taken "site")),
    .done (.error (.slashInName "../blog")), .done (.ok ()), .names ["blog", "site"],
    .key (.ok key)]

theorem key_whole : key.IsWhole where
  accepted := rfl
  paired _ := by
    refine ⟨?_, Option.isSome_of_eq_some Resolvable.Sample.sound.kept⟩
    rw [Resolvable.Sample.publicHalf]
    rfl

theorem other_whole : other.IsWhole where
  accepted := by decide +kernel
  paired := nofun

theorem calls_proper : ∀ call ∈ calls, call.IsProper := by
  simp only [calls, List.forall_mem_cons]
  exact ⟨⟨rfl, key_whole⟩, ⟨rfl, other_whole⟩, ⟨rfl, other_whole⟩, ⟨rfl, other_whole⟩, trivial,
    trivial, rfl, nofun⟩

theorem answered : (runCalls MemoryKeystore.call .empty calls).2 = answers := by
  rfl

end Keystores.Sample

open Keystores.Sample NameRecord.Sample in
/-- Two keys are put, another one under a name that is taken and one under the name of a file outside
of the directory. -/
theorem keystores_interchangeable_site :
    (∀ call ∈ calls, call.IsProper)
      ∧ (runCalls KeyDirectory.call (.ofLocation "keys") calls).2 = answers
      ∧ (∀ later, (runCalls KeyDirectory.call
        (runCalls KeyDirectory.call (.ofLocation "keys") calls).1 later).1.get "site" = .ok key) := by
  obtain ⟨agree, -, -, -, kept, -⟩ :=
    keystores_interchangeable SignatureScheme.standard_sized "keys" calls calls_proper
  refine ⟨calls_proper, ?_, fun later => (kept "site" key rfl later).2⟩
  exact KeystoreAnswer.eq_of_agrees (answered ▸ agree) (by simp [answers])

end GossipNames
