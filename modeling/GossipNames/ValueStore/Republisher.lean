import GossipNames.Config
import GossipNames.Keystore.Directory
import GossipNames.Keystore.Memory
import GossipNames.ValueStore.Publication

/-! Values do not stay in the shared value store for ever: the records of all identities of a node
are signed again with a later end of life and put back, cycle after cycle. -/

namespace GossipNames

/-- What a cycle needs to know of a keystore. -/
structure Keyring where
  names : Except KeystoreError (List String)
  key : String → Except KeystoreError Keypair
  ascending : ∀ list, names = .ok list → list.Pairwise (· ≤ ·)

variable [SignatureScheme]

def MemoryKeystore.keyring (store : MemoryKeystore) : Keyring where
  names := .ok store.list
  key := store.get
  ascending := by
    rintro _ ⟨⟩
    exact store.ascending.imp Std.le_of_lt

def KeyDirectory.keyring (store : KeyDirectory) : Keyring where
  names := .ok store.list
  key := store.get
  ascending := by
    rintro _ ⟨⟩
    exact pairwise_le_mergeSort _

/-- The record to put back for a key: the last one issued, under the same sequence number and with
a new end of life. There is none for a key that was never published under. -/
def refresh (last? : PeerId → Except NameError (Option NameRecord)) (endOfLife : Timestamp)
    (key : Keypair) : Except NameError (Option NameRecord) := do
  match ← last? key.peerId with
  | none => return none
  | some record => some <$> (record.refreshed key endOfLife).mapError .record

variable {m : Type → Type} [Monad m]

/-- Puts the record of one key back and tells whether there was one. -/
def republishKey (put : Bytes → Bytes → m (Except String Unit))
    (last? : PeerId → Except NameError (Option NameRecord)) (endOfLife : Timestamp)
    (key : Keypair) : ExceptT NameError m Bool := do
  match ← ExceptT.mk (pure (refresh last? endOfLife key)) with
  | none => return false
  | some record =>
    ExceptT.mk (putRecord put key record)
    return true

def republishNames (put : Bytes → Bytes → m (Except String Unit))
    (last? : PeerId → Except NameError (Option NameRecord)) (endOfLife : m Timestamp)
    (keyring : Keyring) : (names : List String) → (count : Nat) → ExceptT NameError m Nat
  | [], count => return count
  | name :: rest, count => do
    let key ← ExceptT.mk (pure ((keyring.key name).mapError .keystore))
    let put? ← republishKey put last? (← endOfLife) key
    republishNames put last? endOfLife keyring rest (if put? then count + 1 else count)

/-- One cycle: the node's own identity, then the keys of its keystore in order, up to the first
failure. What is put back lives from then on. Answers how many records were put back. -/
def republish (put : Bytes → Bytes → m (Except String Unit))
    (last? : PeerId → Except NameError (Option NameRecord)) (endOfLife : m Timestamp)
    (identity : Keypair) (keyring? : Option Keyring) : ExceptT NameError m Nat := do
  let put? ← republishKey put last? (← endOfLife) identity
  let count := if put? then 1 else 0
  match keyring? with
  | none => return count
  | some keyring =>
    let names ← ExceptT.mk (pure (keyring.names.mapError .keystore))
    republishNames put last? endOfLife keyring names count

end GossipNames
