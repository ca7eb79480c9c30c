import GossipNames.Keystore.Name
import GossipNames.Text.Order

/-! Signing keys kept as files of one directory, each named as its key. -/

namespace GossipNames

inductive DirectoryEntry where
  | file (content : Bytes)
  | directory
  deriving DecidableEq, Repr

/-- A step of writing a file that fails, with what was written before. -/
inductive WriteFault where
  | create (fault : FileFault)
  | write (count : Nat) (fault : FileFault)
  | sync (fault : FileFault)
  deriving DecidableEq, Repr

structure KeyDirectory where
  location : String
  entries : List (String × DirectoryEntry)
  deriving DecidableEq

namespace KeyDirectory

def ofLocation (location : String) : KeyDirectory where
  location
  entries := []

/-- Where the file of a name is. A name that starts with a slash would be a place of its own. -/
def path (store : KeyDirectory) (name : String) : String :=
  if name.toList.head? = some '/' then name
  else if store.location = "" ∨ store.location.toList.getLast? = some '/' then
    store.location ++ name
  else store.location ++ "/" ++ name

/-- Puts an entry in place of any other of its name. -/
def place (store : KeyDirectory) (name : String) (entry : DirectoryEntry) : KeyDirectory :=
  { store with entries := (name, entry) :: store.entries.filter (·.1 ≠ name) }

/-- Files whose names are names of keys, in order. -/
def list (store : KeyDirectory) : List String :=
  let names := store.entries.filterMap fun (name, entry) =>
    match entry, validateKeyName name with
    | .file _, .ok () => some name
    | _, _ => none
  names.mergeSort fun first second => decide (first ≤ second)

/-- What no file can be named. -/
def nameFault? (name : String) : Option FileFault :=
  if '\x00' ∈ name.toList then some .nulInName
  else if 255 < name.utf8ByteSize then some .nameTooLong
  else none

def read (store : KeyDirectory) (name : String) : Except FileFault Bytes :=
  match nameFault? name with
  | some fault => .error fault
  | none =>
    match store.entries.lookup name with
    | none => .error .missing
    | some .directory => .error .isDirectory
    | some (.file content) => .ok content

variable [SignatureScheme]

def get (store : KeyDirectory) (name : String) : Except KeystoreError Keypair := do
  validateKeyName name
  let content ← (store.read name).mapError (.unreadable (store.path name))
  (Keypair.decode content).mapError (.corrupt (store.path name))

/-- Creates a new file, writes the key into it and makes it durable. A fault leaves the directory
as the steps before it made it. -/
def putWith (fault? : Option WriteFault) (store : KeyDirectory) (name : String) (key : Keypair) :
    KeyDirectory × Except KeystoreError Unit :=
  match validateKeyName name with
  | .error error => (store, .error error)
  | .ok () =>
    match nameFault? name with
    | some fault => (store, .error (.unwritable fault))
    | none =>
      if (store.entries.lookup name).isSome then (store, .error (.taken name))
      else
        let content := key.encode
        match fault? with
        | none => (store.place name (.file content), .ok ())
        | some (.create fault) => (store, .error (.unwritable fault))
        | some (.write count fault) =>
          (store.place name (.file (content.take count)), .error (.unwritable fault))
        | some (.sync fault) => (store.place name (.file content), .error (.unwritable fault))

def put (store : KeyDirectory) (name : String) (key : Keypair) :
    KeyDirectory × Except KeystoreError Unit :=
  store.putWith none name key

end KeyDirectory

end GossipNames
