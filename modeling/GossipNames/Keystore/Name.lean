import GossipNames.Key.PeerId

/-! Names of signing keys, and what can go wrong when keys are kept under them. -/

namespace GossipNames

/-- Why a file could not be read or written. -/
inductive FileFault where
  | missing
  | isDirectory
  | nameTooLong
  | nulInName
  | other (reason : String)
  deriving DecidableEq, Repr

def FileFault.message : FileFault → String
  | .missing => "No such file or directory (os error 2)"
  | .isDirectory => "Is a directory (os error 21)"
  | .nameTooLong => "File name too long (os error 36)"
  | .nulInName => "file name contained an unexpected NUL byte"
  | .other reason => reason

inductive KeystoreError where
  | emptyName
  | slashInName (name : String)
  | hiddenName (name : String)
  | missing (name : String)
  | taken (name : String)
  | unreadable (file : String) (fault : FileFault)
  | unwritable (fault : FileFault)
  | corrupt (file : String) (error : KeyError)
  | refused (reason : String)
  deriving DecidableEq

def KeystoreError.message : KeystoreError → String
  | .emptyName => "key name must not be empty"
  | .slashInName name => "key name " ++ Text.quote name ++ " must not contain '/'"
  | .hiddenName name => "key name " ++ Text.quote name ++ " must not start with '.'"
  | .missing name => "no key named " ++ Text.quote name
  | .taken name => "key " ++ Text.quote name ++ " already exists"
  | .unreadable file _ => "failed to read key " ++ file
  | .unwritable fault => fault.message
  | .corrupt file _ => "key file " ++ file ++ " is corrupt"
  | .refused reason => reason

/-- The errors behind it, outermost first. -/
def KeystoreError.causes : KeystoreError → List String
  | .unreadable _ fault => [fault.message]
  | .corrupt _ error => error.message :: error.causes
  | _ => []

/-- The message with all errors behind it. -/
def KeystoreError.fullMessage (error : KeystoreError) : String :=
  ": ".intercalate (error.message :: error.causes)

/-- A name is not empty, stays within one directory and is not hidden there. -/
def validateKeyName (name : String) : Except KeystoreError Unit :=
  if name.toList = [] then .error .emptyName
  else if '/' ∈ name.toList then .error (.slashInName name)
  else if name.toList.head? = some '.' then .error (.hiddenName name)
  else .ok ()

end GossipNames
