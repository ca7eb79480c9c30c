import GossipNames.Text.Quoted

/-! Content paths: what a name points at. -/

namespace GossipNames

/-- Immutable content, or another name. -/
inductive Namespace where
  | ipfs
  | ipns
  deriving DecidableEq, Repr

def Namespace.label : Namespace → String
  | .ipfs => "ipfs"
  | .ipns => "ipns"

inductive PathFault where
  | empty
  | relative
  | unknownNamespace
  | missingRoot
  | notUtf8
  deriving DecidableEq, Repr

def PathFault.message : PathFault → String
  | .empty => "empty path"
  | .relative => "relative path with segments"
  | .unknownNamespace => "unknown namespace"
  | .missingRoot => "missing root"
  | .notUtf8 => "value is not UTF-8"

structure PathError where
  path : String
  fault : PathFault
  deriving DecidableEq, Repr

def PathError.message (error : PathError) : String :=
  "invalid path " ++ Text.quote error.path ++ ": " ++ error.fault.message

/-- A namespace, a root in it, and what follows the root. -/
structure Path where
  space : Namespace
  root : String
  remainder : String
  rootNonempty : root.toList ≠ []
  rootPlain : '/' ∉ root.toList
  remainderAbsolute : ∀ char ∈ remainder.toList.head?, char = '/'
  deriving DecidableEq

namespace Path

def text (path : Path) : String :=
  "/" ++ path.space.label ++ "/" ++ path.root ++ path.remainder

def untilSlash (chars : List Char) : List Char :=
  chars.takeWhile (· ≠ '/')

def fromSlash (chars : List Char) : List Char :=
  chars.dropWhile (· ≠ '/')

theorem slash_not_mem_untilSlash (chars : List Char) : '/' ∉ untilSlash chars := by
  intro member
  have accepted := List.all_eq_true.mp (List.all_takeWhile (l := chars) (p := (· ≠ '/'))) _ member
  simp at accepted

theorem head_fromSlash (chars : List Char) : ∀ char ∈ (fromSlash chars).head?, char = '/' := by
  intro char member
  have refused := List.head?_dropWhile_not (· ≠ '/') chars
  rw [show List.dropWhile (· ≠ '/') chars = fromSlash chars from rfl, member] at refused
  simpa using refused

def inSpace (space : Namespace) (chars : List Char) : Except PathFault Path :=
  if rootNonempty : untilSlash chars ≠ [] then
    .ok {
      space
      root := String.ofList (untilSlash chars)
      remainder := String.ofList (fromSlash chars)
      rootNonempty := by simpa using rootNonempty
      rootPlain := by simpa using slash_not_mem_untilSlash chars
      remainderAbsolute := by simpa using head_fromSlash chars }
  else .error .missingRoot

def parseChars : List Char → Except PathFault Path
  | [] => .error .empty
  | '/' :: rest =>
    let label := String.ofList (untilSlash rest)
    let rest := (fromSlash rest).drop 1
    if label = Namespace.ipfs.label then inSpace .ipfs rest
    else if label = Namespace.ipns.label then inSpace .ipns rest
    else .error .unknownNamespace
  | chars =>
    if '/' ∈ chars then .error .relative
    else inSpace .ipfs chars

/-- A text without a slash is a root in the `ipfs` namespace; any other starts with the namespace
and a root. -/
def parse (input : String) : Except PathError Path :=
  (parseChars input.toList).mapError fun fault => { path := input, fault }

def isName (path : Path) : Bool :=
  path.space = .ipns

/-- The path with a suffix behind its text. -/
def join (path : Path) (suffix : String) : Except PathError Path :=
  if suffix = "" then .ok path
  else parse (path.text ++ suffix)

end Path

end GossipNames
