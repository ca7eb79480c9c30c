import GossipNames.Name.Error

/-! Resolving names hop by hop, and several resolvers in place of one. -/

namespace GossipNames

/-- Answers a name with the path it points to. -/
abbrev Hop (m : Type → Type) := String → m (Except NameError Path)

namespace Hop

variable {m : Type → Type} [Monad m]

/-- What follows the root of a name on the way is put behind the final path. `limit` is the number
of hops that are left, zero when there is no limit; `patience` bounds the hops in any case. -/
def chain (hop : Hop m) (asked : String) :
    (patience limit : Nat) → (suffix current : String) → m (Option (Except NameError Path))
  | 0, _, _, _ => return none
  | patience + 1, limit, suffix, current => do
    match ← hop current with
    | .error error => return some (.error error)
    | .ok path =>
      if !path.isName then return some ((path.join suffix).mapError .invalidPath)
      else if limit = 1 then return some (.error (.depthExceeded asked))
      else chain hop asked patience (limit - 1) (path.remainder ++ suffix) path.root

/-- Follows names until a path of another namespace is reached. A depth of zero sets no limit; then
nothing is answered when that takes more than `patience` hops. -/
def resolve (hop : Hop m) (patience depth : Nat) (name : String) :
    m (Option (Except NameError Path)) :=
  chain hop name (if depth = 0 then patience else depth) depth "" name

def askInTurn (name : String) (last : NameError) :
    List (Hop m) → m (Except NameError Path)
  | [] => return .error last
  | hop :: rest => do
    match ← hop name with
    | .ok path => return .ok path
    | .error error => if error.isNotFound then askInTurn name error rest else return .error error

/-- Asks the resolvers in order, the next one only when a name is not found. -/
def firstOf (hops : List (Hop m)) : Hop m := fun name =>
  askInTurn name (.notFound name) hops

end Hop

end GossipNames
