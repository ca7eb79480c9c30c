import GossipNames.Name.Error
import GossipNames.Table

/-! Names that are resolved again and again in the background, with the last good answers. -/

namespace GossipNames

/-- Follows are known by their numbers. A name that is followed anew has another follow, and the
answers of the one before stay with that one. -/
structure Follows where
  entries : Table String Nat
  /-- The last good answer of each follow that has one. -/
  answers : Table Nat Path
  nextId : Nat
  closed : Bool
  deriving DecidableEq

namespace Follows

def empty : Follows where
  entries := .empty
  answers := .empty
  nextId := 0
  closed := false

def follow (follows : Follows) (name : String) : Except NameError Follows :=
  if follows.closed then .error .closed
  else if follows.entries.contains name then .error (.alreadyFollowing name)
  else
    .ok { follows with
      entries := follows.entries.put name follows.nextId
      nextId := follows.nextId + 1 }

def unfollow (follows : Follows) (name : String) : Except NameError Follows :=
  if follows.entries.contains name then
    .ok { follows with entries := follows.entries.erase name }
  else .error (.notFollowing name)

/-- The followed names, in order. -/
def names (follows : Follows) : List String :=
  follows.entries.keys.mergeSort fun first second => decide (first ≤ second)

/-- The last good answer of a followed name. -/
def current? (follows : Follows) (name : String) : Option Path :=
  (follows.entries.get? name).bind follows.answers.get?

def shutdown (follows : Follows) : Follows :=
  { follows with entries := .empty, closed := true }

/-- Whether this follow of the name goes on. -/
def isActive (follows : Follows) (name : String) (id : Nat) : Bool :=
  follows.entries.get? name = some id

/-- A resolve on behalf of a follow is over, `none` when it took too long. Only a path replaces the
answer before it. -/
def resolved (follows : Follows) (id : Nat) (result : Option (Except NameError Path)) : Follows :=
  match result with
  | some (.ok path) => { follows with answers := follows.answers.put id path }
  | _ => follows

end Follows

end GossipNames
