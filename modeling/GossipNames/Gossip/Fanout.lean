import GossipNames.Table

/-! Passing the messages of a topic on to everyone on this node who listens to it. -/

namespace GossipNames

/-- The receivers of each topic in the order in which they came, known by their numbers, and the
topics that the node has joined. -/
structure Fanout where
  receivers : Table String (List Nat)
  joined : List String
  deriving DecidableEq, Repr

namespace Fanout

def empty : Fanout where
  receivers := .empty
  joined := []

/-- Adds a receiver. A topic without receivers is joined first; `join` is what comes of that. -/
def subscribe (fanout : Fanout) (topic : String) (receiver : Nat) (join : Except String Unit) :
    Fanout × Except String Unit :=
  match fanout.receivers.get? topic with
  | some receivers =>
    ({ fanout with receivers := fanout.receivers.put topic (receivers ++ [receiver]) }, .ok ())
  | none =>
    match join with
    | .error reason =>
      (fanout, .error ("Subscribe failed for " ++ topic ++ ": " ++ reason))
    | .ok () =>
      ({ receivers := fanout.receivers.put topic [receiver],
         joined := fanout.joined.filter (· ≠ topic) ++ [topic] }, .ok ())

/-- Passes a message on and tells who got it. Receivers that are gone are forgotten, and the topic
is left with the last of them. -/
def pass (fanout : Fanout) (topic : String) (isOpen : Nat → Bool) : Fanout × List Nat :=
  match fanout.receivers.get? topic with
  | none => (fanout, [])
  | some receivers =>
    let kept := receivers.filter isOpen
    if kept.isEmpty then
      ({ receivers := fanout.receivers.erase topic,
         joined := fanout.joined.filter (· ≠ topic) }, [])
    else ({ fanout with receivers := fanout.receivers.put topic kept }, kept)

end Fanout

end GossipNames
