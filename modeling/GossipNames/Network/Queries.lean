import GossipNames.Network.Command
import GossipNames.Table

/-! Queries that are under way in the network, and where their results go. -/

namespace GossipNames

/-- A query, with the number of the request to answer or of the stream to fill. -/
inductive Query where
  | provide (request : Nat)
  | findProviders (stream limit : Nat) (seen : List PeerId)
  | getValues (request : Nat) (values : List Bytes)
  | putValue (request : Nat)
  deriving DecidableEq

/-- News of a query, of the kind that the query asks for. -/
inductive QueryNews where
  | provided (result : Except String Unit)
  | providers (peers : List PeerId)
  | noMoreProviders
  | providersFailed (reason : String)
  | value (value : Bytes)
  | noMoreValues
  | valueNotFound
  | valueFailed (reason : String)
  | put (result : Except String Unit)

inductive QueryEffect where
  | done (request : Nat) (result : Except String Unit)
  | values (request : Nat) (result : Except String (List Bytes))
  | provider (stream : Nat) (peer : PeerId)
  | closeStream (stream : Nat)
  /-- The query may stop. -/
  | finish (query : Nat)

abbrev Queries := Table Nat Query

namespace Queries

/-- The most values that one query gathers. -/
def valueLimit : Nat := 16

/-- The query that a command begins under the number of its request. An announcement and a value to
be put may be refused at once, which is answered at once. -/
def ofCommand (request : Nat) (taken : Except String Unit) :
    NetworkCommand → Option Query × List QueryEffect
  | .provide _ =>
    match taken with
    | .ok () => (some (.provide request), [])
    | .error reason => (none, [.done request (.error ("provide failed: " ++ reason))])
  | .putValue .. =>
    match taken with
    | .ok () => (some (.putValue request), [])
    | .error reason => (none, [.done request (.error ("put value failed: " ++ reason))])
  | .findProviders _ limit => (some (.findProviders request limit []), [])
  | .getValues _ => (some (.getValues request []), [])
  | .subscribe _ | .publish .. | .connect _ => (none, [])

/-- Takes a command; `id` is the number of the query if it begins one. -/
def dispatch (queries : Queries) (id request : Nat) (taken : Except String Unit)
    (command : NetworkCommand) : Queries × List QueryEffect :=
  match ofCommand request taken command with
  | (some query, effects) => (queries.put id query, effects)
  | (none, effects) => (queries, effects)

/-- Goes through the peers found; each is passed on once, and no more than the limit. -/
def passProviders (stream limit : Nat) (seen : List PeerId) :
    List PeerId → List PeerId × List QueryEffect
  | [] => (seen, [])
  | peer :: rest =>
    if limit ≤ seen.length then (seen, [])
    else if peer ∈ seen then passProviders stream limit seen rest
    else
      let (seen, effects) := passProviders stream limit (seen ++ [peer]) rest
      (seen, .provider stream peer :: effects)

/-- What is left of a search for providers after some were found. It ends with the last news, at
the limit, or when nobody receives its results. -/
def afterProviders (query stream limit : Nat) (last receiverGone : Bool)
    (found : List PeerId × List QueryEffect) : Option Query × List QueryEffect :=
  let (seen, effects) := found
  if last then (none, effects ++ [.closeStream stream])
  else if limit ≤ seen.length ∨ receiverGone then
    (none, effects ++ [.finish query, .closeStream stream])
  else (some (.findProviders stream limit seen), effects)

/-- What is left of a gathering of values. It is answered with the last news or at the limit. -/
def afterValues (query request : Nat) (last : Bool) (values : List Bytes) :
    Option Query × List QueryEffect :=
  if last then (none, [.values request (.ok values)])
  else if valueLimit ≤ values.length then
    (none, [.finish query, .values request (.ok values)])
  else (some (.getValues request values), [])

/-- What news of its own kind does to a query. -/
def after (id : Nat) (last receiverGone : Bool) :
    Query → QueryNews → Option Query × List QueryEffect
  | .provide request, .provided result =>
    (none, [.done request (result.mapError ("provide failed: " ++ ·))])
  | .putValue request, .put result =>
    (none, [.done request (result.mapError ("put value failed: " ++ ·))])
  | .findProviders stream limit seen, .providers peers =>
    afterProviders id stream limit last receiverGone (passProviders stream limit seen peers)
  | .findProviders stream limit seen, .noMoreProviders
  | .findProviders stream limit seen, .providersFailed _ =>
    afterProviders id stream limit last receiverGone (seen, [])
  | .getValues request values, .value value =>
    afterValues id request last (if value ∈ values then values else values ++ [value])
  | .getValues request values, .noMoreValues | .getValues request values, .valueNotFound =>
    afterValues id request last values
  | .getValues request values, .valueFailed reason =>
    if values.isEmpty then (none, [.values request (.error ("get value failed: " ++ reason))])
    else afterValues id request last values
  | .findProviders stream _ _, _ => (none, [.closeStream stream])
  | _, _ => (none, [])

/-- Takes news of one query. News of a query that is over changes nothing. -/
def progress (queries : Queries) (id : Nat) (news : QueryNews) (last receiverGone : Bool) :
    Queries × List QueryEffect :=
  match queries.get? id with
  | none => (queries, [])
  | some query =>
    match after id last receiverGone query news with
    | (some query, effects) => (queries.put id query, effects)
    | (none, effects) => (queries.erase id, effects)

end Queries

end GossipNames
