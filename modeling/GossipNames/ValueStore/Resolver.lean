import GossipNames.Name.Resolution
import GossipNames.Record.Validation
import GossipNames.Gossip.Topic

/-! Resolving names from the records in the shared value store, and finding the public keys behind
them. -/

namespace GossipNames

/-- What the candidates say when none is valid: a malformed or forged one is an error, others just
mean that the name is gone. -/
def explainRejections (name : String) : List Rejection → NameError
  | [] => .notFound name
  | .malformed error :: _ => .record error
  | .badSignature :: _ => .badSignature name
  | _ :: rest => explainRejections name rest

variable [SignatureScheme]

/-- The value of the best valid candidate. -/
def chooseValue (name : String) (key : PublicKey) (now : Timestamp) (candidates : List Bytes) :
    Except NameError Path :=
  let selection := selectRecord key now candidates
  match selection.best with
  | some record => .ok record.value
  | none => .error (explainRejections name selection.rejected)

/-- Asks the value store, and for the public key only when there are candidates. -/
def resolveFromValues {m : Type → Type} [Monad m]
    (getValues : Bytes → m (Except String (List Bytes)))
    (fetchKey : PeerId → m (Except KeyFault PublicKey)) (now : Timestamp) : Hop m := fun name => do
  match Name.parse name with
  | .error reason => return .error (.invalidName name reason)
  | .ok peer =>
    match ← getValues (RoutingKey.record peer).toBytes with
    | .error reason => return .error (.routing reason)
    | .ok [] => return .error (.notFound name)
    | .ok candidates =>
      match ← fetchKey peer with
      | .error fault => return .error (.publicKey peer fault)
      | .ok key => return chooseValue name key now candidates

/-- The first published value that is the public key of the peer. -/
def choosePublicKey (peer : PeerId) (candidates : List Bytes) : Except KeyFault PublicKey :=
  if candidates.isEmpty then .error .notPublished
  else
    match candidates.findSome? fun value => (validatePublicKey peer value).toOption with
    | some key => .ok key
    | none => .error .mismatch

/-- A short key is part of the peer id; any other is looked up in a value store, when there is
one. -/
def fetchPublicKey {m : Type → Type} [Monad m]
    (getValues? : Option (Bytes → m (Except String (List Bytes)))) (peer : PeerId) :
    m (Except KeyFault PublicKey) := do
  match peer.inlineKey?, getValues? with
  | some key, _ => return .ok key
  | none, none => return .error .noValueStore
  | none, some getValues =>
    match ← getValues (RoutingKey.publicKey peer).toBytes with
    | .error reason => return .error (.refused reason)
    | .ok candidates => return choosePublicKey peer candidates

end GossipNames
