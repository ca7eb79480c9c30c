import GossipNames.Key.PeerId

/-! What is asked of the network, and how a request can fail before the network gets to it. -/

namespace GossipNames

inductive NetworkCommand where
  | subscribe (topic : String)
  | publish (topic : String) (data : Bytes)
  | provide (key : Bytes)
  | findProviders (key : Bytes) (limit : Nat)
  | connect (peer : PeerId)
  | getValues (key : Bytes)
  | putValue (key value : Bytes)
  deriving DecidableEq

def NetworkCommand.text : NetworkCommand → String
  | .subscribe topic => s!"Subscribe({topic})"
  | .publish topic data => s!"Publish({topic}, {data.length} bytes)"
  | .provide _ => "Provide"
  | .findProviders _ limit => s!"FindProviders(limit={limit})"
  | .connect peer => s!"Connect({peer.toString})"
  | .getValues _ => "GetValues"
  | .putValue _ value => s!"PutValue({value.length} bytes)"

inductive NetworkError where
  | stopped (command : NetworkCommand)
  | dropped
  | failed (reason : String)
  deriving DecidableEq

def NetworkError.message : NetworkError → String
  | .stopped command => "network service stopped: " ++ command.text
  | .dropped => "network service dropped the request"
  | .failed reason => reason

/-- What a service that takes commands does with one: it may be gone, or drop the reply. The
providers are sent as they are found, whatever the reply is. -/
inductive ServiceState where
  | stopped
  | running (reply : Option (Except String (List Bytes))) (providers : List PeerId)

inductive NetworkAnswer where
  | done
  | values (values : List Bytes)
  | providers (providers : List PeerId)
  deriving DecidableEq

/-- Hands a command to the service. A search for providers waits for no reply. -/
def NetworkCommand.request (command : NetworkCommand) (service : ServiceState) :
    Except NetworkError NetworkAnswer :=
  match service with
  | .stopped => .error (.stopped command)
  | .running reply providers =>
    match command, reply with
    | .findProviders .., _ => .ok (.providers providers)
    | _, none => .error .dropped
    | _, some (.error reason) => .error (.failed reason)
    | .subscribe _, some (.ok values) | .getValues _, some (.ok values) => .ok (.values values)
    | _, some (.ok _) => .ok .done

end GossipNames
