import GossipNames.Metrics

/-! The page on which a node shows its metrics. -/

namespace GossipNames

/-- What becomes of a port that is listened on. -/
inductive PortState where
  | free
  | taken
  | unreachable
  deriving DecidableEq, Repr

inductive PageFault where
  | taken
  | unreachable
  deriving DecidableEq, Repr

def PageFault.message : PageFault → String
  | .taken => "Address already in use (os error 98)"
  | .unreachable => "Network is unreachable (os error 101)"

structure PageRequest where
  method : String
  target : String
  deriving DecidableEq, Repr

structure PageReply where
  status : Nat
  body : String
  deriving DecidableEq, Repr

namespace PageRequest

/-- What stands before the query. -/
def path (request : PageRequest) : String :=
  String.ofList (request.target.toList.takeWhile (· ≠ '?'))

end PageRequest

namespace Metrics

/-- There is one page, which can be read and not be changed. -/
def page (metrics : Metrics) (request : PageRequest) : PageReply :=
  if request.path ≠ "/metrics" then { status := 404, body := "" }
  else
    match request.method with
    | "GET" => { status := 200, body := metrics.text }
    | "HEAD" => { status := 200, body := "" }
    | _ => { status := 405, body := "" }

/-- Listens on a port and answers the requests that come in. -/
def serve (metrics : Metrics) (port : PortState) (requests : List PageRequest) :
    Except PageFault (List PageReply) :=
  match port with
  | .free => .ok (requests.map metrics.page)
  | .taken => .error .taken
  | .unreachable => .error .unreachable

end Metrics

end GossipNames
