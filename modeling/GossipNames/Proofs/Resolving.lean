import GossipNames.Proofs.Name
import GossipNames.Proofs.Wire
import GossipNames.Proofs.GossipResolver

/-! A resolver at work. Names are looked up, messages come in and subscriptions end in any order,
while the clock shows whatever it shows. Keys and topics may be had or not each time they are asked
for. -/

namespace GossipNames

/-- What others see of a resolver. -/
inductive Notice where
  | fetched (peer : PeerId) (reply : Except KeyFault PublicKey)
  | subscribed (topic : String) (reply : Except String Unit)
  | refused (name : String) (error : NameError)
  | answered (topic : String) (time : Timestamp) (result : Except NameError Path)
  | received (topic : String) (time : Timestamp) (message : Bytes)
      (outcome : Except Rejection UInt64)
  | cancelled (name : String) (found : Bool)
  deriving DecidableEq

structure Resolving where
  resolver : GossipResolver
  now : Timestamp
  /-- The look-ups that were let in and are not answered. -/
  asking : Table Nat PeerId
  log : List Notice

namespace Resolving

inductive Event where
  | ask (id : Nat) (name : String)
  | look (id : Nat) (fetched : Except KeyFault PublicKey) (joined : Except String Unit)
  /-- Nobody waits for the answer any more. -/
  | abandon (id : Nat)
  | deliver (topic : String) (message : Bytes)
  | cancel (name : String)
  | shutdown
  | setClock (now : Timestamp)

def start (now : Timestamp) : Resolving where
  resolver := .empty
  now
  asking := .empty
  log := []

def ask (node : Resolving) (id : Nat) (name : String) : Resolving :=
  if node.asking.contains id then node
  else
    match node.resolver.locate name with
    | .error error => { node with log := node.log ++ [.refused name error] }
    | .ok peer => { node with asking := node.asking.put id peer }

/-- A request that is written down with its reply. -/
def request {α : Type} (reply : α) (notice : Notice) : StateM (List Notice) α := do
  modify (· ++ [notice])
  return reply

def look (node : Resolving) (id : Nat) (fetched : Except KeyFault PublicKey)
    (joined : Except String Unit) : Resolving :=
  match node.asking.get? id with
  | none => node
  | some peer =>
    let ((resolver, result), log) :=
      (node.resolver.lookupPeer (fun peer => request fetched (.fetched peer fetched))
        (fun topic => request joined (.subscribed topic joined)) node.now peer).run node.log
    { node with
      resolver, asking := node.asking.erase id,
      log := log ++ [.answered (Name.topic peer) node.now result] }

def cancel (node : Resolving) (name : String) : Resolving :=
  let (resolver, found) := node.resolver.cancel name
  { node with resolver, log := node.log ++ [.cancelled name found] }

variable [SignatureScheme]

def deliver (node : Resolving) (topic : String) (message : Bytes) : Resolving :=
  let (resolver, outcome) := node.resolver.receive node.now topic message
  { node with resolver, log := node.log ++ [.received topic node.now message outcome] }

def step (node : Resolving) : Event → Resolving
  | .ask id name => node.ask id name
  | .look id fetched joined => node.look id fetched joined
  | .abandon id => { node with asking := node.asking.erase id }
  | .deliver topic message => node.deliver topic message
  | .cancel name => node.cancel name
  | .shutdown => { node with resolver := node.resolver.shutdown }
  | .setClock now => { node with now }

def run (node : Resolving) (events : List Event) : Resolving :=
  events.foldl step node

section Looking

omit [SignatureScheme]

variable {node : Resolving} {id : Nat} {peer : PeerId}

/-- A name that is subscribed to is answered from what was received. -/
theorem look_subscribed (asked : node.asking.get? id = some peer)
    (subscribed : node.resolver.subscriptions.contains (Name.topic peer) = true)
    (fetched : Except KeyFault PublicKey) (joined : Except String Unit) :
    node.look id fetched joined = { node with
      resolver := (node.resolver.answer node.now (Name.topic peer)).1
      asking := node.asking.erase id
      log := node.log ++ [.answered (Name.topic peer) node.now
        (node.resolver.answer node.now (Name.topic peer)).2] } := by
  simp only [look, asked, GossipResolver.lookupPeer, subscribed, if_true]
  rfl

/-- The first look-up of a name, or one that could not subscribe to it, finds nothing. -/
theorem look_unsubscribed (asked : node.asking.get? id = some peer)
    (absent : node.resolver.subscriptions.contains (Name.topic peer) = false)
    (fetched : Except KeyFault PublicKey) (joined : Except String Unit) :
    node.look id fetched joined
      = match fetched, joined with
        | .error fault, _ => { node with
            asking := node.asking.erase id
            log := node.log ++ [.fetched peer fetched, .answered (Name.topic peer) node.now
              (.error (.publicKey peer fault))] }
        | .ok _, .error reason => { node with
            asking := node.asking.erase id
            log := node.log ++ [.fetched peer fetched, .subscribed (Name.topic peer) joined,
              .answered (Name.topic peer) node.now (.error (.gossip reason))] }
        | .ok publicKey, .ok () => { node with
            resolver := node.resolver.subscribed (Name.topic peer) publicKey
            asking := node.asking.erase id
            log := node.log ++ [.fetched peer fetched, .subscribed (Name.topic peer) joined,
              .answered (Name.topic peer) node.now (.error (.notFound (Name.topic peer)))] } := by
  simp only [look, asked, GossipResolver.lookupPeer_unsubscribed absent]
  cases fetched with
  | error fault =>
    dsimp only
    rw [List.append_cons node.log]
    rfl
  | ok publicKey =>
    cases joined with
    | error reason =>
      dsimp only
      rw [List.append_cons node.log, List.append_cons (node.log ++ _)]
      rfl
    | ok _ =>
      dsimp only
      rw [List.append_cons node.log, List.append_cons (node.log ++ _)]
      rfl

end Looking

/-- An identity is looked up, and its key and its topic are had. -/
def firstLook (peer : PeerId) (publicKey : PublicKey) : List Event := [
  .ask 0 (Name.topic peer), .look 0 (.ok publicKey) (.ok ())]

/-- A resolver that does this first has subscribed to the topic. -/
theorem run_firstLook (now : Timestamp) (peer : PeerId) (publicKey : PublicKey) :
    (start now).run (firstLook peer publicKey) = {
      resolver := GossipResolver.empty.subscribed (Name.topic peer) publicKey
      now
      asking := .empty
      log := [.fetched peer (.ok publicKey), .subscribed (Name.topic peer) (.ok ()),
        .answered (Name.topic peer) now (.error (.notFound (Name.topic peer)))] } := by
  have located : GossipResolver.empty.locate (Name.topic peer) = .ok peer := by
    rw [GossipResolver.locate, Name.parse_topic]
    rfl
  have asked : (start now).ask 0 (Name.topic peer)
      = { start now with asking := Table.empty.put 0 peer } := by
    simp only [ask, start, located]
    rfl
  rw [run, firstLook, List.foldl_cons, List.foldl_cons, List.foldl_nil, step, step, asked,
    look_unsubscribed (by rfl) (by rfl)]
  rfl

/-- All that a step can do to the subscription of a topic. -/
inductive Change (node : Resolving) (topic : String) :
    Event → Option Subscription → Option Subscription → Prop where
  | same {event subscription} : Change node topic event subscription subscription
  | begin {id peer publicKey} (asked : node.asking.get? id = some peer)
      (own : Name.topic peer = topic) :
      Change node topic (.look id (.ok publicKey) (.ok ())) none
        (some { publicKey, record := none })
  | giveUp {id peer fetched joined publicKey record} (asked : node.asking.get? id = some peer)
      (own : Name.topic peer = topic) (expired : record.isExpired node.now = true) :
      Change node topic (.look id fetched joined) (some { publicKey, record := some record })
        (some { publicKey, record := none })
  | accept {message subscription record}
      (valid : validateRecord subscription.publicKey node.now message = .ok record)
      (newer : ∀ kept, subscription.record = some kept → kept.sequence < record.sequence) :
      Change node topic (.deliver topic message) (some subscription)
        (some { subscription with record := some record })
  | cancel {name peer subscription} (parsed : Name.parse name = .ok peer)
      (own : Name.topic peer = topic) :
      Change node topic (.cancel name) (some subscription) none

theorem change_look (node : Resolving) (topic : String) (id : Nat)
    (fetched : Except KeyFault PublicKey) (joined : Except String Unit) :
    Change node topic (.look id fetched joined) (node.resolver.subscriptions.get? topic)
      ((node.look id fetched joined).resolver.subscriptions.get? topic) := by
  cases asked : node.asking.get? id with
  | none =>
    simp only [look, asked]
    exact .same
  | some peer =>
    cases known : node.resolver.subscriptions.contains (Name.topic peer) with
    | true =>
      rw [look_subscribed asked known]
      obtain ⟨⟨publicKey, kept⟩, found⟩ := Option.isSome_iff_exists.mp known
      cases kept with
      | none =>
        have blank : (node.resolver.subscriptions.get? (Name.topic peer)).bind (·.record) = none := by
          rw [found]
          rfl
        rw [GossipResolver.answer_blank blank]
        exact .same
      | some record =>
        cases expired : record.isExpired node.now with
        | false =>
          rw [GossipResolver.answer_live found expired]
          exact .same
        | true =>
          rw [GossipResolver.answer_expired found expired]
          by_cases own : Name.topic peer = topic
          · subst own
            simp only [found, GossipResolver.subscribed, Table.get?_put, if_true]
            exact .giveUp asked rfl expired
          · simp only [GossipResolver.subscribed, Table.get?_put, Ne.symm own, if_false]
            exact .same
    | false =>
      rw [look_unsubscribed asked known]
      split
      · exact .same
      · exact .same
      · by_cases own : Name.topic peer = topic
        · subst own
          have absent : node.resolver.subscriptions.get? (Name.topic peer) = none := by
            simpa [Table.contains] using known
          simp only [absent, GossipResolver.subscribed, Table.get?_put, if_true]
          exact .begin asked rfl
        · simp only [GossipResolver.subscribed, Table.get?_put, Ne.symm own, if_false]
          exact .same

theorem change_deliver (node : Resolving) (topic other : String) (message : Bytes) :
    Change node topic (.deliver other message) (node.resolver.subscriptions.get? topic)
      ((node.deliver other message).resolver.subscriptions.get? topic) := by
  by_cases own : topic = other
  · subst own
    cases outcome : (node.resolver.receive node.now topic message).2 with
    | error rejection =>
      simp only [deliver, GossipResolver.receive_error outcome]
      exact .same
    | ok sequence =>
      obtain ⟨subscription, record, found, valid, newer, -⟩ := GossipResolver.receive_ok.mp outcome
      simp only [deliver, GossipResolver.receive_newer found valid newer, found, Table.get?_put,
        if_true]
      exact .accept valid newer
  · simp only [deliver, GossipResolver.receive_other own]
    exact .same

theorem change_cancel (node : Resolving) (topic : String) (name : String) :
    Change node topic (.cancel name) (node.resolver.subscriptions.get? topic)
      ((node.cancel name).resolver.subscriptions.get? topic) := by
  have same : (node.cancel name).resolver = (node.resolver.cancel name).1 := rfl
  rw [same]
  unfold GossipResolver.cancel
  split
  · exact .same
  · rename_i peer parsed
    by_cases known : node.resolver.subscriptions.contains (Name.topic peer) = true
    · simp only [known, if_true, Table.get?_erase]
      split
      · rename_i own
        subst own
        obtain ⟨subscription, found⟩ := Option.isSome_iff_exists.mp known
        rw [found]
        exact .cancel parsed rfl
      · exact .same
    · simp only [known]
      exact .same

theorem step_change (node : Resolving) (event : Event) (topic : String) :
    Change node topic event (node.resolver.subscriptions.get? topic)
      ((node.step event).resolver.subscriptions.get? topic) := by
  cases event with
  | look id fetched joined => exact node.change_look topic id fetched joined
  | deliver other message => exact node.change_deliver topic other message
  | cancel name => exact node.change_cancel topic name
  | ask id name =>
    simp only [step, ask]
    split
    · exact .same
    · split <;> exact .same
  | abandon id | shutdown | setClock now => exact .same

/-- A step only adds to the log, and a path that it answers is the value of a record that is kept
and has not expired. -/
theorem step_log (node : Resolving) (event : Event) :
    ∃ news, (node.step event).log = node.log ++ news
      ∧ ∀ topic time path, .answered topic time (.ok path) ∈ news →
        time = node.now ∧ ∃ publicKey record,
          node.resolver.subscriptions.get? topic = some { publicKey, record := some record }
          ∧ record.isExpired node.now = false ∧ record.value = path := by
  cases event with
  | look id fetched joined =>
    simp only [step]
    cases asked : node.asking.get? id with
    | none => exact ⟨[], by simp [look, asked]⟩
    | some peer =>
      cases known : node.resolver.subscriptions.contains (Name.topic peer) with
      | true =>
        rw [look_subscribed asked known]
        refine ⟨_, rfl, ?_⟩
        intro topic time path member
        simp only [List.mem_singleton, Notice.answered.injEq] at member
        obtain ⟨rfl, rfl, answered⟩ := member
        exact ⟨rfl, GossipResolver.answer_ok.mp answered.symm⟩
      | false =>
        rw [look_unsubscribed asked known]
        split <;> exact ⟨_, rfl, by simp⟩
  | deliver other message => exact ⟨_, rfl, by simp⟩
  | cancel name => exact ⟨_, rfl, by simp⟩
  | ask id name =>
    simp only [step, ask]
    split
    · exact ⟨[], by simp⟩
    · split
      · exact ⟨_, rfl, by simp⟩
      · exact ⟨[], by simp⟩
  | abandon id | shutdown | setClock now => exact ⟨[], by simp [step]⟩

section Staying

variable {node : Resolving}

omit [SignatureScheme] in
theorem look_now (id : Nat) (fetched : Except KeyFault PublicKey) (joined : Except String Unit) :
    (node.look id fetched joined).now = node.now := by
  unfold look
  split <;> rfl

/-- The clock shows what it shows until it is set. -/
theorem step_now {event : Event} (unset : ∀ now, event ≠ .setClock now) :
    (node.step event).now = node.now := by
  cases event with
  | setClock now => exact absurd rfl (unset now)
  | look id fetched joined => exact look_now id fetched joined
  | ask id name =>
    simp only [step, ask]
    split
    · rfl
    · split <;> rfl
  | abandon | deliver | cancel | shutdown => rfl

theorem run_now {events : List Event} (unset : ∀ event ∈ events, ∀ now, event ≠ .setClock now) :
    (node.run events).now = node.now := by
  induction events generalizing node with
  | nil => rfl
  | cons event rest ih =>
    rw [run, List.foldl_cons]
    change (run _ rest).now = _
    rw [ih fun other member => unset other (List.mem_cons_of_mem event member),
      step_now (unset event List.mem_cons_self)]

omit [SignatureScheme] in
theorem look_closed (id : Nat) (fetched : Except KeyFault PublicKey)
    (joined : Except String Unit) :
    (node.look id fetched joined).resolver.closed = node.resolver.closed := by
  cases asked : node.asking.get? id with
  | none => simp only [look, asked]
  | some peer =>
    cases known : node.resolver.subscriptions.contains (Name.topic peer) with
    | true =>
      rw [look_subscribed asked known]
      dsimp only
      unfold GossipResolver.answer
      split
      · rfl
      · rfl
      · split <;> rfl
    | false =>
      rw [look_unsubscribed asked known]
      split <;> rfl

/-- A resolver that is not shut down stays open. -/
theorem step_closed {event : Event} (other : event ≠ .shutdown) :
    (node.step event).resolver.closed = node.resolver.closed := by
  cases event with
  | shutdown => exact absurd rfl other
  | look id fetched joined => exact look_closed id fetched joined
  | deliver topic message =>
    change (node.resolver.receive node.now topic message).1.closed = _
    cases outcome : (node.resolver.receive node.now topic message).2 with
    | error rejection => rw [GossipResolver.receive_error outcome]
    | ok sequence =>
      obtain ⟨subscription, record, found, valid, newer, -⟩ := GossipResolver.receive_ok.mp outcome
      rw [GossipResolver.receive_newer found valid newer]
  | ask id name =>
    simp only [step, ask]
    split
    · rfl
    · split <;> rfl
  | cancel name =>
    change (node.resolver.cancel name).1.closed = _
    unfold GossipResolver.cancel
    split
    · rfl
    · dsimp only
      split <;> rfl
  | abandon | setClock => rfl

theorem run_closed {events : List Event} (opened : .shutdown ∉ events) :
    (node.run events).resolver.closed = node.resolver.closed := by
  induction events generalizing node with
  | nil => rfl
  | cons event rest ih =>
    rw [List.mem_cons, not_or] at opened
    rw [run, List.foldl_cons]
    change (run _ rest).resolver.closed = _
    rw [ih opened.2, step_closed (Ne.symm opened.1)]

end Staying

/-! One identity and two of its records, of which the newer one is the first to expire. -/

namespace Sample

def name : String := "12D3KooWK99VoVxNE7XzyBwXEzW7xhK7Gpv85r9F3V3fyKSUKPH5"

def topic : String := "/ipns/12D3KooWK99VoVxNE7XzyBwXEzW7xhK7Gpv85r9F3V3fyKSUKPH5"

def publicKey : PublicKey where
  kind := .ed25519
  bytes := [
    138, 136, 227, 221, 116, 9, 241, 149, 253, 82, 219, 45, 60, 186, 93, 114, 202, 103, 9, 191, 29,
    148, 18, 27, 243, 116, 136, 1, 180, 15, 111, 92]

/-- The path that the older record states. -/
def oldValue : Except NameError Path :=
  (Path.parse "/ipfs/Qm111").mapError .invalidPath

/-- Number one, live until 2023-11-14T23:13:20Z. -/
def older : Bytes := [
    10, 11, 47, 105, 112, 102, 115, 47, 81, 109, 49, 49, 49, 18, 64, 132, 136, 234, 119, 102, 186,
    91, 106, 197, 135, 99, 17, 20, 187, 25, 139, 17, 105, 10, 80, 190, 45, 114, 68, 1, 52, 36, 68,
    98, 234, 73, 38, 24, 176, 31, 234, 137, 39, 166, 162, 190, 173, 101, 252, 197, 112, 208, 205,
    103, 85, 189, 245, 51, 172, 194, 55, 3, 243, 130, 165, 75, 73, 168, 15, 34, 20, 50, 48, 50, 51,
    45, 49, 49, 45, 49, 52, 84, 50, 51, 58, 49, 51, 58, 50, 48, 90, 40, 1]

/-- Number two, live until 2023-11-14T22:14:20Z. -/
def newer : Bytes := [
    10, 11, 47, 105, 112, 102, 115, 47, 81, 109, 50, 50, 50, 18, 64, 105, 23, 146, 120, 195, 215,
    93, 137, 226, 133, 161, 192, 182, 229, 154, 187, 17, 90, 193, 238, 183, 35, 143, 135, 122, 244,
    103, 29, 111, 17, 73, 186, 146, 129, 127, 194, 224, 89, 119, 64, 224, 127, 64, 41, 108, 184,
    97, 126, 220, 127, 202, 119, 47, 60, 158, 84, 136, 36, 72, 135, 205, 232, 169, 1, 34, 20, 50,
    48, 50, 51, 45, 49, 49, 45, 49, 52, 84, 50, 50, 58, 49, 52, 58, 50, 48, 90, 40, 2]

/-- A minute before the newer record expires. -/
def early : Timestamp :=
  .ofSeconds 1700000000

/-- A minute after it has expired. -/
def late : Timestamp :=
  .ofSeconds 1700000120

end Sample

end Resolving

end GossipNames
