import Mathlib.Data.List.Basic
import Mathlib.Data.List.Induction
import GossipNames.Proofs.Resolving
import GossipNames.Proofs.Table

/-! What a resolver is subscribed to. An identity has at most one subscription under all of its
names, which is made again after it was ended, and tried again after it could not be made. -/

namespace GossipNames

/-- Whether a subscription of the identity was ended. -/
def Notice.ends (peer : PeerId) : Notice → Bool
  | .cancelled name found => found && (Name.parse name).toOption = some peer
  | _ => false

/-- A resolver whose number of subscriptions others can read. -/
structure Subscribing where
  resolver : GossipResolver
  now : Timestamp
  /-- The number of subscriptions as it was last reported. -/
  gauge : Nat
  log : List Notice

namespace Subscribing

inductive Event where
  | resolve (name : String) (fetched : Except KeyFault PublicKey) (joined : Except String Unit)
  | cancel (name : String)
  | deliver (topic : String) (message : Bytes)
  | shutdown
  | setClock (now : Timestamp)

def start (now : Timestamp) (gauge : Nat) : Subscribing where
  resolver := .empty
  now
  gauge
  log := []

/-- A request that is written down with its reply. -/
def request {α : Type} (reply : α) (notice : Notice) : StateM Subscribing α := do
  modify fun node => { node with log := node.log ++ [notice] }
  return reply

def report (count : Nat) : StateM Subscribing Unit :=
  modify ({ · with gauge := count })

/-- Looks a name up. The reply is `fetched` or `joined` when the key or the topic is asked for. -/
def resolve (node : Subscribing) (name : String) (fetched : Except KeyFault PublicKey)
    (joined : Except String Unit) : Subscribing × Except NameError Path :=
  let ((resolver, result), later) :=
    (node.resolver.resolveOnce (fun peer => request fetched (.fetched peer fetched))
      (fun topic => request joined (.subscribed topic joined)) node.now report name).run node
  ({ later with resolver }, result)

def cancel (node : Subscribing) (name : String) : Subscribing × Bool :=
  let ((resolver, found), later) := (node.resolver.unsubscribe report name).run node
  ({ later with resolver, log := later.log ++ [.cancelled name found] }, found)

/-- What is asked for on behalf of an identity without a subscription. -/
def requests (peer : PeerId) (fetched : Except KeyFault PublicKey) (joined : Except String Unit) :
    List Notice :=
  match fetched with
  | .error _ => [.fetched peer fetched]
  | .ok _ => [.fetched peer fetched, .subscribed (Name.topic peer) joined]

section Calls

variable {node : Subscribing} {name : String} {peer : PeerId}
  (fetched : Except KeyFault PublicKey) (joined : Except String Unit)

theorem resolve_refused {error : NameError} (refused : node.resolver.locate name = .error error) :
    node.resolve name fetched joined = (node, .error error) := by
  simp only [resolve, GossipResolver.resolveOnce, GossipResolver.lookup, refused]
  rfl

theorem resolve_subscribed (located : node.resolver.locate name = .ok peer)
    (subscribed : node.resolver.subscriptions.contains (Name.topic peer) = true) :
    node.resolve name fetched joined
      = ({ node with resolver := (node.resolver.answer node.now (Name.topic peer)).1 },
        (node.resolver.answer node.now (Name.topic peer)).2) := by
  simp only [resolve, GossipResolver.resolveOnce, GossipResolver.lookup, located,
    GossipResolver.lookupPeer, subscribed, if_true]
  rfl

/-- A name that is not subscribed to is subscribed to if its key and its topic can be had. -/
theorem resolve_unsubscribed (located : node.resolver.locate name = .ok peer)
    (absent : node.resolver.subscriptions.contains (Name.topic peer) = false) :
    node.resolve name fetched joined
      = match fetched, joined with
        | .error fault, _ =>
          ({ node with log := node.log ++ requests peer fetched joined },
            .error (.publicKey peer fault))
        | .ok _, .error reason =>
          ({ node with log := node.log ++ requests peer fetched joined }, .error (.gossip reason))
        | .ok publicKey, .ok () =>
          ({ node with
              resolver := node.resolver.subscribed (Name.topic peer) publicKey
              gauge := node.resolver.subscriptions.size + 1
              log := node.log ++ requests peer fetched joined },
            .error (.notFound (Name.topic peer))) := by
  simp only [resolve, GossipResolver.resolveOnce, GossipResolver.lookup, located,
    GossipResolver.lookupPeer_unsubscribed absent]
  cases fetched with
  | error fault => rfl
  | ok publicKey =>
    cases joined with
    | error reason =>
      rw [requests, List.append_cons]
      rfl
    | ok _ =>
      rw [requests, List.append_cons]
      rfl

theorem cancel_found (parsed : Name.parse name = .ok peer)
    (subscribed : node.resolver.subscriptions.contains (Name.topic peer) = true) :
    node.cancel name
      = ({ node with
            resolver := { node.resolver with
              subscriptions := node.resolver.subscriptions.erase (Name.topic peer) }
            gauge := (node.resolver.subscriptions.erase (Name.topic peer)).size
            log := node.log ++ [.cancelled name true] }, true) := by
  have erased : node.resolver.cancel name
      = ({ node.resolver with
          subscriptions := node.resolver.subscriptions.erase (Name.topic peer) }, true) := by
    unfold GossipResolver.cancel
    split
    · rename_i other
      rw [parsed] at other
      cases other
    · rename_i other same
      rw [parsed] at same
      cases same
      exact if_pos subscribed
  simp only [cancel, GossipResolver.unsubscribe, erased]
  rfl

theorem cancel_missing (missing : ∀ peer, Name.parse name = .ok peer →
      node.resolver.subscriptions.contains (Name.topic peer) = false) :
    node.cancel name = ({ node with log := node.log ++ [.cancelled name false] }, false) := by
  have same : node.resolver.cancel name = (node.resolver, false) := by
    unfold GossipResolver.cancel
    split
    · rfl
    · rename_i peer parsed
      exact if_neg (ne_true_of_eq_false (missing peer parsed))
  simp only [cancel, GossipResolver.unsubscribe, same]
  rfl

/-- Either there is a subscription to end, or there is none. -/
theorem cancel_cases (node : Subscribing) (name : String) :
    (∃ peer, Name.parse name = .ok peer
        ∧ node.resolver.subscriptions.contains (Name.topic peer) = true)
      ∨ ∀ peer, Name.parse name = .ok peer →
          node.resolver.subscriptions.contains (Name.topic peer) = false := by
  cases parsed : Name.parse name with
  | error error => exact .inr (by simp)
  | ok peer =>
    cases known : node.resolver.subscriptions.contains (Name.topic peer) with
    | true => exact .inl ⟨peer, rfl, known⟩
    | false =>
      refine .inr fun other same => ?_
      cases same
      exact known

end Calls

/-- A look-up that does not even find out that there is no record has changed nothing but what is
written down. -/
theorem resolve_failed {node : Subscribing} {name : String} {fetched : Except KeyFault PublicKey}
    {joined : Except String Unit} {error : NameError}
    (failed : (node.resolve name fetched joined).2 = .error error)
    (otherwise : ∀ topic, error ≠ .notFound topic) :
    ((node.resolve name fetched joined).1.resolver = node.resolver
        ∧ (node.resolve name fetched joined).1.gauge = node.gauge)
      ∧ ∀ peer, node.resolver.locate name = .ok peer →
          node.resolver.subscriptions.contains (Name.topic peer) = false := by
  cases located : node.resolver.locate name with
  | error refusal =>
    rw [resolve_refused fetched joined located]
    exact ⟨⟨rfl, rfl⟩, by simp⟩
  | ok peer =>
    cases known : node.resolver.subscriptions.contains (Name.topic peer) with
    | true =>
      rw [resolve_subscribed fetched joined located known] at failed
      exact absurd (GossipResolver.answer_error failed) (otherwise _)
    | false =>
      refine ⟨?_, by rintro other ⟨⟩; exact known⟩
      rw [resolve_unsubscribed fetched joined located known] at failed ⊢
      split
      · exact ⟨rfl, rfl⟩
      · exact ⟨rfl, rfl⟩
      · cases failed
        exact absurd rfl (otherwise _)

/-- The key is asked for anew, and the topic if the key is had. -/
theorem resolve_again {node : Subscribing} {name : String} {peer : PeerId}
    (located : node.resolver.locate name = .ok peer)
    (absent : node.resolver.subscriptions.contains (Name.topic peer) = false)
    (fetched : Except KeyFault PublicKey) (joined : Except String Unit) :
    (node.resolve name fetched joined).1.log = node.log ++ requests peer fetched joined
      ∧ (fetched.isOk = true → joined = .ok () →
        (node.resolve name fetched joined).1.resolver.subscriptions.contains (Name.topic peer)
          = true) := by
  rw [resolve_unsubscribed fetched joined located absent]
  split
  · exact ⟨rfl, by rintro ⟨⟩⟩
  · exact ⟨rfl, by rintro - ⟨⟩⟩
  · refine ⟨rfl, fun _ _ => ?_⟩
    simp [GossipResolver.subscribed, Table.contains, Table.get?_put]

theorem cancel_iff (node : Subscribing) (name : String) :
    (node.cancel name).2 = true ↔ ∃ peer, Name.parse name = .ok peer
      ∧ node.resolver.subscriptions.contains (Name.topic peer) = true := by
  rcases cancel_cases node name with ⟨peer, parsed, known⟩ | missing
  · rw [cancel_found parsed known]
    exact ⟨fun _ => ⟨peer, parsed, known⟩, fun _ => rfl⟩
  · rw [cancel_missing missing]
    refine ⟨by rintro ⟨⟩, ?_⟩
    rintro ⟨peer, parsed, known⟩
    rw [missing peer parsed] at known
    cases known

theorem cancel_false {node : Subscribing} {name : String}
    (missing : (node.cancel name).2 = false) :
    (node.cancel name).1.resolver = node.resolver ∧ (node.cancel name).1.gauge = node.gauge := by
  rcases cancel_cases node name with ⟨peer, parsed, known⟩ | unknown
  · rw [cancel_found parsed known] at missing
    cases missing
  · rw [cancel_missing unknown]
    exact ⟨rfl, rfl⟩

/-- The subscription of the name is gone, and no other. -/
theorem cancel_get? (node : Subscribing) {name : String} {peer : PeerId}
    (parsed : Name.parse name = .ok peer) (topic : String) :
    (node.cancel name).1.resolver.subscriptions.get? topic
      = if topic = Name.topic peer then none else node.resolver.subscriptions.get? topic := by
  rcases cancel_cases node name with ⟨other, same, known⟩ | missing
  · cases parsed.symm.trans same
    rw [cancel_found parsed known]
    exact Table.get?_erase ..
  · rw [cancel_missing missing]
    split
    · rename_i own
      subst own
      simpa [Table.contains] using missing peer parsed
    · rfl

section Moves

/-- All that can become of the subscriptions, and what is written down of it. -/
inductive Move (node later : Subscribing) : Prop where
  | stay {news : List Notice}
      (keys : later.resolver.subscriptions.keys = node.resolver.subscriptions.keys)
      (gauge : later.gauge = node.gauge) (log : later.log = node.log ++ news)
      (unbegun : ∀ topic, .subscribed topic (.ok ()) ∉ news)
      (unended : ∀ name, .cancelled name true ∉ news)
  | begin {peer : PeerId} {fetched : Except KeyFault PublicKey} {subscription : Subscription}
      (absent : Name.topic peer ∉ node.resolver.subscriptions.keys)
      (subscriptions : later.resolver.subscriptions
        = node.resolver.subscriptions.put (Name.topic peer) subscription)
      (gauge : later.gauge = node.resolver.subscriptions.size + 1)
      (log : later.log
        = node.log ++ [.fetched peer fetched, .subscribed (Name.topic peer) (.ok ())])
  | cease {name : String} {peer : PeerId} (parsed : Name.parse name = .ok peer)
      (known : Name.topic peer ∈ node.resolver.subscriptions.keys)
      (subscriptions : later.resolver.subscriptions
        = node.resolver.subscriptions.erase (Name.topic peer))
      (gauge : later.gauge = later.resolver.subscriptions.size)
      (log : later.log = node.log ++ [.cancelled name true])

variable {node later : Subscribing}

theorem move_resolve (node : Subscribing) (name : String) (fetched : Except KeyFault PublicKey)
    (joined : Except String Unit) : Move node (node.resolve name fetched joined).1 := by
  cases located : node.resolver.locate name with
  | error error =>
    rw [resolve_refused fetched joined located]
    exact .stay rfl rfl (List.append_nil _).symm (by simp) (by simp)
  | ok peer =>
    cases known : node.resolver.subscriptions.contains (Name.topic peer) with
    | true =>
      rw [resolve_subscribed fetched joined located known]
      exact .stay (GossipResolver.keys_answer ..) rfl (List.append_nil _).symm (by simp) (by simp)
    | false =>
      rw [resolve_unsubscribed fetched joined located known]
      split
      · exact .stay rfl rfl rfl (by simp [requests]) (by simp [requests])
      · exact .stay rfl rfl rfl (by simp [requests]) (by simp [requests])
      · refine .begin ?_ rfl rfl rfl
        rw [← Table.contains_iff, known]
        exact Bool.false_ne_true

theorem move_cancel (node : Subscribing) (name : String) : Move node (node.cancel name).1 := by
  rcases cancel_cases node name with ⟨peer, parsed, known⟩ | missing
  · rw [cancel_found parsed known]
    exact .cease parsed ((Table.contains_iff ..).mp known) rfl rfl rfl
  · rw [cancel_missing missing]
    exact .stay rfl rfl rfl (by simp) (by simp)

/-- A topic stands for one identity, whose subscriptions were made once more often than they were
ended as long as there is one. -/
structure Kept (node : Subscribing) : Prop where
  distinct : node.resolver.subscriptions.keys.Nodup
  topics : ∀ topic ∈ node.resolver.subscriptions.keys, ∃ peer, Name.topic peer = topic
  counted : ∀ peer, node.log.count (.subscribed (Name.topic peer) (.ok ()))
    = node.log.countP (·.ends peer)
      + if Name.topic peer ∈ node.resolver.subscriptions.keys then 1 else 0
  metered : node.resolver.subscriptions.keys ≠ [] →
    node.gauge = node.resolver.subscriptions.size

theorem Kept.start (now : Timestamp) (gauge : Nat) : Kept (start now gauge) where
  distinct := List.nodup_nil
  topics topic member := by cases member
  counted peer := rfl
  metered known := absurd rfl known

section Counts

variable {news : List Notice} {name : String} {peer other : PeerId}

theorem countP_ends_eq_zero (unended : ∀ name, .cancelled name true ∉ news) :
    news.countP (·.ends peer) = 0 := by
  rw [List.countP_eq_zero]
  intro notice member ends
  cases notice with
  | cancelled name found =>
    rw [Notice.ends, Bool.and_eq_true] at ends
    exact unended name (ends.1 ▸ member)
  | fetched | subscribed | refused | answered | received => cases ends

theorem ends_cancelled (parsed : Name.parse name = .ok peer) :
    (Notice.cancelled name true).ends other = decide (other = peer) := by
  rw [Notice.ends, parsed, Bool.true_and]
  exact decide_eq_decide.mpr (Option.some_inj.trans eq_comm)

/-- Whoever has subscribed to a topic has subscribed to the identity that it stands for. -/
theorem subscribed_beq (reply : Except String Unit) :
    (Notice.subscribed (Name.topic peer) reply == .subscribed (Name.topic other) reply)
      = decide (other = peer) := by
  rw [Bool.eq_iff_iff, beq_iff_eq, decide_eq_true_eq, Notice.subscribed.injEq]
  constructor
  · rintro ⟨same, -⟩
    exact (Name.topic_injective same).symm
  · rintro rfl
    exact ⟨rfl, rfl⟩

end Counts

/-- Nothing is subscribed to that was not before, and nothing is given up. -/
theorem Kept.stay (kept : Kept node) {news : List Notice}
    (keys : later.resolver.subscriptions.keys = node.resolver.subscriptions.keys)
    (gauge : later.gauge = node.gauge) (log : later.log = node.log ++ news)
    (unbegun : ∀ topic, .subscribed topic (.ok ()) ∉ news)
    (unended : ∀ name, .cancelled name true ∉ news) : Kept later where
  distinct := keys ▸ kept.distinct
  topics := keys ▸ kept.topics
  counted := by
    intro peer
    rw [log, keys, List.count_append, List.count_eq_zero.mpr (unbegun _), List.countP_append,
      countP_ends_eq_zero unended]
    exact kept.counted peer
  metered := by
    rw [← Table.length_keys, keys, Table.length_keys, gauge]
    exact kept.metered

theorem Kept.begin (kept : Kept node) {peer : PeerId} {fetched : Except KeyFault PublicKey}
    {subscription : Subscription}
    (absent : Name.topic peer ∉ node.resolver.subscriptions.keys)
    (subscriptions : later.resolver.subscriptions
      = node.resolver.subscriptions.put (Name.topic peer) subscription)
    (gauge : later.gauge = node.resolver.subscriptions.size + 1)
    (log : later.log
      = node.log ++ [.fetched peer fetched, .subscribed (Name.topic peer) (.ok ())]) :
    Kept later := by
  have keys : later.resolver.subscriptions.keys
      = node.resolver.subscriptions.keys ++ [Name.topic peer] := by
    rw [subscriptions, Table.keys_put, if_neg absent]
  constructor
  · rw [subscriptions]
    exact Table.nodup_keys_put kept.distinct _ _
  · intro topic member
    rw [keys, List.mem_append, List.mem_singleton] at member
    rcases member with before | rfl
    · exact kept.topics topic before
    · exact ⟨peer, rfl⟩
  · intro other
    rw [log, List.count_append, List.countP_append, keys, kept.counted other]
    simp only [List.count_cons, List.countP_cons, subscribed_beq, List.mem_append,
      List.mem_singleton]
    by_cases own : other = peer
    · subst own
      simp [absent, Notice.ends]
    · have apart : Name.topic other ≠ Name.topic peer := mt Name.topic_injective own
      simp [own, apart, Notice.ends]
  · intro _
    rw [gauge, ← Table.length_keys, ← Table.length_keys, keys]
    simp

theorem Kept.cease (kept : Kept node) {name : String} {peer : PeerId}
    (parsed : Name.parse name = .ok peer)
    (known : Name.topic peer ∈ node.resolver.subscriptions.keys)
    (subscriptions : later.resolver.subscriptions
      = node.resolver.subscriptions.erase (Name.topic peer))
    (gauge : later.gauge = later.resolver.subscriptions.size)
    (log : later.log = node.log ++ [.cancelled name true]) : Kept later where
  distinct := by
    rw [subscriptions]
    exact Table.nodup_keys_erase kept.distinct _
  topics := by
    intro topic member
    rw [subscriptions, Table.keys_erase] at member
    exact kept.topics topic (List.mem_filter.mp member).1
  counted := by
    intro other
    rw [log, List.count_append, List.countP_append, subscriptions, Table.keys_erase,
      kept.counted other]
    simp only [List.mem_filter, List.countP_singleton, ends_cancelled parsed]
    by_cases own : other = peer
    · subst own
      simp [known]
    · have apart : Name.topic other ≠ Name.topic peer := mt Name.topic_injective own
      simp [own, apart]
  metered _ := gauge

theorem Kept.move (kept : Kept node) (move : Move node later) : Kept later := by
  cases move with
  | stay keys gauge log unbegun unended => exact kept.stay keys gauge log unbegun unended
  | begin absent subscriptions gauge log => exact kept.begin absent subscriptions gauge log
  | cease parsed known subscriptions gauge log =>
    exact kept.cease parsed known subscriptions gauge log

/-- Whatever has become of the subscriptions, their number is reported by now. -/
theorem Kept.gauge (kept : Kept node) (move : Move node later)
    (changed : later.resolver.subscriptions ≠ node.resolver.subscriptions) :
    later.gauge = later.resolver.subscriptions.size := by
  -- Nothing is known of the gauge as long as there has been no subscription.
  by_cases nobody : later.resolver.subscriptions.keys = []
  · cases move with
    | stay keys =>
      have before : node.resolver.subscriptions.keys = [] := keys ▸ nobody
      refine absurd ?_ changed
      rw [Table.eq_empty_of_keys nobody, Table.eq_empty_of_keys before]
    | begin absent subscriptions =>
      rw [subscriptions, Table.keys_put, if_neg absent] at nobody
      simp at nobody
    | cease parsed known subscriptions gauge => exact gauge
  · exact (kept.move move).metered nobody

end Moves

section Runs

variable [SignatureScheme]

def step (node : Subscribing) : Event → Subscribing
  | .resolve name fetched joined => (node.resolve name fetched joined).1
  | .cancel name => (node.cancel name).1
  | .deliver topic message =>
    { node with resolver := (node.resolver.receive node.now topic message).1 }
  | .shutdown => { node with resolver := node.resolver.shutdown }
  | .setClock now => { node with now }

def run (node : Subscribing) (events : List Event) : Subscribing :=
  events.foldl step node

theorem move_step (node : Subscribing) (event : Event) : Move node (node.step event) := by
  cases event with
  | resolve name fetched joined => exact move_resolve node name fetched joined
  | cancel name => exact move_cancel node name
  | deliver topic message =>
    exact .stay (GossipResolver.keys_receive ..) rfl (List.append_nil _).symm (by simp) (by simp)
  | shutdown | setClock now =>
    exact .stay rfl rfl (List.append_nil _).symm (by simp) (by simp)

theorem Kept.run (now : Timestamp) (gauge : Nat) (events : List Event) :
    Kept ((Subscribing.start now gauge).run events) := by
  induction events using List.reverseRecOn with
  | nil => exact start now gauge
  | append_singleton events event ih =>
    rw [Subscribing.run, List.foldl_concat]
    exact ih.move (move_step _ event)

/-- Every topic with a subscription is that of one identity and is there once. An identity was
subscribed to as often as its subscriptions were ended, and once more if it has one. A look-up that
fails for another reason than that no record is known leaves subscriptions, records and gauge as they
are, and the next one under any name of the identity asks for the key and the topic anew. A
subscription can be ended just when there is one, which leaves the others alone. The topics are
listed once each and in order, and when something has become of the subscriptions, the gauge shows
how many there are. -/
theorem subscribed_once (now : Timestamp) (gauge : Nat) (events : List Event) :
    let node := (start now gauge).run events
    node.resolver.subscriptions.keys.Nodup
    ∧ (∀ topic ∈ node.resolver.subscriptions.keys, ∃! peer, Name.topic peer = topic)
    ∧ (∀ peer, node.log.count (.subscribed (Name.topic peer) (.ok ()))
        = node.log.countP (·.ends peer)
          + if node.resolver.subscriptions.contains (Name.topic peer) then 1 else 0)
    ∧ (∀ name fetched joined error, (node.resolve name fetched joined).2 = .error error →
        (∀ topic, error ≠ .notFound topic) →
        let later := (node.resolve name fetched joined).1
        later.resolver = node.resolver ∧ later.gauge = node.gauge
        ∧ ∀ peer other again rejoined, node.resolver.closed = false →
            Name.parse name = .ok peer → Name.parse other = .ok peer →
            (later.resolve other again rejoined).1.log = later.log ++ requests peer again rejoined
            ∧ (again.isOk = true → rejoined = .ok () →
                (later.resolve other again rejoined).1.resolver.subscriptions.contains
                  (Name.topic peer) = true))
    ∧ (∀ name, ((node.cancel name).2 = true ↔ ∃ peer, Name.parse name = .ok peer
          ∧ node.resolver.subscriptions.contains (Name.topic peer) = true)
        ∧ ((node.cancel name).2 = false → (node.cancel name).1.resolver = node.resolver
          ∧ (node.cancel name).1.gauge = node.gauge)
        ∧ ∀ peer, Name.parse name = .ok peer → ∀ topic,
          (node.cancel name).1.resolver.subscriptions.get? topic
            = if topic = Name.topic peer then none else node.resolver.subscriptions.get? topic)
    ∧ node.resolver.topics.Pairwise (· < ·)
    ∧ (∀ topic, topic ∈ node.resolver.topics
        ↔ node.resolver.subscriptions.contains topic = true)
    ∧ ∀ event, (node.step event).resolver.subscriptions ≠ node.resolver.subscriptions →
        (node.step event).gauge = (node.step event).resolver.subscriptions.size := by
  intro node
  have kept : Kept node := .run now gauge events
  refine ⟨kept.distinct, ?_, ?_, ?_, ?_, pairwise_lt_mergeSort kept.distinct, ?_, ?_⟩
  · intro topic member
    obtain ⟨peer, own⟩ := kept.topics topic member
    refine ⟨peer, own, ?_⟩
    intro other same
    exact Name.topic_injective (same.trans own.symm)
  · intro peer
    simp only [Table.contains_iff]
    exact kept.counted peer
  · intro name fetched joined error failed otherwise later
    obtain ⟨⟨same, gauge⟩, absent⟩ := resolve_failed failed otherwise
    refine ⟨same, gauge, ?_⟩
    intro peer other again rejoined opened parsed parsedOther
    have located (called : String) (names : Name.parse called = .ok peer) :
        node.resolver.locate called = .ok peer := by
      rw [GossipResolver.locate, opened, names]
      rfl
    apply resolve_again
    · rw [same]
      exact located other parsedOther
    · rw [same]
      exact absent peer (located name parsed)
  · intro name
    exact ⟨cancel_iff node name, cancel_false, fun peer parsed => cancel_get? node parsed⟩
  · intro topic
    rw [GossipResolver.mem_topics, Table.contains_iff]
  · intro event changed
    exact kept.gauge (move_step node event) changed

end Runs

namespace Sample

def peer : PeerId :=
  ⟨.identity, [3], by decide⟩

/-- The gauge shows something else before the first subscription. -/
def fresh : Subscribing :=
  start Resolving.Sample.early 5

theorem located {name : String} (parsed : Name.parse name = .ok peer) :
    fresh.resolver.locate name = .ok peer := by
  rw [GossipResolver.locate, parsed]
  rfl

/-- The name is subscribed to at once. -/
def first : Event :=
  .resolve (Name.topic peer) (.ok Resolving.Sample.publicKey) (.ok ())

/-- The name is subscribed to in its other form. -/
def again : Event :=
  .resolve peer.toString (.ok Resolving.Sample.publicKey) (.ok ())

theorem contains_first :
    (fresh.step first).resolver.subscriptions.contains (Name.topic peer) = true :=
  (resolve_again (located (Name.parse_topic peer)) rfl _ _).2 rfl rfl

end Sample

open Sample in
/-- A key that could not be had is asked for again under the other form of the name. -/
theorem subscribed_once_again :
    (let later := (fresh.resolve (Name.topic peer) (.error .notListed) (.ok ())).1;
      later.gauge = 5
      ∧ (later.step again).resolver.subscriptions.contains (Name.topic peer) = true)
    ∧ (fresh.run [first]).gauge = (fresh.run [first]).resolver.subscriptions.size
    ∧ ((fresh.run [first]).cancel peer.toString).2 = true := by
  obtain ⟨-, -, -, failing, -, -, -, gauge⟩ := subscribed_once Resolving.Sample.early 5 []
  obtain ⟨-, -, -, -, cancelling, -, -, -⟩ := subscribed_once Resolving.Sample.early 5 [first]
  refine ⟨?_, ?_, ?_⟩
  · have failed : (fresh.resolve (Name.topic peer) (.error .notListed) (.ok ())).2
        = .error (.publicKey peer .notListed) := by
      rw [resolve_unsubscribed _ _ (located (Name.parse_topic peer)) rfl]
    obtain ⟨-, same, next⟩ := failing _ _ _ _ failed (by simp)
    exact ⟨same, (next peer peer.toString _ _ rfl (Name.parse_topic peer)
      (Name.parse_toString peer)).2 rfl rfl⟩
  · apply gauge first
    intro same
    have known : fresh.resolver.subscriptions.contains (Name.topic peer) = true :=
      same ▸ contains_first
    cases known
  · exact (cancelling peer.toString).1.mpr
      ⟨peer, Name.parse_toString peer, contains_first⟩

end Subscribing

end GossipNames
