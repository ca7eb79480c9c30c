import Mathlib.Data.List.Basic
import Mathlib.Data.List.Induction
import GossipNames.Bytes
import GossipNames.Gossip.Fanout

/-! Receivers that come and go while messages come in. A topic is joined as long as receivers are
listed for it, and a receiver that stays is sent what comes in on its topic, once and in order. -/

namespace GossipNames

namespace Fanout

variable {fanout : Fanout} {topic : String} {receiver : Nat} {join : Except String Unit}

/-- The receivers that messages on the topic are for. -/
def listed (fanout : Fanout) (topic : String) : List Nat :=
  (fanout.receivers.get? topic).getD []

theorem subscribe_error {reason : String}
    (failed : (fanout.subscribe topic receiver join).2 = .error reason) :
    (fanout.subscribe topic receiver join).1 = fanout := by
  unfold subscribe at failed ⊢
  split
  · simp_all
  · split
    · rfl
    · simp_all

/-- A receiver is added to those of its topic. -/
theorem subscribe_ok (accepted : (fanout.subscribe topic receiver join).2 = .ok ()) :
    (fanout.subscribe topic receiver join).1.receivers
      = fanout.receivers.put topic (fanout.listed topic ++ [receiver]) := by
  unfold subscribe at accepted ⊢
  unfold listed
  split
  · rename_i receivers found
    simp [found]
  · rename_i absent
    split
    · simp_all
    · simp [absent]

theorem listed_subscribe (accepted : (fanout.subscribe topic receiver join).2 = .ok ())
    (other : String) :
    (fanout.subscribe topic receiver join).1.listed other
      = if other = topic then fanout.listed topic ++ [receiver] else fanout.listed other := by
  rw [listed, subscribe_ok accepted, Table.get?_put]
  split
  · rfl
  · rfl

/-- A topic that is not joined is joined for its first receiver, if that can be done. -/
theorem subscribe_absent (absent : fanout.receivers.get? topic = none) (receiver : Nat)
    (join : Except String Unit) :
    (fanout.subscribe topic receiver join).2
        = join.mapError (fun reason => "Subscribe failed for " ++ topic ++ ": " ++ reason)
      ∧ (join = .ok () → topic ∈ (fanout.subscribe topic receiver join).1.joined) := by
  cases join with
  | error reason =>
    rw [subscribe, absent]
    exact ⟨rfl, by simp⟩
  | ok _ =>
    rw [subscribe, absent]
    exact ⟨rfl, by simp⟩

variable {isOpen : Nat → Bool}

theorem pass_sent :
    (fanout.pass topic isOpen).2 = (fanout.listed topic).filter isOpen := by
  unfold pass listed
  split
  · rename_i absent
    simp [absent]
  · rename_i receivers found
    rw [found]
    dsimp only [Option.getD_some]
    split
    · rename_i gone
      exact (List.isEmpty_iff.mp gone).symm
    · rfl

theorem listed_pass (other : String) :
    (fanout.pass topic isOpen).1.listed other
      = if other = topic then (fanout.listed topic).filter isOpen else fanout.listed other := by
  by_cases own : other = topic
  · subst own
    rw [if_pos rfl]
    unfold pass
    split
    · rename_i absent
      simp [listed, absent]
    · rename_i receivers found
      dsimp only
      split
      · rename_i gone
        simp only [listed, found, Table.get?_erase, if_true, Option.getD_none, Option.getD_some]
        exact (List.isEmpty_iff.mp gone).symm
      · simp [listed, found, Table.get?_put]
  · rw [if_neg own]
    unfold pass
    split
    · rfl
    · dsimp only
      split
      · simp [listed, Table.get?_erase, own]
      · simp [listed, Table.get?_put, own]

/-- The topics that are joined are those that receivers are listed for. -/
structure Coupled (fanout : Fanout) : Prop where
  joined : ∀ topic, topic ∈ fanout.joined ↔ (fanout.receivers.get? topic).isSome = true
  filled : ∀ topic, fanout.receivers.get? topic ≠ some []

namespace Coupled

theorem empty : Coupled empty where
  joined topic := by simp [Fanout.empty]
  filled topic := by simp [Fanout.empty]

/-- A topic has receivers listed for it, and is joined if it was not before. -/
theorem put (coupled : Coupled fanout) {later : Fanout} {receivers : List Nat}
    (changed : later.receivers = fanout.receivers.put topic receivers) (nonempty : receivers ≠ [])
    (joined : ∀ other, other ∈ later.joined ↔ other = topic ∨ other ∈ fanout.joined) :
    Coupled later := by
  constructor
  · intro other
    rw [joined, changed, Table.get?_put, coupled.joined]
    by_cases own : other = topic
    · simp [own]
    · simp [own]
  · intro other
    rw [changed, Table.get?_put]
    split
    · simpa using nonempty
    · exact coupled.filled other

/-- The receivers of a topic that is joined are others. -/
theorem replace (coupled : Coupled fanout) {receivers : List Nat} (nonempty : receivers ≠ [])
    (known : (fanout.receivers.get? topic).isSome = true) :
    Coupled { fanout with receivers := fanout.receivers.put topic receivers } := by
  refine coupled.put rfl nonempty fun other => ⟨.inr, ?_⟩
  rintro (rfl | before)
  · exact (coupled.joined _).mpr known
  · exact before

theorem subscribe (coupled : Coupled fanout) (topic : String) (receiver : Nat)
    (join : Except String Unit) : Coupled (fanout.subscribe topic receiver join).1 := by
  unfold Fanout.subscribe
  split
  · rename_i receivers found
    exact coupled.replace (by simp) (by simp [found])
  · split
    · exact coupled
    · refine coupled.put rfl (by simp) fun other => ?_
      rw [List.mem_append, List.mem_filter, List.mem_singleton]
      by_cases own : other = topic
      · simp [own]
      · simp [own]

/-- The topic is left together with the last of its receivers. -/
theorem pass (coupled : Coupled fanout) (topic : String) (isOpen : Nat → Bool) :
    Coupled (fanout.pass topic isOpen).1 := by
  unfold Fanout.pass
  split
  · exact coupled
  · rename_i receivers found
    dsimp only
    split
    · constructor
      · intro other
        rw [List.mem_filter, coupled.joined, Table.get?_erase]
        by_cases own : other = topic
        · simp [own]
        · simp [own]
      · intro other
        rw [Table.get?_erase]
        split
        · simp
        · exact coupled.filled other
    · rename_i kept
      exact coupled.replace (by simpa using kept) (by simp [found])

/-- Nobody is there for the message any more. -/
theorem pass_left (coupled : Coupled fanout)
    (gone : ∀ receiver ∈ fanout.listed topic, isOpen receiver = false) :
    topic ∉ (fanout.pass topic isOpen).1.joined := by
  intro member
  have after := coupled.pass topic isOpen
  obtain ⟨receivers, found⟩ := Option.isSome_iff_exists.mp ((after.joined topic).mp member)
  have nobody : (fanout.pass topic isOpen).1.listed topic = [] := by
    rw [listed_pass, if_pos rfl, List.filter_eq_nil_iff]
    intro receiver listed
    simp [gone receiver listed]
  rw [listed, found] at nobody
  exact after.filled topic (nobody ▸ found)

end Coupled

end Fanout

/-- A node that passes messages on. Receivers are numbered in the order in which they ask. -/
structure Relaying where
  fanout : Fanout
  /-- The answers to those that asked. -/
  replies : List (Except String Unit)
  dropped : List Nat
  /-- What was sent, and to whom. -/
  sent : List (Nat × Bytes)

namespace Relaying

inductive Event where
  /-- Someone asks for the messages of a topic; `join` is what comes of joining it. -/
  | subscribe (topic : String) (join : Except String Unit)
  | message (topic : String) (data : Bytes)
  /-- A receiver is gone. It may be before its request is handled. -/
  | drop (receiver : Nat)

def start : Relaying where
  fanout := .empty
  replies := []
  dropped := []
  sent := []

def subscribe (node : Relaying) (topic : String) (join : Except String Unit) : Relaying :=
  let (fanout, reply) := node.fanout.subscribe topic node.replies.length join
  { node with fanout, replies := node.replies ++ [reply] }

def message (node : Relaying) (topic : String) (data : Bytes) : Relaying :=
  let (fanout, receivers) := node.fanout.pass topic fun receiver => receiver ∉ node.dropped
  { node with fanout, sent := node.sent ++ receivers.map fun receiver => (receiver, data) }

def step (node : Relaying) : Event → Relaying
  | .subscribe topic join => node.subscribe topic join
  | .message topic data => node.message topic data
  | .drop receiver => { node with dropped := node.dropped ++ [receiver] }

def run (node : Relaying) (events : List Event) : Relaying :=
  events.foldl step node

theorem run_append (node : Relaying) (first second : List Event) :
    node.run (first ++ second) = (node.run first).run second :=
  List.foldl_append

theorem run_cons (node : Relaying) (event : Event) (events : List Event) :
    node.run (event :: events) = (node.step event).run events :=
  rfl

theorem run_concat (node : Relaying) (events : List Event) (event : Event) :
    node.run (events ++ [event]) = (node.run events).step event :=
  List.foldl_concat ..

/-- What a receiver was sent. -/
def inbox (node : Relaying) (receiver : Nat) : List Bytes :=
  node.sent.filterMap fun (other, data) => if other = receiver then some data else none

/-- The messages among the events that came in on the topic. -/
def messagesOn (topic : String) (events : List Event) : List Bytes :=
  events.filterMap fun
    | .message other data => if other = topic then some data else none
    | _ => none

variable {node : Relaying} {receiver : Nat} {topic : String}

theorem sent_message (data : Bytes) :
    (node.message topic data).sent
      = node.sent ++ ((node.fanout.listed topic).filter (· ∉ node.dropped)).map (·, data) := by
  rw [← Fanout.pass_sent]
  rfl

/-- Nobody is listed or was sent anything before asking. -/
structure Numbered (node : Relaying) : Prop where
  coupled : node.fanout.Coupled
  listed : ∀ {topic receiver}, receiver ∈ node.fanout.listed topic → receiver < node.replies.length
  sent : ∀ {receiver data}, (receiver, data) ∈ node.sent → receiver < node.replies.length

namespace Numbered

theorem start : Numbered start where
  coupled := .empty
  listed member := by cases member
  sent member := by cases member

theorem step (numbered : Numbered node) (event : Event) : Numbered (node.step event) := by
  cases event with
  | drop receiver => exact ⟨numbered.coupled, numbered.listed, numbered.sent⟩
  | subscribe topic join =>
    have more : (node.step (.subscribe topic join)).replies.length = node.replies.length + 1 := by
      simp [Relaying.step, Relaying.subscribe]
    refine ⟨numbered.coupled.subscribe .., ?_, ?_⟩
    · intro other receiver member
      rw [more]
      change receiver ∈ (node.fanout.subscribe topic node.replies.length join).1.listed other
        at member
      cases reply : (node.fanout.subscribe topic node.replies.length join).2 with
      | error reason =>
        rw [Fanout.subscribe_error reply] at member
        exact Nat.lt_succ_of_lt (numbered.listed member)
      | ok _ =>
        rw [Fanout.listed_subscribe reply] at member
        split at member
        · rcases List.mem_append.mp member with before | new
          · exact Nat.lt_succ_of_lt (numbered.listed before)
          · rw [List.mem_singleton.mp new]
            exact Nat.lt_succ_self _
        · exact Nat.lt_succ_of_lt (numbered.listed member)
    · intro receiver data member
      rw [more]
      exact Nat.lt_succ_of_lt (numbered.sent member)
  | message topic data =>
    refine ⟨numbered.coupled.pass .., ?_, ?_⟩
    · intro other receiver member
      change receiver ∈ (node.fanout.pass topic _).1.listed other at member
      rw [Fanout.listed_pass] at member
      split at member
      · exact numbered.listed (List.mem_filter.mp member).1
      · exact numbered.listed member
    · intro receiver message member
      change (receiver, message) ∈ (node.message topic data).sent at member
      rw [sent_message] at member
      rcases List.mem_append.mp member with before | new
      · exact numbered.sent before
      · obtain ⟨other, passed, same⟩ := List.mem_map.mp new
        cases same
        exact numbered.listed (List.mem_filter.mp passed).1

theorem run (events : List Event) : Numbered (Relaying.start.run events) := by
  induction events using List.reverseRecOn with
  | nil => exact start
  | append_singleton events event ih =>
    rw [run_concat]
    exact ih.step event

end Numbered

/-- The receiver is listed for its topic, once, and for no other. -/
def Attends (node : Relaying) (receiver : Nat) (topic : String) : Prop :=
  ∀ other, (node.fanout.listed other).count receiver = if other = topic then 1 else 0

/-- A message is sent as often as the receiver is listed for it. -/
theorem inbox_message (here : receiver ∉ node.dropped) (topic : String) (data : Bytes) :
    (node.message topic data).inbox receiver
      = node.inbox receiver
        ++ List.replicate ((node.fanout.listed topic).count receiver) data := by
  have passed (receivers : List Nat) :
      (receivers.map fun other => (other, data)).filterMap
          (fun (other, data) => if other = receiver then some data else none)
        = List.replicate (receivers.count receiver) data := by
    induction receivers with
    | nil => rfl
    | cons other rest ih =>
      by_cases own : other = receiver
      · simp only [List.map_cons, own, List.filterMap_cons, if_true, ih, List.count_cons_self,
          List.replicate_succ]
      · simp only [List.map_cons, List.filterMap_cons, own, if_false, ih]
        rw [List.count_cons_of_ne own]
  rw [inbox, sent_message, List.filterMap_append, passed, List.count_filter (by simpa using here)]
  rfl

/-- A receiver that stays goes on being listed, and is sent what comes in on its topic. -/
theorem Attends.step (attends : node.Attends receiver topic) (asked : receiver < node.replies.length)
    (event : Event) (here : receiver ∉ (node.step event).dropped) :
    (node.step event).Attends receiver topic
      ∧ (node.step event).inbox receiver = node.inbox receiver ++ messagesOn topic [event] := by
  cases event with
  | drop other => exact ⟨attends, (List.append_nil _).symm⟩
  | subscribe other join =>
    refine ⟨?_, (List.append_nil _).symm⟩
    intro third
    change ((node.fanout.subscribe other node.replies.length join).1.listed third).count receiver = _
    cases reply : (node.fanout.subscribe other node.replies.length join).2 with
    | error reason =>
      rw [Fanout.subscribe_error reply]
      exact attends third
    | ok _ =>
      rw [Fanout.listed_subscribe reply]
      split
      · rename_i same
        have unlike : node.replies.length ≠ receiver := Nat.ne_of_gt asked
        rw [List.count_append, List.count_singleton, beq_false_of_ne unlike, same]
        exact attends other
      · exact attends third
  | message other data =>
    replace here : receiver ∉ node.dropped := here
    constructor
    · intro third
      change ((node.fanout.pass other _).1.listed third).count receiver = _
      rw [Fanout.listed_pass]
      split
      · rename_i same
        rw [List.count_filter (by simpa using here), same]
        exact attends other
      · exact attends third
    · change (node.message other data).inbox receiver = _
      rw [inbox_message here, attends other]
      by_cases own : other = topic
      · simp [messagesOn, own]
      · simp [messagesOn, own]

theorem dropped_step (event : Event) : node.dropped ⊆ (node.step event).dropped := by
  cases event with
  | drop receiver => exact List.subset_append_left _ _
  | subscribe | message => exact List.Subset.refl _

theorem replies_step (event : Event) : node.replies <+: (node.step event).replies := by
  cases event with
  | subscribe topic join => exact List.prefix_append _ _
  | message | drop => exact List.prefix_rfl

theorem replies_run (node : Relaying) (events : List Event) :
    node.replies <+: (node.run events).replies := by
  induction events using List.reverseRecOn with
  | nil => exact List.prefix_rfl
  | append_singleton events event ih =>
    rw [run_concat]
    exact ih.trans (replies_step event)

theorem Attends.run (attends : node.Attends receiver topic) (asked : receiver < node.replies.length)
    (events : List Event) (here : receiver ∉ (node.run events).dropped) :
    (node.run events).Attends receiver topic
      ∧ (node.run events).inbox receiver = node.inbox receiver ++ messagesOn topic events := by
  induction events using List.reverseRecOn with
  | nil => exact ⟨attends, (List.append_nil _).symm⟩
  | append_singleton events event ih =>
    rw [run_concat] at here ⊢
    obtain ⟨before, inbox⟩ := ih fun gone => here (dropped_step event gone)
    have known := Nat.lt_of_lt_of_le asked (replies_run node events).length_le
    obtain ⟨after, more⟩ := before.step known event here
    refine ⟨after, ?_⟩
    rw [more, inbox, messagesOn, messagesOn, messagesOn, List.filterMap_append, List.append_assoc]

/-- A receiver that is accepted has been sent nothing yet, and is listed from then on. -/
theorem Numbered.accepted (numbered : Numbered node) {join : Except String Unit}
    (accepted : (node.step (.subscribe topic join)).replies[node.replies.length]? = some (.ok ())) :
    (node.step (.subscribe topic join)).Attends node.replies.length topic
      ∧ (node.step (.subscribe topic join)).inbox node.replies.length = [] := by
  have reply : (node.fanout.subscribe topic node.replies.length join).2 = .ok () := by
    simpa [Relaying.step, subscribe] using accepted
  have unlisted (other : String) : (node.fanout.listed other).count node.replies.length = 0 := by
    apply List.count_eq_zero.mpr
    intro member
    exact Nat.lt_irrefl _ (numbered.listed member)
  constructor
  · intro other
    change ((node.fanout.subscribe topic node.replies.length join).1.listed other).count _ = _
    rw [Fanout.listed_subscribe reply]
    split
    · rw [List.count_append, unlisted, List.count_singleton_self]
    · exact unlisted other
  · apply List.filterMap_eq_nil_iff.mpr
    rintro ⟨other, data⟩ member
    have unlike : other ≠ node.replies.length := Nat.ne_of_lt (numbered.sent member)
    exact if_neg unlike

/-- Whoever is accepted and stays is sent what comes in on the topic after the request. -/
theorem Numbered.inbox_accepted (numbered : Numbered node) {join : Except String Unit}
    {events : List Event}
    (accepted : (node.run (.subscribe topic join :: events)).replies[node.replies.length]?
      = some (.ok ()))
    (here : node.replies.length ∉ (node.run (.subscribe topic join :: events)).dropped) :
    (node.run (.subscribe topic join :: events)).inbox node.replies.length
      = messagesOn topic events := by
  rw [run_cons] at accepted here ⊢
  have asked : node.replies.length < (node.step (.subscribe topic join)).replies.length := by
    simp [Relaying.step, subscribe]
  have reply : (node.step (.subscribe topic join)).replies[node.replies.length]?
      = some (.ok ()) := by
    have stays := List.prefix_iff_getElem?.mp (replies_run _ events) node.replies.length asked
    rw [List.getElem?_eq_getElem asked, ← stays, accepted]
  obtain ⟨attends, unsent⟩ := numbered.accepted reply
  rw [(attends.run asked events here).2, unsent, List.nil_append]

/-- In every state that a node can get into: the topics it has joined are those with receivers, and
none has an empty list of them; a receiver that was accepted and is not gone has been sent the messages
that came in on its topic after its request, all of them, in order and once each, and nothing else; a
request that fails changes nothing; and a topic is left when a message finds all its receivers gone,
after which the next request joins it again, or fails as joining does. -/
theorem inbox_eq_messagesOn (events : List Event) :
    let node := start.run events
    (∀ topic, topic ∈ node.fanout.joined ↔ (node.fanout.receivers.get? topic).isSome = true)
    ∧ (∀ topic, node.fanout.receivers.get? topic ≠ some [])
    ∧ (∀ before topic join after, events = before ++ .subscribe topic join :: after →
        let receiver := (start.run before).replies.length
        node.replies[receiver]? = some (.ok ()) → receiver ∉ node.dropped →
        node.inbox receiver = messagesOn topic after)
    ∧ (∀ topic join reason,
        (node.step (.subscribe topic join)).replies = node.replies ++ [.error reason] →
        (node.step (.subscribe topic join)).fanout = node.fanout
          ∧ (node.step (.subscribe topic join)).sent = node.sent)
    ∧ (∀ topic data, (∀ receiver ∈ node.fanout.listed topic, receiver ∈ node.dropped) →
        topic ∉ (node.step (.message topic data)).fanout.joined)
    ∧ ∀ topic join, topic ∉ node.fanout.joined →
        (node.step (.subscribe topic join)).replies = node.replies
            ++ [join.mapError fun reason => "Subscribe failed for " ++ topic ++ ": " ++ reason]
          ∧ (join = .ok () → topic ∈ (node.step (.subscribe topic join)).fanout.joined) := by
  have numbered := Numbered.run events
  refine ⟨numbered.coupled.joined, numbered.coupled.filled, ?_, ?_, ?_, ?_⟩
  · rintro before topic join after rfl receiver accepted here
    rw [run_append] at accepted here ⊢
    exact (Numbered.run before).inbox_accepted accepted here
  · intro topic join reason failed
    have reply := List.singleton_inj.mp (List.append_cancel_left failed)
    exact ⟨Fanout.subscribe_error reply, rfl⟩
  · intro topic data gone
    apply numbered.coupled.pass_left
    intro receiver listed
    simpa using gone receiver listed
  · intro topic join left
    have absent : (start.run events).fanout.receivers.get? topic = none := by
      simpa using mt (numbered.coupled.joined topic).mpr left
    obtain ⟨reply, joined⟩ :=
      Fanout.subscribe_absent absent (start.run events).replies.length join
    refine ⟨?_, joined⟩
    change _ ++ [((start.run events).fanout.subscribe topic _ join).2] = _
    rw [reply]

namespace Sample

/-- Two receivers of one topic, and one whose topic cannot be joined. -/
def arrivals : List Event := [
  .subscribe "a" (.ok ()), .subscribe "a" (.error "unused"), .subscribe "b" (.error "refused")]

/-- The receivers go one after the other. -/
def departures : List Event := [.message "a" [1], .drop 0, .message "a" [2], .drop 1]

/-- The topic is given up, and asked for again. -/
def revival : List Event := [
  .message "a" [3], .subscribe "a" (.ok ()), .message "b" [4], .message "a" [5]]

end Sample

open Sample in
theorem inbox_eq_messagesOn_revived :
    (start.run (arrivals ++ [.message "a" [1], .drop 0, .message "a" [2]])).inbox 1 = [[1], [2]]
    ∧ "a" ∉ ((start.run (arrivals ++ departures)).step (.message "a" [3])).fanout.joined
    ∧ (start.run (arrivals ++ departures ++ revival)).inbox 3 = [[5]]
    ∧ ((start.run arrivals).step (.subscribe "b" (.error "no"))).fanout
        = (start.run arrivals).fanout := by
  refine ⟨?_, ?_, ?_, ?_⟩
  · exact (inbox_eq_messagesOn (arrivals ++ [.message "a" [1], .drop 0, .message "a" [2]])).2.2.1
      [.subscribe "a" (.ok ())] "a" (.error "unused") _ rfl rfl (by decide)
  · exact (inbox_eq_messagesOn (arrivals ++ departures)).2.2.2.2.1 "a" [3] (by decide)
  · exact (inbox_eq_messagesOn (arrivals ++ departures ++ revival)).2.2.1
      (arrivals ++ departures ++ [.message "a" [3]]) "a" (.ok ()) _ rfl rfl (by decide)
  · exact ((inbox_eq_messagesOn arrivals).2.2.2.1 "b" (.error "no") _ rfl).1

end Relaying

end GossipNames
