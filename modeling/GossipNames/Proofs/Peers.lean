import Mathlib.Data.List.Basic
import Mathlib.Data.List.Dedup
import Mathlib.Data.List.Induction
import GossipNames.Network.Peers
import GossipNames.Proofs.Table

/-! Connections that come and go while they are asked for. The table of peers follows the connections
there are, and every request is answered once. -/

namespace GossipNames

namespace Peers

variable {peers : Peers} {peer : PeerId} {live : List PeerId}

/-- The table of peers says what connections there are, and only peers that are being dialed have
requests waiting. -/
structure Mirrors (peers : Peers) (live : List PeerId) : Prop where
  distinct : peers.states.keys.Nodup
  connected : ∀ peer, peers.states.get? peer = some .connected ↔ peer ∈ live
  dialing : ∀ {peer requests}, peers.waiting.get? peer = some requests →
    peers.states.get? peer = some .connecting
  counted : peers.states ≠ .empty →
    peers.count = connectedCount peers.states
      ∧ ∀ shown, peers.gauge = some shown → shown = connectedCount peers.states

namespace Mirrors

theorem empty (count : Nat) (gauge : Option Nat) : Mirrors (empty count gauge) [] where
  distinct := List.nodup_nil
  connected peer := by simp [Peers.empty]
  dialing waits := by cases waits
  counted changed := absurd rfl changed

/-- A peer with requests waiting is neither connected nor idle. -/
theorem waiting_none (mirrors : Mirrors peers live)
    (known : peers.states.get? peer ≠ some .connecting) : peers.waiting.get? peer = none := by
  cases waits : peers.waiting.get? peer with
  | none => rfl
  | some requests => exact absurd (mirrors.dialing waits) known

theorem pending_nil (mirrors : Mirrors peers live)
    (known : peers.states.get? peer ≠ some .connecting) : peers.pending peer = [] := by
  rw [pending, mirrors.waiting_none known]
  rfl

theorem not_connecting_of_live (mirrors : Mirrors peers live) (linked : peer ∈ live) :
    peers.states.get? peer ≠ some .connecting := by
  rw [(mirrors.connected peer).mpr linked]
  simp

theorem not_connecting_of_idle (idle : peers.isIdle peer = true) :
    peers.states.get? peer ≠ some .connecting := by
  intro dialed
  simp [isIdle, dialed] at idle

theorem idle_not_live (mirrors : Mirrors peers live) (idle : peers.isIdle peer = true) :
    peer ∉ live := by
  intro linked
  simp [isIdle, (mirrors.connected peer).mpr linked] at idle

/-- The peer is in another state, as the connections have it. Its requests are answered unless it is
being dialed. -/
theorem setState (mirrors : Mirrors peers live) {state : ConnectionState} {after : List PeerId}
    (own : peer ∈ after ↔ state = .connected)
    (others : ∀ other, other ≠ peer → (other ∈ after ↔ other ∈ live))
    (waiting : state = .connecting ∨ peers.waiting.get? peer = none) :
    Mirrors (peers.setState peer state) after where
  distinct := Table.nodup_keys_put mirrors.distinct peer state
  connected := by
    intro other
    simp only [Peers.setState, Table.get?_put]
    by_cases same : other = peer
    · subst same
      simp [own]
    · rw [if_neg same, others other same]
      exact mirrors.connected other
  dialing := by
    intro other requests waits
    replace waits : peers.waiting.get? other = some requests := waits
    simp only [Peers.setState, Table.get?_put]
    by_cases same : other = peer
    · subst same
      rcases waiting with rfl | nobody
      · exact if_pos rfl
      · rw [nobody] at waits
        cases waits
    · rw [if_neg same]
      exact mirrors.dialing waits
  counted _ := by
    refine ⟨rfl, ?_⟩
    intro shown same
    obtain ⟨_, -, rfl⟩ := Option.map_eq_some_iff.mp same
    rfl

theorem erase (mirrors : Mirrors peers live) (peer : PeerId) :
    Mirrors { peers with waiting := peers.waiting.erase peer } live where
  distinct := mirrors.distinct
  connected := mirrors.connected
  dialing := by
    intro other requests waits
    simp only [Table.get?_erase] at waits
    split at waits
    · cases waits
    · exact mirrors.dialing waits
  counted := mirrors.counted

theorem wait (mirrors : Mirrors peers live) (requests : List Nat)
    (dialed : peers.states.get? peer = some .connecting) :
    Mirrors { peers with waiting := peers.waiting.put peer requests } live where
  distinct := mirrors.distinct
  connected := mirrors.connected
  dialing := by
    intro other others waits
    simp only [Table.get?_put] at waits
    split at waits
    · rename_i same
      rw [same]
      exact dialed
    · exact mirrors.dialing waits
  counted := mirrors.counted

theorem connect (mirrors : Mirrors peers live) (request : Nat) (dial : Except String Unit) :
    Mirrors (peers.connect peer request (peer ∈ live) dial).1 live := by
  unfold Peers.connect
  split
  · exact mirrors
  · rename_i apart
    replace apart : peer ∉ live := by simpa using apart
    split
    · rename_i requests waits
      exact mirrors.wait _ (mirrors.dialing waits)
    · split
      · exact mirrors
      · refine wait (mirrors.setState ?_ (fun _ _ => Iff.rfl) (.inl rfl)) _ ?_
        · simp [apart]
        · simp [Peers.setState, Table.get?_put]

theorem established (mirrors : Mirrors peers live) (peer : PeerId) :
    Mirrors (peers.established peer).1 (peer :: live) := by
  refine setState (mirrors.erase peer) (by simp) ?_ (.inr ?_)
  · intro other unlike
    simp [unlike]
  · simp [Table.get?_erase]

theorem closed (mirrors : Mirrors peers live) (linked : peer ∈ live) :
    Mirrors (peers.closed peer ((live.erase peer).count peer)) (live.erase peer) := by
  have others (other : PeerId) (unlike : other ≠ peer) : other ∈ live.erase peer ↔ other ∈ live :=
    List.mem_erase_of_ne unlike
  unfold Peers.closed
  split
  · rename_i gone
    have apart : peer ∉ live.erase peer := List.count_eq_zero.mp gone
    refine mirrors.setState (by simp [apart]) others (.inr ?_)
    exact mirrors.waiting_none (mirrors.not_connecting_of_live linked)
  · rename_i remain
    -- Another connection to the peer is left, so the same peers are connected as before.
    have same : ∀ other, other ∈ live.erase peer ↔ other ∈ live := by
      intro other
      by_cases own : other = peer
      · subst own
        have stays : other ∈ live.erase other := by
          rw [← List.count_pos_iff]
          omega
        simp [stays, linked]
      · exact others other own
    exact ⟨mirrors.distinct, fun other => (mirrors.connected other).trans (same other).symm,
      mirrors.dialing, mirrors.counted⟩

theorem dialFailed (mirrors : Mirrors peers live) (peer? : Option PeerId) (reason : String) :
    Mirrors (peers.dialFailed peer? (peer?.any (· ∈ live)) reason).1 live := by
  cases peer? with
  | none => exact mirrors
  | some peer =>
    rw [Option.any_some]
    -- The peer may have connected to this node while it was being dialed.
    by_cases linked : peer ∈ live
    · rw [decide_eq_true linked]
      exact mirrors.erase peer
    · rw [decide_eq_false linked]
      refine setState (mirrors.erase peer) (by simp [linked]) (fun _ _ => Iff.rfl) (.inr ?_)
      simp [Table.get?_erase]

theorem dialBootnode (mirrors : Mirrors peers live) (localPeer : PeerId) (address : Address)
    (dials : Bool) : Mirrors (peers.dialBootnode localPeer address dials) live := by
  unfold Peers.dialBootnode
  split
  · exact mirrors
  · split
    · rename_i peer _ dialed
      have apart := mirrors.idle_not_live dialed.2.1
      exact mirrors.setState (by simp [apart]) (fun _ _ => Iff.rfl) (.inl rfl)
    · exact mirrors

theorem dialBootnodes (mirrors : Mirrors peers live) (localPeer : PeerId)
    (bootnodes : List (Address × Bool)) : Mirrors (peers.dialBootnodes localPeer bootnodes) live := by
  induction bootnodes generalizing peers with
  | nil => exact mirrors
  | cons bootnode rest ih =>
    obtain ⟨address, dials⟩ := bootnode
    exact ih (mirrors.dialBootnode localPeer address dials)

/-- As many peers are connected as there are at the ends of connections. -/
theorem connectedCount_eq (mirrors : Mirrors peers live) :
    connectedCount peers.states = live.dedup.length := by
  let connected := peers.states.entries.filter fun entry => entry.2 = .connected
  have distinct : (connected.map (·.1)).Nodup :=
    mirrors.distinct.sublist (List.filter_sublist.map _)
  have members (peer : PeerId) : peer ∈ connected.map (·.1) ↔ peer ∈ live.dedup := by
    rw [List.mem_dedup, ← mirrors.connected, Table.get?_eq_some_iff mirrors.distinct, List.mem_map]
    constructor
    · rintro ⟨⟨other, state⟩, member, rfl⟩
      obtain ⟨member, known⟩ := List.mem_filter.mp member
      rw [← of_decide_eq_true known]
      exact member
    · intro member
      exact ⟨(peer, .connected), List.mem_filter.mpr ⟨member, rfl⟩, rfl⟩
  rw [← ((List.perm_ext_iff_of_nodup distinct (List.nodup_dedup live)).mpr members).length_eq,
    List.length_map]
  rfl

end Mirrors

/-- Every request waits for its peer until it is answered, and is not answered again. Requests have
their places among all that were made for numbers. -/
structure Booked (peers : Peers) (asked : List PeerId) (replies : List ConnectReply) : Prop where
  pending : ∀ peer request, request ∈ peers.pending peer ↔
    asked[request]? = some peer ∧ request ∉ replies.map (·.request)
  apart : ∀ peer, (peers.pending peer).Nodup
  once : (replies.map (·.request)).Nodup
  made : ∀ request ∈ replies.map (·.request), request < asked.length

namespace Booked

variable {asked : List PeerId} {replies : List ConnectReply}

theorem getElem?_concat {request : Nat} {other : PeerId} :
    (asked ++ [peer])[request]? = some other ↔
      asked[request]? = some other ∨ request = asked.length ∧ peer = other := by
  rcases Nat.lt_trichotomy request asked.length with before | same | beyond
  · rw [List.getElem?_append_left before]
    simp [Nat.ne_of_lt before]
  · simp [same]
  · rw [List.getElem?_eq_none (by simp; omega), List.getElem?_eq_none (Nat.le_of_lt beyond)]
    simp [Nat.ne_of_gt beyond]

theorem empty (count : Nat) (gauge : Option Nat) : Booked (empty count gauge) [] [] where
  pending peer request := by simp [Peers.pending, Peers.empty]
  apart peer := List.nodup_nil
  once := List.nodup_nil
  made request member := by cases member

/-- Who waits stays as it is. -/
theorem congr (booked : Booked peers asked replies) {later : Peers}
    (same : later.waiting = peers.waiting) : Booked later asked replies := by
  have pending (peer : PeerId) : later.pending peer = peers.pending peer := by
    rw [Peers.pending, same, Peers.pending]
  refine ⟨?_, ?_, booked.once, booked.made⟩
  · intro peer request
    rw [pending]
    exact booked.pending peer request
  · intro peer
    rw [pending]
    exact booked.apart peer

theorem not_made (booked : Booked peers asked replies) :
    asked.length ∉ replies.map (·.request) := fun member =>
  Nat.lt_irrefl _ (booked.made _ member)

/-- A new request is answered at once. -/
theorem answerNew (booked : Booked peers asked replies) (peer : PeerId)
    (result : Except String Unit) :
    Booked peers (asked ++ [peer]) (replies ++ [{ request := asked.length, result }]) where
  pending := by
    intro other request
    rw [booked.pending, getElem?_concat, List.map_append, List.mem_append]
    constructor
    · rintro ⟨made, unanswered⟩
      obtain ⟨before, -⟩ := List.getElem?_eq_some_iff.mp made
      exact ⟨.inl made, by simp [unanswered, Nat.ne_of_lt before]⟩
    · rintro ⟨made | ⟨rfl, rfl⟩, unanswered⟩
      · exact ⟨made, fun member => unanswered (.inl member)⟩
      · exact absurd (.inr (by simp)) unanswered
  apart := booked.apart
  once := by
    rw [List.map_append]
    refine List.nodup_append.mpr ⟨booked.once, by simp, ?_⟩
    intro request member other new same
    rw [List.map_singleton, List.mem_singleton] at new
    rw [same, new] at member
    exact booked.not_made member
  made := by
    intro request member
    rw [List.map_append, List.mem_append] at member
    rw [List.length_append, List.length_singleton]
    rcases member with before | new
    · exact Nat.lt_succ_of_lt (booked.made request before)
    · rw [List.map_singleton, List.mem_singleton] at new
      rw [new]
      exact Nat.lt_succ_self _

/-- A new request waits behind the others for its peer. -/
theorem wait (booked : Booked peers asked replies) (peer : PeerId) {later : Peers}
    (waiting : later.waiting = peers.waiting.put peer (peers.pending peer ++ [asked.length])) :
    Booked later (asked ++ [peer]) replies := by
  have pending (other : PeerId) : later.pending other
      = if other = peer then peers.pending peer ++ [asked.length] else peers.pending other := by
    rw [Peers.pending, waiting, Table.get?_put]
    split
    · rfl
    · rfl
  refine ⟨?_, ?_, booked.once, ?_⟩
  · intro other request
    rw [pending, getElem?_concat]
    by_cases own : other = peer
    · subst own
      rw [if_pos rfl, List.mem_append, List.mem_singleton, booked.pending]
      constructor
      · rintro (⟨made, unanswered⟩ | rfl)
        · exact ⟨.inl made, unanswered⟩
        · exact ⟨.inr ⟨rfl, rfl⟩, booked.not_made⟩
      · rintro ⟨made | ⟨rfl, -⟩, unanswered⟩
        · exact .inl ⟨made, unanswered⟩
        · exact .inr rfl
    · rw [if_neg own, booked.pending]
      simp [Ne.symm own]
  · intro other
    rw [pending]
    split
    · refine List.nodup_append.mpr ⟨booked.apart peer, by simp, ?_⟩
      intro request member last new same
      obtain ⟨made, -⟩ := (booked.pending peer request).mp member
      obtain ⟨before, -⟩ := List.getElem?_eq_some_iff.mp made
      rw [List.mem_singleton] at new
      omega
    · exact booked.apart other
  · intro request member
    rw [List.length_append]
    exact Nat.lt_add_right _ (booked.made request member)

theorem pending_answerWaiting (peers : Peers) (peer other : PeerId) (result : Except String Unit) :
    (peers.answerWaiting peer result).1.pending other
      = if other = peer then [] else peers.pending other := by
  rw [Peers.pending, answerWaiting, Table.get?_erase]
  split
  · rfl
  · rfl

/-- All requests that wait for the peer are answered. -/
theorem answerWaiting (booked : Booked peers asked replies) (peer : PeerId)
    (result : Except String Unit) :
    Booked (peers.answerWaiting peer result).1 asked
      (replies ++ (peers.answerWaiting peer result).2) := by
  have answered : (peers.answerWaiting peer result).2.map (·.request) = peers.pending peer := by
    rw [Peers.answerWaiting, List.map_map]
    exact List.map_id _
  refine ⟨?_, ?_, ?_, ?_⟩
  · intro other request
    rw [pending_answerWaiting, List.map_append, answered, List.mem_append, not_or]
    by_cases own : other = peer
    · subst own
      rw [if_pos rfl, booked.pending]
      simp only [List.not_mem_nil, false_iff]
      rintro ⟨made, unanswered, waits⟩
      exact waits ⟨made, unanswered⟩
    · rw [if_neg own, booked.pending]
      constructor
      · rintro ⟨made, unanswered⟩
        refine ⟨made, unanswered, ?_⟩
        intro waits
        obtain ⟨same, -⟩ := (booked.pending peer request).mp waits
        exact own (Option.some.inj (made.symm.trans same))
      · rintro ⟨made, unanswered, -⟩
        exact ⟨made, unanswered⟩
  · intro other
    rw [pending_answerWaiting]
    split
    · exact List.nodup_nil
    · exact booked.apart other
  · rw [List.map_append, answered]
    refine List.nodup_append.mpr ⟨booked.once, booked.apart peer, ?_⟩
    rintro request member _ waits rfl
    exact ((booked.pending peer request).mp waits).2 member
  · intro request member
    rw [List.map_append, answered, List.mem_append] at member
    rcases member with before | waits
    · exact booked.made request before
    · obtain ⟨made, -⟩ := (booked.pending peer request).mp waits
      exact (List.getElem?_eq_some_iff.mp made).1

/-- Those that are answered were asked for the peer. -/
theorem asked_answerWaiting (booked : Booked peers asked replies) {result : Except String Unit}
    {reply : ConnectReply} (member : reply ∈ (peers.answerWaiting peer result).2) :
    asked[reply.request]? = some peer ∧ reply.result = result := by
  obtain ⟨request, waits, rfl⟩ := List.mem_map.mp member
  exact ⟨((booked.pending peer request).mp waits).1, rfl⟩

theorem connect (booked : Booked peers asked replies) (peer : PeerId) (isConnected : Bool)
    (dial : Except String Unit) :
    Booked (peers.connect peer asked.length isConnected dial).1 (asked ++ [peer])
      (replies ++ (peers.connect peer asked.length isConnected dial).2) := by
  unfold Peers.connect
  split
  · exact booked.answerNew peer (.ok ())
  · split
    · rename_i requests waits
      rw [List.append_nil]
      apply booked.wait
      simp [Peers.pending, waits]
    · rename_i nobody
      split
      · exact booked.answerNew peer _
      · rw [List.append_nil]
        apply booked.wait
        simp [Peers.pending, nobody, Peers.setState]

/-- All requests for a peer that nobody waits for are answered. -/
theorem answered (booked : Booked peers asked replies) (nobody : peers.pending peer = [])
    {request : Nat} (made : asked[request]? = some peer) : request ∈ replies.map (·.request) := by
  apply Classical.byContradiction
  intro unanswered
  have waits := (booked.pending peer request).mpr ⟨made, unanswered⟩
  rw [nobody] at waits
  cases waits

end Booked

theorem waiting_dialBootnodes (localPeer : PeerId) (bootnodes : List (Address × Bool)) :
    (peers.dialBootnodes localPeer bootnodes).waiting = peers.waiting := by
  induction bootnodes generalizing peers with
  | nil => rfl
  | cons bootnode rest ih =>
    obtain ⟨address, dials⟩ := bootnode
    have own : (peers.dialBootnode localPeer address dials).waiting = peers.waiting := by
      unfold dialBootnode
      split
      · rfl
      · split
        · rfl
        · rfl
    exact ih.trans own

end Peers

/-- A node with its connections and the requests for them. -/
structure Connecting where
  peers : Peers
  /-- The other ends of the connections. -/
  live : List PeerId
  /-- Whom the requests were for, in the order in which they were made. -/
  asked : List PeerId
  replies : List ConnectReply

namespace Connecting

inductive Event where
  /-- A connection is asked for; `dial` is what dialing comes to at once. -/
  | connect (peer : PeerId) (dial : Except String Unit)
  | redial (bootnodes : List (Address × Bool))
  | established (peer : PeerId)
  /-- One of the connections to the peer, if there are any, is closed. -/
  | closed (peer : PeerId)
  | dialFailed (peer? : Option PeerId) (reason : String)

def start (count : Nat) (gauge : Option Nat) : Connecting where
  peers := .empty count gauge
  live := []
  asked := []
  replies := []

/-- What an event makes of the peers, and the replies it brings. -/
def handle (localPeer : PeerId) (node : Connecting) : Event → Peers × List ConnectReply
  | .connect peer dial => node.peers.connect peer node.asked.length (peer ∈ node.live) dial
  | .redial bootnodes => (node.peers.dialBootnodes localPeer bootnodes, [])
  | .established peer => node.peers.established peer
  | .closed peer =>
    if peer ∈ node.live then (node.peers.closed peer ((node.live.erase peer).count peer), [])
    else (node.peers, [])
  | .dialFailed peer? reason => node.peers.dialFailed peer? (peer?.any (· ∈ node.live)) reason

/-- What an event makes of the connections. -/
def Event.links (live : List PeerId) : Event → List PeerId
  | .established peer => peer :: live
  | .closed peer => live.erase peer
  | _ => live

/-- What an event makes of the requests. -/
def Event.asks (asked : List PeerId) : Event → List PeerId
  | .connect peer _ => asked ++ [peer]
  | _ => asked

def step (localPeer : PeerId) (node : Connecting) (event : Event) : Connecting where
  peers := (node.handle localPeer event).1
  live := event.links node.live
  asked := event.asks node.asked
  replies := node.replies ++ (node.handle localPeer event).2

def run (localPeer : PeerId) (node : Connecting) (events : List Event) : Connecting :=
  events.foldl (step localPeer) node

/-- With this event the peer is connected, or a dial of it fails. For a request a peer is dialed only
when nobody waits for it, and as a bootnode only when it is idle. -/
def Settles (node : Connecting) (peer : PeerId) : Event → Prop
  | .connect other dial => other = peer
      ∧ (peer ∈ node.live ∨ node.peers.waiting.get? peer = none ∧ ∃ reason, dial = .error reason)
  | .redial _ => node.peers.isIdle peer = true
  | .established other => other = peer
  | .closed _ => False
  | .dialFailed peer? _ => peer? = some peer

variable {localPeer : PeerId} {node : Connecting}

theorem mirrors_step (mirrors : node.peers.Mirrors node.live) (event : Event) :
    (node.step localPeer event).peers.Mirrors (node.step localPeer event).live := by
  cases event with
  | connect peer dial => exact mirrors.connect node.asked.length dial
  | redial bootnodes => exact mirrors.dialBootnodes localPeer bootnodes
  | established peer => exact mirrors.established peer
  | dialFailed peer? reason => exact mirrors.dialFailed peer? reason
  | closed peer =>
    by_cases linked : peer ∈ node.live
    · simpa [step, handle, Event.links, linked] using mirrors.closed linked
    · simpa [step, handle, Event.links, linked, List.erase_of_not_mem] using mirrors

theorem booked_step (booked : node.peers.Booked node.asked node.replies) (event : Event) :
    (node.step localPeer event).peers.Booked (node.step localPeer event).asked
      (node.step localPeer event).replies := by
  cases event with
  | connect peer dial => exact booked.connect peer _ dial
  | redial bootnodes =>
    simpa [step, handle, Event.asks] using
      booked.congr (Peers.waiting_dialBootnodes localPeer bootnodes)
  | established peer =>
    have linked : (node.peers.setState peer .connected).Booked node.asked node.replies :=
      booked.congr rfl
    exact linked.answerWaiting peer (.ok ())
  | dialFailed peer? reason =>
    cases peer? with
    | none => simpa [step, handle, Event.asks, Peers.dialFailed] using booked
    | some peer =>
      refine Peers.Booked.answerWaiting ?_ peer _
      split
      · exact booked
      · exact booked.congr rfl
  | closed peer =>
    have kept (remaining : Nat) : (node.peers.closed peer remaining).waiting = node.peers.waiting := by
      unfold Peers.closed
      split
      · rfl
      · rfl
    by_cases linked : peer ∈ node.live
    · simpa [step, handle, Event.asks, linked] using booked.congr (kept _)
    · simpa [step, handle, Event.asks, linked] using booked

/-- The table of peers is right, and so is what is known of the requests. -/
structure Sound (node : Connecting) : Prop where
  mirrors : node.peers.Mirrors node.live
  booked : node.peers.Booked node.asked node.replies

theorem Sound.run (count : Nat) (gauge : Option Nat) (events : List Event) :
    Sound ((start count gauge).run localPeer events) := by
  induction events using List.reverseRecOn with
  | nil => exact ⟨.empty count gauge, .empty count gauge⟩
  | append_singleton events event ih =>
    rw [Connecting.run, List.foldl_concat]
    exact ⟨mirrors_step ih.mirrors event, booked_step ih.booked event⟩

/-- A reply is for a request that was made, and good only when its peer is connected. -/
theorem Sound.reply (sound : Sound node) (event : Event) {reply : ConnectReply}
    (member : reply ∈ (node.handle localPeer event).2) :
    ∃ peer, (node.step localPeer event).asked[reply.request]? = some peer
      ∧ (reply.result = .ok () → peer ∈ (node.step localPeer event).live) := by
  cases event with
  | connect peer dial =>
    refine ⟨peer, ?_⟩
    simp only [handle, Peers.connect, decide_eq_true_eq] at member
    split at member
    · rename_i linked
      rw [List.mem_singleton.mp member]
      exact ⟨List.getElem?_concat_length, fun _ => linked⟩
    · split at member
      · cases member
      · split at member
        · rw [List.mem_singleton.mp member]
          exact ⟨List.getElem?_concat_length, by rintro ⟨⟩⟩
        · cases member
  | redial bootnodes => cases member
  | established peer =>
    obtain ⟨made, -⟩ := (sound.booked.congr rfl).asked_answerWaiting member
    exact ⟨peer, made, fun _ => List.mem_cons_self⟩
  | dialFailed peer? reason =>
    cases peer? with
    | none => cases member
    | some peer =>
      refine ⟨peer, ?_⟩
      have booked : (if peer ∈ node.live then node.peers
          else node.peers.setState peer .disconnected).Booked node.asked node.replies := by
        split
        · exact sound.booked
        · exact sound.booked.congr rfl
      simp only [handle, Peers.dialFailed, Option.any_some, decide_eq_true_eq] at member
      obtain ⟨made, result⟩ := booked.asked_answerWaiting member
      refine ⟨made, ?_⟩
      rw [result]
      rintro ⟨⟩
  | closed peer =>
    simp only [handle] at member
    split at member
    · cases member
    · cases member

/-- Nobody waits for a peer that is connected or that a dial has failed of. -/
theorem Sound.settled (sound : Sound node) {peer : PeerId} {event : Event}
    (settles : node.Settles peer event) : (node.step localPeer event).peers.pending peer = [] := by
  cases event with
  | connect other dial =>
    obtain ⟨rfl, linked | ⟨nobody, reason, rfl⟩⟩ := settles
    · simp only [step, handle, Peers.connect, linked, decide_true, if_true]
      exact sound.mirrors.pending_nil (sound.mirrors.not_connecting_of_live linked)
    · have unchanged : (node.step localPeer (.connect other (.error reason))).peers = node.peers := by
        simp only [step, handle, Peers.connect, nobody]
        split
        · rfl
        · rfl
      rw [unchanged, Peers.pending, nobody]
      rfl
  | redial bootnodes =>
    rw [Peers.pending, step, handle, Peers.waiting_dialBootnodes]
    exact sound.mirrors.pending_nil (Peers.Mirrors.not_connecting_of_idle settles)
  | established other =>
    rw [step, handle, Peers.established, Peers.Booked.pending_answerWaiting]
    exact if_pos (Eq.symm settles)
  | dialFailed peer? reason =>
    cases settles
    rw [step, handle, Peers.dialFailed, Peers.Booked.pending_answerWaiting]
    exact if_pos rfl
  | closed other => cases settles

/-- A peer is known to be connected just when there is a connection to it, and once a peer has
changed its state there are as many such peers as the count and the gauge say. Only for a peer
without a connection a request waits. No request is answered twice; a good reply means that its peer
is connected by now, and once a peer is connected or a dial of it has failed, everybody who asked
for it has been answered. -/
theorem connected_iff_live (localPeer : PeerId) (count : Nat) (gauge : Option Nat)
    (events : List Event) :
    let node := (start count gauge).run localPeer events
    (∀ peer, node.peers.states.get? peer = some .connected ↔ peer ∈ node.live)
    ∧ (node.peers.states ≠ .empty → node.peers.count = node.live.dedup.length
        ∧ ∀ shown, node.peers.gauge = some shown → shown = node.live.dedup.length)
    ∧ (∀ peer requests, node.peers.waiting.get? peer = some requests → peer ∉ node.live)
    ∧ (node.replies.map (·.request)).Nodup
    ∧ ∀ event, let later := node.step localPeer event
        (∀ reply ∈ (node.handle localPeer event).2, ∃ peer,
          later.asked[reply.request]? = some peer ∧ (reply.result = .ok () → peer ∈ later.live))
        ∧ ∀ peer, node.Settles peer event → ∀ request, later.asked[request]? = some peer →
            request ∈ later.replies.map (·.request) := by
  intro node
  have sound : Sound node := .run count gauge events
  refine ⟨sound.mirrors.connected, ?_, ?_, sound.booked.once, ?_⟩
  · rw [← sound.mirrors.connectedCount_eq]
    exact sound.mirrors.counted
  · intro peer requests waits linked
    exact sound.mirrors.not_connecting_of_live linked (sound.mirrors.dialing waits)
  · intro event later
    refine ⟨fun reply member => sound.reply event member, ?_⟩
    intro peer settles request made
    have booked : later.peers.Booked later.asked later.replies := booked_step sound.booked event
    exact booked.answered (sound.settled settles) made

namespace Sample

def self : PeerId :=
  ⟨.identity, [0], by decide⟩

def near : PeerId :=
  ⟨.identity, [1], by decide⟩

def far : PeerId :=
  ⟨.identity, [2], by decide⟩

/-- Two requests wait while a peer is dialed for the first of them. It is a bootnode too, which does
not have it dialed once more. -/
def dialing : List Event := [
  .connect near (.ok ()), .redial [([.peer near], true), ([.peer far], true), ([.peer self], true)],
  .connect near (.error "unused")]

/-- The peer is connected twice, and once no more. -/
def linked : List Event := dialing ++ [.established near, .established near, .closed near]

end Sample

open Sample in
theorem connected_iff_live_twice :
    ((start 7 (some 9)).run self linked).peers.states.get? near = some .connected
    ∧ ((start 7 (some 9)).run self linked).peers.count = 1
    ∧ near ∉ ((start 7 (some 9)).run self dialing).live
    ∧ 1 ∈ (((start 7 (some 9)).run self dialing).step self (.established near)).replies.map
        (·.request)
    ∧ near ∈ (((start 7 (some 9)).run self dialing).step self (.established near)).live := by
  obtain ⟨connected, counted, -, -, -⟩ := connected_iff_live self 7 (some 9) linked
  obtain ⟨-, -, waits, -, next⟩ := connected_iff_live self 7 (some 9) dialing
  refine ⟨(connected near).mpr (by decide), (counted (by decide)).1, waits near [0, 1] (by decide),
    ?_, ?_⟩
  · exact (next (.established near)).2 near rfl 1 (by decide)
  · obtain ⟨peer, made, good⟩ :=
      (next (.established near)).1 { request := 0, result := .ok () }
        (List.mem_map.mpr ⟨0, by decide, rfl⟩)
    cases made
    exact good rfl

end Connecting

end GossipNames
