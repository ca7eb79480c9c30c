import Mathlib.Data.List.Basic
import Mathlib.Data.List.Induction
import Mathlib.Data.List.Perm.Subperm
import GossipNames.Gossip.Bootstrap

/-! Bootstraps in which the search and the dials take their time. Whenever the search breaks off and
in whatever order the dials end, each provider that was taken is dialed once and each dial counts.
-/

namespace GossipNames

namespace Bootstrap

variable {bootstrap : Bootstrap} {localPeer peer : PeerId} {limit : Nat}

theorem discover_stopped (stopped : bootstrap.searching = false) :
    bootstrap.discover localPeer limit peer = bootstrap :=
  if_pos (.inl (by simp [stopped]))

theorem discover_own (own : peer = localPeer) :
    bootstrap.discover localPeer limit peer = bootstrap :=
  if_pos (.inr own)

theorem discover_full (searching : bootstrap.searching = true) (other : peer ≠ localPeer)
    (full : limit ≤ bootstrap.dialed.length) :
    bootstrap.discover localPeer limit peer = bootstrap.endSearch := by
  rw [discover, if_neg (by simp [searching, other]), if_pos full]
  rfl

theorem discover_room (searching : bootstrap.searching = true) (other : peer ≠ localPeer)
    (room : bootstrap.dialed.length < limit) :
    bootstrap.discover localPeer limit peer
      = { bootstrap with dialed := bootstrap.dialed ++ [peer] } := by
  rw [discover, if_neg (by simp [searching, other]), if_neg (Nat.not_le.mpr room)]

theorem discover_cases (bootstrap : Bootstrap) (localPeer : PeerId) (limit : Nat) (peer : PeerId) :
    bootstrap.discover localPeer limit peer = bootstrap
    ∨ bootstrap.discover localPeer limit peer = bootstrap.endSearch
    ∨ bootstrap.dialed.length < limit ∧ bootstrap.discover localPeer limit peer
      = { bootstrap with dialed := bootstrap.dialed ++ [peer] } := by
  unfold discover
  split
  · exact .inl rfl
  · split
    · exact .inr (.inl rfl)
    · rename_i room
      exact .inr (.inr ⟨Nat.lt_of_not_le room, rfl⟩)

/-- The end of a dial changes the counts only. -/
theorem kept_join (bootstrap : Bootstrap) (succeeded : Bool) :
    (bootstrap.join succeeded).dialed = bootstrap.dialed
      ∧ (bootstrap.join succeeded).searching = bootstrap.searching := by
  unfold join
  split
  · exact ⟨rfl, rfl⟩
  · exact ⟨rfl, rfl⟩

end Bootstrap

/-- How a search for providers ends. It may fail before it yields any. -/
inductive SearchEnd where
  | exhausted
  | failed
  | timedOut

/-- A bootstrap with its dials, which have the numbers of their places. -/
structure Bootstrapping where
  bootstrap : Bootstrap
  /-- The dials that have ended. -/
  ended : List Nat
  /-- The dials among them whose end was taken notice of. -/
  joined : List Nat

namespace Bootstrapping

inductive Event where
  | found (peer : PeerId)
  | searchEnd (how : SearchEnd)
  | dialEnd (dial : Nat)
  /-- Notice is taken of the end of a dial, which waits for the search. -/
  | join (dial : Nat)

def start (announced : Except String Unit) : Bootstrapping where
  bootstrap := .start announced.isOk
  ended := []
  joined := []

/-- The dials that are waited for once the search is over. -/
def waiting (node : Bootstrapping) : List Nat :=
  (List.range node.bootstrap.dialed.length).filter (· ∉ node.joined)

def isDone (node : Bootstrapping) : Bool :=
  !node.bootstrap.searching && node.waiting.isEmpty

variable (localPeer : PeerId) (limit : Nat) (outcome : Nat → DialEnd)

def dialEnd (node : Bootstrapping) (dial : Nat) : Bootstrapping :=
  if dial < node.bootstrap.dialed.length then { node with ended := dial :: node.ended } else node

def join (node : Bootstrapping) (dial : Nat) : Bootstrapping :=
  if !node.bootstrap.searching ∧ dial ∈ node.waiting ∧ dial ∈ node.ended then
    { node with
      bootstrap := node.bootstrap.join (outcome dial).succeeded
      joined := dial :: node.joined }
  else node

def step (node : Bootstrapping) : Event → Bootstrapping
  | .found peer => { node with bootstrap := node.bootstrap.discover localPeer limit peer }
  | .searchEnd _ => { node with bootstrap := node.bootstrap.endSearch }
  | .dialEnd dial => node.dialEnd dial
  | .join dial => node.join outcome dial

def run (node : Bootstrapping) (events : List Event) : Bootstrapping :=
  events.foldl (step localPeer limit outcome) node

/-- The providers that the search yields before its end. -/
def yielded : List Event → List PeerId
  | [] => []
  | .found peer :: rest => peer :: yielded rest
  | .searchEnd _ :: _ => []
  | _ :: rest => yielded rest

/-- Those that are dialed as long as there is room for them. -/
def wanted (events : List Event) : List PeerId :=
  (yielded events).filter (· ≠ localPeer)

variable {localPeer limit outcome} {node : Bootstrapping}

theorem run_cons (event : Event) (events : List Event) :
    node.run localPeer limit outcome (event :: events)
      = (node.step localPeer limit outcome event).run localPeer limit outcome events :=
  rfl

theorem run_append (first second : List Event) :
    node.run localPeer limit outcome (first ++ second)
      = (node.run localPeer limit outcome first).run localPeer limit outcome second :=
  List.foldl_append

theorem bootstrap_dialEnd (node : Bootstrapping) (dial : Nat) :
    (node.dialEnd dial).bootstrap = node.bootstrap := by
  unfold dialEnd
  split
  · rfl
  · rfl

theorem bootstrap_join (outcome : Nat → DialEnd) (node : Bootstrapping) (dial : Nat) :
    (node.join outcome dial).bootstrap.dialed = node.bootstrap.dialed
      ∧ (node.join outcome dial).bootstrap.searching = node.bootstrap.searching := by
  unfold join
  split
  · exact node.bootstrap.kept_join _
  · exact ⟨rfl, rfl⟩

/-- The peers that are dialed in the end, if there is room for those that were dialed so far. The
search goes on as long as it has neither ended nor found more than there is room for. -/
theorem search_run (node : Bootstrapping) (events : List Event)
    (within : node.bootstrap.dialed.length ≤ limit) :
    let later := node.run localPeer limit outcome events
    let all := node.bootstrap.dialed ++ wanted localPeer events
    later.bootstrap.dialed
        = (if node.bootstrap.searching then all.take limit else node.bootstrap.dialed)
      ∧ (later.bootstrap.searching = true ↔ node.bootstrap.searching = true
        ∧ (∀ how, .searchEnd how ∉ events) ∧ all.length ≤ limit) := by
  induction events generalizing node with
  | nil => simp [run, wanted, yielded, within, List.take_of_length_le]
  | cons event rest ih =>
    dsimp only
    rw [run_cons]
    cases event with
    | found peer =>
      have endless : (∀ how, .searchEnd how ∉ Event.found peer :: rest)
          ↔ ∀ how, .searchEnd how ∉ rest := by simp
      rw [step, endless]
      by_cases stopped : node.bootstrap.searching = false
      · rw [Bootstrap.discover_stopped stopped]
        simpa [stopped] using ih node within
      have searching : node.bootstrap.searching = true := eq_true_of_ne_false stopped
      by_cases own : peer = localPeer
      · have unwanted : wanted localPeer (.found peer :: rest) = wanted localPeer rest :=
          List.filter_cons_of_neg (by simp [own])
        rw [Bootstrap.discover_own own, unwanted]
        exact ih node within
      have wants : wanted localPeer (.found peer :: rest) = peer :: wanted localPeer rest :=
        List.filter_cons_of_pos (by simp [own])
      rw [wants]
      by_cases full : limit ≤ node.bootstrap.dialed.length
      · have later := ih { node with bootstrap := node.bootstrap.endSearch } within
        rw [Bootstrap.discover_full searching own full, List.take_append_of_le_length full,
          List.take_of_length_le within, ite_self]
        refine ⟨later.1, iff_of_false (fun goesOn => ?_) ?_⟩
        · exact Bool.false_ne_true (later.2.mp goesOn).1
        · rintro ⟨-, -, room⟩
          rw [List.length_append, List.length_cons] at room
          omega
      · rw [Nat.not_le] at full
        have room : (node.bootstrap.dialed ++ [peer]).length ≤ limit := by
          rwa [List.length_append]
        rw [Bootstrap.discover_room searching own full, if_pos searching,
          List.append_cons _ peer (wanted localPeer rest)]
        have later := ih { node with bootstrap.dialed := node.bootstrap.dialed ++ [peer] } room
        exact ⟨later.1.trans (if_pos searching), later.2⟩
    | searchEnd how =>
      have later := ih { node with bootstrap := node.bootstrap.endSearch } within
      rw [wanted, yielded, List.filter_nil, List.append_nil, List.take_of_length_le within,
        ite_self]
      refine ⟨later.1, iff_of_false (fun goesOn => ?_) ?_⟩
      · exact Bool.false_ne_true (later.2.mp goesOn).1
      · exact fun ⟨_, endless, _⟩ => endless how List.mem_cons_self
    | dialEnd dial =>
      have later := ih (node.dialEnd dial) (bootstrap_dialEnd node dial ▸ within)
      rw [bootstrap_dialEnd] at later
      simpa [step, wanted, yielded] using later
    | join dial =>
      obtain ⟨dialed, searching⟩ := bootstrap_join outcome node dial
      have later := ih (node.join outcome dial) (dialed ▸ within)
      rw [dialed, searching] at later
      simpa [step, wanted, yielded] using later

theorem mem_waiting {dial : Nat} :
    dial ∈ node.waiting ↔ dial < node.bootstrap.dialed.length ∧ dial ∉ node.joined := by
  simp [waiting]

/-- Dials that were taken notice of have ended, and each of them counts once. -/
structure Accounted (announced : Except String Unit) (limit : Nat) (outcome : Nat → DialEnd)
    (node : Bootstrapping) : Prop where
  provided : node.bootstrap.provided = announced.isOk
  within : node.bootstrap.dialed.length ≤ limit
  ended : ∀ dial ∈ node.ended, dial < node.bootstrap.dialed.length
  joined : node.joined ⊆ node.ended
  once : node.joined.Nodup
  connected : node.bootstrap.connected = node.joined.countP fun dial => (outcome dial).succeeded
  failed : node.bootstrap.failed = node.joined.countP fun dial => !(outcome dial).succeeded

namespace Accounted

variable {announced : Except String Unit}

theorem start : Accounted announced limit outcome (start announced) where
  provided := rfl
  within := Nat.zero_le limit
  ended := nofun
  joined := List.Subset.refl []
  once := List.nodup_nil
  connected := rfl
  failed := rfl

theorem found (accounted : Accounted announced limit outcome node) (peer : PeerId) :
    Accounted announced limit outcome (node.step localPeer limit outcome (.found peer)) := by
  rcases node.bootstrap.discover_cases localPeer limit peer with same | ends | ⟨room, dials⟩
  · rw [step, same]
    exact accounted
  · rw [step, ends]
    exact { accounted with }
  · rw [step, dials]
    have more : (node.bootstrap.dialed ++ [peer]).length = node.bootstrap.dialed.length + 1 :=
      List.length_append
    refine { accounted with within := more ▸ room, ended := fun dial ended => ?_ }
    exact more ▸ Nat.lt_succ_of_lt (accounted.ended dial ended)

theorem dialEnd (accounted : Accounted announced limit outcome node) (dial : Nat) :
    Accounted announced limit outcome (node.dialEnd dial) := by
  unfold Bootstrapping.dialEnd
  split
  · rename_i made
    exact { accounted with
      ended := List.forall_mem_cons.mpr ⟨made, accounted.ended⟩
      joined := List.subset_cons_of_subset dial accounted.joined }
  · exact accounted

theorem join (accounted : Accounted announced limit outcome node) (dial : Nat) :
    Accounted announced limit outcome (node.join outcome dial) := by
  by_cases joins : !node.bootstrap.searching ∧ dial ∈ node.waiting ∧ dial ∈ node.ended
  · have new : dial ∉ node.joined := (mem_waiting.mp joins.2.1).2
    have once : (dial :: node.joined).Nodup := List.nodup_cons.mpr ⟨new, accounted.once⟩
    have joined : dial :: node.joined ⊆ node.ended :=
      List.cons_subset.mpr ⟨joins.2.2, accounted.joined⟩
    rw [Bootstrapping.join, if_pos joins, Bootstrap.join]
    split
    · rename_i good
      exact { accounted with
        once, joined
        connected := by simp [good, accounted.connected]
        failed := by simp [good, accounted.failed] }
    · rename_i bad
      exact { accounted with
        once, joined
        connected := by simp [bad, accounted.connected]
        failed := by simp [bad, accounted.failed] }
  · rw [Bootstrapping.join, if_neg joins]
    exact accounted

theorem sum (accounted : Accounted announced limit outcome node) :
    node.bootstrap.connected + node.bootstrap.failed = node.joined.length := by
  rw [accounted.connected, accounted.failed,
    List.length_eq_countP_add_countP fun dial => (outcome dial).succeeded]
  simp

theorem joined_subset (accounted : Accounted announced limit outcome node) :
    node.joined ⊆ List.range node.bootstrap.dialed.length := fun dial joined =>
  List.mem_range.mpr (accounted.ended dial (accounted.joined joined))

theorem waiting_eq_nil_iff (accounted : Accounted announced limit outcome node) :
    node.waiting = [] ↔ node.joined.Perm (List.range node.bootstrap.dialed.length) := by
  constructor
  · intro idle
    rw [List.perm_ext_iff_of_nodup accounted.once List.nodup_range]
    refine fun dial => ⟨fun joined => accounted.joined_subset joined, fun made => ?_⟩
    by_contra left
    have waits := mem_waiting.mpr ⟨List.mem_range.mp made, left⟩
    rw [idle] at waits
    cases waits
  · intro all
    rw [List.eq_nil_iff_forall_not_mem]
    intro dial waits
    obtain ⟨made, left⟩ := mem_waiting.mp waits
    exact left (all.mem_iff.mpr (List.mem_range.mpr made))

/-- The counts tell when no dial is waited for any more. -/
theorem isDone_eq (accounted : Accounted announced limit outcome node) :
    node.isDone = node.bootstrap.isFinished := by
  have counts : node.waiting = []
      ↔ node.bootstrap.connected + node.bootstrap.failed = node.bootstrap.dialed.length := by
    rw [accounted.waiting_eq_nil_iff, accounted.sum]
    constructor
    · intro all
      rw [all.length_eq, List.length_range]
    · intro as_many
      exact (List.subperm_of_subset accounted.once accounted.joined_subset).perm_of_length_le
        (by simp [as_many])
  rw [Bool.eq_iff_iff]
  simp [isDone, Bootstrap.isFinished, ← counts]

theorem step (accounted : Accounted announced limit outcome node) (event : Event) :
    Accounted announced limit outcome (node.step localPeer limit outcome event) := by
  cases event with
  | found peer => exact accounted.found peer
  | searchEnd how => exact { accounted with }
  | dialEnd dial => exact accounted.dialEnd dial
  | join dial => exact accounted.join dial

theorem run (localPeer : PeerId) (events : List Event) :
    Accounted announced limit outcome
      ((Bootstrapping.start announced).run localPeer limit outcome events) := by
  induction events using List.reverseRecOn with
  | nil => exact start
  | append_singleton events event ih =>
    rw [run_append]
    exact ih.step event

end Accounted

/-- Notice is taken of a dial that ends after the search, and of no other one with it. -/
theorem waiting_join (stopped : node.bootstrap.searching = false) {dial : Nat}
    (waits : dial ∈ node.waiting) :
    ((node.dialEnd dial).join outcome dial).waiting = node.waiting.filter (· ≠ dial) := by
  have made : dial < node.bootstrap.dialed.length := (mem_waiting.mp waits).1
  rw [dialEnd, if_pos made, join, if_pos ⟨by simp [stopped], waits, List.mem_cons_self⟩]
  rw [waiting, waiting, (node.bootstrap.kept_join _).1, List.filter_filter]
  apply List.filter_congr
  intro other _
  simp

/-- Each provider that the search yields before its end is dialed once, the node itself apart, as
long as there is room. When the bootstrap is over, each of the dials has ended and was counted, also
those that the search did not wait for; and once the search has ended, the bootstrap has only the
dials to wait for, which may end in any order. -/
theorem dials_accounted (localPeer : PeerId) (limit : Nat) (outcome : Nat → DialEnd)
    (announced : Except String Unit) (events : List Event) :
    let node := (start announced).run localPeer limit outcome events
    let report := node.bootstrap.report
    node.bootstrap.dialed = (wanted localPeer events).take limit
    ∧ localPeer ∉ node.bootstrap.dialed
    ∧ report.provided = announced.isOk
    ∧ report.providers = node.bootstrap.dialed.length ∧ report.providers ≤ limit
    ∧ node.isDone = node.bootstrap.isFinished
    ∧ (node.isDone = true →
      (∀ dial < report.providers, dial ∈ node.ended)
      ∧ report.connected + report.failed = report.providers
      ∧ report.connected
        = (List.range report.providers).countP fun dial => (outcome dial).succeeded)
    ∧ (node.bootstrap.searching = false → ∀ dial ∈ node.waiting,
      ((node.dialEnd dial).join outcome dial).waiting = node.waiting.filter (· ≠ dial)) := by
  intro node report
  have accounted : Accounted announced limit outcome node := .run localPeer events
  have dialed : node.bootstrap.dialed = (wanted localPeer events).take limit :=
    (search_run (start announced) events (Nat.zero_le limit)).1
  refine ⟨dialed, ?_, accounted.provided, rfl, accounted.within, accounted.isDone_eq, ?_,
    fun stopped dial waits => waiting_join stopped waits⟩
  · intro dialsItself
    rw [dialed] at dialsItself
    have wants := List.mem_of_mem_take dialsItself
    simp [wanted] at wants
  · intro done
    have idle : node.waiting = [] := List.isEmpty_iff.mp (Bool.and_eq_true_iff.mp done).2
    have all := accounted.waiting_eq_nil_iff.mp idle
    refine ⟨fun dial made => ?_, ?_, ?_⟩
    · exact accounted.joined (all.mem_iff.mpr (List.mem_range.mpr made))
    · exact accounted.sum.trans (all.length_eq.trans List.length_range)
    · exact accounted.connected.trans (all.countP_eq _)

namespace Sample

def self : PeerId :=
  ⟨.identity, [8], by decide⟩

def near : PeerId :=
  ⟨.identity, [4], by decide⟩

def far : PeerId :=
  ⟨.identity, [5], by decide⟩

/-- The second dial panics. -/
def ends : Nat → DialEnd
  | 0 => .connected
  | _ => .panicked

/-- The first dial ends while the search goes on, the second after it has timed out. -/
def schedule : List Event := [
  .found self, .found near, .dialEnd 0, .found near, .searchEnd .timedOut, .found far, .dialEnd 1,
  .join 1, .join 0]

end Sample

open Sample in
theorem dials_accounted_timedOut :
    let node := (start (.error "offline")).run self 4 ends schedule
    node.bootstrap.dialed = [near, near] ∧ node.isDone = true
      ∧ node.bootstrap.report.connected + node.bootstrap.report.failed = 2
      ∧ node.bootstrap.report.connected = 1 := by
  obtain ⟨dialed, -, -, -, -, -, counted, -⟩ :=
    dials_accounted self 4 ends (.error "offline") schedule
  obtain ⟨-, sum, connected⟩ := counted (by decide)
  exact ⟨dialed.trans (by decide), by decide, sum.trans (by decide), connected.trans (by decide)⟩

end Bootstrapping

end GossipNames
