import GossipNames.Proofs.Issuance
import GossipNames.Proofs.Name
import GossipNames.Proofs.RoundTrip

/-! What becomes known of publications. A record is kept before anybody hears of it and is broadcast
once at most, and the participants of a topic are looked for once, whatever publications do at the same
time. -/

namespace GossipNames

/-- What is handed over for broadcasting. -/
def Announcement.payload (announcement : Announcement) : String × Bytes :=
  (announcement.topic, announcement.record.toBytes)

/-- What a publication is about to broadcast. -/
def PublishStage.announcement? : PublishStage → Option Announcement
  | .meeting announcement | .announcing announcement => some announcement
  | _ => none

namespace Publishing

variable {node later : Publishing} {id : Nat} {request : PublishRequest}

theorem announce_eq {announcement : Announcement}
    (found : node.calls.get? id = some { request, stage := .announcing announcement })
    (reply : Except String Unit) :
    node.announce id reply = { node.advance id request (.over (reply.mapError .gossip)) with
      broadcasts := node.broadcasts ++ [announcement.payload] } := by
  rw [announce, found]
  rfl

/-- What is kept for an identity can be read and is not after the last record, if that one can. -/
structure Legible (node : Publishing) : Prop where
  kept : ∀ {peer last record}, RecordStore.lastSequence .none node.store peer = .ok last →
    (peer, record) ∈ node.kept →
      (∃ shown, NameRecord.ofBytes record.toBytes = .ok shown) ∧ record.sequence ≤ last

namespace Legible

theorem start (store : Datastore) : Legible (start store) where
  kept _ member := by cases member

theorem same (legible : Legible node) (store : later.store = node.store)
    (kept : later.kept = node.kept) : Legible later where
  kept read member := legible.kept (store ▸ read) (kept ▸ member)

/-- The next record of an identity is written differently from all that were kept before. -/
theorem fresh (legible : Legible node) {peer : PeerId} {record : NameRecord}
    (follows : RecordStore.Follows node.store peer record) {old : NameRecord}
    (kept : (peer, old) ∈ node.kept) : old.toBytes ≠ record.toBytes := by
  intro same
  obtain ⟨previous, read, lower⟩ := follows.lt
  obtain ⟨⟨shown, decoded⟩, bound⟩ := legible.kept read kept
  have first := (NameRecord.eq_of_ofBytes_toBytes decoded).2.2.1
  have second := (NameRecord.eq_of_ofBytes_toBytes (same ▸ decoded)).2.2.1
  rw [← first, second] at bound
  exact absurd lower (UInt64.not_lt.mpr bound)

variable [SignatureScheme]

theorem step (legible : Legible node) (orderly : Orderly node) (event : Event) :
    Legible (node.step event) := by
  rcases node.step_store event with ⟨store, kept⟩ | ⟨id, request, next, signed, store, kept⟩
  · exact legible.same store kept
  · constructor
    intro peer last record read member
    obtain ⟨previous, before, lower⟩ := (orderly.next signed).lt
    rw [store] at read
    rw [kept] at member
    by_cases own : request.key.peerId = peer
    · subst own
      have entry : (node.store.put (.ofPeer request.key.peerId) next.toBytes).get?
          (.ofPeer request.key.peerId) = some next.toBytes := by
        rw [Table.get?_put, if_pos rfl]
      have latest := RecordStore.lastSequence_of_kept entry read
      rcases List.mem_append.mp member with old | new
      · obtain ⟨shown, bound⟩ := legible.kept before old
        exact ⟨shown, latest ▸ UInt64.le_trans bound (UInt64.le_of_lt lower)⟩
      · cases List.mem_singleton.mp new
        exact ⟨RecordStore.readable_of_kept entry read, latest ▸ UInt64.le_refl _⟩
    · have other : DatastoreKey.ofPeer peer ≠ .ofPeer request.key.peerId :=
        fun same => own (DatastoreKey.ofPeer_inj.mp same).symm
      have unchanged : RecordStore.lastSequence .none node.store peer = .ok last := by
        rw [← read]
        apply RecordStore.lastSequence_of_get?
        rw [Table.get?_put, if_neg other]
      rcases List.mem_append.mp member with old | new
      · exact legible.kept unchanged old
      · cases List.mem_singleton.mp new
        exact absurd rfl own

end Legible

/-- A publication is about to broadcast. -/
def About (node : Publishing) (id : Nat) (request : PublishRequest) (announcement : Announcement) :
    Prop :=
  ∃ stage, node.calls.get? id = some { request, stage } ∧ stage.announcement? = some announcement

theorem about_put {stage : PublishStage}
    (calls : later.calls = node.calls.put id { request, stage }) {other : Nat}
    {asked : PublishRequest} {announcement : Announcement} :
    later.About other asked announcement ↔
      other = id ∧ asked = request ∧ stage.announcement? = some announcement
        ∨ other ≠ id ∧ node.About other asked announcement := by
  unfold About
  rw [calls, Table.get?_put]
  by_cases same : other = id
  · simp only [same, if_true, Option.some.injEq, PublishCall.mk.injEq, true_and, ne_eq,
      not_true_eq_false, false_and, or_false]
    constructor
    · rintro ⟨stage, ⟨rfl, rfl⟩, shown⟩
      exact ⟨rfl, shown⟩
    · rintro ⟨rfl, shown⟩
      exact ⟨stage, ⟨rfl, rfl⟩, shown⟩
  · simp [same]

section

variable [SignatureScheme]

/-- What has been broadcast are records that are kept, each of them once, and what is about to be
broadcast is kept as well and none of these. -/
structure Durable (node : Publishing) : Prop where
  legible : Legible node
  once : node.broadcasts.Nodup
  broadcast : ∀ {payload}, payload ∈ node.broadcasts →
    ∃ peer record, (peer, record) ∈ node.kept ∧ payload = (Name.topic peer, record.toBytes)
  about : ∀ {id request announcement}, node.About id request announcement →
    announcement.topic = Name.topic request.key.peerId
      ∧ (request.key.peerId, announcement.record) ∈ node.kept
  unsent : ∀ {id request announcement}, node.About id request announcement →
    announcement.payload ∉ node.broadcasts
  distinct : ∀ {first second asked request announcement other},
    node.About first asked announcement → node.About second request other →
    announcement.payload = other.payload → first = second

namespace Durable

theorem start (store : Datastore) : Durable (start store) where
  legible := .start store
  once := List.nodup_nil
  broadcast member := by cases member
  about := by rintro id request announcement ⟨stage, found, -⟩; cases found
  unsent := by rintro id request announcement ⟨stage, found, -⟩; cases found
  distinct := by rintro first second asked request announcement other ⟨stage, found, -⟩; cases found

/-- Nobody broadcasts anything, and nobody new is about to. -/
theorem carry (durable : Durable node) (legible : Legible later) (kept : node.kept ⊆ later.kept)
    (broadcasts : later.broadcasts = node.broadcasts)
    (only : ∀ {id request announcement}, later.About id request announcement →
      node.About id request announcement) : Durable later where
  legible := legible
  once := broadcasts ▸ durable.once
  broadcast member := by
    obtain ⟨peer, record, before, same⟩ := durable.broadcast (broadcasts ▸ member)
    exact ⟨peer, record, kept before, same⟩
  about shown := by
    obtain ⟨topic, before⟩ := durable.about (only shown)
    exact ⟨topic, kept before⟩
  unsent shown := broadcasts ▸ durable.unsent (only shown)
  distinct first second := durable.distinct (only first) (only second)

/-- A publication goes on to a stage where it is not about to broadcast. -/
theorem settle (durable : Durable node) (legible : Legible later) (kept : node.kept ⊆ later.kept)
    (broadcasts : later.broadcasts = node.broadcasts) {stage : PublishStage}
    (calls : later.calls = node.calls.put id { request, stage })
    (silent : stage.announcement? = none) : Durable later := by
  apply durable.carry legible kept broadcasts
  intro other asked announcement shown
  rcases (about_put calls).mp shown with ⟨-, -, about⟩ | ⟨-, before⟩
  · rw [silent] at about
    cases about
  · exact before

theorem call (durable : Durable node) (id : Nat) (request : PublishRequest) :
    Durable (node.call id request) := by
  unfold Publishing.call
  split
  · exact durable
  · split
    · split
      · exact durable.settle (durable.legible.same rfl rfl) (List.Subset.refl _) rfl rfl rfl
      · exact durable.settle (durable.legible.same rfl rfl) (List.Subset.refl _) rfl rfl rfl
    · exact durable.settle (durable.legible.same rfl rfl) (List.Subset.refl _) rfl rfl rfl

theorem takeTurn (durable : Durable node) (id : Nat) : Durable (node.takeTurn id) := by
  unfold Publishing.takeTurn
  split
  · exact durable.settle (durable.legible.same rfl rfl) (List.Subset.refl _) rfl rfl rfl
  · exact durable

theorem meet (durable : Durable node) (id : Nat) : Durable (node.meet id) := by
  have moves : ∀ {later : Publishing} {request announcement},
      node.calls.get? id = some { request, stage := .meeting announcement } →
      later.store = node.store → later.kept = node.kept → later.broadcasts = node.broadcasts →
      later.calls = node.calls.put id { request, stage := .announcing announcement } →
      Durable later := by
    intro later request announcement meeting store kept broadcasts calls
    apply durable.carry (durable.legible.same store kept) (kept ▸ List.Subset.refl _) broadcasts
    intro other asked shown about
    rcases (about_put calls).mp about with ⟨rfl, rfl, same⟩ | ⟨-, before⟩
    · exact ⟨_, meeting, same⟩
    · exact before
  unfold Publishing.meet
  split
  · rename_i request announcement meeting
    dsimp only
    split
    · exact moves meeting rfl rfl rfl rfl
    · split
      · exact moves meeting rfl rfl rfl rfl
      · exact moves meeting rfl rfl rfl rfl
  · exact durable

theorem announce (durable : Durable node) (id : Nat) (reply : Except String Unit) :
    Durable (node.announce id reply) := by
  cases found : node.calls.get? id with
  | none =>
    rw [Publishing.announce, found]
    exact durable
  | some call =>
    obtain ⟨request, stage⟩ := call
    cases stage with
    | announcing announcement =>
      have calls : (node.announce id reply).calls = node.calls.put id
          { request, stage := .over (reply.mapError .gossip) } := by
        rw [announce_eq found]
        rfl
      have self : node.About id request announcement := ⟨_, found, rfl⟩
      obtain ⟨topic, kept⟩ := durable.about self
      have others : ∀ {other asked shown}, (node.announce id reply).About other asked shown →
          other ≠ id ∧ node.About other asked shown := by
        intro other asked shown about
        rcases (about_put calls).mp about with ⟨-, -, ended⟩ | before
        · cases ended
        · exact before
      have grown : (node.announce id reply).broadcasts
          = node.broadcasts ++ [announcement.payload] := by
        rw [announce_eq found]
      have same : (node.announce id reply).kept = node.kept := by
        rw [announce_eq found]
        rfl
      have store : (node.announce id reply).store = node.store := by
        rw [announce_eq found]
        rfl
      constructor
      · exact durable.legible.same store same
      · rw [grown, List.nodup_append]
        refine ⟨durable.once, List.nodup_singleton _, ?_⟩
        rintro payload member _ last rfl
        rw [List.mem_singleton] at last
        exact durable.unsent self (last ▸ member)
      · intro payload member
        rw [grown] at member
        rw [same]
        rcases List.mem_append.mp member with before | last
        · exact durable.broadcast before
        · rw [List.mem_singleton] at last
          exact ⟨_, _, kept, by rw [last, Announcement.payload, topic]⟩
      · intro other asked shown about
        rw [same]
        exact durable.about (others about).2
      · intro other asked shown about member
        obtain ⟨different, before⟩ := others about
        rw [grown] at member
        rcases List.mem_append.mp member with sent | last
        · exact durable.unsent before sent
        · exact different (durable.distinct before self (List.mem_singleton.mp last))
      · intro first second asked request announcement other about also
        exact durable.distinct (others about).2 (others also).2
    | _ =>
      rw [Publishing.announce, found]
      exact durable

theorem put (durable : Durable node) (id : Nat) (reply : Except String Unit) :
    Durable (node.put id reply) := by
  unfold Publishing.put
  split
  · exact durable.settle (durable.legible.same rfl rfl) (List.Subset.refl _) rfl rfl rfl
  · split
    · split
      · exact durable.settle (durable.legible.same rfl rfl) (List.Subset.refl _) rfl rfl rfl
      · exact durable.settle (durable.legible.same rfl rfl) (List.Subset.refl _) rfl rfl rfl
  · exact durable

theorem abandon (durable : Durable node) (id : Nat) : Durable (node.abandon id) := by
  refine durable.carry (durable.legible.same rfl rfl) (List.Subset.refl _) rfl ?_
  rintro other asked announcement ⟨stage, found, shown⟩
  simp only [Publishing.abandon, Table.get?_erase] at found
  split at found
  · cases found
  · exact ⟨stage, found, shown⟩

theorem sign (durable : Durable node) (id : Nat) (faults : StoreFaults) :
    Durable (node.sign id faults) := by
  unfold Publishing.sign
  split
  · split
    · exact durable.settle (durable.legible.same rfl rfl) (List.Subset.refl _) rfl rfl rfl
    · exact durable.settle (durable.legible.same rfl rfl) (List.Subset.refl _) rfl rfl rfl
  · exact durable

/-- A record that has just been kept is unlike all that were kept before, and so unlike all that was
broadcast or is about to be. -/
theorem add (durable : Durable node) (legible : Legible later) {record : NameRecord}
    (follows : RecordStore.Follows node.store request.key.peerId record)
    (kept : later.kept = node.kept ++ [(request.key.peerId, record)])
    (broadcasts : later.broadcasts = node.broadcasts)
    (calls : later.calls = node.calls.put id
      { request, stage := .meeting { topic := Name.topic request.key.peerId, record } }) :
    Durable later where
  legible := legible
  once := broadcasts ▸ durable.once
  broadcast member := by
    obtain ⟨peer, old, before, same⟩ := durable.broadcast (broadcasts ▸ member)
    exact ⟨peer, old, kept ▸ List.mem_append_left _ before, same⟩
  about {other asked announcement} about := by
    rw [kept]
    rcases (about_put calls).mp about with ⟨-, rfl, ⟨⟩⟩ | ⟨-, before⟩
    · exact ⟨rfl, List.mem_append_right _ List.mem_cons_self⟩
    · obtain ⟨topic, old⟩ := durable.about before
      exact ⟨topic, List.mem_append_left _ old⟩
  unsent {other asked announcement} about := by
    rw [broadcasts]
    rcases (about_put calls).mp about with ⟨-, rfl, ⟨⟩⟩ | ⟨-, before⟩
    · intro sent
      obtain ⟨peer, old, before, same⟩ := durable.broadcast sent
      obtain ⟨topic, bytes⟩ := Prod.mk.inj same
      cases Name.topic_injective topic
      exact durable.legible.fresh follows before bytes.symm
    · exact durable.unsent before
  distinct {first second asked wanted announcement other} about also same := by
    have apart : ∀ {third : Nat} {found : PublishRequest} {shown : Announcement},
        node.About third found shown →
        shown.payload ≠ (Name.topic request.key.peerId, record.toBytes) := by
      intro third found shown before equal
      obtain ⟨topic, old⟩ := durable.about before
      obtain ⟨topics, bytes⟩ := Prod.mk.inj equal
      rw [topic] at topics
      rw [Name.topic_injective topics] at old
      exact durable.legible.fresh follows old bytes
    rcases (about_put calls).mp about with ⟨rfl, -, ⟨⟩⟩ | ⟨-, before⟩
    · rcases (about_put calls).mp also with ⟨rfl, -, ⟨⟩⟩ | ⟨-, early⟩
      · rfl
      · exact absurd same.symm (apart early)
    · rcases (about_put calls).mp also with ⟨rfl, -, ⟨⟩⟩ | ⟨-, early⟩
      · exact absurd same (apart before)
      · exact durable.distinct before early same

theorem keep (durable : Durable node) (orderly : Orderly node) (id : Nat) (faults : StoreFaults) :
    Durable (node.keep id faults) := by
  have legible : Legible (node.keep id faults) := durable.legible.step orderly (.keep id faults)
  cases found : node.calls.get? id with
  | none =>
    rw [Publishing.keep, found]
    exact durable
  | some call =>
    obtain ⟨request, stage⟩ := call
    cases stage with
    | signed record =>
      have follows := orderly.next found
      unfold Publishing.keep at legible ⊢
      rw [found] at legible ⊢
      cases stored : RecordStore.put faults node.store request.key.peerId record with
      | error error =>
        simp only [stored]
        exact durable.settle (durable.legible.same rfl rfl) (List.Subset.refl _) rfl rfl rfl
      | ok store =>
        simp only [stored] at legible ⊢
        have grown := List.subset_append_left node.kept [(request.key.peerId, record)]
        cases route : request.route with
        | gossip number =>
          have meets : request.afterIssue record
              = .meeting { topic := Name.topic request.key.peerId, record } := by
            simp only [PublishRequest.afterIssue, route]
          exact durable.add legible follows rfl rfl
            (congrArg (fun stage => node.calls.put id { request, stage }) meets)
        | values =>
          have silent : (request.afterIssue record).announcement? = none := by
            simp only [PublishRequest.afterIssue, route, PublishStage.announcement?]
          exact durable.settle legible grown rfl rfl silent
    | _ =>
      rw [Publishing.keep, found]
      exact durable

theorem step (durable : Durable node) (orderly : Orderly node) (event : Event) :
    Durable (node.step event) := by
  cases event with
  | call id request => exact durable.call id request
  | takeTurn id => exact durable.takeTurn id
  | sign id faults => exact durable.sign id faults
  | keep id faults => exact durable.keep orderly id faults
  | meet id => exact durable.meet id
  | announce id reply => exact durable.announce id reply
  | put id reply => exact durable.put id reply
  | abandon id => exact durable.abandon id
  | shutdown publisher =>
    exact durable.carry (durable.legible.same rfl rfl) (List.Subset.refl _) rfl id
  | restart =>
    refine durable.carry (durable.legible.same rfl rfl) (List.Subset.refl _) rfl ?_
    rintro id request announcement ⟨stage, found, -⟩
    cases found

theorem run (durable : Durable node) (orderly : Orderly node) (events : List Event) :
    Durable (node.run events) := by
  induction events generalizing node with
  | nil => exact durable
  | cons event rest ih => exact ih (durable.step orderly event) (orderly.step event)

end Durable

end

/-- The participants of a topic are looked for once by each publisher, which knows it. -/
structure Searched (node : Publishing) : Prop where
  once : node.bootstraps.Nodup
  known : ∀ {number topic}, (number, topic) ∈ node.bootstraps →
    topic ∈ (node.publishers number).bootstrapped

namespace Searched

theorem start (store : Datastore) : Searched (start store) where
  once := List.nodup_nil
  known member := by cases member

theorem same (searched : Searched node) (bootstraps : later.bootstraps = node.bootstraps)
    (publishers : later.publishers = node.publishers) : Searched later where
  once := bootstraps ▸ searched.once
  known member := publishers ▸ searched.known (bootstraps ▸ member)

theorem meet (searched : Searched node) (id : Nat) : Searched (node.meet id) := by
  unfold Publishing.meet
  split
  · rename_i request announcement meeting
    dsimp only
    split
    · exact searched.same rfl rfl
    · rename_i number route
      split
      · exact searched.same rfl rfl
      · rename_i publisher claimed
        unfold GossipPublisher.claim? at claimed
        split at claimed
        · cases claimed
        · rename_i unknown
          cases claimed
          constructor
          · rw [List.nodup_append]
            refine ⟨searched.once, List.nodup_singleton _, ?_⟩
            rintro search member _ last rfl
            rw [List.mem_singleton] at last
            exact unknown (searched.known (last ▸ member))
          · intro other topic member
            dsimp only at member ⊢
            rcases List.mem_append.mp member with before | last
            · split
              · rename_i same
                subst same
                exact List.mem_cons_of_mem _ (searched.known before)
              · exact searched.known before
            · cases List.mem_singleton.mp last
              rw [if_pos rfl]
              exact List.mem_cons_self
  · exact searched

variable [SignatureScheme]

/-- Only a new start forgets which topics are known. -/
theorem step (searched : Searched node) {event : Event} (running : event ≠ .restart) :
    Searched (node.step event) := by
  cases event with
  | meet id => exact searched.meet id
  | restart => exact absurd rfl running
  | shutdown number =>
    refine ⟨searched.once, ?_⟩
    intro other topic member
    simp only [Publishing.step, shutdown]
    split
    · rename_i same
      subst same
      exact searched.known member
    · exact searched.known member
  | call id request | takeTurn id | sign id faults | keep id faults | announce id reply
  | put id reply | abandon id =>
    simp only [Publishing.step, call, takeTurn, sign, keep, announce, put, abandon]
    repeat' split
    all_goals exact searched.same rfl rfl

theorem run (searched : Searched node) {events : List Event} (running : .restart ∉ events) :
    Searched (node.run events) := by
  induction events generalizing node with
  | nil => exact searched
  | cons event rest ih =>
    obtain ⟨other, later⟩ := List.ne_and_not_mem_of_not_mem_cons running
    exact ih (searched.step other.symm) later

end Searched

/-- The publication that an event moves on. -/
def Event.call? : Event → Option Nat
  | .call id _ | .takeTurn id | .sign id _ | .keep id _ | .meet id | .announce id _ | .put id _
  | .abandon id => some id
  | .shutdown _ | .restart => none

/-- Something that a publication has done that stays or that others hear of. -/
inductive Deed where
  | keep (peer : PeerId) (record : NameRecord)
  | search (publisher : Nat) (topic : String)
  | broadcast (topic : String) (message : Bytes)
  | put (key value : Bytes)

/-- The deeds that a log has been continued with. -/
def deedsSince {α : Type} (deed : α → Deed) (before after : List α) : List Deed :=
  (after.drop before.length).map deed

/-- What was done between two states of a node. -/
def deedsBetween (node later : Publishing) : List Deed :=
  deedsSince (fun (peer, record) => Deed.keep peer record) node.kept later.kept
    ++ deedsSince (fun (number, topic) => Deed.search number topic) node.bootstraps later.bootstraps
    ++ deedsSince (fun (topic, message) => Deed.broadcast topic message) node.broadcasts
      later.broadcasts
    ++ deedsSince (fun (key, value) => Deed.put key value) node.puts later.puts

/-- What a publication does in the course of the events. -/
def deedsOf [SignatureScheme] (id : Nat) (node : Publishing) : List Event → List Deed
  | [] => []
  | event :: rest =>
    (if event.call? = some id then deedsBetween node (node.step event) else [])
      ++ deedsOf id (node.step event) rest

section Calls

variable [SignatureScheme]

omit [SignatureScheme] in
theorem deedsBetween_same (kept : later.kept = node.kept)
    (bootstraps : later.bootstraps = node.bootstraps)
    (broadcasts : later.broadcasts = node.broadcasts) (puts : later.puts = node.puts) :
    deedsBetween node later = [] := by
  simp [deedsBetween, deedsSince, kept, bootstraps, broadcasts, puts]

/-- A publication is moved on by its own events only. -/
theorem step_calls_other {event : Event} (other : event.call? ≠ some id)
    (running : event ≠ .restart) :
    (node.step event).calls.get? id = node.calls.get? id := by
  have advanced : ∀ {moved : Nat} {asked : PublishRequest} {stage : PublishStage},
      moved ≠ id → (node.calls.put moved { request := asked, stage }).get? id
        = node.calls.get? id := by
    intro moved asked stage different
    rw [Table.get?_put, if_neg (Ne.symm different)]
  cases event with
  | restart => exact absurd rfl running
  | shutdown number => rfl
  | abandon moved =>
    have different : moved ≠ id := fun same => other (congrArg some same)
    simp only [step, abandon, Table.get?_erase, if_neg (Ne.symm different)]
  | call moved asked | takeTurn moved | sign moved faults | keep moved faults | meet moved
  | announce moved reply | put moved reply =>
    have different : moved ≠ id := fun same => other (congrArg some same)
    simp only [step, call, takeTurn, sign, keep, meet, announce, put]
    repeat' split
    all_goals first | rfl | exact advanced different

/-- How far a publication on a gossip topic has come, with what it has done so far. The first thing is
that its record is kept. -/
inductive Progress (number : Nat) (peer : PeerId) : PublishStage → List Deed → Prop where
  | waiting : Progress number peer .waiting []
  | holding : Progress number peer .holding []
  | signed (record : NameRecord) : Progress number peer (.signed record) []
  /-- Nothing was issued. -/
  | failed (error : NameError) : Progress number peer (.over (.error error)) []
  | meeting (record : NameRecord) :
    Progress number peer (.meeting { topic := Name.topic peer, record }) [.keep peer record]
  | announcing (record : NameRecord) {met : List Deed}
    (searched : met.Sublist [.search number (Name.topic peer)]) :
    Progress number peer (.announcing { topic := Name.topic peer, record })
      (.keep peer record :: met)
  | announced (record : NameRecord) (result : Except NameError Unit) {met : List Deed}
    (searched : met.Sublist [.search number (Name.topic peer)]) :
    Progress number peer (.over result)
      (.keep peer record :: (met ++ [Deed.broadcast (Name.topic peer) record.toBytes]))

section Moving

variable {number : Nat} {stage : PublishStage} {done : List Deed}

/-- The publication has come some way in the later state, whatever it had done before the other. -/
def Reaches (node later : Publishing) (id : Nat) (request : PublishRequest) (number : Nat)
    (done : List Deed) : Prop :=
  ∃ stage, later.calls.get? id = some { request, stage }
    ∧ Progress number request.key.peerId stage (done ++ deedsBetween node later)

theorem reaches_same (found : node.calls.get? id = some { request, stage })
    (progress : Progress number request.key.peerId stage done) :
    Reaches node node id request number done := by
  refine ⟨stage, found, ?_⟩
  rwa [deedsBetween_same rfl rfl rfl rfl, List.append_nil]

theorem reaches_put {next : PublishStage} {deeds : List Deed}
    (calls : later.calls = node.calls.put id { request, stage := next })
    (did : deedsBetween node later = deeds)
    (progress : Progress number request.key.peerId next (done ++ deeds)) :
    Reaches node later id request number done := by
  refine ⟨next, ?_, did ▸ progress⟩
  rw [calls, Table.get?_put, if_pos rfl]

theorem reaches_silent {next : PublishStage}
    (calls : later.calls = node.calls.put id { request, stage := next })
    (silent : deedsBetween node later = [])
    (progress : Progress number request.key.peerId next done) :
    Reaches node later id request number done :=
  reaches_put calls silent ((List.append_nil done).symm ▸ progress)

namespace Progress

theorem takeTurn (progress : Progress number request.key.peerId stage done)
    (found : node.calls.get? id = some { request, stage }) :
    Reaches node (node.takeTurn id) id request number done := by
  unfold Publishing.takeTurn
  split
  · rename_i waits free
    cases found.symm.trans waits
    cases progress
    exact reaches_silent rfl (deedsBetween_same rfl rfl rfl rfl) .holding
  · exact reaches_same found progress

theorem sign (progress : Progress number request.key.peerId stage done)
    (found : node.calls.get? id = some { request, stage }) (faults : StoreFaults) :
    Reaches node (node.sign id faults) id request number done := by
  unfold Publishing.sign
  split
  · rename_i holds
    cases found.symm.trans holds
    cases progress
    split
    · rename_i record issued
      exact reaches_silent rfl (deedsBetween_same rfl rfl rfl rfl) (.signed record)
    · rename_i error failed
      exact reaches_silent rfl (deedsBetween_same rfl rfl rfl rfl) (.failed error)
  · exact reaches_same found progress

theorem keep (progress : Progress number request.key.peerId stage done)
    (found : node.calls.get? id = some { request, stage })
    (route : request.route = .gossip number) (faults : StoreFaults) :
    Reaches node (node.keep id faults) id request number done := by
  unfold Publishing.keep
  split
  · rename_i record signed
    cases found.symm.trans signed
    cases progress
    split
    · rename_i store stored
      have met : Progress number request.key.peerId (request.afterIssue record)
          [.keep request.key.peerId record] := by
        simp only [PublishRequest.afterIssue, route]
        exact .meeting record
      refine reaches_put rfl ?_ met
      simp [deedsBetween, deedsSince, advance]
    · rename_i error failed
      exact reaches_silent rfl (deedsBetween_same rfl rfl rfl rfl) (.failed error)
  · exact reaches_same found progress

theorem meet (progress : Progress number request.key.peerId stage done)
    (found : node.calls.get? id = some { request, stage })
    (route : request.route = .gossip number) : Reaches node (node.meet id) id request number done := by
  unfold Publishing.meet
  split
  · rename_i announcement meeting
    cases found.symm.trans meeting
    cases progress with
    | meeting record =>
      simp only [route]
      split
      · exact reaches_silent rfl (deedsBetween_same rfl rfl rfl rfl)
          (.announcing record (List.nil_sublist _))
      · refine reaches_put rfl ?_ (.announcing record (List.Sublist.refl _))
        simp [deedsBetween, deedsSince, advance]
  · exact reaches_same found progress

theorem announce (progress : Progress number request.key.peerId stage done)
    (found : node.calls.get? id = some { request, stage }) (reply : Except String Unit) :
    Reaches node (node.announce id reply) id request number done := by
  cases progress with
  | announcing record searched =>
    rw [announce_eq found]
    refine reaches_put rfl ?_ (.announced record (reply.mapError .gossip) searched)
    simp [deedsBetween, deedsSince, advance, Announcement.payload]
  | waiting | holding | signed | failed | meeting | announced =>
    have same : node.announce id reply = node := by
      rw [Publishing.announce, found]
    rw [same]
    exact reaches_same found (by constructor <;> assumption)

/-- What an event does for its own publication. -/
theorem own {event : Event} (progress : Progress number request.key.peerId stage done)
    (found : node.calls.get? id = some { request, stage })
    (route : request.route = .gossip number) (own : event.call? = some id)
    (stays : event ≠ .abandon id) : Reaches node (node.step event) id request number done := by
  cases event with
  | shutdown | restart => cases own
  | abandon other =>
    cases own
    exact absurd rfl stays
  | call other asked =>
    cases own
    have taken : node.calls.contains id = true := by
      rw [Table.contains, found]
      rfl
    rw [step, call, if_pos taken]
    exact reaches_same found progress
  | takeTurn other => cases own; exact progress.takeTurn found
  | sign other faults => cases own; exact progress.sign found faults
  | keep other faults => cases own; exact progress.keep found route faults
  | meet other => cases own; exact progress.meet found route
  | announce other reply => cases own; exact progress.announce found reply
  | put other reply =>
    cases own
    have same : node.put id reply = node := by
      cases progress <;> rw [Publishing.put, found]
    rw [step, same]
    exact reaches_same found progress

/-- Whatever happens, a publication that is not abandoned gets on, or stays where it is. -/
theorem run (progress : Progress number request.key.peerId stage done)
    (found : node.calls.get? id = some { request, stage })
    (route : request.route = .gossip number) {events : List Event} (running : .restart ∉ events)
    (stays : .abandon id ∉ events) :
    ∃ reached, (node.run events).calls.get? id = some { request, stage := reached }
      ∧ Progress number request.key.peerId reached (done ++ deedsOf id node events) := by
  induction events generalizing node stage done with
  | nil =>
    rw [deedsOf, List.append_nil]
    exact ⟨stage, found, progress⟩
  | cons event rest ih =>
    obtain ⟨goes, going⟩ := List.ne_and_not_mem_of_not_mem_cons running
    obtain ⟨waits, waiting⟩ := List.ne_and_not_mem_of_not_mem_cons stays
    change ∃ reached, ((node.step event).run rest).calls.get? id = _ ∧ _
    rw [deedsOf, ← List.append_assoc]
    by_cases own : event.call? = some id
    · obtain ⟨next, look, further⟩ := progress.own found route own (Ne.symm waits)
      rw [if_pos own]
      exact ih further look going waiting
    · rw [if_neg own, List.append_nil]
      have look := (step_calls_other own (Ne.symm goes)).trans found
      exact ih progress look going waiting

end Progress

end Moving

end Calls

end Publishing

namespace Publishing.Sample

open NameRecord.Sample

def request : PublishRequest where
  route := .gossip 0
  key := key
  value := target
  endOfLife := leapSecond

/-- Two publications of a key at the same time, of which the first one's broadcast fails. -/
def together : List Event := [
  .call 0 request, .call 1 request, .takeTurn 0, .sign 0 .none, .keep 0 .none, .takeTurn 1,
  .meet 0, .sign 1 .none, .keep 1 .none, .meet 1, .announce 1 (.ok ()),
  .announce 0 (.error "no peers"), .shutdown 0]

/-- What comes of them, computed in one go because signatures take their time. -/
theorem outcome :
    let node := (start .empty).run together
    node.broadcasts.length = 2 ∧ node.bootstraps.length = 1 ∧ (node.calls.get? 2).isNone
      ∧ (node.publishers 0).closed = true := by
  decide +kernel

end Publishing.Sample

end GossipNames
