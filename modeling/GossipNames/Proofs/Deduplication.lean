import GossipNames.Gossip.Payload

/-! Dropping what was seen before. A message is known by its topic and its content and by nothing
else, so a node that drops the ids it knows drops no message that it has not let through before,
unless two digests begin alike. -/

namespace GossipNames

/-- Two different byte strings whose digests begin with the same bytes. -/
def Sha256.Collide (width : Nat) (first second : Bytes) : Prop :=
  first ≠ second ∧ (hash first).take width = (hash second).take width

instance (width : Nat) (first second : Bytes) : Decidable (Sha256.Collide width first second) :=
  inferInstanceAs (Decidable (_ ∧ _))

namespace GossipPacket

variable {first second : GossipPacket}

theorem identifyingBytes_eq_iff :
    first.identifyingBytes = second.identifyingBytes
      ↔ first.topic = second.topic ∧ first.data = second.data := by
  constructor
  · intro same
    simp only [GossipMessage.identifyingBytes, List.append_assoc] at same
    -- The length takes eight bytes in front whatever it is, and tells where the topic ends.
    obtain ⟨lengths, contents⟩ := List.append_inj same (by simp)
    obtain ⟨topics, data⟩ := List.append_inj contents
      (Bytes.ofNatLittleEndian_injective 8 first.announced second.announced lengths)
    exact ⟨Bytes.ofString_inj.mp topics, data⟩
  · rintro ⟨topic, data⟩
    rw [GossipMessage.identifyingBytes, topic, data]
    rfl

theorem id_eq_iff :
    first.id = second.id
      ↔ (first.topic = second.topic ∧ first.data = second.data)
        ∨ Sha256.Collide 20 first.identifyingBytes second.identifyingBytes := by
  rw [← identifyingBytes_eq_iff]
  constructor
  · intro alike
    by_cases same : first.identifyingBytes = second.identifyingBytes
    · exact .inl same
    · exact .inr ⟨same, alike⟩
  · rintro (same | ⟨-, alike⟩)
    · rw [GossipMessage.id, same]
      rfl
    · exact alike

end GossipPacket

/-- A packet and when it comes in, in milliseconds. -/
structure Arrival extends GossipPacket where
  time : Nat
  deriving DecidableEq

/-- What of an arrival is looked at to find duplicates. -/
structure Sighting where
  time : Nat
  id : Bytes

def Arrival.sighting (arrival : Arrival) : Sighting where
  time := arrival.time
  id := arrival.id

/-- Tells whether a sighting is a duplicate after those that came before it, of which the latest
stands first. -/
structure DuplicateFilter where
  isDuplicate (earlier : List Sighting) (now : Sighting) : Bool

namespace DuplicateFilter

/-- What is promised of a filter with a span: only an id that came in before is a duplicate, and one
that got through is a duplicate until the span is over. -/
structure Remembers (filter : DuplicateFilter) (span : Nat) : Prop where
  known {earlier : List Sighting} {now : Sighting} (duplicate : filter.isDuplicate earlier now) :
    ∃ other ∈ earlier, other.id = now.id
  kept {later earlier : List Sighting} {first now : Sighting}
    (fresh : filter.isDuplicate earlier first = false) (same : first.id = now.id)
    (inOrder : ∀ other ∈ later, other.time ≤ now.time) (soon : now.time < first.time + span) :
    filter.isDuplicate (later ++ first :: earlier) now

section

variable (filter : DuplicateFilter)

def Drops (earlier : List Arrival) (arrival : Arrival) : Prop :=
  filter.isDuplicate (earlier.map Arrival.sighting) arrival.sighting

instance (earlier : List Arrival) (arrival : Arrival) : Decidable (filter.Drops earlier arrival) :=
  inferInstanceAs (Decidable (_ = true))

/-- The arrivals that get through. Here too the latest stands first. -/
def passed : List Arrival → List Arrival
  | [] => []
  | arrival :: earlier =>
    if filter.Drops earlier arrival then passed earlier else arrival :: passed earlier

end

variable {filter : DuplicateFilter} {span : Nat} {earlier : List Arrival} {arrival other : Arrival}

theorem mem_passed_cons :
    other ∈ filter.passed (arrival :: earlier)
      ↔ (arrival = other ∧ ¬ filter.Drops earlier arrival) ∨ other ∈ filter.passed earlier := by
  rw [passed]
  split
  · rename_i dropped
    simp [dropped]
  · rename_i fresh
    simp [fresh, eq_comm]

theorem mem_passed_iff :
    other ∈ filter.passed earlier
      ↔ ∃ later before, earlier = later ++ other :: before ∧ ¬ filter.Drops before other := by
  induction earlier with
  | nil => simp [passed]
  | cons head rest ih =>
    rw [mem_passed_cons, ih]
    constructor
    · rintro (⟨rfl, fresh⟩ | ⟨later, before, rfl, fresh⟩)
      · exact ⟨[], rest, rfl, fresh⟩
      · exact ⟨head :: later, before, rfl, fresh⟩
    · rintro ⟨later, before, same, fresh⟩
      cases later with
      | nil => cases same; exact .inl ⟨rfl, fresh⟩
      | cons _ later => cases same; exact .inr ⟨later, before, rfl, fresh⟩

theorem exists_mem_of_drops (remembers : filter.Remembers span)
    (dropped : filter.Drops earlier arrival) : ∃ known ∈ earlier, known.id = arrival.id := by
  obtain ⟨_, sighted, same⟩ := remembers.known dropped
  obtain ⟨known, member, rfl⟩ := List.mem_map.mp sighted
  exact ⟨known, member, same⟩

/-- Of all that came in under an id, something got through. -/
theorem exists_passed (remembers : filter.Remembers span) (seen : other ∈ earlier) :
    ∃ through ∈ filter.passed earlier, through.id = other.id := by
  induction earlier generalizing other with
  | nil => cases seen
  | cons head rest ih =>
    rcases List.mem_cons.mp seen with rfl | before
    · by_cases dropped : filter.Drops rest other
      · obtain ⟨known, before, same⟩ := exists_mem_of_drops remembers dropped
        obtain ⟨through, member, alike⟩ := ih before
        exact ⟨through, mem_passed_cons.mpr (.inr member), alike.trans same⟩
      · exact ⟨other, mem_passed_cons.mpr (.inl ⟨rfl, dropped⟩), rfl⟩
    · obtain ⟨through, member, alike⟩ := ih before
      exact ⟨through, mem_passed_cons.mpr (.inr member), alike⟩

theorem drops_of_mem_passed (remembers : filter.Remembers span)
    (through : other ∈ filter.passed earlier) (same : other.id = arrival.id)
    (inOrder : ∀ before ∈ earlier, before.time ≤ arrival.time)
    (soon : arrival.time < other.time + span) : filter.Drops earlier arrival := by
  obtain ⟨later, before, rfl, fresh⟩ := mem_passed_iff.mp through
  rw [Drops, List.map_append, List.map_cons]
  refine remembers.kept (Bool.eq_false_iff.mpr fresh) same ?_ soon
  intro sighting sighted
  obtain ⟨between, member, rfl⟩ := List.mem_map.mp sighted
  exact inOrder between (List.mem_append_left _ member)

/-! A filter that keeps the ids that got through with their times. -/

/-- The one sighting is of the same id as the other, and its span is not over. -/
def isRepeat (span : Nat) (now other : Sighting) : Bool :=
  other.id = now.id ∧ now.time < other.time + span

def remembered (span : Nat) : List Sighting → List Sighting
  | [] => []
  | now :: earlier =>
    let known := remembered span earlier
    if known.any (isRepeat span now) then known else now :: known

def timed (span : Nat) : DuplicateFilter where
  isDuplicate earlier now := (remembered span earlier).any (isRepeat span now)

theorem remembered_subset (span : Nat) (earlier : List Sighting) :
    remembered span earlier ⊆ earlier := by
  induction earlier with
  | nil => exact List.Subset.refl _
  | cons now earlier ih =>
    rw [remembered]
    split
    · exact List.subset_cons_of_subset _ ih
    · exact List.cons_subset_cons _ ih

theorem remembered_suffix (span : Nat) (later earlier : List Sighting) :
    remembered span earlier <:+ remembered span (later ++ earlier) := by
  induction later with
  | nil => exact List.suffix_rfl
  | cons now later ih =>
    rw [List.cons_append, remembered]
    split
    · exact ih
    · exact ih.trans (List.suffix_cons _ _)

theorem timed_remembers (span : Nat) : (timed span).Remembers span where
  known duplicate := by
    obtain ⟨other, member, repeats⟩ := List.any_eq_true.mp duplicate
    exact ⟨other, remembered_subset span _ member, (of_decide_eq_true repeats).1⟩
  kept := by
    intro later earlier first now fresh same _ soon
    have unknown : (remembered span earlier).any (isRepeat span first) = false := fresh
    have member : first ∈ remembered span (first :: earlier) := by
      rw [remembered, if_neg (Bool.eq_false_iff.mp unknown)]
      exact List.mem_cons_self
    exact List.any_eq_true.mpr ⟨first, (remembered_suffix span later _).subset member,
      decide_eq_true ⟨same, soon⟩⟩

/-- Two packets are known by the same bytes exactly when their topics and their contents are the
same, whoever sent them under whatever number, and by the same id only then or when two digests begin
alike. So, such digests apart, a filter of duplicates drops a packet only after one of the same topic
and content got through, and drops each such packet until the span is over, whoever sends it. -/
theorem known_by_content :
    (∀ first second : GossipPacket,
        (first.identifyingBytes = second.identifyingBytes
          ↔ first.topic = second.topic ∧ first.data = second.data)
        ∧ (first.id = second.id
          ↔ (first.topic = second.topic ∧ first.data = second.data)
            ∨ Sha256.Collide 20 first.identifyingBytes second.identifyingBytes))
      ∧ ∀ (filter : DuplicateFilter) (span : Nat), filter.Remembers span →
        ∀ (earlier : List Arrival) (arrival : Arrival),
        (filter.Drops earlier arrival →
          ∃ through ∈ filter.passed earlier,
            (through.topic = arrival.topic ∧ through.data = arrival.data)
              ∨ Sha256.Collide 20 through.identifyingBytes arrival.identifyingBytes)
        ∧ ((∀ before ∈ earlier, before.time ≤ arrival.time) →
          ∀ through ∈ filter.passed earlier,
            through.topic = arrival.topic → through.data = arrival.data →
            arrival.time < through.time + span → filter.Drops earlier arrival) := by
  refine ⟨fun first second => ⟨GossipPacket.identifyingBytes_eq_iff, GossipPacket.id_eq_iff⟩, ?_⟩
  intro filter span remembers earlier arrival
  constructor
  · intro dropped
    obtain ⟨known, seen, same⟩ := exists_mem_of_drops remembers dropped
    obtain ⟨through, member, alike⟩ := exists_passed remembers seen
    exact ⟨through, member, GossipPacket.id_eq_iff.mp (alike.trans same)⟩
  · intro inOrder through member topic data soon
    have alike : through.id = arrival.id := GossipPacket.id_eq_iff.mpr (.inl ⟨topic, data⟩)
    exact drops_of_mem_passed remembers member alike inOrder soon

namespace Sample

def sender : PeerId :=
  ⟨.identity, [9], by decide⟩

def stranger : PeerId :=
  ⟨.identity, [10], by decide⟩

def first : Arrival where
  topic := "/ipns/a"
  data := [98, 99]
  source := some sender
  sequence := some 1
  announced := by decide
  time := 0

/-- A byte of the content has gone over to the topic. -/
def shifted : Arrival where
  topic := "/ipns/ab"
  data := [99]
  source := some sender
  sequence := some 1
  announced := by decide
  time := 1000

def again : Arrival where
  topic := "/ipns/a"
  data := [98, 99]
  source := some stranger
  sequence := none
  announced := by decide
  time := 119999

end Sample

open Sample in
/-- A packet does not keep out one with a byte moved from the content to the topic, and keeps out one
that says the same for somebody else. -/
theorem known_by_content_shifted :
    let filter := timed GossipParameters.standard.duplicateLife
    first.identifyingBytes ≠ shifted.identifyingBytes ∧ first.id ≠ shifted.id
      ∧ first.id = again.id
      ∧ ¬ filter.Drops [first] shifted
      ∧ filter.Drops [shifted, first] again
      ∧ ∃ through ∈ filter.passed [shifted, first],
        through.topic = again.topic ∧ through.data = again.data := by
  intro filter
  have remembers := timed_remembers GossipParameters.standard.duplicateLife
  have topics : first.topic ≠ shifted.topic := by decide
  have apart : ∀ one ∈ [shifted, first], ∀ other ∈ [shifted, again],
      ¬ Sha256.Collide 20 one.identifyingBytes other.identifyingBytes := by
    decide +kernel
  have moved := known_by_content.1 first.toGossipPacket shifted.toGossipPacket
  have said := known_by_content.1 first.toGossipPacket again.toGossipPacket
  have dropped : filter.Drops [shifted, first] again := by
    have through : first ∈ filter.passed [shifted, first] :=
      mem_passed_iff.mpr ⟨[shifted], [], rfl, nofun⟩
    exact (known_by_content.2 filter _ remembers [shifted, first] again).2 (by decide) first through
      rfl rfl (by decide)
  refine ⟨?_, ?_, said.2.mpr (.inl ⟨rfl, rfl⟩), ?_, dropped, ?_⟩
  · intro same
    exact topics (moved.1.mp same).1
  · intro alike
    have same := (moved.2.mp alike).resolve_right (apart first (by simp) shifted (by simp))
    exact topics same.1
  · intro dropped
    obtain ⟨through, member, either⟩ :=
      (known_by_content.2 filter _ remembers [first] shifted).1 dropped
    obtain rfl : through = first := List.mem_singleton.mp member
    exact topics (either.resolve_right (apart first (by simp) shifted (by simp))).1
  · obtain ⟨through, member, either⟩ :=
      (known_by_content.2 filter _ remembers [shifted, first] again).1 dropped
    have earlier : through ∈ [shifted, first] := by
      obtain ⟨_, _, same, -⟩ := mem_passed_iff.mp member
      rw [same]
      exact List.mem_append_right _ List.mem_cons_self
    exact ⟨through, member, either.resolve_right (apart through earlier again (by simp))⟩

end DuplicateFilter

end GossipNames
