import GossipNames.Gossip.Publisher
import GossipNames.Proofs.RepublishCycle
import GossipNames.Proofs.Unissued

/-! The end of life of a record that is to live for some time. It is worked out with spans and a
calendar that both have limits, which never show: it is the clock and the lifetime together, or the
latest end of life that a record can have. So nothing is ever refused because of it. -/

namespace GossipNames

/-- How long a record is to live: seconds of 64 bits, and nanoseconds that make up less than one. -/
structure Lifetime where
  seconds : UInt64
  nanos : Nat
  nanosBound : nanos < 1000000000

namespace Lifetime

def toNanos (lifetime : Lifetime) : Nat :=
  lifetime.seconds.toNat * 1000000000 + lifetime.nanos

/-- The longest span there is has as many milliseconds as a signed number of 64 bits can count. -/
def longest : Nat :=
  9223372036854775807 * 1000000

end Lifetime

namespace Timestamp

/-- Nanoseconds since the first of January 1970. -/
def toNanos (time : Timestamp) : Int :=
  time.seconds * 1000000000 + time.nanos

/-- The years that the calendar has; a clock shows a time in one of them. -/
def InCalendar (time : Timestamp) : Prop :=
  -262143 ≤ time.year ∧ time.year ≤ 262142

instance (time : Timestamp) : Decidable time.InCalendar :=
  inferInstanceAs (Decidable (_ ∧ _))

/-- A time and a lifetime later, if the lifetime is a span and the calendar gets that far. -/
def after? (time : Timestamp) (lifetime : Lifetime) : Option Timestamp := do
  guard (lifetime.toNanos ≤ Lifetime.longest)
  let later := time.after lifetime.seconds.toNat lifetime.nanos
  guard later.InCalendar
  return later

/-- The end of life in the steps it is worked out in. What is out of range becomes the latest. -/
def endOfLife (now : Timestamp) (lifetime : Lifetime) : Timestamp :=
  ((now.after? lifetime).filter fun time => !latest.isBefore time).getD latest

theorem instant_le_iff {first second : Timestamp} :
    first.instant ≤ second.instant ↔ first.seconds < second.seconds
      ∨ first.seconds = second.seconds ∧ first.nanos ≤ second.nanos := by
  rw [instant, instant, Prod.Lex.toLex_le_toLex]

theorem instant_endOfLifeAfter (now : Timestamp) (seconds nanos : Nat) :
    (endOfLifeAfter now seconds nanos).instant
      = min (now.after seconds nanos).instant latest.instant := by
  unfold endOfLifeAfter
  dsimp only
  split
  · rename_i late
    exact (min_eq_right (isBefore_iff.mp late).le).symm
  · rename_i timely
    exact (min_eq_left (not_lt.mp (mt isBefore_iff.mpr timely))).symm

/-- A time is put off within its leap second, or the leap second counts as a plain one. -/
theorem after_cases (now : Timestamp) (seconds nanos : Nat) :
    let later := now.after seconds nanos
    (now.inLeapSecond = true ∧ seconds = 0 ∧ now.nanos + nanos < 2000000000
        ∧ later.seconds = now.seconds ∧ later.nanos = now.nanos + nanos)
      ∨ (now.inLeapSecond = true → seconds = 0 → 2000000000 ≤ now.nanos + nanos)
        ∧ later.seconds = now.seconds + seconds
          + (now.nanos % 1000000000 + nanos : Nat) / 1000000000
        ∧ later.nanos = (now.nanos % 1000000000 + nanos) % 1000000000 := by
  intro later
  by_cases inside : now.inLeapSecond ∧ seconds = 0 ∧ now.nanos + nanos < 2000000000
  · left
    have kept : later = _ := dif_pos inside
    rw [kept]
    exact ⟨inside.1, inside.2.1, inside.2.2, rfl, rfl⟩
  · right
    have plain : later = _ := dif_neg inside
    rw [plain]
    refine ⟨?_, rfl, rfl⟩
    intro leap whole
    by_contra short
    exact inside ⟨leap, whole, by omega⟩

theorem seconds_after (now : Timestamp) (seconds nanos : Nat) :
    now.seconds + seconds ≤ (now.after seconds nanos).seconds := by
  rcases after_cases now seconds nanos with ⟨-, rfl, -, same, -⟩ | ⟨-, sum, -⟩ <;> omega

/-- Who waits longer does not get there earlier, not even from within a leap second. -/
theorem after_mono (now : Timestamp) {shorter longer : Lifetime}
    (less : shorter.toNanos ≤ longer.toNanos) :
    (now.after shorter.seconds.toNat shorter.nanos).instant
      ≤ (now.after longer.seconds.toNat longer.nanos).instant := by
  have bound := shorter.nanosBound
  have bound' := longer.nanosBound
  have within := now.nanosBound
  unfold Lifetime.toNanos at less
  rw [instant_le_iff]
  rcases after_cases now shorter.seconds.toNat shorter.nanos
    with ⟨leap, none, short, seconds, nanos⟩ | ⟨out, seconds, nanos⟩
  · have beyond : 1000000000 ≤ now.nanos := of_decide_eq_true leap
    rcases after_cases now longer.seconds.toNat longer.nanos
      with ⟨-, none', -, seconds', nanos'⟩ | ⟨out', seconds', nanos'⟩
    · omega
    · have out := out' leap
      omega
  · rcases after_cases now longer.seconds.toNat longer.nanos
      with ⟨leap, none', short', -⟩ | ⟨-, seconds', nanos'⟩
    · have out := out leap
      omega
    · omega

/-- Outside of leap seconds times are put off exactly. -/
theorem toNanos_after {now : Timestamp} (plain : now.inLeapSecond = false) (seconds nanos : Nat) :
    (now.after seconds nanos).toNanos = now.toNanos + (seconds * 1000000000 + nanos : Nat)
      ∧ (now.after seconds nanos).inLeapSecond = false := by
  have small : ¬ 1000000000 ≤ now.nanos := of_decide_eq_false plain
  rcases after_cases now seconds nanos with ⟨leap, -⟩ | ⟨-, sum, part⟩
  · rw [plain] at leap
    cases leap
  · constructor
    · unfold toNanos
      omega
    · apply decide_eq_false
      omega

theorem seconds_of_inCalendar {time : Timestamp} (read : time.InCalendar) :
    -8334601228800 ≤ time.seconds := by
  have begun : Calendar.daysBeforeYear (-262143) = -95745764 := by decide
  have early : -262143 ≤ Calendar.yearOfDay _ := read.1
  rw [Calendar.le_yearOfDay_iff, begun, Rfc3339.epochDays] at early
  omega

theorem year_mono {first second : Timestamp} (before : first.seconds ≤ second.seconds) :
    first.year ≤ second.year := by
  change Calendar.yearOfDay _ ≤ Calendar.yearOfDay _
  rw [Calendar.le_yearOfDay_iff]
  refine (Calendar.le_yearOfDay_iff.mp le_rfl).trans ?_
  omega

theorem after?_eq_some_iff {now later : Timestamp} {lifetime : Lifetime} :
    now.after? lifetime = some later ↔
      lifetime.toNanos ≤ Lifetime.longest
        ∧ (now.after lifetime.seconds.toNat lifetime.nanos).InCalendar
        ∧ now.after lifetime.seconds.toNat lifetime.nanos = later := by
  simp [after?, Option.bind_eq_some_iff, Option.guard_eq_some']

/-- What is not past the latest end of life is no further away than a span, and in the calendar. -/
theorem after?_of_not_late {now : Timestamp} (read : now.InCalendar) {lifetime : Lifetime}
    (timely : latest.isBefore (now.after lifetime.seconds.toNat lifetime.nanos) = false) :
    now.after? lifetime = some (now.after lifetime.seconds.toNat lifetime.nanos) := by
  have begun := seconds_of_inCalendar read
  have later := seconds_after now lifetime.seconds.toNat lifetime.nanos
  have year := year_le_of_not_late timely
  have ended := (year_le_iff _).mp year
  refine after?_eq_some_iff.mpr ⟨?_, ⟨?_, by omega⟩, rfl⟩
  · have small := lifetime.nanosBound
    unfold Lifetime.toNanos Lifetime.longest
    omega
  · exact read.1.trans (year_mono (by omega))

/-- Neither limit shows. -/
theorem endOfLife_eq_endOfLifeAfter {now : Timestamp} (read : now.InCalendar)
    (lifetime : Lifetime) :
    endOfLife now lifetime = endOfLifeAfter now lifetime.seconds.toNat lifetime.nanos := by
  unfold endOfLife endOfLifeAfter
  dsimp only
  cases late : latest.isBefore (now.after lifetime.seconds.toNat lifetime.nanos) with
  | false =>
    rw [after?_of_not_late read late]
    simp [Option.filter, late]
  | true =>
    cases reached : now.after? lifetime with
    | none => rfl
    | some later =>
      obtain ⟨-, -, rfl⟩ := after?_eq_some_iff.mp reached
      simp [Option.filter, late]

theorem endOfLifeAfter_mono (now : Timestamp) {shorter longer : Lifetime}
    (less : shorter.toNanos ≤ longer.toNanos) :
    (endOfLifeAfter now shorter.seconds.toNat shorter.nanos).instant
      ≤ (endOfLifeAfter now longer.seconds.toNat longer.nanos).instant := by
  rw [instant_endOfLifeAfter, instant_endOfLifeAfter]
  exact min_le_min_right _ (after_mono now less)

theorem latest_isBefore_iff {time : Timestamp} (plain : time.inLeapSecond = false) :
    latest.isBefore time = true ↔ latest.toNanos < time.toNanos := by
  have small : ¬ 1000000000 ≤ time.nanos := of_decide_eq_false plain
  rw [isBefore, decide_eq_true_iff]
  simp only [latest, ofSeconds, toNanos]
  omega

/-- Outside of leap seconds the clock and the lifetime are added, as far as the latest time. -/
theorem endOfLifeAfter_plain {now : Timestamp} (plain : now.inLeapSecond = false)
    (lifetime : Lifetime) :
    let endOfLife := endOfLifeAfter now lifetime.seconds.toNat lifetime.nanos
    (now.toNanos + lifetime.toNanos ≤ latest.toNanos →
        endOfLife.toNanos = now.toNanos + lifetime.toNanos ∧ endOfLife.inLeapSecond = false)
      ∧ (latest.toNanos < now.toNanos + lifetime.toNanos → endOfLife = latest) := by
  obtain ⟨sum, still⟩ := toNanos_after plain lifetime.seconds.toNat lifetime.nanos
  change _ = now.toNanos + lifetime.toNanos at sum
  have late := latest_isBefore_iff still
  rw [sum] at late
  unfold endOfLifeAfter
  dsimp only
  constructor
  · intro reached
    rw [if_neg (mt late.mp (not_lt.mpr reached))]
    exact ⟨sum, still⟩
  · intro beyond
    exact if_pos (late.mpr beyond)

end Timestamp

section Refusals

variable [SignatureScheme]

/-- No record is refused because of this end of life. Where it seems so, what is kept for the
identity is no record itself. -/
structure Timestamp.IsAccepted (endOfLife : Timestamp) : Prop where
  created : ∀ (key : Keypair) (value : Path) (sequence : UInt64) (text : String),
    NameRecord.create key value sequence endOfLife ≠ .error (.validity text)
  issued : ∀ (faults : StoreFaults) (store : Datastore) (key : Keypair) (value : Path)
      (text : String),
    (RecordStore.issue faults store key value endOfLife).2 = .error (.record (.validity text)) →
      RecordStore.last? faults store key.peerId = .error (.record (.validity text))
  prepared : ∀ (publisher : GossipPublisher) (faults : StoreFaults) (store : Datastore)
      (key : Keypair) (value : Path) (text : String),
    (publisher.prepare faults store key value endOfLife).2 = .error (.record (.validity text)) →
      RecordStore.last? faults store key.peerId = .error (.record (.validity text))
  refreshed : ∀ (last? : PeerId → Except NameError (Option NameRecord)) (key : Keypair)
      (text : String),
    refresh last? endOfLife key = .error (.record (.validity text)) →
      last? key.peerId = .error (.record (.validity text))

variable {faults : StoreFaults} {store : Datastore} {key : Keypair} {value : Path}
  {endOfLife : Timestamp} {text : String}

theorem NameRecord.create_ne_validity {sequence : UInt64}
    (timely : Timestamp.latest.isBefore endOfLife = false) :
    create key value sequence endOfLife ≠ .error (.validity text) := by
  intro failed
  rcases create_error.mp failed with ⟨late, -⟩ | ⟨-, reason, -, other⟩
  · rw [timely] at late
    cases late
  · cases other

theorem RecordStore.last?_of_issue_validity
    (timely : Timestamp.latest.isBefore endOfLife = false)
    (failed : (issue faults store key value endOfLife).2 = .error (.record (.validity text))) :
    last? faults store key.peerId = .error (.record (.validity text)) := by
  have unissued := issue_error_iff_unissued.mp failed
  generalize same : NameError.record (.validity text) = error at unissued
  cases unissued with
  | undecodable readable kept corrupt =>
    obtain rfl := NameError.record.inj same
    simp [last?, readable, kept, corrupt]
  | late _ _ late =>
    rw [timely] at late
    cases late
  | unread => cases same
  | exhausted => cases same
  | unsigned => cases same
  | unwritten => cases same

theorem GossipPublisher.prepare_error {publisher : GossipPublisher} {error : NameError} :
    (publisher.prepare faults store key value endOfLife).2 = .error error ↔
      publisher.closed = true ∧ error = .closed
        ∨ publisher.closed = false
          ∧ (RecordStore.issue faults store key value endOfLife).2 = .error error := by
  unfold prepare
  cases publisher.closed with
  | true => simp [eq_comm]
  | false =>
    rcases RecordStore.issue faults store key value endOfLife with ⟨after, _ | record⟩ <;>
      simp

theorem refresh_validity {last? : PeerId → Except NameError (Option NameRecord)}
    (timely : Timestamp.latest.isBefore endOfLife = false)
    (failed : refresh last? endOfLife key = .error (.record (.validity text))) :
    last? key.peerId = .error (.record (.validity text)) := by
  rcases refresh_error.mp failed with unread | ⟨record, fault, -, unsigned, same⟩
  · exact unread
  · obtain rfl := NameError.record.inj same
    exact absurd unsigned (NameRecord.create_ne_validity timely)

theorem Timestamp.isAccepted_of_not_late
    (timely : Timestamp.latest.isBefore endOfLife = false) : endOfLife.IsAccepted where
  created _ _ _ _ := NameRecord.create_ne_validity timely
  issued _ _ _ _ _ := RecordStore.last?_of_issue_validity timely
  prepared _ _ _ _ _ _ failed := by
    rcases GossipPublisher.prepare_error.mp failed with ⟨-, other⟩ | ⟨-, unissued⟩
    · cases other
    · exact RecordStore.last?_of_issue_validity timely unissued
  refreshed _ _ _ := refresh_validity timely

/-- However long records are to live, no cycle ends because of an end of life. -/
theorem Republishing.last?_of_cycle_validity {conditions : Conditions} {identity : Keypair}
    {node : Node}
    (failed : (conditions.cycle identity node).1 = .error (.record (.validity text))) :
    ∃ key, .ok key ∈ agenda identity node.keyring?
      ∧ node.last? key.peerId = .error (.record (.validity text)) := by
  obtain ⟨keys, rest, puts, count, all, -, ending⟩ :=
    run_prefix conditions node.last? (agenda identity node.keyring?) 0 node
  unfold Conditions.run at ending
  rw [← republish_eq_walk] at ending
  change _ ∧ conditions.cycle identity node = _ ∨ ∃ item later tried error, _ ∧ _
    ∧ conditions.cycle identity node = _ at ending
  rcases ending with ⟨-, done⟩ | ⟨item, later, tried, error, rfl, fails, ended⟩
  · rw [done] at failed
    cases failed
  · rw [ended] at failed
    have listed : item ∈ agenda identity node.keyring? := by simp [all]
    obtain rfl := Except.error.inj failed
    generalize same : NameError.record (.validity text) = error at fails
    cases fails with
    | missing =>
      obtain ⟨fault, other⟩ := agenda_error listed
      cases same.trans other
    | unread unread => exact ⟨_, listed, same ▸ unread⟩
    | unsigned _ failed =>
      obtain rfl := NameError.record.inj same
      exact absurd failed (NameRecord.create_ne_validity
        (Timestamp.not_latest_isBefore_endOfLifeAfter _ _ _))
    | recordRefused => cases same
    | keyRefused => cases same

end Refusals

namespace Timestamp

/-- Whatever the clock shows and however long a record is to live, no limit on the way shows in its
end of life: that is the clock and the lifetime together, cut off at the latest one. A longer
lifetime does not end earlier. Outside of leap seconds the sum is exact as far as the latest end of
life, and from there on it is that one. No record is refused because of its end of life, neither when
it is issued nor when it is signed again, and no cycle of republishing ends because of one. -/
theorem endOfLife_clamped [SignatureScheme] (now : Timestamp) (read : now.InCalendar) :
    (∀ lifetime : Lifetime,
        endOfLife now lifetime = endOfLifeAfter now lifetime.seconds.toNat lifetime.nanos
          ∧ latest.isBefore (endOfLife now lifetime) = false
          ∧ (now.inLeapSecond = false →
            (now.toNanos + lifetime.toNanos ≤ latest.toNanos →
              (endOfLife now lifetime).toNanos = now.toNanos + lifetime.toNanos
                ∧ (endOfLife now lifetime).inLeapSecond = false)
            ∧ (latest.toNanos < now.toNanos + lifetime.toNanos →
              endOfLife now lifetime = latest))
          ∧ (endOfLife now lifetime).IsAccepted)
      ∧ (∀ shorter longer : Lifetime, shorter.toNanos ≤ longer.toNanos →
        (endOfLife now longer).isBefore (endOfLife now shorter) = false)
      ∧ ∀ (conditions : Republishing.Conditions) (identity : Keypair) (node : Republishing.Node)
          (text : String),
        (conditions.cycle identity node).1 = .error (.record (.validity text)) →
          ∃ key, .ok key ∈ Republishing.agenda identity node.keyring?
            ∧ node.last? key.peerId = .error (.record (.validity text)) := by
  refine ⟨fun lifetime => ?_, fun shorter longer less => ?_, fun _ _ _ _ failed =>
    Republishing.last?_of_cycle_validity failed⟩
  · rw [endOfLife_eq_endOfLifeAfter read]
    have timely := not_latest_isBefore_endOfLifeAfter now lifetime.seconds.toNat lifetime.nanos
    exact ⟨rfl, timely, fun plain => endOfLifeAfter_plain plain lifetime,
      isAccepted_of_not_late timely⟩
  · rw [endOfLife_eq_endOfLifeAfter read, endOfLife_eq_endOfLifeAfter read, Bool.eq_false_iff,
      ne_eq, isBefore_iff, not_lt]
    exact endOfLifeAfter_mono now less

open NameRecord.Sample

namespace Sample

/-- Half a second before the latest end of life. -/
def lateClock : Timestamp :=
  ofPlainParts 253402300798 500000000

def halfSecond : Lifetime where
  seconds := 0
  nanos := 500000000
  nanosBound := by decide

/-- More than a span can have. -/
def forever : Lifetime where
  seconds := 18446744073709551615
  nanos := 999999999
  nanosBound := by decide

end Sample

open Sample in
/-- Half a second gets exactly to the latest end of life and no longer lifetime gets any further. -/
theorem endOfLife_clamped_lateClock :
    lateClock.InCalendar ∧ lateClock.inLeapSecond = false
      ∧ Lifetime.longest < forever.toNanos
      ∧ (endOfLife lateClock halfSecond).toNanos = latest.toNanos
      ∧ endOfLife lateClock forever = latest
      ∧ (endOfLife lateClock forever).isBefore (endOfLife lateClock halfSecond) = false
      ∧ ∀ text, NameRecord.create key target 1 (endOfLife lateClock forever)
        ≠ .error (.validity text) := by
  have read : lateClock.InCalendar := by decide
  have plain : lateClock.inLeapSecond = false := by decide
  obtain ⟨clamped, mono, -⟩ := endOfLife_clamped lateClock read
  obtain ⟨-, -, half, -⟩ := clamped halfSecond
  obtain ⟨-, -, never, accepted⟩ := clamped forever
  exact ⟨read, plain, by decide, (half plain).1 (by decide) |>.1, (never plain).2 (by decide),
    mono halfSecond forever (by decide), accepted.created key target 1⟩

end Timestamp

end GossipNames
