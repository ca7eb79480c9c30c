import GossipNames.Config
import Mathlib.Data.List.Chain

/-! How far the clock must reach for the ticks of a configuration. -/

namespace GossipNames

namespace Instant

theorem ofNanos?_eq_some_iff {nanos : Int} {instant : Instant} :
    ofNanos? nanos = some instant ↔ instant.nanos = nanos := by
  unfold ofNanos?
  split
  · rw [Option.some.injEq]
    constructor
    · rintro rfl
      rfl
    · rintro rfl
      rfl
  · rename_i out
    refine iff_of_false nofun ?_
    rintro rfl
    exact out instant.inRange

theorem isSome_ofNanos?_iff {nanos : Int} :
    (ofNanos? nanos).isSome = true ↔ -bound ≤ nanos ∧ nanos < bound := by
  unfold ofNanos?
  split
  · rename_i within
    exact iff_of_true rfl within
  · rename_i out
    exact iff_of_false Bool.false_ne_true out

theorem after?_eq_some_iff {instant later : Instant} {span : Nat} :
    instant.after? span = some later ↔ later.nanos = instant.nanos + span :=
  ofNanos?_eq_some_iff

theorem isSome_after?_iff {instant : Instant} {span : Nat} :
    (instant.after? span).isSome = true ↔ instant.nanos + span < bound := by
  rw [after?, isSome_ofNanos?_iff]
  have within := instant.inRange
  omega

end Instant

namespace Ticker

variable {ticker next : Ticker} {now : Instant}

/-- The tick after one that is taken at `now` is within reach of the clock. One that is on time is
rather put off by thirty years than given up; after a late one, the last of those that were missed
was due no longer ago than 64 bits of nanoseconds count. -/
def Reaches (ticker : Ticker) (now : Instant) : Prop :=
  if now.nanos - ticker.due.nanos ≤ tolerance then
    ticker.due.nanos + ticker.period < Instant.bound ∨ now.nanos + thirtyYears < Instant.bound
  else now.nanos + ticker.period < Instant.bound
    ∧ (now.nanos - ticker.due.nanos) % ticker.period < UInt64.size

theorem next?_onTime_iff (onTime : now.nanos - ticker.due.nanos ≤ tolerance) :
    ticker.next? now = some next ↔ next.period = ticker.period
      ∧ (ticker.due.after? ticker.period <|> now.after? thirtyYears) = some next.due := by
  rw [next?, if_pos onTime]
  obtain ⟨due, period⟩ := next
  cases ticker.due.after? ticker.period <|> now.after? thirtyYears with
  | none => simp
  | some later => simp [and_comm, eq_comm]

/-- A late tick is followed by one at an even distance from those that were missed. -/
theorem next?_late_iff (late : ¬ now.nanos - ticker.due.nanos ≤ tolerance) :
    ticker.next? now = some next ↔ next.period = ticker.period
      ∧ now.nanos + ticker.period < Instant.bound
      ∧ (now.nanos - ticker.due.nanos) % ticker.period < UInt64.size
      ∧ next.due.nanos = now.nanos + ticker.period
        - (now.nanos - ticker.due.nanos) % ticker.period := by
  rw [next?, if_neg late, ← Instant.isSome_after?_iff]
  obtain ⟨due, period⟩ := next
  cases reached : now.after? ticker.period with
  | none => simp
  | some later =>
    have at_later := Instant.after?_eq_some_iff.mp reached
    rw [← at_later, ← Instant.ofNanos?_eq_some_iff, Option.bind_eq_bind, Option.bind_some]
    by_cases counted : (now.nanos - ticker.due.nanos) % ticker.period < UInt64.size
    · rw [if_neg (Int.not_le.mpr counted), and_iff_right counted]
      cases Instant.ofNanos? (later.nanos - (now.nanos - ticker.due.nanos) % ticker.period) with
      | none => simp
      | some placed => simp [and_comm, eq_comm]
    · rw [if_pos (Int.not_lt.mp counted)]
      exact iff_of_false nofun fun ⟨_, _, within, _⟩ => counted within

theorem isSome_next?_iff (positive : 0 < ticker.period) :
    (ticker.next? now).isSome = true ↔ ticker.Reaches now := by
  unfold Reaches
  rw [Option.isSome_iff_exists]
  split
  · rename_i onTime
    rw [← Instant.isSome_after?_iff, ← Instant.isSome_after?_iff]
    simp only [next?_onTime_iff onTime]
    cases ticker.due.after? ticker.period with
    | some due => exact iff_of_true ⟨⟨due, ticker.period⟩, rfl, rfl⟩ (.inl rfl)
    | none =>
      cases now.after? thirtyYears with
      | some due => exact iff_of_true ⟨⟨due, ticker.period⟩, rfl, rfl⟩ (.inr rfl)
      | none => simp
  · rename_i late
    constructor
    · rintro ⟨next, ticked⟩
      obtain ⟨-, room, counted, -⟩ := (next?_late_iff late).mp ticked
      exact ⟨room, counted⟩
    · rintro ⟨room, counted⟩
      have apart : (0 : Int) < ticker.period := by omega
      have below := Int.emod_lt_of_pos (now.nanos - ticker.due.nanos) apart
      have above := Int.emod_nonneg (now.nanos - ticker.due.nanos) (Int.ne_of_gt apart)
      have within := now.inRange
      refine ⟨⟨⟨now.nanos + ticker.period - (now.nanos - ticker.due.nanos) % ticker.period, ?_⟩,
        ticker.period⟩, (next?_late_iff late).mpr ⟨rfl, room, counted, rfl⟩⟩
      omega

/-- The next tick is still to come, and the distance stays. -/
theorem next?_later (apart : tolerance < ticker.period) (ticked : ticker.next? now = some next) :
    now.nanos < next.due.nanos ∧ next.period = ticker.period := by
  by_cases onTime : now.nanos - ticker.due.nanos ≤ tolerance
  · obtain ⟨same, placed⟩ := (next?_onTime_iff onTime).mp ticked
    refine ⟨?_, same⟩
    cases regular : ticker.due.after? ticker.period with
    | some due =>
      rw [regular] at placed
      cases placed
      rw [Instant.after?_eq_some_iff.mp regular]
      omega
    | none =>
      rw [regular] at placed
      rw [Instant.after?_eq_some_iff.mp placed, thirtyYears]
      omega
  · obtain ⟨same, -, -, due⟩ := (next?_late_iff onTime).mp ticked
    have positive : (0 : Int) < ticker.period := by omega
    have below := Int.emod_lt_of_pos (now.nanos - ticker.due.nanos) positive
    exact ⟨by omega, same⟩

theorem ticks?_cons (ticker : Ticker) (now : Instant) (rest : List Instant) :
    ticker.ticks? (now :: rest) = (ticker.next? now).bind (·.ticks? rest) :=
  rfl

theorem period_ticks? (apart : tolerance < ticker.period) {readings : List Instant}
    (ticked : ticker.ticks? readings = some next) : next.period = ticker.period := by
  induction readings generalizing ticker with
  | nil => cases ticked; rfl
  | cons now rest ih =>
    rw [ticks?_cons, Option.bind_eq_some_iff] at ticked
    obtain ⟨second, first, ticked⟩ := ticked
    have same := (next?_later apart first).2
    exact (ih (same ▸ apart) ticked).trans same

/-- How long ago the last of the missed ticks was due is counted in 64 bits when the distance is, or
when no more time has passed since a reading before all of them. -/
theorem emod_period_lt {before : Instant} (positive : 0 < ticker.period)
    (begun : before.nanos ≤ ticker.due.nanos) (late : ¬ now.nanos - ticker.due.nanos ≤ tolerance)
    (counted : ticker.period ≤ UInt64.size ∨ now.nanos - before.nanos < UInt64.size) :
    (now.nanos - ticker.due.nanos) % ticker.period < UInt64.size := by
  have below := Int.emod_lt_of_pos (now.nanos - ticker.due.nanos) (Int.natCast_pos.mpr positive)
  by_cases first : now.nanos - ticker.due.nanos < ticker.period
  · rw [Int.emod_eq_of_lt (by omega) first]
    omega
  · omega

/-- No tick is out of reach as long as each is taken early enough on the clock, and soon enough after
the one before when the distance is longer than 64 bits count. -/
theorem isSome_ticks? (apart : tolerance < ticker.period) {start : Instant}
    (begun : start.nanos ≤ ticker.due.nanos) {readings : List Instant}
    (early : ∀ now ∈ readings, now.nanos + ticker.period < Instant.bound
      ∧ now.nanos + thirtyYears < Instant.bound)
    (counted : ticker.period ≤ UInt64.size ∨ (start :: readings).IsChain
      fun (before now : Instant) => now.nanos - before.nanos < UInt64.size) :
    (ticker.ticks? readings).isSome = true := by
  induction readings generalizing ticker start with
  | nil => rfl
  | cons now rest ih =>
    obtain ⟨⟨distance, years⟩, early⟩ := List.forall_mem_cons.mp early
    rw [List.isChain_cons_cons] at counted
    have reaches : ticker.Reaches now := by
      unfold Reaches
      split
      · exact .inr years
      · rename_i late
        exact ⟨distance, emod_period_lt (Nat.zero_lt_of_lt apart) begun late
          (counted.imp_right And.left)⟩
    obtain ⟨next, ticked⟩ := Option.isSome_iff_exists.mp
      ((isSome_next?_iff (Nat.zero_lt_of_lt apart)).mpr reaches)
    obtain ⟨coming, same⟩ := next?_later apart ticked
    rw [ticks?_cons, ticked]
    exact ih (same ▸ apart) (Int.le_of_lt coming) (same ▸ early) (same ▸ counted.imp_right And.right)

end Ticker

namespace Config

variable {config : Config}

theorem validate_eq_ok_iff :
    config.validate = .ok () ↔ config.republishInterval ≠ 0 ∧ config.followInterval ≠ 0 := by
  unfold validate
  split
  · rename_i zero
    exact iff_of_false nofun fun ⟨nonzero, _⟩ => nonzero zero
  · rename_i republishes
    split
    · rename_i zero
      exact iff_of_false nofun fun ⟨_, nonzero⟩ => nonzero zero
    · rename_i follows
      exact iff_of_true rfl ⟨republishes, follows⟩

/-- An interval that is not zero is kept, and is longer than any tick is late that is on time. -/
theorem period_eq {get : Config → UInt64} (nonzero : get config ≠ 0) :
    config.period get = (get config).toNat * 1000000000
      ∧ Ticker.tolerance < config.period get := by
  have positive : 0 < (get config).toNat := by
    rw [Nat.pos_iff_ne_zero]
    exact fun zero => nonzero (UInt64.toNat_inj.mp zero)
  have kept : config.period get = (get config).toNat * 1000000000 :=
    if_neg (by omega)
  refine ⟨kept, ?_⟩
  rw [kept, Ticker.tolerance]
  omega

/-- The ticks that the configuration sets, with the interval in seconds that they are for. -/
inductive Sets (config : Config) (start : Instant) : Ticker → UInt64 → Prop where
  | republish {ticker : Ticker} (reached : config.republishTicker? start = some ticker) :
    Sets config start ticker config.republishInterval
  | follow : Sets config start (config.followTicker start) config.followInterval

theorem Sets.period {start : Instant} {ticker : Ticker} {interval : UInt64}
    (sets : config.Sets start ticker interval) (accepted : config.validate = .ok ()) :
    ticker.period = interval.toNat * 1000000000 ∧ Ticker.tolerance < ticker.period := by
  obtain ⟨republishes, follows⟩ := validate_eq_ok_iff.mp accepted
  cases sets with
  | republish reached =>
    obtain ⟨due, -, placed⟩ := Option.bind_eq_some_iff.mp reached
    cases placed
    exact period_eq republishes
  | follow => exact period_eq follows

theorem Sets.begun {start : Instant} {ticker : Ticker} {interval : UInt64}
    (sets : config.Sets start ticker interval) : start.nanos ≤ ticker.due.nanos := by
  cases sets with
  | republish reached =>
    obtain ⟨due, later, placed⟩ := Option.bind_eq_some_iff.mp reached
    cases placed
    have first : due.nanos = _ := Instant.after?_eq_some_iff.mp later
    change start.nanos ≤ due.nanos
    omega
  | follow => exact Int.le_refl _

/-- What is accepted can be run from a start that leaves the republisher room for one interval on
the clock, and from no other one; a follow always begins. From then on a tick is out of reach only
when it is taken too late on the clock, or when the last one that was missed was due longer ago than
64 bits of nanoseconds count, which takes an interval and a wait for a tick that are both longer. Each
tick is still to come when it is placed. -/
theorem ticks_reach_iff (accepted : config.validate = .ok ()) (start : Instant) :
    ((config.republishTicker? start).isSome = true
      ↔ start.nanos + config.republishInterval.toNat * 1000000000 < Instant.bound)
    ∧ (config.followTicker start).due = start
    ∧ ∀ ticker interval, config.Sets start ticker interval →
      ticker.period = interval.toNat * 1000000000
      ∧ (∀ readings : List Instant,
        (∀ now ∈ readings, now.nanos + ticker.period < Instant.bound
          ∧ now.nanos + Ticker.thirtyYears < Instant.bound) →
        (ticker.period ≤ UInt64.size ∨ (start :: readings).IsChain
          fun (before now : Instant) => now.nanos - before.nanos < UInt64.size) →
        (ticker.ticks? readings).isSome = true)
      ∧ ∀ readings later, ticker.ticks? readings = some later → ∀ now,
        ((later.next? now).isSome = true ↔ later.Reaches now)
        ∧ ∀ next, later.next? now = some next → now.nanos < next.due.nanos := by
  obtain ⟨kept, -⟩ := period_eq (validate_eq_ok_iff.mp accepted).1
  refine ⟨?_, rfl, ?_⟩
  · have reached : (config.republishTicker? start).isSome = true
        ↔ start.nanos + config.period (·.republishInterval) < Instant.bound := by
      rw [← Instant.isSome_after?_iff, republishTicker?, Ticker.later?]
      cases start.after? (config.period (·.republishInterval)) with
      | none => rfl
      | some due => rfl
    rw [reached, kept, Int.natCast_mul]
    rfl
  · intro ticker interval sets
    obtain ⟨period, apart⟩ := sets.period accepted
    refine ⟨period, fun readings => Ticker.isSome_ticks? apart sets.begun, ?_⟩
    intro readings later ticked now
    have still : Ticker.tolerance < later.period :=
      Ticker.period_ticks? apart ticked ▸ apart
    exact ⟨Ticker.isSome_next?_iff (Nat.zero_lt_of_lt still),
      fun next placed => (Ticker.next?_later still placed).1⟩

namespace Sample

/-- The longest interval that can be given. -/
def longest : Config :=
  { standard with republishInterval := 18446744073709551615 }

/-- The longest interval that there is room for from the middle of the clock. -/
def fitting : Config :=
  { standard with republishInterval := 9223372036854775807 }

end Sample

open Sample in
theorem ticks_reach_iff_fitting : (fitting.republishTicker? .zero).isSome = true :=
  (ticks_reach_iff rfl .zero).1.mpr (by decide)

open Sample in
/-- An interval is accepted for which the republisher cannot even begin to wait. -/
theorem accepted_interval_unreachable :
    longest.validate = .ok () ∧ longest.republishTicker? .zero = none :=
  ⟨rfl, by decide⟩

end Config

end GossipNames
