import GossipNames.Proofs.StatedTime

/-! Times are read back from the texts they are written as, when their year has four digits; any
other year is written with a sign, and then nothing is read. -/

namespace GossipNames

namespace Timestamp

/-- The calendar year of a time. -/
def year (time : Timestamp) : Int :=
  (Calendar.Date.ofDays (time.seconds / 86400 + Rfc3339.epochDays)).year

theorem year_nonneg_iff (time : Timestamp) : 0 ≤ time.year ↔ -62167219200 ≤ time.seconds := by
  have begun : Calendar.daysBeforeYear 0 = 0 := rfl
  change 0 ≤ Calendar.yearOfDay _ ↔ _
  rw [Calendar.le_yearOfDay_iff, begun, Rfc3339.epochDays]
  omega

theorem year_le_iff (time : Timestamp) : time.year ≤ 9999 ↔ time.seconds ≤ 253402300799 := by
  have next : Calendar.daysBeforeYear 10000 = 3652425 := rfl
  have later : 10000 ≤ time.year ↔ 253402300800 ≤ time.seconds := by
    change 10000 ≤ Calendar.yearOfDay _ ↔ _
    rw [Calendar.le_yearOfDay_iff, next, Rfc3339.epochDays]
    omega
  omega

/-- The latest end of life is the beginning of the last second with a four-digit year. -/
theorem year_le_of_not_late {time : Timestamp} (timely : latest.isBefore time = false) :
    time.year ≤ 9999 := by
  rw [year_le_iff]
  have notLater := of_decide_eq_false timely
  simp only [latest, ofSeconds] at notLater
  omega

end Timestamp

namespace Rfc3339

/-- The second and the part of a second that a time is written with. -/
def shownSecond (time : Timestamp) : Nat × Nat :=
  if time.inLeapSecond then (60, time.nanos - 1000000000)
  else ((time.seconds % 86400).toNat % 60, time.nanos)

theorem shownSecond_bounds (time : Timestamp) :
    (shownSecond time).1 ≤ 60 ∧ (shownSecond time).2 < 1000000000 := by
  have bound := time.nanosBound
  unfold shownSecond
  split
  · dsimp only
    omega
  · rename_i plain
    have below : time.nanos < 1000000000 := by simpa [Timestamp.inLeapSecond] using plain
    dsimp only
    omega

theorem fractionNanos_padded {nanos : Nat} (small : nanos < 1000000000) :
    fractionNanos (padded 9 nanos).toList = nanos := by
  have length : (padded 9 nanos).toList.length = 9 := length_padded (by decide) small
  rw [fractionNanos, List.take_append_of_le_length (Nat.le_of_eq length.symm),
    List.take_of_length_le (Nat.le_of_eq length), ofDigitChars_padded]

theorem fractionChars_padded {nanos : Nat} (small : nanos < 1000000000) :
    fractionChars (padded 9 nanos).toList = '.' :: (padded 9 nanos).toList := by
  apply fractionChars_of_ne_nil
  intro blank
  have length : (padded 9 nanos).toList.length = 9 := length_padded (by decide) small
  rw [blank] at length
  cases length

namespace Stated

/-- What the text that a time is written as says. -/
def ofTime (time : Timestamp) (early : 0 ≤ time.year) (late : time.year ≤ 9999) : Stated where
  date := Calendar.Date.ofDays (time.seconds / 86400 + epochDays)
  separator := 'T'
  hour := (time.seconds % 86400).toNat / 3600
  minute := (time.seconds % 86400).toNat / 60 % 60
  second := (shownSecond time).1
  fraction := (padded 9 (shownSecond time).2).toList
  zone := .universal 'Z' (.inl rfl)
  dateExists := Calendar.isValid_ofDays _
  fourDigits := ⟨early, late⟩
  separates := .inl rfl
  hourBound := by omega
  minuteBound := by omega
  secondBound := (shownSecond_bounds time).1
  digits := fun _ => isDigit_of_mem_padded

variable {time : Timestamp} (early : 0 ≤ time.year) (late : time.year ≤ 9999)

theorem chars_ofTime : (ofTime time early late).chars = (format time).toList := by
  have year : formatYear time.year = padded 4 time.year.toNat := if_pos ⟨early, late⟩
  rw [Timestamp.year] at year
  have fraction := fractionChars_padded (shownSecond_bounds time).2
  simp only [ofTime, chars, fraction, Zone.chars]
  simp [format, year, shownSecond]

theorem time_ofTime : (ofTime time early late).time = time := by
  have day : (Calendar.Date.ofDays (time.seconds / 86400 + epochDays)).toDays - epochDays
      = time.seconds / 86400 := by
    rw [Calendar.toDays_ofDays, Int.add_sub_cancel]
  have minutes : 60 * (ofTime time early late).minutes = time.seconds - time.seconds % 60 := by
    simp only [ofTime, Stated.minutes, Zone.offset, day]
    omega
  have fraction := fractionNanos_padded (shownSecond_bounds time).2
  cases leap : time.inLeapSecond with
  | true =>
    have full : 1000000000 ≤ time.nanos := by simpa [Timestamp.inLeapSecond] using leap
    have minuteEnd := time.leapAtMinuteEnd full
    have shown : shownSecond time = (60, time.nanos - 1000000000) := by simp [shownSecond, leap]
    rw [shown] at fraction
    apply Timestamp.eq_of_parts
    · simp only [Stated.time, minutes]
      simp only [ofTime, shown]
      omega
    · simp only [Stated.time]
      simp only [ofTime, shown, if_true, fraction]
      omega
  | false =>
    have shown : shownSecond time = ((time.seconds % 86400).toNat % 60, time.nanos) := by
      simp [shownSecond, leap]
    have plain : (time.seconds % 86400).toNat % 60 ≠ 60 := by omega
    rw [shown] at fraction
    apply Timestamp.eq_of_parts
    · simp only [Stated.time, minutes]
      simp only [ofTime, shown]
      omega
    · simp only [Stated.time]
      simp only [ofTime, shown, plain, if_false, fraction]
      omega

end Stated

theorem length_format {time : Timestamp} (early : 0 ≤ time.year) (late : time.year ≤ 9999) :
    (format time).toList.length = 30 := by
  obtain ⟨-, small⟩ := shownSecond_bounds time
  have fraction : (padded 9 (shownSecond time).2).toList.length = 9 :=
    length_padded (by decide) small
  rw [← Stated.chars_ofTime early late, Stated.length_chars]
  simp only [Stated.ofTime, fractionChars_padded small, Zone.chars, List.length_cons, fraction,
    List.length_nil]

private theorem parse?_format_fourDigits {time : Timestamp} (early : 0 ≤ time.year)
    (late : time.year ≤ 9999) : parse? (format time) = some time := by
  rw [parse?, ← Stated.chars_ofTime early late, parseChars?_chars, Stated.time_ofTime]

private theorem parse?_format_signed {time : Timestamp}
    (outside : ¬ (0 ≤ time.year ∧ time.year ≤ 9999)) : parse? (format time) = none := by
  have sign : ∃ sign rest, (format time).toList = sign :: rest ∧ (sign = '-' ∨ sign = '+') := by
    have year : (formatYear time.year).toList
        = (if time.year < 0 then '-' else '+') :: (padded 4 time.year.natAbs).toList := by
      unfold formatYear
      rw [if_neg outside]
      split
      · simp
      · have same : time.year.toNat = time.year.natAbs := by omega
        simp [same]
    rw [Timestamp.year] at year
    simp only [format, String.toList_append, year, List.cons_append]
    refine ⟨_, _, rfl, ?_⟩
    split <;> simp
  obtain ⟨sign, rest, shown, kind⟩ := sign
  have refused : number? 0 4 (sign :: rest) = none := by
    rcases kind with rfl | rfl <;> rfl
  rw [parse?, shown, parseChars?, refused]
  rfl

/-- A time is read back from its text when its year has four digits, leap seconds included;
otherwise its text is not one that states a time. -/
theorem parse?_format (time : Timestamp) :
    parse? (format time) = if 0 ≤ time.year ∧ time.year ≤ 9999 then some time else none := by
  split
  · rename_i inside
    exact parse?_format_fourDigits inside.1 inside.2
  · rename_i outside
    exact parse?_format_signed outside

end Rfc3339

end GossipNames
