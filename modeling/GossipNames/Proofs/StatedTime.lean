import GossipNames.Proofs.Calendar
import GossipNames.Proofs.Digits

/-! Which texts state a time, and which time that is: a date and a clock with any separator, any
fraction of a second and any offset from universal time. A time is read from these texts and from
nothing else. -/

namespace GossipNames

namespace Timestamp

theorem eq_of_parts {first second : Timestamp} (seconds : first.seconds = second.seconds)
    (nanos : first.nanos = second.nanos) : first = second := by
  cases first
  cases second
  cases seconds
  cases nanos
  rfl

theorem ofParts?_eq_some_iff {seconds : Int} {nanos : Nat} {time : Timestamp} :
    ofParts? seconds nanos = some time ↔ time.seconds = seconds ∧ time.nanos = nanos := by
  unfold ofParts?
  constructor
  · intro made
    split at made
    · cases made
      exact ⟨rfl, rfl⟩
    · cases made
  · rintro ⟨rfl, rfl⟩
    exact dif_pos ⟨time.nanosBound, time.leapAtMinuteEnd⟩

end Timestamp

namespace Rfc3339

/-- How a text states its offset from universal time. -/
inductive Zone where
  | universal (letter : Char) (known : letter = 'Z' ∨ letter = 'z')
  | shifted (sign : Char) (hours minutes : Nat)
      (known : sign = '+' ∨ sign = '-' ∨ sign = '\u2212') (hoursBound : hours ≤ 23)
      (minutesBound : minutes ≤ 59)

namespace Zone

def chars : Zone → List Char
  | universal letter _ => [letter]
  | shifted sign hours minutes _ _ _ =>
    sign :: ((padded 2 hours).toList ++ ':' :: (padded 2 minutes).toList)

/-- In minutes. -/
def offset : Zone → Int
  | universal _ _ => 0
  | shifted sign hours minutes _ _ _ =>
    if sign = '+' then 60 * hours + minutes else -(60 * hours + minutes)

/-- No offset goes on from a fraction, or starts one. -/
theorem chars_eq_cons (zone : Zone) :
    ∃ first others, zone.chars = first :: others ∧ isDigit first = false ∧ first ≠ '.' := by
  cases zone with
  | universal letter known => rcases known with rfl | rfl <;> exact ⟨_, _, rfl, rfl, by decide⟩
  | shifted sign hours minutes known =>
    rcases known with rfl | rfl | rfl <;> exact ⟨_, _, rfl, rfl, by decide⟩

end Zone

theorem expect?_eq_some_iff {expected : Char} {chars rest : List Char} :
    expect? expected chars = some rest ↔ chars = expected :: rest := by
  cases chars with
  | nil => simp [expect?]
  | cons char tail => simp [expect?]

theorem separator?_eq_some_iff {chars rest : List Char} :
    separator? chars = some rest
      ↔ ∃ char, (char = 'T' ∨ char = 't' ∨ char = ' ') ∧ chars = char :: rest := by
  cases chars with
  | nil => simp [separator?]
  | cons char tail =>
    constructor
    · intro read
      simp only [separator?] at read
      split at read
      · rename_i known
        cases read
        exact ⟨char, known, rfl⟩
      · cases read
    · rintro ⟨_, known, same⟩
      cases same
      exact if_pos known

theorem sign?_eq_some_iff {char : Char} {direction : Int} :
    sign? char = some direction
      ↔ (char = '+' ∨ char = '-' ∨ char = '\u2212')
        ∧ direction = if char = '+' then 1 else -1 := by
  unfold sign?
  by_cases plus : char = '+'
  · simp [plus, eq_comm]
  · simp [plus, eq_comm]

theorem offset?_eq_some_iff {chars rest : List Char} {offset : Int} :
    offset? chars = some (offset, rest)
      ↔ ∃ zone : Zone, chars = zone.chars ++ rest ∧ offset = zone.offset := by
  constructor
  · intro read
    cases chars with
    | nil => cases read
    | cons sign tail =>
      simp only [offset?] at read
      split at read
      · rename_i known
        cases read
        exact ⟨.universal sign known, rfl, rfl⟩
      · obtain ⟨direction, signed, read⟩ := Option.bind_eq_some_iff.mp read
        obtain ⟨⟨hours, afterHours⟩, readHours, read⟩ := Option.bind_eq_some_iff.mp read
        obtain ⟨afterColon, readColon, read⟩ := Option.bind_eq_some_iff.mp read
        obtain ⟨⟨minutes, afterMinutes⟩, readMinutes, read⟩ := Option.bind_eq_some_iff.mp read
        obtain ⟨known, rfl⟩ := sign?_eq_some_iff.mp signed
        obtain ⟨-, hourText⟩ := twoDigits?_eq_some_iff.mp readHours
        have colon : afterHours = ':' :: afterColon := expect?_eq_some_iff.mp readColon
        obtain ⟨-, minuteText⟩ := twoDigits?_eq_some_iff.mp readMinutes
        split at read
        · cases read
        · rename_i bounds
          cases read
          refine ⟨.shifted sign hours minutes known (by omega) (by omega), ?_, ?_⟩
          · simp [Zone.chars, ← hourText, colon, ← minuteText]
          · simp only [Zone.offset]
            split <;> omega
  · rintro ⟨zone, rfl, rfl⟩
    cases zone with
    | universal letter known => exact if_pos known
    | shifted sign hours minutes known hoursBound minutesBound =>
      have notUniversal : ¬ (sign = 'Z' ∨ sign = 'z') := by
        rcases known with rfl | rfl | rfl <;> decide
      have signed := sign?_eq_some_iff.mpr ⟨known, rfl⟩
      have inRange : ¬ (23 < hours ∨ 59 < minutes) := by omega
      have read {value : Nat} (small : value < 100) (rest : List Char) :
          twoDigits? ((padded 2 value).toList ++ rest) = some (value, rest) :=
        twoDigits?_eq_some_iff.mpr ⟨small, rfl⟩
      have total : (if sign = '+' then 1 else -1) * ((60 * hours + minutes : Nat) : Int)
          = (Zone.shifted sign hours minutes known hoursBound minutesBound).offset := by
        simp only [Zone.offset]
        split <;> omega
      rw [← total]
      simp only [Zone.chars, List.cons_append, List.append_assoc, offset?, notUniversal, if_false,
        signed, read (Nat.lt_of_le_of_lt hoursBound (by decide)), expect?, if_true,
        read (Nat.lt_of_le_of_lt minutesBound (by decide)), inRange, bind, Option.bind]
      rfl

/-- How the part of a second is shown, if it is. -/
def fractionChars : List Char → List Char
  | [] => []
  | digits => '.' :: digits

/-- The nanoseconds that the first nine digits state; those that are missing are zeros. -/
def fractionNanos (digits : List Char) : Nat :=
  Nat.ofDigitChars 10 ((digits ++ List.replicate 9 '0').take 9) 0

theorem fractionNanos_eq (digits : List Char) :
    fractionNanos digits
      = Nat.ofDigitChars 10 (digits.take 9) 0 * Nat.pow 10 (9 - (digits.take 9).length) := by
  have missing : min (9 - digits.length) 9 = 9 - (digits.take 9).length := by
    rw [List.length_take]
    omega
  rw [fractionNanos, List.take_append, List.take_replicate, missing, Nat.ofDigitChars_append,
    Nat.ofDigitChars_replicate_zero, Nat.mul_comm]
  rfl

theorem fractionNanos_lt {digits : List Char} (shown : ∀ char ∈ digits, char.isDigit = true) :
    fractionNanos digits < 1000000000 := by
  have all : ∀ char ∈ (digits ++ List.replicate 9 '0').take 9, char.isDigit = true := by
    intro char member
    rcases List.mem_append.mp (List.mem_of_mem_take member) with digit | zero
    · exact shown char digit
    · rw [List.eq_of_mem_replicate zero]
      rfl
  have length : ((digits ++ List.replicate 9 '0').take 9).length = 9 := by simp
  have bound := ofDigitChars_lt all
  rwa [length] at bound

theorem fractionChars_of_ne_nil {digits : List Char} (nonempty : digits ≠ []) :
    fractionChars digits = '.' :: digits := by
  cases digits with
  | nil => exact absurd rfl nonempty
  | cons => rfl

/-- The digits that are kept of a fraction can be read. -/
theorem number?_take {digits : List Char} (shown : ∀ char ∈ digits, char.isDigit = true) :
    number? 0 (digits.take 9).length (digits.take 9)
      = some (Nat.ofDigitChars 10 (digits.take 9) 0, []) := by
  have kept : ∀ char ∈ digits.take 9, char.isDigit = true :=
    fun char member => shown char (List.mem_of_mem_take member)
  exact number?_eq_some_iff.mpr ⟨digits.take 9, (List.append_nil _).symm, rfl, kept, rfl⟩

theorem fraction?_some {chars rest : List Char} {nanos : Nat}
    (read : fraction? chars = some (nanos, rest)) :
    ∃ digits, (∀ char ∈ digits, char.isDigit = true) ∧ chars = fractionChars digits ++ rest
      ∧ nanos = fractionNanos digits := by
  unfold fraction? at read
  split at read
  · rename_i tail
    have digits : ∀ char ∈ tail.takeWhile isDigit, char.isDigit = true :=
      fun char member => isDigit_iff.mp (List.all_eq_true.mp List.all_takeWhile char member)
    simp only [number?_take digits, bind, Option.bind] at read
    split at read
    · cases read
    · rename_i shown
      cases read
      refine ⟨tail.takeWhile isDigit, digits, ?_, (fractionNanos_eq _).symm⟩
      rw [fractionChars_of_ne_nil (by simpa using shown), List.cons_append,
        List.takeWhile_append_dropWhile]
  · cases read
    exact ⟨[], by simp, rfl, rfl⟩

/-- A fraction is read to its end, where no more digits follow. -/
theorem fraction?_chars {digits rest : List Char} {first : Char}
    (shown : ∀ char ∈ digits, char.isDigit = true) (ends : isDigit first = false)
    (plain : first ≠ '.') :
    fraction? (fractionChars digits ++ first :: rest)
      = some (fractionNanos digits, first :: rest) := by
  by_cases blank : digits = []
  · subst blank
    simp only [fractionChars, List.nil_append, fraction?]
    split
    · rename_i same
      cases same
      exact absurd rfl plain
    · rfl
  · have all : ∀ char ∈ digits, isDigit char = true :=
      fun char member => isDigit_iff.mpr (shown char member)
    have taken : (digits ++ first :: rest).takeWhile isDigit = digits := by
      rw [List.takeWhile_append_of_pos all, List.takeWhile_cons_of_neg (by simp [ends]),
        List.append_nil]
    have left : (digits ++ first :: rest).dropWhile isDigit = first :: rest := by
      rw [List.dropWhile_append_of_pos all, List.dropWhile_cons_of_neg (by simp [ends])]
    have nonempty : digits.isEmpty = false := by simpa using blank
    rw [fractionChars_of_ne_nil blank, fractionNanos_eq, List.cons_append]
    simp only [fraction?, taken, left, number?_take shown, nonempty]
    rfl

/-- What a text that states a time says. -/
structure Stated where
  date : Calendar.Date
  separator : Char
  hour : Nat
  minute : Nat
  second : Nat
  fraction : List Char
  zone : Zone
  dateExists : date.isValid = true
  fourDigits : 0 ≤ date.year ∧ date.year ≤ 9999
  separates : separator = 'T' ∨ separator = 't' ∨ separator = ' '
  hourBound : hour ≤ 23
  minuteBound : minute ≤ 59
  secondBound : second ≤ 60
  digits : ∀ char ∈ fraction, char.isDigit = true

namespace Stated

def chars (stated : Stated) : List Char :=
  (padded 4 stated.date.year.toNat).toList ++ '-' :: ((padded 2 stated.date.month).toList
    ++ '-' :: ((padded 2 stated.date.day).toList ++ stated.separator
      :: ((padded 2 stated.hour).toList ++ ':' :: ((padded 2 stated.minute).toList ++ ':'
        :: ((padded 2 stated.second).toList ++ (fractionChars stated.fraction
          ++ stated.zone.chars))))))

theorem length_chars (stated : Stated) :
    stated.chars.length
      = 19 + (fractionChars stated.fraction).length + stated.zone.chars.length := by
  obtain ⟨month, day⟩ := Calendar.Date.bounds_of_isValid stated.dateExists
  obtain ⟨early, late⟩ := stated.fourDigits
  have year : (padded 4 stated.date.year.toNat).toList.length = 4 :=
    length_padded (by decide) (by omega)
  simp only [chars, List.length_append, List.length_cons, year,
    length_padded_two (Nat.lt_of_le_of_lt month (by decide)),
    length_padded_two (Nat.lt_of_le_of_lt day (by decide)),
    length_padded_two (Nat.lt_of_le_of_lt stated.hourBound (by decide)),
    length_padded_two (Nat.lt_of_le_of_lt stated.minuteBound (by decide)),
    length_padded_two (Nat.lt_of_le_of_lt stated.secondBound (by decide))]
  omega

/-- The minutes in universal time since the first of January 1970. -/
def minutes (stated : Stated) : Int :=
  (stated.date.toDays - epochDays) * 1440 + stated.hour * 60 + stated.minute - stated.zone.offset

/-- A second of 60 is the leap second behind the last second of the minute. -/
def time (stated : Stated) : Timestamp where
  seconds := 60 * stated.minutes + min stated.second 59
  nanos := (if stated.second = 60 then 1000000000 else 0) + fractionNanos stated.fraction
  nanosBound := by
    have bound := fractionNanos_lt stated.digits
    split <;> omega
  leapAtMinuteEnd := by
    intro leap
    have bound := fractionNanos_lt stated.digits
    split at leap <;> omega

theorem ofParts?_time (stated : Stated) :
    (if stated.second = 60 then
        Timestamp.ofParts? (60 * stated.minutes + 59)
          (1000000000 + fractionNanos stated.fraction)
      else
        Timestamp.ofParts? (60 * stated.minutes + stated.second) (fractionNanos stated.fraction))
      = some stated.time := by
  have bound := stated.secondBound
  split
  · rename_i leap
    exact Timestamp.ofParts?_eq_some_iff.mpr ⟨by simp [time, leap], by simp [time, leap]⟩
  · rename_i plain
    have last : min stated.second 59 = stated.second := by omega
    exact Timestamp.ofParts?_eq_some_iff.mpr ⟨by simp [time, last], by simp [time, plain]⟩

end Stated

/-- Exactly the time that a text states is read from it. -/
theorem parseChars?_chars (stated : Stated) : parseChars? stated.chars = some stated.time := by
  obtain ⟨monthBound, dayBound⟩ := Calendar.Date.bounds_of_isValid stated.dateExists
  obtain ⟨early, late⟩ := stated.fourDigits
  have two {value : Nat} (small : value < 100) (rest : List Char) :
      twoDigits? ((padded 2 value).toList ++ rest) = some (value, rest) :=
    twoDigits?_eq_some_iff.mpr ⟨small, rfl⟩
  have year (rest : List Char) : number? 0 4 ((padded 4 stated.date.year.toNat).toList ++ rest)
      = some (stated.date.year.toNat, rest) :=
    (number?_padded_iff (by decide)).mpr ⟨by omega, rfl⟩
  have separator (rest : List Char) : separator? (stated.separator :: rest) = some rest :=
    separator?_eq_some_iff.mpr ⟨_, stated.separates, rfl⟩
  have fraction : fraction? (fractionChars stated.fraction ++ stated.zone.chars)
      = some (fractionNanos stated.fraction, stated.zone.chars) := by
    obtain ⟨first, others, zone, ends, plain⟩ := stated.zone.chars_eq_cons
    rw [zone]
    exact fraction?_chars stated.digits ends plain
  have offset : offset? stated.zone.chars = some (stated.zone.offset, []) :=
    offset?_eq_some_iff.mpr ⟨stated.zone, (List.append_nil _).symm, rfl⟩
  have date : Calendar.Date.mk stated.date.year.toNat stated.date.month stated.date.day
      = stated.date := by
    rw [Int.toNat_of_nonneg early]
  have hour : ¬ 23 < stated.hour := Nat.not_lt.mpr stated.hourBound
  have minute : ¬ 59 < stated.minute := Nat.not_lt.mpr stated.minuteBound
  have second : ¬ 60 < stated.second := Nat.not_lt.mpr stated.secondBound
  simp only [Stated.chars, parseChars?, year, two (Nat.lt_of_le_of_lt monthBound (by decide)),
    two (Nat.lt_of_le_of_lt dayBound (by decide)), separator,
    two (Nat.lt_of_le_of_lt stated.hourBound (by decide)),
    two (Nat.lt_of_le_of_lt stated.minuteBound (by decide)),
    two (Nat.lt_of_le_of_lt stated.secondBound (by decide)), fraction, offset, expect?, if_true,
    bind, Option.bind, date, stated.dateExists, hour, minute, second]
  exact stated.ofParts?_time

theorem exists_stated {chars : List Char} {time : Timestamp}
    (parsed : parseChars? chars = some time) : ∃ stated : Stated, stated.chars = chars := by
  unfold parseChars? at parsed
  obtain ⟨⟨year, afterYear⟩, readYear, parsed⟩ := Option.bind_eq_some_iff.mp parsed
  obtain ⟨atMonth, readFirstDash, parsed⟩ := Option.bind_eq_some_iff.mp parsed
  obtain ⟨⟨month, afterMonth⟩, readMonth, parsed⟩ := Option.bind_eq_some_iff.mp parsed
  obtain ⟨atDay, readSecondDash, parsed⟩ := Option.bind_eq_some_iff.mp parsed
  obtain ⟨⟨day, afterDay⟩, readDay, parsed⟩ := Option.bind_eq_some_iff.mp parsed
  obtain ⟨atHour, readSeparator, parsed⟩ := Option.bind_eq_some_iff.mp parsed
  obtain ⟨⟨hour, afterHour⟩, readHour, parsed⟩ := Option.bind_eq_some_iff.mp parsed
  obtain ⟨atMinute, readFirstColon, parsed⟩ := Option.bind_eq_some_iff.mp parsed
  obtain ⟨⟨minute, afterMinute⟩, readMinute, parsed⟩ := Option.bind_eq_some_iff.mp parsed
  obtain ⟨atSecond, readSecondColon, parsed⟩ := Option.bind_eq_some_iff.mp parsed
  obtain ⟨⟨second, afterSecond⟩, readSecond, parsed⟩ := Option.bind_eq_some_iff.mp parsed
  obtain ⟨⟨nanos, afterFraction⟩, readFraction, parsed⟩ := Option.bind_eq_some_iff.mp parsed
  obtain ⟨⟨offset, left⟩, readOffset, parsed⟩ := Option.bind_eq_some_iff.mp parsed
  have guarded : Calendar.Date.isValid ⟨year, month, day⟩ = true ∧ hour ≤ 23 ∧ minute ≤ 59
      ∧ second ≤ 60 ∧ left = [] := by
    dsimp only at parsed
    split at parsed
    · cases parsed
    · rename_i allowed
      simpa only [not_or, Nat.not_lt, Bool.not_eq_true, Bool.not_eq_false', List.isEmpty_iff]
        using allowed
  obtain ⟨dateExists, hourBound, minuteBound, secondBound, rfl⟩ := guarded
  obtain ⟨small, rfl⟩ := (number?_padded_iff (by decide)).mp readYear
  obtain rfl : afterYear = '-' :: atMonth := expect?_eq_some_iff.mp readFirstDash
  obtain ⟨-, rfl⟩ := twoDigits?_eq_some_iff.mp readMonth
  obtain rfl : afterMonth = '-' :: atDay := expect?_eq_some_iff.mp readSecondDash
  obtain ⟨-, rfl⟩ := twoDigits?_eq_some_iff.mp readDay
  obtain ⟨separator, separates, rfl⟩ := separator?_eq_some_iff.mp readSeparator
  obtain ⟨-, rfl⟩ := twoDigits?_eq_some_iff.mp readHour
  obtain rfl : afterHour = ':' :: atMinute := expect?_eq_some_iff.mp readFirstColon
  obtain ⟨-, rfl⟩ := twoDigits?_eq_some_iff.mp readMinute
  obtain rfl : afterMinute = ':' :: atSecond := expect?_eq_some_iff.mp readSecondColon
  obtain ⟨-, rfl⟩ := twoDigits?_eq_some_iff.mp readSecond
  obtain ⟨fraction, digits, rfl, -⟩ := fraction?_some readFraction
  obtain ⟨zone, rfl, -⟩ := offset?_eq_some_iff.mp readOffset
  exact ⟨{
    date := ⟨year, month, day⟩, separator, hour, minute, second, fraction, zone, dateExists
    fourDigits := by simp; omega
    separates, hourBound, minuteBound, secondBound, digits }, by simp [Stated.chars]⟩

/-- A time is read from the texts that state it, and from no others. -/
theorem parseChars?_eq_some_iff {chars : List Char} {time : Timestamp} :
    parseChars? chars = some time
      ↔ ∃ stated : Stated, stated.chars = chars ∧ stated.time = time := by
  constructor
  · intro parsed
    obtain ⟨stated, rfl⟩ := exists_stated parsed
    exact ⟨stated, rfl, Option.some.inj ((parseChars?_chars stated).symm.trans parsed)⟩
  · rintro ⟨stated, rfl, rfl⟩
    exact parseChars?_chars stated

end Rfc3339

end GossipNames
