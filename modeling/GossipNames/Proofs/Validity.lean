import GossipNames.Proofs.RoundTrip

/-! Ends of life are read and written exactly. What is written is read back to the nanosecond, leap
seconds included, and what is read in any other form is the same time when it is written anew. -/

namespace GossipNames

open Rfc3339

theorem parseValidity_ofString (text : String) :
    parseValidity (Bytes.ofString text)
      = match parse? text with
        | none => .error (.validity text)
        | some time => .ok time := by
  cases parsed : parse? text <;> simp only [parseValidity, Bytes.toString?_ofString, parsed]

/-- A time is read from bytes exactly when they are a text that states it. -/
theorem parseValidity_iff_stated {bytes : Bytes} {time : Timestamp} :
    parseValidity bytes = .ok time
      ↔ ∃ stated : Stated, Bytes.ofString (String.ofList stated.chars) = bytes
        ∧ stated.time = time := by
  rw [parseValidity_ok]
  constructor
  · rintro ⟨text, rfl, parsed⟩
    obtain ⟨stated, same, states⟩ := parseChars?_eq_some_iff.mp parsed
    exact ⟨stated, by rw [same, String.ofList_toList], states⟩
  · rintro ⟨stated, rfl, rfl⟩
    refine ⟨_, rfl, ?_⟩
    rw [parse?, String.toList_ofList]
    exact parseChars?_chars stated

theorem parseValidity_format (time : Timestamp) :
    parseValidity (Bytes.ofString (format time))
      = if 0 ≤ time.year ∧ time.year ≤ 9999 then .ok time
        else .error (.validity (format time)) := by
  rw [parseValidity_ofString, parse?_format]
  by_cases inside : 0 ≤ time.year ∧ time.year ≤ 9999
  · simp only [if_pos inside]
  · simp only [if_neg inside]

/-- Every time whose year has four digits is read back from the text it is written as, and no time is
read from the text of any other one. Whatever the form of a text, the time that is read from it is the
one that it states, and it is read again from the text that it is written as then, if its year has
four digits. -/
theorem parseValidity_exact :
    (∀ time : Timestamp, parseValidity (Bytes.ofString (format time))
        = if 0 ≤ time.year ∧ time.year ≤ 9999 then .ok time
          else .error (.validity (format time)))
      ∧ (∀ raw time, parseValidity raw = .ok time
        ↔ ∃ stated : Stated, Bytes.ofString (String.ofList stated.chars) = raw
          ∧ stated.time = time)
      ∧ ∀ raw time, parseValidity raw = .ok time → 0 ≤ time.year → time.year ≤ 9999 →
        parseValidity (Bytes.ofString (format time)) = .ok time := by
  refine ⟨parseValidity_format, fun raw time => parseValidity_iff_stated, ?_⟩
  intro raw time _ early late
  rw [parseValidity_format, if_pos ⟨early, late⟩]

open NameRecord.Sample in
/-- A leap second that is stated with a fraction of two digits, far from universal time, on the first
day of the next year. -/
theorem parseValidity_exact_leapSecond :
    parseValidity (Bytes.ofString "2017-01-01 05:29:60.25+05:30") = .ok leapSecond
      ∧ parseValidity (Bytes.ofString (format leapSecond)) = .ok leapSecond := by
  have read : parseValidity (Bytes.ofString "2017-01-01 05:29:60.25+05:30") = .ok leapSecond := by
    decide +kernel
  have early : 0 ≤ leapSecond.year := by
    rw [Timestamp.year_nonneg_iff]
    decide
  have late : leapSecond.year ≤ 9999 := by
    rw [Timestamp.year_le_iff]
    decide
  exact ⟨read, parseValidity_exact.2.2 _ _ read early late⟩

end GossipNames
