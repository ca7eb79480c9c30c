import GossipNames.Proofs.StatedTime

/-! The shape of the texts that state a time, and why none of them ends in another one: two dashes
three places apart stand at the beginning and nowhere else. -/

namespace GossipNames.Rfc3339

/-- The parts of a text that states a time. The clock runs from the day to the fraction; the
offset's sign may be a dash as well. -/
structure Shape where
  year : List Char
  month : List Char
  clock : List Char
  offset : List Char
  yearLength : year.length = 4
  monthLength : month.length = 2
  clockLength : 11 ≤ clock.length
  offsetLength : offset.length ≤ 6
  yearPlain : '-' ∉ year
  monthPlain : '-' ∉ month
  clockPlain : '-' ∉ clock
  offsetPlain : '-' ∉ offset.tail

namespace Shape

def chars (shape : Shape) : List Char :=
  shape.year ++ '-' :: (shape.month ++ '-' :: (shape.clock ++ shape.offset))

theorem length_chars (shape : Shape) :
    shape.chars.length = 8 + shape.clock.length + shape.offset.length := by
  simp only [chars, List.length_append, List.length_cons, shape.yearLength, shape.monthLength]
  omega

theorem dash_after_year (shape : Shape) : shape.chars[4]? = some '-' := by
  rw [chars, ← shape.yearLength, List.getElem?_append_right (Nat.le_refl _), Nat.sub_self]
  rfl

theorem dash_after_month (shape : Shape) : shape.chars[7]? = some '-' := by
  have month := shape.monthLength
  rw [chars, List.getElem?_append_right (by rw [shape.yearLength]; decide), shape.yearLength,
    List.getElem?_cons_succ, ← month, List.getElem?_append_right (Nat.le_refl _), Nat.sub_self]
  rfl

/-- A dash stands behind the year, behind the month, or in front of the offset. -/
theorem dash_places (shape : Shape) {place : Nat} (dash : shape.chars[place]? = some '-') :
    place = 4 ∨ place = 7 ∨ place + shape.offset.length = shape.chars.length := by
  have total := shape.length_chars
  have year := shape.yearLength
  have month := shape.monthLength
  rcases Nat.lt_trichotomy place 4 with before | same | behind
  · rw [chars, List.getElem?_append_left (by omega)] at dash
    exact absurd (List.mem_of_getElem? dash) shape.yearPlain
  · exact .inl same
  · obtain ⟨offset, rfl⟩ : ∃ offset, place = offset + 5 := ⟨place - 5, by omega⟩
    rw [chars, List.getElem?_append_right (by omega), year,
      show offset + 5 - 4 = offset + 1 by omega, List.getElem?_cons_succ] at dash
    rcases Nat.lt_trichotomy offset 2 with before | same | behind
    · rw [List.getElem?_append_left (by omega)] at dash
      exact absurd (List.mem_of_getElem? dash) shape.monthPlain
    · exact .inr (.inl (by omega))
    · obtain ⟨inner, rfl⟩ : ∃ inner, offset = inner + 3 := ⟨offset - 3, by omega⟩
      rw [List.getElem?_append_right (by omega), month,
        show inner + 3 - 2 = inner + 1 by omega, List.getElem?_cons_succ] at dash
      rcases Nat.lt_or_ge inner shape.clock.length with before | behind
      · rw [List.getElem?_append_left before] at dash
        exact absurd (List.mem_of_getElem? dash) shape.clockPlain
      · rw [List.getElem?_append_right behind] at dash
        cases sign : inner - shape.clock.length with
        | zero => exact .inr (.inr (by omega))
        | succ further =>
          rw [sign, ← List.getElem?_tail] at dash
          exact absurd (List.mem_of_getElem? dash) shape.offsetPlain

/-- No text that states a time ends in a shorter one. -/
theorem eq_of_suffix {first second : Shape} (suffix : second.chars <:+ first.chars) :
    second.chars = first.chars := by
  obtain ⟨front, same⟩ := suffix
  have moved (place : Nat) : first.chars[front.length + place]? = second.chars[place]? := by
    rw [← same, List.getElem?_append_right (Nat.le_add_right _ _), Nat.add_sub_cancel_left]
  have afterYear := first.dash_places ((moved 4).trans second.dash_after_year)
  have afterMonth := first.dash_places ((moved 7).trans second.dash_after_month)
  have total : front.length + second.chars.length = first.chars.length := by
    rw [← same, List.length_append]
  have long := second.length_chars
  have clock := second.clockLength
  have offset := first.offsetLength
  have empty : front.length = 0 := by omega
  rw [List.length_eq_zero_iff.mp empty] at same
  exact same

end Shape

theorem dash_not_mem {digits : List Char} (shown : ∀ char ∈ digits, char.isDigit = true) :
    '-' ∉ digits := by
  intro member
  exact absurd (shown '-' member) (by decide)

theorem dash_not_mem_padded (width value : Nat) : '-' ∉ (padded width value).toList :=
  dash_not_mem fun _ => isDigit_of_mem_padded

theorem dash_not_mem_fractionChars {digits : List Char}
    (shown : ∀ char ∈ digits, char.isDigit = true) : '-' ∉ fractionChars digits := by
  cases digits with
  | nil => exact List.not_mem_nil
  | cons char others =>
    rw [fractionChars_of_ne_nil (List.cons_ne_nil char others)]
    rintro (_ | ⟨_, member⟩)
    exact dash_not_mem shown member

namespace Zone

theorem length_chars_le (zone : Zone) : zone.chars.length ≤ 6 := by
  cases zone with
  | universal => exact Nat.le_add_left 1 5
  | shifted sign hours minutes known hoursBound minutesBound =>
    simp only [chars, List.length_cons, List.length_append,
      length_padded_two (Nat.lt_of_le_of_lt hoursBound (by decide)),
      length_padded_two (Nat.lt_of_le_of_lt minutesBound (by decide))]
    omega

theorem dash_not_mem_tail (zone : Zone) : '-' ∉ zone.chars.tail := by
  cases zone with
  | universal => exact List.not_mem_nil
  | shifted => simp [chars, dash_not_mem_padded]

end Zone

namespace Stated

def shape (stated : Stated) : Shape where
  year := (padded 4 stated.date.year.toNat).toList
  month := (padded 2 stated.date.month).toList
  clock := (padded 2 stated.date.day).toList ++ stated.separator
    :: ((padded 2 stated.hour).toList ++ ':' :: ((padded 2 stated.minute).toList ++ ':'
      :: ((padded 2 stated.second).toList ++ fractionChars stated.fraction)))
  offset := stated.zone.chars
  yearLength := by
    have bound := stated.fourDigits
    exact length_padded (by decide) (by omega)
  monthLength := by
    have bound := (Calendar.Date.bounds_of_isValid stated.dateExists).1
    exact length_padded_two (by omega)
  clockLength := by
    have day := (Calendar.Date.bounds_of_isValid stated.dateExists).2
    have hour := stated.hourBound
    have minute := stated.minuteBound
    have second := stated.secondBound
    simp only [List.length_append, List.length_cons,
      length_padded_two (Nat.lt_of_le_of_lt day (by decide)),
      length_padded_two (Nat.lt_of_le_of_lt hour (by decide)),
      length_padded_two (Nat.lt_of_le_of_lt minute (by decide)),
      length_padded_two (Nat.lt_of_le_of_lt second (by decide))]
    omega
  offsetLength := stated.zone.length_chars_le
  yearPlain := dash_not_mem_padded _ _
  monthPlain := dash_not_mem_padded _ _
  clockPlain := by
    have separator : '-' ≠ stated.separator := by
      rcases stated.separates with same | same | same <;> rw [same] <;> decide
    simp [dash_not_mem_padded, separator, dash_not_mem_fractionChars stated.digits]
  offsetPlain := stated.zone.dash_not_mem_tail

theorem chars_shape (stated : Stated) : stated.shape.chars = stated.chars := by
  simp [Shape.chars, shape, chars]

end Stated

/-- Every text that states a time has the shape. -/
theorem exists_shape {chars : List Char} {time : Timestamp}
    (parsed : parseChars? chars = some time) : ∃ shape : Shape, shape.chars = chars := by
  obtain ⟨stated, same⟩ := exists_stated parsed
  exact ⟨stated.shape, stated.chars_shape.trans same⟩

end GossipNames.Rfc3339
