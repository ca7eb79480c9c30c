import GossipNames.Time.Rfc3339
import Mathlib

/-! Numbers in a fixed count of decimal digits: a number is written in one way, and read from no
other text. -/

namespace GossipNames.Rfc3339

theorem isDigit_iff_between {char : Char} : char.isDigit = true ↔ '0' ≤ char ∧ char ≤ '9' := by
  simp only [Char.isDigit, Bool.and_eq_true, decide_eq_true_eq]
  rfl

theorem digitValue?_eq_some_iff {char : Char} {digit : Nat} :
    Text.digitValue? 10 char = some digit
      ↔ char.isDigit = true ∧ digit = char.toNat - '0'.toNat := by
  have range : '0' ≤ char ∧ char ≤ '9' ↔ 48 ≤ char.toNat ∧ char.toNat ≤ 57 := Iff.rfl
  have small : 'a' ≤ char ∧ char ≤ 'f' ↔ 97 ≤ char.toNat ∧ char.toNat ≤ 102 := Iff.rfl
  have capital : 'A' ≤ char ∧ char ≤ 'F' ↔ 65 ≤ char.toNat ∧ char.toNat ≤ 70 := Iff.rfl
  have zero : '0'.toNat = 48 := rfl
  rw [isDigit_iff_between, range, zero]
  simp only [Text.digitValue?, range, small, capital, bind, Option.bind]
  grind

theorem isDigit_iff {char : Char} : isDigit char = true ↔ char.isDigit = true := by
  rw [isDigit, Option.isSome_iff_exists]
  simp [digitValue?_eq_some_iff]

/-- As many digits are read as were asked for, and the number goes on with them. -/
theorem number?_eq_some_iff {value count result : Nat} {chars rest : List Char} :
    number? value count chars = some (result, rest)
      ↔ ∃ shown, chars = shown ++ rest ∧ shown.length = count
        ∧ (∀ char ∈ shown, char.isDigit = true) ∧ result = Nat.ofDigitChars 10 shown value := by
  induction count generalizing value chars with
  | zero =>
    simp only [number?, Option.some.injEq, Prod.mk.injEq, List.length_eq_zero_iff]
    constructor
    · rintro ⟨rfl, rfl⟩
      exact ⟨[], rfl, rfl, by simp, rfl⟩
    · rintro ⟨_, rfl, rfl, -, rfl⟩
      exact ⟨rfl, rfl⟩
  | succ count ih =>
    constructor
    · intro read
      cases chars with
      | nil => cases read
      | cons char tail =>
        obtain ⟨digit, valued, more⟩ := Option.bind_eq_some_iff.mp read
        obtain ⟨isDigit, rfl⟩ := digitValue?_eq_some_iff.mp valued
        obtain ⟨shown, rfl, rfl, digits, rfl⟩ := ih.mp more
        exact ⟨char :: shown, rfl, rfl, List.forall_mem_cons.mpr ⟨isDigit, digits⟩, rfl⟩
    · rintro ⟨shown, rfl, length, digits, rfl⟩
      cases shown with
      | nil => cases length
      | cons char shown =>
        obtain ⟨first, others⟩ := List.forall_mem_cons.mp digits
        refine Option.bind_eq_some_iff.mpr ⟨_, digitValue?_eq_some_iff.mpr ⟨first, rfl⟩, ?_⟩
        exact ih.mpr ⟨shown, rfl, Nat.succ.inj length, others, rfl⟩

theorem ofDigitChars_concat (front : List Char) (char : Char) (value : Nat) :
    Nat.ofDigitChars 10 (front ++ [char]) value
      = 10 * Nat.ofDigitChars 10 front value + (char.toNat - '0'.toNat) := by
  rw [Nat.ofDigitChars_append, Nat.ofDigitChars_cons, Nat.ofDigitChars_nil]

theorem digit_lt {char : Char} (digit : char.isDigit = true) : char.toNat - '0'.toNat < 10 := by
  have high : char.toNat ≤ 57 := (isDigit_iff_between.mp digit).2
  have zero : '0'.toNat = 48 := rfl
  omega

theorem digit_inj {first second : Char} (one : first.isDigit = true) (two : second.isDigit = true)
    (same : first.toNat - '0'.toNat = second.toNat - '0'.toNat) : first = second := by
  have low : 48 ≤ first.toNat := (isDigit_iff_between.mp one).1
  have alsoLow : 48 ≤ second.toNat := (isDigit_iff_between.mp two).1
  have zero : '0'.toNat = 48 := rfl
  exact Char.toNat_inj.mp (by omega)

theorem ofDigitChars_lt {shown : List Char} (digits : ∀ char ∈ shown, char.isDigit = true) :
    Nat.ofDigitChars 10 shown 0 < 10 ^ shown.length := by
  induction shown using List.reverseRecOn with
  | nil => decide
  | append_singleton front char ih =>
    have earlier := ih fun char member => digits char (List.mem_append_left _ member)
    have last := digit_lt (digits char (by simp))
    rw [ofDigitChars_concat, List.length_append, List.length_singleton, Nat.pow_succ]
    omega

/-- As many digits do not write the same number in two ways. -/
theorem ofDigitChars_injective {first second : List Char}
    (one : ∀ char ∈ first, char.isDigit = true) (two : ∀ char ∈ second, char.isDigit = true)
    (length : first.length = second.length)
    (same : Nat.ofDigitChars 10 first 0 = Nat.ofDigitChars 10 second 0) : first = second := by
  induction first using List.reverseRecOn generalizing second with
  | nil => exact (List.length_eq_zero_iff.mp length.symm).symm
  | append_singleton front char ih =>
    rcases List.eq_nil_or_concat second with rfl | ⟨others, last, rfl⟩
    · simp at length
    · rw [List.concat_eq_append] at two length same ⊢
      have digit := one char (by simp)
      have lastDigit := two last (by simp)
      have low := digit_lt digit
      have alsoLow := digit_lt lastDigit
      rw [ofDigitChars_concat, ofDigitChars_concat] at same
      have fronts : front = others := by
        apply ih (fun char member => one char (List.mem_append_left _ member))
          (fun char member => two char (List.mem_append_left _ member))
        · simpa using length
        · omega
      rw [fronts, digit_inj digit lastDigit (by omega)]

section Padded

variable {width value : Nat}

theorem toList_padded (width value : Nat) :
    (padded width value).toList
      = List.replicate (width - (Nat.toDigits 10 value).length) '0' ++ Nat.toDigits 10 value := by
  simp [padded, Nat.repr_eq_ofList_toDigits]

theorem isDigit_of_mem_padded {char : Char} (member : char ∈ (padded width value).toList) :
    char.isDigit = true := by
  rw [toList_padded] at member
  rcases List.mem_append.mp member with zero | digit
  · rw [List.eq_of_mem_replicate zero]
    rfl
  · exact Nat.isDigit_of_mem_toDigits (by decide) (by decide) digit

theorem length_padded (positive : 0 < width) (small : value < 10 ^ width) :
    (padded width value).toList.length = width := by
  have short := (Nat.length_toDigits_le_iff (by decide) positive).mpr small
  rw [toList_padded, List.length_append, List.length_replicate]
  omega

theorem length_padded_two (small : value < 100) : (padded 2 value).toList.length = 2 :=
  length_padded (by decide) small

theorem ofDigitChars_padded (width value : Nat) :
    Nat.ofDigitChars 10 (padded width value).toList 0 = value := by
  rw [toList_padded, Nat.ofDigitChars_append, Nat.ofDigitChars_replicate_zero, Nat.mul_zero,
    Nat.ofDigitChars_ten_toDigits]

/-- Digits are the number that they write, written in as many digits. -/
theorem padded_ofDigitChars {shown : List Char} (nonempty : 0 < shown.length)
    (digits : ∀ char ∈ shown, char.isDigit = true) :
    (padded shown.length (Nat.ofDigitChars 10 shown 0)).toList = shown := by
  apply ofDigitChars_injective (fun _ => isDigit_of_mem_padded) digits
  · exact length_padded nonempty (ofDigitChars_lt digits)
  · exact ofDigitChars_padded _ _

/-- A number is read from the digits it is written in, and from nothing else. -/
theorem number?_padded_iff (positive : 0 < width) {chars rest : List Char} :
    number? 0 width chars = some (value, rest)
      ↔ value < 10 ^ width ∧ (padded width value).toList ++ rest = chars := by
  rw [number?_eq_some_iff]
  constructor
  · rintro ⟨shown, rfl, rfl, digits, rfl⟩
    exact ⟨ofDigitChars_lt digits, by rw [padded_ofDigitChars positive digits]⟩
  · rintro ⟨small, rfl⟩
    refine ⟨(padded width value).toList, rfl, length_padded positive small, ?_, ?_⟩
    · exact fun char => isDigit_of_mem_padded
    · exact (ofDigitChars_padded width value).symm

theorem twoDigits?_eq_some_iff {chars rest : List Char} :
    twoDigits? chars = some (value, rest)
      ↔ value < 100 ∧ (padded 2 value).toList ++ rest = chars := by
  have two : 0 < 2 := by decide
  exact number?_padded_iff two

end Padded

end GossipNames.Rfc3339
