import GossipNames.Encoding.Base58
import Mathlib.Data.Nat.Digits.Lemmas

/-! Base 58 loses nothing: the digits of a number give the number back, and the marks of the leading
zero bytes give those back. So bytes are read back from their text, and from no other text. -/

namespace GossipNames

namespace Radix

variable {base : Nat}

theorem digits_eq (large : 1 < base) (number : Nat) :
    digits base number = (Nat.digits base number).reverse := by
  have before : ∀ rest, digitsBefore base number rest = (Nat.digits base number).reverse ++ rest := by
    induction number using Nat.strongRecOn with
    | ind number ih =>
      intro rest
      rw [digitsBefore]
      by_cases zero : number = 0
      · simp [zero]
      · have positive := Nat.pos_of_ne_zero zero
        rw [if_neg (by omega), ih _ (Nat.div_lt_self positive large), Nat.digits_def' large positive,
          List.reverse_cons, List.append_assoc, List.singleton_append]
  rw [digits, before, List.append_nil]

theorem value_eq (base : Nat) (digits : List Nat) :
    value base digits = Nat.ofDigits base digits.reverse := by
  induction digits using List.reverseRecOn with
  | nil => rfl
  | append_singleton front digit ih =>
    rw [List.reverse_append, List.reverse_singleton, List.singleton_append, Nat.ofDigits_cons, ← ih,
      value, List.foldl_append, Nat.add_comm]
    rfl

theorem value_digits (large : 1 < base) (number : Nat) : value base (digits base number) = number := by
  rw [digits_eq large, value_eq, List.reverse_reverse, Nat.ofDigits_digits]

/-- Without a zero in front, digits are the ones of the number that they state. -/
theorem digits_value (large : 1 < base) {digits : List Nat} (small : ∀ digit ∈ digits, digit < base)
    (lead : digits.head? ≠ some 0) : Radix.digits base (value base digits) = digits := by
  have last : ∀ shown : digits.reverse ≠ [], digits.reverse.getLast shown ≠ 0 := by
    intro shown zero
    apply lead
    rw [List.getLast_reverse] at zero
    rw [List.head?_eq_some_head (List.reverse_ne_nil_iff.mp shown), zero]
  rw [digits_eq large, value_eq, Nat.digits_ofDigits base large digits.reverse _ last,
    List.reverse_reverse]
  intro digit member
  exact small digit (List.mem_reverse.mp member)

theorem digits_lt (large : 1 < base) {number digit : Nat} (member : digit ∈ digits base number) :
    digit < base := by
  rw [digits_eq large, List.mem_reverse] at member
  exact Nat.digits_lt_base large member

theorem head?_digits (large : 1 < base) (number : Nat) : (digits base number).head? ≠ some 0 := by
  rw [digits_eq large, List.head?_reverse]
  by_cases zero : number = 0
  · simp [zero]
  · rw [List.getLast?_eq_some_getLast (Nat.digits_ne_nil_iff_ne_zero.mpr zero)]
    exact fun same => Nat.getLast_digit_ne_zero base zero (Option.some.inj same)

theorem value_zeros (base count : Nat) (digits : List Nat) :
    value base (List.replicate count 0 ++ digits) = value base digits := by
  rw [value_eq, value_eq, List.reverse_append, List.reverse_replicate,
    Nat.ofDigits_append_replicate_zero]

end Radix

theorem Bytes.toNatBigEndian_eq (bytes : Bytes) :
    bytes.toNatBigEndian = Radix.value 256 (bytes.map UInt8.toNat) := by
  rw [Bytes.toNatBigEndian, Radix.value, List.foldl_map]

namespace Base58

private theorem takeWhile_zeros {α : Type} [DecidableEq α] {zero : α} (count : Nat) {digits : List α}
    (lead : digits.head? ≠ some zero) :
    (List.replicate count zero ++ digits).takeWhile (· = zero) = List.replicate count zero := by
  have blank : digits.takeWhile (· = zero) = [] := by
    cases digits with
    | nil => rfl
    | cons digit rest =>
      have positive : digit ≠ zero := by simpa using lead
      simp [positive]
  rw [List.takeWhile_append_of_pos (by simp), blank, List.append_nil]

private theorem zeros_append {α : Type} [DecidableEq α] (zero : α) (digits : List α) :
    List.replicate (digits.takeWhile (· = zero)).length zero ++ digits.dropWhile (· = zero)
      = digits := by
  have blank : digits.takeWhile (· = zero)
      = List.replicate (digits.takeWhile (· = zero)).length zero := by
    refine List.eq_replicate_iff.mpr ⟨rfl, ?_⟩
    intro digit member
    simpa using List.all_eq_true.mp List.all_takeWhile digit member
  rw [← blank]
  exact List.takeWhile_append_dropWhile

private theorem head?_dropWhile {α : Type} [DecidableEq α] (zero : α) (digits : List α) :
    (digits.dropWhile (· = zero)).head? ≠ some zero := by
  intro first
  have refused := List.head?_dropWhile_not (· = zero) digits
  rw [first] at refused
  simp at refused

private theorem head?_plain (bytes : Bytes) :
    ((bytes.dropWhile (· = 0)).map UInt8.toNat).head? ≠ some 0 := by
  rw [List.head?_map]
  intro zero
  obtain ⟨byte, first, isZero⟩ := Option.map_eq_some_iff.mp zero
  obtain rfl : byte = 0 := UInt8.toNat_inj.mp isZero
  exact head?_dropWhile 0 bytes first

/-- The number that bytes state in base 256 gives those behind the leading zeros. -/
private theorem digits_toNatBigEndian (bytes : Bytes) :
    (Radix.digits 256 bytes.toNatBigEndian).map UInt8.ofNat = bytes.dropWhile (· = 0) := by
  let plain := bytes.dropWhile (· = 0)
  have number : bytes.toNatBigEndian = Radix.value 256 (plain.map UInt8.toNat) := by
    rw [Bytes.toNatBigEndian_eq, ← zeros_append 0 bytes, List.map_append, List.map_replicate]
    exact Radix.value_zeros 256 _ _
  have small : ∀ digit ∈ plain.map UInt8.toNat, digit < 256 := by
    intro digit member
    obtain ⟨byte, -, rfl⟩ := List.mem_map.mp member
    exact byte.toNat_lt
  have bytewise : UInt8.ofNat ∘ UInt8.toNat = id := funext fun byte => UInt8.ofNat_toNat
  rw [number, Radix.digits_value (by decide) small (head?_plain bytes), List.map_map, bytewise,
    List.map_id]

/-- What was encoded is decoded, whatever bytes it was. -/
theorem decode_encode (bytes : Bytes) : decode (encode bytes) = .ok bytes := by
  let zeros := (bytes.takeWhile (· = 0)).length
  let digits := Radix.digits 58 bytes.toNatBigEndian
  have lead : digits.head? ≠ some 0 := Radix.head?_digits (by decide) _
  have text : encode bytes = String.ofList
      ((List.replicate zeros 0 ++ digits).map fun digit => alphabet.getD digit '1') := by
    rw [List.map_append, List.map_replicate]
    rfl
  have small : ∀ digit ∈ List.replicate zeros 0 ++ digits, digit < 58 := by
    intro digit member
    rcases List.mem_append.mp member with blank | shown
    · rw [List.eq_of_mem_replicate blank]
      decide
    · exact Radix.digits_lt (by decide) shown
  rw [text, decode_ofDigits small, takeWhile_zeros zeros lead, List.length_replicate,
    Radix.value_zeros, Radix.value_digits (by decide), digits_toNatBigEndian, zeros_append]

/-- The digits of a number in base 256 are bytes, and no zero stands in front. -/
private theorem head?_map_ofNat (number : Nat) :
    ((Radix.digits 256 number).map UInt8.ofNat).head? ≠ some 0 := by
  rw [List.head?_map]
  intro zero
  obtain ⟨digit, first, isZero⟩ := Option.map_eq_some_iff.mp zero
  have small := Radix.digits_lt (by decide) (List.mem_of_mem_head? first)
  have positive : digit ≠ 0 := fun same => Radix.head?_digits (by decide) number (same ▸ first)
  have value := congrArg UInt8.toNat isZero
  rw [UInt8.toNat_ofNat'] at value
  simp only [UInt8.toNat_zero] at value
  omega

private theorem toNatBigEndian_ofNat (number : Nat) :
    Radix.value 256 (((Radix.digits 256 number).map UInt8.ofNat).map UInt8.toNat) = number := by
  have bytewise : ∀ digit ∈ Radix.digits 256 number, (UInt8.toNat ∘ UInt8.ofNat) digit = digit := by
    intro digit member
    have small := Radix.digits_lt (by decide) member
    rw [Function.comp_apply, UInt8.toNat_ofNat']
    omega
  rw [List.map_map, List.map_congr_left bytewise, List.map_id', Radix.value_digits (by decide)]

/-- No other text is decoded to the bytes. -/
theorem encode_of_decode {text : String} {bytes : Bytes} (decoded : decode text = .ok bytes) :
    encode bytes = text := by
  obtain ⟨digits, small, rfl⟩ := exists_digits_of_decode decoded
  rw [decode_ofDigits small, Except.ok.injEq] at decoded
  subst decoded
  let zeros := (digits.takeWhile (· = 0)).length
  let plain := digits.dropWhile (· = 0)
  let number := Radix.value 58 digits
  have marks := takeWhile_zeros zeros (head?_map_ofNat number)
  have stated : Bytes.toNatBigEndian
      (List.replicate zeros 0 ++ (Radix.digits 256 number).map UInt8.ofNat) = number := by
    rw [Bytes.toNatBigEndian_eq, List.map_append, List.map_replicate]
    exact (Radix.value_zeros 256 zeros _).trans (toNatBigEndian_ofNat number)
  have shown : Radix.digits 58 number = plain := by
    have same : number = Radix.value 58 plain := by
      rw [← Radix.value_zeros 58 zeros plain, zeros_append 0 digits]
    rw [same]
    refine Radix.digits_value (by decide) ?_ (head?_dropWhile 0 digits)
    intro digit member
    exact small digit (List.dropWhile_subset _ member)
  have chars : List.replicate zeros '1' ++ plain.map (fun digit => alphabet.getD digit '1')
      = digits.map fun digit => alphabet.getD digit '1' := by
    conv_rhs => rw [← zeros_append 0 digits, List.map_append, List.map_replicate]
    rfl
  rw [encode, marks, stated, shown, List.length_replicate, chars]

theorem decode_eq_ok_iff {text : String} {bytes : Bytes} :
    decode text = .ok bytes ↔ encode bytes = text := by
  constructor
  · exact encode_of_decode
  · rintro rfl
    exact decode_encode bytes

theorem encode_inj {first second : Bytes} : encode first = encode second ↔ first = second := by
  rw [← decode_eq_ok_iff, decode_encode, Except.ok.injEq, eq_comm]

end Base58

end GossipNames
