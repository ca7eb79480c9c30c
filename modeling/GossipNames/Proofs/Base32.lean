import GossipNames.Encoding.Base32
import Mathlib.Data.List.GetD
import Mathlib.Tactic.Ring

/-! Base 32 loses nothing: the bits of the characters are those of the bytes, and what fills up the
last group is known. So bytes are read back from their text, and from no other text. -/

namespace GossipNames.Base32

theorem length_bitsOf (width value : Nat) : (bitsOf width value).length = width := by
  induction width with
  | zero => rfl
  | succ width ih => rw [bitsOf, List.length_cons, ih]

private theorem foldl_bits (start : Nat) (bits : List Bool) :
    bits.foldl (fun value bit => 2 * value + bit.toNat) start
      = start * 2 ^ bits.length + ofBits bits := by
  induction bits generalizing start with
  | nil => simp [ofBits]
  | cons bit rest ih =>
    rw [ofBits, List.foldl_cons, List.foldl_cons, ih, ih (2 * 0 + bit.toNat), List.length_cons,
      Nat.pow_succ]
    ring

theorem ofBits_cons (bit : Bool) (bits : List Bool) :
    ofBits (bit :: bits) = bit.toNat * 2 ^ bits.length + ofBits bits := by
  rw [ofBits, List.foldl_cons, foldl_bits, Nat.mul_zero, Nat.zero_add]

theorem ofBits_lt (bits : List Bool) : ofBits bits < 2 ^ bits.length := by
  induction bits with
  | nil => decide
  | cons bit rest ih =>
    have half : bit.toNat * 2 ^ rest.length ≤ 2 ^ rest.length := by cases bit <;> simp
    rw [ofBits_cons, List.length_cons, Nat.pow_succ]
    omega

/-- Bits in equal number are told by the number that they write. -/
theorem ofBits_injective {first second : List Bool} (length : first.length = second.length)
    (same : ofBits first = ofBits second) : first = second := by
  induction first generalizing second with
  | nil => exact (List.eq_nil_of_length_eq_zero length.symm).symm
  | cons bit rest ih =>
    cases second with
    | nil => cases length
    | cons other others =>
      have lengths : rest.length = others.length := Nat.succ.inj length
      have low := ofBits_lt rest
      have low' := ofBits_lt others
      rw [ofBits_cons, ofBits_cons, ← lengths] at same
      rw [← lengths] at low'
      have bits : bit = other := by
        cases bit <;> cases other <;> simp at same ⊢ <;> omega
      subst bits
      rw [ih lengths (by omega)]

theorem ofBits_bitsOf (width value : Nat) : ofBits (bitsOf width value) = value % 2 ^ width := by
  induction width with
  | zero => rw [Nat.pow_zero, Nat.mod_one]; rfl
  | succ width ih =>
    rw [bitsOf, ofBits_cons, length_bitsOf, ih, Nat.mod_pow_succ, Nat.toNat_testBit, Nat.add_comm,
      Nat.mul_comm]

theorem bitsOf_ofBits (bits : List Bool) : bitsOf bits.length (ofBits bits) = bits := by
  apply ofBits_injective (length_bitsOf _ _)
  rw [ofBits_bitsOf, Nat.mod_eq_of_lt (ofBits_lt bits)]

/-- The bits of bytes, byte after byte. -/
def bitsOfBytes (bytes : Bytes) : List Bool :=
  bytes.flatMap fun byte => bitsOf 8 byte.toNat

/-- The groups are the bits in order, filled up with less than a group of zeros. -/
theorem fives_spec (bits : List Bool) :
    (∃ pad < 5, (fives bits).flatten = bits ++ List.replicate pad false)
      ∧ ∀ group ∈ fives bits, group.length = 5 := by
  induction bits using fives.induct with
  | case1 a b c d e rest ih =>
    obtain ⟨⟨pad, short, flat⟩, groups⟩ := ih
    refine ⟨⟨pad, short, by simp [fives, flat]⟩, ?_⟩
    intro group member
    rw [fives, List.mem_cons] at member
    rcases member with rfl | later
    · rfl
    · exact groups group later
  | case2 => exact ⟨⟨0, by decide, rfl⟩, by simp [fives]⟩
  | case3 short few left =>
    have nonempty : 0 < short.length := List.length_pos_iff.mpr left
    have fewer : short.length < 5 := by
      rcases short with _ | ⟨a, _ | ⟨b, _ | ⟨c, _ | ⟨d, _ | ⟨e, rest⟩⟩⟩⟩⟩
      case cons.cons.cons.cons.cons => exact absurd rfl (few a b c d e rest)
      all_goals simp
    rw [fives]
    · refine ⟨⟨5 - short.length, by omega, by simp⟩, ?_⟩
      intro group member
      rw [List.mem_singleton.mp member, List.length_append, List.length_replicate]
      omega
    · exact few
    · exact left

/-- Groups of eight bits give the bytes back, and leave what is no whole group. -/
theorem eights_append (bytes : Bytes) {left : List Bool} (short : left.length < 8) :
    eights (bitsOfBytes bytes ++ left) = (bytes, left) := by
  induction bytes with
  | nil =>
    change eights left = _
    rw [eights]
    rintro a b c d e f g h rest rfl
    simp only [List.length_cons] at short
    omega
  | cons byte rest ih =>
    have own : ofBits (bitsOf 8 byte.toNat) = byte.toNat := by
      rw [ofBits_bitsOf, Nat.mod_eq_of_lt byte.toNat_lt]
    have front : bitsOfBytes (byte :: rest) ++ left
        = bitsOf 8 byte.toNat ++ (bitsOfBytes rest ++ left) := by
      rw [bitsOfBytes, List.flatMap_cons, List.append_assoc]
      rfl
    simp only [bitsOf] at own front
    simp only [front, List.cons_append, List.nil_append, eights, ih, own, UInt8.ofNat_toNat]

theorem eights_spec (bits : List Bool) :
    bits = bitsOfBytes (eights bits).1 ++ (eights bits).2 := by
  induction bits using eights.induct with
  | case1 a b c d e f g h rest bytes left split ih =>
    have group : bitsOf 8 (UInt8.ofNat (ofBits [a, b, c, d, e, f, g, h])).toNat
        = [a, b, c, d, e, f, g, h] := by
      have small : ofBits [a, b, c, d, e, f, g, h] < 2 ^ 8 := ofBits_lt _
      rw [UInt8.toNat_ofNat', Nat.mod_eq_of_lt small]
      exact bitsOf_ofBits [a, b, c, d, e, f, g, h]
    rw [split] at ih
    rw [eights, split, bitsOfBytes, List.flatMap_cons, group, List.append_assoc, ← bitsOfBytes,
      ← ih]
    rfl
  | case2 left few =>
    rw [eights]
    · rfl
    · exact few

theorem findIdx?_getD {digit : Nat} (small : digit < 32) :
    alphabet.findIdx? (· = alphabet.getD digit 'A') = some digit := by
  have each : ∀ digit < 32, alphabet.findIdx? (· = alphabet.getD digit 'A') = some digit := by
    decide
  exact each digit small

theorem getD_of_findIdx? {char : Char} {digit : Nat}
    (found : alphabet.findIdx? (· = char) = some digit) :
    digit < 32 ∧ alphabet.getD digit 'A' = char := by
  obtain ⟨inside, same, -⟩ := List.findIdx?_eq_some_iff_getElem.mp found
  refine ⟨inside, ?_⟩
  rw [List.getD_eq_getElem _ _ inside]
  exact of_decide_eq_true same

/-- Digits are read from the characters that stand for them, and from no others. -/
theorem mapM_findIdx?_eq_some_iff {chars : List Char} {digits : List Nat} :
    (chars.mapM fun char => alphabet.findIdx? (· = char)) = some digits ↔
      (∀ digit ∈ digits, digit < 32) ∧ digits.map (alphabet.getD · 'A') = chars := by
  induction chars generalizing digits with
  | nil =>
    rw [List.mapM_nil, List.map_eq_nil_iff]
    constructor
    · rintro ⟨⟩
      simp
    · rintro ⟨-, rfl⟩
      rfl
  | cons char chars ih =>
    rw [List.mapM_cons]
    constructor
    · intro read
      obtain ⟨digit, first, read⟩ := Option.bind_eq_some_iff.mp read
      obtain ⟨rest, others, read⟩ := Option.bind_eq_some_iff.mp read
      cases read
      obtain ⟨small, shown⟩ := getD_of_findIdx? first
      obtain ⟨smaller, same⟩ := ih.mp others
      refine ⟨?_, by rw [List.map_cons, shown, same]⟩
      intro other member
      rcases List.mem_cons.mp member with rfl | later
      · exact small
      · exact smaller other later
    · rintro ⟨small, same⟩
      cases digits with
      | nil => cases same
      | cons digit rest =>
        obtain ⟨rfl, later⟩ := List.cons.inj same
        have others := ih.mpr
          ⟨fun other member => small other (List.mem_cons_of_mem _ member), later⟩
        rw [findIdx?_getD (small digit List.mem_cons_self), others]
        rfl

private theorem map_length {groups : List (List Bool)}
    (five : ∀ group ∈ groups, group.length = 5) :
    groups.map List.length = List.replicate groups.length 5 := by
  rw [List.map_congr_left five, List.map_const']

private theorem length_flatten {groups : List (List Bool)}
    (five : ∀ group ∈ groups, group.length = 5) : groups.flatten.length = groups.length * 5 := by
  rw [List.length_flatten, map_length five, List.sum_replicate_nat]

/-- Whole groups are told by the bits that they consist of. -/
private theorem flatten_injective {first second : List (List Bool)}
    (five : ∀ group ∈ first, group.length = 5) (five' : ∀ group ∈ second, group.length = 5)
    (same : first.flatten = second.flatten) : first = second := by
  have count : first.length * 5 = second.length * 5 := by
    rw [← length_flatten five, ← length_flatten five', same]
  have counts : first.length = second.length := by omega
  apply List.eq_iff_flatten_eq.mpr
  exact ⟨same, by rw [map_length five, map_length five', counts]⟩

/-- There is one way only to fill bits up to whole groups with less than a group of zeros. -/
theorem fives_eq {bits : List Bool} {groups : List (List Bool)}
    (five : ∀ group ∈ groups, group.length = 5) {pad : Nat} (short : pad < 5)
    (flat : groups.flatten = bits ++ List.replicate pad false) : fives bits = groups := by
  obtain ⟨⟨own, few, filled⟩, whole⟩ := fives_spec bits
  have total := congrArg List.length flat
  have total' := congrArg List.length filled
  rw [length_flatten five, List.length_append, List.length_replicate] at total
  rw [length_flatten whole, List.length_append, List.length_replicate] at total'
  have pads : own = pad := by omega
  exact flatten_injective whole five (by rw [filled, flat, pads])

/-- The groups of five bits that digits write. -/
private theorem map_ofBits {groups : List (List Bool)}
    (length : ∀ group ∈ groups, group.length = 5) :
    (groups.map ofBits).flatMap (bitsOf 5) = groups.flatten := by
  rw [List.flatMap_map, List.flatMap_def]
  congr 1
  have each : ∀ group ∈ groups, bitsOf 5 (ofBits group) = group := by
    intro group member
    have own := bitsOf_ofBits group
    rwa [length group member] at own
  rw [List.map_congr_left each, List.map_id']

theorem decode?_encode (bytes : Bytes) : decode? (encode bytes) = some bytes := by
  obtain ⟨⟨pad, short, flat⟩, groups⟩ := fives_spec (bitsOfBytes bytes)
  let digits := (fives (bitsOfBytes bytes)).map ofBits
  have text : (encode bytes).toList = digits.map (alphabet.getD · 'A') := by
    rw [encode, String.toList_ofList, List.map_map]
    rfl
  have small : ∀ digit ∈ digits, digit < 32 := by
    intro digit member
    obtain ⟨group, shown, rfl⟩ := List.mem_map.mp member
    have bound := ofBits_lt group
    rwa [groups group shown] at bound
  have read := mapM_findIdx?_eq_some_iff.mpr ⟨small, rfl⟩
  have bits : digits.flatMap (bitsOf 5) = bitsOfBytes bytes ++ List.replicate pad false := by
    rw [map_ofBits groups, flat]
  have few : (List.replicate pad false).length < 8 := by
    rw [List.length_replicate]
    omega
  have split := eights_append bytes few
  rw [decode?, text, read]
  simp [bits, split, short]

private theorem all_false_iff {bits : List Bool} :
    bits.all (· = false) = true ↔ bits = List.replicate bits.length false := by
  simp [List.eq_replicate_iff]

/-- No other text is read as the bytes. -/
theorem encode_of_decode? {text : String} {bytes : Bytes} (decoded : decode? text = some bytes) :
    encode bytes = text := by
  obtain ⟨digits, read, decoded⟩ := Option.bind_eq_some_iff.mp decoded
  obtain ⟨small, shown⟩ := mapM_findIdx?_eq_some_iff.mp read
  have split := eights_spec (digits.flatMap (bitsOf 5))
  generalize eights (digits.flatMap (bitsOf 5)) = parts at split decoded
  obtain ⟨whole, left⟩ := parts
  dsimp only at split decoded
  obtain ⟨few, zeros⟩ : left.length < 5 ∧ left.all (· = false) = true := by
    by_contra other
    rw [if_neg other] at decoded
    cases decoded
  rw [if_pos ⟨few, zeros⟩] at decoded
  cases decoded
  -- What is left over is what the last group of the bytes' own bits is filled up with.
  have blank := all_false_iff.mp zeros
  have written : ∀ group ∈ digits.map (bitsOf 5), group.length = 5 := by
    intro group member
    obtain ⟨digit, -, rfl⟩ := List.mem_map.mp member
    exact length_bitsOf 5 digit
  rw [List.flatMap_def, blank] at split
  have groups : fives (bitsOfBytes bytes) = digits.map (bitsOf 5) := fives_eq written few split
  have numbers : ∀ digit ∈ digits, ofBits (bitsOf 5 digit) = digit := by
    intro digit member
    rw [ofBits_bitsOf]
    exact Nat.mod_eq_of_lt (small digit member)
  rw [← String.toList_inj, encode, ← bitsOfBytes, groups, List.map_map, String.toList_ofList,
    ← shown]
  apply List.map_congr_left
  intro digit member
  rw [Function.comp_apply, numbers digit member]

theorem decode?_eq_some_iff {text : String} {bytes : Bytes} :
    decode? text = some bytes ↔ encode bytes = text := by
  constructor
  · exact encode_of_decode?
  · rintro rfl
    exact decode?_encode bytes

private theorem length_left (bits : List Bool) : (eights bits).2.length < 8 := by
  induction bits using eights.induct with
  | case1 a b c d e f g h rest bytes left split ih =>
    rw [split] at ih
    rw [eights, split]
    exact ih
  | case2 left few =>
    rw [eights]
    · rcases left with _ | ⟨a, _ | ⟨b, _ | ⟨c, _ | ⟨d, _ | ⟨e, _ | ⟨f, _ | ⟨g, _ | ⟨h, rest⟩⟩⟩⟩⟩⟩⟩⟩
      case cons.cons.cons.cons.cons.cons.cons.cons => exact absurd rfl (few a b c d e f g h rest)
      all_goals simp
    · exact few

private theorem length_flatMap_bitsOf (width : Nat) (values : List Nat) :
    (values.flatMap (bitsOf width)).length = width * values.length := by
  have each : ∀ value ∈ values, (bitsOf width value).length = width :=
    fun value _ => length_bitsOf width value
  rw [List.length_flatMap, List.map_congr_left each, List.map_const', List.sum_replicate_nat,
    Nat.mul_comm]

private theorem length_bitsOfBytes (bytes : Bytes) : (bitsOfBytes bytes).length = 8 * bytes.length := by
  rw [bitsOfBytes, ← List.flatMap_map, length_flatMap_bitsOf, List.length_map]

/-- The low bits of a number stand at the end. -/
private theorem drop_bitsOf (skipped width value : Nat) :
    (bitsOf (skipped + width) value).drop skipped = bitsOf width value := by
  induction skipped with
  | zero => rw [Nat.zero_add, List.drop_zero]
  | succ skipped ih => rw [Nat.succ_add, bitsOf, List.drop_succ_cons, ih]

/-- Less than a digit's bits are left over of eight digits, and of two, four, five or seven more. -/
private theorem short_iff (count : Nat) : 5 * count % 8 < 5 ↔ count % 8 ∉ [1, 3, 6] := by
  have each : ∀ rest < 8, (5 % 8 * rest % 8 < 5 ↔ rest ∉ [1, 3, 6]) := by decide
  rw [Nat.mul_mod]
  exact each (count % 8) (Nat.mod_lt count (by decide))

/-- Numbers below 32 that write whole bytes: in groups of eight, behind which are not one, three or
six, and with zeros for the bits of the last one that no byte has room for. -/
structure IsWhole (digits : List Nat) : Prop where
  small : ∀ digit ∈ digits, digit < 32
  tail : digits.length % 8 ∉ [1, 3, 6]
  zeros : ∀ last, digits.getLast? = some last → 2 ^ (5 * digits.length % 8) ∣ last

private theorem length_left_digits (digits : List Nat) :
    (eights (digits.flatMap (bitsOf 5))).2.length = 5 * digits.length % 8 := by
  have few := length_left (digits.flatMap (bitsOf 5))
  have sizes := congrArg List.length (eights_spec (digits.flatMap (bitsOf 5)))
  rw [List.length_append, length_bitsOfBytes, length_flatMap_bitsOf] at sizes
  omega

/-- What is left over of the bits of digits are the low bits of the last one. -/
private theorem left_eq {digits : List Nat} {last : Nat} (shown : digits.getLast? = some last)
    (short : 5 * digits.length % 8 < 5) :
    (eights (digits.flatMap (bitsOf 5))).2 = bitsOf (5 * digits.length % 8) last := by
  obtain ⟨front, rfl⟩ := List.getLast?_eq_some_iff.mp shown
  let count := 5 * (front ++ [last]).length % 8
  have ends : (front ++ [last]).flatMap (bitsOf 5)
      = (front.flatMap (bitsOf 5) ++ (bitsOf 5 last).take (5 - count)) ++ bitsOf count last := by
    have low := drop_bitsOf (5 - count) count last
    rw [Nat.sub_add_cancel (Nat.le_of_lt short)] at low
    rw [← low, List.append_assoc, List.take_append_drop, List.flatMap_append,
      List.flatMap_singleton]
  have split := eights_spec ((front ++ [last]).flatMap (bitsOf 5))
  have lengths := (length_left_digits (front ++ [last])).trans (length_bitsOf count last).symm
  exact (List.append_inj' (split.symm.trans ends) lengths).2

private theorem ofBits_zeros (width : Nat) : ofBits (List.replicate width false) = 0 := by
  induction width with
  | zero => rfl
  | succ width ih => rw [List.replicate_succ, ofBits_cons, ih]; simp

private theorem all_bitsOf_iff (width value : Nat) :
    (bitsOf width value).all (· = false) = true ↔ 2 ^ width ∣ value := by
  have bound : (bitsOf width value).length = (List.replicate width false).length := by
    rw [length_bitsOf, List.length_replicate]
  rw [all_false_iff, length_bitsOf, Nat.dvd_iff_mod_eq_zero, ← ofBits_bitsOf,
    ← ofBits_zeros width]
  exact ⟨congrArg ofBits, ofBits_injective bound⟩

private theorem left_zeros_iff {digits : List Nat} (short : 5 * digits.length % 8 < 5) :
    (eights (digits.flatMap (bitsOf 5))).2.all (· = false) = true ↔
      ∀ last, digits.getLast? = some last → 2 ^ (5 * digits.length % 8) ∣ last := by
  cases shown : digits.getLast? with
  | none =>
    rw [List.getLast?_eq_none_iff.mp shown]
    simp [eights]
  | some last =>
    rw [left_eq shown short, all_bitsOf_iff]
    simp

/-- The texts of bytes are those of digits that write whole bytes. -/
theorem exists_decode?_iff {text : String} :
    (∃ bytes, decode? text = some bytes) ↔
      ∃ digits, IsWhole digits ∧ digits.map (alphabet.getD · 'A') = text.toList := by
  have opened : ∀ digits, (text.toList.mapM fun char => alphabet.findIdx? (· = char)) = some digits →
      ((∃ bytes, decode? text = some bytes) ↔
        5 * digits.length % 8 < 5
          ∧ (eights (digits.flatMap (bitsOf 5))).2.all (· = false) = true) := by
    intro digits read
    rw [decode?, read, ← length_left_digits]
    simp
  constructor
  · rintro ⟨bytes, decoded⟩
    obtain ⟨digits, read, -⟩ := Option.bind_eq_some_iff.mp decoded
    obtain ⟨short, zeros⟩ := (opened digits read).mp ⟨bytes, decoded⟩
    obtain ⟨small, shown⟩ := mapM_findIdx?_eq_some_iff.mp read
    exact ⟨digits, ⟨small, (short_iff _).mp short, (left_zeros_iff short).mp zeros⟩, shown⟩
  · rintro ⟨digits, ⟨small, tail, zeros⟩, shown⟩
    have short := (short_iff digits.length).mpr tail
    have read := mapM_findIdx?_eq_some_iff.mpr ⟨small, shown⟩
    exact (opened digits read).mpr ⟨short, (left_zeros_iff short).mpr zeros⟩

end GossipNames.Base32
