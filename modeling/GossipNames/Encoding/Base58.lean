import GossipNames.Bytes
import GossipNames.Text.Quoted

/-! Natural numbers as digits in a base, most significant digit first and without leading zeros, and
base 58: a byte string as one number, with a `1` for every leading zero byte. -/

namespace GossipNames.Radix

/-- The digits of a number in front of `rest`. -/
def digitsBefore (base value : Nat) (rest : List Nat) : List Nat :=
  if value = 0 ∨ base < 2 then rest
  else digitsBefore base (value / base) (value % base :: rest)
termination_by value
decreasing_by exact Nat.div_lt_self (by omega) (by omega)

def digits (base value : Nat) : List Nat :=
  digitsBefore base value []

def value (base : Nat) (digits : List Nat) : Nat :=
  digits.foldl (fun value digit => base * value + digit) 0

end GossipNames.Radix

namespace GossipNames.Base58

def alphabet : List Char :=
  "123456789ABCDEFGHJKLMNPQRSTUVWXYZabcdefghijkmnopqrstuvwxyz".toList

/-- Why a text is not base 58, with the offset of the first byte at fault. -/
inductive Fault where
  | nonAscii (offset : Nat)
  | invalidCharacter (char : Char) (offset : Nat)
  deriving DecidableEq

def Fault.message : Fault → String
  | .nonAscii offset => s!"provided string contained non-ascii character starting at byte {offset}"
  | .invalidCharacter char offset =>
    let shown := Text.quoteChar char
    s!"provided string contained invalid character {shown} at byte {offset}"

def encode (bytes : Bytes) : String :=
  let zeros := (bytes.takeWhile (· = 0)).length
  let digits := Radix.digits 58 (bytes.toNatBigEndian)
  String.ofList (List.replicate zeros '1' ++ digits.map fun digit => alphabet.getD digit '1')

private def digitsOf (offset : Nat) : List Char → Except Fault (List Nat)
  | [] => .ok []
  | char :: rest =>
    if 0x7F < char.toNat then .error (.nonAscii offset)
    else
      match alphabet.findIdx? (· = char) with
      | none => .error (.invalidCharacter char offset)
      | some digit => (digitsOf (offset + 1) rest).map (digit :: ·)

def decode (text : String) : Except Fault Bytes := do
  let digits ← digitsOf 0 text.toList
  let zeros := (digits.takeWhile (· = 0)).length
  let bytes := Radix.digits 256 (Radix.value 58 digits)
  return List.replicate zeros 0 ++ bytes.map UInt8.ofNat

/-- The character that stands for a digit. -/
private def shown (digit : Nat) : Char :=
  alphabet.getD digit '1'

private theorem shown_digit {digit : Nat} (small : digit < 58) :
    ¬ 0x7F < (shown digit).toNat ∧ alphabet.findIdx? (· = shown digit) = some digit := by
  revert digit
  decide +kernel

private theorem digitsOf_shown (offset : Nat) {digits : List Nat}
    (small : ∀ digit ∈ digits, digit < 58) : digitsOf offset (digits.map shown) = .ok digits := by
  induction digits generalizing offset with
  | nil => rfl
  | cons digit rest ih =>
    obtain ⟨ascii, found⟩ := shown_digit (small digit List.mem_cons_self)
    have read := ih (offset + 1) fun other member => small other (List.mem_cons_of_mem digit member)
    simp only [List.map_cons, digitsOf, if_neg ascii, found, read]
    rfl

/-- What a text of given digits is decoded to. -/
theorem decode_ofDigits {digits : List Nat} (small : ∀ digit ∈ digits, digit < 58) :
    decode (String.ofList (digits.map fun digit => alphabet.getD digit '1'))
      = .ok (List.replicate (digits.takeWhile (· = 0)).length 0
          ++ (Radix.digits 256 (Radix.value 58 digits)).map UInt8.ofNat) := by
  have read := digitsOf_shown 0 small
  unfold decode
  rw [String.toList_ofList]
  change (digitsOf 0 (digits.map shown)).bind _ = _
  rw [read]
  rfl

private theorem shown_of_findIdx? {char : Char} {digit : Nat}
    (found : alphabet.findIdx? (· = char) = some digit) : digit < 58 ∧ shown digit = char := by
  obtain ⟨inside, same, -⟩ := List.findIdx?_eq_some_iff_getElem.mp found
  refine ⟨inside, ?_⟩
  rw [shown, List.getD_eq_getElem?_getD, List.getElem?_eq_getElem inside, Option.getD_some]
  exact of_decide_eq_true same

private theorem map_shown_of_digitsOf {offset : Nat} {chars : List Char} {digits : List Nat}
    (read : digitsOf offset chars = .ok digits) :
    (∀ digit ∈ digits, digit < 58) ∧ digits.map shown = chars := by
  induction chars generalizing offset digits with
  | nil =>
    cases read
    exact ⟨fun digit member => absurd member List.not_mem_nil, rfl⟩
  | cons char rest ih =>
    unfold digitsOf at read
    split at read
    · cases read
    · split at read
      · cases read
      · rename_i first found
        cases others : digitsOf (offset + 1) rest with
        | error fault => rw [others] at read; cases read
        | ok later =>
          rw [others] at read
          cases read
          obtain ⟨small, same⟩ := shown_of_findIdx? found
          obtain ⟨smaller, shown⟩ := ih others
          refine ⟨?_, by rw [List.map_cons, same, shown]⟩
          intro digit member
          rcases List.mem_cons.mp member with rfl | late
          · exact small
          · exact smaller digit late

/-- Only texts of digits are decoded. -/
theorem exists_digits_of_decode {text : String} {bytes : Bytes} (decoded : decode text = .ok bytes) :
    ∃ digits : List Nat, (∀ digit ∈ digits, digit < 58)
      ∧ String.ofList (digits.map fun digit => alphabet.getD digit '1') = text := by
  cases read : digitsOf 0 text.toList with
  | error fault =>
    unfold decode at decoded
    rw [read] at decoded
    cases decoded
  | ok digits =>
    obtain ⟨small, same⟩ := map_shown_of_digitsOf read
    refine ⟨digits, small, ?_⟩
    change String.ofList (digits.map shown) = text
    rw [same, String.ofList_toList]

/-- No character of an encoding is a slash. -/
theorem slash_not_mem_encode (bytes : Bytes) : '/' ∉ (encode bytes).toList := by
  have plain : ∀ digit, shown digit ≠ '/' := by
    intro digit
    by_cases small : digit < 58
    · revert digit
      decide +kernel
    · have beyond : alphabet.length ≤ digit := Nat.not_lt.mp small
      rw [shown, List.getD_eq_getElem?_getD, List.getElem?_eq_none beyond]
      decide
  rw [encode, String.toList_ofList]
  intro member
  rcases List.mem_append.mp member with zeros | digits
  · exact absurd (List.eq_of_mem_replicate zeros) (by decide)
  · obtain ⟨digit, -, slash⟩ := List.mem_map.mp digits
    exact plain digit slash

private theorem digitsOf_of_mem_slash (offset : Nat) {chars : List Char} (member : '/' ∈ chars) :
    ∃ fault, digitsOf offset chars = .error fault := by
  induction chars generalizing offset with
  | nil => cases member
  | cons char rest ih =>
    unfold digitsOf
    split
    · exact ⟨_, rfl⟩
    · split
      · exact ⟨_, rfl⟩
      · rename_i digit found
        have plain : '/' ≠ char := by
          rintro rfl
          have absent : alphabet.findIdx? (· = '/') = none := by decide +kernel
          rw [absent] at found
          cases found
        obtain ⟨fault, failed⟩ := ih (offset + 1) ((List.mem_cons.mp member).resolve_left plain)
        exact ⟨fault, by rw [failed]; rfl⟩

/-- So a text with a slash in it is not an encoding. -/
theorem decode_of_mem_slash {text : String} (member : '/' ∈ text.toList) :
    ∃ fault, decode text = .error fault := by
  obtain ⟨fault, failed⟩ := digitsOf_of_mem_slash 0 member
  refine ⟨fault, ?_⟩
  unfold decode
  rw [failed]
  rfl

end GossipNames.Base58
