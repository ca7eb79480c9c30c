/-! Reading texts: a fixed beginning, and numbers in digits of bases up to sixteen. -/

namespace GossipNames.Text

/-- What follows `lead` in a text that starts with it. -/
def after? (lead text : String) : Option String :=
  (lead.toList.isPrefixOf? text.toList).map String.ofList

/-- The value of a digit; letters of either case stand for ten and more. -/
def digitValue? (base : Nat) (char : Char) : Option Nat := do
  let value ←
    if '0' ≤ char ∧ char ≤ '9' then some (char.toNat - 48)
    else if 'a' ≤ char ∧ char ≤ 'f' then some (char.toNat - 87)
    else if 'A' ≤ char ∧ char ≤ 'F' then some (char.toNat - 55)
    else none
  if value < base then some value else none

/-- The number that one digit or more write. -/
def readDigits? (base : Nat) (digits : List Char) : Option Nat :=
  if digits.isEmpty then none
  else digits.foldlM (fun value char => (digitValue? base char).map (base * value + ·)) 0

/-- A decimal number of sixteen bits, perhaps behind a plus sign. -/
def readUInt16? (text : String) : Option UInt16 := do
  let digits := match text.toList with
    | '+' :: digits => digits
    | digits => digits
  let value ← readDigits? 10 digits
  if value < UInt16.size then some (UInt16.ofNat value) else none

end GossipNames.Text
