import GossipNames.Bytes

/-! Base 32 without padding: five bits per character, the unused bits of the last one zero. -/

namespace GossipNames.Base32

def alphabet : List Char :=
  "ABCDEFGHIJKLMNOPQRSTUVWXYZ234567".toList

/-- The low `width` bits of a number, most significant first. -/
def bitsOf : (width : Nat) → Nat → List Bool
  | 0, _ => []
  | width + 1, value => value.testBit width :: bitsOf width value

def ofBits (bits : List Bool) : Nat :=
  bits.foldl (fun value bit => 2 * value + bit.toNat) 0

/-- Groups of five bits, the last one filled up with zeros. -/
def fives : List Bool → List (List Bool)
  | a :: b :: c :: d :: e :: rest => [a, b, c, d, e] :: fives rest
  | [] => []
  | short => [short ++ List.replicate (5 - short.length) false]

/-- Whole groups of eight bits as bytes, and the bits left over. -/
def eights : List Bool → Bytes × List Bool
  | a :: b :: c :: d :: e :: f :: g :: h :: rest =>
    let (bytes, left) := eights rest
    (UInt8.ofNat (ofBits [a, b, c, d, e, f, g, h]) :: bytes, left)
  | left => ([], left)

def encode (bytes : Bytes) : String :=
  let bits := bytes.flatMap fun byte => bitsOf 8 byte.toNat
  String.ofList ((fives bits).map fun group => alphabet.getD (ofBits group) 'A')

/-- Refuses other characters, a last character that carries no bit of a byte, and unused bits
that are not zero. -/
def decode? (text : String) : Option Bytes := do
  let digits ← text.toList.mapM fun char => alphabet.findIdx? (· = char)
  let (bytes, left) := eights (digits.flatMap (bitsOf 5))
  if left.length < 5 ∧ left.all (· = false) then some bytes else none

end GossipNames.Base32
