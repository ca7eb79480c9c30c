import GossipNames.Bytes
import GossipNames.Text.Reading

/-! Internet addresses of both versions, and how they are written. -/

namespace GossipNames

inductive IpAddress where
  | v4 (bytes : Bytes)
  | v6 (groups : List UInt16)
  deriving DecidableEq, Repr

namespace IpAddress

/-- A reader takes something off the front of a text. -/
private abbrev Reader (α : Type) := List Char → Option (α × List Char)

/-- As many digits as there are, of which there have to be one to `limit`. -/
private def readNumber (base limit : Nat) : Reader (List Char × Nat) := fun chars => do
  let digits := chars.takeWhile fun char => (Text.digitValue? base char).isSome
  let value ← Text.readDigits? base digits
  if limit < digits.length then none else some ((digits, value), chars.drop digits.length)

/-- A number from 0 to 255 without leading zeros. -/
private def readOctet : Reader UInt8 := fun chars => do
  let ((digits, value), rest) ← readNumber 10 3 chars
  if (digits.head? = some '0' ∧ digits.length ≠ 1) ∨ 256 ≤ value then none
  else some (UInt8.ofNat value, rest)

private def readChar (char : Char) : Reader Unit
  | first :: rest => if first = char then some ((), rest) else none
  | [] => none

private def readV4 : Reader Bytes := fun chars => do
  let (first, rest) ← readOctet chars
  let ((), rest) ← readChar '.' rest
  let (second, rest) ← readOctet rest
  let ((), rest) ← readChar '.' rest
  let (third, rest) ← readOctet rest
  let ((), rest) ← readChar '.' rest
  let (fourth, rest) ← readOctet rest
  return ([first, second, third, fourth], rest)

private def readGroup : Reader UInt16 := fun chars => do
  let ((_, value), rest) ← readNumber 16 4 chars
  return (UInt16.ofNat value, rest)

private def joinBytes (high low : UInt8) : UInt16 :=
  UInt16.ofNat (256 * high.toNat + low.toNat)

private def afterColon {α : Type} (first : Bool) (read : Reader α) : Reader α := fun chars =>
  if first then read chars else (readChar ':' chars).bind fun ((), rest) => read rest

/-- Up to `room` groups between colons. An address of version 4 may stand for two of them and
ends the row. -/
private def readGroups : (room : Nat) → (first : Bool) → List Char →
    List UInt16 × Bool × List Char
  | 0, _, chars => ([], false, chars)
  | room + 1, first, chars =>
    let group (chars : List Char) : List UInt16 × Bool × List Char :=
      match afterColon first readGroup chars with
      | some (group, rest) =>
        let (groups, embedded, rest) := readGroups room false rest
        (group :: groups, embedded, rest)
      | none => ([], false, chars)
    match if room = 0 then none else afterColon first readV4 chars with
    | some ([a, b, c, d], rest) => ([joinBytes a b, joinBytes c d], true, rest)
    | _ => group chars

/-- Eight groups, or fewer around two colons that stand for one zero group or more. -/
private def readV6 : Reader (List UInt16) := fun chars =>
  let (head, embedded, rest) := readGroups 8 true chars
  if head.length = 8 then some (head, rest)
  else if embedded then none
  else
    match rest with
    | ':' :: ':' :: rest =>
      let (tail, _, rest) := readGroups (7 - head.length) true rest
      some (head ++ List.replicate (8 - head.length - tail.length) 0 ++ tail, rest)
    | _ => none

private def whole {α : Type} (read : Reader α) (text : String) : Option α :=
  match read text.toList with
  | some (result, []) => some result
  | _ => none

def parseV4? (text : String) : Option Bytes :=
  whole readV4 text

def parseV6? (text : String) : Option (List UInt16) :=
  whole readV6 text

def parse? (text : String) : Option IpAddress :=
  (parseV4? text).map .v4 <|> (parseV6? text).map .v6

private def textV4 (bytes : Bytes) : String :=
  ".".intercalate (bytes.map fun byte => toString byte.toNat)

private def textGroups (groups : List UInt16) : String :=
  ":".intercalate (groups.map fun group => String.ofList (Nat.toDigits 16 group.toNat))

/-- The start and length of the first longest run of zero groups. -/
private def longestZeros (groups : List UInt16) : Nat × Nat :=
  (List.range groups.length).foldl (fun best start =>
    let length := ((groups.drop start).takeWhile (· = 0)).length
    if best.2 < length then (start, length) else best) (0, 0)

private def textV6 (groups : List UInt16) : String :=
  match groups with
  | [0, 0, 0, 0, 0, 0xffff, high, low] =>
    let bytes (group : UInt16) : Bytes :=
      [UInt8.ofNat (group.toNat / 256), UInt8.ofNat group.toNat]
    "::ffff:" ++ textV4 (bytes high ++ bytes low)
  | _ =>
    let (start, length) := longestZeros groups
    if 1 < length then
      textGroups (groups.take start) ++ "::" ++ textGroups (groups.drop (start + length))
    else textGroups groups

def text : IpAddress → String
  | .v4 bytes => textV4 bytes
  | .v6 groups => textV6 groups

/-- The address with a port behind it. -/
def withPort (address : IpAddress) (port : Nat) : String :=
  match address with
  | .v4 _ => s!"{address.text}:{port}"
  | .v6 _ => s!"[{address.text}]:{port}"

end IpAddress

end GossipNames
