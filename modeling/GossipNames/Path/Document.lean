import GossipNames.Decimal.Shortest
import GossipNames.Path
import GossipNames.Text.Reading

/-! Paths inside structured documents, where only texts stand for paths. -/

namespace GossipNames

/-- A value of a document, as far as its kind matters for reading a text. -/
inductive DocumentValue where
  | text (value : String)
  | integer (value : Int)
  | decimal (value : Float)
  | boolean (value : Bool)
  | null
  | sequence
  | map

/-- Reads the sign in front of a row of characters. -/
private def readSign : List Char → Bool × List Char
  | '-' :: rest => (true, rest)
  | '+' :: rest => (false, rest)
  | chars => (false, chars)

private def natural (digits : List Char) : Nat :=
  (Text.readDigits? 10 digits).getD 0

/-- The number that a document writes. Without point and exponent it is an integer, as long as that
has 64 bits; minus zero is none. -/
def DocumentValue.ofNumber (written : String) : DocumentValue :=
  let (isNegative, chars) := readSign written.toList
  let whole := chars.takeWhile Char.isDigit
  let rest := chars.drop whole.length
  let fraction := (rest.drop 1).takeWhile Char.isDigit
  let fraction := if rest.head? = some '.' then fraction else []
  let power := rest.dropWhile fun char => char ≠ 'e' ∧ char ≠ 'E'
  let (isSmall, power) := readSign (power.drop 1)
  let exponent : Int := (if isSmall then -1 else 1) * natural power - fraction.length
  let size := natural (whole ++ fraction)
  let limit := if isNegative then Nat.pow 2 63 + 1 else Nat.pow 2 64
  if rest.isEmpty ∧ size < limit ∧ !(isNegative && size = 0) then
    .integer (if isNegative then -size else size)
  else
    let magnitude := Float.ofScientific size (exponent < 0) exponent.natAbs
    .decimal (if isNegative then -magnitude else magnitude)

inductive DocumentError where
  | path (error : PathError)
  | notText (found : String)

def DocumentError.message : DocumentError → String
  | .path error => error.message
  | .notText found => "invalid type: " ++ found ++ ", expected a string"

/-- Decimals always show a point. -/
private def showDecimal (value : Float) : String :=
  let shown := Decimal.formatFloat value
  if shown.toList.contains '.' then shown else shown ++ ".0"

/-- A path stands in a document as its text. -/
def Path.toDocument (path : Path) : DocumentValue :=
  .text path.text

def Path.ofDocument : DocumentValue → Except DocumentError Path
  | .text value => (Path.parse value).mapError .path
  | .integer value => .error (.notText s!"integer `{value}`")
  | .decimal value => .error (.notText ("floating point `" ++ showDecimal value ++ "`"))
  | .boolean value => .error (.notText s!"boolean `{value}`")
  | .null => .error (.notText "null")
  | .sequence => .error (.notText "sequence")
  | .map => .error (.notText "map")

end GossipNames
