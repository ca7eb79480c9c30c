import GossipNames.Text.Reading
import GossipNames.Time.Timestamp

/-! Times as RFC 3339 texts. Reading accepts every separator, fraction and offset of the format;
writing always gives nine fraction digits and `Z`. -/

namespace GossipNames.Rfc3339

/-- Continues a number with exactly `count` digits. -/
def number? (value : Nat) : (count : Nat) → List Char → Option (Nat × List Char)
  | 0, rest => some (value, rest)
  | _ + 1, [] => none
  | count + 1, char :: rest => do
    let digit ← Text.digitValue? 10 char
    number? (10 * value + digit) count rest

def twoDigits? (chars : List Char) : Option (Nat × List Char) :=
  number? 0 2 chars

def expect? (expected : Char) : List Char → Option (List Char)
  | [] => none
  | char :: rest => if char = expected then some rest else none

/-- Between date and time stands a `T` of either case or one space. -/
def separator? : List Char → Option (List Char)
  | [] => none
  | char :: rest => if char = 'T' ∨ char = 't' ∨ char = ' ' then some rest else none

def isDigit (char : Char) : Bool :=
  (Text.digitValue? 10 char).isSome

/-- A point and at least one digit; digits past the ninth are dropped. -/
def fraction? : List Char → Option (Nat × List Char)
  | '.' :: rest => do
    let shown := rest.takeWhile isDigit
    if shown.isEmpty then none
    let kept := shown.take 9
    let (value, _) ← number? 0 kept.length kept
    return (value * Nat.pow 10 (9 - kept.length), rest.dropWhile isDigit)
  | chars => some (0, chars)

/-- A plus sign, or a minus sign of either form. -/
def sign? (char : Char) : Option Int :=
  if char = '+' then some 1
  else if char = '-' ∨ char = '\u2212' then some (-1)
  else none

/-- The offset from universal time in minutes. -/
def offset? : List Char → Option (Int × List Char)
  | [] => none
  | char :: rest =>
    if char = 'Z' ∨ char = 'z' then some (0, rest)
    else do
      let sign ← sign? char
      let (hours, rest) ← twoDigits? rest
      let rest ← expect? ':' rest
      let (minutes, rest) ← twoDigits? rest
      if 23 < hours ∨ 59 < minutes then none
      return (sign * (60 * hours + minutes : Nat), rest)

/-- Days from the first day of year 0 to the first of January 1970. -/
def epochDays : Int := 719528

def parseChars? (chars : List Char) : Option Timestamp := do
  let (year, chars) ← number? 0 4 chars
  let chars ← expect? '-' chars
  let (month, chars) ← twoDigits? chars
  let chars ← expect? '-' chars
  let (day, chars) ← twoDigits? chars
  let chars ← separator? chars
  let (hour, chars) ← twoDigits? chars
  let chars ← expect? ':' chars
  let (minute, chars) ← twoDigits? chars
  let chars ← expect? ':' chars
  let (second, chars) ← twoDigits? chars
  let (nanos, chars) ← fraction? chars
  let (offset, chars) ← offset? chars
  let date : Calendar.Date := { year, month, day }
  if !date.isValid ∨ 23 < hour ∨ 59 < minute ∨ 60 < second ∨ !chars.isEmpty then none
  let minutes := (date.toDays - epochDays) * 1440 + hour * 60 + minute - offset
  if second = 60 then Timestamp.ofParts? (60 * minutes + 59) (1000000000 + nanos)
  else Timestamp.ofParts? (60 * minutes + second) nanos

def parse? (text : String) : Option Timestamp :=
  parseChars? text.toList

/-- A number in at least `width` digits. -/
def padded (width value : Nat) : String :=
  let shown := toString value
  String.ofList (List.replicate (width - shown.length) '0') ++ shown

/-- Years outside 0 to 9999 have a sign. -/
def formatYear (year : Int) : String :=
  if 0 ≤ year ∧ year ≤ 9999 then padded 4 year.toNat
  else if year < 0 then "-" ++ padded 4 year.natAbs
  else "+" ++ padded 4 year.toNat

/-- A leap second is written as second 60. -/
def format (time : Timestamp) : String :=
  let date := Calendar.Date.ofDays (time.seconds / 86400 + epochDays)
  let clock := (time.seconds % 86400).toNat
  let (second, nanos) :=
    if time.inLeapSecond then (60, time.nanos - 1000000000) else (clock % 60, time.nanos)
  formatYear date.year ++ "-" ++ padded 2 date.month ++ "-" ++ padded 2 date.day ++ "T"
    ++ padded 2 (clock / 3600) ++ ":" ++ padded 2 (clock / 60 % 60) ++ ":" ++ padded 2 second
    ++ "." ++ padded 9 nanos ++ "Z"

end GossipNames.Rfc3339
