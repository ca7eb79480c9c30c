import GossipNames.Bytes

/-! Reading bytes as UTF-8 with a replacement character for every maximal ill-formed part. -/

namespace GossipNames.Text.Lossy

/-- What is owed after the bytes read so far: continuation bytes within a range, on top of the
leading bits of a code point. -/
inductive Pending where
  | nothing
  | continuation (count : Nat) (low high : UInt8) (bits : Nat)

/-- How a byte opens a character: it is one, it starts one, or it can do neither. -/
inductive Opening where
  | character (char : Char)
  | sequence (pending : Pending)
  | illFormed

def opening (byte : UInt8) : Opening :=
  let value := byte.toNat
  if value ≤ 0x7F then .character (Char.ofNat value)
  else if 0xC2 ≤ value ∧ value ≤ 0xDF then .sequence (.continuation 0 0x80 0xBF (value % 32))
  else if value = 0xE0 then .sequence (.continuation 1 0xA0 0xBF 0)
  else if value = 0xED then .sequence (.continuation 1 0x80 0x9F 0xD)
  else if 0xE1 ≤ value ∧ value ≤ 0xEF then .sequence (.continuation 1 0x80 0xBF (value % 16))
  else if value = 0xF0 then .sequence (.continuation 2 0x90 0xBF 0)
  else if 0xF1 ≤ value ∧ value ≤ 0xF3 then .sequence (.continuation 2 0x80 0xBF (value % 8))
  else if value = 0xF4 then .sequence (.continuation 2 0x80 0x8F 4)
  else .illFormed

def replacement : Char := '\uFFFD'

private def openWith (byte : UInt8) : List Char × Pending :=
  match opening byte with
  | .character char => ([char], .nothing)
  | .sequence pending => ([], pending)
  | .illFormed => ([replacement], .nothing)

/-- The characters that one more byte completes, and what is owed afterwards. -/
def step : Pending → UInt8 → List Char × Pending
  | .nothing, byte => openWith byte
  | .continuation count low high bits, byte =>
    if low ≤ byte ∧ byte ≤ high then
      let bits := 64 * bits + byte.toNat % 64
      match count with
      | 0 => ([Char.ofNat bits], .nothing)
      | count + 1 => ([], .continuation count 0x80 0xBF bits)
    else
      let (chars, pending) := openWith byte
      (replacement :: chars, pending)

def decodeFrom : Pending → Bytes → List Char
  | .nothing, [] => []
  | .continuation .., [] => [replacement]
  | pending, byte :: rest =>
    let (chars, pending) := step pending byte
    chars ++ decodeFrom pending rest

end GossipNames.Text.Lossy

namespace GossipNames

/-- The text of the bytes, with one replacement character for every maximal part that cannot
start a character. -/
def Bytes.toStringLossy (bytes : Bytes) : String :=
  match bytes.toString? with
  | some text => text
  | none => String.ofList (Text.Lossy.decodeFrom .nothing bytes)

end GossipNames
