import GossipNames.Encoding.Varint
import Std.Data.HashMap

/-! Snappy blocks: the length of the content, then literal bytes and copies of what came before. -/

namespace GossipNames.Snappy

inductive Element where
  | literal (content : Bytes)
  /-- A copy of `length` bytes that starts `offset` bytes back and may run into itself. -/
  | copy (offset length : Nat)
  deriving DecidableEq, Repr

/-- Lengths are below this bound. -/
def lengthBound : Nat := UInt32.size

/-- The announced length, in at most ten bytes of which 64 bits are kept. -/
def readLength? (block : Bytes) : Option (Nat × Bytes) := do
  let (value, rest) ← Varint.readWithin 10 block
  let length := value % UInt64.size
  if length < lengthBound then some (length, rest) else none

def splitAt? (count : Nat) (bytes : Bytes) : Option (Bytes × Bytes) :=
  if count ≤ bytes.length then some (bytes.splitAt count) else none

/-- Behind a mark, the length of a long literal is written in one to four bytes. Four bytes have
to follow in any case. -/
def readLiteral? (mark : Nat) (rest : Bytes) : Option (Element × Bytes) := do
  if mark < 60 then
    let (content, rest) ← splitAt? (mark + 1) rest
    return (.literal content, rest)
  else
    if rest.length < 4 then none
    let (length, rest) := rest.splitAt (mark - 59)
    let (content, rest) ← splitAt? (Bytes.toNatLittleEndian length + 1) rest
    return (.literal content, rest)

def readCopy? (length high width : Nat) (rest : Bytes) : Option (Element × Bytes) := do
  let (low, rest) ← splitAt? width rest
  return (.copy (high + Bytes.toNatLittleEndian low) length, rest)

def readElement? : Bytes → Option (Element × Bytes)
  | [] => none
  | tag :: rest =>
    let mark := tag.toNat / 4
    match tag.toNat % 4 with
    | 0 => readLiteral? mark rest
    | 1 => readCopy? (mark % 8 + 4) (mark / 8 * 256) 1 rest
    | 2 => readCopy? (mark + 1) 0 2 rest
    | _ => readCopy? (mark + 1) 0 4 rest

/-- Repeats bytes from `offset` back, one at a time. -/
def copyBack (offset : Nat) : (length : Nat) → Array UInt8 → Array UInt8
  | 0, out => out
  | length + 1, out => copyBack offset length (out.push (out[out.size - offset]?.getD 0))

/-- Writes what an element stands for behind what is there, at most `limit` bytes in all. -/
def Element.extend? (limit : Nat) (out : Array UInt8) : Element → Option (Array UInt8)
  | .literal content =>
    if out.size + content.length ≤ limit then some (out ++ content) else none
  | .copy offset length =>
    if 0 < offset ∧ offset ≤ out.size ∧ out.size + length ≤ limit then
      some (copyBack offset length out)
    else none

/-- Every element takes a byte, so that `fuel` is enough when it is the number of bytes. -/
def expand? (limit : Nat) : (fuel : Nat) → Array UInt8 → Bytes → Option (Array UInt8)
  | _, out, [] => some out
  | 0, _, _ => none
  | fuel + 1, out, bytes => do
    let (element, rest) ← readElement? bytes
    expand? limit fuel (← element.extend? limit out) rest

/-- The content of a block, which has the announced length. -/
def decompress? (block : Bytes) : Option Bytes := do
  let (length, rest) ← readLength? block
  let out ← expand? length rest.length #[] rest
  if out.size = length then some out.toList else none

def writeLiteral (content : Bytes) : Bytes :=
  let last := content.length - 1
  if content.isEmpty then []
  else if last < 60 then UInt8.ofNat (4 * last) :: content
  else
    let width :=
      if last < 256 then 1 else if last < UInt16.size then 2 else if last < 256 * UInt16.size then 3 else 4
    UInt8.ofNat (4 * (59 + width)) :: Bytes.ofNatLittleEndian width last ++ content

def writeCopy (offset length : Nat) : Bytes :=
  if offset < UInt16.size then
    UInt8.ofNat (4 * (length - 1) + 2) :: Bytes.ofNatLittleEndian 2 offset
  else UInt8.ofNat (4 * (length - 1) + 3) :: Bytes.ofNatLittleEndian 4 offset

def Element.write : Element → Bytes
  | .literal content => writeLiteral content
  | .copy offset length => writeCopy offset length

/-! Looking for copies. -/

abbrev Seen := Std.HashMap (UInt8 × UInt8 × UInt8 × UInt8) Nat

def window? (content : Array UInt8) (place : Nat) :
    Option (UInt8 × UInt8 × UInt8 × UInt8) :=
  match content[place]?, content[place + 1]?, content[place + 2]?, content[place + 3]? with
  | some a, some b, some c, some d => some (a, b, c, d)
  | _, _, _, _ => none

/-- How far the content repeats from `earlier` on at `place`, up to a number of bytes. -/
def repeatedLength (content : Array UInt8) (earlier place : Nat) : (limit : Nat) → Nat
  | 0 => 0
  | limit + 1 =>
    match content[place]? with
    | some byte =>
      if content[earlier]? = some byte then
        repeatedLength content (earlier + 1) (place + 1) limit + 1
      else 0
    | none => 0

def flush (content : Array UInt8) (start place : Nat) : List Element :=
  if start < place then [.literal (content.extract start place).toList] else []

/-- Goes on at `place`, with everything from `start` on still to be written as a literal. The
elements found so far are last first. -/
def search (content : Array UInt8) : (fuel : Nat) → Seen → (start place : Nat) →
    List Element → List Element
  | 0, _, start, _, found => flush content start content.size ++ found
  | fuel + 1, seen, start, place, found =>
    match window? content place with
    | none => flush content start content.size ++ found
    | some window =>
      let next := seen.insert window place
      match seen[window]? with
      | none => search content fuel next start (place + 1) found
      | some earlier =>
        let length := repeatedLength content earlier place 64
        if length < 4 then search content fuel next start (place + 1) found
        else
          let found := .copy (place - earlier) length :: (flush content start place ++ found)
          search content fuel next (place + length) (place + length) found

/-- Content of up to fifteen bytes is not searched for copies. -/
def elements (content : Bytes) : List Element :=
  if content.length < 16 then [.literal content]
  else (search content.toArray content.length ∅ 0 0 []).reverse

/-- The room that is set aside for a block with content of this length. -/
def roomFor (length : Nat) : Nat :=
  32 + length + length / 6

/-- A block that holds the content, unless it takes too much room. -/
def compress? (content : Bytes) : Option Bytes :=
  if roomFor content.length < lengthBound then
    some (Varint.encode content.length ++ (elements content).flatMap Element.write)
  else none

end GossipNames.Snappy
