import GossipNames.Yaml.Node

/-! A place in a YAML text, and the smallest steps forward from it. -/

namespace GossipNames.Yaml

structure Cursor where
  rest : List Char
  line : Nat
  column : Nat
  anchors : List (String × Node)

/-- A reader moves the cursor on, or refuses the text. -/
abbrev Reader := StateT Cursor Option

def isBreak (char : Char) : Bool :=
  char = '\n' ∨ char = '\r' ∨ char = '\u0085' ∨ char = '\u2028' ∨ char = '\u2029'

def isBlank (char : Char) : Bool :=
  char = ' ' ∨ char = '\t'

/-- White space, a line break or the end follows. -/
def endsWord : List Char → Bool
  | [] => true
  | char :: _ => isBlank char || isBreak char

/-- Characters that may stand in a YAML text at all. -/
def isAllowed (char : Char) : Bool :=
  let code := char.toNat
  code = 9 ∨ code = 10 ∨ code = 13 ∨ 0x20 ≤ code ∧ code ≤ 0x7E ∨ code = 0x85
    ∨ 0xA0 ≤ code ∧ code ≤ 0xD7FF ∨ 0xE000 ≤ code ∧ code ≤ 0xFFFD ∨ 0x10000 ≤ code

def peek : Reader (Option Char) := do
  return (← get).rest.head?

/-- Moves over one character; a carriage return and line feed count as one break. -/
def advance : Reader Unit :=
  modify fun cursor =>
    match cursor.rest with
    | [] => cursor
    | '\r' :: '\n' :: rest => { cursor with rest, line := cursor.line + 1, column := 0 }
    | char :: rest =>
      if isBreak char then { cursor with rest, line := cursor.line + 1, column := 0 }
      else { cursor with rest, column := cursor.column + 1 }

def advanceBy (count : Nat) : Reader Unit :=
  count.forM fun _ _ => advance

/-- A line starts with three dashes or three points, which bound documents. -/
def atMarker : Reader Bool := do
  let cursor ← get
  match cursor.rest with
  | a :: b :: c :: rest =>
    return cursor.column = 0 && a = b && b = c && (a = '-' || a = '.') && endsWord rest
  | _ => return false

def atEnd : Reader Bool := do
  return (← get).rest.isEmpty || (← atMarker)

def skipLine : Reader Unit := do
  advanceBy ((← get).rest.takeWhile (!isBreak ·)).length

private def skipWithin (inFlow : Bool) : (fuel : Nat) → (tabs : Bool) → Reader Bool
  | 0, _ => return false
  | fuel + 1, tabs => do
    match ← peek with
    | some ' ' => do advance; skipWithin inFlow fuel tabs
    | some '\t' => if tabs then do advance; skipWithin inFlow fuel tabs else return false
    | some '#' => do skipLine; skipWithin inFlow fuel tabs
    | some char =>
      if isBreak char then do
        advance
        let _ ← skipWithin inFlow fuel inFlow
        return true
      else return false
    | none => return false

/-- Moves to the next word over blanks, comments and line breaks, and says whether a line ended.
Tabs may not indent a line outside flow collections. -/
def skipSpace (inFlow tabs : Bool) : Reader Bool := do
  skipWithin inFlow ((← get).rest.length + 1) (tabs || inFlow)

end GossipNames.Yaml
