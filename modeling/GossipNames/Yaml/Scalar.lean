import GossipNames.Yaml.Cursor

/-! Plain, quoted and block scalars. Inside a scalar one line break stands for a space, and more
of them for one fewer. -/

namespace GossipNames.Yaml

/-- The line break a text keeps: most are written as line feeds. -/
private def keptBreak (char : Char) : Char :=
  if char = '\u2028' ∨ char = '\u2029' then char else '\n'

/-- What a run of breaks between two parts of a scalar stands for. -/
private def foldBreaks : List Char → List Char
  | [] => []
  | [_] => [' ']
  | _ :: others => others

/-- What stands between two parts of a scalar: the blanks, or what the breaks stand for. -/
private def joinParts (blanks breaks : List Char) : List Char :=
  if breaks.isEmpty then blanks else foldBreaks breaks

/-- Moves over blanks and breaks; gives the blanks before the first break, and the breaks. A tab
may not indent a continued line to less than the given column. -/
private def skipFold (indent : Int) : (fuel : Nat) → (blanks breaks : List Char) →
    Reader (List Char × List Char)
  | 0, blanks, breaks => return (blanks, breaks)
  | fuel + 1, blanks, breaks => do
    match ← peek with
    | some char =>
      if isBlank char then do
        if !breaks.isEmpty && char = '\t' && ((← get).column : Int) < indent then failure
        advance
        skipFold indent fuel (if breaks.isEmpty then blanks ++ [char] else blanks) breaks
      else if isBreak char then do
        advance
        skipFold indent fuel blanks (breaks ++ [keptBreak char])
      else return (blanks, breaks)
    | none => return (blanks, breaks)

private def skipGap (indent : Int) : Reader (List Char × List Char) := do
  skipFold indent ((← get).rest.length + 1) [] []

def isFlowIndicator (char : Char) : Bool :=
  char ∈ [',', '[', ']', '{', '}']

private def plainFrom (inFlow : Bool) (indent : Int) : (fuel : Nat) → List Char →
    Reader (List Char)
  | 0, text => return text
  | fuel + 1, text => do
    match (← get).rest with
    | [] => return text
    | char :: following =>
      if isBlank char || isBreak char then do
        let (blanks, breaks) ← skipGap (if inFlow then 0 else indent)
        let cursor ← get
        let stops := (← atEnd) || cursor.rest.head? = some '#'
          || (!inFlow && !breaks.isEmpty && (cursor.column : Int) < indent)
        let starts := match cursor.rest with
          | ':' :: rest => endsWord rest
          | next :: _ => inFlow && isFlowIndicator next
          | [] => true
        if stops || starts then return text
        else plainFrom inFlow indent fuel (text ++ joinParts blanks breaks)
      else if char = ':' && endsWord following then return text
      else if inFlow && isFlowIndicator char then return text
      else if inFlow && char = ':' && following.head?.any (fun next =>
          isFlowIndicator next || next = '?') then failure
      else do
        advance
        plainFrom inFlow indent fuel (text ++ [char])

/-- A plain scalar, whose continued lines start at the given column or behind it. -/
def plainScalar (inFlow : Bool) (indent : Int) : Reader String := do
  return String.ofList (← plainFrom inFlow indent ((← get).rest.length + 1) [])

private def singleFrom : (fuel : Nat) → List Char → Reader (List Char)
  | 0, _ => failure
  | fuel + 1, text => do
    if ← atMarker then failure
    match (← get).rest with
    | [] => failure
    | '\'' :: '\'' :: _ => do
      advanceBy 2
      singleFrom fuel (text ++ ['\''])
    | '\'' :: _ => do
      advance
      return text
    | char :: _ =>
      if isBlank char || isBreak char then do
        let (blanks, breaks) ← skipGap 0
        singleFrom fuel (text ++ joinParts blanks breaks)
      else do
        advance
        singleFrom fuel (text ++ [char])

private def simpleEscape? : Char → Option Char
  | '0' => some '\x00'
  | 'a' => some '\x07'
  | 'b' => some '\x08'
  | 't' => some '\t'
  | '\t' => some '\t'
  | 'n' => some '\n'
  | 'v' => some '\x0b'
  | 'f' => some '\x0c'
  | 'r' => some '\r'
  | 'e' => some '\x1b'
  | ' ' => some ' '
  | '"' => some '"'
  | '/' => some '/'
  | '\\' => some '\\'
  | 'N' => some '\u0085'
  | '_' => some '\u00a0'
  | 'L' => some '\u2028'
  | 'P' => some '\u2029'
  | _ => none

private def escapeWidth : Char → Nat
  | 'x' => 2
  | 'u' => 4
  | 'U' => 8
  | _ => 0

/-- The character after a backslash, or a code in two, four or eight digits. -/
private def escaped : Reader Char := do
  let some char ← peek | failure
  advance
  if let some value := simpleEscape? char then return value
  let width := escapeWidth char
  let digits := (← get).rest.take width
  let some code := Text.readDigits? 16 digits | failure
  if width = 0 || digits.length ≠ width || !(code < 0xD800 || 0xE000 ≤ code && code ≤ 0x10FFFF)
    then failure
  advanceBy width
  return Char.ofNat code

private def doubleFrom : (fuel : Nat) → List Char → Reader (List Char)
  | 0, _ => failure
  | fuel + 1, text => do
    if ← atMarker then failure
    match (← get).rest with
    | [] => failure
    | '"' :: _ => do
      advance
      return text
    | '\\' :: next :: _ =>
      if isBreak next then do
        advance
        let (_, breaks) ← skipGap 0
        doubleFrom fuel (text ++ breaks.drop 1)
      else do
        advance
        doubleFrom fuel (text ++ [← escaped])
    | char :: _ =>
      if isBlank char || isBreak char then do
        let (blanks, breaks) ← skipGap 0
        doubleFrom fuel (text ++ joinParts blanks breaks)
      else do
        advance
        doubleFrom fuel (text ++ [char])

/-- A scalar between single or double quotes. -/
def quotedScalar : Reader String := do
  let double := (← peek) = some '"'
  advance
  let fuel := (← get).rest.length + 1
  return String.ofList (← if double then doubleFrom fuel [] else singleFrom fuel [])

/-- How a block scalar ends: with one break, none, or all there are. -/
inductive Chomping where
  | clip
  | strip
  | keep
  deriving DecidableEq

private structure BlockHeader where
  chomping : Chomping := .clip
  indent : Option Nat := none

private def headerFrom : (fuel : Nat) → BlockHeader → Reader BlockHeader
  | 0, header => return header
  | fuel + 1, header => do
    match ← peek with
    | some '+' => do advance; headerFrom fuel { header with chomping := .keep }
    | some '-' => do advance; headerFrom fuel { header with chomping := .strip }
    | some char =>
      if '1' ≤ char ∧ char ≤ '9' then do
        advance
        headerFrom fuel { header with indent := some (char.toNat - 48) }
      else return header
    | none => return header

private def takeLine : Reader (List Char) := do
  let line := (← get).rest.takeWhile (!isBreak ·)
  skipLine
  return line

/-- The column of the first line with content, and at least the given one. -/
private def firstColumn (least : Nat) (rest : List Char) : Nat :=
  let lines := (String.ofList rest).splitOn "\n"
  let indents := lines.map fun line => (line.toList.takeWhile (· = ' ')).length
  let content := lines.find? fun line => (line.toList.dropWhile (· = ' ')).head?.any (!isBreak ·)
  let found := match content with
    | some line => (line.toList.takeWhile (· = ' ')).length
    | none => indents.foldl max 0
  max least found

private def blockLines (indent : Nat) : (fuel : Nat) → List (List Char) → Reader (List (List Char))
  | 0, lines => return lines
  | fuel + 1, lines => do
    let rest := (← get).rest
    let spaces := (rest.takeWhile (· = ' ')).length
    let content := rest.drop (min spaces indent)
    if rest.isEmpty || (← atMarker) then return lines
    else if content.head?.any isBreak then do
      advanceBy (min spaces indent + 1)
      blockLines indent fuel (lines ++ [[]])
    else if spaces < indent then return lines
    else do
      advanceBy indent
      let line ← takeLine
      advance
      blockLines indent fuel (lines ++ [line])

/-- Joins lines by breaks, or by spaces where neither line is empty or indented further. -/
private def joinLines (folded : Bool) : List (List Char) → List Char
  | [] => []
  | [line] => line
  | line :: next :: lines =>
    let joined := joinLines folded (next :: lines)
    let more := fun other : List Char => other.isEmpty || other.head?.any isBlank
    if folded && !more line && !more next then line ++ ' ' :: joined
    else if folded && !more line && next.isEmpty then line ++ joined
    else line ++ '\n' :: joined

/-- A literal or folded scalar on the lines below its header. -/
def blockScalar (parentIndent : Int) : Reader String := do
  let folded := (← peek) = some '>'
  advance
  let header ← headerFrom 2 {}
  advanceBy ((← get).rest.takeWhile isBlank).length
  if (← peek) = some '#' then skipLine
  if (← peek).any (!isBreak ·) then failure
  advance
  let least := (parentIndent + 1).toNat
  let rest := (← get).rest
  let indent := match header.indent with
    | some more => (max parentIndent 0).toNat + more
    | none => firstColumn (max least 1) rest
  let lines ← blockLines indent (rest.length + 1) []
  let content := (lines.reverse.dropWhile List.isEmpty).reverse
  let text := joinLines folded content
  let trailing := lines.length - content.length
  let ending := match header.chomping with
    | .strip => []
    | .clip => if content.isEmpty then [] else ['\n']
    | .keep => List.replicate (trailing + if content.isEmpty then 0 else 1) '\n'
  return String.ofList (text ++ ending)

end GossipNames.Yaml
