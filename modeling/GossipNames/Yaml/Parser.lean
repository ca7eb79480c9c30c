import GossipNames.Yaml.Scalar

/-! Reading a YAML text that holds one document. -/

namespace GossipNames.Yaml

private def isIndicator (char : Char) : Bool :=
  char ∈ ['-', '?', ':', ',', '[', ']', '{', '}', '#', '&', '*', '!', '|', '>', '\'', '"', '%',
    '@', '\x60']

private def startsPlain (inFlow : Bool) : List Char → Bool
  | [] => false
  | char :: rest =>
    !isIndicator char && !isBlank char || char = '-' && !endsWord rest
      || !inFlow && (char = '?' || char = ':') && !endsWord rest

/-- The name of an anchor or alias. -/
private def anchorName : Reader String := do
  let name := (← get).rest.takeWhile fun char => char.isAlphanum || char = '_' || char = '-'
  if name.isEmpty then failure
  advanceBy name.length
  return String.ofList name

/-- Moves over the tag and anchor in front of a node, and gives the anchor. -/
private def properties (inFlow : Bool) : (fuel : Nat) → Option String → Reader (Option String)
  | 0, anchor => return anchor
  | fuel + 1, anchor => do
    match ← peek with
    | some '&' => do
      advance
      let name ← anchorName
      let _ ← skipSpace inFlow true
      properties inFlow fuel (some name)
    | some '!' => do
      advanceBy ((← get).rest.takeWhile fun char => !isBlank char && !isBreak char).length
      let _ ← skipSpace inFlow true
      properties inFlow fuel anchor
    | _ => return anchor

private def remember (anchor : Option String) (node : Node) : Reader Node := do
  if let some name := anchor then
    modify fun cursor => { cursor with anchors := (name, node) :: cursor.anchors }
  return node

private def aliased : Reader Node := do
  advance
  let name ← anchorName
  match (← get).anchors.lookup name with
  | some node => return node
  | none => failure

mutual

/-- A node inside a flow collection. -/
private def flowNode (fuel : Nat) : Reader Node := do
  match fuel with
  | 0 => failure
  | fuel + 1 =>
    let anchor ← properties true 2 none
    if ← atEnd then failure
    let rest := (← get).rest
    match rest.head? with
    | some '*' => aliased
    | some '[' => do
      advance
      remember anchor (.sequence (← flowItems fuel []))
    | some '{' => do
      advance
      remember anchor (.mapping (← flowEntries fuel []))
    | some '\'' | some '"' => do remember anchor (.scalar false (← quotedScalar))
    | _ =>
      if startsPlain true rest then do remember anchor (.scalar true (← plainScalar true 0))
      else if rest.head?.any (fun char => isFlowIndicator char || char = ':') then
        remember anchor .empty
      else failure

/-- The value behind a colon, when there is one. -/
private def flowValue? (fuel : Nat) : Reader (Option Node) := do
  match fuel with
  | 0 => failure
  | fuel + 1 =>
    let _ ← skipSpace true true
    if (← peek) = some ':' then do
      advance
      let _ ← skipSpace true true
      return some (← flowNode fuel)
    else return none

private def flowItems (fuel : Nat) (items : List Node) : Reader (List Node) := do
  match fuel with
  | 0 => failure
  | fuel + 1 =>
    let _ ← skipSpace true true
    match ← peek with
    | some ']' => do
      advance
      return items
    | some ',' => failure
    | _ => do
      let explicitKey := (← peek) = some '?'
      if explicitKey then do
        advance
        let _ ← skipSpace true true
      let key ← flowNode fuel
      let value ← flowValue? fuel
      let item := match value with
        | some value => Node.mapping [(key, value)]
        | none => if explicitKey then .mapping [(key, .empty)] else key
      let _ ← skipSpace true true
      match ← peek with
      | some ',' => do
        advance
        flowItems fuel (items ++ [item])
      | some ']' => flowItems fuel (items ++ [item])
      | _ => failure

private def flowEntries (fuel : Nat) (entries : List (Node × Node)) :
    Reader (List (Node × Node)) := do
  match fuel with
  | 0 => failure
  | fuel + 1 =>
    let _ ← skipSpace true true
    match ← peek with
    | some '\x7d' => do
      advance
      return entries
    | some ',' => failure
    | _ => do
      if (← peek) = some '?' then do
        advance
        let _ ← skipSpace true true
      let key ← flowNode fuel
      let value ← flowValue? fuel
      let _ ← skipSpace true true
      match ← peek with
      | some ',' => do
        advance
        flowEntries fuel (entries ++ [(key, value.getD .empty)])
      | some '\x7d' => flowEntries fuel (entries ++ [(key, value.getD .empty)])
      | _ => failure

end

/-- A node on one line that may be a key: anything but a block scalar or a block collection. -/
private def inlineNode (fuel : Nat) (indent : Int) : Reader Node := do
  let rest := (← get).rest
  match rest.head? with
  | some '*' => aliased
  | some '[' | some '{' => flowNode fuel
  | some '\'' | some '"' => return .scalar false (← quotedScalar)
  | _ => if startsPlain false rest then return .scalar true (← plainScalar false indent) else failure

/-- A colon that ends a key follows on the same line. -/
private def keyFollows (startLine : Nat) : Reader Bool := do
  advanceBy ((← get).rest.takeWhile isBlank).length
  match (← get).rest with
  | ':' :: rest =>
    if !endsWord rest then return false
    if (← get).line ≠ startLine then failure
    advance
    return true
  | _ => return false

private def startsEntry (mark : Char) : Reader Bool := do
  match (← get).rest with
  | char :: rest => return char = mark && endsWord rest
  | [] => return false

mutual

/-- A node whose lines start behind column `indent`. A sequence under a key may start at the key's
own column. Where no key may start, the node ends before the next line. -/
private def blockNode (fuel : Nat) (indent : Int) (underKey keyAllowed : Bool) : Reader Node := do
  match fuel with
  | 0 => failure
  | fuel + 1 =>
    let newLine ← skipSpace false (!keyAllowed)
    let column := (← get).column
    if ← atEnd then return .empty
    let keyAllowed := keyAllowed || newLine
    if newLine && underKey && (column : Int) = indent && (← startsEntry '-') then
      return .sequence (← blockItems fuel column [])
    if newLine && (column : Int) ≤ indent then return .empty
    let startLine := (← get).line
    let anchor ← properties false 2 none
    let keyAllowed := keyAllowed || (← get).line ≠ startLine
    if ← atEnd then remember anchor .empty
    else if (← get).line ≠ startLine && ((← get).column : Int) ≤ indent then remember anchor .empty
    else if ← startsEntry '-' then do
      if !keyAllowed then failure
      remember anchor (.sequence (← blockItems fuel (← get).column []))
    else if ← startsEntry '?' then do
      if !keyAllowed then failure
      remember anchor (.mapping (← blockEntries fuel (← get).column []))
    else if (← peek) = some '|' || (← peek) = some '>' then do
      remember anchor (.scalar false (← blockScalar indent))
    else do
      let column := (← get).column
      let startLine := (← get).line
      let node ← inlineNode fuel (indent + 1)
      if ← keyFollows startLine then do
        if !keyAllowed then failure
        let value ← blockNode fuel column true false
        return .mapping (← blockEntries fuel column [(node, value)])
      else remember anchor node

private def blockItems (fuel : Nat) (column : Nat) (items : List Node) : Reader (List Node) := do
  match fuel with
  | 0 => failure
  | fuel + 1 =>
    let _ ← skipSpace false false
    if ← atEnd then return items
    if (← get).column < column then return items
    if (← get).column = column && (← startsEntry '-') then do
      advance
      let item ← blockNode fuel column false true
      blockItems fuel column (items ++ [item])
    else if (← get).column = column then return items
    else failure

private def blockEntries (fuel : Nat) (column : Nat) (entries : List (Node × Node)) :
    Reader (List (Node × Node)) := do
  match fuel with
  | 0 => failure
  | fuel + 1 =>
    let _ ← skipSpace false false
    if ← atEnd then return entries
    if (← get).column < column then return entries
    if column < (← get).column || (← startsEntry '-') then failure
    if ← startsEntry '?' then do
      advance
      let key ← blockNode fuel column false true
      let _ ← skipSpace false false
      if (← get).column = column && (← startsEntry ':') then do
        advance
        let value ← blockNode fuel column true true
        blockEntries fuel column (entries ++ [(key, value)])
      else blockEntries fuel column (entries ++ [(key, .empty)])
    else do
      let startLine := (← get).line
      let anchor ← properties false 2 none
      let key ← inlineNode fuel (column + 1)
      if !(← keyFollows startLine) then failure
      let key ← remember anchor key
      let value ← blockNode fuel column true false
      blockEntries fuel column (entries ++ [(key, value)])

end

/-- Lines of directives in front of a document. -/
private def directives : (fuel : Nat) → (seen : Bool) → Reader Bool
  | 0, seen => return seen
  | fuel + 1, seen => do
    let _ ← skipSpace false seen
    if (← peek) = some '%' && (← get).column = 0 then do
      skipLine
      directives fuel true
    else return seen

private def startsWithThree (char : Char) : Reader Bool := do
  return (← atMarker) && (← peek) = some char

private def document (fuel : Nat) : Reader Node := do
  let directed ← directives fuel false
  let started ← startsWithThree '-'
  if started then advanceBy 3
  else if directed then failure
  let node ← blockNode fuel (-1) false (!started)
  let _ ← skipSpace false true
  let ended ← startsWithThree '.'
  if ended then do
    advanceBy 3
    let _ ← skipSpace false true
  if (← get).rest.isEmpty then return node else failure

/-- The content of the only document of a text. -/
def parse? (text : String) : Option Node := do
  let chars := match text.toList with
    | '\uFEFF' :: chars => chars
    | chars => chars
  if chars.any (!isAllowed ·) then none
  let start : Cursor := { rest := chars, line := 0, column := 0, anchors := [] }
  let (node, _) ← (document (2 * chars.length + 8)).run start
  return node

end GossipNames.Yaml
