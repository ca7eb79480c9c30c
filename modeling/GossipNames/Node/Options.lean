import GossipNames.Network.Ip

/-! The options that a node is started with. -/

namespace GossipNames

structure NodeOptions where
  address : IpAddress
  port : UInt16
  bootnodes : List String
  config : Option String
  datastore : Option String
  keystore : Option String
  identity : Option String
  metricsAddress : IpAddress
  metricsPort : Option UInt16
  publish : Option String
  watch : List String
  deriving DecidableEq, Repr

/-- What the words of a command line ask for. -/
inductive NodeCommand where
  | run (options : NodeOptions)
  | help
  | version
  | refused
  deriving DecidableEq, Repr

namespace NodeOptions

private def loopback : IpAddress :=
  .v4 [127, 0, 0, 1]

def standard : NodeOptions where
  address := loopback
  port := 4001
  bootnodes := []
  config := none
  datastore := none
  keystore := none
  identity := none
  metricsAddress := loopback
  metricsPort := none
  publish := none
  watch := []

/-- An option takes one word; `set?` refuses words that do not fit. Only some may be repeated. -/
private structure OptionRule where
  long : String
  short : Option Char
  repeated : Bool
  set? : String → NodeOptions → Option NodeOptions

private def path? (word : String) : Option String :=
  if word = "" then none else some word

private def known : List OptionRule := [
  ⟨"address", some 'a', false, fun word options => do
    return { options with address := ← IpAddress.parse? word }⟩,
  ⟨"port", some 'p', false, fun word options => do
    return { options with port := ← Text.readUInt16? word }⟩,
  ⟨"bootnodes", some 'b', true, fun word options =>
    some { options with bootnodes := options.bootnodes ++ [word] }⟩,
  ⟨"config", some 'c', false, fun word options => do
    return { options with config := some (← path? word) }⟩,
  ⟨"datastore", none, false, fun word options => do
    return { options with datastore := some (← path? word) }⟩,
  ⟨"keystore", none, false, fun word options => do
    return { options with keystore := some (← path? word) }⟩,
  ⟨"identity", none, false, fun word options => do
    return { options with identity := some (← path? word) }⟩,
  ⟨"metrics-address", none, false, fun word options => do
    return { options with metricsAddress := ← IpAddress.parse? word }⟩,
  ⟨"metrics-port", none, false, fun word options => do
    return { options with metricsPort := some (← Text.readUInt16? word) }⟩,
  ⟨"publish", none, false, fun word options => some { options with publish := some word }⟩,
  ⟨"watch", some 'w', true, fun word options =>
    some { options with watch := options.watch ++ [word] }⟩]

/-- The word of an option: behind it, or the next word unless that is an option itself. -/
private def takeWord (attached : Option String) (rest : List String) :
    Option (String × List String) :=
  match attached, rest with
  | some word, _ => some (word, rest)
  | none, word :: rest =>
    if word.toList.head? = some '-' ∧ word ≠ "-" then none else some (word, rest)
  | none, [] => none

/-- Reads `--name` and `--name=word`. -/
private def splitLong (chars : List Char) : String × Option String :=
  let name := String.ofList (chars.takeWhile (· ≠ '='))
  match chars.dropWhile (· ≠ '=') with
  | _ :: word => (name, some (String.ofList word))
  | [] => (name, none)

/-- Reads the word behind a short option, with or without an equals sign. -/
private def attachedTo : List Char → Option String
  | [] => none
  | '=' :: word => some (String.ofList word)
  | word => some (String.ofList word)

/-- Every option takes a word off the row, so that `fuel` is enough when it is their number. -/
private def read : (fuel : Nat) → (given : List String) → NodeOptions → List String → NodeCommand
  | _, _, options, [] => .run options
  | 0, _, _, _ => .refused
  | fuel + 1, given, options, word :: rest =>
    let apply (option? : Option OptionRule) (attached : Option String) : NodeCommand :=
      match option?, takeWord attached rest with
      | some option, some (argument, rest) =>
        if !option.repeated ∧ option.long ∈ given then .refused
        else
          match option.set? argument options with
          | some options => read fuel (option.long :: given) options rest
          | none => .refused
      | _, _ => .refused
    match word.toList with
    | ['-', '-'] => if rest.isEmpty then .run options else .refused
    | '-' :: '-' :: chars =>
      let (name, attached) := splitLong chars
      if name = "help" ∧ attached.isNone then .help
      else if name = "version" ∧ attached.isNone then .version
      else apply (known.find? (·.long = name)) attached
    | '-' :: 'h' :: _ => .help
    | '-' :: 'V' :: _ => .version
    | '-' :: char :: chars => apply (known.find? (·.short = some char)) (attachedTo chars)
    | _ => .refused

/-- What a command line asks for. -/
def parse (words : List String) : NodeCommand :=
  read words.length [] standard words

end NodeOptions

end GossipNames
