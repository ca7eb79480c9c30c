import GossipNames.Text.Reading

/-! The content of a YAML document. -/

namespace GossipNames.Yaml

inductive Node where
  /-- Only a plain scalar may stand for something other than its text. -/
  | scalar (plain : Bool) (text : String)
  | sequence (items : List Node)
  | mapping (entries : List (Node × Node))
  deriving Inhabited

def Node.empty : Node :=
  .scalar true ""

def Node.isNull : Node → Bool
  | .scalar true text => text ∈ ["", "~", "null", "Null", "NULL"]
  | _ => false

def Node.text? : Node → Option String
  | .scalar _ text => some text
  | _ => none

/-- A number without sign, written in decimal without leading zeros or in base 16, 8 or 2 behind
a mark. -/
private def readUnsigned? : List Char → Option Nat
  | '0' :: 'x' :: digits => Text.readDigits? 16 digits
  | '0' :: 'o' :: digits => Text.readDigits? 8 digits
  | '0' :: 'b' :: digits => Text.readDigits? 2 digits
  | '0' :: _ :: _ => none
  | digits => Text.readDigits? 10 digits

/-- The number that a plain scalar stands for, when it has 64 bits at most. -/
def Node.number? : Node → Option UInt64
  | .scalar true text => do
    let value ← match text.toList with
      | '+' :: digits => readUnsigned? digits
      | digits => readUnsigned? digits
    if value < UInt64.size then some (UInt64.ofNat value) else none
  | _ => none

end GossipNames.Yaml
