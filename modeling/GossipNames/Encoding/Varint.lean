import GossipNames.Bytes

/-! Variable-length integers: seven bits per byte, least significant first, the high bit set on
every byte but the last. -/

namespace GossipNames.Varint

def encode (value : Nat) : Bytes :=
  if value < 128 then [UInt8.ofNat value]
  else UInt8.ofNat (value % 128 + 128) :: encode (value / 128)
termination_by value

def readWithin : (limit : Nat) → Bytes → Option (Nat × Bytes)
  | 0, _ => none
  | _, [] => none
  | limit + 1, byte :: rest =>
    if byte.toNat < 128 then some (byte.toNat, rest)
    else
      (readWithin limit rest).map fun (high, rest) => (byte.toNat - 128 + 128 * high, rest)

/-- A number below 2^64 in at most ten bytes, and the bytes after it. -/
def read64? (bytes : Bytes) : Option (Nat × Bytes) :=
  (readWithin 10 bytes).filter fun (value, _) => value < UInt64.size

/-- A number in at most ten bytes of which 64 bits are kept. Refuses a last byte of zero after
other bytes, which a shorter form would leave out. -/
def readMinimal64? (bytes : Bytes) : Option (Nat × Bytes) := do
  let (value, rest) ← readWithin 10 bytes
  let used := bytes.take (bytes.length - rest.length)
  if used.length ≠ 1 ∧ used.getLast? = some 0 then none
  else some (value % UInt64.size, rest)

/-- A byte without the high bit is a number of its own. -/
theorem readMinimal64?_small {byte : UInt8} (small : byte.toNat < 128) (rest : Bytes) :
    readMinimal64? (byte :: rest) = some (byte.toNat, rest) := by
  have bound : byte.toNat % UInt64.size = byte.toNat :=
    Nat.mod_eq_of_lt (Nat.lt_trans small (by decide))
  simp [readMinimal64?, readWithin, small, bound]

end GossipNames.Varint
