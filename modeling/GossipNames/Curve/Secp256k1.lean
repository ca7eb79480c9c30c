import GossipNames.Curve.Ed25519
import GossipNames.Hash.Sha256

/-! ECDSA over the curve `y ^ 2 = x ^ 3 + 7`, with deterministic nonces and low `s` values. -/

namespace GossipNames.Secp256k1

/-- The field's prime. -/
def prime : Nat := Nat.pow 2 256 - Nat.pow 2 32 - 977

/-- The order of the base point. -/
def order : Nat := 0xFFFFFFFFFFFFFFFFFFFFFFFFFFFFFFFEBAAEDCE6AF48A03BBFD25E8CD0364141

/-- A point in Jacobian coordinates: `x / z ^ 2` and `y / z ^ 3`, at infinity when `z` is zero. -/
structure Point where
  x : Nat
  y : Nat
  z : Nat

def Point.infinity : Point where
  x := 1
  y := 1
  z := 0

def Point.base : Point where
  x := 0x79BE667EF9DCBBAC55A06295CE870B07029BFCDB2DCE28D959F2815B16F81798
  y := 0x483ADA7726A3C4655DA4FBFC0E1108A8FD17B448A68554199C47D08FFB10D4B8
  z := 1

private def minus (first second : Nat) : Nat :=
  Modular.subtract prime first second

def Point.double (point : Point) : Point :=
  if point.z = 0 then point
  else
    let a := point.x * point.x % prime
    let b := point.y * point.y % prime
    let c := b * b % prime
    let sum := point.x + b
    let d := 2 * minus (sum * sum) (a + c) % prime
    let e := 3 * a
    let x := minus (e * e) (2 * d)
    { x, y := minus (e * minus d x) (8 * c), z := 2 * point.y * point.z % prime }

def Point.add (first second : Point) : Point :=
  if first.z = 0 then second
  else if second.z = 0 then first
  else
    let z1 := first.z * first.z % prime
    let z2 := second.z * second.z % prime
    let u1 := first.x * z2 % prime
    let u2 := second.x * z1 % prime
    let s1 := first.y * second.z % prime * z2 % prime
    let s2 := second.y * first.z % prime * z1 % prime
    if u1 = u2 then
      if s1 = s2 then first.double else .infinity
    else
      let h := minus u2 u1
      let r := minus s2 s1
      let h2 := h * h % prime
      let h3 := h2 * h % prime
      let v := u1 * h2 % prime
      let x := minus (r * r) (h3 + 2 * v)
      { x, y := minus (r * minus v x) (s1 * h3), z := h * first.z % prime * second.z % prime }

private def multiplyBits (scalar : Nat) (point : Point) : (bits : Nat) → Point → Point
  | 0, result => result
  | bits + 1, result =>
    let doubled := result.double
    multiplyBits scalar point bits (if scalar.testBit bits then doubled.add point else doubled)

def Point.multiply (scalar : Nat) (point : Point) : Point :=
  multiplyBits scalar point (scalar.log2 + 1) .infinity

/-- The plain coordinates, unless the point is at infinity. -/
def Point.affine? (point : Point) : Option (Nat × Nat) :=
  if point.z = 0 then none
  else
    let inverse := Modular.inverse prime point.z
    let square := inverse * inverse % prime
    some (point.x * square % prime, point.y * square % prime * inverse % prime)

/-- The parity of `y` in the first byte, then `x`. -/
def Point.compress (point : Point) : Bytes :=
  match point.affine? with
  | none => [0]
  | some (x, y) => UInt8.ofNat (2 + y % 2) :: Bytes.ofNatBigEndian 32 x

private def ofX? (x parity : Nat) : Option Point :=
  let square := (x * x % prime * x + 7) % prime
  let root := Modular.power prime square ((prime + 1) / 4)
  if prime ≤ x ∨ root * root % prime ≠ square then none
  else some { x, y := if root % 2 = parity then root else (prime - root) % prime, z := 1 }

/-- Reads a compressed point, an uncompressed one, or an `x` alone that stands for even `y`. -/
def Point.decode? : Bytes → Option Point
  | [] => none
  | form :: coordinates =>
    let first := Bytes.toNatBigEndian (coordinates.take 32)
    let second := Bytes.toNatBigEndian (coordinates.drop 32)
    if coordinates.length = 32 then
      if form = 2 ∨ form = 5 then ofX? first 0
      else if form = 3 then ofX? first 1
      else none
    else if coordinates.length = 64 ∧ form = 4 then
      if first < prime ∧ second < prime
          ∧ second * second % prime = (first * first % prime * first + 7) % prime then
        some { x := first, y := second, z := 1 }
      else none
    else none

/-- The number of a secret key, which lies strictly between zero and the order. -/
def secretNumber? (secret : Bytes) : Option Nat :=
  let number := secret.toNatBigEndian
  if secret.length = 32 ∧ 0 < number ∧ number < order then some number else none

def publicKey (secret : Bytes) : Bytes :=
  (Point.base.multiply secret.toNatBigEndian).compress

/-- A positive integer in the fewest bytes that leave the sign bit clear. -/
private def derInteger (value : Nat) : Bytes :=
  let bytes := (Bytes.ofNatBigEndian 32 value).dropWhile (· = 0)
  let bytes := match bytes with
    | [] => [0]
    | first :: _ => if 0x80 ≤ first then 0 :: bytes else bytes
  0x02 :: UInt8.ofNat bytes.length :: bytes

private def derSignature (r s : Nat) : Bytes :=
  let integers := derInteger r ++ derInteger s
  0x30 :: UInt8.ofNat integers.length :: integers

/-- Reads an integer in its shortest form, and the bytes after it. -/
private def readDerInteger? : Bytes → Option (Nat × Bytes)
  | 0x02 :: length :: rest => do
    let count := length.toNat
    let bytes := rest.take count
    if 0x80 ≤ length ∨ rest.length < count then none
    match bytes with
    | [] => none
    | first :: others =>
      if 0x80 ≤ first then none
      if first = 0 ∧ others.head?.any (· < 0x80) then none
      return (Bytes.toNatBigEndian bytes, rest.drop count)
  | _ => none

private def readDerSignature? : Bytes → Option (Nat × Nat)
  | 0x30 :: length :: rest => do
    if 0x80 ≤ length ∨ rest.length ≠ length.toNat then none
    let (r, rest) ← readDerInteger? rest
    let (s, rest) ← readDerInteger? rest
    if rest.isEmpty then some (r, s) else none
  | _ => none

/-- The state of the nonce generator. -/
private structure Nonces where
  key : Bytes
  value : Bytes

private def Nonces.update (nonces : Nonces) (data : Bytes) : Nonces :=
  let key := Hmac.sha256 nonces.key (nonces.value ++ data)
  { key, value := Hmac.sha256 key nonces.value }

private def Nonces.initial (secret digest : Bytes) : Nonces :=
  let start : Nonces := { key := List.replicate 32 0, value := List.replicate 32 1 }
  (start.update (0 :: (secret ++ digest))).update (1 :: (secret ++ digest))

/-- The first usable signature among those that the next nonces give. -/
private def signWith (secret digest : Nat) : (attempts : Nat) → Nonces → Nat × Nat
  | 0, _ => (0, 0)
  | attempts + 1, nonces =>
    let value := Hmac.sha256 nonces.key nonces.value
    let retry := { nonces with value }.update [0]
    let nonce := value.toNatBigEndian
    if nonce = 0 ∨ order ≤ nonce then signWith secret digest attempts retry
    else
      match (Point.base.multiply nonce).affine? with
      | none => signWith secret digest attempts retry
      | some (x, _) =>
        let r := x % order
        let s := Modular.inverse order nonce * ((digest + r * secret) % order) % order
        if r = 0 ∨ s = 0 then signWith secret digest attempts retry
        else (r, if order / 2 < s then order - s else s)

def sign (secret message : Bytes) : Bytes :=
  let digest := Bytes.toNatBigEndian (Sha256.hash message) % order
  let nonces := Nonces.initial secret (Bytes.ofNatBigEndian 32 digest)
  let (r, s) := signWith secret.toNatBigEndian digest 64 nonces
  derSignature r s

/-- Both halves must lie strictly between zero and the order; a high `s` is accepted. -/
def verify (key message signature : Bytes) : Bool :=
  match Point.decode? key, readDerSignature? signature with
  | some point, some (r, s) =>
    if r = 0 ∨ order ≤ r ∨ s = 0 ∨ order ≤ s then false
    else
      let digest := Bytes.toNatBigEndian (Sha256.hash message) % order
      let inverse := Modular.inverse order s
      let sum :=
        (Point.base.multiply (digest * inverse % order)).add
          (point.multiply (r * inverse % order))
      match sum.affine? with
      | none => false
      | some (x, _) => x % order = r
  | _, _ => false

end GossipNames.Secp256k1
