import GossipNames.Hash.Sha512

/-! Arithmetic modulo a prime, and signatures over the twisted Edwards curve modulo `2 ^ 255 - 19`. -/

namespace GossipNames.Modular

/-- `base ^ exponent` by squaring, reading that many bits of the exponent. -/
private def powerBits (modulus base exponent : Nat) : (bits : Nat) → Nat → Nat
  | 0, result => result
  | bits + 1, result =>
    let square := result * result % modulus
    let result := if exponent.testBit bits then square * base % modulus else square
    powerBits modulus base exponent bits result

def power (modulus base exponent : Nat) : Nat :=
  powerBits modulus base exponent (exponent.log2 + 1) (1 % modulus)

/-- The inverse modulo a prime; zero has none and gives zero. -/
def inverse (modulus value : Nat) : Nat :=
  power modulus value (modulus - 2)

def subtract (modulus first second : Nat) : Nat :=
  (first + modulus - second % modulus) % modulus

end GossipNames.Modular

namespace GossipNames.Ed25519

/-- The field's prime. -/
def prime : Nat := Nat.pow 2 255 - 19

/-- The order of the base point. -/
def order : Nat := Nat.pow 2 252 + 27742317777372353535851937790883648493

def curveD : Nat := 37095705934669439343138083508754565189542113879843219016388785533085940283555

def rootOfMinusOne : Nat :=
  19681161376707505956807079304988542015446066515923890162744021073123829784752

/-- A point in extended coordinates: `x / z`, `y / z` and `t = x * y / z`. -/
structure Point where
  x : Nat
  y : Nat
  z : Nat
  t : Nat

def Point.neutral : Point where
  x := 0
  y := 1
  z := 1
  t := 0

def Point.base : Point where
  x := 15112221349535400772501151409588531511454012693041857206046113283949847762202
  y := 46316835694926478169428394003475163141307993866256225615783033603165251855960
  z := 1
  t := 46827403850823179245072216630277197565144205554125654976674165829533817101731

private def minus (first second : Nat) : Nat :=
  first + prime - second

def Point.add (first second : Point) : Point :=
  let a := minus first.y first.x * minus second.y second.x % prime
  let b := (first.y + first.x) * (second.y + second.x) % prime
  let c := 2 * first.t * second.t % prime * curveD % prime
  let d := 2 * first.z * second.z % prime
  let e := minus b a
  let f := minus d c
  let g := d + c
  let h := b + a
  { x := e * f % prime, y := g * h % prime, z := f * g % prime, t := e * h % prime }

def Point.double (point : Point) : Point :=
  let a := point.x * point.x % prime
  let b := point.y * point.y % prime
  let c := 2 * point.z * point.z % prime
  let h := a + b
  let sum := point.x + point.y
  let e := h + prime - sum * sum % prime
  let g := minus a b
  let f := c + g
  { x := e * f % prime, y := g * h % prime, z := f * g % prime, t := e * h % prime }

def Point.negate (point : Point) : Point :=
  { point with x := (prime - point.x) % prime, t := (prime - point.t) % prime }

private def multiplyBits (scalar : Nat) (point : Point) : (bits : Nat) → Point → Point
  | 0, result => result
  | bits + 1, result =>
    let doubled := result.double
    multiplyBits scalar point bits (if scalar.testBit bits then doubled.add point else doubled)

def Point.multiply (scalar : Nat) (point : Point) : Point :=
  multiplyBits scalar point (scalar.log2 + 1) .neutral

/-- The `y` coordinate in 255 bits, and the parity of `x` in the last one. -/
def Point.compress (point : Point) : Bytes :=
  let inverse := Modular.inverse prime point.z
  let x := point.x * inverse % prime
  let y := point.y * inverse % prime
  Bytes.ofNatLittleEndian 32 (y + x % 2 * Nat.pow 2 255)

/-- The point with the given `y` coordinate, taken modulo the prime, and parity of `x`. -/
def Point.decompress? (bytes : Bytes) : Option Point := do
  if bytes.length ≠ 32 then none
  let encoded := bytes.toNatLittleEndian
  let odd := encoded / Nat.pow 2 255
  let y := encoded % Nat.pow 2 255 % prime
  let square := y * y % prime
  let numerator := (square + prime - 1) % prime
  let denominator := (curveD * square + 1) % prime
  let cube := denominator * denominator % prime * denominator % prime
  let seventh := cube * cube % prime * denominator % prime
  let candidate :=
    numerator * cube % prime
      * Modular.power prime (numerator * seventh % prime) ((prime - 5) / 8) % prime
  let check := denominator * (candidate * candidate % prime) % prime
  let x ←
    if check = numerator then some candidate
    else if (check + numerator) % prime = 0 then some (candidate * rootOfMinusOne % prime)
    else none
  let x := if x % 2 = odd then x else (prime - x) % prime
  return { x, y, z := 1, t := x * y % prime }

/-- The secret scalar and the prefix of nonces that a seed stands for. -/
private def expand (seed : Bytes) : Nat × Bytes :=
  let digest := Sha512.hash seed
  let low := Bytes.toNatLittleEndian (digest.take 32)
  (low % Nat.pow 2 254 / 8 * 8 + Nat.pow 2 254, digest.drop 32)

def publicKey (seed : Bytes) : Bytes :=
  (Point.base.multiply (expand seed).1).compress

private def challenge (commitment key message : Bytes) : Nat :=
  Bytes.toNatLittleEndian (Sha512.hash (commitment ++ key ++ message)) % order

def sign (seed message : Bytes) : Bytes :=
  let (secret, nonceSeed) := expand seed
  let key := (Point.base.multiply secret).compress
  let nonce := Bytes.toNatLittleEndian (Sha512.hash (nonceSeed ++ message)) % order
  let commitment := (Point.base.multiply nonce).compress
  let response := (nonce + challenge commitment key message * secret) % order
  commitment ++ Bytes.ofNatLittleEndian 32 response

/-- The response must be below the group order, and the commitment must be the encoding of what
the equation gives. -/
def verify (key message signature : Bytes) : Bool :=
  match Point.decompress? key with
  | none => false
  | some point =>
    let commitment := signature.take 32
    let response := Bytes.toNatLittleEndian (signature.drop 32)
    if signature.length ≠ 64 ∨ order ≤ response then false
    else
      let expected :=
        (Point.base.multiply response).add
          (point.negate.multiply (challenge commitment key message))
      expected.compress = commitment

end GossipNames.Ed25519
