import SealedKeys.Digest.Stretch
import SealedKeys.Rsa.Key

/-!
Generating RSA keys from a seed.

Two numbers of half the size, with their two top bits set, are drawn from the seed; from each on,
the first odd number is taken that passes a test for primes and whose predecessor has no factor
in common with the exponent. The two top bits make the modulus exactly as long as asked for.
Whatever the search finds, `generate` only gives a key of the wanted size and exponent.
-/

namespace SealedKeys

namespace Rsa

/-- A private key of a given size, with a given public exponent. -/
def KeyOfSize (bits exponent : Nat) : Type :=
  { key : PrivateKey // key.bits = bits ∧ key.exponent = exponent }

/-- The primes below one thousand. -/
def smallPrimes : List Nat :=
  (List.range 1000).filter fun value =>
    2 ≤ value ∧ (List.range value).all fun divisor => divisor < 2 ∨ value % divisor ≠ 0

/-- The product of the primes below one thousand. -/
def smallPrimeProduct : Nat :=
  smallPrimes.foldl (· * ·) 1

/-- A number as a power of two times an odd number: the exponent and the odd number. -/
def splitTwos (value : Nat) : Nat × Nat :=
  if value = 0 ∨ value % 2 = 1 then (0, value)
  else
    let (twos, odd) := splitTwos (value / 2)
    (twos + 1, odd)
termination_by value

/-- Whether a number is reached by squaring at most the given number of times. -/
def reachesBySquaring (target modulus : Nat) : (times value : Nat) → Bool
  | 0, value => value == target
  | times + 1, value =>
    value == target || reachesBySquaring target modulus times (value * value % modulus)

/-- Whether an odd number passes the Miller–Rabin test to a base. -/
def passesTest (candidate base : Nat) : Bool :=
  let (twos, odd) := splitTwos (candidate - 1)
  let power := powMod base odd candidate
  power == 1 || reachesBySquaring (candidate - 1) candidate (twos - 1) power

/-- Whether a number above one thousand has no small factor and passes the tests to twenty
bases. -/
def isProbablePrime (candidate : Nat) : Bool :=
  Nat.gcd candidate smallPrimeProduct == 1 && (smallPrimes.take 20).all (passesTest candidate)

/-- The first of `count` odd numbers from a start on that looks prime and suits an exponent. -/
def findPrime (exponent : Nat) : (count start : Nat) → Option Nat
  | 0, _ => none
  | count + 1, start =>
    if isProbablePrime start && Nat.gcd exponent (start - 1) == 1 then some start
    else findPrime exponent count (start + 2)

/-- An odd number of the given number of bits, with its two top bits set. -/
def startFrom (seed : Bytes) (bits : Nat) : Nat :=
  let drawn := Bytes.toNat (ModuleHash.sha256.function.stretch seed (bits / 8 + 1))
  let unit := 1 <<< (bits - 2)
  drawn % unit / 2 * 2 + 1 + 3 * unit

/-- A key of the wanted size and exponent, made from a seed. -/
def generate (seed : Bytes) (bits exponent : Nat) : Except KeyFault (KeyOfSize bits exponent) :=
  let half := bits / 2
  let search := findPrime exponent (64 * bits)
  match search (startFrom (0 :: seed) half), search (startFrom (1 :: seed) (bits - half)) with
  | some p, some q =>
    match PrivateKey.ofFactors? p q exponent with
    | .ok key =>
      if fits : key.bits = bits ∧ key.exponent = exponent then .ok ⟨key, fits⟩
      else .error .invalidModulus
    | .error fault => .error fault
  | _, _ => .error .invalidPrime

end Rsa

end SealedKeys
