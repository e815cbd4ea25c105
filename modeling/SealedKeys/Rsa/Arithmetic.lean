/-!
Modular powers and inverses of natural numbers.

`powMod` squares and multiplies. `inverse?` finds an inverse by the Euclidean algorithm and gives
it only after checking it, so that `mul_inverse?` needs no theory of that algorithm.
-/

namespace SealedKeys

namespace Rsa

/-- The product of `product` with a power of `base`, reduced by `modulus`. -/
def powModFrom (modulus product base exponent : Nat) : Nat :=
  if exponent = 0 then product % modulus
  else
    powModFrom modulus (if exponent % 2 = 1 then product * base % modulus else product)
      (base * base % modulus) (exponent / 2)
termination_by exponent

/-- The power of `base` with the given exponent, reduced by `modulus`. -/
def powMod (base exponent modulus : Nat) : Nat :=
  powModFrom modulus 1 (base % modulus) exponent

/-- The Euclidean algorithm on `older` and `newer`, which keeps a factor of each: the common
divisor, and the factor that leads to it. -/
def euclid (modulus older newer olderFactor newerFactor : Nat) : Nat × Nat :=
  if newer = 0 then (older, olderFactor)
  else
    euclid modulus newer (older % newer) newerFactor
      ((olderFactor + modulus - older / newer * newerFactor % modulus) % modulus)
termination_by newer
decreasing_by exact Nat.mod_lt _ (Nat.pos_of_ne_zero ‹_›)

/-- A number below `modulus` that is inverse to `value`, if there is one. -/
def inverse? (value modulus : Nat) : Option Nat :=
  let candidate := (euclid modulus modulus (value % modulus) 0 (1 % modulus)).2
  if value * candidate % modulus = 1 % modulus then some candidate else none

/-- What is given as an inverse is one. -/
theorem mul_inverse? {value modulus candidate : Nat}
    (found : inverse? value modulus = some candidate) :
    value * candidate % modulus = 1 % modulus := by
  simp only [inverse?] at found
  split at found
  · rename_i inverse
    cases found
    exact inverse
  · cases found

end Rsa

end SealedKeys
