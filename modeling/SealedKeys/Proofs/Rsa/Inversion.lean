import SealedKeys.Proofs.Rsa.Signature

/-!
The public operation undoes the private one, for prime factors.

For each factor, the private operation comes to a power whose exponent is inverse to the public
one (`RaisesFor`), whether it is carried out for the factors or for the whole modulus. Raised to
the public exponent, that power gives the number back for each factor, and the factors together
make the modulus (`raise_pow_exponent`). Numbers that share a factor with the modulus are no
exception. So the check that stands before the release of a signature never fails
(`signEncoded_eq_ok`). All this goes for any number of factors, as long as they are different.
-/

namespace SealedKeys

namespace Rsa

/-- Modulo a prime, a power is its base if the exponent is one modulo the prime less one. The
base may be a multiple of the prime. -/
theorem pow_modEq_self {prime exponent : Nat} (isPrime : prime.Prime) (positive : 0 < exponent)
    (one : exponent ≡ 1 [MOD prime - 1]) (base : Nat) : base ^ exponent ≡ base [MOD prime] := by
  by_cases divides : prime ∣ base
  · have base_zero : base ≡ 0 [MOD prime] := Nat.modEq_zero_iff_dvd.2 divides
    have power_zero : base ^ exponent ≡ 0 [MOD prime] :=
      Nat.modEq_zero_iff_dvd.2 (divides.trans (dvd_pow_self base positive.ne'))
    exact power_zero.trans base_zero.symm
  · have coprime : base.Coprime prime := ((isPrime.coprime_iff_not_dvd).2 divides).symm
    have lap : base ^ (prime - 1) ≡ 1 [MOD prime] := by
      rw [← Nat.totient_prime isPrime]
      exact Nat.ModEq.pow_totient coprime
    obtain ⟨laps, rest⟩ : prime - 1 ∣ exponent - 1 := (Nat.modEq_iff_dvd' positive).1 one.symm
    have split : exponent = (prime - 1) * laps + 1 := by omega
    calc
      base ^ exponent = (base ^ (prime - 1)) ^ laps * base := by
        rw [split, pow_succ, pow_mul]
      _ ≡ 1 ^ laps * base [MOD prime] := (lap.pow laps).mul_right base
      _ = base := by rw [one_pow, one_mul]

namespace PrivateKey

/-- The factors of a key are different primes. -/
structure OfPrimes (key : PrivateKey) : Prop where
  prime : ∀ factor ∈ key.factors, factor.Prime
  distinct : key.factors.Nodup

/-- For a factor, the private operation comes to a power whose exponent is the private one, as
far as that factor goes. -/
def RaisesFor (key : PrivateKey) (factor value : Nat) : Prop :=
  ∃ share, share ≡ key.privateExponent [MOD factor - 1] ∧
    key.raise value ≡ value ^ share [MOD factor]

theorem raisesFor {key : PrivateKey} {factor : Nat} (member : factor ∈ key.factors) (value : Nat) :
    key.RaisesFor factor value := by
  rcases key.raise_cases value with joined | whole
  · have ends : key.raise value ≡ key.share value factor [MOD factor] := by
      rcases mem_factors_iff.1 member with rfl | further
      · exact joined.known_modEq
      · exact joined.remainder_modEq factor further
    exact ⟨_, Nat.mod_modEq _ _, ends.trans (Nat.mod_modEq _ _)⟩
  · refine ⟨key.privateExponent, rfl, ?_⟩
    rw [whole]
    exact Nat.ModEq.of_dvd (dvd_modulus member) (Nat.mod_modEq _ _)

/-- What the private operation comes to for a factor, the public operation undoes for it. -/
theorem RaisesFor.pow_exponent {key : PrivateKey} {factor value : Nat}
    (member : factor ∈ key.factors) (isPrime : factor.Prime) (raises : key.RaisesFor factor value) :
    key.raise value ^ key.exponent ≡ value [MOD factor] := by
  rcases raises with ⟨share, own, raised⟩
  have odd : factor ≠ 2 := by
    rintro rfl
    have even : key.modulus % 2 = 0 := Nat.mod_eq_zero_of_dvd (dvd_modulus member)
    have not_even : key.modulus % 2 = 1 := key.admissible.modulus_odd
    omega
  have inverse : share * key.exponent ≡ 1 [MOD factor - 1] := by
    calc
      share * key.exponent ≡ key.privateExponent * key.exponent [MOD factor - 1] :=
        own.mul_right _
      _ = key.exponent * key.privateExponent := Nat.mul_comm _ _
      _ ≡ 1 [MOD factor - 1] := key.inverse factor member
  -- The exponent is not zero, so that multiples of the factor stay such.
  have positive : 0 < share * key.exponent := by
    by_contra notPositive
    have zero : share * key.exponent = 0 := by omega
    rw [zero] at inverse
    have one : factor - 1 = 1 := Nat.dvd_one.1 (Nat.modEq_zero_iff_dvd.1 inverse.symm)
    omega
  calc
    key.raise value ^ key.exponent ≡ (value ^ share) ^ key.exponent [MOD factor] :=
      raised.pow _
    _ = value ^ (share * key.exponent) := (pow_mul _ _ _).symm
    _ ≡ value [MOD factor] := pow_modEq_self isPrime positive inverse value

theorem OfPrimes.of_two {key : PrivateKey} (p_prime : key.p.Prime) (q_prime : key.q.Prime)
    (different : key.p ≠ key.q) (no_others : key.others = []) : key.OfPrimes := by
  have two : key.factors = [key.p, key.q] := by
    rw [factors, no_others]
  constructor
  · rw [two]
    exact List.forall_mem_cons.2 ⟨p_prime, List.forall_mem_singleton.2 q_prime⟩
  · rw [two]
    exact List.nodup_cons.2 ⟨mt List.mem_singleton.1 different, List.nodup_singleton _⟩

theorem OfPrimes.coprime {key : PrivateKey} (primes : key.OfPrimes) :
    key.factors.Pairwise Nat.Coprime :=
  primes.distinct.imp_of_mem fun first second different =>
    (Nat.coprime_primes (primes.prime _ first) (primes.prime _ second)).2 different

/-- With prime factors, the public operation undoes the private one for every number below the
modulus. -/
theorem raise_pow_exponent {key : PrivateKey} (primes : key.OfPrimes) {value : Nat}
    (below : value < key.modulus) :
    key.raise value ^ key.exponent % key.modulus = value := by
  have each : ∀ factor ∈ key.factors, key.raise value ^ key.exponent ≡ value [MOD factor] :=
    fun factor member => (raisesFor member value).pow_exponent member (primes.prime factor member)
  have together : key.raise value ^ key.exponent ≡ value [MOD product key.factors] := by
    rw [product_eq_prod]
    exact (Nat.modEq_list_prod_iff primes.coprime).2 fun index =>
      each _ (List.get_mem key.factors index)
  exact Nat.mod_eq_of_modEq together below

-- Three primes, one of them behind the first two.
example :
    let key : PrivateKey :=
      ⟨7, 11, [13], 7, 43, (fault?_eq_none_iff _ _).1 rfl, by decide⟩
    key.raise 500 ^ key.exponent % key.modulus = 500 := by
  decide +kernel

/-- With prime factors, every encoded message below the modulus is signed. -/
theorem signEncoded_eq_ok {key : PrivateKey} (primes : key.OfPrimes) {encoded : Bytes}
    (below : Bytes.toNat encoded < key.modulus) :
    ∃ signature, key.signEncoded encoded = .ok signature ∧ signature.length = key.size := by
  have checked : powMod (key.raise (Bytes.toNat encoded)) key.exponent key.modulus =
      Bytes.toNat encoded := by
    rw [powMod_eq, raise_pow_exponent primes below]
  refine ⟨Bytes.ofNat key.size (key.raise (Bytes.toNat encoded)), ?_, Bytes.length_ofNat _ _⟩
  simp only [signEncoded]
  rw [if_neg (Nat.not_le_of_lt below), if_pos checked]

end PrivateKey

end Rsa

end SealedKeys
