import SealedKeys.Proofs.Rsa.Inversion

/-!
Encodings of digests, as numbers.

A PKCS#1 v1.5 encoding begins with a zero byte and a PSS encoding has a bit less than the modulus,
so both stand for numbers below the modulus, whatever its number of bits. With prime factors an
encoding is therefore always signed, and whether there is a signature on a digest depends on its
length and that of the modulus alone.
-/

namespace SealedKeys

namespace Rsa

namespace Pkcs1

theorem encode?_eq_none_iff (hash : ModuleHash) (digest : Bytes) (size : Nat) :
    encode? hash digest size = none ↔ size < (mark hash).length + digest.length + 11 := by
  simp only [encode?, List.length_append]
  split <;> simp_all

/-- The leading zero byte of an encoding leaves it a byte less than the modulus has. -/
theorem toNat_lt_of_encode? {hash : ModuleHash} {digest encoded : Bytes} {size : Nat}
    (encodes : encode? hash digest size = some encoded) :
    Bytes.toNat encoded < 256 ^ (size - 1) := by
  have length := length_encode? encodes
  unfold encode? at encodes
  simp only at encodes
  split at encodes
  · cases encodes
  · cases encodes
    rw [List.cons_append, List.cons_append, Bytes.toNat_cons]
    simp only [List.cons_append, List.length_cons] at length
    calc
      (0x00 : UInt8).toNat * 256 ^ _ + Bytes.toNat _ = Bytes.toNat _ := by
        rw [UInt8.toNat_zero, Nat.zero_mul, Nat.zero_add]
      _ < 256 ^ _ := Bytes.toNat_lt _
      _ = 256 ^ (size - 1) := by
        congr 1
        simp only [List.length_cons]
        omega

end Pkcs1

namespace Pss

theorem encode?_eq_none_iff (hash : HashFunction) (digest salt : Bytes) (bits : Nat) :
    encode? hash digest salt bits = none ↔
      encodedLength bits < hash.size + salt.length + 2 := by
  simp only [encode?]
  split <;> simp_all

@[simp] theorem length_clearTop (kept : UInt8) (bytes : Bytes) :
    (clearTop kept bytes).length = bytes.length := by
  cases bytes <;> rfl

/-- The kept bits of the first byte are as many as an encoding leaves for it. -/
theorem toNat_topMask_lt (bits : Nat) :
    (topMask bits).toNat < 2 ^ (8 - (8 * encodedLength bits - bits)) := by
  have few : 8 * encodedLength bits - bits < 8 := by
    unfold encodedLength
    omega
  unfold topMask
  generalize 8 * encodedLength bits - bits = unused at few
  revert unused
  decide

/-- Bytes whose first one is cut down to the bits of an encoding stand for a number of no more
bits than those. -/
theorem toNat_clearTop_append_lt {masked tail : Bytes} {bits : Nat} (nonempty : masked ≠ [])
    (length : masked.length + tail.length = encodedLength bits) :
    Bytes.toNat (clearTop (topMask bits) masked ++ tail) < 2 ^ bits := by
  cases masked with
  | nil => exact absurd rfl nonempty
  | cons first rest =>
    have first_small :
        (first &&& topMask bits).toNat < 2 ^ (8 - (8 * encodedLength bits - bits)) := by
      rw [UInt8.toNat_and]
      exact Nat.and_le_right.trans_lt (toNat_topMask_lt bits)
    have rest_length : (rest ++ tail).length = encodedLength bits - 1 := by
      rw [List.length_cons] at length
      rw [List.length_append]
      omega
    calc
      Bytes.toNat ((first &&& topMask bits) :: (rest ++ tail))
          < 2 ^ (8 - (8 * encodedLength bits - bits)) * 256 ^ (rest ++ tail).length :=
        Bytes.toNat_cons_lt first_small _
      _ = 2 ^ (8 - (8 * encodedLength bits - bits) + 8 * (encodedLength bits - 1)) := by
        rw [rest_length, Nat.pow_add, Nat.pow_mul]
      _ = 2 ^ bits := by
        congr 1
        rw [List.length_cons] at length
        unfold encodedLength at length ⊢
        omega

/-- An encoding has as many bytes as its bits ask for, and no bit more than those. -/
theorem bounds_of_encode? {hash : HashFunction} {digest salt encoded : Bytes} {bits : Nat}
    (encodes : encode? hash digest salt bits = some encoded) :
    encoded.length = encodedLength bits ∧ Bytes.toNat encoded < 2 ^ bits := by
  have fits : ¬ encodedLength bits < hash.size + salt.length + 2 := by
    rw [← encode?_eq_none_iff hash digest salt bits, encodes]
    exact nofun
  have salted_length : (saltedDigest hash digest salt).length = hash.size :=
    hash.length_digest _
  have masked_length : (Bytes.xor
      (List.replicate (encodedLength bits - hash.size - salt.length - 2) 0 ++ 0x01 :: salt)
      (hash.stretch (saltedDigest hash digest salt) (encodedLength bits - hash.size - 1))).length =
        encodedLength bits - hash.size - 1 := by
    simp only [Bytes.length_xor, List.length_append, List.length_replicate, List.length_cons,
      HashFunction.length_stretch]
    omega
  simp only [encode?, if_neg fits, Option.some.injEq] at encodes
  generalize Bytes.xor _ _ = masked at encodes masked_length
  generalize saltedDigest hash digest salt = salted at encodes salted_length
  subst encodes
  have nonempty : masked ≠ [] := by
    rintro rfl
    rw [List.length_nil] at masked_length
    omega
  have length : masked.length + (salted ++ [0xbc]).length = encodedLength bits := by
    rw [List.length_append, List.length_singleton, masked_length, salted_length]
    omega
  rw [List.append_assoc]
  constructor
  · rw [List.length_append, length_clearTop, length]
  · exact toNat_clearTop_append_lt nonempty length

end Pss

namespace PrivateKey

variable {key : PrivateKey}

theorem toNat_lt_modulus_of_pkcs1 {hash : ModuleHash} {digest encoded : Bytes}
    (encodes : Pkcs1.encode? hash digest key.size = some encoded) :
    Bytes.toNat encoded < key.modulus :=
  (Pkcs1.toNat_lt_of_encode? encodes).trans_le (pow_byteLength_le key.modulus_pos)

theorem toNat_lt_modulus_of_pss {hash : HashFunction} {digest salt encoded : Bytes}
    (encodes : Pss.encode? hash digest salt (key.bits - 1) = some encoded) :
    Bytes.toNat encoded < key.modulus :=
  (Pss.bounds_of_encode? encodes).2.trans_le (two_pow_bitLength_le key.modulus_pos)

theorem signPkcs1_eq_error {hash : ModuleHash} {digest : Bytes}
    (tight : key.size < (Pkcs1.mark hash).length + digest.length + 11) :
    key.signPkcs1 hash digest = .error .messageTooLong := by
  rw [signPkcs1, (Pkcs1.encode?_eq_none_iff hash digest key.size).2 tight]

theorem signPkcs1_eq_ok (primes : key.OfPrimes) {hash : ModuleHash} {digest : Bytes}
    (fits : (Pkcs1.mark hash).length + digest.length + 11 ≤ key.size) :
    ∃ signature, key.signPkcs1 hash digest = .ok signature ∧ signature.length = key.size := by
  cases encodes : Pkcs1.encode? hash digest key.size with
  | none =>
    rw [Pkcs1.encode?_eq_none_iff] at encodes
    omega
  | some encoded =>
    rw [signPkcs1, encodes]
    exact signEncoded_eq_ok primes (toNat_lt_modulus_of_pkcs1 encodes)

theorem signPss_eq_ok (primes : key.OfPrimes) {hash : ModuleHash} {salt : Bytes}
    (fits : hash.size + salt.length + 2 ≤ Pss.encodedLength (key.bits - 1)) (digest : Bytes) :
    ∃ signature, key.signPss hash digest salt = .ok signature ∧ signature.length = key.size := by
  cases encodes : Pss.encode? hash.function digest salt (key.bits - 1) with
  | none =>
    rw [Pss.encode?_eq_none_iff, ModuleHash.size_function] at encodes
    omega
  | some encoded =>
    rw [signPss, encodes]
    exact signEncoded_eq_ok primes (toNat_lt_modulus_of_pss encodes)

end PrivateKey

end Rsa

end SealedKeys
