import SealedKeys.Proofs.Arithmetic
import SealedKeys.Proofs.Rsa.Joining

/-!
What a released signature is.

A signature is only released after it gave the encoded message back, so `IsSignature` holds of
it whether or not the factors of the key are prime. Under the public half of the key such a
signature is a PKCS#1 v1.5 signature on one hash and one digest alone (`verifyPkcs1_iff`),
because no two pairs of hash and digest share an encoding (`Pkcs1.encode?_inj`).
-/

namespace SealedKeys

namespace Rsa

namespace PrivateKey

theorem modulus_pos (key : PrivateKey) : 0 < key.modulus := by
  have odd : key.modulus % 2 = 1 := key.admissible.modulus_odd
  omega

theorem dvd_modulus {key : PrivateKey} {factor : Nat} (member : factor ∈ key.factors) :
    factor ∣ key.modulus := by
  rw [modulus, product_eq_prod]
  exact List.dvd_prod member

theorem factor_pos {key : PrivateKey} {factor : Nat} (member : factor ∈ key.factors) :
    0 < factor :=
  Nat.pos_of_dvd_of_pos (dvd_modulus member) key.modulus_pos

/-- The second factor, with which the private operation begins, and those that it adds. -/
theorem mem_factors_iff {key : PrivateKey} {factor : Nat} :
    factor ∈ key.factors ↔ factor = key.q ∨ factor ∈ key.p :: key.others := by
  simp only [factors, List.mem_cons]
  tauto

/-- A number raised to the private exponent, as far as one factor goes. -/
def share (key : PrivateKey) (value factor : Nat) : Nat :=
  value ^ (key.privateExponent % (factor - 1)) % factor

/-- The private operation is put together from its shares for the factors, or is carried out for the
whole modulus. -/
theorem raise_cases (key : PrivateKey) (value : Nat) :
    Joined (key.share value) key.q (key.share value key.q) (key.p :: key.others) (key.raise value) ∨
      key.raise value = value ^ key.privateExponent % key.modulus := by
  unfold raise
  simp only [powMod_eq]
  split
  · rename_i joined joins
    have q_pos : 0 < key.q := factor_pos (mem_factors_iff.2 (.inl rfl))
    have others_pos : ∀ factor ∈ key.p :: key.others, 0 < factor := fun factor member =>
      factor_pos (mem_factors_iff.2 (.inr member))
    exact .inl (joined_of_join? others_pos (Nat.mod_lt _ q_pos) joins)
  · exact .inr rfl

theorem raise_lt_modulus (key : PrivateKey) (value : Nat) : key.raise value < key.modulus := by
  rcases key.raise_cases value with joined | whole
  · calc
      key.raise value < key.q * product (key.p :: key.others) := joined.lt_product
      _ = key.modulus := by
        simp only [modulus, factors, product_cons]
        ring
  · rw [whole]
    exact Nat.mod_lt _ key.modulus_pos

/-- A byte string as long as the modulus whose number, raised to the public exponent, gives an
encoded message back. -/
structure IsSignature (key : PrivateKey) (encoded signature : Bytes) : Prop where
  length_eq : signature.length = key.size
  lt_modulus : Bytes.toNat signature < key.modulus
  opens : Bytes.toNat signature ^ key.exponent % key.modulus = Bytes.toNat encoded

theorem isSignature_of_signEncoded {key : PrivateKey} {encoded signature : Bytes}
    (released : key.signEncoded encoded = .ok signature) : key.IsSignature encoded signature := by
  unfold signEncoded at released
  simp only at released
  split at released
  · cases released
  split at released
  · rename_i checked
    cases released
    have below := key.raise_lt_modulus (Bytes.toNat encoded)
    have fits : key.raise (Bytes.toNat encoded) < 256 ^ key.size :=
      below.trans (lt_pow_byteLength key.modulus)
    refine ⟨Bytes.length_ofNat _ _, ?_, ?_⟩
    · rwa [Bytes.toNat_ofNat_of_lt fits]
    · rw [Bytes.toNat_ofNat_of_lt fits, ← powMod_eq, checked]
  · cases released

theorem isSignature_of_signPkcs1 {key : PrivateKey} {hash : ModuleHash}
    {digest signature : Bytes} (released : key.signPkcs1 hash digest = .ok signature) :
    ∃ encoded, Pkcs1.encode? hash digest key.size = some encoded ∧
      key.IsSignature encoded signature := by
  unfold signPkcs1 at released
  cases fits : Pkcs1.encode? hash digest key.size with
  | none => rw [fits] at released; cases released
  | some encoded =>
    rw [fits] at released
    exact ⟨encoded, rfl, isSignature_of_signEncoded released⟩

theorem isSignature_of_signPss {key : PrivateKey} {hash : ModuleHash}
    {digest salt signature : Bytes} (released : key.signPss hash digest salt = .ok signature) :
    ∃ encoded, Pss.encode? hash.function digest salt (key.bits - 1) = some encoded ∧
      key.IsSignature encoded signature := by
  unfold signPss at released
  cases fits : Pss.encode? hash.function digest salt (key.bits - 1) with
  | none => rw [fits] at released; cases released
  | some encoded =>
    rw [fits] at released
    exact ⟨encoded, rfl, isSignature_of_signEncoded released⟩

end PrivateKey

namespace Pkcs1

/-- The filler ends at the first zero byte, so what follows it is read off. -/
theorem replicate_append_zero_inj {first second : Nat} {left right : Bytes}
    (same : List.replicate first (0xff : UInt8) ++ 0x00 :: left =
      List.replicate second 0xff ++ 0x00 :: right) :
    left = right := by
  induction first generalizing second with
  | zero =>
    cases second with
    | zero =>
      simp only [List.replicate_zero, List.nil_append, List.cons.injEq, true_and] at same
      exact same
    | succ second =>
      simp only [List.replicate_zero, List.replicate_succ, List.nil_append, List.cons_append,
        List.cons.injEq] at same
      exact absurd same.1 (by decide)
  | succ first ih =>
    cases second with
    | zero =>
      simp only [List.replicate_zero, List.replicate_succ, List.nil_append, List.cons_append,
        List.cons.injEq] at same
      exact absurd same.1 (by decide)
    | succ second =>
      simp only [List.replicate_succ, List.cons_append, List.cons.injEq, true_and] at same
      exact ih same

/-- The second byte of a mark names its hash, so the marked digest tells both apart. -/
theorem mark_append_inj {first second : ModuleHash} {left right : Bytes}
    (same : mark first ++ left = mark second ++ right) : first = second ∧ left = right := by
  have second_byte : (mark first)[1]? = (mark second)[1]? := by
    have taken := congrArg (fun bytes => bytes[1]?) same
    cases first <;> cases second <;> exact taken
  have hashes : first = second := by
    revert second_byte
    cases first <;> cases second <;> decide
  subst hashes
  exact ⟨rfl, List.append_cancel_left same⟩

theorem encode?_inj {first second : ModuleHash} {left right encoded : Bytes} {size : Nat}
    (one : encode? first left size = some encoded)
    (other : encode? second right size = some encoded) : first = second ∧ left = right := by
  unfold encode? at one other
  simp only at one other
  split at one
  · cases one
  split at other
  · cases other
  rw [← one] at other
  simp only [List.cons_append, Option.some.injEq, List.cons.injEq, true_and] at other
  exact (mark_append_inj (replicate_append_zero_inj other)).imp Eq.symm Eq.symm

/-- Encodings of one size tell hash and digest by their numbers. -/
theorem encode?_inj_of_toNat {first second : ModuleHash} {left right one other : Bytes}
    {size : Nat} (encodes : encode? first left size = some one)
    (claims : encode? second right size = some other)
    (same : Bytes.toNat one = Bytes.toNat other) : first = second ∧ left = right := by
  have lengths : one.length = other.length := by
    rw [length_encode? encodes, length_encode? claims]
  rw [Bytes.toNat_inj lengths] at same
  subst same
  exact encode?_inj encodes claims

end Pkcs1

/-- A released PKCS#1 v1.5 signature is one on its own hash and digest, and on no others. -/
theorem verifyPkcs1_iff {key : PrivateKey} {hash : ModuleHash}
    {digest encoded signature : Bytes} (length : digest.length = hash.size)
    (encodes : Pkcs1.encode? hash digest key.size = some encoded)
    (isSignature : key.IsSignature encoded signature) (other : ModuleHash)
    (candidate : Bytes) :
    verifyPkcs1 key.modulus key.exponent other candidate signature = true ↔
      other = hash ∧ candidate = digest := by
  have size : signature.length = byteLength key.modulus := isSignature.length_eq
  have recovered : recover? key.modulus key.exponent signature = some (Bytes.toNat encoded) := by
    rw [recover?, if_pos size, powMod_eq, isSignature.opens]
  have same_size : Pkcs1.encode? hash digest (byteLength key.modulus) = some encoded := encodes
  unfold verifyPkcs1
  rw [recovered]
  constructor
  · cases fits : Pkcs1.encode? other candidate (byteLength key.modulus) with
    | none => exact fun accepted => nomatch accepted
    | some claimed =>
      simp only [Bool.and_eq_true, beq_iff_eq]
      rintro ⟨-, same⟩
      exact Pkcs1.encode?_inj_of_toNat fits same_size same.symm
  · rintro ⟨rfl, rfl⟩
    rw [same_size]
    simp only [length, isSignature.lt_modulus, decide_true, beq_self_eq_true, Bool.and_self]

end Rsa

end SealedKeys
