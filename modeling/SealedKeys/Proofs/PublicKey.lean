import SealedKeys.Proofs.Arithmetic
import SealedKeys.Proofs.SoftwareModule.Description
import SealedKeys.PublicKey.Reconstruction

/-!
From a public area back to the key.

An area that describes an RSA key tells its modulus and its exponent, although the usual exponent
is written as zero. The public key is rebuilt from them unless the modulus is too large: a public
key is bounded in size, a private one is not. A point of an elliptic curve is rebuilt from its
coordinates; the zero bytes that fill them up to the size of the curve drop out.
-/

namespace SealedKeys

namespace Rsa

theorem PublicKey.ofParts?_eq_ok {modulus exponent : Nat} (admissible : Admissible modulus exponent)
    (bits_le : bitLength modulus ≤ maxModulusBits) :
    PublicKey.ofParts? modulus exponent = .ok ⟨modulus, exponent, admissible, bits_le⟩ := by
  have clean := (fault?_eq_none_iff modulus exponent).2 admissible
  unfold PublicKey.ofParts?
  rw [dif_pos bits_le]
  split
  · rename_i fault found
    rw [clean] at found
    cases found
  · rfl

theorem PublicKey.ofParts?_eq_error {modulus : Nat}
    (large : ¬ bitLength modulus ≤ maxModulusBits) (exponent : Nat) :
    PublicKey.ofParts? modulus exponent = .error .modulusTooLarge :=
  dif_neg large

/-- The public half of a private key whose modulus is not too large. -/
def PrivateKey.publicKey (key : PrivateKey) (bits_le : key.bits ≤ maxModulusBits) : PublicKey :=
  ⟨key.modulus, key.exponent, key.admissible, bits_le⟩

end Rsa

namespace P256.Point

theorem toNat_ofNat_x (point : Point) : Bytes.toNat (Bytes.ofNat 32 point.x) = point.x :=
  Bytes.toNat_ofNat_of_lt (point.onCurve.x_lt.trans (by decide))

theorem toNat_ofNat_y (point : Point) : Bytes.toNat (Bytes.ofNat 32 point.y) = point.y :=
  Bytes.toNat_ofNat_of_lt (point.onCurve.y_lt.trans (by decide))

/-- In the uncompressed form, each coordinate has a place of its own. -/
theorem ofUncompressed?_append {x y : Bytes} (length_x : x.length = 32) (length_y : y.length = 32) :
    ofUncompressed? (0x04 :: (x ++ y)) = ofCoordinates? (Bytes.toNat x) (Bytes.toNat y) := by
  have both : (x ++ y).length = 64 := by
    rw [List.length_append, length_x, length_y]
  simp only [ofUncompressed?, both, if_true, List.take_left' length_x, List.drop_left' length_x]

end P256.Point

/-- Writing the usual exponent as zero loses nothing. -/
theorem RsaParameters.resolveExponent_written {exponent : Nat} (positive : exponent ≠ 0) :
    resolveExponent (if exponent = defaultExponent then 0 else exponent) = exponent := by
  unfold resolveExponent
  by_cases usual : exponent = defaultExponent
  · rw [if_pos usual, if_pos rfl, usual]
  · rw [if_neg usual, if_neg positive]

namespace PublicArea

/-- An area that describes an RSA key tells its size, its modulus and its exponent. -/
theorem Describes.rsa {area : PublicArea} {key : Rsa.PrivateKey}
    (describes : area.Describes (.rsa key)) :
    ∃ parameters, area.parameters = .rsa parameters ∧ parameters.keyBits = key.bits ∧
      Bytes.toNat parameters.modulus = key.modulus ∧
      parameters.effectiveExponent = key.exponent := by
  have positive : key.exponent ≠ 0 := by
    have := key.admissible.three_le_exponent
    omega
  exact ⟨_, describes.2, rfl, Bytes.toNat_minimal key.modulus,
    RsaParameters.resolveExponent_written positive⟩

/-- The public key is rebuilt from the modulus and the exponent of the key that the area
describes, as far as these make one. -/
theorem publicKey_eq_of_describes {area : PublicArea} {key : Rsa.PrivateKey}
    (describes : area.Describes (.rsa key)) :
    area.publicKey =
      match Rsa.PublicKey.ofParts? key.modulus key.exponent with
      | .ok publicKey => .ok (.rsa publicKey)
      | .error fault => .error (malformed ("invalid RSA public key: " ++ fault.message)) := by
  rcases describes.rsa with ⟨parameters, rsa, size, modulus, exponent⟩
  have sized : checkSize parameters = .ok () := by
    unfold checkSize
    rw [modulus, size]
    exact if_pos rfl
  unfold publicKey
  rw [rsa]
  simp only [sized, rsaKey, modulus, exponent]
  rfl

theorem publicKey_of_describes {area : PublicArea} {key : Rsa.PrivateKey}
    (describes : area.Describes (.rsa key)) (bits_le : key.bits ≤ Rsa.maxModulusBits) :
    area.publicKey = .ok (.rsa (key.publicKey bits_le)) := by
  have passes : Rsa.PublicKey.ofParts? key.modulus key.exponent = .ok (key.publicKey bits_le) :=
    Rsa.PublicKey.ofParts?_eq_ok key.admissible bits_le
  rw [publicKey_eq_of_describes describes, passes]

/-- Of a key that is too large nothing is rebuilt, although the area describes it. -/
theorem publicKey_of_describes_of_lt {area : PublicArea} {key : Rsa.PrivateKey}
    (describes : area.Describes (.rsa key)) (lt_bits : Rsa.maxModulusBits < key.bits) :
    area.publicKey = .error (malformed
      ("invalid RSA public key: " ++ Rsa.KeyFault.modulusTooLarge.message)) := by
  have fails : Rsa.PublicKey.ofParts? key.modulus key.exponent = .error .modulusTooLarge :=
    Rsa.PublicKey.ofParts?_eq_error (Nat.not_le_of_lt lt_bits) key.exponent
  rw [publicKey_eq_of_describes describes, fails]

/-- Padded or not, coordinates that are not too long make the point whose coordinates are their
numbers. -/
theorem p256Key_of_length_le {x y : Bytes} (x_le : x.length ≤ 32) (y_le : y.length ≤ 32) :
    p256Key ⟨.nistP256, x, y⟩ =
      match P256.Point.ofCoordinates? (Bytes.toNat x) (Bytes.toNat y) with
      | some point => .ok (.p256 point)
      | none => .error (malformed "ECC point is not on P-256") := by
  have short : ¬ (32 < x.length ∨ 32 < y.length) := by omega
  have read : P256.Point.ofUncompressed? (uncompressed ⟨.nistP256, x, y⟩) =
      P256.Point.ofCoordinates? (Bytes.toNat x) (Bytes.toNat y) := by
    rw [← Bytes.toNat_padLeft 32 x, ← Bytes.toNat_padLeft 32 y]
    exact P256.Point.ofUncompressed?_append (Bytes.length_padLeft x_le) (Bytes.length_padLeft y_le)
  rw [← read]
  exact if_neg short

theorem p256Key_of_lt_length {x y : Bytes} (long : 32 < x.length ∨ 32 < y.length) :
    p256Key ⟨.nistP256, x, y⟩ =
      .error (malformed "ECC coordinate longer than the curve size") :=
  if_pos long

/-- A point is rebuilt from its coordinates, written at the size of the curve. -/
theorem p256Key_written (point : P256.Point) :
    p256Key ⟨.nistP256, Bytes.ofNat 32 point.x, Bytes.ofNat 32 point.y⟩ = .ok (.p256 point) := by
  have found : P256.Point.ofCoordinates? point.x point.y = some point := dif_pos point.onCurve
  rw [p256Key_of_length_le (Bytes.length_ofNat _ _).le (Bytes.length_ofNat _ _).le,
    point.toNat_ofNat_x, point.toNat_ofNat_y, found]

end PublicArea

end SealedKeys
