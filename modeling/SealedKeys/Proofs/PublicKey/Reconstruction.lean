import SealedKeys.Proofs.PublicKey

/-!
From which public areas a public key is rebuilt.

Whoever reports a public area may have made it up: its byte strings may have any length and its
numbers any value. `Verdict` lists the four ends that rebuilding can come to, each with what it
says of the area. They exclude each other, so each of them occurs exactly when what it says is
true. Zero bytes in front of a number never decide between them.
-/

namespace SealedKeys

/-- The curve equation in its usual form. -/
theorem P256.onCurve_iff {x y : Nat} :
    OnCurve x y ↔ x < fieldPrime ∧ y < fieldPrime ∧
      (y : ℤ) ^ 2 ≡ x ^ 3 - 3 * x + constant [ZMOD fieldPrime] := by
  have three_le : 3 ≤ fieldPrime := by decide
  -- The model adds a multiple of the prime so as not to subtract.
  have right : ((x * x * x + (fieldPrime - 3) * x + constant : Nat) : ℤ) ≡
      x ^ 3 - 3 * x + constant [ZMOD fieldPrime] := by
    rw [Int.modEq_iff_dvd]
    refine ⟨-x, ?_⟩
    push_cast [three_le]
    ring
  have equation : y * y % fieldPrime = rightSide x ↔
      (y : ℤ) ^ 2 ≡ x ^ 3 - 3 * x + constant [ZMOD fieldPrime] := by
    calc
      y * y % fieldPrime = rightSide x
          ↔ y * y ≡ x * x * x + (fieldPrime - 3) * x + constant [MOD fieldPrime] := Iff.rfl
      _ ↔ ((y * y : Nat) : ℤ) ≡ (x * x * x + (fieldPrime - 3) * x + constant : Nat)
            [ZMOD fieldPrime] := (Int.natCast_modEq_iff).symm
      _ ↔ (y : ℤ) ^ 2 ≡ x ^ 3 - 3 * x + constant [ZMOD fieldPrime] := by
        rw [Nat.cast_mul, ← pow_two]
        exact ⟨fun holds => holds.trans right, fun holds => holds.trans right.symm⟩
  constructor
  · rintro ⟨x_lt, y_lt, holds⟩
    exact ⟨x_lt, y_lt, equation.1 holds⟩
  · rintro ⟨x_lt, y_lt, holds⟩
    exact ⟨x_lt, y_lt, equation.2 holds⟩

/-- Numbers make the public key that has them, if there is such a key. -/
theorem Rsa.PublicKey.ofParts?_eq_ok_iff {modulus exponent : Nat} {key : PublicKey} :
    ofParts? modulus exponent = .ok key ↔ key.modulus = modulus ∧ key.exponent = exponent := by
  constructor
  · intro made
    unfold ofParts? at made
    split at made
    · split at made
      · cases made
      · cases made
        exact ⟨rfl, rfl⟩
    · cases made
  · rintro ⟨rfl, rfl⟩
    exact ofParts?_eq_ok key.admissible key.bits_le

/-- A point is found at the coordinates of a point, and nowhere else. -/
theorem P256.Point.ofCoordinates?_eq_some_iff {x y : Nat} {point : Point} :
    ofCoordinates? x y = some point ↔ point.x = x ∧ point.y = y := by
  constructor
  · intro found
    unfold ofCoordinates? at found
    split at found
    · cases found
      exact ⟨rfl, rfl⟩
    · cases found
  · rintro ⟨rfl, rfl⟩
    exact dif_pos point.onCurve

/-! ## What an area declares -/

/-- RSA parameters declare the key with a modulus and an exponent. -/
structure RsaParameters.Declares (parameters : RsaParameters) (modulus exponent : Nat) : Prop where
  toNat_modulus : Bytes.toNat parameters.modulus = modulus
  bitLength_eq : bitLength modulus = parameters.keyBits
  keyBits_le : parameters.keyBits ≤ 4096
  modulus_odd : modulus % 2 = 1
  effectiveExponent_eq : parameters.effectiveExponent = exponent
  exponent_odd : exponent % 2 = 1
  three_le_exponent : 3 ≤ exponent
  exponent_lt_modulus : exponent < modulus

/-- Elliptic curve parameters declare the point of NIST P-256 with the given coordinates. -/
structure EccParameters.Declares (parameters : EccParameters) (x y : Nat) : Prop where
  curve_eq : parameters.curve = .nistP256
  length_x_le : parameters.x.length ≤ 32
  length_y_le : parameters.y.length ≤ 32
  toNat_x : Bytes.toNat parameters.x = x
  toNat_y : Bytes.toNat parameters.y = y
  x_lt : x < P256.fieldPrime
  y_lt : y < P256.fieldPrime
  equation : (y : ℤ) ^ 2 ≡ x ^ 3 - 3 * x + P256.constant [ZMOD P256.fieldPrime]

namespace PublicArea

variable {area : PublicArea}

def DeclaresRsa (area : PublicArea) (modulus exponent : Nat) : Prop :=
  ∃ parameters, area.parameters = .rsa parameters ∧ parameters.Declares modulus exponent

def DeclaresPoint (area : PublicArea) (x y : Nat) : Prop :=
  ∃ parameters, area.parameters = .ecc parameters ∧ parameters.Declares x y

/-- The object is of a family, or on a curve, whose public keys have no general form here. -/
def IsUnsupported (area : PublicArea) : Prop :=
  match area.parameters with
  | .rsa _ => False
  | .ecc parameters => parameters.curve ≠ .nistP256
  | .keyedHash | .symCipher => True

/-- The exponent field of an area is a word of thirty-two bits. -/
def HasExponentWord (area : PublicArea) : Prop :=
  ∀ parameters, area.parameters = .rsa parameters → parameters.exponent < 2 ^ 32

theorem DeclaresRsa.unique {modulus exponent otherModulus otherExponent : Nat}
    (declares : area.DeclaresRsa modulus exponent)
    (also : area.DeclaresRsa otherModulus otherExponent) :
    modulus = otherModulus ∧ exponent = otherExponent := by
  rcases declares with ⟨parameters, rsa, first⟩
  rcases also with ⟨_, same, second⟩
  cases rsa.symm.trans same
  exact ⟨first.toNat_modulus.symm.trans second.toNat_modulus,
    first.effectiveExponent_eq.symm.trans second.effectiveExponent_eq⟩

theorem DeclaresPoint.unique {x y otherX otherY : Nat} (declares : area.DeclaresPoint x y)
    (also : area.DeclaresPoint otherX otherY) : x = otherX ∧ y = otherY := by
  rcases declares with ⟨parameters, ecc, first⟩
  rcases also with ⟨_, same, second⟩
  cases ecc.symm.trans same
  exact ⟨first.toNat_x.symm.trans second.toNat_x, first.toNat_y.symm.trans second.toNat_y⟩

theorem DeclaresRsa.not_declaresPoint {modulus exponent : Nat}
    (declares : area.DeclaresRsa modulus exponent) (x y : Nat) : ¬ area.DeclaresPoint x y := by
  rcases declares with ⟨_, rsa, -⟩
  rintro ⟨_, ecc, -⟩
  cases rsa.symm.trans ecc

theorem DeclaresRsa.not_isUnsupported {modulus exponent : Nat}
    (declares : area.DeclaresRsa modulus exponent) : ¬ area.IsUnsupported := by
  rcases declares with ⟨_, rsa, -⟩
  simp only [IsUnsupported, rsa, not_false_eq_true]

theorem DeclaresPoint.not_isUnsupported {x y : Nat} (declares : area.DeclaresPoint x y) :
    ¬ area.IsUnsupported := by
  rcases declares with ⟨_, ecc, declares⟩
  simp only [IsUnsupported, ecc, declares.curve_eq, ne_eq, not_true_eq_false, not_false_eq_true]

/-! ## How rebuilding ends -/

/-- The ends that rebuilding may come to. -/
inductive Verdict (area : PublicArea) : Except Error PublicKey → Prop where
  | rsa {key : Rsa.PublicKey} (declares : area.DeclaresRsa key.modulus key.exponent) :
    Verdict area (.ok (.rsa key))
  | point {point : P256.Point} (declares : area.DeclaresPoint point.x point.y) :
    Verdict area (.ok (.p256 point))
  | unsupported {algorithm : String} (unsupported : area.IsUnsupported) :
    Verdict area (.error (.unsupportedAlgorithm algorithm))
  | malformed {reason : String} (supported : ¬ area.IsUnsupported)
      (not_rsa : ∀ modulus exponent, ¬ area.DeclaresRsa modulus exponent)
      (not_point : ∀ x y, ¬ area.DeclaresPoint x y) :
    Verdict area (.error (malformed reason))

/-- Parameters whose size is right declare a key exactly if the key can be made. -/
theorem declares_iff_of_bitLength_eq {parameters : RsaParameters} {key : Rsa.PublicKey}
    (sized : bitLength (Bytes.toNat parameters.modulus) = parameters.keyBits) :
    parameters.Declares key.modulus key.exponent ↔
      Rsa.PublicKey.ofParts? (Bytes.toNat parameters.modulus) parameters.effectiveExponent =
        .ok key := by
  rw [Rsa.PublicKey.ofParts?_eq_ok_iff]
  constructor
  · intro declares
    exact ⟨declares.toNat_modulus.symm, declares.effectiveExponent_eq.symm⟩
  · rintro ⟨modulus, exponent⟩
    rw [← modulus] at sized
    have admissible := key.admissible
    exact ⟨modulus.symm, sized, sized ▸ key.bits_le, admissible.modulus_odd, exponent.symm,
      admissible.exponent_odd, admissible.three_le_exponent, admissible.exponent_lt_modulus⟩

/-- A key that is declared can be made: an exponent of thirty-two bits is never too large. -/
theorem exists_key_of_declares {parameters : RsaParameters} {modulus exponent : Nat}
    (word : parameters.exponent < 2 ^ 32) (declares : parameters.Declares modulus exponent) :
    ∃ key : Rsa.PublicKey, key.modulus = modulus ∧ key.exponent = exponent := by
  have exponent_le : exponent ≤ Rsa.maxExponent := by
    rw [← declares.effectiveExponent_eq, RsaParameters.effectiveExponent,
      RsaParameters.resolveExponent]
    split
    · decide
    · exact word.le.trans (by decide)
  have bits_le : bitLength modulus ≤ Rsa.maxModulusBits := by
    rw [declares.bitLength_eq]
    exact declares.keyBits_le
  exact ⟨⟨modulus, exponent, ⟨declares.modulus_odd, declares.exponent_odd,
    declares.three_le_exponent, declares.exponent_lt_modulus, exponent_le⟩, bits_le⟩, rfl, rfl⟩

theorem verdict_of_rsa {parameters : RsaParameters} (rsa : area.parameters = .rsa parameters)
    (word : parameters.exponent < 2 ^ 32) : area.Verdict area.publicKey := by
  have supported : ¬ area.IsUnsupported := by
    simp only [IsUnsupported, rsa, not_false_eq_true]
  have not_point : ∀ x y, ¬ area.DeclaresPoint x y := by
    rintro x y ⟨_, ecc, -⟩
    cases rsa.symm.trans ecc
  by_cases sized : bitLength (Bytes.toNat parameters.modulus) = parameters.keyBits
  · have rebuilt : area.publicKey = rsaKey parameters := by
      simp only [publicKey, rsa, checkSize, if_pos sized]
      rfl
    rw [rebuilt, rsaKey]
    cases made : Rsa.PublicKey.ofParts? (Bytes.toNat parameters.modulus)
        parameters.effectiveExponent with
    | ok key => exact .rsa ⟨parameters, rsa, (declares_iff_of_bitLength_eq sized).2 made⟩
    | error fault =>
      refine .malformed supported ?_ not_point
      rintro modulus exponent ⟨_, same, declares⟩
      cases rsa.symm.trans same
      rcases exists_key_of_declares word declares with ⟨key, rfl, rfl⟩
      cases made.symm.trans ((declares_iff_of_bitLength_eq sized).1 declares)
  · have refused : ∃ reason, area.publicKey = .error (malformed reason) := by
      simp only [publicKey, rsa, checkSize, if_neg sized]
      exact ⟨_, rfl⟩
    rcases refused with ⟨reason, refused⟩
    rw [refused]
    refine .malformed supported ?_ not_point
    rintro modulus exponent ⟨_, same, declares⟩
    cases rsa.symm.trans same
    exact sized (declares.toNat_modulus ▸ declares.bitLength_eq)

theorem verdict_of_p256 {x y : Bytes} (ecc : area.parameters = .ecc ⟨.nistP256, x, y⟩) :
    area.Verdict area.publicKey := by
  have supported : ¬ area.IsUnsupported := by
    simp only [IsUnsupported, ecc, ne_eq, not_true_eq_false, not_false_eq_true]
  have not_rsa : ∀ modulus exponent, ¬ area.DeclaresRsa modulus exponent := by
    rintro modulus exponent ⟨_, rsa, -⟩
    cases ecc.symm.trans rsa
  have rebuilt : area.publicKey = p256Key ⟨.nistP256, x, y⟩ := by
    simp only [publicKey, ecc, if_true]
  rw [rebuilt]
  by_cases short : x.length ≤ 32 ∧ y.length ≤ 32
  · rw [p256Key_of_length_le short.1 short.2]
    cases found : P256.Point.ofCoordinates? (Bytes.toNat x) (Bytes.toNat y) with
    | some point =>
      rcases P256.Point.ofCoordinates?_eq_some_iff.1 found with ⟨sameX, sameY⟩
      rcases P256.onCurve_iff.1 point.onCurve with ⟨x_lt, y_lt, equation⟩
      exact .point ⟨_, ecc, rfl, short.1, short.2, sameX.symm, sameY.symm, x_lt, y_lt, equation⟩
    | none =>
      refine .malformed supported not_rsa ?_
      rintro x y ⟨_, same, declares⟩
      cases ecc.symm.trans same
      have onCurve : P256.OnCurve x y :=
        P256.onCurve_iff.2 ⟨declares.x_lt, declares.y_lt, declares.equation⟩
      cases found.symm.trans (P256.Point.ofCoordinates?_eq_some_iff.2
        ⟨declares.toNat_x.symm, declares.toNat_y.symm⟩ : _ = some ⟨x, y, onCurve⟩)
  · rw [p256Key_of_lt_length (by omega)]
    refine .malformed supported not_rsa ?_
    rintro x y ⟨_, same, declares⟩
    cases ecc.symm.trans same
    exact short ⟨declares.length_x_le, declares.length_y_le⟩

/-- Rebuilding comes to one of the four ends. -/
theorem verdict (word : area.HasExponentWord) : area.Verdict area.publicKey := by
  cases family : area.parameters with
  | rsa parameters => exact verdict_of_rsa family (word parameters family)
  | ecc parameters =>
    by_cases curve : parameters.curve = .nistP256
    · rcases parameters with ⟨_, x, y⟩
      subst curve
      exact verdict_of_p256 family
    · simp only [publicKey, family, if_neg curve]
      refine .unsupported ?_
      simpa only [IsUnsupported, family] using curve
  | keyedHash | symCipher =>
    simp only [publicKey, family]
    refine .unsupported ?_
    simp only [IsUnsupported, family]

/-! ## Zero bytes in front -/

/-- The area with zero bytes in front of the numbers in it: as many in front of the modulus or the
first coordinate as the first count says, and of the second coordinate as the second. -/
def padded (first second : Nat) (area : PublicArea) : PublicArea where
  nameHash := area.nameHash
  attributes := area.attributes
  parameters :=
    match area.parameters with
    | .rsa ⟨keyBits, exponent, modulus⟩ =>
      .rsa ⟨keyBits, exponent, List.replicate first 0 ++ modulus⟩
    | .ecc ⟨curve, x, y⟩ =>
      .ecc ⟨curve, List.replicate first 0 ++ x, List.replicate second 0 ++ y⟩
    | other => other

/-- No coordinate of a point on P-256 outgrows the curve by the zero bytes in front of it. -/
def LeavesRoom (area : PublicArea) (first second : Nat) : Prop :=
  ∀ parameters, area.parameters = .ecc parameters → parameters.curve = .nistP256 →
    (first = 0 ∨ first + parameters.x.length ≤ 32) ∧
      (second = 0 ∨ second + parameters.y.length ≤ 32)

theorem publicKey_padded {first second : Nat} (room : area.LeavesRoom first second) :
    (area.padded first second).publicKey = area.publicKey := by
  rcases area with ⟨nameHash, attributes, ⟨keyBits, exponent, modulus⟩ | ⟨curve, x, y⟩ | _ | _⟩
  case rsa =>
    simp only [padded, publicKey, checkSize, rsaKey, RsaParameters.effectiveExponent,
      Bytes.toNat_zeros_append]
  case ecc =>
    simp only [padded, publicKey]
    by_cases p256 : curve = .nistP256
    · subst p256
      have room : (first = 0 ∨ first + x.length ≤ 32) ∧ (second = 0 ∨ second + y.length ≤ 32) :=
        room ⟨.nistP256, x, y⟩ rfl rfl
      have length_x : (List.replicate first 0 ++ x : Bytes).length = first + x.length := by
        rw [List.length_append, List.length_replicate]
      have length_y : (List.replicate second 0 ++ y : Bytes).length = second + y.length := by
        rw [List.length_append, List.length_replicate]
      rw [if_pos rfl, if_pos rfl]
      by_cases short : x.length ≤ 32 ∧ y.length ≤ 32
      · rw [p256Key_of_length_le (by omega) (by omega), p256Key_of_length_le short.1 short.2,
          Bytes.toNat_zeros_append, Bytes.toNat_zeros_append]
      · rw [p256Key_of_lt_length (by omega), p256Key_of_lt_length (by omega)]
    · simp only [if_neg p256]
  case keyedHash | symCipher => rfl

/-- A public key is rebuilt from exactly the areas that declare one.

An RSA key with modulus `n` and exponent `e` comes of an area exactly if the area declares it: `n` is
odd and has exactly the declared number of bits, which is at most 4096, and `e` is odd, at least
three and below `n`. A point comes of an area exactly if that is one of P-256, its coordinates have
at most 32 bytes, are below the prime of the field and lie on the curve. Exactly the other curves and
the other families are unsupported, and all that remains is a malformed response. Zero bytes in
front of the modulus, or of a coordinate as far as there is room, change nothing. -/
theorem rebuild_exact (area : PublicArea) (word : area.HasExponentWord) :
    (∀ modulus exponent,
      (∃ key : Rsa.PublicKey, area.publicKey = .ok (.rsa key) ∧
        key.modulus = modulus ∧ key.exponent = exponent) ↔ area.DeclaresRsa modulus exponent) ∧
    (∀ x y,
      (∃ point : P256.Point, area.publicKey = .ok (.p256 point) ∧ point.x = x ∧ point.y = y) ↔
        area.DeclaresPoint x y) ∧
    ((∃ algorithm, area.publicKey = .error (.unsupportedAlgorithm algorithm)) ↔
      area.IsUnsupported) ∧
    ((∃ reason, area.publicKey = .error (.module (.malformedResponse reason))) ↔
      ¬ area.IsUnsupported ∧ (∀ modulus exponent, ¬ area.DeclaresRsa modulus exponent) ∧
        ∀ x y, ¬ area.DeclaresPoint x y) ∧
    (∀ first second, area.LeavesRoom first second →
      (area.padded first second).publicKey = area.publicKey) := by
  refine ⟨?_, ?_, ?_, ?_, fun first second => publicKey_padded⟩
  all_goals
    have verdict := verdict word
    generalize area.publicKey = rebuilt at verdict
  · intro modulus exponent
    constructor
    · rintro ⟨key, rfl, rfl, rfl⟩
      cases verdict with
      | rsa declares => exact declares
    · intro declares
      cases verdict with
      | @rsa key found =>
        rcases found.unique declares with ⟨sameModulus, sameExponent⟩
        exact ⟨key, rfl, sameModulus, sameExponent⟩
      | point found => exact absurd found (declares.not_declaresPoint _ _)
      | unsupported unsupported => exact absurd unsupported declares.not_isUnsupported
      | malformed supported not_rsa not_point => exact absurd declares (not_rsa _ _)
  · intro x y
    constructor
    · rintro ⟨point, rfl, rfl, rfl⟩
      cases verdict with
      | point declares => exact declares
    · intro declares
      cases verdict with
      | rsa found => exact absurd declares (found.not_declaresPoint _ _)
      | @point point found =>
        rcases found.unique declares with ⟨sameX, sameY⟩
        exact ⟨point, rfl, sameX, sameY⟩
      | unsupported unsupported => exact absurd unsupported declares.not_isUnsupported
      | malformed supported not_rsa not_point => exact absurd declares (not_point _ _)
  · constructor
    · rintro ⟨algorithm, rfl⟩
      cases verdict with
      | unsupported unsupported => exact unsupported
    · intro unsupported
      cases verdict with
      | rsa found => exact absurd unsupported found.not_isUnsupported
      | point found => exact absurd unsupported found.not_isUnsupported
      | unsupported => exact ⟨_, rfl⟩
      | malformed supported => exact absurd unsupported supported
  · constructor
    · rintro ⟨reason, rfl⟩
      cases verdict with
      | malformed supported not_rsa not_point => exact ⟨supported, not_rsa, not_point⟩
    · rintro ⟨supported, not_rsa, not_point⟩
      cases verdict with
      | rsa found => exact absurd found (not_rsa _ _)
      | point found => exact absurd found (not_point _ _)
      | unsupported unsupported => exact absurd unsupported supported
      | malformed => exact ⟨_, rfl⟩

/-- A modulus of 17 bits behind a zero byte is declared with the usual exponent, written as zero. -/
theorem rebuild_exact_shortModulus :
    let area : PublicArea := ⟨.sha256, .signingKey, .rsa ⟨17, 0, [0, 1, 255, 255]⟩⟩
    area.HasExponentWord ∧
    ∃ key : Rsa.PublicKey, area.publicKey = .ok (.rsa key) ∧
      key.modulus = 131071 ∧ key.exponent = 65537 := by
  intro area
  have word : area.HasExponentWord := by
    rintro parameters rsa
    cases rsa
    decide
  have declares : area.DeclaresRsa 131071 65537 :=
    ⟨_, rfl, by decide, by decide +kernel, by decide, by decide, rfl, by decide, by decide,
      by decide⟩
  exact ⟨word, ((rebuild_exact area word).1 131071 65537).2 declares⟩

end PublicArea

end SealedKeys
