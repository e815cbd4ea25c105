import SealedKeys.Proofs.SoftwareModule.Commands

/-!
What a public area says of the key it stands beside.

`Describes` is the agreement between key material and public area. Both ways of making an object
give an area that describes the material and carries the wanted attributes (`TellsOf`); when they
fail, they blame the parameters or the generator, never an authorization value.
-/

namespace SealedKeys

namespace Rsa

namespace KeyOfSize

variable {bits exponent : Nat}

/-- The key itself. -/
def key (drawn : KeyOfSize bits exponent) : PrivateKey :=
  Subtype.val drawn

theorem exponent_key (drawn : KeyOfSize bits exponent) : drawn.key.exponent = exponent :=
  (Subtype.property drawn).2

end KeyOfSize

end Rsa

/-- The numbers of an RSA key fit the fields of a public area. -/
structure SoftwareModule.Declarable (key : Rsa.PrivateKey) : Prop where
  bits_le : key.bits ≤ maxDeclaredBits
  exponent_le : key.exponent ≤ maxDeclaredExponent

/-- The public parameters of an RSA key. The exponent is told as zero when it is the usual one,
and as itself otherwise. -/
def RsaParameters.ofKey (key : Rsa.PrivateKey) : RsaParameters where
  keyBits := key.bits
  exponent := if key.exponent = defaultExponent then 0 else key.exponent
  modulus := Bytes.minimal key.modulus

/-- A public area tells the truth about key material, and has room for it.

Of an elliptic curve key only the curve is kept, so the area may hold any point of it. -/
def PublicArea.Describes (area : PublicArea) : KeyMaterial → Prop
  | .rsa key => SoftwareModule.Declarable key ∧ area.parameters = .rsa (.ofKey key)
  | .ecc curve =>
    curve = .nistP256 ∧ ∃ point : P256.Point, area.parameters = .ecc {
      curve := .nistP256
      x := Bytes.ofNat 32 point.x
      y := Bytes.ofNat 32 point.y }
  | .keyedHash => area.parameters = .keyedHash

namespace SoftwareModule

/-- The key material that a template's algorithm comes to with given draws, if the generator
gives a key. -/
def drawnMaterial? (draws : Draws) : TemplateAlgorithm → Option KeyMaterial
  | .rsa keyBits exponent =>
    match draws.rsaKey keyBits (RsaParameters.resolveExponent exponent.toNat) with
    | .error _ => none
    | .ok drawn => some (.rsa drawn.key)
  | .ecc curve => some (.ecc curve)
  | .keyedHash => some .keyedHash

/-- Whether a failure blames what was asked for or the key generator. -/
def BlamesMaking (failure : ModuleError) : Prop :=
  ∃ reason, failure = .parameters reason ∨ failure = .commandFailed reason

/-- An answer is an area that describes the material and carries the attributes, or it blames the
making. -/
def TellsOf (material : KeyMaterial) (attributes : Attributes) :
    Except ModuleError PublicArea → Prop
  | .error failure => BlamesMaking failure
  | .ok area => area.attributes = attributes ∧ area.Describes material

/-- The area of an RSA key tells of it, if the exponent given for it fits and stands for its
own. -/
theorem rsaArea_tells {key : Rsa.PrivateKey} {exponent : Nat}
    (own : key.exponent = RsaParameters.resolveExponent exponent)
    (exponent_le : exponent ≤ maxDeclaredExponent) (nameHash : ModuleHash)
    (attributes : Attributes) :
    TellsOf (.rsa key) attributes (rsaArea key exponent nameHash attributes) := by
  unfold rsaArea
  split
  · exact ⟨_, .inl rfl⟩
  · rename_i fits
    refine ⟨rfl, ⟨Nat.le_of_not_lt fits, ?_⟩, ?_⟩
    · rw [own, RsaParameters.resolveExponent]
      split
      · decide
      · exact exponent_le
    · simp only [RsaParameters.ofKey, own, RsaParameters.resolveExponent]
      -- Zero and the usual exponent are both written as zero.
      by_cases usual : exponent = 0
      · subst usual
        rfl
      · rw [if_neg usual]

theorem externalArea_tells (key : Rsa.PrivateKey) (attributes : Attributes) :
    TellsOf (.rsa key) attributes (externalArea key attributes) := by
  unfold externalArea
  split
  · exact ⟨_, .inl rfl⟩
  · rename_i fits
    have positive : key.exponent ≠ 0 := by
      have := key.admissible.three_le_exponent
      omega
    apply rsaArea_tells _ (Nat.le_of_not_lt fits)
    rw [RsaParameters.resolveExponent, if_neg positive]

/-- A key made elsewhere has a public area if its numbers fit. -/
theorem externalArea_of_declarable {key : Rsa.PrivateKey} (fits : Declarable key)
    (attributes : Attributes) :
    externalArea key attributes = .ok ⟨.sha256, attributes, .rsa (.ofKey key)⟩ := by
  rw [externalArea, if_neg (Nat.not_lt_of_le fits.exponent_le), rsaArea,
    if_neg (Nat.not_lt_of_le fits.bits_le)]
  rfl

/-- Creating an RSA key, in the order of its checks. -/
theorem createdKey_rsa (draws : Draws) (keyBits : Nat) (exponent : UInt32)
    (nameHash : ModuleHash) (attributes : Attributes) :
    createdKey draws ⟨.rsa keyBits exponent, nameHash, attributes⟩ =
      if supportedKeyBits.contains keyBits = false then
        .error (.parameters ("unsupported RSA key size " ++ toString keyBits))
      else if (decide (3 ≤ RsaParameters.resolveExponent exponent.toNat)
          && RsaParameters.resolveExponent exponent.toNat % 2 == 1) = false then
        .error (.parameters ("invalid RSA exponent " ++ toString exponent.toNat))
      else
        match draws.rsaKey keyBits (RsaParameters.resolveExponent exponent.toNat) with
        | .error fault => .error (.commandFailed ("RSA key generation failed: " ++ fault.message))
        | .ok drawn =>
          (rsaArea drawn.key exponent.toNat nameHash attributes).map fun area =>
            (.rsa drawn.key, area) := by
  simp only [createdKey, createKey, createRsa, Action.run_ensure_bind, Action.run_log_bind]
  cases supportedKeyBits.contains keyBits with
  | false => rfl
  | true =>
    simp only [if_true, Bool.true_eq_false, if_false]
    cases decide (3 ≤ RsaParameters.resolveExponent exponent.toNat)
        && RsaParameters.resolveExponent exponent.toNat % 2 == 1 with
    | false => rfl
    | true =>
      simp only [if_true, Bool.true_eq_false, if_false]
      cases draws.rsaKey keyBits (RsaParameters.resolveExponent exponent.toNat) with
      | error fault => rfl
      | ok drawn =>
        change ((Action.ofExcept (rsaArea drawn.key exponent.toNat nameHash attributes)
            >>= fun area => pure (KeyMaterial.rsa drawn.key, area) :
              Command (KeyMaterial × PublicArea)).run (empty 0)).answer =
          (rsaArea drawn.key exponent.toNat nameHash attributes).map fun area =>
            (KeyMaterial.rsa drawn.key, area)
        rw [Action.run_ofExcept_bind]
        cases rsaArea drawn.key exponent.toNat nameHash attributes <;> rfl

/-- A key that was created is the one drawn, and its area tells of it. -/
def TellsOfCreated (draws : Draws) (template : KeyTemplate) :
    Except ModuleError (KeyMaterial × PublicArea) → Prop
  | .error failure => BlamesMaking failure
  | .ok (material, area) =>
    drawnMaterial? draws template.algorithm = some material ∧
      area.attributes = template.attributes ∧ area.Describes material

theorem createdKey_tells (draws : Draws) (template : KeyTemplate) :
    TellsOfCreated draws template (createdKey draws template) := by
  rcases template with ⟨algorithm, nameHash, attributes⟩
  cases algorithm with
  | rsa keyBits exponent =>
    rw [createdKey_rsa]
    split
    · exact ⟨_, .inl rfl⟩
    split
    · exact ⟨_, .inl rfl⟩
    cases generated : draws.rsaKey keyBits (RsaParameters.resolveExponent exponent.toNat) with
    | error fault => exact ⟨_, .inr rfl⟩
    | ok drawn =>
      have fits : exponent.toNat ≤ maxDeclaredExponent := Nat.le_of_lt_succ exponent.toNat_lt
      have tells := rsaArea_tells drawn.exponent_key fits nameHash attributes
      simp only
      cases told : rsaArea drawn.key exponent.toNat nameHash attributes with
      | error failure =>
        rw [told] at tells
        exact tells
      | ok area =>
        rw [told] at tells
        refine ⟨?_, tells⟩
        simp only [drawnMaterial?, generated]
  | ecc curve =>
    cases curve with
    | nistP256 => exact ⟨rfl, rfl, rfl, draws.point, rfl⟩
    | _ => exact ⟨_, .inl rfl⟩
  | keyedHash => exact ⟨rfl, rfl, rfl⟩

end SoftwareModule

end SealedKeys
