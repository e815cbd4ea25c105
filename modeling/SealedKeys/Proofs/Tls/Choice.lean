import SealedKeys.Proofs.Tls.Commitment

/-!
Which scheme a TLS key chooses.

A scheme can be used if a peer offers it and the credential accepts, for the size of the key, what
the signer for the scheme tells it. That is the salt check of the credential, while the key makes
one of its own; the two agree for every size (`supports_iff`). The choice is then the best of the
schemes that can be used. Whatever only adds to these, a longer offer or a larger modulus, never
leads to a worse choice.
-/

namespace SealedKeys

namespace Tls

namespace SignatureScheme

/-- The place of a scheme in the order of preference, the best one first. -/
def place : SignatureScheme → Nat
  | .pssSha512 => 0
  | .pssSha384 => 1
  | .pssSha256 => 2
  | .pkcs1Sha512 => 3
  | .pkcs1Sha384 => 4
  | .pkcs1Sha256 => 5

theorem getElem?_preferred (scheme : SignatureScheme) :
    preferred[scheme.place]? = some scheme := by
  cases scheme <;> rfl

theorem mem_preferred (scheme : SignatureScheme) : scheme ∈ preferred :=
  List.mem_of_getElem? scheme.getElem?_preferred

theorem eq_of_place_eq {first second : SignatureScheme} (same : first.place = second.place) :
    first = second := by
  have found := first.getElem?_preferred
  rw [same, second.getElem?_preferred] at found
  exact (Option.some.inj found).symm

theorem pairwise_preferred :
    preferred.Pairwise fun better worse => better.place < worse.place := by
  decide

/-- No scheme better than the first one with a property has the property. -/
theorem not_of_find?_preferred {property : SignatureScheme → Bool}
    {scheme better : SignatureScheme} (found : preferred.find? property = some scheme)
    (less : better.place < scheme.place) : ¬ property better = true := by
  rcases List.find?_eq_some_iff_append.1 found with ⟨-, front, back, split, passed⟩
  have sorted := pairwise_preferred
  have member := better.mem_preferred
  rw [split] at sorted member
  rcases List.mem_append.1 member with inFront | inRest
  · simpa using passed better inFront
  · -- The schemes from the found one on are not better than it.
    have later := (List.pairwise_cons.1 (List.pairwise_append.1 sorted).2.1).1
    rcases List.mem_cons.1 inRest with rfl | inBack
    · exact absurd less (Nat.lt_irrefl _)
    · exact absurd less (Nat.lt_asymm (later better inBack))

end SignatureScheme

section

variable {keyBits larger : Nat} {offered others : List Nat} {scheme : SignatureScheme}

/-- A scheme can be used: it is offered, and a credential with a key of this size does not refuse
what the signer tells it. -/
def Usable (keyBits : Nat) (offered : List Nat) (scheme : SignatureScheme) : Prop :=
  scheme.code ∈ offered ∧
    ∃ moduleScheme, selectScheme scheme.options keyBits = .ok moduleScheme

/-- The key's own check of the salt and that of the credential come to the same. -/
theorem supports_iff :
    SigningKey.supports keyBits scheme = true ↔
      ∃ moduleScheme, selectScheme scheme.options keyBits = .ok moduleScheme := by
  constructor
  · exact fun supported => ⟨_, selectScheme_options supported⟩
  · rintro ⟨moduleScheme, accepted⟩
    cases padding : scheme.padding with
    | pkcs1 => simp only [SigningKey.supports, padding]
    | pss =>
      simp only [SignatureScheme.options, padding, selectScheme_pss, SaltLength.requested?]
        at accepted
      split at accepted
      · rename_i salted
        simp only [SigningKey.supports, padding, salted, beq_self_eq_true]
      · cases accepted

theorem usable_iff :
    Usable keyBits offered scheme ↔
      (offered.contains scheme.code && SigningKey.supports keyBits scheme) = true := by
  rw [Bool.and_eq_true, List.contains_iff_mem, supports_iff, Usable]

/-- A larger modulus refuses no scheme that a smaller one accepts. -/
theorem Usable.of_le (usable : Usable keyBits offered scheme) (le : keyBits ≤ larger) :
    Usable larger offered scheme := by
  refine ⟨usable.1, supports_iff.1 ?_⟩
  have supported := supports_iff.2 usable.2
  cases padding : scheme.padding with
  | pkcs1 => simp only [SigningKey.supports, padding]
  | pss =>
    have room := (Scheme.saltLength?_eq_size_iff scheme.hash keyBits).1
      (saltLength?_of_supports supported padding)
    have salted := (Scheme.saltLength?_eq_size_iff scheme.hash larger).2
      (room.trans (by unfold Scheme.encodedLength; omega))
    simp only [SigningKey.supports, padding, salted, beq_self_eq_true]

theorem choose?_eq_none_iff :
    SigningKey.choose? keyBits offered = none ↔ ∀ scheme, ¬ Usable keyBits offered scheme := by
  rw [SigningKey.choose?, List.find?_eq_none]
  simp only [← usable_iff]
  exact ⟨fun unusable scheme => unusable scheme scheme.mem_preferred,
    fun unusable scheme _ => unusable scheme⟩

/-- The choice is the best scheme that can be used. -/
theorem choose?_eq_some_iff :
    SigningKey.choose? keyBits offered = some scheme ↔
      Usable keyBits offered scheme ∧
        ∀ better, better.place < scheme.place → ¬ Usable keyBits offered better := by
  have isBest : ∀ found, SigningKey.choose? keyBits offered = some found →
      Usable keyBits offered found ∧
        ∀ better, better.place < found.place → ¬ Usable keyBits offered better := by
    intro found chosen
    have ⟨member, supported⟩ := supports_of_choose? chosen
    refine ⟨⟨member, supports_iff.1 supported⟩, fun better less usable => ?_⟩
    exact SignatureScheme.not_of_find?_preferred chosen less (usable_iff.1 usable)
  constructor
  · exact isBest scheme
  · rintro ⟨usable, best⟩
    cases chosen : SigningKey.choose? keyBits offered with
    | none => exact absurd usable (choose?_eq_none_iff.1 chosen scheme)
    | some found =>
      rcases isBest found chosen with ⟨alsoUsable, alsoBest⟩
      have ge := Nat.le_of_not_lt fun less => best found less alsoUsable
      have le := Nat.le_of_not_lt fun less => alsoBest scheme less usable
      rw [SignatureScheme.eq_of_place_eq (Nat.le_antisymm le ge)]

/-- If all that can be used still can, the choice is the same or a better one. -/
theorem exists_choose?_of_usable
    (kept : ∀ scheme, Usable keyBits offered scheme → Usable larger others scheme)
    (chosen : SigningKey.choose? keyBits offered = some scheme) :
    ∃ better, SigningKey.choose? larger others = some better ∧ better.place ≤ scheme.place := by
  have usable := kept scheme (choose?_eq_some_iff.1 chosen).1
  cases found : SigningKey.choose? larger others with
  | none => exact absurd usable (choose?_eq_none_iff.1 found scheme)
  | some better =>
    refine ⟨better, rfl, Nat.le_of_not_lt fun less => ?_⟩
    exact (choose?_eq_some_iff.1 found).2 scheme less usable

end

theorem signer?_eq_some_iff {State : Type} {key : SigningKey State} {offered : List Nat}
    {credential : SigningCredential State} {scheme : SignatureScheme} :
    key.signer? offered = some ⟨credential, scheme⟩ ↔
      credential = key.credential ∧ SigningKey.choose? key.keyBits offered = some scheme := by
  rw [SigningKey.signer?, Option.map_eq_some_iff]
  constructor
  · rintro ⟨found, chosen, same⟩
    cases same
    exact ⟨rfl, chosen⟩
  · rintro ⟨rfl, chosen⟩
    exact ⟨scheme, chosen, rfl⟩

/-- What a TLS key chooses, whatever its size and whatever is offered.

It chooses the best scheme that is offered and whose options its credential accepts, and has no
signer exactly if there is none; the signer passes these very options to the credential. Of the
offer only the known code points in it count, not their order or how often they are there. Neither
a longer offer nor a larger modulus ever makes the choice worse. -/
theorem choice_exact {State : Type} (key : SigningKey State) (offered : List Nat) :
    (∀ signer, key.signer? offered = some signer ↔
      signer.credential = key.credential ∧ Usable key.keyBits offered signer.scheme ∧
        ∀ better, better.place < signer.scheme.place → ¬ Usable key.keyBits offered better) ∧
    (∀ signer, key.signer? offered = some signer → ∀ draws message state,
      (signer.sign draws message).run state =
        ((key.credential.sign draws (signer.scheme.hash.digest message)
          signer.scheme.options).mapError
            fun cause => .general ("module signing failed: " ++ cause.message)).run state) ∧
    (key.signer? offered = none ↔ ∀ scheme, ¬ Usable key.keyBits offered scheme) ∧
    (∀ others : List Nat,
      (∀ scheme : SignatureScheme, scheme.code ∈ others ↔ scheme.code ∈ offered) →
        key.signer? others = key.signer? offered) ∧
    (∀ (others : List Nat) signer, offered ⊆ others → key.signer? offered = some signer →
      ∃ better, key.signer? others = some better ∧
        better.scheme.place ≤ signer.scheme.place) ∧
    (∀ larger signer, key.keyBits ≤ larger → key.signer? offered = some signer →
      ∃ better, SigningKey.signer? ⟨key.credential, larger⟩ offered = some better ∧
        better.scheme.place ≤ signer.scheme.place) := by
  refine ⟨?_, ?_, ?_, ?_, ?_, ?_⟩
  · rintro ⟨credential, scheme⟩
    rw [signer?_eq_some_iff, choose?_eq_some_iff]
  · rintro ⟨credential, scheme⟩ met draws message state
    rcases signer?_eq_some_iff.1 met with ⟨rfl, -⟩
    rfl
  · rw [SigningKey.signer?, Option.map_eq_none_iff]
    exact choose?_eq_none_iff
  · intro others same
    have alike : ∀ scheme : SignatureScheme, others.contains scheme.code =
        offered.contains scheme.code := by
      intro scheme
      rw [Bool.eq_iff_iff, List.contains_iff_mem, List.contains_iff_mem]
      exact same scheme
    simp only [SigningKey.signer?, SigningKey.choose?, alike]
  · rintro others ⟨credential, scheme⟩ more met
    rcases signer?_eq_some_iff.1 met with ⟨-, chosen⟩
    have kept : ∀ scheme, Usable key.keyBits offered scheme → Usable key.keyBits others scheme :=
      fun scheme usable => ⟨more usable.1, usable.2⟩
    rcases exists_choose?_of_usable kept chosen with ⟨better, found, le⟩
    exact ⟨⟨key.credential, better⟩, signer?_eq_some_iff.2 ⟨rfl, found⟩, le⟩
  · rintro larger ⟨credential, scheme⟩ more met
    rcases signer?_eq_some_iff.1 met with ⟨-, chosen⟩
    rcases exists_choose?_of_usable (fun scheme usable => usable.of_le more) chosen with
      ⟨better, found, le⟩
    exact ⟨⟨key.credential, better⟩, signer?_eq_some_iff.2 ⟨rfl, found⟩, le⟩

-- A key of 1024 bits has no room for a salt of SHA-512, so the second best scheme is chosen.
example : SigningKey.choose? 1024 [0x0401, 0x0805, 0x0806] = some .pssSha384 := by
  decide

end Tls

end SealedKeys
