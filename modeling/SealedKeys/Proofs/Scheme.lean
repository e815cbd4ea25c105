import SealedKeys.Proofs.Credential
import SealedKeys.Proofs.SoftwareModule.Completeness

/-!
The length of a PSS salt, for keys of any size.

Next to the digest an encoding holds two bytes that are always there and the salt, which is never
longer than the digest. The salt is the longest for which there is room, so a larger key never has
a shorter one. The rule changes at two sizes: with a digest of `h` bytes there is no salt, not even
an empty one, up to `8 h + 9` bits, and from `16 h + 10` bits on the salt is as long as the digest.

A module works this out in machine words, where a sum may be too large and a difference must not be
negative. `Scheme.saltLengthInWords?` is the computation step by step. Whatever the greatest word
is, as long as a digest fits, no step leaves the words (`saltLengthInWords?_eq`).
-/

namespace SealedKeys

/-! ## Numbers up to a greatest word -/

namespace MachineWord

variable (greatest : Nat)

/-- The sum of two words, if it is a word. -/
def add? (left right : Nat) : Option Nat :=
  if left + right ≤ greatest then some (left + right) else none

/-- The difference of two words, if it is not negative. -/
def sub? (left right : Nat) : Option Nat :=
  if right ≤ left then some (left - right) else none

/-- The number of bytes that hold this many bits: one more than the quotient if bits are left
over. -/
def bytesFor? (bits : Nat) : Option Nat :=
  if bits % 8 = 0 then some (bits / 8) else add? greatest (bits / 8) 1

variable {greatest} {left right bits : Nat}

theorem add?_eq_some (fits : left + right ≤ greatest) :
    add? greatest left right = some (left + right) :=
  if_pos fits

theorem sub?_eq_some (le : right ≤ left) : sub? left right = some (left - right) :=
  if_pos le

theorem bytesFor?_eq_some (isWord : bits ≤ greatest) :
    bytesFor? greatest bits = some ((bits + 7) / 8) := by
  unfold bytesFor?
  split
  · congr 1
    omega
  · rw [add?_eq_some (by omega)]
    congr 1
    omega

end MachineWord

namespace Scheme

/-- The length of the salt, worked out in machine words up to a greatest one: the outer option is
none if a step leaves the words. Taking one bit off a modulus of no bits leaves none. -/
def saltLengthInWords? (greatest : Nat) (scheme : Scheme) (modulusBits : Nat) :
    Option (Option Nat) :=
  match scheme.padding with
  | .pkcs1 => some none
  | .pss => do
    let encoded ← MachineWord.bytesFor? greatest (modulusBits - 1)
    let least ← MachineWord.add? greatest scheme.hash.size 2
    if encoded < least then return none
    let behindDigest ← MachineWord.sub? encoded scheme.hash.size
    let room ← MachineWord.sub? behindDigest 2
    return some (if room < scheme.hash.size then room else scheme.hash.size)

theorem saltLengthInWords?_eq {greatest modulusBits : Nat} {scheme : Scheme}
    (digestFits : scheme.hash.size + 2 ≤ greatest) (isWord : modulusBits ≤ greatest) :
    saltLengthInWords? greatest scheme modulusBits = some (scheme.saltLength? modulusBits) := by
  rcases scheme with ⟨padding, hash⟩
  cases padding with
  | pkcs1 => rfl
  | pss =>
    have encoded : MachineWord.bytesFor? greatest (modulusBits - 1) =
        some (encodedLength modulusBits) :=
      MachineWord.bytesFor?_eq_some ((Nat.sub_le _ _).trans isWord)
    have least := MachineWord.add?_eq_some digestFits
    simp only [saltLengthInWords?, saltLength?, encoded, least, Option.bind_eq_bind,
      Option.bind_some]
    split
    · rfl
    · rename_i room
      have behindDigest : MachineWord.sub? (encodedLength modulusBits) hash.size = _ :=
        MachineWord.sub?_eq_some (by omega)
      have rest : MachineWord.sub? (encodedLength modulusBits - hash.size) 2 = _ :=
        MachineWord.sub?_eq_some (by omega)
      simp only [behindDigest, rest, Option.bind_some]
      congr 2
      split <;> omega

/-! ## The longest salt with room beside the digest -/

/-- A salt is not longer than the digest, and an encoding, which has one bit less than the modulus,
has room for both and two bytes more. -/
def SaltFits (hash : ModuleHash) (modulusBits salt : Nat) : Prop :=
  salt ≤ hash.size ∧ hash.size + salt + 2 ≤ (modulusBits - 1) ⌈/⌉ 8

variable {hash : ModuleHash} {modulusBits : Nat}

theorem encodedLength_eq (modulusBits : Nat) :
    encodedLength modulusBits = (modulusBits - 1) ⌈/⌉ 8 := by
  rw [Nat.ceilDiv_eq_add_pred_div, encodedLength, Nat.add_sub_assoc (by decide)]

theorem saltLength?_eq_some_iff {salt : Nat} :
    saltLength? ⟨.pss, hash⟩ modulusBits = some salt ↔
      IsGreatest {length | SaltFits hash modulusBits length} salt := by
  simp only [SaltFits, ← encodedLength_eq]
  constructor
  · intro chosen
    simp only [saltLength?] at chosen
    split at chosen
    · cases chosen
    · rename_i room
      rw [Option.some.injEq] at chosen
      constructor
      · constructor <;> omega
      · rintro length ⟨short, fits⟩
        omega
  · rintro ⟨⟨short, fits⟩, longest⟩
    have whole : min (encodedLength modulusBits - hash.size - 2) hash.size ≤ salt := by
      apply longest
      constructor <;> omega
    simp only [saltLength?]
    rw [if_neg (by omega), Option.some.injEq]
    omega

/-- Up to this size not even an empty salt has room. -/
theorem saltLength?_eq_none_iff_le :
    saltLength? ⟨.pss, hash⟩ modulusBits = none ↔ modulusBits ≤ 8 * hash.size + 9 := by
  rw [saltLength?_eq_none_iff]
  simp only [Fits]
  omega

theorem saltLength?_eq_size_iff_le :
    saltLength? ⟨.pss, hash⟩ modulusBits = some hash.size ↔ 16 * hash.size + 10 ≤ modulusBits := by
  rw [saltLength?_eq_size_iff, encodedLength]
  omega

/-- What fits a modulus fits a larger one. -/
theorem SaltFits.mono {salt more : Nat} (fits : SaltFits hash modulusBits salt)
    (larger : modulusBits ≤ more) : SaltFits hash more salt := by
  refine ⟨fits.1, fits.2.trans ?_⟩
  rw [← encodedLength_eq, ← encodedLength_eq, encodedLength, encodedLength]
  omega

theorem saltLength?_mono {salt more : Nat}
    (chosen : saltLength? ⟨.pss, hash⟩ modulusBits = some salt) (larger : modulusBits ≤ more) :
    ∃ longer, saltLength? ⟨.pss, hash⟩ more = some longer ∧ salt ≤ longer := by
  have fits := (saltLength?_eq_some_iff.1 chosen).1.mono larger
  cases later : saltLength? ⟨.pss, hash⟩ more with
  | none =>
    have tight := saltLength?_eq_none_iff_le.1 later
    have small := saltLength?_eq_none_iff_le.2 (larger.trans tight)
    rw [small] at chosen
    cases chosen
  | some longer => exact ⟨longer, rfl, (saltLength?_eq_some_iff.1 later).2 fits⟩

end Scheme

/-! ## Which lengths a caller may insist on -/

/-- Options for PSS are accepted. -/
def AcceptsSalt (algorithm : HashAlgorithm) (saltLength : SaltLength) (modulusBits : Nat) : Prop :=
  ∃ scheme, selectScheme (.pss ⟨algorithm, saltLength⟩) modulusBits = .ok scheme

theorem acceptsSalt_iff {hash : ModuleHash} {saltLength : SaltLength} {modulusBits requested : Nat}
    (asked : saltLength.requested? hash.size = some requested) :
    AcceptsSalt hash.algorithm saltLength modulusBits ↔
      Scheme.saltLength? ⟨.pss, hash⟩ modulusBits = some requested := by
  have selected := selectScheme_pss hash saltLength modulusBits
  simp only [asked] at selected
  rw [AcceptsSalt, selected]
  split
  · rename_i chosen
    exact ⟨fun _ => chosen, fun _ => ⟨_, rfl⟩⟩
  · rename_i differs
    constructor
    · rintro ⟨scheme, accepted⟩
      cases accepted
    · intro chosen
      exact absurd chosen differs

theorem not_acceptsSalt_of_unknown {algorithm : HashAlgorithm}
    (unknown : ModuleHash.ofAlgorithm? algorithm = none) (saltLength : SaltLength)
    (modulusBits : Nat) : ¬ AcceptsSalt algorithm saltLength modulusBits := by
  rintro ⟨scheme, accepted⟩
  simp only [selectScheme, SignOptions.algorithm, unknown] at accepted
  cases accepted

/-- The length of a salt for a modulus of any number of bits, none included.

There is none exactly if digest and marks already fill the encoding, and otherwise it is the
greatest that fits; from `16 h + 10` bits on it is that of the digest. Working it out does not leave
the machine words, if these hold the modulus and go up to 66 at least. A larger modulus never loses
the salt, nor gets a shorter one. So of all lengths that a caller may insist on in bytes one is
accepted, or none if there is no salt, and a salt as long as the digest is accepted from the same
size on; for a hash that a module does not sign with, nothing is. -/
theorem longestSalt_exact (hash : ModuleHash) (modulusBits : Nat) :
    (Scheme.saltLength? ⟨.pss, hash⟩ modulusBits = none ↔
      (modulusBits - 1) ⌈/⌉ 8 < hash.size + 2) ∧
    ((modulusBits - 1) ⌈/⌉ 8 < hash.size + 2 ↔ modulusBits ≤ 8 * hash.size + 9) ∧
    (∀ salt, Scheme.saltLength? ⟨.pss, hash⟩ modulusBits = some salt ↔
      IsGreatest {length | Scheme.SaltFits hash modulusBits length} salt) ∧
    (Scheme.saltLength? ⟨.pss, hash⟩ modulusBits = some hash.size ↔
      16 * hash.size + 10 ≤ modulusBits) ∧
    (∀ greatest, 66 ≤ greatest → modulusBits ≤ greatest →
      Scheme.saltLengthInWords? greatest ⟨.pss, hash⟩ modulusBits =
        some (Scheme.saltLength? ⟨.pss, hash⟩ modulusBits)) ∧
    (∀ more salt, modulusBits ≤ more →
      Scheme.saltLength? ⟨.pss, hash⟩ modulusBits = some salt →
      ∃ longer, Scheme.saltLength? ⟨.pss, hash⟩ more = some longer ∧ salt ≤ longer) ∧
    (if modulusBits ≤ 8 * hash.size + 9 then
      ∀ count, ¬ AcceptsSalt hash.algorithm (.bytes count) modulusBits
    else ∃! count, AcceptsSalt hash.algorithm (.bytes count) modulusBits) ∧
    (AcceptsSalt hash.algorithm .equalsHash modulusBits ↔ 16 * hash.size + 10 ≤ modulusBits) ∧
    (∀ algorithm saltLength, ModuleHash.ofAlgorithm? algorithm = none →
      ¬ AcceptsSalt algorithm saltLength modulusBits) := by
  have byBytes (count : Nat) : AcceptsSalt hash.algorithm (.bytes count) modulusBits ↔
      Scheme.saltLength? ⟨.pss, hash⟩ modulusBits = some count := acceptsSalt_iff rfl
  have bySize : AcceptsSalt hash.algorithm .equalsHash modulusBits ↔
      Scheme.saltLength? ⟨.pss, hash⟩ modulusBits = some hash.size := acceptsSalt_iff rfl
  have tight : (modulusBits - 1) ⌈/⌉ 8 < hash.size + 2 ↔ modulusBits ≤ 8 * hash.size + 9 := by
    rw [← Scheme.encodedLength_eq, Scheme.encodedLength]
    omega
  refine ⟨Scheme.saltLength?_eq_none_iff_le.trans tight.symm, tight,
    fun salt => Scheme.saltLength?_eq_some_iff, Scheme.saltLength?_eq_size_iff_le, ?_,
    fun more salt larger chosen => Scheme.saltLength?_mono chosen larger, ?_,
    bySize.trans Scheme.saltLength?_eq_size_iff_le,
    fun algorithm saltLength unknown => not_acceptsSalt_of_unknown unknown saltLength modulusBits⟩
  · intro greatest digestFits isWord
    have size_le : hash.size ≤ 64 := by
      cases hash <;> decide
    apply Scheme.saltLengthInWords?_eq _ isWord
    exact (Nat.add_le_add_right size_le 2).trans digestFits
  · simp only [byBytes]
    split
    · rename_i small
      rw [Scheme.saltLength?_eq_none_iff_le.2 small]
      intro count chosen
      cases chosen
    · rename_i large
      cases chosen : Scheme.saltLength? ⟨.pss, hash⟩ modulusBits with
      | none => exact absurd (Scheme.saltLength?_eq_none_iff_le.1 chosen) large
      | some salt => exact ⟨salt, rfl, fun other same => (Option.some.inj same).symm⟩

-- With 1024 bits there is room for 62 of the 64 bytes that SHA-512 would have.
example : Scheme.saltLength? ⟨.pss, .sha512⟩ 1024 = some 62 := by decide

end SealedKeys
