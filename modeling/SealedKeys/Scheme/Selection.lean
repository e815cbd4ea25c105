import SealedKeys.Error

/-!
The scheme a module is told for the options of a caller.

PSS is used when the options carry PSS parameters, PKCS#1 v1.5 otherwise. A salt length that a
caller insists on must be the one the module will use; if it is not, the options are refused
before the module is asked.
-/

namespace SealedKeys

/-- The salt length a caller insists on, for a digest of the given length. -/
def SaltLength.requested? (hashLength : Nat) : SaltLength → Option Nat
  | .auto => none
  | .equalsHash => some hashLength
  | .bytes count => some count

/-- The scheme for the given options and a key of the given number of bits.

The options are refused if the module does not know the hash, or if they insist on a salt
length other than the one the module uses for this key. -/
def selectScheme (options : SignOptions) (keyBits : Nat) : Except Error Scheme :=
  match ModuleHash.ofAlgorithm? options.algorithm with
  | none => .error (.unsupportedHash options.algorithm)
  | some hash =>
    let scheme : Scheme := ⟨options.padding, hash⟩
    match options.pss?.bind fun pss => pss.saltLength.requested? hash.size with
    | none => .ok scheme
    | some requested =>
      if scheme.saltLength? keyBits = some requested then .ok scheme
      else .error (.unsupportedSaltLength requested scheme keyBits)

end SealedKeys
