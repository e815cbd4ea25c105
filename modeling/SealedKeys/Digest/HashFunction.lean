import SealedKeys.Digest.Algorithm
import SealedKeys.Digest.Sha1
import SealedKeys.Digest.Sha256
import SealedKeys.Digest.Sha512

/-!
Hash functions: maps from messages to digests of one fixed length.

What is built from a hash, such as the PSS encoding, is stated for any `HashFunction`.
`ModuleHash.function` is the one a secure module's hash identifier stands for.
-/

namespace SealedKeys

/-- A map from messages to digests of one fixed length. -/
structure HashFunction where
  size : Nat
  digest : Bytes → Bytes
  size_pos : 0 < size
  length_digest : ∀ message, (digest message).length = size

/-- The function a module's hash identifier stands for. -/
def ModuleHash.function : ModuleHash → HashFunction
  | .sha1 => ⟨20, Sha1.digest, by decide, Sha1.length_digest⟩
  | .sha256 => ⟨32, Sha256.digest, by decide, Sha256.length_digest⟩
  | .sha384 => ⟨48, Sha512.digest384, by decide, Sha512.length_digest384⟩
  | .sha512 => ⟨64, Sha512.digest512, by decide, Sha512.length_digest512⟩

/-- The digest of a message under a module's hash. -/
def ModuleHash.digest (hash : ModuleHash) (message : Bytes) : Bytes :=
  hash.function.digest message

@[simp] theorem ModuleHash.size_function (hash : ModuleHash) : hash.function.size = hash.size := by
  cases hash <;> rfl

/-- Digests are as long as the module says they are. -/
@[simp] theorem ModuleHash.length_digest (hash : ModuleHash) (message : Bytes) :
    (hash.digest message).length = hash.size := by
  rw [digest, HashFunction.length_digest, size_function]

end SealedKeys
