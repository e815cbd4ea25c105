/-!
Hash algorithms, as callers name them and as a secure module knows them.

`HashAlgorithm` lists every digest a caller may have computed. `ModuleHash` lists the four a
module signs with. `ModuleHash.ofAlgorithm?` and `ModuleHash.algorithm` go between the two, and
`ofAlgorithm?_eq_some_iff` says that they are inverse to each other.
-/

namespace SealedKeys

/-- The hash algorithm a caller computed a digest with. -/
inductive HashAlgorithm where
  | md4
  | md5
  | sha1
  | sha224
  | sha256
  | sha384
  | sha512
  | md5Sha1
  | ripemd160
  | sha3_224
  | sha3_256
  | sha3_384
  | sha3_512
  | sha512_224
  | sha512_256
  | blake2s256
  | blake2b256
  | blake2b384
  | blake2b512
  deriving DecidableEq, Repr

namespace HashAlgorithm

/-- Every algorithm a caller may name. -/
def all : List HashAlgorithm :=
  [.md4, .md5, .sha1, .sha224, .sha256, .sha384, .sha512, .md5Sha1, .ripemd160, .sha3_224,
    .sha3_256, .sha3_384, .sha3_512, .sha512_224, .sha512_256, .blake2s256, .blake2b256,
    .blake2b384, .blake2b512]

/-- The usual name of the algorithm. -/
def name : HashAlgorithm → String
  | .md4 => "MD4"
  | .md5 => "MD5"
  | .sha1 => "SHA-1"
  | .sha224 => "SHA-224"
  | .sha256 => "SHA-256"
  | .sha384 => "SHA-384"
  | .sha512 => "SHA-512"
  | .md5Sha1 => "MD5+SHA1"
  | .ripemd160 => "RIPEMD-160"
  | .sha3_224 => "SHA3-224"
  | .sha3_256 => "SHA3-256"
  | .sha3_384 => "SHA3-384"
  | .sha3_512 => "SHA3-512"
  | .sha512_224 => "SHA-512/224"
  | .sha512_256 => "SHA-512/256"
  | .blake2s256 => "BLAKE2s-256"
  | .blake2b256 => "BLAKE2b-256"
  | .blake2b384 => "BLAKE2b-384"
  | .blake2b512 => "BLAKE2b-512"

/-- The identifier of the algorithm, as it is shown to a developer. -/
def inspect : HashAlgorithm → String
  | .md4 => "Md4"
  | .md5 => "Md5"
  | .sha1 => "Sha1"
  | .sha224 => "Sha224"
  | .sha256 => "Sha256"
  | .sha384 => "Sha384"
  | .sha512 => "Sha512"
  | .md5Sha1 => "Md5Sha1"
  | .ripemd160 => "Ripemd160"
  | .sha3_224 => "Sha3_224"
  | .sha3_256 => "Sha3_256"
  | .sha3_384 => "Sha3_384"
  | .sha3_512 => "Sha3_512"
  | .sha512_224 => "Sha512_224"
  | .sha512_256 => "Sha512_256"
  | .blake2s256 => "Blake2s256"
  | .blake2b256 => "Blake2b256"
  | .blake2b384 => "Blake2b384"
  | .blake2b512 => "Blake2b512"

/-- The length of a digest in bytes. -/
def size : HashAlgorithm → Nat
  | .md4 | .md5 => 16
  | .sha1 | .ripemd160 => 20
  | .sha224 | .sha3_224 | .sha512_224 => 28
  | .sha256 | .sha3_256 | .sha512_256 | .blake2s256 | .blake2b256 => 32
  | .md5Sha1 => 36
  | .sha384 | .sha3_384 | .blake2b384 => 48
  | .sha512 | .sha3_512 | .blake2b512 => 64

end HashAlgorithm

/-- A hash algorithm that a secure module signs with. -/
inductive ModuleHash where
  | sha1
  | sha256
  | sha384
  | sha512
  deriving DecidableEq, Repr

namespace ModuleHash

/-- The algorithms a secure module signs with. -/
def all : List ModuleHash :=
  [.sha1, .sha256, .sha384, .sha512]

/-- The same algorithm under its general name. -/
def algorithm : ModuleHash → HashAlgorithm
  | .sha1 => .sha1
  | .sha256 => .sha256
  | .sha384 => .sha384
  | .sha512 => .sha512

/-- The module's counterpart of an algorithm, where there is one. -/
def ofAlgorithm? : HashAlgorithm → Option ModuleHash
  | .sha1 => some .sha1
  | .sha256 => some .sha256
  | .sha384 => some .sha384
  | .sha512 => some .sha512
  | _ => none

/-- The module's number for the algorithm. -/
def id : ModuleHash → Nat
  | .sha1 => 0x0004
  | .sha256 => 0x000B
  | .sha384 => 0x000C
  | .sha512 => 0x000D

/-- The length of a digest in bytes. -/
def size (hash : ModuleHash) : Nat :=
  hash.algorithm.size

/-- The usual name of the algorithm. -/
def name (hash : ModuleHash) : String :=
  hash.algorithm.name

/-- The identifier of the algorithm, as it is shown to a developer. -/
def inspect (hash : ModuleHash) : String :=
  hash.algorithm.inspect

/-- Going to the module's name for an algorithm undoes going to the general name, and only
that. -/
theorem ofAlgorithm?_eq_some_iff (algorithm : HashAlgorithm) (hash : ModuleHash) :
    ofAlgorithm? algorithm = some hash ↔ hash.algorithm = algorithm := by
  cases algorithm <;> cases hash <;> decide

end ModuleHash

end SealedKeys
