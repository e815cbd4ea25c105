import SealedKeys.Der.Oid

/-!
The types of extensions that certificates are given here, or that a reader of certificates knows.
-/

namespace SealedKeys

namespace ExtensionType

/-- The type under the arc of extensions with the given last arc. -/
def numbered (last : Nat) : Oid :=
  .ofArcs [2, 5, 29, last]

/-- Names the key of the certificate. -/
def subjectKeyIdentifier : Oid := numbered 14

/-- Says what the key may do. -/
def keyUsage : Oid := numbered 15

/-- Lists further names of the subject. -/
def subjectAlternativeNames : Oid := numbered 17

/-- Says whether the key may sign certificates. -/
def basicConstraints : Oid := numbered 19

/-- Limits the names in certificates that the key signs. -/
def nameConstraints : Oid := numbered 30

/-- Says where revocations are published. -/
def revocationListPoints : Oid := numbered 31

/-- Names the key that signed the certificate. -/
def authorityKeyIdentifier : Oid := numbered 35

/-- Lists the purposes of the key. -/
def extendedKeyUsage : Oid := numbered 37

end ExtensionType

end SealedKeys
