import SealedKeys.Certificate.ExtensionType
import SealedKeys.Certificate.IpAddress
import SealedKeys.Certificate.Name
import SealedKeys.Certificate.Time
import SealedKeys.Digest.HashFunction
import SealedKeys.PublicKey.Info

/-!
X.509 certificates and their DER form.

A `Certificate` is a body, which says whose key this is and who vouches for it, together with a
signature on the DER form of that body. All signatures are PKCS#1 v1.5 over SHA-256.
-/

namespace SealedKeys

/-- A statement about the key that a certificate adds to its body. -/
structure Extension where
  oid : Oid
  /-- Whether a reader that does not know the extension must refuse the certificate. -/
  critical : Bool
  /-- The DER form of what is stated. -/
  value : Bytes
  deriving DecidableEq, Repr

/-- A name under which a server is reached. -/
inductive AlternativeName where
  | dns (text : String)
  | ip (address : IpAddress)
  deriving DecidableEq, Repr

namespace AlternativeName

/-- An alternative name as an element; the context numbers the kinds of names. -/
def element : AlternativeName → Bytes
  | .dns text => Der.element 0x82 (Bytes.ofText text)
  | .ip address => Der.element 0x87 address.bytes

end AlternativeName

namespace Extension

/-- The digest by which a key is referred to. -/
def keyIdentifier (publicKey : PublicKey) : Bytes :=
  ModuleHash.sha1.digest publicKey.content

/-- Names the key of the certificate. -/
def subjectKeyIdentifier (publicKey : PublicKey) : Extension where
  oid := ExtensionType.subjectKeyIdentifier
  critical := false
  value := Der.element Der.Tag.octetString (keyIdentifier publicKey)

/-- Names the key that signed the certificate. -/
def authorityKeyIdentifier (publicKey : PublicKey) : Extension where
  oid := ExtensionType.authorityKeyIdentifier
  critical := false
  value := Der.sequence [Der.element 0x80 (keyIdentifier publicKey)]

/-- Says whether the key may sign certificates. -/
def basicConstraints (isAuthority : Bool) : Extension where
  oid := ExtensionType.basicConstraints
  critical := true
  value := Der.sequence (if isAuthority then [Der.true] else [])

/-- Allows signing certificates and revocation lists. -/
def authorityKeyUsage : Extension where
  oid := ExtensionType.keyUsage
  critical := true
  value := Der.element Der.Tag.bitString [1, 0x06]

/-- Allows signatures that stand for their signer. -/
def leafKeyUsage : Extension where
  oid := ExtensionType.keyUsage
  critical := true
  value := Der.element Der.Tag.bitString [6, 0xc0]

/-- Lists the names under which the subject is reached. It is critical if the subject has no
other name. -/
def subjectAlternativeNames (subject : Name) (names : List AlternativeName) : Extension where
  oid := ExtensionType.subjectAlternativeNames
  critical := subject.isEmpty
  value := Der.sequence (names.map AlternativeName.element)

/-- The purpose of proving a server's identity. -/
def serverAuthentication : Oid := .ofArcs [1, 3, 6, 1, 5, 5, 7, 3, 1]

/-- The purpose of proving a client's identity. -/
def clientAuthentication : Oid := .ofArcs [1, 3, 6, 1, 5, 5, 7, 3, 2]

/-- Lists the purposes of the key. -/
def extendedKeyUsage (purposes : List Oid) : Extension where
  oid := ExtensionType.extendedKeyUsage
  critical := true
  value := Der.sequence (purposes.map Oid.element)

/-- An extension as an element. -/
def element (extension : Extension) : Bytes :=
  Der.sequence [extension.oid.element, if extension.critical then Der.true else [],
    Der.element Der.Tag.octetString extension.value]

end Extension

namespace Certificate

/-- The identifier of PKCS#1 v1.5 signatures over SHA-256. -/
def sha256WithRsaEncryption : Oid := .ofArcs [1, 2, 840, 113549, 1, 1, 11]

/-- The algorithm identifier of all signatures on certificates. -/
def signatureAlgorithm : Bytes :=
  Der.sequence [sha256WithRsaEncryption.element, Der.null]

/-- What a certificate states. -/
structure Body where
  /-- The content of the serial number's element. -/
  serial : Bytes
  issuer : Name
  notBefore : Time
  notAfter : Time
  subject : Name
  publicKey : PublicKey
  extensions : List Extension
  deriving DecidableEq

/-- The DER form of a body. -/
def Body.element (body : Body) : Bytes :=
  Der.sequence
    [Der.tagged 0 (Der.integer 2),
      Der.element Der.Tag.integer body.serial,
      signatureAlgorithm,
      body.issuer.element,
      Der.sequence [body.notBefore.element, body.notAfter.element],
      body.subject.element,
      body.publicKey.info,
      Der.tagged 3 (Der.sequence (body.extensions.map Extension.element))]

end Certificate

/-- A body with a signature on its DER form. -/
structure Certificate where
  body : Certificate.Body
  signature : Bytes
  deriving DecidableEq

/-- The DER form of a certificate. -/
def Certificate.element (certificate : Certificate) : Bytes :=
  Der.sequence [certificate.body.element, Certificate.signatureAlgorithm,
    Der.bitString certificate.signature]

end SealedKeys
