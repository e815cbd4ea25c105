import SealedKeys.Certificate.ExtensionType
import SealedKeys.Der.Reader
import SealedKeys.Error

/-!
Certificates that a TLS peer trusts.

A certificate becomes a trust anchor when it has the parts of a certificate in their order and
nothing else: a body, the algorithm of the signature, and the signature in whole bytes. A body of
the third version names the same algorithm again and may end in extensions; one without a version
is of the first version and ends with the key. What the names, dates and keys hold is not looked
at, nor who made the signature, and an extension that is not known is passed over.
-/

namespace SealedKeys

namespace Tls

/-- The length that the content of an element in a certificate must stay below. -/
def elementLimit : Nat := 0xffff

/-- The tag of the version at the front of a body. -/
def versionTag : Der.Tag := 0xa0

/-- The tag of the extensions at the end of a body. -/
def extensionsTag : Der.Tag := 0xa3

/-- The content of an element with the wanted tag at the front of the input, and what follows. -/
def takeElement (wanted : Der.Tag) (input : Bytes) : Except TlsError (Bytes × Bytes) :=
  match Der.take? wanted input with
  | some (content, rest) =>
    if content.length < elementLimit then .ok (content, rest)
    else .error .badCertificateEncoding
  | none => .error .badCertificateEncoding

/-- What follows elements with the given tags, in this order. -/
def skipElements : List Der.Tag → Bytes → Except TlsError Bytes
  | [], rest => .ok rest
  | tag :: tags, input => do
    let (_, rest) ← takeElement tag input
    skipElements tags rest

/-- Demands that nothing is left. -/
def atEnd (rest : Bytes) : Except TlsError Unit :=
  if rest.isEmpty then .ok () else .error .badCertificateEncoding

/-- What follows the mark of a critical extension. The mark may be missing; if it is there, it
is all ones or all zeros. -/
def skipCritical (input : Bytes) : Except TlsError Bytes :=
  if input.head? = some Der.Tag.boolean then do
    let (content, rest) ← takeElement Der.Tag.boolean input
    if content = [0xff] ∨ content = [0x00] then return rest
    else throw .badCertificateEncoding
  else .ok input

/-- The known extensions whose value is one sequence. -/
def sequenceExtensions : List Oid :=
  [ExtensionType.subjectAlternativeNames, ExtensionType.basicConstraints,
    ExtensionType.nameConstraints, ExtensionType.revocationListPoints,
    ExtensionType.extendedKeyUsage]

/-- Looks at the value of an extension and adds the extension to the known ones `seen` so far. A
known extension stands in a certificate once; of the use of the key any value is taken. -/
def rememberExtension (seen : List Oid) (oid : Oid) (value : Bytes) :
    Except TlsError (List Oid) :=
  if oid ≠ ExtensionType.keyUsage ∧ ¬ sequenceExtensions.contains oid then .ok seen
  else if seen.contains oid then .error .repeatedExtension
  else if oid = ExtensionType.keyUsage then .ok (oid :: seen)
  else do
    let (_, rest) ← takeElement Der.Tag.sequence value
    atEnd rest
    return oid :: seen

/-- Reads the content of one extension. -/
def readExtension (seen : List Oid) (content : Bytes) : Except TlsError (List Oid) := do
  let (oid, rest) ← takeElement Der.Tag.objectIdentifier content
  let rest ← skipCritical rest
  let (value, rest) ← takeElement Der.Tag.octetString rest
  let seen ← rememberExtension seen ⟨oid⟩ value
  atEnd rest
  return seen

/-- Reads extensions one after the other, at most `count` of them. -/
def readExtensions : (count : Nat) → List Oid → Bytes → Except TlsError Unit
  | _, _, [] => .ok ()
  | 0, _, _ :: _ => .error .badCertificateEncoding
  | count + 1, seen, input => do
    let (content, rest) ← takeElement Der.Tag.sequence input
    let seen ← readExtension seen content
    readExtensions count seen rest

/-- Reads the extensions behind the key, if there are any. An extension has more than one byte,
so there are no more extensions than bytes. -/
def readExtensionPart (input : Bytes) : Except TlsError Unit :=
  if input.isEmpty then .ok ()
  else do
    let (content, rest) ← takeElement extensionsTag input
    let (extensions, left) ← takeElement Der.Tag.sequence content
    readExtensions extensions.length [] extensions
    atEnd left
    atEnd rest

/-- The parts of a body from the issuer's name to the subject's key. -/
def identityTags : List Der.Tag :=
  [Der.Tag.sequence, Der.Tag.sequence, Der.Tag.sequence, Der.Tag.sequence]

/-- Reads a body of the third version from the serial number on; `algorithm` is the one named
beside the signature. -/
def readThirdVersion (algorithm body : Bytes) : Except TlsError Unit := do
  let rest ← skipElements [Der.Tag.integer] body
  let (named, rest) ← takeElement Der.Tag.sequence rest
  if named ≠ algorithm then throw .signatureAlgorithmMismatch
  let rest ← skipElements identityTags rest
  readExtensionPart rest

/-- Reads a body of the first version, which has no extensions and whose algorithm is not
compared. -/
def readFirstVersion (body : Bytes) : Except TlsError Unit := do
  let rest ← skipElements ([Der.Tag.integer, Der.Tag.sequence] ++ identityTags) body
  atEnd rest

/-- Reads a body. A version that is written down is the third one, numbered two. -/
def readBody (algorithm body : Bytes) : Except TlsError Unit :=
  match takeElement versionTag body with
  | .ok (version, rest) =>
    if version = Der.integer 2 then readThirdVersion algorithm rest
    else .error .badCertificateEncoding
  | .error _ => readFirstVersion body

/-- Reads a certificate. -/
def readCertificate (encoded : Bytes) : Except TlsError Unit := do
  let (whole, rest) ← takeElement Der.Tag.sequence encoded
  atEnd rest
  let (body, rest) ← takeElement Der.Tag.sequence whole
  let (algorithm, rest) ← takeElement Der.Tag.sequence rest
  let (signature, rest) ← takeElement Der.Tag.bitString rest
  atEnd rest
  if signature.head? ≠ some 0 then throw .badCertificateEncoding
  readBody algorithm body

/-- Accepts a certificate as a trust anchor. -/
def trust (encoded : Bytes) : Except Error Unit :=
  (readCertificate encoded).mapError .tls

end Tls

end SealedKeys
