import SealedKeys.OidName.Basic

/-!
Names for protected messages: kinds of content, attributes and algorithms.
-/

namespace SealedKeys

namespace OidName

/-- Kinds of content. -/
def contentKinds : List OidName :=
  branch [1, 2, 840, 113549, 1, 7]
    [("id-data", 1), ("id-signedData", 2), ("id-envelopedData", 3), ("id-digestedData", 5),
     ("id-encryptedData", 6)]

/-- Attributes of persons, requests and signatures. -/
def messageAttributes : List OidName :=
  branch [1, 2, 840, 113549, 1, 9]
    [("email", 1), ("emailAddress", 1), ("id-contentType", 3), ("id-messageDigest", 4),
     ("id-signingTime", 5), ("id-countersignature", 6), ("id-ExtensionReq", 14),
     ("smimeCapabilities", 15), ("id-smime", 16)]

/-- Arcs of the names for protected mail. -/
def messageArcs : List OidName :=
  branch [1, 2, 840, 113549, 1, 9, 16]
    [("id-mod", 0), ("id-ct", 1), ("id-aa", 2), ("id-alg", 3), ("id-cd", 4), ("id-spq", 5),
     ("id-cti", 6), ("id-tsp", 7), ("id-skd", 8), ("id-sti", 9), ("id-eit", 10), ("id-cap", 11),
     ("id-pskc", 12)]

/-- Kinds of content in protected mail. -/
def mailContentKinds : List OidName :=
  branch [1, 2, 840, 113549, 1, 9, 16, 1]
    [("id-ct-receipt", 1), ("id-ct-authData", 2), ("id-ct-contentInfo", 6),
     ("id-ct-compressedData", 9), ("id-ct-scvp-certValRequest", 10),
     ("id-ct-scvp-certValResponse", 11), ("id-ct-scvp-valPolRequest", 12),
     ("id-ct-scvp-valPolResponse", 13), ("id-ct-firmwarePackage", 16),
     ("id-ct-firmwareLoadReceipt", 17), ("id-ct-firmwareLoadError", 18),
     ("id-ct-contentCollection", 19), ("id-ct-contentWithAttrs", 20), ("id-ct-encKeyWithID", 21),
     ("id-ct-authEnvelopedData", 23)]

/-- Attributes of signatures on mail. -/
def mailAttributes : List OidName :=
  branch [1, 2, 840, 113549, 1, 9, 16, 2]
    [("id-aa-receiptRequest", 1), ("id-aa-securityLabel", 2), ("id-aa-mlExpandHistory", 3),
     ("id-aa-contentHint", 4), ("id-aa-msgSigDigest", 5), ("id-aa-contentIdentifier", 7),
     ("id-aa-equivalentLabels", 9), ("id-aa-contentReference", 10), ("id-aa-encrypKeyPref", 11),
     ("id-aa-signingCertificate", 12), ("id-aa-cmc-unsignedData", 34),
     ("id-aa-firmwarePackageID", 35), ("id-aa-targetHardwareIDs", 36),
     ("id-aa-decryptKeyID", 37), ("id-aa-implCryptoAlgs", 38), ("id-aa-wrappedFirmwareKey", 39),
     ("id-aa-communityIdentifiers", 40), ("id-aa-firmwarePackageInfo", 42),
     ("id-aa-implCompressAlgs", 43), ("id-aa-binarySigningTime", 46),
     ("id-aa-signingCertificateV2", 47), ("id-aa-er-internal", 49), ("id-aa-er-external", 50)]

/-- Algorithms that agree on keys, wrap keys and compress. -/
def mailAlgorithms : List OidName :=
  branch [1, 2, 840, 113549, 1, 9, 16, 3]
    [("id-alg-ESDH", 5), ("id-alg-CMS3DESwrap", 6), ("id-alg-CMSRC2wrap", 7),
     ("id-alg-zlibCompress", 8), ("id-alg-SSDH", 10)]

/-- Requests for the distribution of keys. -/
def keyDistribution : List OidName :=
  branch [1, 2, 840, 113549, 1, 9, 16, 8]
    [("id-skd-glUseKEK", 1), ("id-skd-glDelete", 2), ("id-skd-glAddMember", 3),
     ("id-skd-glDeleteMember", 4), ("id-skd-glRekey", 5), ("id-skd-glAddOwner", 6),
     ("id-skd-glRemoveOwner", 7), ("id-skd-glKeyCompromise", 8), ("id-skd-glkRefresh", 9),
     ("id-skd-glaQueryRequest", 11), ("id-skd-glaQueryResponse", 12),
     ("id-skd-glProvideCert", 13), ("id-skd-glManageCert", 14), ("id-skd-glKey", 15)]

/-- Names under arcs of their own. -/
def otherMessageNames : List OidName :=
  [⟨"id-cap-preferBinaryInside", .ofArcs [1, 2, 840, 113549, 1, 9, 16, 11, 1]⟩,
   ⟨"id-aa-multipleSignatures", .ofArcs [1, 2, 840, 113549, 1, 9, 2, 51]⟩]

/-- The names for protected messages. -/
def messageNames : List OidName :=
  contentKinds ++ messageAttributes ++ messageArcs ++ mailContentKinds ++ mailAttributes
    ++ mailAlgorithms ++ keyDistribution ++ otherMessageNames

end OidName

end SealedKeys
