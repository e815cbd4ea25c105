import SealedKeys.OidName.Basic

/-!
Names for algorithms: signatures, digests, ciphers, and the curves and families of keys.
-/

namespace SealedKeys

namespace OidName

/-- RSA keys and what is done with them. -/
def rsaAlgorithms : List OidName :=
  branch [1, 2, 840, 113549, 1, 1]
    [("rsaEncryption", 1), ("md2WithRSAEncryption", 2), ("md5WithRSAEncryption", 4),
     ("sha1WithRSAEncryption", 5), ("id-RSAES-OAEP", 7), ("id-mgf1", 8), ("id-pSpecified", 9),
     ("id-RSASSA-PSS", 10), ("sha256WithRSAEncryption", 11), ("sha384WithRSAEncryption", 12),
     ("sha512WithRSAEncryption", 13), ("sha224WithRSAEncryption", 14)]

/-- Digests and keyed digests. -/
def digests : List OidName :=
  branch [1, 2, 840, 113549, 2]
    [("id-md2", 2), ("id-md5", 5), ("id-hmacWithSHA224", 8), ("id-hmacWithSHA256", 9),
     ("id-hmacWithSHA384", 10), ("id-hmacWithSHA512", 11)]

/-- Block ciphers. -/
def ciphers : List OidName :=
  branch [1, 2, 840, 113549, 3]
    [("rc2-cbc", 2), ("des-ede3-cbc", 7)]

/-- DSA keys and signatures. -/
def dsaAlgorithms : List OidName :=
  branch [1, 2, 840, 10040, 4]
    [("id-dsa", 1), ("dsa-with-sha1", 3)]

/-- Signatures by keys on curves, over the longer digests. -/
def curveSignatures : List OidName :=
  branch [1, 2, 840, 10045, 4, 3]
    [("ecdsa-with-SHA224", 1), ("ecdsa-with-SHA256", 2), ("ecdsa-with-SHA384", 3),
     ("ecdsa-with-SHA512", 4)]

/-- Curves over prime and binary fields. -/
def certifiedCurves : List OidName :=
  branch [1, 3, 132, 0]
    [("sect163k1", 1), ("sect163r2", 15), ("sect283k1", 16), ("sect283r1", 17),
     ("sect233k1", 26), ("sect233r1", 27), ("secp224r1", 33), ("secp384r1", 34),
     ("secp521r1", 35), ("sect409k1", 36), ("sect409r1", 37), ("sect571k1", 38),
     ("sect571r1", 39)]

/-- Agreement on a key by keys on curves. -/
def curveAgreements : List OidName :=
  branch [1, 3, 132, 1]
    [("id-ecDH", 12), ("id-ecMQV", 13)]

/-- Keyed digests with a password or an agreed key. -/
def passwordAlgorithms : List OidName :=
  branch [1, 2, 840, 113533, 7, 66]
    [("id-PasswordBasedMac", 13), ("id-DHBasedMac", 30)]

/-- The block ciphers of the advanced standard. -/
def advancedCiphers : List OidName :=
  branch [2, 16, 840, 1, 101, 3, 4, 1]
    [("id-aes128-CBC", 2), ("id-aes128-wrap", 5), ("id-aes128-GCM", 6), ("id-aes128-CCM", 7),
     ("id-aes192-CBC", 22), ("id-aes192-wrap", 25), ("id-aes192-GCM", 26), ("id-aes192-CCM", 27),
     ("id-aes256-CBC", 42), ("id-aes256-wrap", 45), ("id-aes256-GCM", 46), ("id-aes256-CCM", 47)]

/-- The longer digests. -/
def longDigests : List OidName :=
  branch [2, 16, 840, 1, 101, 3, 4, 2]
    [("id-sha256", 1), ("id-sha384", 2), ("id-sha512", 3), ("id-sha224", 4)]

/-- DSA signatures over the longer digests. -/
def longDsaSignatures : List OidName :=
  branch [2, 16, 840, 1, 101, 3, 4, 3]
    [("dsa-with-sha224", 1), ("dsa-with-sha256", 2)]

/-- Twisted curves. -/
def edwardsCurves : List OidName :=
  branch [1, 3, 101]
    [("id-X25519", 110), ("id-X448", 111), ("id-Ed25519", 112), ("id-Ed448", 113)]

/-- Names under arcs of their own. -/
def otherAlgorithmNames : List OidName :=
  [⟨"rsadsi", .ofArcs [1, 2, 840, 113549]⟩, ⟨"digestAlgorithm", .ofArcs [1, 2, 840, 113549, 2]⟩,
   ⟨"id-ecPublicKey", .ofArcs [1, 2, 840, 10045, 2, 1]⟩,
   ⟨"secp256r1", .ofArcs [1, 2, 840, 10045, 3, 1, 7]⟩,
   ⟨"dhpublicnumber", .ofArcs [1, 2, 840, 10046, 2, 1]⟩,
   ⟨"pkcs-1", .ofArcs [1, 2, 840, 113549, 1, 1]⟩, ⟨"pkcs-9", .ofArcs [1, 2, 840, 113549, 1, 9]⟩,
   ⟨"id-PBKDF2", .ofArcs [1, 2, 840, 113549, 1, 5, 12]⟩,
   ⟨"id-edwards-curve-algs", .ofArcs [1, 3, 101]⟩, ⟨"id-sha1", .ofArcs [1, 3, 14, 3, 2, 26]⟩,
   ⟨"hMAC-SHA1", .ofArcs [1, 3, 6, 1, 5, 5, 8, 1, 2]⟩,
   ⟨"id-keyExchangeAlgorithm", .ofArcs [2, 16, 840, 1, 101, 2, 1, 1, 22]⟩,
   ⟨"aes", .ofArcs [2, 16, 840, 1, 101, 3, 4, 1]⟩]

/-- The names for algorithms. -/
def algorithmNames : List OidName :=
  rsaAlgorithms ++ digests ++ ciphers ++ dsaAlgorithms ++ curveSignatures
    ++ certifiedCurves ++ curveAgreements ++ passwordAlgorithms ++ advancedCiphers ++ longDigests
    ++ longDsaSignatures ++ edwardsCurves ++ otherAlgorithmNames

end OidName

end SealedKeys
