import SealedKeys.OidName.Basic

/-!
Names for certificates: their extensions, the protocols that request, check and revoke them, and
the purposes of keys.
-/

namespace SealedKeys

namespace OidName

/-- Extensions of certificates and revocation lists. -/
def certificateExtensions : List OidName :=
  branch [2, 5, 29]
    [("id-ce-subjectDirectoryAttributes", 9), ("id-ce-subjectKeyIdentifier", 14),
     ("id-ce-keyUsage", 15), ("id-ce-privateKeyUsagePeriod", 16), ("id-ce-subjectAltName", 17),
     ("id-ce-issuerAltName", 18), ("id-ce-basicConstraints", 19), ("id-ce-cRLNumber", 20),
     ("id-ce-cRLReasons", 21), ("id-ce-holdInstructionCode", 23), ("id-ce-invalidityDate", 24),
     ("id-ce-deltaCRLIndicator", 27), ("id-ce-issuingDistributionPoint", 28),
     ("id-ce-certificateIssuer", 29), ("id-ce-nameConstraints", 30),
     ("id-ce-cRLDistributionPoints", 31), ("id-ce-certificatePolicies", 32),
     ("id-ce-policyMappings", 33), ("id-ce-authorityKeyIdentifier", 35),
     ("id-ce-policyConstraints", 36), ("id-ce-extKeyUsage", 37), ("id-ce-freshestCRL", 46),
     ("id-ce-inhibitAnyPolicy", 54), ("id-ce-targetInformation", 55), ("id-ce-noRevAvail", 56)]

/-- Arcs of the names for certificates. -/
def certificateArcs : List OidName :=
  branch [1, 3, 6, 1, 5, 5, 7]
    [("id-mod", 0), ("id-pe", 1), ("id-qt", 2), ("id-kp", 3), ("id-it", 4), ("id-pkip", 5),
     ("id-alg", 6), ("id-cmc", 7), ("id-on", 8), ("id-pda", 9), ("id-aca", 10), ("id-qcs", 11),
     ("id-cct", 12), ("id-TEST", 13), ("id-cp", 14), ("id-cet", 15), ("id-ri", 16),
     ("id-stc", 17), ("id-sct", 17), ("id-swb", 18), ("id-svp", 19), ("id-logo", 20),
     ("id-ppl", 21), ("id-mr", 22), ("id-skis", 23), ("id-ad", 48)]

/-- Extensions of certificates on the Internet. -/
def privateExtensions : List OidName :=
  branch [1, 3, 6, 1, 5, 5, 7, 1]
    [("id-pe-authorityInfoAccess", 1), ("id-pe-ac-auditIdentity", 4), ("id-pe-aaControls", 6),
     ("id-pe-ac-proxying", 10), ("id-pe-subjectInfoAccess", 11)]

/-- What qualifies a policy of certificates. -/
def policyQualifiers : List OidName :=
  branch [1, 3, 6, 1, 5, 5, 7, 2]
    [("id-qt-cps", 1), ("id-qt-unotice", 2)]

/-- Purposes of keys. -/
def keyPurposes : List OidName :=
  branch [1, 3, 6, 1, 5, 5, 7, 3]
    [("id-kp-serverAuth", 1), ("id-kp-clientAuth", 2), ("id-kp-codeSigning", 3),
     ("id-kp-emailProtection", 4), ("id-kp-timeStamping", 8), ("id-kp-OCSPSigning", 9),
     ("id-kp-scvpServer", 15), ("id-kp-scvpClient", 16)]

/-- Information in messages that manage certificates. -/
def managementInformation : List OidName :=
  branch [1, 3, 6, 1, 5, 5, 7, 4]
    [("id-it-caProtEncCert", 1), ("id-it-signKeyPairTypes", 2), ("id-it-encKeyPairTypes", 3),
     ("id-it-preferredSymmAlg", 4), ("id-it-caKeyUpdateInfo", 5), ("id-it-currentCRL", 6),
     ("id-it-unsupportedOIDs", 7), ("id-it-keyPairParamReq", 10), ("id-it-keyPairParamRep", 11),
     ("id-it-revPassphrase", 12), ("id-it-implicitConfirm", 13), ("id-it-confirmWaitTime", 14),
     ("id-it-origPKIMessage", 15), ("id-it-suppLangTags", 16)]

/-- Arcs of the names for requests. -/
def requestArcs : List OidName :=
  branch [1, 3, 6, 1, 5, 5, 7, 5]
    [("id-regCtrl", 1), ("id-regInfo", 2)]

/-- Controls of requests. -/
def requestControls : List OidName :=
  branch [1, 3, 6, 1, 5, 5, 7, 5, 1]
    [("id-regCtrl-regToken", 1), ("id-regCtrl-authenticator", 2),
     ("id-regCtrl-pkiPublicationInfo", 3), ("id-regCtrl-pkiArchiveOptions", 4),
     ("id-regCtrl-oldCertID", 5), ("id-regCtrl-protocolEncrKey", 6)]

/-- Information in requests. -/
def requestInformation : List OidName :=
  branch [1, 3, 6, 1, 5, 5, 7, 5, 2]
    [("id-regInfo-utf8Pairs", 1), ("id-regInfo-certReq", 2)]

/-- Controls of managed requests. -/
def managementControls : List OidName :=
  branch [1, 3, 6, 1, 5, 5, 7, 7]
    [("id-cmc-statusInfo", 1), ("id-cmc-identification", 2), ("id-cmc-identityProof", 3),
     ("id-cmc-dataReturn", 4), ("id-cmc-transactionId", 5), ("id-cmc-senderNonce", 6),
     ("id-cmc-recipientNonce", 7), ("id-cmc-addExtensions", 8), ("id-cmc-encryptedPOP", 9),
     ("id-cmc-decryptedPOP", 10), ("id-cmc-lraPOPWitness", 11), ("id-cmc-getCert", 15),
     ("id-cmc-getCRL", 16), ("id-cmc-revokeRequest", 17), ("id-cmc-regInfo", 18),
     ("id-cmc-responseInfo", 19), ("id-cmc-queryPending", 21), ("id-cmc-popLinkRandom", 22),
     ("id-cmc-popLinkWitness", 23), ("id-cmc-confirmCertAcceptance", 24),
     ("id-cmc-statusInfoV2", 25), ("id-cmc-trustedAnchors", 26), ("id-cmc-authData", 27),
     ("id-cmc-batchRequests", 28), ("id-cmc-batchResponses", 29), ("id-cmc-publishCert", 30),
     ("id-cmc-modCertTemplate", 31), ("id-cmc-controlProcessed", 32),
     ("id-cmc-identityProofV2", 33), ("id-cmc-popLinkWitnessV2", 34), ("id-cmc-glaRR", 99)]

/-- Controls of requests for the distribution of keys. -/
def distributionControls : List OidName :=
  branch [1, 3, 6, 1, 5, 5, 7, 7, 99]
    [("id-cmc-gla-skdAlgRequest", 1), ("id-cmc-gla-skdAlgResponse", 2)]

/-- Attributes in attribute certificates. -/
def attributeCertificateAttributes : List OidName :=
  branch [1, 3, 6, 1, 5, 5, 7, 10]
    [("id-aca-authenticationInfo", 1), ("id-aca-accessIdentity", 2),
     ("id-aca-chargingIdentity", 3), ("id-aca-group", 4), ("id-aca-encAttrs", 6)]

/-- Kinds of content in managed requests. -/
def managedContents : List OidName :=
  branch [1, 3, 6, 1, 5, 5, 7, 12]
    [("id-cct-PKIData", 2), ("id-cct-PKIResponse", 3)]

/-- What a validation server is asked to check. -/
def validationChecks : List OidName :=
  branch [1, 3, 6, 1, 5, 5, 7, 17]
    [("id-stc-build-pkc-path", 1), ("id-stc-build-valid-pkc-path", 2),
     ("id-stc-build-status-checked-pkc-path", 3), ("id-stc-build-aa-path", 4),
     ("id-stc-build-valid-aa-path", 5), ("id-stc-build-status-checked-aa-path", 6),
     ("id-stc-status-check-ac-and-build-status-checked-aa-path", 7)]

/-- What a validation server is asked to give back. -/
def validationResults : List OidName :=
  branch [1, 3, 6, 1, 5, 5, 7, 18]
    [("id-swb-pkc-best-cert-path", 1), ("id-swb-pkc-revocation-info", 2),
     ("id-swb-pkc-public-key-info", 4), ("id-swb-aa-cert-path", 5),
     ("id-swb-aa-revocation-info", 6), ("id-swb-ac-revocation-info", 7),
     ("id-swb-relayed-responses", 9), ("id-swb-pkc-cert", 10), ("id-swb-ac-cert", 11),
     ("id-swb-pkc-all-cert-paths", 12), ("id-swb-pkc-ee-revocation-info", 13),
     ("id-swb-pkc-CAs-revocation-info", 14)]

/-- Policies of a validation server, and the arcs of its errors. -/
def validationPolicies : List OidName :=
  branch [1, 3, 6, 1, 5, 5, 7, 19]
    [("id-svp-defaultValPolicy", 1), ("id-nvae", 2), ("id-svp-nameValAlg", 2), ("id-bvae", 3),
     ("id-svp-basicValAlg", 3), ("id-dnvae", 4), ("NameCompAlgSet", 4), ("id-nva-dnCompAlg", 4)]

/-- Services of an authority. -/
def accessMethods : List OidName :=
  branch [1, 3, 6, 1, 5, 5, 7, 48]
    [("id-ad-ocsp", 1), ("id-pkix-ocsp", 1), ("id-ad-caIssuers", 2), ("id-ad-timeStamping", 3),
     ("id-ad-caRepository", 5)]

/-- Extensions of requests for the status of a certificate. -/
def statusExtensions : List OidName :=
  branch [1, 3, 6, 1, 5, 5, 7, 48, 1]
    [("id-pkix-ocsp-basic", 1), ("id-pkix-ocsp-nonce", 2), ("id-pkix-ocsp-crl", 3),
     ("id-pkix-ocsp-response", 4), ("id-pkix-ocsp-nocheck", 5),
     ("id-pkix-ocsp-archive-cutoff", 6), ("id-pkix-ocsp-service-locator", 7),
     ("id-pkix-ocsp-pref-sig-algs", 8), ("id-pkix-ocsp-extended-revoke", 9)]

/-- What to do with a certificate on hold. -/
def holdInstructions : List OidName :=
  branch [2, 2, 840, 10040, 2]
    [("id-holdinstruction-none", 1), ("id-holdinstruction-callissuer", 2),
     ("id-holdinstruction-reject", 3)]

/-- Attributes of enrollment messages. -/
def enrollmentAttributes : List OidName :=
  branch [2, 16, 840, 1, 113733, 1, 9]
    [("id-messageType", 2), ("id-pkiStatus", 3), ("id-failInfo", 4), ("id-senderNonce", 5),
     ("id-recipientNonce", 6), ("id-transactionID", 7)]

/-- Extensions of certificates in public logs. -/
def transparencyExtensions : List OidName :=
  branch [1, 3, 6, 1, 4, 1, 11129, 2, 4]
    [("ct-precert-scts", 2), ("ct-precert-poison", 3), ("ct-precert-signing-cert", 4)]

/-- Names under arcs of their own. -/
def otherCertificateNames : List OidName :=
  [⟨"id-at", .ofArcs [2, 5, 4]⟩, ⟨"id-ce", .ofArcs [2, 5, 29]⟩,
   ⟨"anyPolicy", .ofArcs [2, 5, 29, 32, 0]⟩, ⟨"anyExtendedKeyUsage", .ofArcs [2, 5, 29, 37, 0]⟩,
   ⟨"holdInstruction", .ofArcs [2, 2, 840, 10040, 2]⟩,
   ⟨"google", .ofArcs [1, 3, 6, 1, 4, 1, 11129]⟩, ⟨"id-pkix", .ofArcs [1, 3, 6, 1, 5, 5, 7]⟩,
   ⟨"ltans", .ofArcs [1, 3, 6, 1, 5, 5, 11]⟩,
   ⟨"id-alg-noSignature", .ofArcs [1, 3, 6, 1, 5, 5, 7, 6, 2]⟩,
   ⟨"id-on-hardwareModuleName", .ofArcs [1, 3, 6, 1, 5, 5, 7, 8, 4]⟩,
   ⟨"id-cet-skdFailInfo", .ofArcs [1, 3, 6, 1, 5, 5, 7, 15, 1]⟩,
   ⟨"id-VeriSign", .ofArcs [2, 16, 840, 1, 113733]⟩,
   ⟨"id-pki", .ofArcs [2, 16, 840, 1, 113733, 1]⟩,
   ⟨"id-attributes", .ofArcs [2, 16, 840, 1, 113733, 1, 9]⟩]

/-- The names for certificates. -/
def certificateNames : List OidName :=
  certificateExtensions ++ certificateArcs ++ privateExtensions ++ policyQualifiers
    ++ keyPurposes ++ managementInformation ++ requestArcs ++ requestControls
    ++ requestInformation ++ managementControls ++ distributionControls
    ++ attributeCertificateAttributes ++ managedContents ++ validationChecks ++ validationResults
    ++ validationPolicies ++ accessMethods ++ statusExtensions ++ holdInstructions
    ++ enrollmentAttributes ++ transparencyExtensions ++ otherCertificateNames

end OidName

end SealedKeys
