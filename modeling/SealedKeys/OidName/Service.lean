import SealedKeys.OidName.Basic

/-!
Names for services listed in a directory: businesses and what they offer, shared file systems,
and the configuration of a directory's own clients.
-/

namespace SealedKeys

namespace OidName

/-- Attributes of businesses and their services. -/
def businessAttributes : List OidName :=
  branch [1, 3, 6, 1, 1, 10, 4]
    [("uddiBusinessKey", 1), ("uddiAuthorizedName", 2), ("uddiOperator", 3), ("uddiName", 4),
     ("uddiDescription", 5), ("uddiDiscoveryURLs", 6), ("uddiUseType", 7), ("uddiPersonName", 8),
     ("uddiPhone", 9), ("uddiEMail", 10), ("uddiSortCode", 11), ("uddiTModelKey", 12),
     ("uddiAddressLine", 13), ("uddiIdentifierBag", 14), ("uddiCategoryBag", 15),
     ("uddiKeyedReference", 16), ("uddiServiceKey", 17), ("uddiBindingKey", 18),
     ("uddiAccessPoint", 19), ("uddiHostingRedirector", 20), ("uddiInstanceDescription", 21),
     ("uddiInstanceParms", 22), ("uddiOverviewDescription", 23), ("uddiOverviewURL", 24),
     ("uddiFromKey", 25), ("uddiToKey", 26), ("uddiUUID", 27), ("uddiIsHidden", 28),
     ("uddiIsProjection", 29), ("uddiLang", 30), ("uddiv3BusinessKey", 31),
     ("uddiv3ServiceKey", 32), ("uddiv3BindingKey", 33), ("uddiv3TModelKey", 34),
     ("uddiv3DigitalSignature", 35), ("uddiv3NodeId", 36), ("uddiv3EntityModificationTime", 37),
     ("uddiv3SubscriptionKey", 38), ("uddiv3SubscriptionFilter", 39),
     ("uddiv3NotificationInterval", 40), ("uddiv3MaxEntities", 41), ("uddiv3ExpiresAfter", 42),
     ("uddiv3BriefResponse", 43), ("uddiv3EntityKey", 44), ("uddiv3EntityCreationTime", 45),
     ("uddiv3EntityDeletionTime", 46)]

/-- Classes of entries for businesses and their services. -/
def businessClasses : List OidName :=
  branch [1, 3, 6, 1, 1, 10, 6]
    [("uddiBusinessEntity", 1), ("uddiContact", 2), ("uddiAddress", 3),
     ("uddiBusinessService", 4), ("uddiBindingTemplate", 5), ("uddiTModelInstanceInfo", 6),
     ("uddiTModel", 7), ("uddiPublisherAssertion", 8), ("uddiv3Subscription", 9),
     ("uddiv3EntityObituary", 10)]

/-- How entries for businesses and their services are named. -/
def businessNameForms : List OidName :=
  branch [1, 3, 6, 1, 1, 10, 15]
    [("uddiBusinessEntityNameForm", 1), ("uddiContactNameForm", 2), ("uddiAddressNameForm", 3),
     ("uddiBusinessServiceNameForm", 4), ("uddiBindingTemplateNameForm", 5),
     ("uddiTModelInstanceInfoNameForm", 6), ("uddiTModelNameForm", 7),
     ("uddiPublisherAssertionNameForm", 8), ("uddiv3SubscriptionNameForm", 9),
     ("uddiv3EntityObituaryNameForm", 10)]

/-- Attributes and classes of entries for federated file systems. -/
def fileSystemNames : List OidName :=
  branch [1, 3, 6, 1, 4, 1, 31103, 1]
    [("fedfsUuid", 1), ("fedfsNetAddr", 2), ("fedfsNetPort", 3), ("fedfsFsnUuid", 4),
     ("fedfsNsdbName", 5), ("fedfsNsdbPort", 6), ("fedfsNcePrefix", 7), ("fedfsFslUuid", 8),
     ("fedfsFslHost", 9), ("fedfsFslPort", 10), ("fedfsFslTTL", 11), ("fedfsAnnotation", 12),
     ("fedfsDescr", 13), ("fedfsNceDN", 14), ("fedfsFsnTTL", 15), ("fedfsNfsPath", 100),
     ("fedfsNfsMajorVer", 101), ("fedfsNfsMinorVer", 102), ("fedfsNfsCurrency", 103),
     ("fedfsNfsGenFlagWritable", 104), ("fedfsNfsGenFlagGoing", 105),
     ("fedfsNfsGenFlagSplit", 106), ("fedfsNfsTransFlagRdma", 107), ("fedfsNfsClassSimul", 108),
     ("fedfsNfsClassHandle", 109), ("fedfsNfsClassFileid", 110), ("fedfsNfsClassWritever", 111),
     ("fedfsNfsClassChange", 112), ("fedfsNfsClassReaddir", 113), ("fedfsNfsReadRank", 114),
     ("fedfsNfsReadOrder", 115), ("fedfsNfsWriteRank", 116), ("fedfsNfsWriteOrder", 117),
     ("fedfsNfsVarSub", 118), ("fedfsNfsValidFor", 119), ("fedfsNfsURI", 120),
     ("fedfsNsdbContainerInfo", 1001), ("fedfsFsn", 1002), ("fedfsFsl", 1003),
     ("fedfsNfsFsl", 1004)]

/-- Attributes of the configuration of directory clients. -/
def clientAttributes : List OidName :=
  branch [1, 3, 6, 1, 4, 1, 11, 1, 3, 1, 1]
    [("defaultServerList", 0), ("defaultSearchBase", 1), ("preferredServerList", 2),
     ("searchTimeLimit", 3), ("bindTimeLimit", 4), ("followReferrals", 5),
     ("authenticationMethod", 6), ("profileTTL", 7), ("attributeMap", 9),
     ("credentialLevel", 10), ("objectclassMap", 11), ("defaultSearchScope", 12),
     ("serviceCredentialLevel", 13), ("serviceSearchDescriptor", 14),
     ("serviceAuthenticationMethod", 15), ("dereferenceAliases", 16)]

/-- Classes of entries for the configuration of directory clients. -/
def clientClasses : List OidName :=
  branch [1, 3, 6, 1, 4, 1, 11, 1, 3, 1, 2]
    [("DUAConfigProfile", 5)]

/-- The names for services. -/
def serviceNames : List OidName :=
  businessAttributes ++ businessClasses ++ businessNameForms ++ fileSystemNames
    ++ clientAttributes ++ clientClasses

end OidName

end SealedKeys
