import SealedKeys.OidName.Basic

/-!
Names that directories of people and organizations share: attributes, classes of entries, rules
for comparing values, and what a directory says about itself.
-/

namespace SealedKeys

namespace OidName

/-- Attributes of entries. -/
def attributes : List OidName :=
  branch [2, 5, 4]
    [("objectClass", 0), ("aliasedObjectName", 1), ("knowledgeInformation", 2), ("cn", 3),
     ("commonName", 3), ("sn", 4), ("surname", 4), ("serialNumber", 5), ("c", 6),
     ("countryName", 6), ("l", 7), ("localityName", 7), ("st", 8), ("stateOrProvinceName", 8),
     ("street", 9), ("streetAddress", 9), ("o", 10), ("organizationName", 10), ("ou", 11),
     ("organizationalUnitName", 11), ("title", 12), ("description", 13), ("searchGuide", 14),
     ("businessCategory", 15), ("postalAddress", 16), ("postalCode", 17), ("postOfficeBox", 18),
     ("physicalDeliveryOfficeName", 19), ("telephoneNumber", 20), ("telexNumber", 21),
     ("teletexTerminalIdentifier", 22), ("facsimileTelephoneNumber", 23), ("x121Address", 24),
     ("internationalISDNNumber", 25), ("registeredAddress", 26), ("destinationIndicator", 27),
     ("preferredDeliveryMethod", 28), ("presentationAddress", 29),
     ("supportedApplicationContext", 30), ("member", 31), ("owner", 32), ("roleOccupant", 33),
     ("seeAlso", 34), ("userPassword", 35), ("userCertificate", 36), ("cACertificate", 37),
     ("authorityRevocationList", 38), ("certificateRevocationList", 39),
     ("crossCertificatePair", 40), ("name", 41), ("givenName", 42), ("initials", 43),
     ("generationQualifier", 44), ("x500UniqueIdentifier", 45), ("dnQualifier", 46),
     ("enhancedSearchGuide", 47), ("protocolInformation", 48), ("distinguishedName", 49),
     ("uniqueMember", 50), ("houseIdentifier", 51), ("supportedAlgorithms", 52),
     ("deltaRevocationList", 53), ("dmdName", 54), ("pseudonym", 65), ("id-at-role", 72)]

/-- Attributes that a group of entries has in common. -/
def collectiveAttributes : List OidName :=
  [⟨"c-l", .ofArcs [2, 5, 4, 7, 1]⟩, ⟨"c-st", .ofArcs [2, 5, 4, 8, 1]⟩,
   ⟨"c-street", .ofArcs [2, 5, 4, 9, 1]⟩, ⟨"c-o", .ofArcs [2, 5, 4, 10, 1]⟩,
   ⟨"c-ou", .ofArcs [2, 5, 4, 11, 1]⟩, ⟨"c-PostalAddress", .ofArcs [2, 5, 4, 16, 1]⟩,
   ⟨"c-PostalCode", .ofArcs [2, 5, 4, 17, 1]⟩, ⟨"c-PostOfficeBox", .ofArcs [2, 5, 4, 18, 1]⟩,
   ⟨"c-PhysicalDeliveryOffice", .ofArcs [2, 5, 4, 19, 1]⟩,
   ⟨"c-TelephoneNumber", .ofArcs [2, 5, 4, 20, 1]⟩, ⟨"c-TelexNumber", .ofArcs [2, 5, 4, 21, 1]⟩,
   ⟨"c-FacsimileTelephoneNumber", .ofArcs [2, 5, 4, 23, 1]⟩,
   ⟨"c-InternationalISDNNumber", .ofArcs [2, 5, 4, 25, 1]⟩]

/-- Classes of entries. -/
def entryClasses : List OidName :=
  branch [2, 5, 6]
    [("top", 0), ("alias", 1), ("country", 2), ("locality", 3), ("organization", 4),
     ("organizationalUnit", 5), ("person", 6), ("organizationalPerson", 7),
     ("organizationalRole", 8), ("groupOfNames", 9), ("residentialPerson", 10),
     ("applicationProcess", 11), ("applicationEntity", 12), ("dSA", 13), ("device", 14),
     ("strongAuthenticationUser", 15), ("certificationAuthority", 16),
     ("groupOfUniqueNames", 17), ("userSecurityInformation", 18), ("cRLDistributionPoint", 19),
     ("dmd", 20), ("pkiUser", 21), ("pkiCA", 22), ("deltaCRL", 23)]

/-- Rules for comparing values. -/
def matchingRules : List OidName :=
  branch [2, 5, 13]
    [("objectIdentifierMatch", 0), ("distinguishedNameMatch", 1), ("caseIgnoreMatch", 2),
     ("caseIgnoreOrderingMatch", 3), ("caseIgnoreSubstringsMatch", 4), ("caseExactMatch", 5),
     ("caseExactOrderingMatch", 6), ("caseExactSubstringsMatch", 7), ("numericStringMatch", 8),
     ("numericStringOrderingMatch", 9), ("numericStringSubstringsMatch", 10),
     ("caseIgnoreListMatch", 11), ("caseIgnoreListSubstringsMatch", 12), ("booleanMatch", 13),
     ("integerMatch", 14), ("integerOrderingMatch", 15), ("bitStringMatch", 16),
     ("octetStringMatch", 17), ("octetStringOrderingMatch", 18), ("telephoneNumberMatch", 20),
     ("telephoneNumberSubstringsMatch", 21), ("presentationAddressMatch", 22),
     ("uniqueMemberMatch", 23), ("protocolInformationMatch", 24), ("generalizedTimeMatch", 27),
     ("generalizedTimeOrderingMatch", 28), ("integerFirstComponentMatch", 29),
     ("objectIdentifierFirstComponentMatch", 30), ("directoryStringFirstComponentMatch", 31),
     ("wordMatch", 32), ("keywordMatch", 33), ("certificateExactMatch", 34),
     ("certificateMatch", 35), ("certificatePairExactMatch", 36), ("certificatePairMatch", 37),
     ("certificateListExactMatch", 38), ("certificateListMatch", 39),
     ("algorithmIdentifierMatch", 40), ("storedPrefixMatch", 41)]

/-- Attributes that a directory keeps about an entry. -/
def operationalAttributes : List OidName :=
  branch [2, 5, 18]
    [("createTimestamp", 1), ("modifyTimestamp", 2), ("creatorsName", 3), ("modifiersName", 4),
     ("administrativeRole", 5), ("subtreeSpecification", 6), ("collectiveExclusions", 7),
     ("subschemaSubentry", 10), ("collectiveAttributeSubentries", 12)]

/-- Attributes that describe what a directory accepts. -/
def schemaAttributes : List OidName :=
  branch [2, 5, 21]
    [("dITStructureRules", 1), ("dITContentRules", 2), ("matchingRules", 4),
     ("attributeTypes", 5), ("objectClasses", 6), ("nameForms", 7), ("matchingRuleUse", 8),
     ("structuralObjectClass", 9), ("governingStructureRule", 10)]

/-- Roles of the areas of a directory. -/
def administrativeRoles : List OidName :=
  branch [2, 5, 23]
    [("autonomousArea", 1), ("accessControlSpecificArea", 2), ("accessControlInnerArea", 3),
     ("subschemaAdminSpecificArea", 4), ("collectiveAttributeSpecificArea", 5),
     ("collectiveAttributeInnerArea", 6)]

/-- What a directory server says about itself. -/
def rootAttributes : List OidName :=
  branch [1, 3, 6, 1, 4, 1, 1466, 101, 120]
    [("namingContexts", 5), ("altServer", 6), ("supportedExtension", 7),
     ("supportedControl", 13), ("supportedSASLMechanisms", 14), ("supportedLDAPVersion", 15),
     ("ldapSyntaxes", 16), ("extensibleObject", 111)]

/-- Entries that vanish by themselves. -/
def dynamicEntries : List OidName :=
  branch [1, 3, 6, 1, 4, 1, 1466, 101, 119]
    [("dynamicObject", 2), ("entryTtl", 3), ("dynamicSubtrees", 4)]

/-- Rules for comparing ASCII texts. -/
def asciiMatchingRules : List OidName :=
  branch [1, 3, 6, 1, 4, 1, 1466, 109, 114]
    [("caseExactIA5Match", 1), ("caseIgnoreIA5Match", 2), ("caseIgnoreIA5SubstringsMatch", 3)]

/-- Rules for comparing parts of values. -/
def componentMatchingRules : List OidName :=
  branch [1, 2, 36, 79672281, 1, 13]
    [("componentFilterMatch", 2), ("rdnMatch", 3), ("presentMatch", 5),
     ("allComponentsMatch", 6), ("directoryComponentsMatch", 7)]

/-- Identifiers of entries that never repeat, and their comparison. -/
def uniqueIdentifiers : List OidName :=
  branch [1, 3, 6, 1, 1, 16]
    [("uuidMatch", 2), ("uuidOrderingMatch", 3), ("entryUUID", 4)]

/-- Names under arcs of their own. -/
def otherDirectoryNames : List OidName :=
  [⟨"certificationAuthority-V2", .ofArcs [2, 5, 6, 16, 2]⟩, ⟨"subentry", .ofArcs [2, 5, 17, 0]⟩,
   ⟨"subschema", .ofArcs [2, 5, 20, 1]⟩, ⟨"collectiveAttributeSubentry", .ofArcs [2, 5, 20, 2]⟩,
   ⟨"uidObject", .ofArcs [1, 3, 6, 1, 1, 3, 1]⟩, ⟨"entryDN", .ofArcs [1, 3, 6, 1, 1, 20]⟩,
   ⟨"dcObject", .ofArcs [1, 3, 6, 1, 4, 1, 1466, 344]⟩,
   ⟨"domainNameForm", .ofArcs [1, 3, 6, 1, 4, 1, 1466, 345]⟩,
   ⟨"supportedFeatures", .ofArcs [1, 3, 6, 1, 4, 1, 4203, 1, 3, 5]⟩]

/-- The shared names of directories. -/
def directoryNames : List OidName :=
  attributes ++ collectiveAttributes ++ entryClasses ++ matchingRules ++ operationalAttributes
    ++ schemaAttributes ++ administrativeRoles ++ rootAttributes ++ dynamicEntries
    ++ asciiMatchingRules ++ componentMatchingRules ++ uniqueIdentifiers ++ otherDirectoryNames

end OidName

end SealedKeys
