import SealedKeys.OidName.Basic

/-!
Names of the pilot directory and of the gateways between mail systems that used it.
-/

namespace SealedKeys

namespace OidName

/-- Attributes of the pilot directory. -/
def pilotAttributes : List OidName :=
  branch [0, 9, 2342, 19200300, 100, 1]
    [("uid", 1), ("userId", 1), ("textEncodedORAddress", 2), ("mail", 3), ("RFC822Mailbox", 3),
     ("info", 4), ("drink", 5), ("favouriteDrink", 5), ("roomNumber", 6), ("photo", 7),
     ("userClass", 8), ("host", 9), ("manager", 10), ("documentIdentifier", 11),
     ("documentTitle", 12), ("documentVersion", 13), ("documentAuthor", 14),
     ("documentLocation", 15), ("homePhone", 20), ("homeTelephone", 20), ("secretary", 21),
     ("otherMailbox", 22), ("lastModifiedTime", 23), ("lastModifiedBy", 24), ("dc", 25),
     ("domainComponent", 25), ("aRecord", 26), ("mDRecord", 27), ("mXRecord", 28), ("nSRecord", 29),
     ("sOARecord", 30), ("cNAMERecord", 31), ("associatedDomain", 37), ("associatedName", 38),
     ("homePostalAddress", 39), ("personalTitle", 40), ("mobile", 41),
     ("mobileTelephoneNumber", 41), ("pager", 42), ("pagerTelephoneNumber", 42), ("co", 43),
     ("friendlyCountryName", 43), ("uniqueIdentifier", 44), ("organizationalStatus", 45),
     ("janetMailbox", 46), ("mailPreferenceOption", 47), ("buildingName", 48), ("dSAQuality", 49),
     ("singleLevelQuality", 50), ("subtreeMinimumQuality", 51), ("subtreeMaximumQuality", 52),
     ("personalSignature", 53), ("dITRedirect", 54), ("audio", 55), ("documentPublisher", 56),
     ("jpegPhoto", 60)]

/-- Classes of entries of the pilot directory. -/
def pilotClasses : List OidName :=
  branch [0, 9, 2342, 19200300, 100, 4]
    [("pilotObject", 3), ("pilotPerson", 4), ("account", 5), ("document", 6), ("room", 7),
     ("documentSeries", 8), ("domain", 13), ("RFC822LocalPart", 14), ("dNSDomain", 15),
     ("domainRelatedObject", 17), ("friendlyCountry", 18), ("simpleSecurityObject", 19),
     ("pilotOrganization", 20), ("pilotDSA", 21), ("qualityLabelledData", 22)]

/-- Tables that map mail addresses, as classes of entries. -/
def gatewayClasses : List OidName :=
  branch [1, 3, 6, 1, 4, 1, 453, 7, 1]
    [("subtree", 1), ("rFC822ToX400Mapping", 1), ("table", 2), ("x400ToRFC822Mapping", 2),
     ("tableEntry", 3), ("omittedORAddressComponent", 3), ("mixerGateway", 4),
     ("textTableEntry", 4), ("distinguishedNameTableEntry", 5)]

/-- Attributes of the tables that map mail addresses. -/
def gatewayAttributes : List OidName :=
  branch [1, 3, 6, 1, 4, 1, 453, 7, 2]
    [("textTableKey", 1), ("textTableValue", 2), ("associatedX400Gateway", 3),
     ("distinguishedNameTableKey", 3), ("associatedORAddress", 6), ("oRAddressComponentType", 7),
     ("associatedInternetGateway", 8), ("mcgamTables", 9)]

/-- The names of the pilot directory. -/
def pilotNames : List OidName :=
  pilotAttributes ++ pilotClasses ++ gatewayClasses ++ gatewayAttributes

end OidName

end SealedKeys
