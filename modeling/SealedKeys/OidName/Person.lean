import SealedKeys.OidName.Basic

/-!
Names for what a directory holds about persons: how they work, are reached and plan their time.
-/

namespace SealedKeys

namespace OidName

/-- Attributes of persons in organizations. -/
def personAttributes : List OidName :=
  branch [2, 16, 840, 1, 113730, 3, 1]
    [("carLicense", 1), ("departmentNumber", 2), ("employeeNumber", 3), ("employeeType", 4),
     ("ref", 34), ("preferredLanguage", 39), ("userSMIMECertificate", 40), ("userPKCS12", 216),
     ("displayName", 241)]

/-- Classes of entries for persons, and for entries found elsewhere. -/
def personClasses : List OidName :=
  branch [2, 16, 840, 1, 113730, 3, 2]
    [("inetOrgPerson", 2), ("referral", 6)]

/-- Where the calendar of a person is found. -/
def calendarAttributes : List OidName :=
  branch [1, 2, 840, 113556, 1, 4]
    [("calCalURI", 478), ("calFBURL", 479), ("calCAPURI", 480), ("calCalAdrURI", 481),
     ("calOtherCalURIs", 482), ("calOtherFBURLs", 483), ("calOtherCAPURIs", 484),
     ("calOtherCalAdrURIs", 485)]

/-- Attributes of users of voice mail. -/
def voiceMailAttributes : List OidName :=
  branch [1, 3, 6, 1, 1, 11, 2]
    [("vPIMTelephoneNumber", 1), ("vPIMRfc822Mailbox", 2), ("vPIMSpokenName", 3),
     ("vPIMSupportedUABehaviors", 4), ("vPIMSupportedAudioMediaTypes", 5),
     ("vPIMSupportedMessageContext", 6), ("vPIMTextName", 7), ("vPIMExtendedAbsenceStatus", 8),
     ("vPIMMaxMessageSize", 9), ("vPIMSubMailboxes", 10)]

/-- Names for users of instant messages. -/
def messagingNames : List OidName :=
  branch [1, 3, 6, 1, 1, 23]
    [("JIDObject", 1), ("jid", 2)]

/-- Classes of entries for providers of certified mail. -/
def certifiedMailClasses : List OidName :=
  branch [1, 3, 6, 1, 4, 1, 16572, 2, 1]
    [("LDIFLocationURLObject", 1), ("provider", 2)]

/-- Attributes of providers of certified mail. -/
def certifiedMailAttributes : List OidName :=
  branch [1, 3, 6, 1, 4, 1, 16572, 2, 2]
    [("providerCertificateHash", 1), ("providerCertificate", 2), ("providerName", 3),
     ("mailReceipt", 4), ("managedDomains", 5), ("LDIFLocationURL", 6), ("providerUnit", 7)]

/-- Names under arcs of their own. -/
def otherPersonNames : List OidName :=
  [⟨"calEntry", .ofArcs [1, 2, 840, 113556, 1, 5, 87]⟩,
   ⟨"vPIMUser", .ofArcs [1, 3, 6, 1, 1, 11, 1, 1]⟩,
   ⟨"labeledURI", .ofArcs [1, 3, 6, 1, 4, 1, 250, 1, 57]⟩,
   ⟨"labeledURIObject", .ofArcs [1, 3, 6, 1, 4, 1, 250, 3, 15]⟩]

/-- The names for persons. -/
def personNames : List OidName :=
  personAttributes ++ personClasses ++ calendarAttributes ++ voiceMailAttributes
    ++ messagingNames ++ certifiedMailClasses ++ certifiedMailAttributes ++ otherPersonNames

end OidName

end SealedKeys
