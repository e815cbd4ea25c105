import SealedKeys.Certificate.Name.Parser
import SealedKeys.Certificate.Signer

/-!
Issuing certificates: one for an authority's own key, and those the authority gives to others.

Everything that can go wrong with a request is found before the signer is asked: first the
dates, then the common name, then the alternative names. A request that passes sends the signer
one message.
-/

namespace SealedKeys

namespace Certificate

variable {State : Type}

/-- What a certificate takes from the moment at which it is issued. -/
structure Stamp where
  now : Time
  /-- Sixteen bytes drawn for the serial number. -/
  serial : Vector UInt8 16

/-- The names and the lifetime that a certificate is requested for. -/
structure LeafRequest where
  commonName : String := ""
  dnsNames : List String := []
  ipAddresses : List IpAddress := []
  /-- How many seconds the certificate is valid, a day if nothing else is said. -/
  validity : Nat := 24 * 60 * 60
  deriving DecidableEq, Repr

/-- Why a request has no DER form. -/
inductive EncodingFault where
  /-- The certificate would be valid beyond the end of the calendar. -/
  | time
  /-- The common name is not the value of an attribute. -/
  | name (fault : Name.Fault)
  /-- A domain name has characters other than ASCII. -/
  | dnsName
  deriving DecidableEq, Repr

/-- The wording of an encoding fault. -/
def EncodingFault.message : EncodingFault → String
  | .time => "malformed ASN.1 DER value for GeneralizedTime"
  | .name fault => fault.message
  | .dnsName => "malformed ASN.1 DER value for IA5String"

/-- An encoding fault as callers see it. -/
def EncodingFault.error (fault : EncodingFault) : Error :=
  .certificate ("DER: " ++ fault.message)

/-- The serial number for drawn bytes: positive, and without a zero byte in front. -/
def serialOf (drawn : Bytes) : Bytes :=
  match drawn with
  | [] => []
  | first :: rest => ((first &&& 0x7f) ||| 0x01) :: rest

/-- The name for a common name. -/
def subjectName (commonName : String) : Except EncodingFault Name :=
  (Name.ofCommonName commonName).mapError .name

/-- The end of a validity of the given number of seconds.

Here every number of seconds is taken, and an end beyond the calendar is one fault, however far
beyond. Where the present moment comes from a clock, an end that the clock cannot count to, which is
some `2 ^ 63` seconds away, stops the program before that fault is told. -/
def endOf (now : Time) (validity : Nat) : Except EncodingFault Time :=
  match now.after? validity with
  | some notAfter => .ok notAfter
  | none => .error .time

/-- A domain name, which must consist of ASCII characters. -/
def dnsName (text : String) : Except EncodingFault AlternativeName :=
  if text.toList.all fun char => char.toNat < 128 then .ok (.dns text) else .error .dnsName

/-- The alternative names of a request: the domain names, then the addresses, each in the order
of the request. -/
def alternativeNames (request : LeafRequest) : Except EncodingFault (List AlternativeName) := do
  let names ← request.dnsNames.mapM dnsName
  return names ++ request.ipAddresses.map .ip

/-- The body of an authority's certificate for its own key. -/
def authorityBody (stamp : Stamp) (publicKey : PublicKey) (commonName : String)
    (validity : Nat) : Except EncodingFault Body := do
  let notAfter ← endOf stamp.now validity
  let name ← subjectName commonName
  return {
    serial := serialOf stamp.serial.toList
    issuer := name
    notBefore := stamp.now
    notAfter := notAfter
    subject := name
    publicKey := publicKey
    extensions :=
      [.subjectKeyIdentifier publicKey, .basicConstraints true, .authorityKeyUsage] }

/-- The body of a certificate that an authority gives to the holder of another key. -/
def leafBody (stamp : Stamp) (issuer : Name) (issuerKey subjectKey : PublicKey)
    (request : LeafRequest) : Except EncodingFault Body := do
  let notAfter ← endOf stamp.now request.validity
  let subject ← subjectName request.commonName
  let names ← alternativeNames request
  let alternatives :=
    if names.isEmpty then [] else [Extension.subjectAlternativeNames subject names]
  return {
    serial := serialOf stamp.serial.toList
    issuer := issuer
    notBefore := stamp.now
    notAfter := notAfter
    subject := subject
    publicKey := subjectKey
    extensions :=
      [.subjectKeyIdentifier subjectKey, .authorityKeyIdentifier issuerKey,
        .basicConstraints false, .leafKeyUsage]
      ++ alternatives
      ++ [.extendedKeyUsage [Extension.serverAuthentication, Extension.clientAuthentication]] }

/-- Has a body signed. A failure to sign is told as text. -/
def attest (signer : Signer State) (draws : Draws) (body : Body) :
    Action State Error Certificate := do
  let signature ← (signer.sign draws body.element).mapError fun error =>
    Error.certificate ("signature error: " ++ error.message)
  return ⟨body, signature⟩

/-- Issues an authority's certificate for the signer's own key. -/
def issueAuthority (stamp : Stamp) (draws : Draws) (signer : Signer State)
    (commonName : String) (validity : Nat) : Action State Error Certificate := do
  let body ← Action.ofExcept
    ((authorityBody stamp (.rsa signer.key) commonName validity).mapError EncodingFault.error)
  let certificate ← attest signer draws body
  Action.log (.issuedAuthority commonName)
  return certificate

/-- Issues a certificate for another key. The issuer is whom the authority's certificate names;
the key identifier of the authority is that of the signer's key. -/
def issueLeaf (stamp : Stamp) (draws : Draws) (signer : Signer State)
    (authority : Certificate) (subjectKey : PublicKey) (request : LeafRequest) :
    Action State Error Certificate := do
  let body ← Action.ofExcept
    ((leafBody stamp authority.body.subject (.rsa signer.key) subjectKey request).mapError
      EncodingFault.error)
  let certificate ← attest signer draws body
  Action.log (.issuedLeaf request.commonName)
  return certificate

end Certificate

end SealedKeys
